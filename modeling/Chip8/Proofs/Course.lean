import Chip8.Console.Operation
import Mathlib.Tactic.Common

/-! The course of a run: every operation of a host is a sequence of small moves, of which a cycle is
one. What each move preserves, every run preserves at each of its points. -/

namespace Chip8

inductive Move
  | cycle
  | tick
  | keys (keypad : Keypad)
  | clean
  | write (data : List UInt8)

/-- The moves that an operation may be made of. -/
def Operation.Makes : Operation → Move → Prop
  | .step, .cycle | .run _, .cycle | .playFrame, .cycle => True
  | .tick, .tick | .playFrame, .tick => True
  | .press _, .keys _ | .release _, .keys _ | .setKeypad _, .keys _ => True
  | .poll, .clean => True
  | .load _, .write _ | .loadFile _ _, .write _ => True
  | _, _ => False

namespace Console

/-- A halted console takes part in every move but a cycle. -/
def move (c : Console) : Move → Console
  | .cycle => if c.halted then c else c.advance.2
  | .tick => c.tick
  | .keys keypad => c.withCore fun d => { d with keypad }
  | .clean => c.withCore fun d => { d with panel := d.panel.take.2 }
  | .write data => c.withCore fun d => { d with ram := d.ram.blit c.settings.programAddress data }

def moveAll (c : Console) (ms : List Move) : Console :=
  ms.foldl move c

def keysMoves {ε : Type} : Except ε Keypad → List Move
  | .ok keypad => [.keys keypad]
  | .error _ => []

def loadMoves (c : Console) (data : List UInt8) : List Move :=
  if c.settings.programAddress + data.length ≤ 4096 then [.write data] else []

/-- The moves that an operation is made of; a refused one is made of none. -/
def moves (c : Console) : Operation → List Move
  | .step => [.cycle]
  | .run count => .replicate count.toNat .cycle
  | .playFrame =>
    if c.halted then [] else .replicate c.settings.frameCycles .cycle ++ [.tick]
  | .tick => [.tick]
  | .press key => keysMoves (c.core.keypad.set key true)
  | .release key => keysMoves (c.core.keypad.set key false)
  | .setKeypad states => keysMoves (Keypad.ofStates states)
  | .poll => if c.core.panel.dirty then [.clean] else []
  | .load data => c.loadMoves data
  | .loadFile read path =>
    match readRom read path with
    | .ok data => c.loadMoves data
    | .error _ => []

def course (c : Console) : List Operation → List Move
  | [] => []
  | op :: ops => c.moves op ++ (c.perform op).console.course ops

def gain (c : Console) : Move → Nat
  | .cycle => if c.halted then 0 else if c.advance.1 then 1 else 0
  | _ => 0

def completed (c : Console) : List Move → Nat
  | [] => 0
  | m :: ms => c.gain m + (c.move m).completed ms

variable {c : Console}

lemma eq_of_boot {s : Settings} (h : boot s = .ok c) : ∃ ram, c = ⟨{
    settings := s
    ram := ram
    bank := RegisterBank.start s.programAddress
    stack := CallStack.empty
    panel := Panel.fresh
    timers := Countdown.zero
    keypad := Keypad.released }, none⟩ := by
  rw [boot, Core.boot] at h
  cases hl : (Ram.zero : Ram 4096).load s.fontAddress s.font.toList with
  | error f =>
    rw [hl] at h
    cases h
  | ok ram =>
    rw [hl] at h
    exact ⟨ram, (Except.ok.inj h).symm⟩

lemma moveAll_append (c : Console) (ms ns : List Move) :
    c.moveAll (ms ++ ns) = (c.moveAll ms).moveAll ns :=
  List.foldl_append

/-- What moves preserve, counting completed cycles, sequences of moves preserve. -/
lemma moveAll_induction {P : Nat → Console → Prop}
    (hm : ∀ n c m, P n c → P (n + c.gain m) (c.move m)) (ms : List Move) {n : Nat} {c : Console}
    (h : P n c) : P (n + c.completed ms) (c.moveAll ms) := by
  induction ms generalizing n c with
  | nil => exact h
  | cons m ms ih =>
    rw [completed, ← Nat.add_assoc]
    exact ih (hm n c m h)

lemma advance_of_done {d : Core} (h : c.core.cycle = .done d) :
    c.advance = (true, { c with core := d }) := by
  rw [advance, h]

lemma advance_of_failed {d : Core} {f : Fault} (h : c.core.cycle = .failed d f) :
    c.advance = (false, ⟨d, some f⟩) := by
  rw [advance, h]

lemma advance_eq (c : Console) :
    c.advance =
      (c.core.cycle.cause?.isNone, ⟨c.core.cycle.core, c.core.cycle.cause?.or c.fault⟩) := by
  rw [advance]
  cases c.core.cycle <;> rfl

lemma core_advance (c : Console) : c.advance.2.core = c.core.cycle.core := by
  rw [advance]
  cases c.core.cycle <;> rfl

lemma halted_of_fault {f : Fault} (h : c.fault = some f) : c.halted = true := by
  rw [halted, h]
  rfl

lemma halted_of_running (h : c.fault = none) : ¬ c.halted = true := by
  rw [halted, h]
  exact Bool.false_ne_true

lemma move_cycle_of_fault {f : Fault} (h : c.fault = some f) : c.move .cycle = c :=
  if_pos (halted_of_fault h)

lemma move_cycle_of_running (h : c.fault = none) : c.move .cycle = c.advance.2 :=
  if_neg (halted_of_running h)

lemma gain_cycle_of_fault {f : Fault} (h : c.fault = some f) : c.gain .cycle = 0 :=
  if_pos (halted_of_fault h)

lemma gain_cycle_of_done {d : Core} (h : c.fault = none) (hd : c.core.cycle = .done d) :
    c.gain .cycle = 1 := by
  rw [gain, if_neg (halted_of_running h), advance_of_done hd]
  rfl

lemma gain_cycle_of_failed {d : Core} {f : Fault} (h : c.fault = none)
    (hd : c.core.cycle = .failed d f) : c.gain .cycle = 0 := by
  rw [gain, if_neg (halted_of_running h), advance_of_failed hd]
  rfl

lemma moveAll_cycles_of_fault {f : Fault} (h : c.fault = some f) (n : Nat) :
    c.moveAll (.replicate n .cycle) = c := by
  induction n with
  | zero => rfl
  | succ n ih =>
    rw [List.replicate_succ, moveAll, List.foldl_cons, move_cycle_of_fault h]
    exact ih

lemma step_console (c : Console) : c.step.console = c.move .cycle := by
  cases h : c.fault with
  | none =>
    rw [move_cycle_of_running h, step, h]
  | some f =>
    rw [move_cycle_of_fault h, step, h]
    rfl

lemma extend_console (s : Stretch) (n : Nat) (h : s.console.fault = none) :
    (s.extend n).console = s.console.moveAll (.replicate n .cycle) := by
  induction n generalizing s with
  | zero => rfl
  | succ n ih =>
    rw [List.replicate_succ, moveAll, List.foldl_cons, move_cycle_of_running h]
    cases hc : s.console.core.cycle with
    | done d =>
      simp only [Stretch.extend, advance_of_done hc]
      exact ih _ h
    | failed d f =>
      -- the stretch ends here; the cycles left over find the console halted
      simp only [Stretch.extend, advance_of_failed hc]
      exact (moveAll_cycles_of_fault rfl n).symm

lemma run_console (c : Console) (count : Int) :
    (c.run count).console = c.moveAll (.replicate count.toNat .cycle) := by
  by_cases hn : count ≤ 0
  · rw [run, if_pos hn, Int.toNat_of_nonpos hn]
    rfl
  · rw [run, if_neg hn]
    cases h : c.fault with
    | none => exact extend_console _ _ h
    | some f => exact (moveAll_cycles_of_fault h _).symm

lemma run_of_fault {f : Fault} {count : Int} (h : c.fault = some f) (hn : 0 < count) :
    c.run count = c.answer (.error (.fault f)) := by
  rw [run, if_neg (by omega), h]

lemma run_result_of_running (h : c.fault = none) (count : Int) :
    ∃ n, (c.run count).result = .ok n := by
  rw [run]
  split
  · exact ⟨0, rfl⟩
  · rw [h]
    exact ⟨_, rfl⟩

lemma playFrame_console (c : Console) :
    c.playFrame.console = c.moveAll (c.moves .playFrame) := by
  cases h : c.fault with
  | some f =>
    have hm : c.moves .playFrame = [] := if_pos (halted_of_fault h)
    rw [hm, playFrame, run_of_fault h (Int.natCast_pos.mpr c.settings.frameCycles_pos)]
    rfl
  | none =>
    have hm : c.moves .playFrame = .replicate c.settings.frameCycles .cycle ++ [.tick] :=
      if_neg (halted_of_running h)
    obtain ⟨n, hr⟩ := run_result_of_running h c.settings.frameCycles
    simp only [hm, playFrame, hr, moveAll_append, run_console]
    rfl

lemma load_of_le {data : List UInt8} (h : c.settings.programAddress + data.length ≤ 4096) :
    c.load data = ⟨c.move (.write data), .ok (),
      [.wrote data.length c.settings.programAddress, .romLoaded data.length]⟩ := by
  have hc : Ram.Covers 4096 c.settings.programAddress data.length := by omega
  have hs : c.store c.settings.programAddress data =
      ⟨c.move (.write data), .ok (), [.wrote data.length c.settings.programAddress]⟩ := by
    rw [store, Core.store, Ram.load, if_pos hc]
    rfl
  rw [load, if_neg (by rw [Settings.room]; omega), hs]
  rfl

lemma load_of_lt {data : List UInt8} (h : ¬ c.settings.programAddress + data.length ≤ 4096) :
    c.load data = c.answer (.error (.romTooLarge data.length c.settings.room)) :=
  if_pos (by rw [Settings.room]; omega)

lemma load_console (c : Console) (data : List UInt8) :
    (c.load data).console = c.moveAll (c.loadMoves data) := by
  by_cases h : c.settings.programAddress + data.length ≤ 4096
  · rw [loadMoves, if_pos h, load_of_le h]
    rfl
  · rw [loadMoves, if_neg h, load_of_lt h]
    rfl

lemma setKey_console (c : Console) (key : Int) (down : Bool) :
    (c.setKey key down).console = c.moveAll (keysMoves (c.core.keypad.set key down)) := by
  rw [setKey]
  cases c.core.keypad.set key down <;> rfl

lemma perform_console (c : Console) (op : Operation) :
    (c.perform op).console = c.moveAll (c.moves op) := by
  cases op with
  | step => exact c.step_console
  | run count => exact c.run_console count
  | playFrame => exact c.playFrame_console
  | tick => rfl
  | press key => exact c.setKey_console key true
  | release key => exact c.setKey_console key false
  | setKeypad states =>
    change (c.setKeypad states).console = c.moveAll (keysMoves (Keypad.ofStates states))
    rw [setKeypad]
    cases Keypad.ofStates states <;> rfl
  | poll =>
    change c.poll.2 = c.moveAll (if c.core.panel.dirty then [.clean] else [])
    rw [poll]
    split <;> rfl
  | load data => exact c.load_console data
  | loadFile read path =>
    cases h : readRom read path with
    | ok data =>
      simp only [perform, loadFile, moves, h]
      exact c.load_console data
    | error refusal =>
      simp only [perform, loadFile, moves, h]
      rfl

lemma mem_keysMoves {ε : Type} {r : Except ε Keypad} {m : Move} (h : m ∈ keysMoves r) :
    ∃ keypad, m = .keys keypad := by
  cases r with
  | ok keypad => exact ⟨keypad, List.mem_singleton.mp h⟩
  | error e => exact absurd h List.not_mem_nil

lemma mem_loadMoves {data : List UInt8} {m : Move} (h : m ∈ c.loadMoves data) :
    m = .write data := by
  rw [loadMoves] at h
  split at h
  · exact List.mem_singleton.mp h
  · exact absurd h List.not_mem_nil

lemma makes_of_mem_moves {op : Operation} {m : Move} (h : m ∈ c.moves op) : op.Makes m := by
  cases op with
  | step | tick =>
    obtain rfl := List.mem_singleton.mp h
    trivial
  | run count =>
    obtain rfl := List.eq_of_mem_replicate h
    trivial
  | playFrame =>
    rw [moves] at h
    split at h
    · exact absurd h List.not_mem_nil
    · rcases List.mem_append.mp h with h | h
      · obtain rfl := List.eq_of_mem_replicate h
        trivial
      · obtain rfl := List.mem_singleton.mp h
        trivial
  | press key | release key | setKeypad states =>
    obtain ⟨keypad, rfl⟩ := mem_keysMoves h
    trivial
  | poll =>
    rw [moves] at h
    split at h
    · obtain rfl := List.mem_singleton.mp h
      trivial
    · exact absurd h List.not_mem_nil
  | load data =>
    obtain rfl := mem_loadMoves h
    trivial
  | loadFile read path =>
    rw [moves] at h
    split at h
    · obtain rfl := mem_loadMoves h
      trivial
    · exact absurd h List.not_mem_nil

lemma exists_makes_of_mem_course {ops : List Operation} {m : Move} (h : m ∈ c.course ops) :
    ∃ op ∈ ops, op.Makes m := by
  induction ops generalizing c with
  | nil => exact absurd h List.not_mem_nil
  | cons op ops ih =>
    rcases List.mem_append.mp h with h | h
    · exact ⟨op, List.mem_cons_self, makes_of_mem_moves h⟩
    · obtain ⟨o, ho, hm⟩ := ih h
      exact ⟨o, List.mem_cons_of_mem op ho, hm⟩

lemma course_append (c : Console) (ops later : List Operation) :
    c.course (ops ++ later) = c.course ops ++ (c.performAll ops).course later := by
  induction ops generalizing c with
  | nil => rfl
  | cons op ops ih =>
    rw [List.cons_append, course, ih, course, List.append_assoc]
    rfl

lemma performAll_append (c : Console) (ops later : List Operation) :
    c.performAll (ops ++ later) = (c.performAll ops).performAll later :=
  List.foldl_append

lemma replies_append (c : Console) (ops later : List Operation) :
    c.replies (ops ++ later) = c.replies ops ++ (c.performAll ops).replies later := by
  induction ops generalizing c with
  | nil => rfl
  | cons op ops ih =>
    rw [List.cons_append, replies, ih, replies]
    rfl

lemma moveAll_course (c : Console) (ops : List Operation) :
    c.moveAll (c.course ops) = c.performAll ops := by
  induction ops generalizing c with
  | nil => rfl
  | cons op ops ih =>
    rw [course, moveAll_append, ← perform_console, ih]
    rfl

end Console

end Chip8
