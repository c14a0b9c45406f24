import Chip8.Proofs.Residue
import Chip8.Proofs.Stretches

/-! After a fault. A console that has captured one keeps it and executes nothing any more; only its
memory, timers, keys and the mark of its panel are still in the host's hands. In all its life the
fault is recorded once. -/

namespace Chip8

namespace Operation

def executes : Operation → Prop
  | .step | .playFrame => True
  | .run count => 1 ≤ count
  | _ => False

def loads : Operation → Prop
  | .load _ | .loadFile _ _ => True
  | _ => False

def setsKeys : Operation → Prop
  | .press _ | .release _ | .setKeypad _ => True
  | _ => False

end Operation

namespace Console

open Notice

/-- What no operation changes any more once a fault is captured. -/
structure Frozen (c d : Console) : Prop where
  fault : d.fault = c.fault
  bank : d.core.bank = c.core.bank
  stack : d.core.stack = c.core.stack
  screen : d.core.panel.screen = c.core.panel.screen

/-- Cycles are refused for `f`, and what is left changes only by the operations meant for it. -/
structure Refuses (c : Console) (f : Fault) : Prop where
  cycles : ∀ op : Operation, op.executes → c.perform op = c.answer (.error (.fault f))
  idle : ∀ count ≤ 0, c.perform (.run count) = c.answer (.ok (.count 0))
  memory : ∀ op, (c.perform op).console.core.ram ≠ c.core.ram →
    op.loads ∧ (c.perform op).result = .ok .nothing
  timers : ∀ op, (c.perform op).console.core.timers ≠ c.core.timers → op = .tick
  keys : ∀ op, (c.perform op).console.core.keypad ≠ c.core.keypad → op.setsKeys

/-- The ways in which an operation may change a console that has captured a fault. -/
inductive Touches (c : Console) : Operation → Reply Answer → Prop
  | nothing {op : Operation} {r : Reply Answer} : r.console = c → c.Touches op r
  | timers {r : Reply Answer} : r.console = c.tick → c.Touches .tick r
  | mark {r : Reply Answer} : r.console = c.move .clean → c.Touches .poll r
  | keys {op : Operation} {r : Reply Answer} (keypad : Keypad) : op.setsKeys →
      r.console = c.move (.keys keypad) → c.Touches op r
  | memory {op : Operation} {r : Reply Answer} (data : List UInt8) : op.loads →
      r.result = .ok .nothing → r.console = c.move (.write data) → c.Touches op r

variable {c d e : Console} {f : Fault}

lemma load_touches (op : Operation) (h : op.loads) (data : List UInt8) :
    c.Touches op ((c.load data).map fun _ => .nothing) := by
  by_cases hl : c.settings.programAddress + data.length ≤ 4096
  · rw [load_of_le hl]
    exact .memory data h rfl rfl
  · rw [load_of_lt hl]
    exact .nothing rfl

lemma setKey_touches (op : Operation) (h : op.setsKeys) (key : Int) (down : Bool) :
    c.Touches op ((c.setKey key down).map fun _ => .nothing) := by
  rw [setKey]
  cases c.core.keypad.set key down with
  | ok keypad => exact .keys keypad h rfl
  | error f => exact .nothing rfl

lemma touches_perform (h : c.fault = some f) (op : Operation) : c.Touches op (c.perform op) := by
  cases op with
  | step => exact .nothing (c.step_console.trans (move_cycle_of_fault h))
  | run count => exact .nothing ((c.run_console count).trans (moveAll_cycles_of_fault h _))
  | playFrame =>
    have hm : c.moves .playFrame = [] := if_pos (halted_of_fault h)
    exact .nothing (c.playFrame_console.trans (congrArg c.moveAll hm))
  | tick => exact .timers rfl
  | press key => exact setKey_touches (.press key) trivial key true
  | release key => exact setKey_touches (.release key) trivial key false
  | setKeypad states =>
    change c.Touches _ ((c.setKeypad states).map fun _ => .nothing)
    rw [setKeypad]
    cases Keypad.ofStates states with
    | ok keypad => exact .keys keypad trivial rfl
    | error r => exact .nothing rfl
  | poll =>
    by_cases hd : c.core.panel.dirty = true
    · refine .mark ?_
      change c.poll.2 = _
      rw [poll, if_pos hd]
      rfl
    · refine .nothing ?_
      change c.poll.2 = c
      rw [poll, if_neg hd]
  | load data => exact load_touches (.load data) trivial data
  | loadFile read path =>
    change c.Touches _ ((c.loadRead (readRom read path)).map fun _ => .nothing)
    cases readRom read path with
    | ok data => exact load_touches (.loadFile read path) trivial data
    | error r => exact .nothing rfl

lemma Frozen.refl (c : Console) : c.Frozen c :=
  ⟨rfl, rfl, rfl, rfl⟩

lemma Frozen.trans (h : c.Frozen d) (k : d.Frozen e) : c.Frozen e where
  fault := k.fault.trans h.fault
  bank := k.bank.trans h.bank
  stack := k.stack.trans h.stack
  screen := k.screen.trans h.screen

lemma frozen_perform (h : c.fault = some f) (op : Operation) : c.Frozen (c.perform op).console := by
  cases touches_perform h op with
  | nothing hr => rw [hr]; exact .refl c
  | timers hr | mark hr | keys _ _ hr | memory _ _ _ hr =>
    rw [hr]
    exact ⟨rfl, rfl, rfl, rfl⟩

lemma frozen_performAll (h : c.fault = some f) (ops : List Operation) :
    c.Frozen (c.performAll ops) := by
  induction ops generalizing c with
  | nil => exact .refl c
  | cons op ops ih =>
    have hp := frozen_perform h op
    exact hp.trans (ih (hp.fault.trans h))

lemma perform_executes (h : c.fault = some f) {op : Operation} (ho : op.executes) :
    c.perform op = c.answer (.error (.fault f)) := by
  cases op with
  | step =>
    rw [perform, step, h]
    rfl
  | run count =>
    rw [perform, run_of_fault h (by rw [Operation.executes] at ho; omega)]
    rfl
  | playFrame =>
    rw [perform, playFrame, run_of_fault h (Int.natCast_pos.mpr c.settings.frameCycles_pos)]
    rfl
  | _ => cases ho

lemma refuses_of_fault (h : c.fault = some f) : c.Refuses f where
  cycles _ ho := perform_executes h ho
  idle count hn := by
    rw [perform, run, if_pos hn]
    rfl
  memory op hm := by
    cases touches_perform h op with
    | memory _ hl hr _ => exact ⟨hl, hr⟩
    | nothing hr | timers hr | mark hr | keys _ _ hr =>
      rw [hr] at hm
      exact absurd rfl hm
  timers op ht := by
    cases touches_perform h op with
    | timers _ => rfl
    | nothing hr | mark hr | keys _ _ hr | memory _ _ _ hr =>
      rw [hr] at ht
      exact absurd rfl ht
  keys op hk := by
    cases touches_perform h op with
    | keys _ ho _ => exact ho
    | nothing hr | timers hr | mark hr | memory _ _ _ hr =>
      rw [hr] at hk
      exact absurd rfl hk

/-- What has been recorded of the fault before a reply and what the reply adds are the record of the
fault that is captured after it. -/
def Recorded {α : Type} (c : Console) (r : Reply α) : Prop :=
  c.fault.toList.map .halted ++ errors r.notices = r.console.fault.toList.map .halted

variable {α β : Type} {r : Reply α}

lemma recorded_of_quiet (hf : r.console.fault = c.fault) (hn : errors r.notices = []) :
    c.Recorded r := by
  rw [Recorded, hf, hn, List.append_nil]

lemma recorded_of_running (h : c.fault = none)
    (hn : errors r.notices = r.console.fault.toList.map .halted) : c.Recorded r := by
  rw [Recorded, h, hn]
  rfl

lemma recorded_executes (h : c.fault = some f) {op : Operation} (ho : op.executes) :
    c.Recorded (c.perform op) := by
  rw [perform_executes h ho]
  exact recorded_of_quiet rfl rfl

lemma recorded_step (h : c.fault = none) : c.Recorded c.step := by
  refine recorded_of_running h ?_
  rw [step, h]
  refine c.errors_advance.trans ?_
  cases hc : c.core.cycle with
  | done d =>
    rw [advance_of_done hc, h]
    rfl
  | failed d f =>
    rw [advance_of_failed hc]
    rfl

lemma recorded_run (h : c.fault = none) {count : Int} (hn : 0 < count) :
    c.Recorded (c.run count) :=
  recorded_of_running h (errors_run h hn)

lemma recorded_playFrame (h : c.fault = none) : c.Recorded c.playFrame := by
  refine recorded_of_running h ?_
  rw [playFrame_of_running h]
  exact errors_of_extends (extends_extend _ _) h rfl

lemma recorded_setKey (c : Console) (key : Int) (down : Bool) : c.Recorded (c.setKey key down) := by
  rw [setKey]
  cases c.core.keypad.set key down <;> exact recorded_of_quiet rfl rfl

lemma recorded_load (c : Console) (data : List UInt8) : c.Recorded (c.load data) := by
  by_cases hl : c.settings.programAddress + data.length ≤ 4096
  · rw [load_of_le hl]
    exact recorded_of_quiet rfl rfl
  · rw [load_of_lt hl]
    exact recorded_of_quiet rfl rfl

lemma recorded_perform (c : Console) (op : Operation) : c.Recorded (c.perform op) := by
  cases op with
  | step =>
    cases h : c.fault with
    | none => exact recorded_step h
    | some f => exact recorded_executes h trivial
  | run count =>
    by_cases hn : 0 < count
    · cases h : c.fault with
      | none => exact recorded_run h hn
      | some f => exact recorded_executes h hn
    · rw [perform, run, if_pos (Int.not_lt.mp hn)]
      exact recorded_of_quiet rfl rfl
  | playFrame =>
    cases h : c.fault with
    | none => exact recorded_playFrame h
    | some f => exact recorded_executes h trivial
  | tick => exact recorded_of_quiet rfl rfl
  | press key => exact c.recorded_setKey key true
  | release key => exact c.recorded_setKey key false
  | setKeypad states =>
    change c.Recorded (c.setKeypad states)
    rw [setKeypad]
    cases Keypad.ofStates states <;> exact recorded_of_quiet rfl rfl
  | poll =>
    refine recorded_of_quiet ?_ rfl
    change c.poll.2.fault = c.fault
    rw [poll]
    split <;> rfl
  | load data => exact c.recorded_load data
  | loadFile read path =>
    change c.Recorded (c.loadRead (readRom read path))
    cases readRom read path with
    | ok data => exact c.recorded_load data
    | error r => exact recorded_of_quiet rfl rfl

lemma errors_log (c : Console) (ops : List Operation) :
    c.fault.toList.map .halted ++ errors (c.log ops) =
      (c.performAll ops).fault.toList.map .halted := by
  induction ops generalizing c with
  | nil => exact List.append_nil _
  | cons op ops ih =>
    have hl : c.log (op :: ops) = (c.perform op).notices ++ (c.perform op).console.log ops :=
      List.flatMap_cons
    rw [hl, errors_append, ← List.append_assoc, c.recorded_perform op, ih]
    rfl

lemma errors_of_boot {s : Settings} (h : boot s = .ok c) (ops : List Operation) :
    errors (bootNotices s ++ c.log ops) = (c.performAll ops).fault.toList.map .halted := by
  have hl := c.errors_log ops
  obtain ⟨ram, rfl⟩ := eq_of_boot h
  exact hl

lemma playFrame_of_captured (h : c.fault = none) (hf : c.playFrame.console.fault = some f) :
    ∃ n d e, n < c.settings.frameCycles ∧ Core.Cycles n c.core d ∧ d.cycle = .failed e f ∧
      c.playFrame.result = .ok n ∧
      c.playFrame.console = ⟨{ e with timers := e.timers.tick }, some f⟩ := by
  rw [playFrame_of_running h] at hf ⊢
  rcases extends_extend ⟨0, c, []⟩ c.settings.frameCycles with
    ⟨d, -, -, hd, -⟩ | ⟨n, d, e, g, hn, hy, hg, ht, hd, -⟩
  · rw [hd] at hf
    exact absurd (h.symm.trans hf) (Option.some_ne_none f).symm
  · rw [hd] at hf ⊢
    rw [ht, Nat.zero_add]
    obtain rfl := Option.some.inj hf
    exact ⟨n, d, e, hn, hy, hg, rfl, rfl⟩

/-- A captured fault stays: cycles are refused for it, registers, stack and screen are frozen, and
the life of a console has exactly one record of it. Only the frame that captures it still ticks. -/
theorem captured_fault_absorbs :
    (∀ {c : Console} {f : Fault}, c.fault = some f → ∀ ops,
      c.Frozen (c.performAll ops) ∧ (c.performAll ops).Refuses f) ∧
    (∀ {s : Settings} {c : Console}, boot s = .ok c → ∀ ops,
      errors (bootNotices s ++ c.log ops) = (c.performAll ops).fault.toList.map .halted ∧
      (errors (bootNotices s ++ c.log ops)).length = if (c.performAll ops).halted then 1 else 0) ∧
    ∀ {c : Console} {f : Fault}, c.fault = none → c.playFrame.console.fault = some f →
      ∃ n d e, n < c.settings.frameCycles ∧ Core.Cycles n c.core d ∧ d.cycle = .failed e f ∧
        c.playFrame.result = .ok n ∧
        c.playFrame.console = ⟨{ e with timers := e.timers.tick }, some f⟩ := by
  refine ⟨?_, ?_, playFrame_of_captured⟩
  · intro c f h ops
    have hz := frozen_performAll h ops
    exact ⟨hz, refuses_of_fault (hz.fault.trans h)⟩
  · intro s c h ops
    refine ⟨errors_of_boot h ops, ?_⟩
    rw [errors_of_boot h ops, halted]
    cases (c.performAll ops).fault <;> rfl

def onEdge : Console := ⟨Core.edge, none⟩

lemma playFrame_onEdge : onEdge.playFrame.console.fault = some (.memoryAccess 4096 1 4096) := by
  have hc : onEdge.core.cycle =
      .failed (Core.edge.after (.storeUpTo 3)) (.memoryAccess 4096 1 4096) := by
    change Core.edge.cycle = _
    rw [Core.cycle_eq Core.at_edge, Core.obstacle_edge]
    rfl
  rw [playFrame_of_running rfl, show onEdge.settings.frameCycles = 10 + 1 from rfl]
  simp only [Stretch.extend, advance_of_failed hc]
  rfl

theorem captured_fault_absorbs_onEdge :
    onEdge.playFrame.console.fault = some (.memoryAccess 4096 1 4096) ∧
      (∃ n, n < 11 ∧ onEdge.playFrame.result = .ok n) ∧
      onEdge.playFrame.console.Refuses (.memoryAccess 4096 1 4096) ∧
      ∃ c, boot .standard = .ok c ∧
        (errors (bootNotices .standard ++ c.log [.step, .step])).length =
          if (c.performAll [.step, .step]).halted then 1 else 0 := by
  have hf := playFrame_onEdge
  obtain ⟨n, -, -, hn, -, -, hr, -⟩ := captured_fault_absorbs.2.2 rfl hf
  obtain ⟨c, hc⟩ : ∃ c, boot .standard = .ok c := ⟨_, rfl⟩
  exact ⟨hf, ⟨n, hn, hr⟩, (captured_fault_absorbs.1 hf []).2, c, hc,
    (captured_fault_absorbs.2.1 hc _).2⟩

end Console

end Chip8
