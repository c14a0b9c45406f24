import Chip8.Proofs.Transfers

/-! What an instruction leaves in each part of a core, what it stops for, and where it leads.
Together these describe its execution completely. -/

namespace Chip8.Core

variable (c : Core)

def obstacle : Instr → Option Fault
  | .ret => if c.stack.length = 0 then some .stackUnderflow else none
  | .call _ => if 16 ≤ c.stack.length then some (.stackOverflow c.pc) else none
  | .draw _ _ height =>
    if 4096 < c.pointer + (height : Nat) then some (.memoryAccess c.pointer (height : Nat) 4096)
    else none
  | .skipDown x | .skipUp x =>
    if 15 < (c.get x).toNat then some (.keyIndex (c.get x).toNat) else none
  | .storeDecimal _ =>
    if 4095 < c.pointer + 2 then some (.memoryAccess (max c.pointer 4096) 1 4096) else none
  | .storeUpTo x | .loadUpTo x =>
    if 4095 < c.pointer + (x : Nat) then some (.memoryAccess (max c.pointer 4096) 1 4096)
    else none
  | _ => none

/-- The address of the instruction after this one, as it is before it is cut to sixteen bits. -/
def target : Instr → Int
  | .jump t | .call t => (t : Nat)
  | .ret => (c.stack.entries.headD 0).toNat + 2
  | .skipIf x value => c.pc + if c.get x = value then 4 else 2
  | .skipUnless x value => c.pc + if c.get x ≠ value then 4 else 2
  | .skipSame x y => c.pc + if c.get x = c.get y then 4 else 2
  | .skipDifferent x y => c.pc + if c.get x ≠ c.get y then 4 else 2
  | .skipDown x => c.pc + if c.keypad.keys[(c.get x).toNat]? = some true then 4 else 2
  | .skipUp x => c.pc + if c.keypad.keys[(c.get x).toNat]? = some false then 4 else 2
  | .awaitKey _ => if c.keypad.lowestDown = none then c.pc else c.pc + 2
  | .clear | .load _ _ | .add _ _ | .alu _ _ _ | .point _ | .draw _ _ _ | .getDelay _
  | .setDelay _ | .setSound _ | .movePoint _ | .glyph _ | .storeDecimal _ | .storeUpTo _
  | .loadUpTo _ => c.pc + 2

def ramAfter : Instr → Ram 4096
  | .storeDecimal x => c.ram.blit c.bank.i.toNat (decimal (c.get x))
  | .storeUpTo x => c.ram.blit c.bank.i.toNat ((upTo x).map c.get)
  | _ => c.ram

def stackAfter : Instr → CallStack 16
  | .ret => ⟨c.stack.entries.tail⟩
  | .call _ => if c.stack.length < 16 then ⟨UInt16.ofInt c.pc :: c.stack.entries⟩ else c.stack
  | _ => c.stack

def sprite (height : Nat) : List UInt8 :=
  c.ram.bytes ⟨c.bank.i.toNat, height⟩

def panelAfter : Instr → Panel
  | .clear => c.panel.clear
  | .draw x y height =>
    if c.bank.i.toNat + height ≤ 4096 then
      (c.panel.paint (c.get x).toNat (c.get y).toNat (c.sprite height)).2
    else c.panel
  | _ => c.panel

def timersAfter : Instr → Countdown
  | .setDelay x => { c.timers with delay := c.get x }
  | .setSound x => { c.timers with sound := c.get x }
  | _ => c.timers

/-- The number of cells from `I` on. -/
def room : Nat := 4096 - c.bank.i.toNat

/-- The registers and `I`; the program counter moves after this. -/
def bankAfter : Instr → RegisterBank
  | .load x value => c.bank.set x value
  | .add x value => c.bank.set x (c.get x + value)
  | .alu op x y => op.apply x y c.bank
  | .point address => c.bank.setI (address : Nat)
  | .draw x y height =>
    if c.bank.i.toNat + height ≤ 4096 then
      c.bank.setFlag (c.panel.paint (c.get x).toNat (c.get y).toNat (c.sprite height)).1
    else c.bank
  | .getDelay x => c.bank.set x c.timers.delay
  | .awaitKey x =>
    match c.keypad.lowestDown with
    | none => c.bank
    | some k => c.bank.set x (UInt8.ofNat k)
  | .movePoint x => c.bank.setI (c.pointer + (c.get x).toNat)
  | .glyph x => c.bank.setI (c.settings.fontAddress + (c.get x).toNat * 5)
  | .storeUpTo x => c.bank.setI (c.bank.i.toNat + min ((x : Nat) + 1) c.room : Nat)
  | .loadUpTo x =>
    (c.bank.fill (upTo x) (c.ram.bytes ⟨c.bank.i.toNat, min ((x : Nat) + 1) c.room⟩)).setI
      (c.bank.i.toNat + min ((x : Nat) + 1) c.room : Nat)
  | _ => c.bank

/-- The core that an instruction leaves, whether it completes or stops. -/
def after (i : Instr) : Core where
  settings := c.settings
  ram := c.ramAfter i
  bank :=
    match c.obstacle i with
    | none => (c.bankAfter i).setPc (c.target i)
    | some _ => c.bankAfter i
  stack := c.stackAfter i
  panel := c.panelAfter i
  timers := c.timersAfter i
  keypad := c.keypad

lemma overrun_eq (n : Nat) (hn : 0 < n) :
    overrun c.bank.i.toNat n =
      if 4095 < c.pointer + (n - 1 : Nat) then
        some (.memoryAccess (max c.pointer 4096) 1 4096)
      else none := by
  have hm : ((max c.bank.i.toNat 4096 : Nat) : Int) = max c.pointer 4096 := by
    rw [pointer]
    omega
  have hc : n ≤ 4096 - c.bank.i.toNat ↔ ¬ 4095 < c.pointer + (n - 1 : Nat) := by
    rw [pointer]
    omega
  rw [overrun, hm]
  split <;> split <;> first | rfl | omega

lemma obstacle_draw_iff (x y : Register) (n : Fin 16) :
    c.obstacle (.draw x y n) = none ↔ c.bank.i.toNat + n ≤ 4096 := by
  rw [obstacle, pointer]
  split
  · exact iff_of_false (Option.some_ne_none _) (by omega)
  · exact iff_of_true rfl (by omega)

lemma length_decimal (b : UInt8) : (decimal b).length = 3 := rfl

lemma length_stored (x : Register) : ((upTo x).map c.get).length = x + 1 := by
  rw [List.length_map, RegisterBank.length_upTo]

lemma apply_pc (op : AluOp) (x y : Register) (b : RegisterBank) : (op.apply x y b).pc = b.pc := by
  cases op <;> rfl

lemma span_eq {n : Nat} (h : c.bank.i.toNat + n ≤ 4096) :
    c.ram.span c.pointer n = .ok ⟨c.bank.i.toNat, n⟩ := by
  have hc : Ram.Covers 4096 c.pointer n :=
    ⟨by rw [pointer]; omega, by omega, by rw [pointer]; omega⟩
  rw [Ram.span, if_pos hc]
  rfl

lemma span_eq_error {n : Nat} (h : 4096 < c.pointer + n) :
    c.ram.span c.pointer n = .error (.memoryAccess c.pointer n 4096) := by
  have hc : ¬ Ram.Covers 4096 c.pointer n := fun hc => by have := hc.2.2; omega
  rw [Ram.span, if_neg hc]

lemma done_skipWhen {b : Bool} {p : Prop} [Decidable p] (h : b = true ↔ p) :
    Outcome.done (c.skipWhen b) = .done (c.goTo (c.pc + if p then 4 else 2)) := by
  by_cases hp : p
  · rw [skipWhen, if_pos hp, if_pos (h.mpr hp)]
  · rw [skipWhen, if_neg hp, if_neg fun hb => hp (h.mp hb)]

lemma holds_eq {x : Register} (h : (c.get x).toNat < 16) :
    c.keypad.holds (c.get x).toNat = .ok c.keypad.keys[(c.get x).toNat] := by
  have hk : Keypad.key (c.get x).toNat = .ok ⟨(c.get x).toNat, h⟩ := dif_pos (by omega)
  rw [Keypad.holds, hk]
  rfl

lemma holds_eq_error {x : Register} (h : 15 < (c.get x).toNat) :
    c.keypad.holds (c.get x).toNat = .error (.keyIndex (c.get x).toNat) := by
  have hk : Keypad.key (c.get x).toNat = .error (.keyIndex (c.get x).toNat) :=
    dif_neg (by omega)
  rw [Keypad.holds, hk]
  rfl

lemma stackAfter_ret (h : c.stack.entries = []) : c.stackAfter .ret = c.stack := by
  rw [stackAfter, h]
  exact congrArg CallStack.mk h.symm

lemma execute_ret : execute .ret c = .ending (c.after .ret) (c.obstacle .ret) := by
  cases hs : c.stack.entries with
  | nil =>
    have hl : c.stack.length = 0 := by rw [CallStack.length, hs]; rfl
    have ho : c.obstacle .ret = some .stackUnderflow := if_pos hl
    rw [execute, CallStack.pop, hs, after, ho, c.stackAfter_ret hs]
    rfl
  | cons a as =>
    have hl : c.stack.length ≠ 0 := by rw [CallStack.length, hs]; simp
    have ho : c.obstacle .ret = none := if_neg hl
    have ht : c.stackAfter .ret = ⟨as⟩ := by simp [stackAfter, hs]
    have hg : c.target .ret = a.toNat + 2 := by
      change ((c.stack.entries.headD 0).toNat : Int) + 2 = _
      rw [hs, List.headD_cons]
    rw [execute, CallStack.pop, hs, after, ho, ht, hg]
    rfl

lemma execute_call (t : Fin 4096) :
    execute (.call t) c = .ending (c.after (.call t)) (c.obstacle (.call t)) := by
  by_cases h : c.stack.length < 16
  · have ho : c.obstacle (.call t) = none := if_neg (by omega)
    have ht : c.stackAfter (.call t) = ⟨UInt16.ofInt c.pc :: c.stack.entries⟩ := if_pos h
    rw [execute, CallStack.push, if_pos (by omega), after, ho, ht]
    rfl
  · have ho : c.obstacle (.call t) = some (.stackOverflow c.pc) := if_pos (by omega)
    have ht : c.stackAfter (.call t) = c.stack := if_neg h
    rw [execute, CallStack.push, if_neg (by omega), after, ho, ht]
    rfl

lemma execute_draw (x y : Register) (n : Fin 16) :
    execute (.draw x y n) c = .ending (c.after (.draw x y n)) (c.obstacle (.draw x y n)) := by
  by_cases h : c.bank.i.toNat + n ≤ 4096
  · have ho : c.obstacle (.draw x y n) = none := if_neg (by rw [pointer]; omega)
    have hp : c.panelAfter (.draw x y n) =
      (c.panel.paint (c.get x).toNat (c.get y).toNat (c.sprite n)).2 := if_pos h
    have hb : c.bankAfter (.draw x y n) =
      c.bank.setFlag (c.panel.paint (c.get x).toNat (c.get y).toNat (c.sprite n)).1 := if_pos h
    rw [execute, drawFrom, c.span_eq h, after, ho, hp, hb]
    rfl
  · have ho : c.obstacle (.draw x y n) = some (.memoryAccess c.pointer (n : Nat) 4096) :=
      if_pos (by rw [pointer]; omega)
    have hp : c.panelAfter (.draw x y n) = c.panel := if_neg h
    have hb : c.bankAfter (.draw x y n) = c.bank := if_neg h
    rw [execute, drawFrom, c.span_eq_error (by rw [pointer]; omega), after, ho, hp, hb]
    rfl

lemma execute_skipDown (x : Register) :
    execute (.skipDown x) c = .ending (c.after (.skipDown x)) (c.obstacle (.skipDown x)) := by
  by_cases h : 15 < (c.get x).toNat
  · have ho : c.obstacle (.skipDown x) = some (.keyIndex (c.get x).toNat) := if_pos h
    rw [execute, c.holds_eq_error h, after, ho]
    rfl
  · have hl : (c.get x).toNat < 16 := by omega
    have ho : c.obstacle (.skipDown x) = none := if_neg h
    rw [execute, c.holds_eq hl, after, ho]
    exact c.done_skipWhen (by simp [hl])

lemma execute_skipUp (x : Register) :
    execute (.skipUp x) c = .ending (c.after (.skipUp x)) (c.obstacle (.skipUp x)) := by
  by_cases h : 15 < (c.get x).toNat
  · have ho : c.obstacle (.skipUp x) = some (.keyIndex (c.get x).toNat) := if_pos h
    rw [execute, c.holds_eq_error h, after, ho]
    rfl
  · have hl : (c.get x).toNat < 16 := by omega
    have ho : c.obstacle (.skipUp x) = none := if_neg h
    rw [execute, c.holds_eq hl, after, ho]
    exact c.done_skipWhen (by simp [hl])

lemma execute_awaitKey (x : Register) :
    execute (.awaitKey x) c = .ending (c.after (.awaitKey x)) (c.obstacle (.awaitKey x)) := by
  cases hk : c.keypad.lowestDown with
  | none =>
    have hg : c.target (.awaitKey x) = c.pc := if_pos hk
    have hb : c.bankAfter (.awaitKey x) = c.bank := by simp [bankAfter, hk]
    simp only [execute, hk, after, hg, hb]
    rfl
  | some k =>
    have hg : c.target (.awaitKey x) = c.pc + 2 := if_neg (by simp [hk])
    have hb : c.bankAfter (.awaitKey x) = c.bank.set x (UInt8.ofNat k) := by simp [bankAfter, hk]
    simp only [execute, hk, after, hg, hb]
    rfl

lemma execute_storeDecimal (x : Register) : execute (.storeDecimal x) c =
    .ending (c.after (.storeDecimal x)) (c.obstacle (.storeDecimal x)) := by
  have ho : overrun c.bank.i.toNat (decimal (c.get x)).length = c.obstacle (.storeDecimal x) :=
    c.overrun_eq 3 (by decide)
  rw [execute, pointer, storeRun_eq, ho, after]
  cases c.obstacle (.storeDecimal x) <;> rfl

lemma execute_storeUpTo (x : Register) :
    execute (.storeUpTo x) c = .ending (c.after (.storeUpTo x)) (c.obstacle (.storeUpTo x)) := by
  have ho : overrun c.bank.i.toNat (upTo x).length = c.obstacle (.storeUpTo x) := by
    rw [RegisterBank.length_upTo]
    exact c.overrun_eq (x + 1) (by omega)
  rw [execute, storeRegisters_eq, ho, RegisterBank.length_upTo, after]
  cases c.obstacle (.storeUpTo x) <;> rfl

lemma execute_loadUpTo (x : Register) :
    execute (.loadUpTo x) c = .ending (c.after (.loadUpTo x)) (c.obstacle (.loadUpTo x)) := by
  have ho : overrun c.bank.i.toNat (upTo x).length = c.obstacle (.loadUpTo x) := by
    rw [RegisterBank.length_upTo]
    exact c.overrun_eq (x + 1) (by omega)
  have hp (vs : List UInt8) (a : Int) : ((c.bank.fill (upTo x) vs).setI a).pc = c.bank.pc :=
    c.bank.fill_pc (upTo x) vs
  rw [execute, loadRegisters_eq, ho, RegisterBank.length_upTo, after]
  cases c.obstacle (.loadUpTo x) with
  | none =>
    simp only [Outcome.ending, Outcome.andThen, next, goTo, pc, withBank, setPointer, hp]
    rfl
  | some cause => rfl

theorem execute_eq (i : Instr) : execute i c = .ending (c.after i) (c.obstacle i) := by
  cases i with
  | ret => exact c.execute_ret
  | call t => exact c.execute_call t
  | draw x y n => exact c.execute_draw x y n
  | skipDown x => exact c.execute_skipDown x
  | skipUp x => exact c.execute_skipUp x
  | awaitKey x => exact c.execute_awaitKey x
  | storeDecimal x => exact c.execute_storeDecimal x
  | storeUpTo x => exact c.execute_storeUpTo x
  | loadUpTo x => exact c.execute_loadUpTo x
  | skipIf x v => exact c.done_skipWhen beq_iff_eq
  | skipUnless x v => exact c.done_skipWhen bne_iff_ne
  | skipSame x y => exact c.done_skipWhen beq_iff_eq
  | skipDifferent x y => exact c.done_skipWhen bne_iff_ne
  | alu op x y =>
    have hp : (c.withBank (op.apply x y)).pc = c.pc := apply_pc op x y c.bank
    rw [execute, next, hp]
    rfl
  | _ => rfl

lemma execute_of_unhindered {i : Instr} (h : c.obstacle i = none) :
    execute i c = .done (c.after i) := by
  rw [execute_eq, h, Outcome.ending]

lemma bankAfter_pc (i : Instr) : (c.bankAfter i).pc = c.pc := by
  cases i with
  | alu op x y => exact apply_pc op x y c.bank
  | draw x y n =>
    rw [bankAfter]
    split <;> rfl
  | awaitKey x =>
    rw [bankAfter]
    split <;> rfl
  | loadUpTo x => exact c.bank.fill_pc _ _
  | _ => rfl

variable {c}

lemma cycle_eq {i : Instr} (h : c.At i) : c.cycle = .ending (c.after i) (c.obstacle i) :=
  (cycle_of_at h).trans (c.execute_eq i)

lemma core_cycle {i : Instr} (h : c.At i) : c.cycle.core = c.after i := by
  rw [cycle_eq h, Outcome.core_ending]

lemma cause?_cycle {i : Instr} (h : c.At i) : c.cycle.cause? = c.obstacle i := by
  rw [cycle_eq h, Outcome.cause?_ending]

lemma cycle_cases (c : Core) : (∃ f, c.cycle = .failed c f) ∨ ∃ i, c.At i := by
  rcases c.fetch_cases with h | ⟨h, hw⟩ | hi
  · exact .inl ⟨_, cycle_of_not_fetchable h⟩
  · exact .inl ⟨_, cycle_of_undefined h hw⟩
  · exact .inr hi

lemma eq_after_of_done {i : Instr} {d : Core} (hi : c.At i) (h : c.cycle = .done d) :
    d = c.after i ∧ c.obstacle i = none := by
  rw [← core_cycle hi, ← cause?_cycle hi, h]
  exact ⟨rfl, rfl⟩

lemma eq_after_of_failed {i : Instr} {d : Core} {f : Fault} (hi : c.At i)
    (h : c.cycle = .failed d f) : d = c.after i ∧ c.obstacle i = some f := by
  rw [← core_cycle hi, ← cause?_cycle hi, h]
  exact ⟨rfl, rfl⟩

lemma exists_at_of_done {d : Core} (h : c.cycle = .done d) : ∃ i, c.At i := by
  rcases c.cycle_cases with ⟨f, hf⟩ | hi
  · rw [hf] at h
    cases h
  · exact hi

lemma pc_of_done {i : Instr} {d : Core} (hi : c.At i) (h : c.cycle = .done d) :
    d.pc = c.target i % 65536 := by
  obtain ⟨rfl, ho⟩ := eq_after_of_done hi h
  rw [after, ho]
  rfl

end Chip8.Core
