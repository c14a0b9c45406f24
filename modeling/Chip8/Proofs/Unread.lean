import Chip8.Proofs.Effects
import Chip8.Proofs.Lockstep
import Chip8.Proofs.Residue

/-! Memory that a run does not read. What it holds decides nothing, and what is written over it is
the same whatever it held. -/

namespace Chip8

namespace Ram

variable {size : Nat} {m k : Ram size}

lemma get_of_le (m : Ram size) {a : Nat} (h : size ≤ a) : m.get a = 0 := by
  rw [get, Vector.getElem?_eq_none h, Option.getD_none]

lemma get_blit_congr {a n : Nat} (bs : List UInt8) (h : m.get n = k.get n) :
    (m.blit a bs).get n = (k.blit a bs).get n := by
  rw [get_blit, get_blit, h]

lemma get_blit_eq {a n : Nat} {bs : List UInt8} (ha : a ≤ n) (hn : n < a + bs.length) :
    (m.blit a bs).get n = (k.blit a bs).get n := by
  by_cases hs : n < size
  · have hb : n - a < bs.length := by omega
    rw [get_blit, get_blit, if_pos ⟨ha, hs⟩, if_pos ⟨ha, hs⟩, List.getElem?_eq_getElem hb]
    rfl
  · rw [get_of_le _ (Nat.le_of_not_lt hs), get_of_le _ (Nat.le_of_not_lt hs)]

end Ram

namespace Core

/-- The cores agree on all but the cells in `A`. -/
structure AgreeOff (A : Set Nat) (c d : Core) : Prop where
  rest : d = { c with ram := d.ram }
  cells : ∀ a, a ∉ A → c.ram.get a = d.ram.get a

/-- The next cycle reads the cell `a`. A range that is refused is not read. -/
inductive Reads (c : Core) (a : Nat) : Prop
  | fetch : c.Fetchable → a = c.pc.toNat ∨ a = c.pc.toNat + 1 → c.Reads a
  | sprite {x y : Register} {n : Fin 16} : c.At (.draw x y n) → c.obstacle (.draw x y n) = none →
      c.bank.i.toNat ≤ a → a < c.bank.i.toNat + n → c.Reads a
  | load {x : Register} : c.At (.loadUpTo x) → c.bank.i.toNat ≤ a →
      a ≤ min (c.bank.i.toNat + x) 4095 → c.Reads a

def Writes (c : Core) (a : Nat) : Prop :=
  c.Runs (·.writes c.bank.i.toNat a)

variable {A B : Set Nat} {c d : Core} {i : Instr}

lemma AgreeOff.mono (h : c.AgreeOff A d) (hA : A ⊆ B) : c.AgreeOff B d :=
  ⟨h.rest, fun a ha => h.cells a (mt (@hA a) ha)⟩

lemma AgreeOff.exists_ram (h : c.AgreeOff A d) : ∃ m, d = { c with ram := m } :=
  ⟨d.ram, h.rest⟩

lemma AgreeOff.pc (h : c.AgreeOff A d) : c.pc = d.pc := by
  rw [h.rest]
  rfl

lemma AgreeOff.obstacle (h : c.AgreeOff A d) (i : Instr) : c.obstacle i = d.obstacle i := by
  rw [h.rest]
  cases i <;> rfl

section

variable (h : c.AgreeOff A d) (hr : ∀ a ∈ A, ¬ c.Reads a)
include h hr

lemma AgreeOff.get {a : Nat} (ha : c.Reads a) : c.ram.get a = d.ram.get a :=
  h.cells a fun hA => hr a hA ha

lemma AgreeOff.word (hf : c.Fetchable) : c.word = d.word := by
  rw [Core.word, Core.word, Ram.word, Ram.word, ← h.pc, h.get hr (.fetch hf (.inl rfl)),
    h.get hr (.fetch hf (.inr rfl))]

lemma AgreeOff.drawn {x y : Register} {n : Fin 16} (hi : c.At (.draw x y n))
    (hn : c.bank.i.toNat + n ≤ 4096) : c.sprite n = d.ram.bytes ⟨c.bank.i.toNat, n⟩ := by
  apply Ram.bytes_congr
  intro a ha hl
  exact h.get hr (.sprite hi ((c.obstacle_draw_iff x y n).mpr hn) ha hl)

lemma AgreeOff.loaded {x : Register} (hi : c.At (.loadUpTo x)) :
    c.ram.bytes ⟨c.bank.i.toNat, min ((x : Nat) + 1) c.room⟩ =
      d.ram.bytes ⟨c.bank.i.toNat, min ((x : Nat) + 1) c.room⟩ := by
  apply Ram.bytes_congr
  intro a ha hl
  exact h.get hr (.load hi ha (by rw [room] at hl; omega))

lemma AgreeOff.bankAfter (hi : c.At i) : c.bankAfter i = d.bankAfter i := by
  obtain ⟨m, rfl⟩ := h.exists_ram
  cases i with
  | draw x y n =>
    by_cases hn : c.bank.i.toNat + n ≤ 4096
    · simp only [Core.bankAfter, if_pos hn, h.drawn hr hi hn]
      rfl
    · simp only [Core.bankAfter, if_neg hn]
  | loadUpTo x =>
    rw [Core.bankAfter, h.loaded hr hi]
    rfl
  | _ => rfl

lemma AgreeOff.panelAfter (hi : c.At i) : c.panelAfter i = d.panelAfter i := by
  obtain ⟨m, rfl⟩ := h.exists_ram
  cases i with
  | draw x y n =>
    by_cases hn : c.bank.i.toNat + n ≤ 4096
    · simp only [Core.panelAfter, if_pos hn, h.drawn hr hi hn]
      rfl
    · simp only [Core.panelAfter, if_neg hn]
  | _ => rfl

lemma AgreeOff.rest_after (hi : c.At i) : d.after i = { c.after i with ram := d.ramAfter i } := by
  have hb := h.bankAfter hr hi
  have hp := h.panelAfter hr hi
  have ho := h.obstacle i
  obtain ⟨m, rfl⟩ := h.exists_ram
  rw [after, after, ← hb, ← hp, ← ho]
  cases i <;> rfl

end

lemma get_ramAfter_congr {a : Nat} (h : c.AgreeOff A d) (i : Instr)
    (ha : c.ram.get a = d.ram.get a) : (c.ramAfter i).get a = (d.ramAfter i).get a := by
  obtain ⟨m, rfl⟩ := h.exists_ram
  cases i with
  | storeDecimal x | storeUpTo x => exact Ram.get_blit_congr _ ha
  | _ => exact ha

lemma get_ramAfter_eq {a : Nat} (h : c.AgreeOff A d) (hw : i.writes c.bank.i.toNat a) :
    (c.ramAfter i).get a = (d.ramAfter i).get a := by
  obtain ⟨m, rfl⟩ := h.exists_ram
  cases i with
  | storeDecimal x =>
    have hl := length_decimal (c.get x)
    exact Ram.get_blit_eq hw.1 (by have := hw.2; omega)
  | storeUpTo x =>
    have hl := c.length_stored x
    exact Ram.get_blit_eq hw.1 (by have := hw.2; omega)
  | _ => exact hw.elim

/-- A step that reads no cell of `A` ends the same way and makes up for the cells it writes. -/
lemma AgreeOff.cycle (h : c.AgreeOff A d) (hr : ∀ a ∈ A, ¬ c.Reads a) :
    c.cycle.cause? = d.cycle.cause? ∧
      c.cycle.core.AgreeOff {a ∈ A | ¬ c.Writes a} d.cycle.core := by
  apply cycle_congr (R := AgreeOff {a ∈ A | ¬ c.Writes a})
  · exact h.pc
  · exact h.word hr
  · intro hn
    refine h.mono fun a ha => ⟨ha, ?_⟩
    rintro ⟨i, hi, -⟩
    exact hn i hi
  · intro i hi
    refine ⟨h.obstacle i, h.rest_after hr hi, ?_⟩
    intro a ha
    by_cases hA : a ∈ A
    · -- what is written comes from the registers, whatever the cell held
      obtain ⟨j, hj, hw⟩ : c.Writes a := not_not.mp fun hn => ha ⟨hA, hn⟩
      obtain rfl := hj.unique hi
      exact get_ramAfter_eq h hw
    · exact get_ramAfter_congr h i (h.cells a hA)

end Core

namespace Console

structure AgreeOff (A : Set Nat) (c d : Console) : Prop where
  core : c.core.AgreeOff A d.core
  fault : c.fault = d.fault

/-- One of the first `n` steps begins a cycle in a core with the property `P`. -/
def Cycled (c : Console) (n : Nat) (P : Core → Prop) : Prop :=
  ∃ k < n, (c.performAll (.replicate k .step)).fault = none ∧
    P (c.performAll (.replicate k .step)).core

variable {A B : Set Nat} {c d : Console}

lemma AgreeOff.mono (h : c.AgreeOff A d) (hA : A ⊆ B) : c.AgreeOff B d :=
  ⟨h.core.mono hA, h.fault⟩

lemma cycled_succ (n : Nat) (P : Core → Prop) : c.Cycled (n + 1) P ↔ c.Cycled n P ∨
    ((c.performAll (.replicate n .step)).fault = none ∧
      P (c.performAll (.replicate n .step)).core) := by
  simp only [Cycled, Nat.exists_lt_succ_right]

lemma AgreeOff.step (h : c.AgreeOff A d)
    (hr : ∀ a ∈ A, ¬ (c.fault = none ∧ c.core.Reads a)) :
    c.step.result = d.step.result ∧
      c.step.console.AgreeOff {a ∈ A | ¬ (c.fault = none ∧ c.core.Writes a)} d.step.console := by
  let B : Set Nat := {a ∈ A | ¬ (c.fault = none ∧ c.core.Writes a)}
  have hs (f : Fault) (hf : c.fault = some f) : c.core.AgreeOff B d.core := by
    refine h.core.mono fun a ha => ⟨ha, ?_⟩
    rintro ⟨hn, -⟩
    exact Option.some_ne_none f (hf.symm.trans hn)
  have hc (hf : c.fault = none) : c.core.cycle.cause? = d.core.cycle.cause? ∧
      c.core.cycle.core.AgreeOff B d.core.cycle.core := by
    obtain ⟨he, hk⟩ := h.core.cycle fun a hA hR => hr a hA ⟨hf, hR⟩
    exact ⟨he, hk.mono fun a hw => ⟨hw.1, fun hn => hw.2 hn.2⟩⟩
  obtain ⟨hq, hf, ha⟩ := step_congr h.fault hs hc
  exact ⟨hq, ha, hf⟩

/-- Cells that the first `n` cycles do not read decide nothing in as many steps, and only those that
none of them writes may still differ. -/
theorem run_independent_of_unread (h : c.AgreeOff A d) (n : Nat)
    (hr : ∀ a ∈ A, ¬ c.Cycled n (·.Reads a)) :
    (c.replies (.replicate n .step)).map Reply.result =
        (d.replies (.replicate n .step)).map Reply.result ∧
      (c.performAll (.replicate n .step)).AgreeOff {a ∈ A | ¬ c.Cycled n (·.Writes a)}
        (d.performAll (.replicate n .step)) := by
  induction n with
  | zero =>
    refine ⟨rfl, h.mono fun a ha => ⟨ha, ?_⟩⟩
    rintro ⟨k, hk, -⟩
    exact Nat.not_lt_zero k hk
  | succ n ih =>
    simp only [cycled_succ, not_or] at hr ⊢
    obtain ⟨hq, ha⟩ := ih fun a hA => (hr a hA).1
    obtain ⟨hl, hk⟩ := ha.step fun a hA => (hr a hA.1).2
    rw [List.replicate_succ', replies_append, replies_append, performAll_append, performAll_append,
      List.map_append, List.map_append, hq]
    refine ⟨congrArg _ ?_, hk.mono fun a hw => ⟨hw.1.1, hw.1.2, hw.2⟩⟩
    exact congrArg (fun r => [Except.map Answer.flag r]) hl

lemma reads_edge {a : Nat} (h : Core.edge.Reads a) : a = 0x200 ∨ a = 0x200 + 1 := by
  cases h with
  | fetch _ ha => exact ha
  | sprite hi => exact Instr.noConfusion (Core.at_edge.unique hi)
  | load hi => exact Instr.noConfusion (Core.at_edge.unique hi)

theorem run_independent_of_unread_edge :
    let c : Console := ⟨Core.edge, none⟩
    let d : Console := ⟨{ Core.edge with ram := (Core.edge.ram.set 0x300 2).set 0xFFF 1 }, none⟩
    c.AgreeOff {0x300, 0xFFF} d ∧ (∀ a ∈ ({0x300, 0xFFF} : Set Nat), ¬ c.Cycled 2 (·.Reads a)) ∧
      (d.performAll (.replicate 2 .step)).fault = some (.memoryAccess 4096 1 4096) ∧
      (d.performAll (.replicate 2 .step)).core.ram.get 0xFFF = 7 := by
  intro c d
  have h : c.AgreeOff {0x300, 0xFFF} d := by
    refine ⟨⟨rfl, ?_⟩, rfl⟩
    intro a ha
    have hn : ¬ (a = 0x300 ∨ a = 0xFFF) := ha
    change Core.edge.ram.get a = ((Core.edge.ram.set 0x300 2).set 0xFFF 1).get a
    rw [Ram.get_set, if_neg (by omega), Ram.get_set, if_neg (by omega)]
  have hr : ∀ a ∈ ({0x300, 0xFFF} : Set Nat), ¬ c.Cycled 2 (·.Reads a) := by
    rintro a ha ⟨k, hk, hf, hR⟩
    have hs : (c.performAll (.replicate 1 .step)).fault = some (.memoryAccess 4096 1 4096) := by
      decide +kernel
    obtain rfl | rfl : k = 0 ∨ k = 1 := by omega
    · have hA : a = 0x300 ∨ a = 0xFFF := ha
      have hp := reads_edge hR
      omega
    · rw [hs] at hf
      cases hf
  obtain ⟨-, hk⟩ := run_independent_of_unread h 2 hr
  have hf : (c.performAll (.replicate 2 .step)).fault = some (.memoryAccess 4096 1 4096) := by
    decide +kernel
  have hv : (c.performAll (.replicate 2 .step)).core.ram.get 0xFFF = 7 := by decide +kernel
  refine ⟨h, hr, hk.fault ▸ hf, ?_⟩
  rw [← hv]
  refine (hk.core.cells 0xFFF ?_).symm
  rintro ⟨-, hw⟩
  exact hw ⟨0, by decide, rfl, .storeUpTo 3, Core.at_edge, by decide, by decide⟩

end Console

end Chip8
