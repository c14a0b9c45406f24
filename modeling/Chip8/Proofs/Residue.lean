import Chip8.Console.Basic
import Chip8.Proofs.Faults

/-! What a fault leaves behind: nothing has changed, except that the instructions which pass over
cells one by one have done their work up to the end of memory. -/

namespace Chip8.Core

/-- The hundreds, tens and ones of a number below a thousand. -/
def decimalDigits (n : Nat) : List Nat :=
  [n / 100, n / 10 % 10, n % 10]

/-- What is left of a decimal that memory cannot hold: its first digits, and no other change. -/
structure DecimalResidue (c : Core) (x : Register) (d : Core) : Prop where
  partly : c.room < 3
  rest : d = { c with ram := d.ram }
  written : ∀ j < c.room,
    (decimalDigits (c.get x).toNat)[j]? = some (d.ram.get (c.bank.i.toNat + j)).toNat
  unwritten : ∀ a, a < c.bank.i.toNat ∨ c.bank.i.toNat + c.room ≤ a → d.ram.get a = c.ram.get a

/-- What is left of storing more registers than memory can hold. -/
structure StoreResidue (c : Core) (x : Register) (d : Core) : Prop where
  partly : c.room ≤ x
  rest : d = { c with ram := d.ram, bank := { c.bank with i := d.bank.i } }
  pointer : d.bank.i.toNat = c.bank.i.toNat + c.room
  written : ∀ r : Register, r < c.room → d.ram.get (c.bank.i.toNat + r) = c.get r
  unwritten : ∀ a, a < c.bank.i.toNat ∨ c.bank.i.toNat + c.room ≤ a → d.ram.get a = c.ram.get a

/-- What is left of loading more registers than memory holds. -/
structure LoadResidue (c : Core) (x : Register) (d : Core) : Prop where
  partly : c.room ≤ x
  rest : d = { c with bank := d.bank }
  pointer : d.bank.i.toNat = c.bank.i.toNat + c.room
  loaded : ∀ r : Register, r < c.room → d.get r = c.ram.get (c.bank.i.toNat + r)
  kept : ∀ r : Register, c.room ≤ r → d.get r = c.get r

variable {c d : Core} {i : Instr} {x : Register} {f : Fault}

lemma after_of_obstacle (h : c.obstacle i = some f) :
    c.after i = { c with
      ram := c.ramAfter i
      bank := c.bankAfter i
      stack := c.stackAfter i
      panel := c.panelAfter i
      timers := c.timersAfter i } := by
  rw [after, h]

lemma stackAfter_of_obstacle (h : c.obstacle i = some f) : c.stackAfter i = c.stack := by
  cases i with
  | ret =>
    have hl := (Option.ite_none_right_eq_some.mp h).1
    exact c.stackAfter_ret (List.length_eq_zero_iff.mp hl)
  | call t =>
    -- the depth is checked before the push
    have hl := (Option.ite_none_right_eq_some.mp h).1
    exact if_neg (Nat.not_lt.mpr hl)
  | _ => rfl

lemma after_eq_self (h : c.obstacle i = some f) (hd : ∀ x, i ≠ .storeDecimal x)
    (hs : ∀ x, i ≠ .storeUpTo x) (hl : ∀ x, i ≠ .loadUpTo x) : c.after i = c := by
  rw [after_of_obstacle h, stackAfter_of_obstacle h]
  cases i with
  | ret | call t => rfl
  | draw x y n =>
    have ho := (Option.ite_none_right_eq_some.mp h).1
    have hl : ¬ c.bank.i.toNat + n ≤ 4096 := by
      rw [pointer] at ho
      omega
    have hp : c.panelAfter (.draw x y n) = c.panel := if_neg hl
    have hb : c.bankAfter (.draw x y n) = c.bank := if_neg hl
    rw [hp, hb]
    rfl
  | skipDown x => rfl
  | skipUp x => rfl
  | storeDecimal x => exact absurd rfl (hd x)
  | storeUpTo x => exact absurd rfl (hs x)
  | loadUpTo x => exact absurd rfl (hl x)
  | _ => cases h

lemma map_toNat_decimal (b : UInt8) : (decimal b).map UInt8.toNat = decimalDigits b.toNat := by
  have hh : (b / 100).toNat = b.toNat / 100 := b.toNat_div 100
  have ht : (b / 10 % 10).toNat = b.toNat / 10 % 10 := by
    rw [UInt8.toNat_mod, UInt8.toNat_div]
    rfl
  have ho : (b % 10).toNat = b.toNat % 10 := b.toNat_mod 10
  rw [decimal, decimalDigits, List.map_cons, List.map_cons, List.map_cons, hh, ht, ho, List.map_nil]

lemma getElem?_decimalDigits {j : Nat} (hj : j < 3) (h : c.bank.i.toNat + j < 4096) :
    (decimalDigits (c.get x).toNat)[j]? =
      some ((c.after (.storeDecimal x)).ram.get (c.bank.i.toNat + j)).toNat := by
  have hm : (c.after (.storeDecimal x)).ram = c.ram.blit c.bank.i.toNat (decimal (c.get x)) := rfl
  have hl : j < (decimal (c.get x)).length := hj
  rw [hm, c.ram.get_blit_add h hl, ← map_toNat_decimal, List.getElem?_map,
    List.getElem?_eq_getElem hl, Option.map_some]

lemma room_lt_of_decimal (h : c.obstacle (.storeDecimal x) = some f) : c.room < 3 := by
  have ho := (Option.ite_none_right_eq_some.mp h).1
  rw [pointer] at ho
  rw [room]
  omega

lemma room_le_of_store (h : c.obstacle (.storeUpTo x) = some f) : c.room ≤ x := by
  have ho := (Option.ite_none_right_eq_some.mp h).1
  rw [pointer] at ho
  rw [room]
  omega

lemma decimal_residue (h : c.obstacle (.storeDecimal x) = some f) :
    c.DecimalResidue x (c.after (.storeDecimal x)) := by
  have hr : c.room < 3 := room_lt_of_decimal h
  have hm : (c.after (.storeDecimal x)).ram = c.ram.blit c.bank.i.toNat (decimal (c.get x)) := rfl
  have hl := length_decimal (c.get x)
  refine ⟨hr, ?_, ?_, ?_⟩
  · rw [after_of_obstacle h]
    rfl
  · intro j hj
    exact getElem?_decimalDigits (by omega) (by rw [room] at hj; omega)
  · intro a ha
    rw [hm, c.ram.get_blit_of_outside (by rw [room] at ha; omega)]

lemma store_residue (h : c.obstacle (.storeUpTo x) = some f) :
    c.StoreResidue x (c.after (.storeUpTo x)) := by
  have hr : c.room ≤ x := room_le_of_store h
  have hm : (c.after (.storeUpTo x)).ram = c.ram.blit c.bank.i.toNat ((upTo x).map c.get) := rfl
  have hl := c.length_stored x
  have hk : min ((x : Nat) + 1) c.room = c.room := by omega
  refine ⟨hr, ?_, ?_, ?_, ?_⟩
  · rw [after_of_obstacle h]
    rfl
  · rw [after_of_obstacle h]
    change (c.bank.setI _).i.toNat = _
    rw [hk, RegisterBank.toNat_setI _ (by have := c.bank.i.toNat_lt; rw [room]; omega)]
  · intro r hlt
    rw [hm, c.ram.get_blit_add (by rw [room] at hlt; omega) (by omega), List.getElem_map,
      RegisterBank.getElem_upTo]
  · intro a ha
    rw [hm, c.ram.get_blit_of_outside (by rw [room] at ha hr; omega)]

lemma load_residue (h : c.obstacle (.loadUpTo x) = some f) :
    c.LoadResidue x (c.after (.loadUpTo x)) := by
  have hr : c.room ≤ x := room_le_of_store h
  have hk : min ((x : Nat) + 1) c.room = c.room := by omega
  have hl : (c.ram.bytes ⟨c.bank.i.toNat, c.room⟩).length ≤ x + 1 := by
    rw [Ram.length_bytes]
    exact Nat.le_succ_of_le hr
  have hg (r : Register) : (c.after (.loadUpTo x)).get r =
      ((c.ram.bytes ⟨c.bank.i.toNat, c.room⟩)[(r : Nat)]?).getD (c.get r) := by
    rw [after_of_obstacle h]
    change (c.bank.fill (upTo x) (c.ram.bytes ⟨_, min ((x : Nat) + 1) c.room⟩)).get r = _
    rw [hk, RegisterBank.get_fill_upTo _ _ hl]
    rfl
  refine ⟨hr, ?_, ?_, ?_, ?_⟩
  · rw [after_of_obstacle h]
    rfl
  · rw [after_of_obstacle h]
    change (RegisterBank.setI _ _).i.toNat = _
    rw [hk, RegisterBank.toNat_setI _ (by have := c.bank.i.toNat_lt; rw [room]; omega)]
  · intro r hlt
    rw [hg, Ram.getElem?_bytes, if_pos hlt, Option.getD_some]
  · intro r hle
    rw [hg, Ram.getElem?_bytes, if_neg (by omega), Option.getD_none]

lemma pc_of_failed (h : c.cycle = .failed d f) : d.pc = c.pc := by
  rcases c.cycle_cases with ⟨g, hg⟩ | ⟨i, hi⟩
  · rw [hg] at h
    cases h
    rfl
  · obtain ⟨rfl, ho⟩ := eq_after_of_failed hi h
    rw [after_of_obstacle ho]
    exact c.bankAfter_pc i

lemma eq_self_of_failed (h : c.cycle = .failed d f) (hs : ∀ x, ¬ c.At (.storeDecimal x) ∧
    ¬ c.At (.storeUpTo x) ∧ ¬ c.At (.loadUpTo x)) : d = c := by
  rcases c.cycle_cases with ⟨g, hg⟩ | ⟨i, hi⟩
  · rw [hg] at h
    cases h
    rfl
  · obtain ⟨rfl, ho⟩ := eq_after_of_failed hi h
    refine after_eq_self ho ?_ ?_ ?_
    · rintro x rfl
      exact (hs x).1 hi
    · rintro x rfl
      exact (hs x).2.1 hi
    · rintro x rfl
      exact (hs x).2.2 hi

lemma step_of_failed {m : Console} (h : m.core.cycle = .failed d f) (hm : m.fault = none) :
    m.step.console = ⟨d, some f⟩ ∧ m.step.result = .ok false := by
  rw [Console.step, hm]
  simp only [Console.advance, h, and_self]

/-- A fault leaves the program counter and, but for the three instructions that pass over cells one
by one, the whole core; a running console keeps the fault, and a halted one stays as it is. -/
theorem failed_cycle_residue (h : c.cycle = .failed d f) :
    d.pc = c.pc ∧
    ((∀ x, ¬ c.At (.storeDecimal x) ∧ ¬ c.At (.storeUpTo x) ∧ ¬ c.At (.loadUpTo x)) → d = c) ∧
    (∀ x, c.At (.storeDecimal x) → c.DecimalResidue x d) ∧
    (∀ x, c.At (.storeUpTo x) → c.StoreResidue x d) ∧
    (∀ x, c.At (.loadUpTo x) → c.LoadResidue x d) ∧
    ∀ m : Console, m.core = c →
      (m.fault = none → m.step.console = ⟨d, some f⟩ ∧ m.step.result = .ok false) ∧
      ∀ g, m.fault = some g → m.step.console = m ∧ m.step.result = .error (.fault g) := by
  refine ⟨pc_of_failed h, eq_self_of_failed h, ?_, ?_, ?_, ?_⟩
  · intro x hx
    obtain ⟨rfl, ho⟩ := eq_after_of_failed hx h
    exact decimal_residue ho
  · intro x hx
    obtain ⟨rfl, ho⟩ := eq_after_of_failed hx h
    exact store_residue ho
  · intro x hx
    obtain ⟨rfl, ho⟩ := eq_after_of_failed hx h
    exact load_residue ho
  · rintro m rfl
    refine ⟨step_of_failed h, ?_⟩
    intro g hg
    rw [Console.step, hg]
    exact ⟨rfl, rfl⟩

/-- `F355` with two cells left. -/
def edge : Core where
  settings := .standard
  ram := Ram.zero.blit 0x200 [0xF3, 0x55]
  bank := { RegisterBank.start 0x200 with v := Vector.replicate 16 7, i := 0xFFE }
  stack := CallStack.empty
  panel := Panel.fresh
  timers := Countdown.zero
  keypad := Keypad.released

lemma at_edge : edge.At (.storeUpTo 3) := by
  have h0 : edge.ram.get 0x200 = 0xF3 :=
    Ram.get_blit_add _ (k := 0) (by decide) (by decide)
  have h1 : edge.ram.get (0x200 + 1) = 0x55 :=
    Ram.get_blit_add _ (by decide) (by decide)
  refine ⟨⟨by decide, by decide⟩, ?_⟩
  rw [word, Ram.word, show edge.pc.toNat = 0x200 from rfl, h0, h1]
  rfl

lemma obstacle_edge : edge.obstacle (.storeUpTo 3) = some (.memoryAccess 4096 1 4096) := rfl

theorem failed_cycle_residue_edge :
    edge.cycle = .failed (edge.after (.storeUpTo 3)) (.memoryAccess 4096 1 4096) ∧
      (edge.after (.storeUpTo 3)).pc = 0x200 ∧
      edge.StoreResidue 3 (edge.after (.storeUpTo 3)) := by
  have h : edge.cycle = .failed (edge.after (.storeUpTo 3)) (.memoryAccess 4096 1 4096) := by
    rw [cycle_eq at_edge, obstacle_edge]
    rfl
  obtain ⟨hp, _, _, hs, _⟩ := failed_cycle_residue h
  exact ⟨h, hp, hs 3 at_edge⟩

end Chip8.Core
