import Chip8.Proofs.Dumps
import Chip8.Proofs.Residue

/-! A decimal that is stored and loaded again. The digits come back in `V0` to `V2`, also when the
number was in one of these. -/

namespace Chip8.Core

/-- The decimal digits of `VX` lie in the three cells from `I` on. -/
structure Spelled (c d : Core) (x : Register) : Prop where
  cells : ∀ j < 3,
    (decimalDigits (c.get x).toNat)[j]? = some (d.ram.get (c.bank.i.toNat + j)).toNat
  others : ∀ a, a < c.bank.i.toNat ∨ c.bank.i.toNat + 2 < a → d.ram.get a = c.ram.get a
  registers : ∀ r, d.get r = c.get r
  pointer : d.bank.i = c.bank.i

/-- `V0` to `V2`, and the cells from the old `I` on, hold the decimal digits of what was in `VX`. -/
structure ReadsBack (c e : Core) (x : Register) : Prop where
  digits : ∀ r ≤ 2, (e.get r).toNat ≤ 9
  value : 100 * (e.get 0).toNat + 10 * (e.get 1).toNat + (e.get 2).toNat = (c.get x).toNat
  registers : ∀ r, 2 < r → e.get r = c.get r
  pointer : e.bank.i.toNat = c.bank.i.toNat + 3
  cells : ∀ r : Register, r ≤ 2 → e.ram.get (c.bank.i.toNat + r) = e.get r
  others : ∀ a, a < c.bank.i.toNat ∨ c.bank.i.toNat + 2 < a → e.ram.get a = c.ram.get a
  rest : e = { c with ram := e.ram, bank := e.bank }

variable {c d e : Core} {x r : Register}

lemma le_nine_of_mem_decimalDigits {m n : Nat} (hn : n < 1000) (h : m ∈ decimalDigits n) :
    m ≤ 9 := by
  simp only [decimalDigits, List.mem_cons, List.not_mem_nil, or_false] at h
  omega

lemma spelled_after (h : c.bank.i.toNat ≤ 4093) : c.Spelled (c.after (.storeDecimal x)) x := by
  have hm : (c.after (.storeDecimal x)).ram = c.ram.blit c.bank.i.toNat (decimal (c.get x)) := rfl
  have hl := length_decimal (c.get x)
  refine ⟨?_, ?_, c.get_after _, c.i_after _⟩
  · intro j hj
    exact getElem?_decimalDigits hj (by omega)
  · intro a ha
    rw [hm, c.ram.get_blit_of_outside (by omega)]

lemma execute_decimal (h : c.bank.i.toNat ≤ 4093) :
    execute (.storeDecimal x) c = .done (c.after (.storeDecimal x)) :=
  execute_of_unhindered c (if_neg (by rw [pointer]; omega))

lemma Spelled.digit_of_loaded (hs : c.Spelled d x) (hl : d.Loaded e 2) (hr : r ≤ 2) :
    (decimalDigits (c.get x).toNat)[(r : Nat)]? = some (e.get r).toNat := by
  rw [hl.registers r hr, hs.pointer]
  exact hs.cells r (Nat.lt_succ_of_le hr)

lemma Spelled.readsBack (hs : c.Spelled d x) (hl : d.Loaded e 2)
    (hr : e = { c with ram := e.ram, bank := e.bank }) : c.ReadsBack e x := by
  have hx := (c.get x).toNat_lt
  have h0 := Option.some.inj (hs.digit_of_loaded hl (r := 0) (by decide))
  have h1 := Option.some.inj (hs.digit_of_loaded hl (r := 1) (by decide))
  have h2 := Option.some.inj (hs.digit_of_loaded hl (r := 2) (by decide))
  refine ⟨?_, ?_, ?_, ?_, ?_, ?_, hr⟩
  · intro r hr
    exact le_nine_of_mem_decimalDigits (by omega)
      (List.mem_of_getElem? (hs.digit_of_loaded hl hr))
  · rw [← h0, ← h1, ← h2]
    omega
  · intro r hr
    rw [hl.others r hr, hs.registers]
  · rw [hl.pointer, hs.pointer]
    rfl
  · intro r hr
    rw [hl.registers r hr, hl.ram, hs.pointer]
  · intro a ha
    rw [hl.ram, hs.others a ha]

/-- A number that is stored as a decimal comes back digit by digit with the next load, wherever it
came from and whatever the digits overwrite; only the load moves `I`. -/
theorem decimal_reads_back (c : Core) (x : Register) (h : c.bank.i.toNat ≤ 4093) :
    ∃ d e, execute (.storeDecimal x) c = .done d ∧ (c.At (.storeDecimal x) → c.cycle = .done d) ∧
      c.Spelled d x ∧
      execute (.loadUpTo 2) d = .done e ∧ (d.At (.loadUpTo 2) → d.cycle = .done e) ∧
      c.ReadsBack e x := by
  have hs := spelled_after (x := x) h
  have hd : (c.after (.storeDecimal x)).bank.i.toNat + (2 : Register) ≤ 4095 := by
    rw [hs.pointer]
    exact Nat.add_le_add_right h 2
  have hc := execute_decimal (x := x) h
  have hl := execute_load hd
  exact ⟨_, _, hc, fun ha => (cycle_of_at ha).trans hc, hs, hl,
    fun ha => (cycle_of_at ha).trans hl, hs.readsBack (loaded_after hd) rfl⟩

/-- About to store `V2` in the last three cells of memory, the last two of which come next. -/
def brim : Core where
  settings := .standard
  ram := Ram.zero
  bank := ⟨Vector.replicate 16 207, 0xFFD, 0xFFC⟩
  stack := CallStack.empty
  panel := Panel.fresh
  timers := Countdown.zero
  keypad := Keypad.released

theorem decimal_reads_back_brim : brim.bank.i.toNat ≤ 4093 ∧
    ∃ d e, execute (.storeDecimal 2) brim = .done d ∧ execute (.loadUpTo 2) d = .done e ∧
      (e.get 0).toNat = 2 ∧ (e.get 1).toNat = 0 ∧ (e.get 2).toNat = 7 ∧
      e.ram.get 4095 = e.get 2 ∧ e.bank.i.toNat = 4096 := by
  have h : brim.bank.i.toNat ≤ 4093 := by decide
  obtain ⟨d, e, hd, -, -, he, -, hr⟩ := decimal_reads_back brim 2 h
  have h0 := hr.digits 0 (by decide)
  have h1 := hr.digits 1 (by decide)
  have h2 := hr.digits 2 (by decide)
  have hv : 100 * (e.get 0).toNat + 10 * (e.get 1).toNat + (e.get 2).toNat = 207 := hr.value
  exact ⟨h, d, e, hd, he, by omega, by omega, by omega, hr.cells 2 (by decide), hr.pointer⟩

end Chip8.Core
