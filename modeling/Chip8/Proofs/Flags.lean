import Chip8.Proofs.Effects
import Mathlib.Data.Nat.Bitwise

/-! Arithmetic with a flag. Both operands and the flag are taken from the registers as they were,
and the flag is written last, so it stays whichever registers are named. -/

namespace Chip8

namespace AluOp

/-- The result and the flag of an operation on two numbers. -/
inductive Yields (a b : Int) : AluOp → Int → Int → Prop
  | add : Yields a b .add ((a + b) % 256) (if 255 < a + b then 1 else 0)
  | sub : Yields a b .sub ((a - b) % 256) (if a < b then 1 else 0)
  | shiftRight : Yields a b .shiftRight (b / 2) (a % 2)
  | subFrom : Yields a b .subFrom ((b - a) % 256) (if b < a then 1 else 0)
  | shiftLeft : Yields a b .shiftLeft (2 * b % 256) (a / 128)

variable {op : AluOp} {v f : Int}

lemma mask_iff (a : UInt8) {m : UInt8} {k : Nat} (hm : m.toNat = 2 ^ k) :
    (a &&& m != 0) = true ↔ a.toNat / 2 ^ k % 2 = 1 := by
  rw [bne_iff_ne, ne_eq, ← UInt8.toNat_inj, UInt8.toNat_and, hm, Nat.and_two_pow,
    Nat.testBit_eq_decide_div_mod_eq]
  by_cases h : a.toNat / 2 ^ k % 2 = 1 <;> simp [h]

lemma toNat_result {a b : UInt8} (h : Yields a.toNat b.toNat op v f) :
    ((op.result a b).toNat : Int) = v := by
  have ha := a.toNat_lt
  have hb := b.toNat_lt
  cases h with
  | add =>
    rw [result, UInt8.toNat_add]
    omega
  | sub =>
    rw [result, UInt8.toNat_sub]
    omega
  | shiftRight =>
    rw [result, UInt8.toNat_shiftRight, Nat.shiftRight_eq_div_pow]
    rfl
  | subFrom =>
    rw [result, UInt8.toNat_sub]
    omega
  | shiftLeft =>
    rw [result, UInt8.toNat_shiftLeft, Nat.shiftLeft_eq]
    change ((b.toNat * 2 ^ 1 % 256 : Nat) : Int) = _
    omega

lemma flag?_of_yields {a b : UInt8} (h : Yields a.toNat b.toNat op v f) :
    ∃ g, op.flag? a b = some g ∧ f = if g then 1 else 0 := by
  have ha := a.toNat_lt
  cases h with
  | add =>
    refine ⟨_, rfl, if_congr ?_ rfl rfl⟩
    rw [decide_eq_true_iff]
    omega
  | sub | subFrom =>
    refine ⟨_, rfl, if_congr ?_ rfl rfl⟩
    rw [decide_eq_true_iff, UInt8.lt_iff_toNat_lt]
    omega
  | shiftRight =>
    refine ⟨_, rfl, ?_⟩
    rw [if_congr (mask_iff a (k := 0) rfl) rfl rfl]
    split <;> omega
  | shiftLeft =>
    refine ⟨_, rfl, ?_⟩
    rw [if_congr (mask_iff a (k := 7) rfl) rfl rfl]
    split <;> omega

/-- What a sum carries and a difference borrows is in the flag, so the two together are exact. -/
lemma Yields.exact_add {a b : UInt8} (h : Yields a.toNat b.toNat .add v f) :
    v + 256 * f = a.toNat + b.toNat := by
  have ha := a.toNat_lt
  have hb := b.toNat_lt
  cases h
  split <;> omega

lemma Yields.exact_sub {a b : UInt8} (h : Yields a.toNat b.toNat .sub v f) :
    v - 256 * f = a.toNat - b.toNat := by
  have ha := a.toNat_lt
  have hb := b.toNat_lt
  cases h
  split <;> omega

lemma Yields.exact_subFrom {a b : UInt8} (h : Yields a.toNat b.toNat .subFrom v f) :
    v - 256 * f = b.toNat - a.toNat := by
  cases h
  exact exact_sub .sub

variable {x y : Register} {b : RegisterBank}

lemma apply_of_flag? {g : Bool} (h : op.flag? (b.get x) (b.get y) = some g) :
    op.apply x y b = (b.set x (op.result (b.get x) (b.get y))).setFlag g := by
  rw [apply, h]

end AluOp

namespace Core

/-- An operation on `VX` whose result is `v` and whose flag is `f` led from `c` to `d`. -/
structure Computes (c d : Core) (x : Register) (v f : Int) : Prop where
  flag : ((d.get flagRegister).toNat : Int) = f
  result : x ≠ flagRegister → ((d.get x).toNat : Int) = v
  registers : ∀ r, r ≠ x → r ≠ flagRegister → d.get r = c.get r
  pointer : d.bank.i = c.bank.i

variable {op : AluOp} {x y : Register} {v f : Int}

lemma computes_after {c : Core} (h : op.Yields (c.get x).toNat (c.get y).toNat v f) :
    c.Computes (c.after (.alu op x y)) x v f := by
  obtain ⟨g, hg, rfl⟩ := AluOp.flag?_of_yields h
  have hb : c.bankAfter (.alu op x y) =
      (c.bank.set x (op.result (c.get x) (c.get y))).setFlag g := AluOp.apply_of_flag? hg
  refine ⟨?_, ?_, ?_, ?_⟩
  · rw [get_after, hb, RegisterBank.setFlag, RegisterBank.get_set, if_pos rfl]
    cases g <;> rfl
  · intro hx
    rw [get_after, hb, RegisterBank.setFlag, RegisterBank.get_set, if_neg hx.symm,
      RegisterBank.get_set, if_pos rfl]
    exact AluOp.toNat_result h
  · intro r hx hf
    exact (get_after c _ r).trans (get_bankAfter hx fun h => hf h.1)
  · exact (i_after c _).trans (i_bankAfter id)

lemma exists_computes (c : Core) (h : op.Yields (c.get x).toNat (c.get y).toNat v f) :
    ∃ d, execute (.alu op x y) c = .done d ∧ c.Computes d x v f :=
  ⟨_, c.execute_eq (.alu op x y), computes_after h⟩

/-- A carry on the way up is a borrow on the way down. -/
lemma exists_undone (c : Core) (hx : x ≠ flagRegister) (hy : y ≠ flagRegister) (hn : x ≠ y) :
    ∃ d e, execute (.alu .add x y) c = .done d ∧ execute (.alu .sub x y) d = .done e ∧
      e.get x = c.get x ∧ e.get flagRegister = d.get flagRegister := by
  have ha := (c.get x).toNat_lt
  have hb := (c.get y).toNat_lt
  obtain ⟨d, hd, hs⟩ := c.exists_computes (x := x) (y := y) .add
  obtain ⟨e, he, ht⟩ := d.exists_computes (x := x) (y := y) .sub
  have hr := hs.result hx
  have hv := hs.registers y hn.symm hy
  have hf := hs.flag
  have hw := ht.result hx
  have hg := ht.flag
  rw [hv] at hw hg
  refine ⟨d, e, hd, he, ?_, ?_⟩
  · apply UInt8.toNat_inj.mp
    omega
  · apply UInt8.toNat_inj.mp
    split at hf <;> split at hg <;> omega

/-- An operation with a flag leaves its result in `VX` and its flag in `VF`, where the flag
prevails, and changes no other register. -/
theorem flag_arithmetic :
    (∀ (c : Core) (op : AluOp) (x y : Register) (v f : Int),
      op.Yields (c.get x).toNat (c.get y).toNat v f →
        ∃ d, execute (.alu op x y) c = .done d ∧ (c.At (.alu op x y) → c.cycle = .done d) ∧
          c.Computes d x v f) ∧
    (∀ (c : Core) (x y : Register), x ≠ flagRegister → ∃ d e g,
      execute (.alu .add x y) c = .done d ∧ execute (.alu .sub x y) c = .done e ∧
      execute (.alu .subFrom x y) c = .done g ∧
      (d.get x).toNat + 256 * ((d.get flagRegister).toNat : Int) =
        (c.get x).toNat + (c.get y).toNat ∧
      (e.get x).toNat - 256 * ((e.get flagRegister).toNat : Int) =
        (c.get x).toNat - (c.get y).toNat ∧
      (g.get x).toNat - 256 * ((g.get flagRegister).toNat : Int) =
        (c.get y).toNat - (c.get x).toNat) ∧
    ∀ (c : Core) (x y : Register), x ≠ flagRegister → y ≠ flagRegister → x ≠ y → ∃ d e,
      execute (.alu .add x y) c = .done d ∧ execute (.alu .sub x y) d = .done e ∧
      e.get x = c.get x ∧ e.get flagRegister = d.get flagRegister := by
  refine ⟨?_, ?_, fun c x y => c.exists_undone⟩
  · intro c op x y v f h
    obtain ⟨d, hd, hc⟩ := c.exists_computes h
    exact ⟨d, hd, fun hi => (cycle_of_at hi).trans hd, hc⟩
  · intro c x y hx
    obtain ⟨d, hd, hs⟩ := c.exists_computes (x := x) (y := y) .add
    obtain ⟨e, he, ht⟩ := c.exists_computes (x := x) (y := y) .sub
    obtain ⟨g, hg, hu⟩ := c.exists_computes (x := x) (y := y) .subFrom
    refine ⟨d, e, g, hd, he, hg, ?_, ?_, ?_⟩
    · rw [hs.result hx, hs.flag]
      exact AluOp.Yields.add.exact_add
    · rw [ht.result hx, ht.flag]
      exact AluOp.Yields.sub.exact_sub
    · rw [hu.result hx, hu.flag]
      exact AluOp.Yields.subFrom.exact_subFrom

/-- Every register holds 200. -/
def level : Core where
  settings := .standard
  ram := Ram.zero
  bank := { RegisterBank.start 0x200 with v := Vector.replicate 16 200 }
  stack := CallStack.empty
  panel := Panel.fresh
  timers := Countdown.zero
  keypad := Keypad.released

theorem flag_arithmetic_level :
    (∃ d, execute (.alu .add 15 15) level = .done d ∧ d.get 15 = 1) ∧
    (∃ d e, execute (.alu .add 0 1) level = .done d ∧ execute (.alu .sub 0 1) d = .done e ∧
      e.get 0 = 200 ∧ e.get flagRegister = d.get flagRegister) ∧
    ∃ d, execute (.alu .shiftLeft 0 0) level = .done d ∧ d.get 0 = 144 ∧ d.get 15 = 1 := by
  refine ⟨?_, ?_, ?_⟩
  · obtain ⟨d, hd, -, h⟩ := flag_arithmetic.1 level .add 15 15 _ _ .add
    have hf : ((d.get 15).toNat : Int) = 1 := h.flag
    exact ⟨d, hd, UInt8.toNat_inj.mp (Int.ofNat_inj.mp hf)⟩
  · exact flag_arithmetic.2.2 level 0 1 (by decide) (by decide) (by decide)
  · obtain ⟨d, hd, -, h⟩ := flag_arithmetic.1 level .shiftLeft 0 0 _ _ .shiftLeft
    have hr : ((d.get 0).toNat : Int) = 144 := h.result (by decide)
    have hf : ((d.get 15).toNat : Int) = 1 := h.flag
    exact ⟨d, hd, UInt8.toNat_inj.mp (Int.ofNat_inj.mp hr),
      UInt8.toNat_inj.mp (Int.ofNat_inj.mp hf)⟩

end Core

end Chip8
