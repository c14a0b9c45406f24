import Chip8.Time.Clock
import Mathlib.Data.Rat.Floor
import Mathlib.Tactic.Linarith
import Mathlib.Tactic.Ring
import Mathlib.Tactic.Positivity

/-! Rounding to binary floating-point numbers: a rounded number that lies below another one lies
below it after rounding too, so a timer whose period has passed is due. -/

namespace Chip8.Time.Binary64

lemma le_roundEven {n : Int} {q : Rat} (h : (n : Rat) ≤ q) : n ≤ roundEven q := by
  have hf : n ≤ q.floor := Rat.le_floor_iff.mpr h
  simp only [roundEven]
  split_ifs <;> omega

lemma roundEven_le {n : Int} {q : Rat} (h : q ≤ n) : roundEven q ≤ n := by
  have hf : (q.floor : Rat) ≤ q := q.floor_le
  rcases (Int.cast_le (R := Rat).mp (hf.trans h)).lt_or_eq with hn | hn
  · simp only [roundEven]
    split_ifs <;> omega
  · -- here `q` is the integer itself
    have hq : q - q.floor < 1 / 2 := by
      rw [hn]
      linarith
    simp only [roundEven, if_pos hq]
    exact hn.le

lemma two_pow_log2_le {n : Nat} (h : n ≠ 0) : (2 : Rat) ^ (n.log2 : Int) ≤ n := by
  rw [zpow_natCast]
  exact_mod_cast Nat.log2_self_le h

lemma lt_two_pow_log2 (n : Nat) : (n : Rat) < 2 ^ (n.log2 + 1 : Int) := by
  rw [← Nat.cast_succ, zpow_natCast]
  exact_mod_cast Nat.lt_log2_self

lemma two_pow_add (a b : Int) : (2 : Rat) ^ (a + b) = 2 ^ a * 2 ^ b :=
  zpow_add₀ two_ne_zero a b

lemma two_pow_pos (a : Int) : (0 : Rat) < 2 ^ a :=
  zpow_pos two_pos a

/-- Numerator and denominator lie between powers of two, and so does their quotient. -/
lemma two_pow_le_div {a b : Nat} (ha : a ≠ 0) (hb : b ≠ 0) :
    (2 : Rat) ^ (a.log2 - b.log2 - 1 : Int) ≤ a / b ∧
      (a : Rat) / b < 2 ^ (a.log2 - b.log2 + 1 : Int) := by
  have hb0 : (0 : Rat) < b := by positivity
  constructor
  · rw [le_div_iff₀ hb0]
    calc (2 : Rat) ^ (a.log2 - b.log2 - 1 : Int) * b
        ≤ 2 ^ (a.log2 - b.log2 - 1 : Int) * 2 ^ (b.log2 + 1 : Int) :=
          mul_le_mul_of_nonneg_left (lt_two_pow_log2 b).le (two_pow_pos _).le
      _ = 2 ^ (a.log2 : Int) := by rw [← two_pow_add]; congr 1; omega
      _ ≤ a := two_pow_log2_le ha
  · rw [div_lt_iff₀ hb0]
    calc (a : Rat) < 2 ^ (a.log2 + 1 : Int) := lt_two_pow_log2 a
      _ = 2 ^ (a.log2 - b.log2 + 1 : Int) * 2 ^ (b.log2 : Int) := by
          rw [← two_pow_add]; congr 1; omega
      _ ≤ 2 ^ (a.log2 - b.log2 + 1 : Int) * b :=
          mul_le_mul_of_nonneg_left (two_pow_log2_le hb) (two_pow_pos _).le

lemma exponent_bounds {q : Rat} (h : 0 < q) :
    (2 : Rat) ^ exponent q ≤ q ∧ q < 2 ^ (exponent q + 1) := by
  have hn : q.num.natAbs ≠ 0 := Int.natAbs_ne_zero.mpr (Rat.num_ne_zero.mpr h.ne')
  have hq : (q.num.natAbs : Rat) / q.den = q := by
    rw [Nat.cast_natAbs, abs_of_pos (Rat.num_pos.mpr h), Rat.num_div_den]
  obtain ⟨hl, hu⟩ := two_pow_le_div hn q.den_ne_zero
  rw [hq] at hl hu
  simp only [exponent]
  split_ifs with he
  · exact ⟨hl, by rwa [Int.sub_add_cancel]⟩
  · exact ⟨not_lt.mp he, hu⟩

lemma lt_lastPlace {q : Rat} (h : 0 < q) : q < 2 ^ (lastPlace q + 53) := by
  refine (exponent_bounds h).2.trans_le ?_
  apply zpow_le_zpow_right₀ one_le_two
  simp only [lastPlace]
  omega

lemma round_of_pos {q : Rat} (h : 0 < q) :
    round q = roundEven (q / 2 ^ lastPlace q) * 2 ^ lastPlace q := by
  have ha : q.abs = q := Rat.abs_of_nonneg h.le
  rw [round, if_neg h.ne', ha]

/-- A multiple of the last place of `q` that does not exceed `q` does not exceed it rounded. -/
lemma mul_le_round {q : Rat} {n : Int} (h : 0 < q) (hn : n * 2 ^ lastPlace q ≤ q) :
    n * 2 ^ lastPlace q ≤ round q := by
  rw [round_of_pos h]
  apply mul_le_mul_of_nonneg_right _ (two_pow_pos _).le
  exact_mod_cast le_roundEven ((le_div_iff₀ (two_pow_pos _)).mpr hn)

lemma round_zero : round 0 = 0 :=
  if_pos rfl

lemma round_nonneg {q : Rat} (h : 0 ≤ q) : 0 ≤ round q := by
  rcases h.eq_or_lt with rfl | h
  · exact round_zero.ge
  · rw [round_of_pos h]
    have hk : 0 ≤ roundEven (q / 2 ^ lastPlace q) :=
      le_roundEven (by rw [Int.cast_zero]; exact div_nonneg h.le (two_pow_pos _).le)
    exact mul_nonneg (Int.cast_nonneg hk) (two_pow_pos _).le

/-- A rounded number has no more than 53 digits. -/
lemma round_le {p : Rat} (h : 0 < p) : round p ≤ 2 ^ (lastPlace p + 53) := by
  have hq : p / 2 ^ lastPlace p ≤ ((2 ^ 53 : Int) : Rat) := by
    rw [div_le_iff₀ (two_pow_pos _)]
    calc p ≤ 2 ^ (lastPlace p + 53) := (lt_lastPlace h).le
      _ = ((2 ^ 53 : Int) : Rat) * 2 ^ lastPlace p := by
        rw [two_pow_add, mul_comm]
        norm_num
  rw [round_of_pos h, two_pow_add, mul_comm]
  apply mul_le_mul_of_nonneg_left _ (two_pow_pos _).le
  calc (roundEven (p / 2 ^ lastPlace p) : Rat) ≤ ((2 ^ 53 : Int) : Rat) := by
        exact_mod_cast roundEven_le hq
    _ = 2 ^ (53 : Int) := by norm_num

lemma two_pow_le_of_lastPlace {q : Rat} (h : 0 < q) (hl : -1074 < lastPlace q) :
    (2 : Rat) ^ (lastPlace q + 52) ≤ q := by
  have he : lastPlace q + 52 = exponent q := by
    simp only [lastPlace] at hl ⊢
    omega
  rw [he]
  exact (exponent_bounds h).1

/-- A multiple of a coarser last place is one of the finer last place too. -/
lemma exists_mul_two_pow {l e : Int} (h : l ≤ e) (n : Int) :
    ∃ m : Int, (n * 2 ^ e : Rat) = m * 2 ^ l := by
  obtain ⟨j, rfl⟩ := Int.le.dest h
  refine ⟨n * 2 ^ j, ?_⟩
  rw [two_pow_add, zpow_natCast, Int.cast_mul, Int.cast_pow]
  push_cast
  ring

/-- What lies above a rounded number is rounded to something above it. -/
lemma round_le_round {p q : Rat} (hp : 0 ≤ p) (h : round p ≤ q) : round p ≤ round q := by
  rcases hp.eq_or_lt with rfl | hp
  · rw [round_zero] at h ⊢
    exact round_nonneg h
  rcases ((round_nonneg hp.le).trans h).eq_or_lt with rfl | hq
  · rwa [round_zero]
  by_cases hl : lastPlace q ≤ lastPlace p
  · obtain ⟨m, hm⟩ := exists_mul_two_pow hl (roundEven (p / 2 ^ lastPlace p))
    rw [round_of_pos hp, hm] at h ⊢
    exact mul_le_round hq h
  · have hl : lastPlace p + 53 ≤ lastPlace q + 52 := by omega
    have hs : -1074 < lastPlace q := by
      have : -1074 ≤ lastPlace p := le_max_right _ _
      omega
    have hm : (2 : Rat) ^ (lastPlace q + 52) = ((2 ^ 52 : Int) : Rat) * 2 ^ lastPlace q := by
      rw [two_pow_add, mul_comm]
      norm_num
    have ht := two_pow_le_of_lastPlace hq hs
    refine ((round_le hp).trans (zpow_le_zpow_right₀ one_le_two hl)).trans ?_
    rw [hm] at ht ⊢
    exact mul_le_round hq ht

lemma roundEven_intCast (n : Int) : roundEven n = n :=
  le_antisymm (roundEven_le le_rfl) (le_roundEven le_rfl)

lemma lastPlace_le {q : Rat} {e : Int} (h : 0 < q) (hq : q < 2 ^ (e + 53)) (he : -1074 ≤ e) :
    lastPlace q ≤ e := by
  have hx : exponent q < e + 53 :=
    (zpow_lt_zpow_iff_right₀ one_lt_two).mp ((exponent_bounds h).1.trans_lt hq)
  simp only [lastPlace]
  omega

lemma abs_eq (q : Rat) : q.abs = |q| := by
  rcases le_total 0 q with h | h
  · rw [Rat.abs_of_nonneg h, abs_of_nonneg h]
  · rw [Rat.abs_of_nonpos h, abs_of_nonpos h]

/-- What 53 digits can write stays as it is. -/
lemma round_eq_self {n e : Int} (hn : |n| < 2 ^ 53) (he : -1074 ≤ e) :
    round (n * 2 ^ e) = n * 2 ^ e := by
  rcases eq_or_ne n 0 with rfl | h0
  · rw [Int.cast_zero, zero_mul, round_zero]
  have hq : (n * 2 ^ e : Rat) ≠ 0 := mul_ne_zero (Int.cast_ne_zero.mpr h0) (two_pow_pos e).ne'
  have hl : lastPlace (n * 2 ^ e : Rat).abs ≤ e := by
    rw [abs_eq]
    apply lastPlace_le (abs_pos.mpr hq) _ he
    have hc : (|n| : Rat) < 2 ^ (53 : Int) := by exact_mod_cast hn
    rw [abs_mul, abs_of_pos (two_pow_pos e), add_comm e, two_pow_add]
    exact mul_lt_mul_of_pos_right hc (two_pow_pos e)
  obtain ⟨m, hm⟩ := exists_mul_two_pow hl n
  have hd := (div_eq_iff (two_pow_pos _).ne').mpr hm
  rw [round, if_neg hq]
  dsimp only
  rw [hd, roundEven_intCast, ← hm]

lemma two_pow_lastPlace_le {q : Rat} (h : 2 ^ (-1074 : Int) ≤ q) : (2 : Rat) ^ lastPlace q ≤ q := by
  have hq : 0 < q := (two_pow_pos _).trans_le h
  rcases le_total (exponent q - 52) (-1074) with hl | hl
  · rwa [lastPlace, max_eq_right hl]
  · rw [lastPlace, max_eq_left hl]
    exact (zpow_le_zpow_right₀ one_le_two (by omega)).trans (exponent_bounds hq).1

lemma round_pos {q : Rat} (h : 2 ^ (-1074 : Int) ≤ q) : 0 < round q := by
  have hl := two_pow_lastPlace_le h
  rw [← one_mul ((2 : Rat) ^ lastPlace q), ← Int.cast_one] at hl
  have hr := mul_le_round ((two_pow_pos _).trans_le h) hl
  rw [Int.cast_one, one_mul] at hr
  exact (two_pow_pos _).trans_le hr

end Chip8.Time.Binary64

namespace Chip8.Time

lemma due_of_le {rate : Nat} {period last now : Rat} (hp : period? rate = some period)
    (h : period ≤ now - last) : due period last now = true := by
  have hr : 0 ≤ 1 / Binary64.round rate :=
    one_div_nonneg.mpr (Binary64.round_nonneg (Nat.cast_nonneg rate))
  obtain rfl := Option.some.inj (Option.ite_none_right_eq_some.mp hp).2
  exact decide_eq_true (Binary64.round_le_round hr h)

lemma period_pos {rate : Nat} {period : Rat} (hp : period? rate = some period) (h : 0 < rate) :
    0 < period := by
  obtain ⟨hl, hr⟩ := Option.ite_none_right_eq_some.mp hp
  have h1 : (2 : Rat) ^ (-1074 : Int) ≤ rate := by
    have hn : (1 : Rat) ≤ rate := by exact_mod_cast h
    exact (zpow_le_one_of_nonpos₀ one_le_two (by decide)).trans hn
  have h0 := Binary64.round_pos h1
  rw [← Option.some.inj hr]
  apply Binary64.round_pos
  rw [le_one_div (Binary64.two_pow_pos _) h0, one_div, ← zpow_neg]
  exact hl.le.trans (zpow_le_zpow_right₀ one_le_two (by decide))

end Chip8.Time
