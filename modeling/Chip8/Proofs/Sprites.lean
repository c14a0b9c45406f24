import Chip8.Screen.Panel
import Mathlib.Data.List.Induction
import Mathlib.Data.Set.Lattice
import Mathlib.Order.CompletePartialOrder
import Mathlib.Order.ConditionallyCompleteLattice.Basic
import Mathlib.Tactic.Common

/-! The algebra of sprites. A screen is the set of its lit pixels, a draw the set of positions that
its set bits cover, and drawing the symmetric difference of the two. -/

namespace Chip8

open scoped symmDiff

abbrev Position := Column × Line

namespace Screen

def pixels (s : Screen) : Set Position :=
  {p | s.lit p.1 p.2 = true}

/-- The positions of the set bits of a sprite with its upper left corner at `(x, y)`: bit `7 - j`
of row `k` lies `j` columns to the right and `k` lines below, around both edges. -/
def imprint (x y : Int) (sprite : List UInt8) : Set Position :=
  {p | ∃ (j k : Nat) (row : UInt8), j < 8 ∧ sprite[k]? = some row ∧
    row.toNat.testBit (7 - j) = true ∧ (p.1 : Int) = (x + j) % 64 ∧ (p.2 : Int) = (y + k) % 32}

variable {s t : Screen} {x y : Int} {rows : List UInt8} {l : Line}

lemma mem_pixels {c : Column} : (c, l) ∈ s.pixels ↔ (s.line l).getMsbD c = true :=
  Iff.rfl

lemma eq_of_pixels (h : s.pixels = t.pixels) : s = t := by
  have hl (l : Line) : s.line l = t.line l := by
    apply BitVec.eq_of_getMsbD_eq
    intro c hc
    exact Bool.eq_iff_iff.mpr (Set.ext_iff.mp h (⟨c, hc⟩, l))
  obtain ⟨u⟩ := s
  obtain ⟨v⟩ := t
  exact congrArg Screen.mk (Vector.ext fun k hk => hl ⟨k, hk⟩)

lemma lineOf_injective {j k : Nat} (hj : j < 32) (hk : k < 32) (h : lineOf y j = lineOf y k) :
    j = k := by
  simp only [lineOf, Fin.ext_iff] at h
  omega

lemma mem_imprint (c : Column) : (c, l) ∈ imprint x y rows ↔
    ∃ k row, rows[k]? = some row ∧ lineOf y k = l ∧ (stamp x row).getMsbD c = true := by
  constructor
  · rintro ⟨j, k, row, hj, hr, hb, hc, hl⟩
    dsimp only at hc hl
    refine ⟨k, row, hr, ?_, ?_⟩
    · simp only [lineOf, Fin.ext_iff]
      omega
    · have hd : (((c : Int) - x) % 64).toNat = j := by omega
      rw [getMsbD_stamp, hd]
      simp only [BitVec.getMsbD, hj, decide_true, Bool.true_and]
      exact hb
  · rintro ⟨k, row, hr, hl, hb⟩
    rw [getMsbD_stamp] at hb
    simp only [BitVec.getMsbD, Bool.and_eq_true, decide_eq_true_eq] at hb
    obtain ⟨hj, hb⟩ := hb
    refine ⟨_, k, row, hj, hr, hb, ?_, ?_⟩
    · dsimp only
      omega
    · simp only [lineOf, Fin.ext_iff] at hl
      dsimp only
      omega

lemma paint_concat (s : Screen) (x y : Int) (rows : List UInt8) (row : UInt8) :
    s.paint x y (rows ++ [row]) = s.stampLine (s.paint x y rows) x y row rows.length := by
  rw [paint, List.zipIdx_append, List.foldl_append]
  simp only [List.zipIdx_cons, List.zipIdx_nil, List.foldl_cons, List.foldl_nil, Nat.zero_add]
  rfl

lemma line_paint_of_uncovered (h : ∀ k < rows.length, lineOf y k ≠ l) :
    (s.paint x y rows).line l = s.line l := by
  induction rows using List.reverseRecOn with
  | nil => rfl
  | append_singleton rows row ih =>
    simp only [List.length_append, List.length_singleton] at h
    rw [paint_concat, line_stampLine, if_neg (h _ (Nat.lt_succ_self _))]
    exact ih fun k hk => h k (Nat.lt_succ_of_lt hk)

/-- Of the rows that cover a line the last decides. -/
lemma line_paint_of_last {k : Nat} {row : UInt8} (hr : rows[k]? = some row) (hl : lineOf y k = l)
    (hlast : ∀ j, k < j → j < rows.length → lineOf y j ≠ l) :
    (s.paint x y rows).line l = s.line l ^^^ stamp x row := by
  induction rows using List.reverseRecOn with
  | nil => cases hr
  | append_singleton rows last ih =>
    have hk := (List.getElem?_eq_some_iff.mp hr).1
    simp only [List.length_append, List.length_singleton] at hk hlast
    rw [paint_concat, line_stampLine]
    rcases Nat.lt_succ_iff_lt_or_eq.mp hk with hk | rfl
    · rw [if_neg (hlast _ hk (Nat.lt_succ_self _))]
      rw [List.getElem?_append_left hk] at hr
      exact ih hr fun j hj hn => hlast j hj (Nat.lt_succ_of_lt hn)
    · rw [List.getElem?_concat_length] at hr
      obtain rfl := Option.some.inj hr
      rw [if_pos hl]

lemma pixels_paint (s : Screen) (x y : Int) (h : rows.length ≤ 32) :
    (s.paint x y rows).pixels = s.pixels ∆ imprint x y rows := by
  ext ⟨c, l⟩
  -- no two rows cover the same line, because there are at most as many rows as lines
  by_cases hc : ∃ k, k < rows.length ∧ lineOf y k = l
  · obtain ⟨k, hk, hl⟩ := hc
    have hr : rows[k]? = some rows[k] := List.getElem?_eq_getElem hk
    have hp : (s.paint x y rows).line l = s.line l ^^^ stamp x rows[k] := by
      refine line_paint_of_last hr hl ?_
      rintro j hj hn rfl
      exact Nat.ne_of_lt hj (lineOf_injective (by omega) (by omega) hl)
    have hm : (c, l) ∈ imprint x y rows ↔ (stamp x rows[k]).getMsbD c = true := by
      rw [mem_imprint]
      constructor
      · rintro ⟨j, row, hj, hm, hb⟩
        have hn := (List.getElem?_eq_some_iff.mp hj).1
        obtain rfl := lineOf_injective (by omega) (by omega) (hm.trans hl.symm)
        rwa [Option.some.inj (hj.symm.trans hr)] at hb
      · intro hb
        exact ⟨k, _, hr, hl, hb⟩
    rw [Set.mem_symmDiff, hm, mem_pixels, mem_pixels, hp, BitVec.getMsbD_xor]
    cases (s.line l).getMsbD c <;> cases (stamp x rows[k]).getMsbD c <;> simp
  · have hu : ∀ k < rows.length, lineOf y k ≠ l := fun k hk hl => hc ⟨k, hk, hl⟩
    have hm : (c, l) ∉ imprint x y rows := by
      rw [mem_imprint]
      rintro ⟨k, row, hr, hl, -⟩
      exact hu k (List.getElem?_eq_some_iff.mp hr).1 hl
    rw [Set.mem_symmDiff, mem_pixels, mem_pixels, line_paint_of_uncovered hu]
    simp only [hm, not_false_eq_true, and_true, false_and, or_false]

lemma hits_iff {row : UInt8} {k : Nat} : s.hits x y row k = true ↔
    ∃ c : Column, (c, lineOf y k) ∈ s.pixels ∧ (stamp x row).getMsbD c = true := by
  rw [hits, bne_iff_ne]
  constructor
  · intro hn
    by_contra hc
    refine hn (BitVec.eq_of_getMsbD_eq ?_)
    intro c h
    have hz : (0 : BitVec 64).getMsbD c = false := BitVec.getMsbD_zero
    rw [BitVec.getMsbD_and, hz, Bool.eq_false_iff]
    intro hb
    exact hc ⟨⟨c, h⟩, Bool.and_eq_true_iff.mp hb⟩
  · rintro ⟨c, hp, hb⟩ hz
    have hg := congrArg (BitVec.getMsbD · c) hz
    simp only [BitVec.getMsbD_and, mem_pixels.mp hp, hb] at hg
    simp at hg

lemma collides_iff : s.collides x y rows = true ↔ ¬ Disjoint (imprint x y rows) s.pixels := by
  rw [Set.not_disjoint_iff, collides, List.any_eq_true]
  constructor
  · rintro ⟨⟨row, k⟩, hm, hh⟩
    obtain ⟨c, hp, hb⟩ := hits_iff.mp hh
    have hr := List.mem_zipIdx_iff_getElem?.mp hm
    exact ⟨(c, lineOf y k), (mem_imprint c).mpr ⟨k, row, hr, rfl, hb⟩, hp⟩
  · rintro ⟨⟨c, l⟩, hi, hp⟩
    obtain ⟨k, row, hr, rfl, hb⟩ := (mem_imprint c).mp hi
    exact ⟨(row, k), List.mem_zipIdx_iff_getElem?.mpr hr, hits_iff.mpr ⟨c, hp, hb⟩⟩

end Screen

end Chip8
