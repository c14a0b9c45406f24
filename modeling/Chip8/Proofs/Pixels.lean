import Chip8.Proofs.Sprites

/-! What a draw does to a single pixel. A sprite may be higher than the screen; then several of its
rows come to lie on one line, and the last of them decides. -/

namespace Chip8

open scoped symmDiff

namespace Screen

/-- How far a column lies to the right of `x`, around the edge. -/
def across (x : Int) (c : Column) : Nat := (((c : Int) - x) % 64).toNat

/-- How far a line lies below `y`, around the edge. -/
def below (y : Int) (l : Line) : Nat := (((l : Int) - y) % 32).toNat

def columnOf (x : Int) (j : Nat) : Column :=
  ⟨((x + j) % 64).toNat, by omega⟩

variable {s : Screen} {x y : Int} {rows : List UInt8} {row : UInt8} {c : Column} {l : Line}

lemma lit_blank (c : Column) (l : Line) : blank.lit c l = false := by
  simp [lit, line, blank]

lemma lineOf_eq_iff {k : Nat} : lineOf y k = l ↔ k % 32 = below y l := by
  simp only [lineOf, below, Fin.ext_iff]
  omega

lemma below_lt (y : Int) (l : Line) : below y l < 32 := by
  rw [below]
  omega

lemma getMsbD_row (row : UInt8) (j : Nat) :
    row.toBitVec.getMsbD j = (decide (j < 8) && row.toNat.testBit (7 - j)) :=
  rfl

lemma exists_last {n r : Nat} (hr : r < 32) (hn : r < n) :
    ∃ k, IsGreatest {j | j < n ∧ j % 32 = r} k := by
  -- from row `r` on as many whole screens down as the rows reach
  refine ⟨r + 32 * ((n - 1 - r) / 32), ⟨by omega, by omega⟩, ?_⟩
  rintro j ⟨hj, hm⟩
  omega

lemma lit_paint_of_uncovered (h : rows.length ≤ below y l) :
    (s.paint x y rows).lit c l = s.lit c l := by
  have hu : ∀ k < rows.length, lineOf y k ≠ l := by
    intro k hk he
    rw [lineOf_eq_iff] at he
    omega
  rw [lit, lit, line_paint_of_uncovered hu]

lemma lit_paint_of_last {k : Nat}
    (hk : IsGreatest {j | j < rows.length ∧ j % 32 = below y l} k) (hr : rows[k]? = some row) :
    (s.paint x y rows).lit c l =
      (s.lit c l ^^ (decide (across x c < 8) && row.toNat.testBit (7 - across x c))) := by
  have hl : ∀ j, k < j → j < rows.length → lineOf y j ≠ l := by
    intro j hj hn he
    exact Nat.not_lt.mpr (hk.2 ⟨hn, lineOf_eq_iff.mp he⟩) hj
  rw [lit, lit, line_paint_of_last hr (lineOf_eq_iff.mpr hk.1.2) hl, BitVec.getMsbD_xor,
    getMsbD_stamp, getMsbD_row]
  rfl

lemma exists_deciding (s : Screen) (x : Int) {h : Nat} (hl : h ≤ rows.length)
    (hb : below y l < h) : ∃ k row,
    IsGreatest {j | j < h ∧ j % 32 = below y l} k ∧ rows[k]? = some row ∧
    ∀ c, (s.paint x y (rows.take h)).lit c l =
      (s.lit c l ^^ (decide (across x c < 8) && row.toNat.testBit (7 - across x c))) := by
  obtain ⟨k, hk⟩ := exists_last (below_lt y l) hb
  have hn : k < rows.length := hk.1.1.trans_le hl
  have ht : (rows.take h).length = h := List.length_take_of_le hl
  refine ⟨k, rows[k], hk, List.getElem?_eq_getElem hn, ?_⟩
  intro c
  apply lit_paint_of_last
  · rwa [ht]
  · rw [List.getElem?_take_of_lt hk.1.1, List.getElem?_eq_getElem hn]

lemma mem_imprint_take {h : Nat} {p : Position} : p ∈ imprint x y (rows.take h) ↔
    ∃ j k row, j < 8 ∧ k < h ∧ rows[k]? = some row ∧ row.toNat.testBit (7 - j) = true ∧
      p = (columnOf x j, lineOf y k) := by
  obtain ⟨c, l⟩ := p
  have hp (j k : Nat) : (c, l) = (columnOf x j, lineOf y k) ↔
      (c : Int) = (x + j) % 64 ∧ (l : Int) = (y + k) % 32 := by
    simp only [Prod.mk.injEq, columnOf, lineOf, Fin.ext_iff]
    omega
  simp only [imprint, Set.mem_ofPred_eq, List.getElem?_take, Option.ite_none_right_eq_some, hp,
    and_assoc]

lemma collides_take_iff {h : Nat} : s.collides x y (rows.take h) = true ↔
    ∃ j k row, j < 8 ∧ k < h ∧ rows[k]? = some row ∧ row.toNat.testBit (7 - j) = true ∧
      s.lit (columnOf x j) (lineOf y k) = true := by
  rw [collides_iff, Set.not_disjoint_iff]
  simp only [mem_imprint_take]
  constructor
  · rintro ⟨_, ⟨j, k, row, hj, hk, hr, hb, rfl⟩, hp⟩
    exact ⟨j, k, row, hj, hk, hr, hb, hp⟩
  · rintro ⟨j, k, row, hj, hk, hr, hb, hp⟩
    exact ⟨_, ⟨j, k, row, hj, hk, hr, hb, rfl⟩, hp⟩

lemma exists_erased_iff (h : rows.length ≤ 32) : ¬ Disjoint (imprint x y rows) s.pixels ↔
    ∃ c l, s.lit c l = true ∧ (s.paint x y rows).lit c l = false := by
  rw [Set.not_disjoint_iff]
  have he (p : Position) : p ∈ imprint x y rows ∧ p ∈ s.pixels ↔
      p ∈ s.pixels ∧ p ∉ (s.paint x y rows).pixels := by
    rw [pixels_paint s x y h, Set.mem_symmDiff]
    tauto
  constructor
  · rintro ⟨p, hp⟩
    obtain ⟨hl, hn⟩ := (he p).mp hp
    exact ⟨p.1, p.2, hl, Bool.eq_false_iff.mpr hn⟩
  · rintro ⟨c, l, hl, hn⟩
    exact ⟨(c, l), (he (c, l)).mpr ⟨hl, Bool.eq_false_iff.mp hn⟩⟩

end Screen

namespace Panel

open Screen

/-- What a draw of `height` rows at `(x, y)` that answers `hit` makes of each pixel. -/
structure Drawn (p q : Panel) (x y : Int) (height : Nat) (sprite : List UInt8) (hit : Bool) :
    Prop where
  outside : ∀ c l, 8 ≤ across x c ∨ height ≤ below y l → q.screen.lit c l = p.screen.lit c l
  inside : ∀ c l, across x c < 8 → below y l < height → ∃ k row,
    IsGreatest {j | j < height ∧ j % 32 = below y l} k ∧ (height ≤ 32 → k = below y l) ∧
    sprite[k]? = some row ∧
    q.screen.lit c l = (p.screen.lit c l ^^ row.toNat.testBit (7 - across x c))
  hits : hit = true ↔ ∃ j k row, j < 8 ∧ k < height ∧ sprite[k]? = some row ∧
    row.toNat.testBit (7 - j) = true ∧ p.screen.lit (columnOf x j) (lineOf y k) = true
  erases : height ≤ 32 →
    (hit = true ↔ ∃ c l, p.screen.lit c l = true ∧ q.screen.lit c l = false)

variable {x y : Int} {height : Nat} {sprite : List UInt8}

lemma draw_of_le (p : Panel) (x y : Int) (h : height ≤ sprite.length) :
    p.draw x y height sprite = (.ok (p.screen.collides x y (sprite.take height)),
      ⟨p.screen.paint x y (sprite.take height), true⟩) :=
  if_neg (Nat.not_lt.mpr h)

lemma drawn_paint (p : Panel) (x y : Int) (h : height ≤ sprite.length) :
    p.Drawn ⟨p.screen.paint x y (sprite.take height), true⟩ x y height sprite
      (p.screen.collides x y (sprite.take height)) := by
  have hl : (sprite.take height).length = height := List.length_take_of_le h
  constructor
  · intro c l ho
    by_cases hb : below y l < height
    · obtain ⟨k, row, -, -, hp⟩ := exists_deciding p.screen x h hb
      have hc : ¬ across x c < 8 := by omega
      simp [hp, hc]
    · apply lit_paint_of_uncovered
      omega
  · intro c l hc hb
    obtain ⟨k, row, hk, hr, hp⟩ := exists_deciding p.screen x h hb
    refine ⟨k, row, hk, ?_, hr, ?_⟩
    · intro hh
      rw [← hk.1.2]
      exact (Nat.mod_eq_of_lt (hk.1.1.trans_le hh)).symm
    · simpa [hc] using hp c
  · exact collides_take_iff
  · intro hh
    rw [collides_iff]
    exact exists_erased_iff (hl.trans_le hh)

/-- A draw changes the pixels that it covers, each by the bit that lies on it, tells whether it met
a lit one, and marks the panel; of no rows it is nothing but the mark. -/
theorem draw_pixel_exact (p : Panel) (x y : Int) :
    (∀ height sprite, height ≤ sprite.length → ∃ hit q,
      p.draw x y height sprite = (.ok hit, q) ∧ p.Drawn q x y height sprite hit) ∧
    (∀ height sprite, (p.draw x y height sprite).2.dirty = true) ∧
    ∀ sprite, p.draw x y 0 sprite = (.ok false, { p with dirty := true }) := by
  refine ⟨?_, ?_, fun sprite => rfl⟩
  · intro height sprite h
    exact ⟨_, _, p.draw_of_le x y h, p.drawn_paint x y h⟩
  · intro height sprite
    rw [draw]
    split <;> rfl

/-- Rows 0 and 32 of a sprite that is one line higher than the screen: the latter decides. -/
def tall : List UInt8 := 0xFF :: List.replicate 31 0 ++ [0x80]

theorem draw_pixel_exact_tall : 33 ≤ tall.length ∧ ∃ hit q,
    fresh.draw (-3) 35 33 tall = (.ok hit, q) ∧ hit = false ∧
      q.screen.lit 61 3 = true ∧ q.screen.lit 62 3 = false ∧ q.screen.lit 5 3 = false := by
  have hl : 33 ≤ tall.length := by decide
  obtain ⟨hit, q, hd, h⟩ := (draw_pixel_exact fresh (-3) 35).1 33 tall hl
  have hg : IsGreatest {j | j < 33 ∧ j % 32 = below 35 3} 32 :=
    ⟨by decide, fun j hj => Nat.le_of_lt_succ hj.1⟩
  have hp (c : Column) (hc : across (-3) c < 8) :
      q.screen.lit c 3 = (0x80 : Nat).testBit (7 - across (-3) c) := by
    obtain ⟨k, row, hk, -, hr, hb⟩ := h.inside c 3 hc (by decide)
    obtain rfl := hk.unique hg
    obtain rfl : (0x80 : UInt8) = row := Option.some.inj hr
    rw [hb, fresh, lit_blank, Bool.false_xor]
    rfl
  refine ⟨hl, hit, q, hd, ?_, hp 61 (by decide), hp 62 (by decide), ?_⟩
  · rw [Bool.eq_false_iff]
    intro ht
    obtain ⟨j, k, row, -, -, -, -, hn⟩ := h.hits.mp ht
    rw [fresh, lit_blank] at hn
    cases hn
  · rw [h.outside 5 3 (.inl (by decide)), fresh, lit_blank]

end Panel

end Chip8
