import Chip8.Picture
import Mathlib.Data.Set.Basic
import Mathlib.Tactic.Common

/-! Pictures of frames. Every pixel becomes the square at its place, so that a picture tells which
pixels of its frame are zero. -/

namespace Chip8

section Lists

variable {α β : Type} {n : Nat}

lemma getElem?_flatMap_add {f : α → List β} (hf : ∀ x, (f x).length = n) (xs : List α) (i : Nat)
    {j : Nat} (hj : j < n) : (xs.flatMap f)[n * i + j]? = xs[i]?.bind fun x => (f x)[j]? := by
  induction xs generalizing i with
  | nil => rfl
  | cons x xs ih =>
    rw [List.flatMap_cons]
    cases i with
    | zero =>
      rw [Nat.mul_zero, Nat.zero_add, List.getElem?_append_left (by rwa [hf])]
      rfl
    | succ i =>
      have hi : n * (i + 1) + j = (f x).length + (n * i + j) := by
        rw [hf, Nat.mul_succ]
        omega
      rw [hi, List.getElem?_append_right (Nat.le_add_right _ _), Nat.add_sub_cancel_left, ih]
      rfl

lemma getElem?_map_finRange (f : Fin n → α) (i : Fin n) :
    ((List.finRange n).map f)[(i : Nat)]? = some (f i) := by
  simp

namespace Picture

lemma getElem?_stretch (hn : 0 < n) (xs : List α) (k : Nat) :
    (stretch n xs)[k]? = xs[k / n]? := by
  have hk := Nat.mod_lt k hn
  conv_lhs => rw [← Nat.div_add_mod k n]
  rw [stretch, getElem?_flatMap_add (fun x => List.length_replicate) xs (k / n) hk]
  simp only [List.getElem?_replicate, hk, if_true]
  exact Option.bind_fun_some _

lemma length_stretch (n : Nat) (xs : List α) : (stretch n xs).length = xs.length * n := by
  simp [stretch, List.length_flatMap, List.map_const']

end Picture

end Lists

namespace Picture

/-- The colour of the point in column `X` and line `Y`. -/
def point? (p : Picture) (X Y : Nat) : Option Colour :=
  p.columns[X]?.bind fun column => column[Y]?

/-- The places of the pixels that are not zero. -/
def lights (pixels : Array Int) : Set Nat :=
  {k | ∃ value, pixels[k]? = some value ∧ value ≠ 0}

/-- Every pixel of a frame, given line by line, is a square of `n` points on a side. -/
structure Shows (p : Picture) (n : Nat) (pixels : Array Int) : Prop where
  width : p.width = 64 * n
  height : p.height = 32 * n
  columns : ∀ column ∈ p.columns, column.length = 32 * n
  points : ∀ X Y, X < 64 * n → Y < 32 * n → ∃ value,
    pixels[Y / n * 64 + X / n]? = some value ∧
    p.point? X Y = some (if value ≠ 0 then .white else .black)

variable {p q : Picture} {n k X Y : Nat} {a b : Array Int} {value scale : Int}

lemma side_pos (scale : Int) : 0 < side scale := by
  rw [side]
  omega

lemma side_natCast (hn : 0 < n) : side n = n := by
  rw [side]
  omega

lemma eq_of_point? (hw : p.width = q.width) (h : ∀ X Y, p.point? X Y = q.point? X Y) : p = q := by
  obtain ⟨us⟩ := p
  obtain ⟨vs⟩ := q
  congr 1
  apply List.ext_getElem hw
  intro X hu hv
  apply List.ext_getElem?
  intro Y
  simpa [point?, hu, hv] using h X Y

lemma length_of_mem_ofFrame {lit : Column → Line → Bool} {column : List Colour}
    (h : column ∈ (ofFrame scale lit).columns) : column.length = 32 * side scale := by
  obtain ⟨xs, hx, hc⟩ := List.mem_flatMap.mp h
  obtain ⟨x, -, rfl⟩ := List.mem_map.mp hx
  obtain ⟨-, rfl⟩ := List.mem_replicate.mp hc
  rw [length_stretch, List.length_map, List.length_finRange]

lemma width_ofFrame (lit : Column → Line → Bool) :
    (ofFrame scale lit).width = 64 * side scale := by
  rw [width, ofFrame, length_stretch, List.length_map, List.length_finRange]

lemma height_ofFrame (lit : Column → Line → Bool) :
    (ofFrame scale lit).height = 32 * side scale := by
  have hs := side_pos scale
  have hw : (ofFrame scale lit).width = 64 * side scale := width_ofFrame lit
  rw [height]
  cases hc : (ofFrame scale lit).columns with
  | nil =>
    rw [width, hc, List.length_nil] at hw
    omega
  | cons column columns =>
    have hm : column ∈ (ofFrame scale lit).columns := hc ▸ List.mem_cons_self
    exact length_of_mem_ofFrame hm

lemma point?_ofFrame (lit : Column → Line → Bool) {x : Column} {y : Line}
    (hx : X / side scale = x) (hy : Y / side scale = y) :
    (ofFrame scale lit).point? X Y = some (Colour.ofLit (lit x y)) := by
  have hs := side_pos scale
  rw [point?, ofFrame, getElem?_stretch hs, hx, getElem?_map_finRange, Option.bind_some,
    getElem?_stretch hs, hy, getElem?_map_finRange]

lemma ofLit_bne_zero (value : Int) :
    Colour.ofLit (value != 0) = if value ≠ 0 then .white else .black := by
  by_cases h : value = 0 <;> simp [Colour.ofLit, h]

lemma ofPixels_of_size (h : a.size = 2048) :
    ofPixels scale a = .ok (ofFrame scale fun x y => a.getD (64 * y + x) 0 != 0) :=
  if_pos h

lemma shows_ofFrame (h : a.size = 2048) :
    (ofFrame scale fun x y => a.getD (64 * y + x) 0 != 0).Shows (side scale) a := by
  refine ⟨width_ofFrame _, height_ofFrame _, fun _ => length_of_mem_ofFrame, ?_⟩
  intro X Y hX hY
  let x : Column := ⟨X / side scale, Nat.div_lt_of_lt_mul (by rwa [Nat.mul_comm])⟩
  let y : Line := ⟨Y / side scale, Nat.div_lt_of_lt_mul (by rwa [Nat.mul_comm])⟩
  have hk : (y : Nat) * 64 + x < a.size := by omega
  refine ⟨a[(y : Nat) * 64 + x], Array.getElem?_eq_getElem hk, ?_⟩
  rw [point?_ofFrame (x := x) (y := y) _ rfl rfl, ofLit_bne_zero, Nat.mul_comm 64,
    Array.getD_eq_getD_getElem?, Array.getElem?_eq_getElem hk, Option.getD_some]

lemma mem_lights_iff (h : a[k]? = some value) : k ∈ lights a ↔ value ≠ 0 := by
  constructor
  · rintro ⟨v, hv, hn⟩
    rwa [← Option.some.inj (hv.symm.trans h)]
  · intro hn
    exact ⟨value, h, hn⟩

lemma lt_of_mem_lights (hk : k ∈ lights a) : k < a.size := by
  obtain ⟨v, hv, -⟩ := hk
  exact (Array.getElem?_eq_some_iff.mp hv).1

namespace Shows

lemma point?_eq_none (h : p.Shows n a) (ho : ¬ (X < 64 * n ∧ Y < 32 * n)) :
    p.point? X Y = none := by
  have hw : p.columns.length = 64 * n := h.width
  rw [point?]
  cases hc : p.columns[X]? with
  | none => rfl
  | some column =>
    have hX := (List.getElem?_eq_some_iff.mp hc).1
    have hY := h.columns column (List.mem_of_getElem? hc)
    exact List.getElem?_eq_none (by omega)

lemma point?_congr (hp : p.Shows n a) (hq : q.Shows n b) (h : lights a = lights b) (X Y : Nat) :
    p.point? X Y = q.point? X Y := by
  by_cases hi : X < 64 * n ∧ Y < 32 * n
  · obtain ⟨u, hu, hpu⟩ := hp.points X Y hi.1 hi.2
    obtain ⟨v, hv, hqv⟩ := hq.points X Y hi.1 hi.2
    have hn : u ≠ 0 ↔ v ≠ 0 := by rw [← mem_lights_iff hu, ← mem_lights_iff hv, h]
    rw [hpu, hqv, if_congr hn rfl rfl]
  · rw [hp.point?_eq_none hi, hq.point?_eq_none hi]

/-- The upper left point of a square tells whether its pixel is lit. -/
lemma point?_eq_white_iff (h : p.Shows n a) (hn : 0 < n) (x : Column) (y : Line) :
    p.point? (x * n) (y * n) = some .white ↔ (y : Nat) * 64 + x ∈ lights a := by
  have hx : x * n < 64 * n := Nat.mul_lt_mul_of_pos_right x.isLt hn
  have hy : y * n < 32 * n := Nat.mul_lt_mul_of_pos_right y.isLt hn
  obtain ⟨v, hv, hp⟩ := h.points _ _ hx hy
  rw [Nat.mul_div_cancel _ hn, Nat.mul_div_cancel _ hn] at hv
  rw [mem_lights_iff hv, hp]
  by_cases hz : v = 0 <;> simp [hz, Colour.white, Colour.black]

lemma eq_iff (hp : p.Shows n a) (hq : q.Shows n b) (hn : 0 < n) (ha : a.size = 2048)
    (hb : b.size = 2048) : p = q ↔ lights a = lights b := by
  constructor
  · rintro rfl
    ext k
    by_cases hk : k < 2048
    · let x : Column := ⟨k % 64, by omega⟩
      let y : Line := ⟨k / 64, by omega⟩
      have he : (y : Nat) * 64 + x = k := Nat.div_add_mod' k 64
      rw [← he, ← hp.point?_eq_white_iff hn, ← hq.point?_eq_white_iff hn]
    · exact iff_of_false (fun hm => hk (ha ▸ lt_of_mem_lights hm))
        fun hm => hk (hb ▸ lt_of_mem_lights hm)
  · intro h
    exact eq_of_point? (hp.width.trans hq.width.symm) (hp.point?_congr hq h)

end Shows

end Picture

end Chip8
