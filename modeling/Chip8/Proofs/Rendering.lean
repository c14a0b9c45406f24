import Chip8.Proofs.Pictures
import Chip8.Proofs.Showing
import Chip8.Proofs.Sprites

/-! What windows render. The picture of a screen fills the window, and every pixel of the screen can
be read off it. -/

namespace Chip8

namespace Screen

/-- The frame of a screen: its pixels line by line, one if lit and zero if not. -/
def toPixels (s : Screen) : Array Int :=
  (s.toList.map fun lit => if lit then 1 else 0).toArray

variable {s t : Screen}

lemma size_toPixels (s : Screen) : s.toPixels.size = 2048 := by
  rw [toPixels, List.size_toArray, List.length_map, Console.length_pixels]

lemma getElem?_toPixels (s : Screen) (x : Column) (y : Line) :
    s.toPixels[64 * (y : Nat) + x]? = some (if s.lit x y then 1 else 0) := by
  have hl (l : BitVec 64) : ((List.finRange 64).map fun x : Column => l.getMsbD x).length = 64 := by
    rw [List.length_map, List.length_finRange]
  have hy : s.lines.toList[(y : Nat)]? = some (s.line y) := by
    rw [Vector.getElem?_toList, Vector.getElem?_eq_getElem y.isLt]
    rfl
  rw [toPixels, List.getElem?_toArray, List.getElem?_map, toList,
    getElem?_flatMap_add hl _ _ x.isLt, hy, Option.bind_some, getElem?_map_finRange]
  rfl

lemma mem_lights_toPixels (s : Screen) (x : Column) (y : Line) :
    (y : Nat) * 64 + x ∈ Picture.lights s.toPixels ↔ s.lit x y = true := by
  rw [Nat.mul_comm, Picture.mem_lights_iff (s.getElem?_toPixels x y)]
  cases s.lit x y <;> decide

lemma eq_of_lights (h : Picture.lights s.toPixels = Picture.lights t.toPixels) : s = t := by
  apply eq_of_pixels
  ext ⟨x, y⟩
  change s.lit x y = true ↔ t.lit x y = true
  rw [← mem_lights_toPixels, ← mem_lights_toPixels, h]

end Screen

namespace Picture

lemma ofPixels_toPixels (scale : Int) (s : Screen) :
    ofPixels scale s.toPixels = .ok (ofScreen scale s) := by
  have hl : (fun (x : Column) (y : Line) => s.toPixels.getD (64 * y + x) 0 != 0) = s.lit := by
    funext x y
    rw [Array.getD_eq_getD_getElem?, s.getElem?_toPixels, Option.getD_some]
    cases s.lit x y <;> rfl
  rw [ofPixels_of_size s.size_toPixels, hl, ofScreen]

lemma shows_ofScreen (scale : Int) (s : Screen) :
    (ofScreen scale s).Shows (side scale) s.toPixels := by
  have hp := ofPixels_toPixels scale s
  rw [ofPixels_of_size s.size_toPixels] at hp
  rw [← Except.ok.inj hp]
  exact shows_ofFrame s.size_toPixels

end Picture

namespace Window

open Picture

/-- The picture of a screen fills the window, and every pixel can be read off it. -/
structure Displays (w : Window) (s : Screen) : Prop where
  width : w.surface.width = w.width
  height : w.surface.height = w.height
  shows : w.surface.Shows w.scale s.toPixels
  pixels : ∀ x y, s.lit x y = true ↔
    w.surface.point? ((x : Nat) * w.scale) ((y : Nat) * w.scale) = some .white

variable {w : Window} {s t : Screen} {c : Console} {scale : Int}

lemma displays_render (h : 0 < w.scale) (s : Screen) : (w.render s).Displays s := by
  have hs : (w.render s).surface.Shows w.scale s.toPixels := by
    have := shows_ofScreen w.scale s
    rwa [side_natCast h] at this
  refine ⟨hs.width, hs.height, hs, ?_⟩
  intro x y
  rw [← s.mem_lights_toPixels]
  exact (hs.point?_eq_white_iff h x y).symm

lemma render_eq_iff (h : 0 < w.scale) :
    (w.render s).surface = (w.render t).surface ↔ s = t := by
  have hs := (displays_render h s).shows
  have ht := (displays_render h t).shows
  rw [hs.eq_iff ht h s.size_toPixels t.size_toPixels]
  exact ⟨Screen.eq_of_lights, fun he => he ▸ rfl⟩

lemma renderPixels_toPixels (w : Window) (s : Screen) :
    w.renderPixels s.toPixels = .ok (w.render s) := by
  rw [renderPixels, ofPixels_toPixels]
  rfl

lemma screen_of_poll (h : c.poll.1 = some s) : s = c.core.panel.screen := by
  rw [c.poll_frame, Option.ite_none_right_eq_some] at h
  exact (Option.some.inj h.2).symm

/-- A picture has in each square the colour of the pixel at its place, so it tells frames apart by
their pixels that are not zero, and what a window shows of a console determines its screen. -/
theorem pictures_exact (scale : Int) :
    (∀ pixels : Array Int, pixels.size = 2048 →
      ∃ p, ofPixels scale pixels = .ok p ∧ p.Shows (max 1 scale).toNat pixels) ∧
    (∀ pixels : Array Int, pixels.size ≠ 2048 →
      ∃ r, ofPixels scale pixels = .error r ∧ r.category = .value) ∧
    (∀ a b : Array Int, a.size = 2048 → b.size = 2048 →
      (ofPixels scale a = ofPixels scale b ↔ lights a = lights b)) ∧
    ∀ (w : Window) (c : Console) (s : Screen), w.scale = (opened scale).scale →
      c.poll.1 = some s →
        w.renderPixels s.toPixels = .ok (w.render s) ∧
        (w.render s).Displays c.core.panel.screen ∧
        ∀ (d : Console) (t : Screen), d.poll.1 = some t →
          ((w.render s).surface = (w.render t).surface ↔
            c.core.panel.screen = d.core.panel.screen) := by
  refine ⟨?_, ?_, ?_, ?_⟩
  · intro pixels h
    exact ⟨_, ofPixels_of_size h, shows_ofFrame h⟩
  · intro pixels h
    exact ⟨_, if_neg h, rfl⟩
  · intro a b ha hb
    rw [ofPixels_of_size ha, ofPixels_of_size hb, Except.ok.injEq]
    exact (shows_ofFrame ha).eq_iff (shows_ofFrame hb) (side_pos scale) ha hb
  · intro w c s hw hs
    have hn : 0 < w.scale := hw ▸ side_pos scale
    obtain rfl := screen_of_poll hs
    refine ⟨w.renderPixels_toPixels _, displays_render hn _, ?_⟩
    intro d t ht
    obtain rfl := screen_of_poll ht
    exact render_eq_iff hn

/-- A frame in which only the pixel in column 3 of line 1 may be lit. -/
def lone (value : Int) : Array Int :=
  (Array.replicate 2048 0).setIfInBounds 67 value

lemma size_lone (value : Int) : (lone value).size = 2048 := by
  rw [lone, Array.size_setIfInBounds, Array.size_replicate]

lemma getElem?_lone (value : Int) {k : Nat} (hk : k < 2048) :
    (lone value)[k]? = some (if 67 = k then value else 0) := by
  rw [lone, Array.getElem?_setIfInBounds, Array.getElem?_replicate, Array.size_replicate, if_pos hk]
  split <;> rfl

lemma lights_lone {value : Int} (h : value ≠ 0) : lights (lone value) = {67} := by
  ext k
  by_cases hk : k < 2048
  · rw [mem_lights_iff (getElem?_lone value hk)]
    simp [h, eq_comm]
  · refine iff_of_false (fun hm => hk (size_lone value ▸ lt_of_mem_lights hm)) ?_
    rintro rfl
    exact hk (by decide)

/-- A console about to show a panel. -/
def showing (panel : Panel) : Console where
  core := {
    settings := .standard
    ram := Ram.zero
    bank := RegisterBank.start 0x200
    stack := CallStack.empty
    panel := panel
    timers := Countdown.zero
    keypad := Keypad.released }
  fault := none

theorem pictures_exact_lone : (lone (-1)).size = 2048 ∧ (lone 255).size = 2048 ∧
    (#[1] : Array Int).size ≠ 2048 ∧
    (∃ p, ofPixels 3 (lone (-1)) = .ok p ∧ p.width = 192 ∧ p.height = 96 ∧
      p.point? 11 5 = some .white ∧ p.point? 12 3 = some .black ∧ p.point? 5 11 = some .black) ∧
    (∃ r, ofPixels 3 #[1] = .error r ∧ r.category = .value) ∧
    ofPixels 3 (lone (-1)) = ofPixels 3 (lone 255) ∧
    ∃ s t, (showing Panel.fresh).poll.1 = some s ∧
      (showing (Panel.fresh.paint 3 1 [0x80]).2).poll.1 = some t ∧
      ((opened 3).render s).Displays Screen.blank ∧
      ((opened 3).render s).surface ≠ ((opened 3).render t).surface := by
  obtain ⟨hp, hr, he, hw⟩ := pictures_exact 3
  obtain ⟨p, ho, h⟩ := hp (lone (-1)) (size_lone _)
  have hc (X Y : Nat) (hX : X < 192) (hY : Y < 96) :
      p.point? X Y = some (if 67 = Y / 3 * 64 + X / 3 then .white else .black) := by
    have hk : Y / 3 * 64 + X / 3 < 2048 := by omega
    obtain ⟨value, hv, hp⟩ := h.points X Y hX hY
    obtain rfl := Option.some.inj ((getElem?_lone (-1) hk).symm.trans hv)
    rw [hp]
    by_cases hl : 67 = Y / 3 * 64 + X / 3 <;> simp [hl]
  obtain ⟨-, hs, hd⟩ := hw (opened 3) (showing Panel.fresh) _ rfl rfl
  refine ⟨size_lone _, size_lone _, by decide,
    ⟨p, ho, h.width, h.height, hc 11 5 (by decide) (by decide), hc 12 3 (by decide) (by decide),
      hc 5 11 (by decide) (by decide)⟩, hr #[1] (by decide), ?_, _, _, rfl, rfl, hs, ?_⟩
  · rw [he _ _ (size_lone _) (size_lone _), lights_lone (by decide), lights_lone (by decide)]
  · rw [Ne, hd (showing (Panel.fresh.paint 3 1 [0x80]).2) _ rfl]
    decide

end Window

end Chip8
