import Chip8.Proofs.Sprites
import Mathlib.Algebra.Group.Even
import Mathlib.Data.List.Pairwise

/-! Sequences of draws. What they leave on a screen, and whether any of them hits a lit pixel, does
not depend on their order, although which of them does the hitting may. -/

namespace Chip8

open scoped symmDiff

/-- A sprite to be drawn: it has the rows that are asked for, and these fit on the screen. -/
structure Draw where
  x : Int
  y : Int
  height : Nat
  sprite : List UInt8
  height_le : height ≤ 32
  height_le_length : height ≤ sprite.length
  deriving DecidableEq

namespace Draw

def stamp (d : Draw) : Set Position :=
  Screen.imprint d.x d.y (d.sprite.take d.height)

def overlay : List Draw → Set Position
  | [] => ∅
  | d :: ds => d.stamp ∆ overlay ds

variable {d : Draw} {ds es : List Draw}

lemma overlay_append (ds es : List Draw) : overlay (ds ++ es) = overlay ds ∆ overlay es := by
  induction ds with
  | nil => exact (bot_symmDiff _).symm
  | cons d ds ih => rw [List.cons_append, overlay, ih, overlay, symmDiff_assoc]

lemma overlay_perm (h : ds.Perm es) : overlay ds = overlay es := by
  induction h with
  | nil => rfl
  | cons d _ ih => rw [overlay, ih, overlay]
  | swap d e ds => exact symmDiff_left_comm _ _ _
  | trans _ _ ihd ihe => exact ihd.trans ihe

lemma overlay_replicate (d : Draw) {n : Nat} (h : Even n) :
    overlay (List.replicate n d) = ∅ := by
  obtain ⟨k, rfl⟩ := h
  rw [← List.replicate_append_replicate, overlay_append]
  exact symmDiff_self _

lemma overlay_erase (h : Even (ds.count d)) :
    overlay ds = overlay (ds.filter (· != d)) := by
  have hp : (List.replicate (ds.count d) d ++ ds.filter (· != d)).Perm ds := by
    rw [← List.filter_beq]
    exact List.filter_append_perm (· == d) ds
  rw [← overlay_perm hp, overlay_append, overlay_replicate d h]
  exact bot_symmDiff _

end Draw

namespace Panel

def put (p : Panel) (d : Draw) : Except Refusal Bool × Panel :=
  p.draw d.x d.y d.height d.sprite

def putAll (p : Panel) (ds : List Draw) : Panel :=
  ds.foldl (fun q d => (q.put d).2) p

def reports (p : Panel) : List Draw → List (Draw × Except Refusal Bool)
  | [] => []
  | d :: ds => (d, (p.put d).1) :: (p.put d).2.reports ds

variable {p : Panel} {d : Draw} {ds es : List Draw}

lemma put_eq (p : Panel) (d : Draw) :
    p.put d = (.ok (p.screen.collides d.x d.y (d.sprite.take d.height)),
      ⟨p.screen.paint d.x d.y (d.sprite.take d.height), true⟩) :=
  if_neg (Nat.not_lt.mpr d.height_le_length)

lemma pixels_put (p : Panel) (d : Draw) :
    (p.put d).2.screen.pixels = p.screen.pixels ∆ d.stamp := by
  rw [put_eq]
  exact Screen.pixels_paint _ _ _ ((List.length_take_le _ _).trans d.height_le)

lemma put_hits : (p.put d).1 = .ok true ↔ ¬ Disjoint d.stamp p.screen.pixels := by
  rw [put_eq]
  exact Iff.trans ⟨Except.ok.inj, congrArg Except.ok⟩ Screen.collides_iff

lemma exists_of_mem_reports {r : Draw × Except Refusal Bool} (h : r ∈ p.reports ds) :
    ∃ hit, r.2 = .ok hit := by
  induction ds generalizing p with
  | nil => cases h
  | cons d ds ih =>
    rcases List.mem_cons.mp h with rfl | h
    · exact ⟨_, congrArg Prod.fst (put_eq p d)⟩
    · exact ih h

lemma pixels_putAll (p : Panel) (ds : List Draw) :
    (p.putAll ds).screen.pixels = p.screen.pixels ∆ Draw.overlay ds := by
  induction ds generalizing p with
  | nil => exact (symmDiff_bot _).symm
  | cons d ds ih =>
    calc ((p.put d).2.putAll ds).screen.pixels
        = (p.put d).2.screen.pixels ∆ Draw.overlay ds := ih _
      _ = p.screen.pixels ∆ d.stamp ∆ Draw.overlay ds := by rw [pixels_put]
      _ = p.screen.pixels ∆ Draw.overlay (d :: ds) := symmDiff_assoc _ _ _

lemma screen_putAll_congr (p : Panel) (h : Draw.overlay ds = Draw.overlay es) :
    (p.putAll ds).screen = (p.putAll es).screen := by
  apply Screen.eq_of_pixels
  rw [pixels_putAll, pixels_putAll, h]

lemma no_hit_iff (p : Panel) (ds : List Draw) : (∀ r ∈ p.reports ds, r.2 ≠ .ok true) ↔
    ds.Pairwise (fun d e => Disjoint d.stamp e.stamp) ∧
      ∀ d ∈ ds, Disjoint d.stamp p.screen.pixels := by
  induction ds generalizing p with
  | nil => simp [reports]
  | cons d ds ih =>
    have hd : (p.put d).1 ≠ .ok true ↔ Disjoint d.stamp p.screen.pixels := by
      rw [ne_eq, put_hits, not_not]
    rw [reports, List.forall_mem_cons, List.forall_mem_cons, List.pairwise_cons, hd, ih, pixels_put]
    constructor
    · rintro ⟨hp, hw, ha⟩
      -- a draw that hits nothing adds its stamp to the lit pixels
      rw [hp.symm.symmDiff_eq_sup] at ha
      have hs (e : Draw) (he : e ∈ ds) := Set.disjoint_union_right.mp (ha e he)
      exact ⟨⟨fun e he => (hs e he).2.symm, hw⟩, hp, fun e he => (hs e he).1⟩
    · rintro ⟨⟨hs, hw⟩, hp, ha⟩
      refine ⟨hp, hw, ?_⟩
      intro e he
      rw [hp.symm.symmDiff_eq_sup]
      exact Set.disjoint_union_right.mpr ⟨ha e he, (hs e he).symm⟩

lemma some_hit_iff (p : Panel) (ds : List Draw) : (∃ r ∈ p.reports ds, r.2 = .ok true) ↔
    ¬ (ds.Pairwise (fun d e => Disjoint d.stamp e.stamp) ∧
      ∀ d ∈ ds, Disjoint d.stamp p.screen.pixels) := by
  rw [← no_hit_iff]
  simp only [ne_eq, not_forall, not_not, exists_prop]

lemma some_hit_perm (p : Panel) (h : ds.Perm es) :
    (∃ r ∈ p.reports ds, r.2 = .ok true) ↔ ∃ r ∈ p.reports es, r.2 = .ok true := by
  have hw : ds.Pairwise (fun d e => Disjoint d.stamp e.stamp) ↔
      es.Pairwise (fun d e => Disjoint d.stamp e.stamp) :=
    h.pairwise_iff fun hd => hd.symm
  have ha : (∀ d ∈ ds, Disjoint d.stamp p.screen.pixels) ↔
      ∀ d ∈ es, Disjoint d.stamp p.screen.pixels :=
    forall_congr' fun d => imp_congr_left h.mem_iff
  rw [some_hit_iff, some_hit_iff, hw, ha]

def dot : Draw := ⟨0, 0, 1, [0x80], by decide, by decide⟩

def dash : Draw := ⟨0, 0, 1, [0xC0], by decide, by decide⟩

lemma reports_dot_dash : fresh.reports [dot, dash] = [(dot, .ok false), (dash, .ok true)] := rfl

lemma reports_dash_dot : fresh.reports [dash, dot] = [(dash, .ok false), (dot, .ok true)] := rfl

/-- Draws add up by exclusive or in any order, and none of them hits anything exactly if all stamps
and the pixels lit before are disjoint. -/
theorem drawing_sequence_law :
    (∀ (p : Panel) (ds : List Draw),
      (∀ r ∈ p.reports ds, ∃ hit, r.2 = .ok hit) ∧
      (p.putAll ds).screen.pixels = p.screen.pixels ∆ Draw.overlay ds ∧
      (∀ es, ds.Perm es → (p.putAll ds).screen = (p.putAll es).screen) ∧
      (∀ d, Even (ds.count d) →
        (p.putAll ds).screen = (p.putAll (ds.filter (· != d))).screen) ∧
      ((∀ r ∈ p.reports ds, r.2 ≠ .ok true) ↔
        ds.Pairwise (fun d e => Disjoint d.stamp e.stamp) ∧
          ∀ d ∈ ds, Disjoint d.stamp p.screen.pixels) ∧
      ∀ es, ds.Perm es →
        ((∃ r ∈ p.reports ds, r.2 = .ok true) ↔ ∃ r ∈ p.reports es, r.2 = .ok true)) ∧
    ∃ (p : Panel) (ds es : List Draw), ds.Perm es ∧ ∃ r ∈ p.reports ds, r ∉ p.reports es := by
  constructor
  · intro p ds
    refine ⟨fun _ => exists_of_mem_reports, p.pixels_putAll ds, ?_, ?_, p.no_hit_iff ds, ?_⟩
    · intro es h
      exact p.screen_putAll_congr (Draw.overlay_perm h)
    · intro d h
      exact p.screen_putAll_congr (Draw.overlay_erase h)
    · intro es h
      exact p.some_hit_perm h
  · refine ⟨fresh, [dot, dash], [dash, dot], .swap _ _ _, (dash, .ok true), ?_, ?_⟩
    · rw [reports_dot_dash]
      exact .tail _ (.head _)
    · rw [reports_dash_dot]
      simp [dot, dash]

theorem drawing_sequence_law_dots :
    [dot, dash, dot].Perm [dash, dot, dot] ∧ Even ([dot, dash, dot].count dot) ∧
      (fresh.putAll [dot, dash, dot]).screen = (fresh.putAll [dash, dot, dot]).screen ∧
      (fresh.putAll [dot, dash, dot]).screen = (fresh.putAll [dash]).screen := by
  have hp : [dot, dash, dot].Perm [dash, dot, dot] := .swap _ _ _
  have he : Even ([dot, dash, dot].count dot) := ⟨1, rfl⟩
  obtain ⟨-, -, ho, hc, -⟩ := drawing_sequence_law.1 fresh [dot, dash, dot]
  exact ⟨hp, he, ho _ hp, hc dot he⟩

end Panel

end Chip8
