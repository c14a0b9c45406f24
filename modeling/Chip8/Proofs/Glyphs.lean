import Chip8.Proofs.Execution
import Chip8.Proofs.Placement
import Chip8.Proofs.Sprites

/-! Glyphs. Where a console was built at all, its font lies in memory as a whole, so every digit can
be pointed to and drawn. -/

namespace Chip8

open scoped symmDiff

def Settings.glyph (s : Settings) (digit : Nat) : List UInt8 :=
  (s.font.toList.drop (5 * digit)).take 5

lemma Ram.bytes_drop_take {size : Nat} (m : Ram size) {a n k l : Nat} (h : k + l ≤ n) :
    ((m.bytes ⟨a, n⟩).drop k).take l = m.bytes ⟨a + k, l⟩ := by
  apply List.ext_getElem?
  intro j
  rw [List.getElem?_take, List.getElem?_drop, getElem?_bytes, getElem?_bytes, Nat.add_assoc]
  by_cases hj : j < l
  · rw [if_pos hj, if_pos hj, if_pos (by omega)]
  · rw [if_neg hj, if_neg hj]

namespace Core

variable {c : Core} {x y z : Register} {n : Fin 16}

def stamp (c : Core) (x y : Register) (rows : List UInt8) : Set Position :=
  Screen.imprint (c.get x).toNat (c.get y).toNat rows

/-- Rows were added to the screen at `(VX, VY)`, and `VF` tells whether they hit a lit pixel. -/
structure Draws (c d : Core) (x y : Register) (rows : List UInt8) : Prop where
  pixels : d.panel.screen.pixels = c.panel.screen.pixels ∆ c.stamp x y rows
  flag : d.get flagRegister = 0 ∧ Disjoint (c.stamp x y rows) c.panel.screen.pixels ∨
    d.get flagRegister = 1 ∧ ¬ Disjoint (c.stamp x y rows) c.panel.screen.pixels
  registers : ∀ r ≠ flagRegister, d.get r = c.get r

lemma draw_eq_after (x y : Register) (h : c.bank.i.toNat + n ≤ 4096) :
    execute (.draw x y n) c = .done (c.after (.draw x y n)) :=
  c.execute_of_unhindered ((c.obstacle_draw_iff x y n).mpr h)

lemma draws_after (h : c.bank.i.toNat + n ≤ 4096) :
    c.Draws (c.after (.draw x y n)) x y (c.sprite n) := by
  have ho : c.obstacle (.draw x y n) = none := (c.obstacle_draw_iff x y n).mpr h
  have hp : (c.after (.draw x y n)).panel =
      (c.panel.paint (c.get x).toNat (c.get y).toNat (c.sprite n)).2 := if_pos h
  have hb : c.bankAfter (.draw x y n) =
      c.bank.setFlag (c.panel.screen.collides (c.get x).toNat (c.get y).toNat (c.sprite n)) :=
    if_pos h
  have hg (r : Register) : (c.after (.draw x y n)).get r = (c.bankAfter (.draw x y n)).get r := by
    rw [get, after, ho]
    rfl
  refine ⟨?_, ?_, ?_⟩
  · rw [hp]
    apply Screen.pixels_paint
    rw [sprite, Ram.length_bytes]
    exact n.isLt.le.trans (by decide)
  · rw [hg, hb, RegisterBank.setFlag, RegisterBank.get_set, if_pos rfl]
    cases hc : c.panel.screen.collides (c.get x).toNat (c.get y).toNat (c.sprite n) with
    | true => exact .inr ⟨rfl, Screen.collides_iff.mp hc⟩
    | false =>
      refine .inl ⟨rfl, ?_⟩
      by_contra hd
      exact Bool.eq_false_iff.mp hc (Screen.collides_iff.mpr hd)
  · intro r hr
    rw [hg, hb, RegisterBank.setFlag, RegisterBank.get_set, if_neg hr.symm]
    rfl

/-- The bytes of the font are where the settings place it. -/
def HasFont (c : Core) : Prop :=
  c.ram.bytes ⟨c.settings.fontAddress, 80⟩ = c.settings.font.toList

lemma toNat_i_glyph (x : Register) (h : c.settings.fontAddress + 80 ≤ 4096) :
    (c.after (.glyph x)).bank.i.toNat = c.settings.fontAddress + 5 * (c.get x).toNat := by
  have hx := (c.get x).toNat_lt
  have ha : (c.settings.fontAddress : Int) + (c.get x).toNat * 5 =
      (c.settings.fontAddress + 5 * (c.get x).toNat : Nat) := by omega
  change (c.bank.setI (c.settings.fontAddress + (c.get x).toNat * 5)).i.toNat = _
  rw [ha]
  exact c.bank.toNat_setI (by omega)

lemma sprite_glyph (h : c.settings.fontAddress + 80 ≤ 4096) (hf : c.HasFont)
    (hx : (c.get x).toNat ≤ 15) :
    (c.after (.glyph x)).sprite 5 = c.settings.glyph (c.get x).toNat := by
  rw [sprite, toNat_i_glyph x h, Settings.glyph, ← hf]
  exact (c.ram.bytes_drop_take (by omega)).symm

/-- Pointing to a glyph changes nothing that drawing reads but `I`. -/
lemma draws_glyph (h : c.settings.fontAddress + 80 ≤ 4096) (hf : c.HasFont)
    (hx : (c.get x).toNat ≤ 15) : ∃ d, execute (.draw y z 5) (c.after (.glyph x)) = .done d ∧
      c.Draws d y z (c.settings.glyph (c.get x).toNat) := by
  have hl : (c.after (.glyph x)).bank.i.toNat + (5 : Fin 16) ≤ 4096 := by
    rw [toNat_i_glyph x h]
    change c.settings.fontAddress + 5 * (c.get x).toNat + 5 ≤ 4096
    omega
  have hd := draws_after (x := y) (y := z) hl
  rw [show ((5 : Fin 16) : Nat) = 5 from rfl, sprite_glyph h hf hx] at hd
  exact ⟨_, draw_eq_after y z hl, hd.pixels, hd.flag, hd.registers⟩

lemma settings_cycle (c : Core) : c.cycle.core.settings = c.settings := by
  rcases c.cycle_cases with ⟨f, hf⟩ | ⟨i, hi⟩
  · rw [hf]
    rfl
  · rw [core_cycle hi]
    rfl

end Core

namespace Console

variable {s : Settings} {c : Console}

lemma settings_move (c : Console) (m : Move) : (c.move m).settings = c.settings := by
  cases m with
  | cycle =>
    cases hf : c.fault with
    | some f => rw [move_cycle_of_fault hf]
    | none =>
      rw [move_cycle_of_running hf, settings, core_advance]
      exact c.core.settings_cycle
  | tick | keys keypad | clean | write data => rfl

lemma settings_moveAll (c : Console) (ms : List Move) : (c.moveAll ms).settings = c.settings := by
  induction ms generalizing c with
  | nil => rfl
  | cons m ms ih => exact (ih (c.move m)).trans (c.settings_move m)

/-- At each point of every run a digit is pointed to without a cut, and as long as the font is whole
its glyph is drawn from there. -/
theorem glyphs_drawn (h : boot s = .ok c) :
    (∀ ops, (c.performAll ops).settings = s) ∧
    (∀ ms, (c.moveAll ms).settings = s) ∧
    ∀ d : Core, d.settings = s → ∀ x, ∃ e, Core.execute (.glyph x) d = .done e ∧
      e.bank.i.toNat = s.fontAddress + 5 * (d.get x).toNat ∧
      (d.HasFont → (d.get x).toNat ≤ 15 → ∀ y z, ∃ g, Core.execute (.draw y z 5) e = .done g ∧
        d.Draws g y z (s.glyph (d.get x).toNat)) := by
  have hc : c.settings = s := (font_of_boot h).1
  have hm (ms : List Move) : (c.moveAll ms).settings = s := (c.settings_moveAll ms).trans hc
  have hl := font_le_of_boot h
  refine ⟨?_, hm, ?_⟩
  · intro ops
    rw [← moveAll_course]
    exact hm _
  · rintro d rfl x
    refine ⟨d.after (.glyph x), d.execute_eq (.glyph x), Core.toNat_i_glyph x hl, ?_⟩
    intro hf hx y z
    exact Core.draws_glyph hl hf hx

/-- `F` in the last cells of memory, drawn where the register that names it says. -/
theorem glyphs_drawn_topmost : ∃ s c, topmost.check = .ok s ∧ boot s = .ok c ∧
    (c.core.set 0 15).HasFont ∧ ∃ e g, Core.execute (.glyph 0) (c.core.set 0 15) = .done e ∧
      e.bank.i.toNat = 4091 ∧ Core.execute (.draw 0 0 5) e = .done g ∧
      (c.core.set 0 15).Draws g 0 0 (s.glyph 15) := by
  obtain ⟨s, hs⟩ : ∃ s, topmost.check = .ok s := ⟨_, rfl⟩
  have hf : (s.fontAddress : Int) = 4016 := (Draft.checks_of_check hs).fontAddress
  have hc : boot s = .ok (fresh s) := boot_of_le (by omega)
  have hv : (((fresh s).core.set 0 15).get 0).toNat = 15 := by
    rw [Core.get, Core.set, Core.withBank, RegisterBank.get_set, if_pos rfl]
    rfl
  have hi : ((fresh s).core.set 0 15).HasFont := (font_of_boot hc).2
  obtain ⟨e, he, ha, hd⟩ := (glyphs_drawn hc).2.2 ((fresh s).core.set 0 15) rfl 0
  obtain ⟨g, hg, hr⟩ := hd hi hv.le 0 0
  rw [hv] at ha hr
  exact ⟨s, fresh s, hs, hc, hi, e, g, he, by omega, hg, hr⟩

end Console

end Chip8
