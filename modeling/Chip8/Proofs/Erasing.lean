import Chip8.Proofs.Effects
import Chip8.Proofs.Glyphs
import Chip8.Proofs.Pixels

/-! A sprite drawn twice at one place. The second draw takes the first one back, and between them
the two hit something unless there was nothing to draw. -/

namespace Chip8

open scoped symmDiff

namespace Screen

variable {x y : Int} {rows : List UInt8} {row : UInt8}

lemma exists_testBit (h : row ≠ 0) : ∃ j < 8, row.toNat.testBit (7 - j) = true := by
  by_contra hn
  refine h (UInt8.toNat_inj.mp (Nat.eq_of_testBit_eq ?_))
  intro i
  rw [UInt8.toNat_zero, Nat.zero_testBit]
  by_cases hi : i < 8
  · have hj : 7 - (7 - i) = i := by omega
    exact Bool.eq_false_iff.mpr fun hb => hn ⟨7 - i, by omega, by rwa [hj]⟩
  · exact Nat.testBit_lt_two_pow
      (row.toNat_lt.trans_le (Nat.pow_le_pow_right (by decide) (Nat.le_of_not_lt hi)))

lemma imprint_nonempty_iff : (imprint x y rows).Nonempty ↔ ∃ row ∈ rows, row ≠ 0 := by
  constructor
  · rintro ⟨p, j, k, row, -, hr, hb, -⟩
    refine ⟨row, List.mem_of_getElem? hr, ?_⟩
    rintro rfl
    rw [UInt8.toNat_zero, Nat.zero_testBit] at hb
    cases hb
  · rintro ⟨row, hm, hn⟩
    obtain ⟨k, hr⟩ := List.mem_iff_getElem?.mp hm
    obtain ⟨j, hj, hb⟩ := exists_testBit hn
    refine ⟨(columnOf x j, lineOf y k), j, k, row, hj, hr, hb, ?_, ?_⟩
    · dsimp only [columnOf]
      omega
    · dsimp only [lineOf]
      omega

end Screen

variable {s t : Set Position}

lemma disjoint_symmDiff_iff : Disjoint t (s ∆ t) ↔ t ⊆ s := by
  rw [Set.disjoint_left]
  refine forall_congr' fun p => ?_
  rw [Set.mem_symmDiff]
  tauto

lemma disjoint_and_subset_iff : Disjoint t s ∧ t ⊆ s ↔ t = ∅ := by
  constructor
  · rintro ⟨hd, hs⟩
    exact hd.eq_bot_of_le hs
  · rintro rfl
    exact ⟨Set.empty_disjoint s, Set.empty_subset s⟩

namespace Core

variable {c d e g : Core} {x y : Register} {n : Fin 16} {rows : List UInt8}

/-- `e` is about to draw what was drawn before `d`, at the same place. -/
structure Redraws (d e : Core) (x y : Register) : Prop where
  screen : e.panel.screen = d.panel.screen
  ram : e.ram = d.ram
  pointer : e.bank.i = d.bank.i
  column : e.get x = d.get x
  line : e.get y = d.get y

/-- Two draws led from `c` to `d` and to `g`, and nothing of them is left on the screen. -/
structure Erases (c d g : Core) (x y : Register) (rows : List UInt8) : Prop where
  screen : g.panel.screen = c.panel.screen
  hits : d.get flagRegister = 1 ∨ g.get flagRegister = 1 ↔ ∃ row ∈ rows, row ≠ 0
  second_hits : d.get flagRegister = 0 ∧ g.get flagRegister = 1 ↔
    (∃ row ∈ rows, row ≠ 0) ∧ Disjoint (c.stamp x y rows) c.panel.screen.pixels

lemma Draws.flag_eq_one_iff (h : c.Draws d x y rows) :
    d.get flagRegister = 1 ↔ ¬ Disjoint (c.stamp x y rows) c.panel.screen.pixels := by
  rcases h.flag with ⟨hf, hd⟩ | ⟨hf, hd⟩ <;> simp [hf, hd]

lemma Draws.flag_eq_zero_iff (h : c.Draws d x y rows) :
    d.get flagRegister = 0 ↔ Disjoint (c.stamp x y rows) c.panel.screen.pixels := by
  rcases h.flag with ⟨hf, hd⟩ | ⟨hf, hd⟩ <;> simp [hf, hd]

lemma Draws.erases (hd : c.Draws d x y rows) (hs : e.panel.screen = d.panel.screen)
    (hx : e.get x = c.get x) (hy : e.get y = c.get y) (hg : e.Draws g x y rows) :
    c.Erases d g x y rows := by
  have ht : e.stamp x y rows = c.stamp x y rows := by rw [stamp, stamp, hx, hy]
  have hn : (c.stamp x y rows).Nonempty ↔ ∃ row ∈ rows, row ≠ 0 := Screen.imprint_nonempty_iff
  -- what the second draw misses was lit before the first
  have hm : g.get flagRegister = 1 ↔ ¬ c.stamp x y rows ⊆ c.panel.screen.pixels := by
    rw [hg.flag_eq_one_iff, ht, hs, hd.pixels, disjoint_symmDiff_iff]
  refine ⟨?_, ?_, ?_⟩
  · apply Screen.eq_of_pixels
    rw [hg.pixels, ht, hs, hd.pixels, symmDiff_symmDiff_cancel_right]
  · rw [hd.flag_eq_one_iff, hm, ← not_and_or, disjoint_and_subset_iff, ← hn,
      Set.nonempty_iff_ne_empty]
  · rw [hd.flag_eq_zero_iff, hm, ← hn, and_comm]
    refine and_congr_left fun h => ?_
    rw [Set.nonempty_iff_ne_empty]
    exact not_congr ((and_iff_right h).symm.trans disjoint_and_subset_iff)

/-- A second draw of the same sprite at the same place restores the screen, unless the flag of the
first has moved the place. -/
theorem second_draw_erases (c : Core) (x y : Register) (n : Fin 16)
    (h : c.bank.i.toNat + n ≤ 4096) :
    ∃ d, execute (.draw x y n) c = .done d ∧ (c.At (.draw x y n) → c.cycle = .done d) ∧
      c.Draws d x y (c.sprite n) ∧ d.ram = c.ram ∧ d.bank.i = c.bank.i ∧
      (x ≠ flagRegister → y ≠ flagRegister → ∀ e, d.Redraws e x y →
        ∃ g, execute (.draw x y n) e = .done g ∧
          (c.At (.draw x y n) → e.pc = c.pc → e.cycle = .done g) ∧
          c.Erases d g x y (c.sprite n)) := by
  have hd := draws_after (x := x) (y := y) h
  have hi : (c.after (.draw x y n)).bank.i = c.bank.i := (i_after c _).trans (i_bankAfter id)
  refine ⟨_, draw_eq_after x y h, fun ha => (cycle_of_at ha).trans (draw_eq_after x y h), hd, rfl,
    hi, ?_⟩
  intro hx hy e he
  have hp : e.bank.i = c.bank.i := he.pointer.trans hi
  have hl : e.bank.i.toNat + n ≤ 4096 := by rwa [hp]
  have hs : e.sprite n = c.sprite n := by
    rw [sprite, sprite, hp, he.ram]
    rfl
  have hg := draws_after (x := x) (y := y) hl
  rw [hs] at hg
  refine ⟨_, draw_eq_after x y hl, ?_, ?_⟩
  · intro ha hc
    have hr : e.ram = c.ram := he.ram
    exact (cycle_of_at (ha.of_pc hr hc)).trans (draw_eq_after x y hl)
  · exact hd.erases he.screen (he.column.trans (hd.registers x hx))
      (he.line.trans (hd.registers y hy)) hg

/-- A sprite in the last two cells of memory, for the lower right corner of the screen. -/
def corner : Core where
  settings := .standard
  ram := Ram.zero.blit 0xFFE [0xFF, 0x81]
  bank := { RegisterBank.start 0x200 with v := Vector.replicate 16 63, i := 0xFFE }
  stack := CallStack.empty
  panel := Panel.fresh
  timers := Countdown.zero
  keypad := Keypad.released

theorem second_draw_erases_corner : corner.bank.i.toNat + (2 : Fin 16) ≤ 4096 ∧
    ∃ d g, execute (.draw 0 1 2) corner = .done d ∧
      execute (.draw 0 1 2) { d with bank := { d.bank with pc := 0x200 } } = .done g ∧
      g.panel.screen = corner.panel.screen ∧
      d.get flagRegister = 0 ∧ g.get flagRegister = 1 := by
  have h : corner.bank.i.toNat + (2 : Fin 16) ≤ 4096 := by decide
  have hs : corner.sprite (2 : Fin 16) = [0xFF, 0x81] := Ram.bytes_blit _ (by decide)
  have hb : Disjoint (corner.stamp 0 1 [0xFF, 0x81]) corner.panel.screen.pixels := by
    rw [Set.disjoint_right]
    rintro ⟨c, l⟩ hp
    exact absurd hp (Bool.eq_false_iff.mp (Screen.lit_blank c l))
  obtain ⟨d, hd, -, -, -, -, hr⟩ := second_draw_erases corner 0 1 2 h
  obtain ⟨g, hg, -, he⟩ := hr (by decide) (by decide)
    { d with bank := { d.bank with pc := 0x200 } } ⟨rfl, rfl, rfl, rfl, rfl⟩
  rw [hs] at he
  obtain ⟨hf, hl⟩ := he.second_hits.mpr ⟨⟨0xFF, .head _, by decide⟩, hb⟩
  exact ⟨h, d, g, hd, hg, he.screen, hf, hl⟩

end Core

end Chip8
