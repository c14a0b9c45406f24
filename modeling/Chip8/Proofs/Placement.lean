import Chip8.Proofs.Loading

/-! Where a font can be placed. The check of settings keeps it below the program address, but not in
memory: a console is built from checked settings just if the font ends there too. -/

namespace Chip8.Console

variable {p : Draft} {s : Settings} {c : Console}

def fresh (s : Settings) : Console := ⟨{
  settings := s
  ram := Ram.zero.blit s.fontAddress s.font.toList
  bank := RegisterBank.start s.programAddress
  stack := CallStack.empty
  panel := Panel.fresh
  timers := Countdown.zero
  keypad := Keypad.released }, none⟩

lemma covers_font_iff (s : Settings) :
    Ram.Covers 4096 s.fontAddress s.font.toList.length ↔ s.fontAddress + 80 ≤ 4096 := by
  have hl : s.font.toList.length = 80 := s.font.size_toArray
  rw [hl]
  omega

lemma boot_of_le (h : s.fontAddress + 80 ≤ 4096) : boot s = .ok (fresh s) := by
  rw [boot, Core.boot, Ram.load, if_pos ((covers_font_iff s).mpr h)]
  rfl

lemma boot_of_lt (h : 4096 < s.fontAddress + 80) :
    boot s = .error (.memoryAccess s.fontAddress 80 4096) := by
  have hl : s.font.toList.length = 80 := s.font.size_toArray
  have hc : ¬ Ram.Covers 4096 s.fontAddress s.font.toList.length :=
    mt (covers_font_iff s).mp (Nat.not_le.mpr h)
  rw [boot, Core.boot, Ram.load, if_neg hc, hl]
  rfl

lemma font_le_of_boot (h : boot s = .ok c) : s.fontAddress + 80 ≤ 4096 := by
  by_contra hn
  rw [boot_of_lt (Nat.not_le.mp hn)] at h
  cases h

/-- The console is as its settings propose: the font is in its place, the rest of memory is blank,
and the program is about to start. -/
structure Furnished (p : Draft) (c : Console) : Prop where
  font : (c.core.ram.bytes ⟨p.fontAddress.toNat, 80⟩).map (fun b => (b.toNat : Int)) = p.font
  blank : ∀ a : Nat, a < p.fontAddress ∨ p.fontAddress + 80 ≤ a → c.core.ram.get a = 0
  start : c.core.pc = p.programAddress

lemma furnished_fresh (hp : p.Checks s) (h : s.fontAddress + 80 ≤ 4096) :
    (fresh s).Furnished p := by
  obtain ⟨ha, hf, hb⟩ := hp
  obtain ⟨-, hi⟩ := font_of_boot (boot_of_le h)
  have hl : s.font.toList.length = 80 := s.font.size_toArray
  constructor
  · rw [← hf, ← hb, Int.toNat_natCast, hi]
  · intro a hn
    change (Ram.zero.blit s.fontAddress s.font.toList).get a = 0
    rw [Ram.get_blit_of_outside _ (by omega), Ram.get_zero]
  · exact ha

/-- From settings that passed the check a console is built, and furnished as they propose, if the
font ends in memory; if it does not, the bus refuses the font. -/
theorem boot_of_check (h : p.check = .ok s) :
    (p.fontAddress + 80 ≤ 4096 → ∃ c, boot s = .ok c ∧ c.Furnished p) ∧
    (4096 < p.fontAddress + 80 → boot s = .error (.memoryAccess p.fontAddress 80 4096)) := by
  have hp := Draft.checks_of_check h
  have hf := hp.fontAddress
  constructor
  · intro hl
    have hs : s.fontAddress + 80 ≤ 4096 := by omega
    exact ⟨fresh s, boot_of_le hs, furnished_fresh hp hs⟩
  · intro hl
    rw [← hf]
    exact boot_of_lt (by omega)

/-- The font takes the last cells of memory. -/
def topmost : Draft := { programAddress := 4096, fontAddress := 4016 }

/-- The last byte of the font has no cell. -/
def overhanging : Draft := { programAddress := 4097, fontAddress := 4017 }

theorem boot_of_check_topmost :
    (∃ s c, topmost.check = .ok s ∧ boot s = .ok c ∧ c.Furnished topmost) ∧
    ∃ s, overhanging.check = .ok s ∧ boot s = .error (.memoryAccess 4017 80 4096) := by
  constructor
  · obtain ⟨s, hs⟩ : ∃ s, topmost.check = .ok s := ⟨_, rfl⟩
    obtain ⟨c, hc, hf⟩ := (boot_of_check hs).1 (by decide)
    exact ⟨s, c, hs, hc, hf⟩
  · obtain ⟨s, hs⟩ : ∃ s, overhanging.check = .ok s := ⟨_, rfl⟩
    exact ⟨s, hs, (boot_of_check hs).2 (by decide)⟩

theorem overhanging_not_boot : ∃ s, overhanging.check = .ok s ∧
    boot s = .error (.memoryAccess 4017 80 4096) ∧ ¬ ∃ c, boot s = .ok c := by
  obtain ⟨s, hs⟩ : ∃ s, overhanging.check = .ok s := ⟨_, rfl⟩
  have hf : (s.fontAddress : Int) = 4017 := (Draft.checks_of_check hs).fontAddress
  refine ⟨s, hs, ?_, ?_⟩
  · rw [boot_of_lt (by omega), hf]
  · rintro ⟨c, hc⟩
    have hl := font_le_of_boot hc
    omega

end Chip8.Console
