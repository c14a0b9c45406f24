import Chip8.Proofs.Course
import Chip8.Proofs.Transfers

/-! Loading programs. A program is written as a whole from the program address on, or is refused and
leaves no trace, so the font, which ends below that address, outlasts all loads. -/

namespace Chip8

/-- Checked settings hold the places and the font that were proposed. -/
structure Draft.Checks (p : Draft) (s : Settings) : Prop where
  programAddress : (s.programAddress : Int) = p.programAddress
  fontAddress : (s.fontAddress : Int) = p.fontAddress
  font : s.font.toList.map (fun b => (b.toNat : Int)) = p.font

lemma Draft.toNat_ofInt {n : Int} (h : Byte n) : ((UInt8.ofInt n).toNat : Int) = n := by
  have := h.1
  have := h.2
  simp only [UInt8.ofInt, UInt8.toNat_ofNat']
  omega

lemma Draft.checks_of_check {p : Draft} {s : Settings} (h : p.check = .ok s) : p.Checks s := by
  rw [check] at h
  split at h
  · split at h
    · split at h
      · split at h
        · rename_i _ hp _ hb
          obtain rfl := Except.ok.inj h
          refine ⟨Int.toNat_of_nonneg (by omega), Int.toNat_of_nonneg hp.1, ?_⟩
          change (p.font.map UInt8.ofInt).map (fun b => (b.toNat : Int)) = p.font
          rw [List.map_map]
          exact (List.map_congr_left fun n hn => toNat_ofInt (hb n hn)).trans (List.map_id p.font)
        · cases h
      · cases h
    · cases h
  · cases h

namespace Console

variable {c : Console} {s : Settings}

/-- A program goes to the cells from `a` on as a whole, or there is no room and nothing happens. -/
structure Loads (c : Console) (a : Int) (data : List UInt8) : Prop where
  succeeds : (c.perform (.load data)).result = .ok .nothing ↔ a + data.length ≤ 4096
  written : a + data.length ≤ 4096 → ∃ m : Ram 4096,
    (c.perform (.load data)).console = c.withCore ({ · with ram := m }) ∧
      m.bytes ⟨a.toNat, data.length⟩ = data ∧
      ∀ n : Nat, n < a ∨ a + data.length ≤ n → m.get n = c.core.ram.get n
  refused : 4096 < a + data.length →
    c.perform (.load data) = c.answer (.error (.romTooLarge data.length (4096 - a)))
  category : ∀ r, (c.perform (.load data)).result = .error r → r.category = .resource

lemma loads (c : Console) (data : List UInt8) : c.Loads c.settings.programAddress data := by
  by_cases h : c.settings.programAddress + data.length ≤ 4096
  · have hr : c.perform (.load data) = ⟨c.move (.write data), .ok .nothing,
        [.wrote data.length c.settings.programAddress, .romLoaded data.length]⟩ :=
      congrArg (Reply.map fun _ => Answer.nothing) (load_of_le h)
    have hi : (c.settings.programAddress : Int) + data.length ≤ 4096 := by omega
    refine ⟨?_, fun _ => ?_, fun hl => by omega, ?_⟩
    · rw [hr]
      exact iff_of_true rfl hi
    · refine ⟨_, congrArg Reply.console hr, Ram.bytes_blit _ h, fun n hn => ?_⟩
      exact Ram.get_blit_of_outside _ (by omega)
    · rw [hr]
      rintro r ⟨⟩
  · have hr : c.perform (.load data) =
        c.answer (.error (.romTooLarge data.length c.settings.room)) :=
      congrArg (Reply.map fun _ => Answer.nothing) (load_of_lt h)
    refine ⟨?_, fun hi => by omega, fun _ => hr, ?_⟩
    · rw [hr]
      exact iff_of_false nofun (by omega)
    · rw [hr]
      rintro r ⟨⟩
      rfl

/-- Loads change nothing but memory, and that only from the program address on. -/
lemma performAll_loads (c : Console) (roms : List (List UInt8)) : ∃ m : Ram 4096,
    c.performAll (roms.map .load) = c.withCore ({ · with ram := m }) ∧
      ∀ n < c.settings.programAddress, m.get n = c.core.ram.get n := by
  induction roms generalizing c with
  | nil => exact ⟨c.core.ram, rfl, fun _ _ => rfl⟩
  | cons data roms ih =>
    have hd := c.loads data
    have hp : c.performAll ((data :: roms).map .load) =
        (c.perform (.load data)).console.performAll (roms.map .load) := rfl
    rw [hp]
    by_cases h : c.settings.programAddress + data.length ≤ 4096
    · obtain ⟨k, hk, -, hl⟩ := hd.written (by omega)
      obtain ⟨m, hm, hn⟩ := ih (c.withCore ({ · with ram := k }))
      rw [hk, hm]
      exact ⟨m, rfl, fun n h => (hn n h).trans (hl n (by omega))⟩
    · rw [hd.refused (by omega)]
      exact ih c

lemma font_of_boot (h : boot s = .ok c) :
    c.settings = s ∧ c.core.ram.bytes ⟨s.fontAddress, 80⟩ = s.font.toList := by
  have hl : s.font.toList.length = 80 := s.font.size_toArray
  rw [boot, Core.boot, Ram.load] at h
  split at h
  · rename_i hf
    obtain rfl := Except.ok.inj h
    have hb : ((Ram.zero : Ram 4096).blit s.fontAddress s.font.toList).bytes
        ⟨s.fontAddress, s.font.toList.length⟩ = s.font.toList :=
      Ram.bytes_blit _ (by have := hf.2.2; omega)
    rw [hl] at hb
    exact ⟨rfl, hb⟩
  · cases h

/-- Every load of a run writes the program as a whole or is refused for want of room, whatever the
settings that a console boots from, and the font is still in its place after all of them. -/
theorem loads_exact {p : Draft} (hp : p.check = .ok s) (hc : boot s = .ok c)
    (roms : List (List UInt8)) :
    (∀ before data later, roms = before ++ data :: later →
      (c.performAll (before.map .load)).Loads p.programAddress data) ∧
    ((c.performAll (roms.map .load)).core.ram.bytes ⟨p.fontAddress.toNat, 80⟩).map
      (fun b => (b.toNat : Int)) = p.font := by
  obtain ⟨ha, hf, hb⟩ := Draft.checks_of_check hp
  obtain ⟨hs, hi⟩ := font_of_boot hc
  rw [← ha, ← hf, ← hb, Int.toNat_natCast]
  constructor
  · intro before data later _
    obtain ⟨m, hm, -⟩ := c.performAll_loads before
    rw [hm, ← hs]
    exact loads (c.withCore ({ · with ram := m })) data
  · obtain ⟨m, hm, hn⟩ := c.performAll_loads roms
    have hd : m.bytes ⟨s.fontAddress, 80⟩ = c.core.ram.bytes ⟨s.fontAddress, 80⟩ := by
      refine Ram.bytes_congr fun j _ hj => hn j ?_
      rw [hs]
      exact Nat.lt_of_lt_of_le hj s.font_below_program
    rw [hm, ← hi, ← hd]
    rfl

/-- Leaves two bytes for a program. -/
def tight : Draft := { programAddress := 4094, fontAddress := 4000 }

/-- Programs would start behind the end of memory. -/
def beyond : Draft := { programAddress := 5000 }

theorem loads_exact_tight :
    (∃ s c, tight.check = .ok s ∧ boot s = .ok c ∧
      c.perform (.load [1, 2, 3]) = c.answer (.error (.romTooLarge 3 2)) ∧
      ((c.performAll [.load [1, 2, 3]]).perform (.load [4, 5])).result = .ok .nothing ∧
      ((c.performAll [.load [1, 2, 3], .load [4, 5]]).core.ram.bytes ⟨4000, 80⟩).map
        (fun b => (b.toNat : Int)) = tight.font) ∧
    ∃ s c, beyond.check = .ok s ∧ boot s = .ok c ∧
      c.perform (.load []) = c.answer (.error (.romTooLarge 0 (-904))) := by
  constructor
  · obtain ⟨s, c, hs, hc⟩ : ∃ s c, tight.check = .ok s ∧ boot s = .ok c := ⟨_, _, rfl, rfl⟩
    obtain ⟨hl, hf⟩ := loads_exact hs hc [[1, 2, 3], [4, 5]]
    have h3 := hl [] [1, 2, 3] [[4, 5]] rfl
    have h2 := hl [[1, 2, 3]] [4, 5] [] rfl
    exact ⟨s, c, hs, hc, h3.refused (by decide), h2.succeeds.mpr (by decide), hf⟩
  · obtain ⟨s, c, hs, hc⟩ : ∃ s c, beyond.check = .ok s ∧ boot s = .ok c := ⟨_, _, rfl, rfl⟩
    exact ⟨s, c, hs, hc, ((loads_exact hs hc [[]]).1 [] [] [] rfl).refused (by decide)⟩

end Console

end Chip8
