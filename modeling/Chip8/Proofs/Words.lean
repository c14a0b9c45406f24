import Chip8.Core.Cycle
import Chip8.Instr.Lemmas
import Mathlib.Tactic.Common

/-! The word that a core reads as its next instruction, and the words that are instructions. -/

namespace Chip8

namespace Opcode

/-- The groups in which every word is an instruction. -/
def fullGroups : List Nat := [0x1, 0x2, 0x3, 0x4, 0x6, 0x7, 0xA, 0xD]

def lowBytes : List Nat := [0x07, 0x0A, 0x15, 0x18, 0x1E, 0x29, 0x33, 0x55, 0x65]

/-- The words of the instruction set, group by group. -/
def Defined (w : Nat) : Prop :=
  w = 0x00E0 ∨ w = 0x00EE ∨ w / 0x1000 ∈ fullGroups ∨
  (w / 0x1000 = 0x5 ∨ w / 0x1000 = 0x9) ∧ w % 0x10 = 0 ∨
  w / 0x1000 = 0x8 ∧ (w % 0x10 ≤ 0x7 ∨ w % 0x10 = 0xE) ∨
  w / 0x1000 = 0xE ∧ (w % 0x100 = 0x9E ∨ w % 0x100 = 0xA1) ∨
  w / 0x1000 = 0xF ∧ w % 0x100 ∈ lowBytes

instance (w : Nat) : Decidable (Defined w) :=
  inferInstanceAs (Decidable (_ ∨ _))

lemma defined_of_group {w g : Nat} (hw : w / 0x1000 = g) (hg : g ∈ fullGroups) : Defined w :=
  .inr (.inr (.inl (hw ▸ hg)))

lemma defined_of_low {w k : Nat} {x : Register} (hk : k ∈ lowBytes)
    (hw : w = 0xF000 + k + 0x100 * x) : Defined w := by
  have hl : ∀ j ∈ lowBytes, j < 0x100 := by decide
  have hk' : k < 0x100 := hl k hk
  have hm : w % 0x100 = k := by omega
  exact .inr (.inr (.inr (.inr (.inr (.inr ⟨by omega, hm ▸ hk⟩)))))

end Opcode

namespace Instr

open Opcode

lemma defined_word (i : Instr) : Defined i.word := by
  cases i with
  | clear => exact .inl rfl
  | ret => exact .inr (.inl rfl)
  | jump t => exact defined_of_group (g := 0x1) (by simp only [word]; omega) (by decide)
  | call t => exact defined_of_group (g := 0x2) (by simp only [word]; omega) (by decide)
  | point a => exact defined_of_group (g := 0xA) (by simp only [word]; omega) (by decide)
  | draw x y n => exact defined_of_group (g := 0xD) (by simp only [word]; omega) (by decide)
  | skipIf x b =>
    have hb := b.toNat_lt
    exact defined_of_group (g := 0x3) (by simp only [word]; omega) (by decide)
  | skipUnless x b =>
    have hb := b.toNat_lt
    exact defined_of_group (g := 0x4) (by simp only [word]; omega) (by decide)
  | load x b =>
    have hb := b.toNat_lt
    exact defined_of_group (g := 0x6) (by simp only [word]; omega) (by decide)
  | add x b =>
    have hb := b.toNat_lt
    exact defined_of_group (g := 0x7) (by simp only [word]; omega) (by decide)
  | skipSame x y =>
    refine .inr (.inr (.inr (.inl ⟨.inl ?_, ?_⟩))) <;> simp only [word] <;> omega
  | skipDifferent x y =>
    refine .inr (.inr (.inr (.inl ⟨.inr ?_, ?_⟩))) <;> simp only [word] <;> omega
  | alu op x y =>
    have ho : op.nibble ≤ 0x7 ∨ op.nibble = 0xE := by cases op <;> decide
    refine .inr (.inr (.inr (.inr (.inl ⟨?_, ?_⟩)))) <;> simp only [word] <;> omega
  | skipDown x =>
    refine .inr (.inr (.inr (.inr (.inr (.inl ⟨?_, .inl ?_⟩))))) <;> simp only [word] <;> omega
  | skipUp x =>
    refine .inr (.inr (.inr (.inr (.inr (.inl ⟨?_, .inr ?_⟩))))) <;> simp only [word] <;> omega
  | getDelay x => exact defined_of_low (k := 0x07) (by decide) rfl
  | awaitKey x => exact defined_of_low (k := 0x0A) (by decide) rfl
  | setDelay x => exact defined_of_low (k := 0x15) (by decide) rfl
  | setSound x => exact defined_of_low (k := 0x18) (by decide) rfl
  | movePoint x => exact defined_of_low (k := 0x1E) (by decide) rfl
  | glyph x => exact defined_of_low (k := 0x29) (by decide) rfl
  | storeDecimal x => exact defined_of_low (k := 0x33) (by decide) rfl
  | storeUpTo x => exact defined_of_low (k := 0x55) (by decide) rfl
  | loadUpTo x => exact defined_of_low (k := 0x65) (by decide) rfl

lemma ofNibble_isSome {n : Fin 16} (h : (n : Nat) ≤ 7 ∨ (n : Nat) = 14) :
    (AluOp.ofNibble? n).isSome = true := by
  revert n
  decide

lemma decode_isSome {w : Nat} (h : Defined w) : (decode ⟨w⟩).isSome = true := by
  rcases h with rfl | rfl | hg | ⟨hg | hg, hn⟩ | ⟨hg, hn⟩ | ⟨hg, hk | hk⟩ | ⟨hg, hk⟩
  · rfl
  · rfl
  · simp only [fullGroups, List.mem_cons, List.not_mem_nil, or_false] at hg
    rcases hg with hg | hg | hg | hg | hg | hg | hg | hg <;>
      simp [decode, group_eq hg]
  · simp [decode, group_eq hg, n_eq (r := 0) hn]
  · simp [decode, group_eq hg, n_eq (r := 0) hn]
  · have hr : ((Opcode.mk w).n : Nat) = w % 16 := by simp only [n]; omega
    simp [decode, group_eq hg, ofNibble_isSome (n := (Opcode.mk w).n) (by omega)]
  · simp [decode, group_eq hg, kk_eq (b := 0x9E) hk]
  · simp [decode, group_eq hg, kk_eq (b := 0xA1) hk]
  · have hb : (Opcode.mk w).kk.toNat = w % 256 := by
      simp only [kk, UInt8.ofInt, UInt8.toNat_ofNat']
      omega
    simp only [lowBytes, List.mem_cons, List.not_mem_nil, or_false] at hk
    rcases hk with hk | hk | hk | hk | hk | hk | hk | hk | hk <;>
      simp [decode, group_eq hg, ofGroupF?, hb, hk]

lemma exists_word_iff {w : Nat} : (∃ i : Instr, w = i.word) ↔ Defined w := by
  constructor
  · rintro ⟨i, rfl⟩
    exact defined_word i
  · intro h
    obtain ⟨i, hi⟩ := Option.isSome_iff_exists.mp (decode_isSome h)
    exact ⟨i, decode_eq_some_iff.mp hi⟩

lemma decode_eq_none_iff {w : Nat} : decode ⟨w⟩ = none ↔ ¬ Defined w := by
  rw [← exists_word_iff, not_exists, Option.eq_none_iff_forall_ne_some]
  exact forall_congr' fun i => not_congr decode_eq_some_iff

end Instr

namespace Ram

variable {size : Nat}

/-- Two cells as one number, the high byte first. -/
def word (m : Ram size) (a : Nat) : Nat :=
  256 * (m.get a).toNat + (m.get (a + 1)).toNat

lemma toNat_join (hi lo : UInt8) :
    (hi.toUInt16 <<< 8 ||| lo.toUInt16).toNat = 256 * hi.toNat + lo.toNat := by
  have hh := hi.toNat_lt
  have hl := lo.toNat_lt
  have hs : hi.toNat <<< 8 % 65536 = 2 ^ 8 * hi.toNat := by
    rw [Nat.shiftLeft_eq]
    omega
  simp only [UInt16.toNat_or, UInt16.toNat_shiftLeft, UInt8.toNat_toUInt16]
  rw [show (8 : UInt16).toNat % 16 = 8 from rfl, hs, ← Nat.two_pow_add_eq_or_of_lt hl]

lemma fetch_eq (m : Ram size) {a : Int} (h : Covers size a 2) :
    ∃ w : UInt16, m.fetch a = .ok w ∧ w.toNat = m.word a.toNat :=
  ⟨_, if_pos h, toNat_join _ _⟩

end Ram

namespace Core

def Fetchable (c : Core) : Prop :=
  0 ≤ c.pc ∧ c.pc + 2 ≤ 4096

def word (c : Core) : Nat := c.ram.word c.pc.toNat

/-- The core is about to execute `i`. -/
def At (c : Core) (i : Instr) : Prop :=
  c.Fetchable ∧ c.word = i.word

lemma At.unique {c : Core} {i j : Instr} (hi : c.At i) (hj : c.At j) : i = j :=
  Option.some.inj ((Instr.decode_of_eq_word hi.2).symm.trans (Instr.decode_of_eq_word hj.2))

/-- Of a core only memory and the program counter tell what it is about to execute. -/
lemma At.of_pc {c d : Core} {i : Instr} (h : c.At i) (hr : d.ram = c.ram) (hp : d.pc = c.pc) :
    d.At i := by
  rw [At, Fetchable, word, hp, hr]
  exact h

lemma cycle_of_not_fetchable {c : Core} (h : ¬ c.Fetchable) :
    c.cycle = .failed c (.memoryAccess c.pc 2 4096) := by
  have hc : ¬ Ram.Covers 4096 c.pc 2 := fun hc => h ⟨hc.1, hc.2.2⟩
  rw [cycle, Ram.fetch, if_neg hc]

lemma cycle_of_undefined {c : Core} (h : c.Fetchable) (hw : ¬ Opcode.Defined c.word) :
    c.cycle = .failed c (.unknownWord c.word c.pc) := by
  obtain ⟨w, hf, he⟩ := c.ram.fetch_eq ⟨h.1, by decide, h.2⟩
  have hd : Instr.decode ⟨w.toNat⟩ = none := by
    rw [he]
    exact Instr.decode_eq_none_iff.mpr hw
  simp only [cycle, hf, hd]
  rw [he]
  rfl

lemma cycle_of_at {c : Core} {i : Instr} (h : c.At i) : c.cycle = execute i c := by
  obtain ⟨w, hf, he⟩ := c.ram.fetch_eq ⟨h.1.1, by decide, h.1.2⟩
  have hd : Instr.decode ⟨w.toNat⟩ = some i := by
    rw [he]
    exact Instr.decode_of_eq_word h.2
  simp only [cycle, hf, hd]

lemma fetch_cases (c : Core) :
    ¬ c.Fetchable ∨ (c.Fetchable ∧ ¬ Opcode.Defined c.word) ∨ ∃ i, c.At i := by
  by_cases hf : c.Fetchable
  · by_cases hw : Opcode.Defined c.word
    · obtain ⟨i, hi⟩ := Instr.exists_word_iff.mpr hw
      exact .inr (.inr ⟨i, hf, hi⟩)
    · exact .inr (.inl ⟨hf, hw⟩)
  · exact .inl hf

end Core

end Chip8
