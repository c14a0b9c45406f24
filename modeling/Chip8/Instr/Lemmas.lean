import Chip8.Instr.Basic

/-! Opcodes and instructions determine each other: an instruction is read back from its opcode, and
an opcode of sixteen bits is that of the instruction read from it. -/

namespace Chip8

namespace Opcode

theorem group_eq {w g : Nat} (h : w / 4096 = g) : (mk w).group = (g : Int) := by
  simp only [group]
  omega

theorem x_eq {w : Nat} {r : Register} (h : w / 256 % 16 = r) : (mk w).x = r := by
  apply Fin.ext
  simp only [x]
  omega

theorem y_eq {w : Nat} {r : Register} (h : w / 16 % 16 = r) : (mk w).y = r := by
  apply Fin.ext
  simp only [y]
  omega

theorem n_eq {w : Nat} {r : Fin 16} (h : w % 16 = r) : (mk w).n = r := by
  apply Fin.ext
  simp only [n]
  omega

theorem kk_eq {w : Nat} {b : UInt8} (h : w % 256 = b.toNat) : (mk w).kk = b := by
  apply UInt8.toNat_inj.mp
  simp only [kk, UInt8.ofInt, UInt8.toNat_ofNat']
  omega

theorem nnn_eq {w : Nat} {a : Fin 4096} (h : w % 4096 = a) : (mk w).nnn = a := by
  apply Fin.ext
  simp only [nnn]
  omega

theorem fields_address {w : Nat} {a : Fin 4096} (g : Nat) (hw : w = 0x1000 * g + a) :
    (mk w).group = (g : Int) ∧ (mk w).nnn = a :=
  ⟨group_eq (by omega), nnn_eq (by omega)⟩

theorem fields_byte {w : Nat} {x : Register} {b : UInt8} (g : Nat)
    (hw : w = 0x1000 * g + 0x100 * x + b.toNat) :
    (mk w).group = (g : Int) ∧ (mk w).x = x ∧ (mk w).kk = b := by
  have hb := b.toNat_lt
  exact ⟨group_eq (by omega), x_eq (by omega), kk_eq (by omega)⟩

theorem fields_low {w : Nat} {x : Register} (g : Nat) (b : UInt8)
    (hw : w = 0x1000 * g + b.toNat + 0x100 * x) :
    (mk w).group = (g : Int) ∧ (mk w).x = x ∧ (mk w).kk = b :=
  fields_byte g (by omega)

theorem fields_nibbles {w : Nat} {x y : Register} {n : Fin 16} (g : Nat)
    (hw : w = 0x1000 * g + 0x100 * x + 0x10 * y + n) :
    (mk w).group = (g : Int) ∧ (mk w).x = x ∧ (mk w).y = y ∧ (mk w).n = n :=
  ⟨group_eq (by omega), x_eq (by omega), y_eq (by omega), n_eq (by omega)⟩

end Opcode

namespace Instr

open Opcode

theorem decode_groupF {w : Nat} {x : Register} (b : UInt8)
    (hw : w = 0xF000 + b.toNat + 0x100 * x) : decode ⟨w⟩ = ofGroupF? x b := by
  obtain ⟨hg, hx, hk⟩ := fields_low 0xF b hw
  simp [decode, hg, hx, hk]

theorem decode_of_eq_word {i : Instr} {w : Nat} (hw : w = i.word) : decode ⟨w⟩ = some i := by
  cases i with
  | clear | ret =>
    subst hw
    rfl
  | jump t =>
    obtain ⟨hg, ha⟩ := fields_address 0x1 hw
    simp [decode, hg, ha]
  | call t =>
    obtain ⟨hg, ha⟩ := fields_address 0x2 hw
    simp [decode, hg, ha]
  | point t =>
    obtain ⟨hg, ha⟩ := fields_address 0xA hw
    simp [decode, hg, ha]
  | skipIf x b =>
    obtain ⟨hg, hx, hk⟩ := fields_byte 0x3 hw
    simp [decode, hg, hx, hk]
  | skipUnless x b =>
    obtain ⟨hg, hx, hk⟩ := fields_byte 0x4 hw
    simp [decode, hg, hx, hk]
  | load x b =>
    obtain ⟨hg, hx, hk⟩ := fields_byte 0x6 hw
    simp [decode, hg, hx, hk]
  | add x b =>
    obtain ⟨hg, hx, hk⟩ := fields_byte 0x7 hw
    simp [decode, hg, hx, hk]
  | skipSame x y =>
    obtain ⟨hg, hx, hy, hn⟩ := fields_nibbles 0x5 (n := 0) hw
    simp [decode, hg, hx, hy, hn]
  | skipDifferent x y =>
    obtain ⟨hg, hx, hy, hn⟩ := fields_nibbles 0x9 (n := 0) hw
    simp [decode, hg, hx, hy, hn]
  | alu op x y =>
    have ho : op.nibble < 16 := by cases op <;> decide
    have hr : AluOp.ofNibble? ⟨op.nibble, ho⟩ = some op := by cases op <;> rfl
    obtain ⟨hg, hx, hy, hn⟩ := fields_nibbles 0x8 (n := ⟨op.nibble, ho⟩) hw
    simp [decode, hg, hx, hy, hn, hr]
  | draw x y n =>
    obtain ⟨hg, hx, hy, hn⟩ := fields_nibbles 0xD hw
    simp [decode, hg, hx, hy, hn]
  | skipDown x =>
    obtain ⟨hg, hx, hk⟩ := fields_low 0xE 0x9E hw
    simp [decode, hg, hx, hk]
  | skipUp x =>
    obtain ⟨hg, hx, hk⟩ := fields_low 0xE 0xA1 hw
    simp [decode, hg, hx, hk]
  | getDelay x => exact decode_groupF 0x07 hw
  | awaitKey x => exact decode_groupF 0x0A hw
  | setDelay x => exact decode_groupF 0x15 hw
  | setSound x => exact decode_groupF 0x18 hw
  | movePoint x => exact decode_groupF 0x1E hw
  | glyph x => exact decode_groupF 0x29 hw
  | storeDecimal x => exact decode_groupF 0x33 hw
  | storeUpTo x => exact decode_groupF 0x55 hw
  | loadUpTo x => exact decode_groupF 0x65 hw

theorem decode_word (i : Instr) : decode ⟨i.word⟩ = some i :=
  decode_of_eq_word rfl

theorem nibble_of_ofNibble {n : Fin 16} {op : AluOp} (h : AluOp.ofNibble? n = some op) :
    op.nibble = n := by
  unfold AluOp.ofNibble? at h
  split at h <;> simp only [Option.some.injEq, reduceCtorEq] at h <;> subst h <;>
    simp only [AluOp.nibble] <;> omega

theorem word_of_ofGroupF {w : Nat} {i : Instr} (hw : w / 4096 = 15)
    (h : ofGroupF? (mk w).x (mk w).kk = some i) : i.word = w := by
  have hx : ((mk w).x : Nat) = w / 256 % 16 := by simp only [x]; omega
  have hk : (mk w).kk.toNat = w % 256 := by
    simp only [kk, UInt8.ofInt, UInt8.toNat_ofNat']
    omega
  rw [ofGroupF?, hk] at h
  split at h <;> simp only [Option.some.injEq, reduceCtorEq] at h <;> subst h <;>
    simp only [word, hx] <;> omega

theorem word_of_decode {w : Nat} {i : Instr} (h : decode ⟨w⟩ = some i) : i.word = w := by
  have hg : (mk w).group = (w / 4096 : Nat) := group_eq rfl
  have hx : ((mk w).x : Nat) = w / 256 % 16 := by simp only [x]; omega
  have hy : ((mk w).y : Nat) = w / 16 % 16 := by simp only [y]; omega
  have hn : ((mk w).n : Nat) = w % 16 := by simp only [n]; omega
  have ha : ((mk w).nnn : Nat) = w % 4096 := by simp only [nnn]; omega
  have hk : (mk w).kk.toNat = w % 256 := by
    simp only [kk, UInt8.ofInt, UInt8.toNat_ofNat']
    omega
  have h9E : (0x9E : UInt8).toNat = 0x9E := rfl
  have hA1 : (0xA1 : UInt8).toNat = 0xA1 := rfl
  rw [decode, hg] at h
  split at h
  case h_9 =>
    obtain ⟨op, ho, rfl⟩ := Option.map_eq_some_iff.mp h
    have := nibble_of_ofNibble ho
    simp only [word, hx, hy]
    omega
  case h_14 => exact word_of_ofGroupF (by omega) h
  all_goals
    repeat' split at h
  all_goals simp only [Option.some.injEq, reduceCtorEq] at h
  all_goals
    subst h
    simp only [word, hx, hy, hn, ha, hk]
    simp only [← UInt8.toNat_inj, Fin.ext_iff, hk, hn, h9E, hA1] at *
    omega

theorem decode_eq_some_iff {w : Nat} {i : Instr} : decode ⟨w⟩ = some i ↔ w = i.word :=
  ⟨fun h => (word_of_decode h).symm, decode_of_eq_word⟩

end Instr

end Chip8
