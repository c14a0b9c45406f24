import Chip8.Proofs.Words

/-! Stretches of cells that are written or read one by one. They stop at the end of memory: what
was done up to there stays. -/

namespace Chip8

namespace Ram

variable {size : Nat}

lemma blit_of_le (m : Ram size) {a : Nat} (bs : List UInt8) (h : size ≤ a) : m.blit a bs = m := by
  induction bs generalizing a with
  | nil => rfl
  | cons b bs ih =>
    have hs : m.set a b = m := congrArg mk (Vector.setIfInBounds_eq_of_size_le h)
    rw [blit, hs, ih (by omega)]

lemma get_blit_add (m : Ram size) {a k : Nat} {bs : List UInt8} (h : a + k < size)
    (hk : k < bs.length) : (m.blit a bs).get (a + k) = bs[k] := by
  rw [get_blit, if_pos ⟨Nat.le_add_right a k, h⟩, Nat.add_sub_cancel_left,
    List.getElem?_eq_getElem hk, Option.getD_some]

lemma get_blit_of_outside (m : Ram size) {a n : Nat} {bs : List UInt8}
    (h : n < a ∨ size ≤ n ∨ a + bs.length ≤ n) : (m.blit a bs).get n = m.get n := by
  rw [get_blit]
  split
  · rw [List.getElem?_eq_none (by omega), Option.getD_none]
  · rfl

lemma write_of_lt (m : Ram size) {a : Nat} (b : UInt8) (h : a < size) :
    m.write a b.toNat = .ok (m.set a b) := by
  have hb : UInt8.ofInt b.toNat = b := by
    apply UInt8.toNat_inj.mp
    have := b.toNat_lt
    simp only [UInt8.ofInt, UInt8.toNat_ofNat']
    omega
  rw [write, if_pos ⟨by omega, by decide, by omega⟩, hb]
  rfl

lemma write_of_le (m : Ram size) {a : Nat} (value : Int) (h : size ≤ a) :
    m.write a value = .error (.memoryAccess a 1 size) :=
  if_neg fun hc => by have := hc.2.2; omega

lemma read_of_lt (m : Ram size) {a : Nat} (h : a < size) : m.read a = .ok (m.get a) :=
  if_pos ⟨by omega, by decide, by omega⟩

lemma read_of_le (m : Ram size) {a : Nat} (h : size ≤ a) :
    m.read a = .error (.memoryAccess a 1 size) :=
  if_neg fun hc => by have := hc.2.2; omega

lemma bytes_succ (m : Ram size) (a n : Nat) :
    m.bytes ⟨a, n + 1⟩ = m.get a :: m.bytes ⟨a + 1, n⟩ := by
  simp only [bytes, List.range_succ_eq_map, List.map_cons, List.map_map, Nat.add_zero]
  congr 1
  apply List.map_congr_left
  intro k _
  simp only [Function.comp_apply]
  congr 1
  omega

lemma length_bytes (m : Ram size) (s : Span) : (m.bytes s).length = s.length := by
  simp [bytes]

lemma getElem?_bytes (m : Ram size) (a n k : Nat) :
    (m.bytes ⟨a, n⟩)[k]? = if k < n then some (m.get (a + k)) else none := by
  split <;> simp_all [bytes]

lemma bytes_congr {m k : Ram size} {a n : Nat} (h : ∀ j, a ≤ j → j < a + n → m.get j = k.get j) :
    m.bytes ⟨a, n⟩ = k.bytes ⟨a, n⟩ := by
  apply List.map_congr_left
  intro j hj
  have hn := List.mem_range.mp hj
  exact h (a + j) (Nat.le_add_right a j) (Nat.add_lt_add_left hn a)

lemma bytes_blit (m : Ram size) {a : Nat} {bs : List UInt8} (h : a + bs.length ≤ size) :
    (m.blit a bs).bytes ⟨a, bs.length⟩ = bs := by
  apply List.ext_getElem?
  intro k
  rw [getElem?_bytes]
  split
  · rename_i hk
    rw [m.get_blit_add (by omega) hk, List.getElem?_eq_getElem hk]
  · rw [List.getElem?_eq_none (by omega)]

end Ram

namespace RegisterBank

/-- Gives registers their values in order, as far as there are values. -/
def fill (b : RegisterBank) : List Register → List UInt8 → RegisterBank
  | r :: rs, v :: vs => (b.set r v).fill rs vs
  | _, _ => b

lemma toNat_setI (b : RegisterBank) {a : Nat} (h : a < 65536) : (b.setI a).i.toNat = a := by
  simp only [setI, UInt16.ofInt, UInt16.toNat_ofNat']
  omega

lemma setI_self (b : RegisterBank) : b.setI b.i.toNat = b := by
  have hi : (b.setI b.i.toNat).i = b.i :=
    UInt16.toNat_inj.mp (b.toNat_setI b.i.toNat_lt)
  cases b with
  | mk v i pc => exact congrArg (mk v · pc) hi

lemma fill_setI (b : RegisterBank) (a : Int) (rs : List Register) (vs : List UInt8) :
    (b.setI a).fill rs vs = (b.fill rs vs).setI a := by
  induction rs generalizing b vs with
  | nil => rfl
  | cons r rs ih =>
    cases vs with
    | nil => rfl
    | cons v vs => exact ih (b.set r v) vs

lemma fill_pc (b : RegisterBank) (rs : List Register) (vs : List UInt8) :
    (b.fill rs vs).pc = b.pc := by
  induction rs generalizing b vs with
  | nil => rfl
  | cons r rs ih =>
    cases vs with
    | nil => rfl
    | cons v vs => exact ih (b.set r v) vs

lemma get_fill (b : RegisterBank) {rs : List Register} (vs : List UInt8) (r : Register)
    (hd : rs.Nodup) (hl : vs.length ≤ rs.length) :
    (b.fill rs vs).get r = (vs[rs.idxOf r]?).getD (b.get r) := by
  induction rs generalizing b vs with
  | nil =>
    obtain rfl := List.length_eq_zero_iff.mp (Nat.le_zero.mp hl)
    rfl
  | cons q rs ih =>
    cases vs with
    | nil => simp [fill]
    | cons v vs =>
      obtain ⟨hq, hd⟩ := List.nodup_cons.mp hd
      have hv : vs.length ≤ rs.length := Nat.le_of_succ_le_succ hl
      rw [fill, ih (b.set q v) vs hd hv, get_set, List.idxOf_cons]
      by_cases he : q = r
      · subst he
        have hn : vs[rs.idxOf q]? = none := by
          rw [List.idxOf_eq_length hq, List.getElem?_eq_none hv]
        simp [hn]
      · have hb : (q == r) = false := by simpa using he
        simp [hb, he]

lemma length_upTo (x : Register) : (Core.upTo x).length = x + 1 := by
  revert x
  decide

lemma nodup_upTo (x : Register) : (Core.upTo x).Nodup := by
  revert x
  decide

lemma idxOf_upTo (x r : Register) : (Core.upTo x).idxOf r = min (r : Nat) (x + 1) := by
  revert x r
  decide

lemma getElem_upTo (x : Register) {k : Nat} (hx : k < (Core.upTo x).length) (hk : k < 16) :
    (Core.upTo x)[k] = ⟨k, hk⟩ := by
  simp [Core.upTo]

lemma get_fill_upTo (b : RegisterBank) {x : Register} {vs : List UInt8} (r : Register)
    (h : vs.length ≤ x + 1) :
    (b.fill (Core.upTo x) vs).get r = (vs[(r : Nat)]?).getD (b.get r) := by
  rw [b.get_fill vs r (nodup_upTo x) (by rwa [length_upTo]), idxOf_upTo]
  by_cases hr : (r : Nat) ≤ x
  · rw [Nat.min_eq_left (by omega)]
  · rw [Nat.min_eq_right (by omega), List.getElem?_eq_none h, List.getElem?_eq_none (by omega)]

end RegisterBank

namespace Outcome

def ending (core : Core) : Option Fault → Outcome
  | none => done core
  | some cause => failed core cause

lemma core_ending (c : Core) (cause? : Option Fault) : (ending c cause?).core = c := by
  cases cause? <;> rfl

lemma cause?_ending (c : Core) (cause? : Option Fault) : (ending c cause?).cause? = cause? := by
  cases cause? <;> rfl

end Outcome

namespace Core

/-- The fault of touching `n` cells from `a` on one by one, if they do not all exist. -/
def overrun (a n : Nat) : Option Fault :=
  if n ≤ 4096 - a then none else some (.memoryAccess (max a 4096 : Nat) 1 4096)

lemma overrun_succ {a : Nat} (n : Nat) (h : a < 4096) : overrun a (n + 1) = overrun (a + 1) n := by
  have hm : max a 4096 = max (a + 1) 4096 := by omega
  simp only [overrun, hm, show n + 1 ≤ 4096 - a ↔ n ≤ 4096 - (a + 1) by omega]

lemma overrun_of_le {a n : Nat} (h : 4096 ≤ a) (hn : 0 < n) :
    overrun a n = some (.memoryAccess a 1 4096) := by
  rw [overrun, if_neg (by omega), Nat.max_eq_left h]

lemma setPointer_self (c : Core) : c.setPointer c.bank.i.toNat = c := by
  rw [setPointer, withBank, RegisterBank.setI_self]

lemma toNat_setPointer (c : Core) {a : Nat} (h : a < 65536) :
    (c.setPointer a).bank.i.toNat = a :=
  c.bank.toNat_setI h

/-- The bytes land from `a` on; those beyond the end of memory are lost. -/
lemma storeRun_eq (c : Core) (a : Nat) (bs : List UInt8) :
    c.storeRun a bs = .ending { c with ram := c.ram.blit a bs } (overrun a bs.length) := by
  induction bs generalizing c a with
  | nil => rfl
  | cons b bs ih =>
    by_cases h : a < 4096
    · have hs : c.storeRun a (b :: bs) =
          { c with ram := c.ram.set a b }.storeRun (a + 1 : Nat) bs := by
        rw [storeRun, c.ram.write_of_lt b h]
        rfl
      rw [hs, ih, List.length_cons, overrun_succ _ h]
      rfl
    · have ha : 4096 ≤ a := Nat.le_of_not_lt h
      rw [storeRun, c.ram.write_of_le _ ha, overrun_of_le ha (by simp), c.ram.blit_of_le _ ha]
      rfl

lemma storeRegisters_eq (c : Core) (rs : List Register) :
    c.storeRegisters rs =
      .ending ({ c with ram := c.ram.blit c.bank.i.toNat (rs.map c.get) }.setPointer
          (c.bank.i.toNat + min rs.length (4096 - c.bank.i.toNat) : Nat))
        (overrun c.bank.i.toNat rs.length) := by
  induction rs generalizing c with
  | nil =>
    rw [List.length_nil, Nat.zero_min, Nat.add_zero]
    exact congrArg Outcome.done c.setPointer_self.symm
  | cons r rs ih =>
    by_cases h : c.bank.i.toNat < 4096
    · have hm : c.bank.i.toNat + 1 + min rs.length (4096 - (c.bank.i.toNat + 1)) =
          c.bank.i.toNat + min (rs.length + 1) (4096 - c.bank.i.toNat) := by omega
      let d : Core := { c with ram := c.ram.set c.bank.i.toNat (c.get r) }
      have hd : (d.setPointer (c.bank.i.toNat + 1 : Nat)).bank.i.toNat = c.bank.i.toNat + 1 :=
        d.toNat_setPointer (by omega)
      have hs : c.storeRegisters (r :: rs) =
          (d.setPointer (c.bank.i.toNat + 1 : Nat)).storeRegisters rs := by
        rw [storeRegisters, pointer, c.ram.write_of_lt _ h]
        rfl
      rw [hs, ih, hd, hm, List.length_cons, overrun_succ _ h]
      rfl
    · have ha : 4096 ≤ c.bank.i.toNat := Nat.le_of_not_lt h
      have hm : c.bank.i.toNat + min (r :: rs).length (4096 - c.bank.i.toNat) =
          c.bank.i.toNat := by omega
      rw [storeRegisters, pointer, c.ram.write_of_le _ ha, c.ram.blit_of_le _ ha, hm,
        overrun_of_le ha (by simp), setPointer_self]
      rfl

lemma loadRegisters_eq (c : Core) (rs : List Register) :
    c.loadRegisters rs =
      .ending ({ c with bank := c.bank.fill rs (c.ram.bytes
            ⟨c.bank.i.toNat, min rs.length (4096 - c.bank.i.toNat)⟩) }.setPointer
          (c.bank.i.toNat + min rs.length (4096 - c.bank.i.toNat) : Nat))
        (overrun c.bank.i.toNat rs.length) := by
  induction rs generalizing c with
  | nil =>
    rw [List.length_nil, Nat.zero_min, Nat.add_zero]
    exact congrArg Outcome.done c.setPointer_self.symm
  | cons r rs ih =>
    by_cases h : c.bank.i.toNat < 4096
    · have hm : min (rs.length + 1) (4096 - c.bank.i.toNat) =
          min rs.length (4096 - (c.bank.i.toNat + 1)) + 1 := by omega
      have ha : c.bank.i.toNat + (min rs.length (4096 - (c.bank.i.toNat + 1)) + 1) =
          c.bank.i.toNat + 1 + min rs.length (4096 - (c.bank.i.toNat + 1)) := by omega
      let d : Core := c.set r (c.ram.get c.bank.i.toNat)
      have hd : (d.setPointer (c.bank.i.toNat + 1 : Nat)).bank.i.toNat = c.bank.i.toNat + 1 :=
        d.toNat_setPointer (by omega)
      have hs : c.loadRegisters (r :: rs) =
          (d.setPointer (c.bank.i.toNat + 1 : Nat)).loadRegisters rs := by
        rw [loadRegisters, pointer, c.ram.read_of_lt h]
        rfl
      have hf (vs : List UInt8) : (d.setPointer (c.bank.i.toNat + 1 : Nat)).bank.fill rs vs =
          (d.bank.fill rs vs).setI (c.bank.i.toNat + 1 : Nat) := d.bank.fill_setI _ rs vs
      rw [hs, ih, hd, hf, List.length_cons, overrun_succ _ h, hm, Ram.bytes_succ, ha]
      rfl
    · have ha : 4096 ≤ c.bank.i.toNat := Nat.le_of_not_lt h
      have hm : min (r :: rs).length (4096 - c.bank.i.toNat) = 0 := by omega
      rw [loadRegisters, pointer, c.ram.read_of_le ha, overrun_of_le ha (by simp), hm]
      exact congrArg (Outcome.failed · _) c.setPointer_self.symm

end Core

end Chip8
