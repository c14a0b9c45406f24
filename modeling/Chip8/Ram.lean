import Chip8.Fault

/-! Byte-addressable memory. Every access names a range of addresses and is refused as a whole
unless the range lies in memory. -/

namespace Chip8

structure Ram (size : Nat) where
  cells : Vector UInt8 size

namespace Ram

variable {size : Nat}

def zero : Ram size := ⟨Vector.replicate size 0⟩

/-- The byte at an address, and zero outside memory. -/
def get (m : Ram size) (a : Nat) : UInt8 :=
  m.cells[a]?.getD 0

def set (m : Ram size) (a : Nat) (b : UInt8) : Ram size :=
  ⟨m.cells.setIfInBounds a b⟩

def toList (m : Ram size) : List UInt8 :=
  m.cells.toList

/-- Whether `length` cells from `address` on lie in a memory of `size` cells. -/
abbrev Covers (size : Nat) (address length : Int) : Prop :=
  0 ≤ address ∧ 0 ≤ length ∧ address + length ≤ size

/-- Writes bytes to consecutive cells; what would fall behind the last cell is dropped. -/
def blit (m : Ram size) (a : Nat) : List UInt8 → Ram size
  | [] => m
  | b :: bs => (m.set a b).blit (a + 1) bs

def load (m : Ram size) (address : Int) (data : List UInt8) : Except Fault (Ram size) :=
  if Covers size address data.length then .ok (m.blit address.toNat data)
  else .error (.memoryAccess address data.length size)

def read (m : Ram size) (address : Int) : Except Fault UInt8 :=
  if Covers size address 1 then .ok (m.get address.toNat)
  else .error (.memoryAccess address 1 size)

/-- Values are stored modulo 256. -/
def write (m : Ram size) (address value : Int) : Except Fault (Ram size) :=
  if Covers size address 1 then .ok (m.set address.toNat (UInt8.ofInt value))
  else .error (.memoryAccess address 1 size)

/-- The instruction word at an address: two bytes, the high one first. -/
def fetch (m : Ram size) (address : Int) : Except Fault UInt16 :=
  if Covers size address 2 then
    .ok ((m.get address.toNat).toUInt16 <<< 8 ||| (m.get (address.toNat + 1)).toUInt16)
  else .error (.memoryAccess address 2 size)

/-- A range of cells. It names cells, not bytes: what it reads as follows later writes. -/
structure Span where
  start : Nat
  length : Nat

def span (_ : Ram size) (address length : Int) : Except Fault Span :=
  if Covers size address length then .ok ⟨address.toNat, length.toNat⟩
  else .error (.memoryAccess address length size)

def bytes (m : Ram size) (s : Span) : List UInt8 :=
  (List.range s.length).map fun k => m.get (s.start + k)

theorem get_zero (a : Nat) : (zero : Ram size).get a = 0 := by
  simp only [get, zero]
  by_cases h : a < size <;> simp [h]

theorem get_set (m : Ram size) (a k : Nat) (b : UInt8) :
    (m.set a b).get k = if a = k ∧ k < size then b else m.get k := by
  by_cases h : k < size
  · simp only [get, set, h, and_true, getElem?_pos, Vector.getElem_setIfInBounds]
    split <;> rfl
  · simp [get, set, h]

/-- Loaded bytes are read back where they were put, and all else as before. -/
theorem get_blit (m : Ram size) (a k : Nat) (bs : List UInt8) :
    (m.blit a bs).get k = if a ≤ k ∧ k < size then (bs[k - a]?).getD (m.get k) else m.get k := by
  induction bs generalizing m a with
  | nil => simp [blit]
  | cons b bs ih =>
    rw [blit, ih, get_set]
    by_cases hs : k < size
    · simp only [hs, and_true]
      rcases Nat.lt_trichotomy a k with hk | rfl | hk
      · have hj : k - a = k - (a + 1) + 1 := by omega
        rw [if_pos (by omega), if_neg (by omega), if_pos (by omega), hj, List.getElem?_cons_succ]
      · rw [if_neg (by omega), if_pos rfl, if_pos (Nat.le_refl a), Nat.sub_self]
        rfl
      · rw [if_neg (by omega), if_neg (by omega), if_neg (by omega)]
    · simp [hs]

end Ram

end Chip8
