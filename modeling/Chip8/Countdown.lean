/-! The delay and the sound timer: two bytes that count down to zero and stay there. -/

namespace Chip8

structure Countdown where
  delay : UInt8
  sound : UInt8
  deriving DecidableEq

namespace Countdown

def zero : Countdown := ⟨0, 0⟩

/-- Values are taken modulo 256. -/
def setDelay (t : Countdown) (value : Int) : Countdown :=
  { t with delay := UInt8.ofInt value }

def setSound (t : Countdown) (value : Int) : Countdown :=
  { t with sound := UInt8.ofInt value }

def lower (t : UInt8) : UInt8 :=
  if t = 0 then 0 else t - 1

def tick (t : Countdown) : Countdown :=
  ⟨lower t.delay, lower t.sound⟩

/-- The buzzer sounds while the sound timer runs. -/
def sounding (t : Countdown) : Bool :=
  t.sound != 0

theorem toNat_lower (t : UInt8) : (lower t).toNat = t.toNat - 1 := by
  unfold lower
  split
  · simp_all
  · rename_i h
    have : t.toNat ≠ 0 := fun hz => h (UInt8.toNat_inj.mp (by simpa using hz))
    rw [UInt8.toNat_sub_of_le _ _ (by rw [UInt8.le_iff_toNat_le]; simp; omega)]
    simp

end Countdown

end Chip8
