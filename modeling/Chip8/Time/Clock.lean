import Chip8.Time.Binary64

/-! Readings of a clock in seconds, and when a timer is due. Seconds are 64-bit floating-point
numbers: what lies between two readings is rounded. -/

namespace Chip8.Time

/-- The readings that a clock will give; the last one stays. -/
structure Clock where
  readings : List Rat

namespace Clock

/-- The next reading and what follows it. -/
def read (c : Clock) : Rat × Clock :=
  match c.readings with
  | [] => (0, c)
  | [now] => (now, c)
  | now :: later => (now, ⟨later⟩)

end Clock

/-- The time between two ticks of so many a second, unless the rate is too large to be rounded. -/
def period? (rate : Nat) : Option Rat :=
  let rounded := Binary64.round rate
  if rounded < Binary64.limit then some (Binary64.round (1 / rounded)) else none

/-- Whether a period has passed from one reading to another. -/
def due (period last now : Rat) : Bool :=
  period ≤ Binary64.round (now - last)

end Chip8.Time
