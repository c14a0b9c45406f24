/-! Rationals rounded to 64-bit binary floating-point numbers: to the nearest, and half way to the
even one. -/

namespace Chip8.Time.Binary64

/-- The integer nearest to a rational; of two equally near ones the even one. -/
def roundEven (q : Rat) : Int :=
  let k := q.floor
  if q - k < 1 / 2 then k
  else if 1 / 2 < q - k then k + 1
  else k + k % 2

/-- The exponent of the power of two at or below a positive rational. -/
def exponent (q : Rat) : Int :=
  let e : Int := q.num.natAbs.log2 - q.den.log2
  if q < (2 : Rat) ^ e then e - 1 else e

/-- The exponent of the last place of a number of this size. Numbers have 53 binary digits, and
none is finer than the smallest one. -/
def lastPlace (q : Rat) : Int :=
  max (exponent q - 52) (-1074)

/-- The rounded value. It is not cut off at the largest number. -/
def round (q : Rat) : Rat :=
  if q = 0 then 0
  else
    let unit := (2 : Rat) ^ lastPlace q.abs
    roundEven (q / unit) * unit

/-- The first power of two behind the largest number. -/
def limit : Rat := (2 : Rat) ^ (1024 : Int)

end Chip8.Time.Binary64
