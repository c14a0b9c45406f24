import Chip8.Instr.Basic

/-! Arithmetic on two bytes: the result and, where an operation has one, its flag. -/

namespace Chip8.AluOp

def result (op : AluOp) (a b : UInt8) : UInt8 :=
  match op with
  | copy => b
  | or => a ||| b
  | and => a &&& b
  | xor => a ^^^ b
  | add => a + b
  | sub => a - b
  | shiftRight => b >>> 1
  | subFrom => b - a
  | shiftLeft => b <<< 1

/-- The carry of a sum, the borrow of a difference, or the bit that leaves the first operand; the
shifts move the second operand nevertheless. -/
def flag? (op : AluOp) (a b : UInt8) : Option Bool :=
  match op with
  | copy | or | and | xor => none
  | add => some (255 < a.toNat + b.toNat)
  | sub => some (a < b)
  | shiftRight => some (a &&& 0x01 != 0)
  | subFrom => some (b < a)
  | shiftLeft => some (a &&& 0x80 != 0)

/-- Writes the result to the first register and then the flag, so in `VF` the flag stays. -/
def apply (op : AluOp) (x y : Register) (b : RegisterBank) : RegisterBank :=
  let written := b.set x (op.result (b.get x) (b.get y))
  match op.flag? (b.get x) (b.get y) with
  | none => written
  | some flag => written.setFlag flag

end Chip8.AluOp
