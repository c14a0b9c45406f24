import Chip8.Instr.Opcode

/-! The instruction set, read from opcodes and written back as opcodes. -/

namespace Chip8

/-- Operations on two registers; the result goes to the first. -/
inductive AluOp
  | copy
  | or
  | and
  | xor
  | add
  | sub
  | shiftRight
  | subFrom
  | shiftLeft
  deriving DecidableEq

inductive Instr
  | clear
  | ret
  | jump (target : Fin 4096)
  | call (target : Fin 4096)
  | skipIf (x : Register) (value : UInt8)
  | skipUnless (x : Register) (value : UInt8)
  | skipSame (x y : Register)
  | skipDifferent (x y : Register)
  | load (x : Register) (value : UInt8)
  | add (x : Register) (value : UInt8)
  | alu (op : AluOp) (x y : Register)
  | point (address : Fin 4096)
  | draw (x y : Register) (height : Fin 16)
  | skipDown (x : Register)
  | skipUp (x : Register)
  | getDelay (x : Register)
  | awaitKey (x : Register)
  | setDelay (x : Register)
  | setSound (x : Register)
  | movePoint (x : Register)
  | glyph (x : Register)
  | storeDecimal (x : Register)
  | storeUpTo (x : Register)
  | loadUpTo (x : Register)
  deriving DecidableEq

namespace AluOp

def ofNibble? (n : Fin 16) : Option AluOp :=
  match n.val with
  | 0x0 => some copy
  | 0x1 => some or
  | 0x2 => some and
  | 0x3 => some xor
  | 0x4 => some add
  | 0x5 => some sub
  | 0x6 => some shiftRight
  | 0x7 => some subFrom
  | 0xE => some shiftLeft
  | _ => none

def nibble : AluOp → Nat
  | copy => 0x0
  | or => 0x1
  | and => 0x2
  | xor => 0x3
  | add => 0x4
  | sub => 0x5
  | shiftRight => 0x6
  | subFrom => 0x7
  | shiftLeft => 0xE

end AluOp

namespace Instr

/-- The instructions of group `F`, told apart by their low byte. -/
def ofGroupF? (x : Register) (low : UInt8) : Option Instr :=
  match low.toNat with
  | 0x07 => some (getDelay x)
  | 0x0A => some (awaitKey x)
  | 0x15 => some (setDelay x)
  | 0x18 => some (setSound x)
  | 0x1E => some (movePoint x)
  | 0x29 => some (glyph x)
  | 0x33 => some (storeDecimal x)
  | 0x55 => some (storeUpTo x)
  | 0x65 => some (loadUpTo x)
  | _ => none

def decode (o : Opcode) : Option Instr :=
  match o.group with
  | 0x0 => if o.word = 0x00E0 then some clear else if o.word = 0x00EE then some ret else none
  | 0x1 => some (jump o.nnn)
  | 0x2 => some (call o.nnn)
  | 0x3 => some (skipIf o.x o.kk)
  | 0x4 => some (skipUnless o.x o.kk)
  | 0x5 => if o.n = 0 then some (skipSame o.x o.y) else none
  | 0x6 => some (load o.x o.kk)
  | 0x7 => some (add o.x o.kk)
  | 0x8 => (AluOp.ofNibble? o.n).map fun op => alu op o.x o.y
  | 0x9 => if o.n = 0 then some (skipDifferent o.x o.y) else none
  | 0xA => some (point o.nnn)
  | 0xD => some (draw o.x o.y o.n)
  | 0xE =>
    if o.kk = 0x9E then some (skipDown o.x) else if o.kk = 0xA1 then some (skipUp o.x) else none
  | 0xF => ofGroupF? o.x o.kk
  | _ => none

def word : Instr → Nat
  | clear => 0x00E0
  | ret => 0x00EE
  | jump target => 0x1000 + target
  | call target => 0x2000 + target
  | skipIf x value => 0x3000 + 0x100 * x + value.toNat
  | skipUnless x value => 0x4000 + 0x100 * x + value.toNat
  | skipSame x y => 0x5000 + 0x100 * x + 0x10 * y
  | load x value => 0x6000 + 0x100 * x + value.toNat
  | add x value => 0x7000 + 0x100 * x + value.toNat
  | alu op x y => 0x8000 + 0x100 * x + 0x10 * y + op.nibble
  | skipDifferent x y => 0x9000 + 0x100 * x + 0x10 * y
  | point address => 0xA000 + address
  | draw x y height => 0xD000 + 0x100 * x + 0x10 * y + height
  | skipDown x => 0xE09E + 0x100 * x
  | skipUp x => 0xE0A1 + 0x100 * x
  | getDelay x => 0xF007 + 0x100 * x
  | awaitKey x => 0xF00A + 0x100 * x
  | setDelay x => 0xF015 + 0x100 * x
  | setSound x => 0xF018 + 0x100 * x
  | movePoint x => 0xF01E + 0x100 * x
  | glyph x => 0xF029 + 0x100 * x
  | storeDecimal x => 0xF033 + 0x100 * x
  | storeUpTo x => 0xF055 + 0x100 * x
  | loadUpTo x => 0xF065 + 0x100 * x

end Instr

end Chip8
