import Chip8.RegisterBank
import Chip8.Text.Hex

/-! Opcodes and the operand fields they are cut into. -/

namespace Chip8

/-- An instruction word; its fields are those of its lowest sixteen bits. -/
structure Opcode where
  word : Int
  deriving DecidableEq

namespace Opcode

/-- The bits from the fourth nibble on, which tell the groups of instructions apart. -/
def group (o : Opcode) : Int := o.word / 0x1000

def x (o : Opcode) : Register :=
  ⟨(o.word / 0x100 % 16).toNat, by omega⟩

def y (o : Opcode) : Register :=
  ⟨(o.word / 0x10 % 16).toNat, by omega⟩

def n (o : Opcode) : Fin 16 :=
  ⟨(o.word % 16).toNat, by omega⟩

def kk (o : Opcode) : UInt8 := UInt8.ofInt o.word

def nnn (o : Opcode) : Fin 4096 :=
  ⟨(o.word % 4096).toNat, by omega⟩

def text (o : Opcode) : String := Text.Hex.upper 4 o.word

end Opcode

end Chip8
