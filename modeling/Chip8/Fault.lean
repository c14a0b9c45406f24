import Chip8.Text.Hex

/-! Faults: the causes for which a running machine stops. -/

namespace Chip8

open Text

inductive Fault
  | unknownWord (word pc : Int)
  | memoryAccess (address length : Int) (size : Nat)
  | keyIndex (key : Int)
  | stackOverflow (address : Int)
  | stackUnderflow
  deriving DecidableEq

namespace Fault

/-- The address, key or return address at which the fault arose, where it has one. -/
def address? : Fault → Option Int
  | unknownWord _ _ => none
  | memoryAccess address _ _ => some address
  | keyIndex key => some key
  | stackOverflow address => some address
  | stackUnderflow => none

def message : Fault → String
  | unknownWord word pc => "Unknown opcode: " ++ Hex.word word ++ " at PC " ++ Hex.address pc
  | memoryAccess address length size =>
    "Memory access " ++ Hex.address address ++ "+" ++ toString length ++
      " outside 0x000-" ++ Hex.address (size - 1)
  | keyIndex key => "Key index " ++ toString key ++ " outside 0x0-0xF"
  | stackOverflow address => "Stack overflow pushing " ++ Hex.address address
  | stackUnderflow => "Stack underflow on return"

end Fault

end Chip8
