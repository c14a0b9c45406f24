/-! What the library tells about itself: its version, and the names of the parts that it offers. -/

namespace Chip8

def version : String := "1.0.0"

def offered : List String :=
  ["BoundsError", "CPU", "Chip8", "Chip8Error", "DecodeError", "Display", "Input", "Interconnect",
    "MachineConfig", "Memory", "Opcode", "RegisterFile", "ResourceError", "Stack",
    "StackOverflowError", "StackUnderflowError", "Timers"]

end Chip8
