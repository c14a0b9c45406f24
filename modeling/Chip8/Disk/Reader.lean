import Chip8.Disk.Path

/-! What reading a file gives: its bytes, or why it cannot be read, with the number and the wording
that the operating system has for it. -/

namespace Chip8.Disk

structure Failure where
  number : Nat
  text : String
  deriving DecidableEq

namespace Failure

def missing : Failure := ⟨2, "No such file or directory"⟩

def notDirectory : Failure := ⟨20, "Not a directory"⟩

def isDirectory : Failure := ⟨21, "Is a directory"⟩

def nameTooLong : Failure := ⟨36, "File name too long"⟩

end Failure

/-- The content of the file at a path, as far as a host can read it. -/
abbrev Reader := Path → Except Failure (List UInt8)

end Chip8.Disk
