import Chip8.Fault

/-! The stack of return addresses, the latest first. -/

namespace Chip8

/-- A stack that takes a further address while it holds fewer than `depth`. -/
structure CallStack (depth : Int) where
  entries : List UInt16
  deriving DecidableEq

namespace CallStack

variable {depth : Int}

def empty : CallStack depth := ⟨[]⟩

def length (s : CallStack depth) : Nat := s.entries.length

/-- Addresses are kept modulo `2 ^ 16`. -/
def push (s : CallStack depth) (address : Int) : Except Fault (CallStack depth) :=
  if (s.length : Int) < depth then .ok ⟨UInt16.ofInt address :: s.entries⟩
  else .error (.stackOverflow address)

def pop (s : CallStack depth) : Except Fault (UInt16 × CallStack depth) :=
  match s.entries with
  | [] => .error .stackUnderflow
  | a :: rest => .ok (a, ⟨rest⟩)

/-- The same addresses under another depth, which they may exceed. -/
def withDepth (s : CallStack depth) (other : Int) : CallStack other := ⟨s.entries⟩

end CallStack

end Chip8
