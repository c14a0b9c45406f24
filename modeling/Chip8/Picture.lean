import Chip8.Refusal
import Chip8.Screen.Basic

/-! Frames as pictures: every pixel becomes a square of one colour. -/

namespace Chip8

structure Colour where
  red : UInt8
  green : UInt8
  blue : UInt8
  deriving DecidableEq

namespace Colour

def black : Colour := ⟨0, 0, 0⟩

def white : Colour := ⟨255, 255, 255⟩

def ofLit (lit : Bool) : Colour := if lit then white else black

end Colour

/-- Columns from left to right, each from top to bottom. -/
structure Picture where
  columns : List (List Colour)
  deriving DecidableEq

namespace Picture

def width (p : Picture) : Nat := p.columns.length

def height (p : Picture) : Nat := (p.columns.head?.getD []).length

def filled (width height : Nat) (c : Colour) : Picture :=
  ⟨List.replicate width (List.replicate height c)⟩

/-- Repeats every element `n` times in its place. -/
def stretch {α : Type} (n : Nat) (xs : List α) : List α :=
  xs.flatMap (List.replicate n)

/-- Squares have at least one point on a side. -/
def side (scale : Int) : Nat := (max 1 scale).toNat

/-- The picture of a frame that tells for every column and line whether it is lit. -/
def ofFrame (scale : Int) (lit : Column → Line → Bool) : Picture :=
  ⟨stretch (side scale) ((List.finRange 64).map fun x =>
    stretch (side scale) ((List.finRange 32).map fun y => Colour.ofLit (lit x y)))⟩

def ofScreen (scale : Int) (s : Screen) : Picture :=
  ofFrame scale s.lit

/-- The picture of pixels given line by line, where all but zero are lit. -/
def ofPixels (scale : Int) (pixels : Array Int) : Except Refusal Picture :=
  if pixels.size = 2048 then
    .ok (ofFrame scale fun x y => pixels.getD (64 * y + x) 0 != 0)
  else .error (.frameSize pixels.size)

end Picture

end Chip8
