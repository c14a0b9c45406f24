import Chip8.Refusal
import Chip8.Screen.Basic

/-! A screen with a mark that tells whether it may differ from the frame last taken from it. -/

namespace Chip8

structure Panel where
  screen : Screen
  dirty : Bool
  deriving DecidableEq

namespace Panel

def fresh : Panel := ⟨Screen.blank, true⟩

def clear (_ : Panel) : Panel := ⟨Screen.blank, true⟩

def paint (p : Panel) (x y : Int) (sprite : List UInt8) : Bool × Panel :=
  (p.screen.collides x y sprite, ⟨p.screen.paint x y sprite, true⟩)

/-- Draws the first `height` rows of a sprite. A sprite that has fewer is refused, but marks the
panel. -/
def draw (p : Panel) (x y : Int) (height : Nat) (sprite : List UInt8) :
    Except Refusal Bool × Panel :=
  if sprite.length < height then (.error .shortSprite, { p with dirty := true })
  else
    let (hit, q) := p.paint x y (sprite.take height)
    (.ok hit, q)

/-- A frame in the hands of a host. It names the pixels of a panel, not their values: what it shows
follows later drawing. -/
structure View

/-- Hands out the frame, after which the panel counts as clean. -/
def hold (p : Panel) : View × Panel :=
  (⟨⟩, { p with dirty := false })

/-- What a frame shows as the panel is now. -/
def shown (p : Panel) (_ : View) : Screen := p.screen

/-- The frame as it is when it is handed out. -/
def take (p : Panel) : Screen × Panel :=
  let (view, q) := p.hold
  (q.shown view, q)

/-- Frames cannot be written to, but taking one to try marks the panel as clean. -/
def writeFrame (p : Panel) : Except Refusal Unit × Panel :=
  (.error .readOnlyFrame, p.take.2)

/-- The position of an index along an axis; negative ones count from the end. -/
def position? (size : Nat) (n : Int) : Option (Fin size) :=
  if h : -size ≤ n ∧ n < size then
    some ⟨(if n < 0 then n + size else n).toNat, by split <;> omega⟩
  else none

/-- Whether a pixel is lit. The line is looked up before the column. -/
def pixel (p : Panel) (x y : Int) : Except Refusal Bool :=
  match position? 32 y, position? 64 x with
  | none, _ => .error (.lineIndex y)
  | some _, none => .error (.columnIndex x)
  | some line, some column => .ok (p.screen.lit column line)

end Panel

end Chip8
