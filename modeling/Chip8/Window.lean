import Chip8.Console.Basic
import Chip8.Picture

/-! The window of a console: it shows frames and turns keys of the host into keys of the pad. -/

namespace Chip8

/-- Host keys are numbered by the characters they produce. -/
inductive HostEvent
  | keyDown (key : Int)
  | keyUp (key : Int)
  | quit
  | interrupt
  | other
  deriving DecidableEq

namespace HostEvent

def escapeKey : Int := 27

/-- Closing the window or touching Escape ends the session. -/
def ends : HostEvent → Bool
  | quit => true
  | keyDown key | keyUp key => key == escapeKey
  | interrupt | other => false

end HostEvent

namespace Keypad

/-- The host keys of the pad keys `0` to `F`: the pad lies on the four rows below `1` to `4`. -/
def hostKeys : Vector Int 16 :=
  #v[120, 49, 50, 51, 113, 119, 101, 97, 115, 100, 122, 99, 52, 114, 102, 118]

def ofHostKey? (key : Int) : Option Key :=
  (List.finRange 16).find? fun k => hostKeys.get k == key

end Keypad

structure Window where
  scale : Nat
  surface : Picture

namespace Window

def caption : String := "CHIPemu"

def opened (scale : Int) : Window :=
  let side := Picture.side scale
  ⟨side, Picture.filled (screenWidth * side) (screenHeight * side) Colour.black⟩

def width (w : Window) : Nat := screenWidth * w.scale

def height (w : Window) : Nat := screenHeight * w.scale

def render (w : Window) (s : Screen) : Window :=
  { w with surface := Picture.ofScreen w.scale s }

def renderPixels (w : Window) (pixels : Array Int) : Except Refusal Window :=
  (Picture.ofPixels w.scale pixels).map fun surface => { w with surface }

end Window

namespace Console

/-- Passes a host key on to the keypad; false if it is none of the pad's. -/
def touch (c : Console) (key : Int) (down : Bool) : Bool × Console :=
  match Keypad.ofHostKey? key with
  | none => (false, c)
  | some k => (true, c.withCore fun d => { d with keypad := d.keypad.put k down })

/-- Handles events in order up to the first that ends the session. True if none does. -/
def handle (c : Console) : List HostEvent → Bool × Console
  | [] => (true, c)
  | e :: rest =>
    if e.ends then (false, c)
    else
      match e with
      | .keyDown key => (c.touch key true).2.handle rest
      | .keyUp key => (c.touch key false).2.handle rest
      | .quit | .interrupt | .other => c.handle rest

end Console

end Chip8
