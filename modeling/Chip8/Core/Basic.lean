import Chip8.CallStack
import Chip8.Countdown
import Chip8.Keypad
import Chip8.Ram
import Chip8.RegisterBank
import Chip8.Screen.Panel
import Chip8.Settings

/-! The state of a core with all that instructions can reach. -/

namespace Chip8

structure Core where
  settings : Settings
  ram : Ram 4096
  bank : RegisterBank
  stack : CallStack 16
  panel : Panel
  timers : Countdown
  keypad : Keypad

namespace Core

/-- A core with the font in memory and all else blank, about to run the program. -/
def boot (s : Settings) : Except Fault Core :=
  (Ram.zero.load s.fontAddress s.font.toList).map fun ram => {
    settings := s
    ram := ram
    bank := RegisterBank.start s.programAddress
    stack := CallStack.empty
    panel := Panel.fresh
    timers := Countdown.zero
    keypad := Keypad.released }

def pc (c : Core) : Int := c.bank.pc

def get (c : Core) (r : Register) : UInt8 := c.bank.get r

/-- The address in `I`. -/
def pointer (c : Core) : Int := c.bank.i.toNat

def withBank (c : Core) (f : RegisterBank → RegisterBank) : Core :=
  { c with bank := f c.bank }

def set (c : Core) (r : Register) (value : UInt8) : Core := c.withBank (·.set r value)

def setPointer (c : Core) (value : Int) : Core := c.withBank (·.setI value)

def goTo (c : Core) (address : Int) : Core := c.withBank (·.setPc address)

/-- On to the next instruction. -/
def next (c : Core) : Core := c.goTo (c.pc + 2)

/-- On to the next instruction, or past it. -/
def skipWhen (c : Core) (condition : Bool) : Core :=
  c.goTo (c.pc + if condition then 4 else 2)

/-- Draws the sprite of `height` rows at an address; the range of cells is checked first. -/
def drawFrom (c : Core) (address x y height : Int) : Except Fault (Bool × Core) :=
  (c.ram.span address height).map fun span =>
    let (hit, panel) := c.panel.paint x y (c.ram.bytes span)
    (hit, { c with panel })

/-- Writes to memory without a cycle. -/
def store (c : Core) (address : Int) (data : List UInt8) : Except Fault Core :=
  (c.ram.load address data).map fun ram => { c with ram }

end Core

/-- How a cycle ends: it completes, or it stops for a fault after what it has already done. -/
inductive Outcome
  | done (core : Core)
  | failed (core : Core) (cause : Fault)

namespace Outcome

def core : Outcome → Core
  | done c => c
  | failed c _ => c

def cause? : Outcome → Option Fault
  | done _ => none
  | failed _ f => some f

/-- Goes on with a completed outcome. -/
def andThen (o : Outcome) (f : Core → Core) : Outcome :=
  match o with
  | done c => done (f c)
  | failed c cause => failed c cause

end Outcome

end Chip8
