import Chip8.Core.Cycle

/-! A console: a core and the fault that stopped it, as a host drives them. The first fault of a
cycle is kept; from then on the console refuses to execute anything. -/

namespace Chip8

structure Console where
  core : Core
  fault : Option Fault

/-- What an operation of the host leaves behind. -/
structure Reply (α : Type) where
  console : Console
  result : Except Refusal α
  notices : List Notice

namespace Console

def boot (s : Settings) : Except Fault Console :=
  (Core.boot s).map fun core => ⟨core, none⟩

def bootNotices (s : Settings) : List Notice :=
  [.wrote fontLength s.fontAddress]

def settings (c : Console) : Settings := c.core.settings

def halted (c : Console) : Bool := c.fault.isSome

def sounding (c : Console) : Bool := c.core.timers.sounding

def withCore (c : Console) (f : Core → Core) : Console :=
  { c with core := f c.core }

def answer {α : Type} (c : Console) (result : Except Refusal α) : Reply α :=
  ⟨c, result, []⟩

/-- One cycle on a console that runs: its fault is captured. Tells whether the cycle completed. -/
def advance (c : Console) : Bool × Console :=
  match c.core.cycle with
  | .done core => (true, { c with core })
  | .failed core cause => (false, ⟨core, some cause⟩)

def advanceNotices (c : Console) : List Notice :=
  c.core.notices ++ c.core.cycle.cause?.toList.map Notice.halted

def step (c : Console) : Reply Bool :=
  match c.fault with
  | some cause => c.answer (.error (.fault cause))
  | none =>
    let (completed, d) := c.advance
    ⟨d, .ok completed, c.advanceNotices⟩

/-- A stretch of cycles: how many completed, where they led and what they reported, the latest
first. -/
structure Stretch where
  completed : Nat
  console : Console
  reversed : List Notice

/-- Up to `n` further cycles; the first fault ends the stretch. -/
def Stretch.extend (s : Stretch) : Nat → Stretch
  | 0 => s
  | n + 1 =>
    let reversed := s.console.advanceNotices.reverse ++ s.reversed
    match s.console.advance with
    | (true, d) => extend ⟨s.completed + 1, d, reversed⟩ n
    | (false, d) => ⟨s.completed, d, reversed⟩

/-- Up to `count` cycles; answers how many completed. Fewer than one are none at all. -/
def run (c : Console) (count : Int) : Reply Nat :=
  if count ≤ 0 then c.answer (.ok 0)
  else
    match c.fault with
    | some cause => c.answer (.error (.fault cause))
    | none =>
      let s := Stretch.extend ⟨0, c, []⟩ count.toNat
      ⟨s.console, .ok s.completed, s.reversed.reverse⟩

def tick (c : Console) : Console :=
  c.withCore fun d => { d with timers := d.timers.tick }

/-- The cycles of one frame and then a tick; a halted console refuses before the tick. -/
def playFrame (c : Console) : Reply Nat :=
  let r := c.run c.settings.frameCycles
  match r.result with
  | .ok n => { r with console := r.console.tick, result := .ok n }
  | .error _ => r

def setKey (c : Console) (key : Int) (down : Bool) : Reply Unit :=
  match c.core.keypad.set key down with
  | .ok keypad => (c.withCore fun d => { d with keypad }).answer (.ok ())
  | .error cause => c.answer (.error (.fault cause))

def press (c : Console) (key : Int) : Reply Unit := c.setKey key true

def release (c : Console) (key : Int) : Reply Unit := c.setKey key false

def setKeypad (c : Console) (states : List Bool) : Reply Unit :=
  match Keypad.ofStates states with
  | .ok keypad => (c.withCore fun d => { d with keypad }).answer (.ok ())
  | .error refusal => c.answer (.error refusal)

/-- The frame to show, if the screen may have changed since the last one. -/
def poll (c : Console) : Option Screen × Console :=
  if c.core.panel.dirty then
    let (frame, panel) := c.core.panel.take
    (some frame, c.withCore fun d => { d with panel })
  else (none, c)

def store (c : Console) (address : Int) (data : List UInt8) : Reply Unit :=
  match c.core.store address data with
  | .ok core => ⟨{ c with core }, .ok (), [.wrote data.length address]⟩
  | .error cause => c.answer (.error (.fault cause))

/-- One cycle whose fault goes to the host and is not kept. -/
def cycle (c : Console) : Reply Unit :=
  match c.core.cycle with
  | .done core => ⟨{ c with core }, .ok (), c.core.notices⟩
  | .failed core cause => ⟨{ c with core }, .error (.fault cause), c.core.notices⟩

def load (c : Console) (data : List UInt8) : Reply Unit :=
  if c.settings.room < data.length then
    c.answer (.error (.romTooLarge data.length c.settings.room))
  else
    let r := c.store c.settings.programAddress data
    match r.result with
    | .ok () => { r with notices := r.notices ++ [.romLoaded data.length] }
    | .error _ => r

/-- Reads a program file; a path with a null character is refused unread. -/
def readRom (read : Disk.Reader) (path : String) : Except Refusal (List UInt8) :=
  if path.toList.contains '\x00' then .error .nulInPath
  else
    let p := Disk.Path.parse path
    match read p with
    | .ok data => .ok data
    | .error failure => .error (.romUnreadable path failure p.text)

def loadRead (c : Console) (content : Except Refusal (List UInt8)) : Reply Unit :=
  match content with
  | .ok data => c.load data
  | .error refusal => c.answer (.error refusal)

def loadFile (c : Console) (read : Disk.Reader) (path : String) : Reply Unit :=
  c.loadRead (readRom read path)

end Console

end Chip8
