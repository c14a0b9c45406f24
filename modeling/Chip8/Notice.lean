import Chip8.Refusal

/-! Notices: what happened, for whoever listens, with a level and the part that reports it. -/

namespace Chip8

open Text

inductive Level
  | debug
  | info
  | warning
  | error
  deriving DecidableEq

namespace Level

def all : List Level := [debug, info, warning, error]

def rank : Level → Nat
  | debug => 10
  | info => 20
  | warning => 30
  | error => 40

def name : Level → String
  | debug => "DEBUG"
  | info => "INFO"
  | warning => "WARNING"
  | error => "ERROR"

def ofName? (s : String) : Option Level :=
  all.find? fun l => l.name == s

end Level

inductive Notice
  | wrote (count : Nat) (address : Int)
  | decoding (word pc : Int)
  | returning (address : Int)
  | calling (target : Int)
  | keyStored (key : Nat) (register : Nat)
  | romLoaded (count : Nat)
  | halted (cause : Fault)
  | romRefused (reporter : String) (cause : Refusal)
  deriving DecidableEq

namespace Notice

def level : Notice → Level
  | wrote _ _ | decoding _ _ | returning _ | calling _ | keyStored _ _ => .debug
  | romLoaded _ => .info
  | halted _ | romRefused _ _ => .error

def source : Notice → String
  | wrote _ _ => "chipemu.memory"
  | decoding _ _ | returning _ | calling _ | keyStored _ _ => "chipemu.cpu"
  | romLoaded _ | halted _ => "chipemu.machine"
  | romRefused reporter _ => reporter

def text : Notice → String
  | wrote count address =>
    "Writing " ++ toString count ++ " bytes into memory at " ++ Hex.address address
  | decoding word pc => "Decoding opcode " ++ Hex.word word ++ " at pc=" ++ Hex.address pc
  | returning address => "Returning from subroutine to " ++ Hex.address address
  | calling target => "Calling subroutine at " ++ Hex.address target
  | keyStored key register =>
    "Key 0x" ++ Hex.upper 0 key ++ " pressed, storing in V" ++ Hex.upper 0 register
  | romLoaded count => "ROM loaded (" ++ toString count ++ " bytes)"
  | halted cause => "Machine halted: " ++ cause.message
  | romRefused _ cause => cause.message

def line (n : Notice) : String :=
  "[" ++ n.level.name ++ "] " ++ n.source ++ ": " ++ n.text ++ "\n"

def heard (l : Level) (ns : List Notice) : List Notice :=
  ns.filter fun n => l.rank ≤ n.level.rank

end Notice

end Chip8
