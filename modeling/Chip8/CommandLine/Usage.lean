import Chip8.Notice

/-! The options of the command line, its help, and what is said about misuse. -/

namespace Chip8.CommandLine

inductive Switch
  | help
  | scale
  | clock
  | level
  deriving DecidableEq

namespace Switch

/-- The long spellings, in the order in which abbreviations are looked up. -/
def spellings : List (String × Switch) :=
  [("--help", help), ("--scale", scale), ("--clock", clock), ("--log-level", level)]

/-- The letter of the only switch that has a short spelling. -/
def helpLetter : Char := 'h'

def title : Switch → String
  | help => "-h/--help"
  | scale => "--scale"
  | clock => "--clock"
  | level => "--log-level"

end Switch

def usage : String :=
  "usage: chipemu [-h] [--scale SCALE] [--clock CLOCK]\n" ++
  "               [--log-level \x7bDEBUG,INFO,WARNING,ERROR\x7d]\n" ++
  "               rom\n"

def help : String :=
  usage ++
  "\nCHIP-8 emulator\n" ++
  "\npositional arguments:\n" ++
  "  rom                   Path to CHIP-8 ROM\n" ++
  "\noptions:\n" ++
  "  -h, --help            show this help message and exit\n" ++
  "  --scale SCALE         Pixel scale factor (default 15)\n" ++
  "  --clock CLOCK         CPU clock in Hz (default 700)\n" ++
  "  --log-level \x7bDEBUG,INFO,WARNING,ERROR\x7d\n" ++
  "                        Logging verbosity (default WARNING)\n"

inductive Misuse
  | ambiguous (word : String) (candidates : List String)
  | needlessValue (switch : Switch) (value : String)
  | missingValue (switch : Switch)
  | notNumber (switch : Switch) (value : String)
  | notLevel (value : String)
  | missingRom
  | unrecognized (words : List String)
  | clockNotPositive
  deriving DecidableEq

namespace Misuse

open Text

def about (switch : Switch) (s : String) : String :=
  "argument " ++ switch.title ++ ": " ++ s

def message : Misuse → String
  | ambiguous word candidates =>
    "ambiguous option: " ++ word ++ " could match " ++ ", ".intercalate candidates
  | needlessValue switch value => about switch ("ignored explicit argument " ++ quoted value)
  | missingValue switch => about switch "expected one argument"
  | notNumber switch value => about switch ("invalid int value: " ++ quoted value)
  | notLevel value =>
    about .level ("invalid choice: " ++ quoted value ++ " (choose from " ++
      ", ".intercalate (Level.all.map fun l => quoted l.name) ++ ")")
  | missingRom => "the following arguments are required: rom"
  | unrecognized words => "unrecognized arguments: " ++ " ".intercalate words
  | clockNotPositive => "--clock must be positive"

def text (m : Misuse) : String :=
  usage ++ "chipemu: error: " ++ m.message ++ "\n"

end Misuse

end Chip8.CommandLine
