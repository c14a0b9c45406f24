import Chip8.CommandLine.Usage
import Chip8.Text.Numeral

/-! The words of a command line, sorted into plain words, switches and the separator behind which
every word is plain. -/

namespace Chip8.CommandLine

/-- A chosen switch has the value that an equals sign joined to it, and a short call for help what
follows its letter. -/
inductive Word
  | plain (text : String)
  | separator
  | chosen (switch : Switch) (value : Option String)
  | shortHelp (joined : List Char)
  | unknown (text : String)

namespace Word

def separatorText : String := "--"

def splitValue (s : String) : String × Option String :=
  let name := s.toList.takeWhile (· != '=')
  match s.toList.dropWhile (· != '=') with
  | [] => (s, none)
  | _ :: value => (String.ofList name, some (String.ofList value))

def spelled? (s : String) : Option Switch :=
  (Switch.spellings.find? fun (name, _) => name == s).map Prod.snd

/-- The spellings that a name with two dashes abbreviates. -/
def candidates (name : String) : List (String × Switch) :=
  Switch.spellings.filter fun (spelling, _) => spelling.startsWith name

/-- A word with a dash that spells no switch: a negative number, or a word with a blank in it, is
plain. -/
def strange (s : String) : Word :=
  if Text.Numeral.isNegative s || s.toList.contains ' ' then plain s else unknown s

def sortLong (s : String) : Except Misuse Word :=
  let (name, value) := splitValue s
  match spelled? name with
  | some switch => .ok (.chosen switch value)
  | none =>
    match candidates name with
    | [] => .ok (strange s)
    | [(_, switch)] => .ok (.chosen switch value)
    | found => .error (.ambiguous s (found.map Prod.fst))

/-- Sorts a word by what stands behind its first dash. An equals sign right behind the letter joins
the rest to it as well as none does. -/
def sortShort (s : String) : List Char → Word
  | [] => plain s
  | letter :: behind =>
    if letter = Switch.helpLetter then
      match behind with
      | [] => chosen .help none
      | '=' :: joined => shortHelp joined
      | joined => shortHelp joined
    else strange s

def sort (s : String) : Except Misuse Word :=
  match s.toList with
  | '-' :: '-' :: _ => sortLong s
  | '-' :: behind => .ok (sortShort s behind)
  | _ => .ok (plain s)

def sortAll : List String → Except Misuse (List Word)
  | [] => .ok []
  | s :: rest =>
    if s = separatorText then .ok (.separator :: rest.map .plain)
    else do
      let word ← sort s
      return word :: (← sortAll rest)

end Word

end Chip8.CommandLine
