import Chip8.CommandLine.Word

/-! The arguments that a command line gives. -/

namespace Chip8.CommandLine

/-- A switch whose value is the separator is left without one. -/
structure Arguments where
  rom : String
  scale : Option Int
  clock : Option Int
  level : Option Level

inductive Stop
  | help
  | misuse (cause : Misuse)

namespace Stop

def status : Stop → Nat
  | help => 0
  | misuse _ => 2

def output : Stop → String
  | help => CommandLine.help
  | misuse _ => ""

def complaint : Stop → String
  | help => ""
  | misuse cause => cause.text

end Stop

/-- What has been read so far; words that fit nowhere are kept in order. -/
structure Reading where
  rom : Option String := none
  scale : Option Int := some 15
  clock : Option Int := some defaultClockHz
  level : Option Level := some .warning
  surplus : List String := []

namespace Reading

def put (r : Reading) (s : String) : Reading :=
  { r with surplus := r.surplus ++ [s] }

def number (switch : Switch) (s : String) : Except Stop Int :=
  match Text.Numeral.integer? s with
  | some n => .ok n
  | none => .error (.misuse (.notNumber switch s))

def levelNamed (s : String) : Except Stop Level :=
  match Level.ofName? s with
  | some l => .ok l
  | none => .error (.misuse (.notLevel s))

/-- What a value says, unless it is the separator. -/
def valued {α : Type} (f : String → Except Stop α) (s : String) : Except Stop (Option α) :=
  if s = Word.separatorText then .ok none else (f s).map some

def assign (r : Reading) (switch : Switch) (s : String) : Except Stop Reading :=
  match switch with
  | .help => .error .help
  | .scale => (valued (number .scale) s).map fun scale => { r with scale }
  | .clock => (valued (number .clock) s).map fun clock => { r with clock }
  | .level => (valued levelNamed s).map fun level => { r with level }

/-- What is joined to a short call for help may repeat the call; all else counts as a value, also
none at all, and help takes no value. -/
def helpWith (joined : List Char) : Stop :=
  let value := joined.dropWhile (· == Switch.helpLetter)
  if joined != [] && value == [] then .help
  else .misuse (.needlessValue .help (String.ofList value))

def words (r : Reading) : List Word → Except Stop Reading
  | [] => .ok r
  | .plain s :: .separator :: rest =>
    match r.rom with
    | none => words { r with rom := some s } rest
    | some _ => words ((r.put s).put Word.separatorText) rest
  | .plain s :: rest =>
    match r.rom with
    | none => words { r with rom := some s } rest
    | some _ => words (r.put s) rest
  | .separator :: .plain s :: rest =>
    match r.rom with
    | none => words { r with rom := some s } rest
    | some _ => words ((r.put Word.separatorText).put s) rest
  | .separator :: rest => words (r.put Word.separatorText) rest
  | .unknown s :: rest => words (r.put s) rest
  | .shortHelp joined :: _ => .error (helpWith joined)
  | .chosen .help (some s) :: _ => .error (.misuse (.needlessValue .help s))
  | .chosen .help none :: _ => .error .help
  | .chosen switch (some s) :: rest => do words (← r.assign switch s) rest
  | .chosen switch none :: .plain s :: rest => do words (← r.assign switch s) rest
  | .chosen switch none :: _ => .error (.misuse (.missingValue switch))

def finish (r : Reading) : Except Stop Arguments :=
  match r.rom, r.surplus with
  | none, _ => .error (.misuse .missingRom)
  | some rom, [] => .ok ⟨rom, r.scale, r.clock, r.level⟩
  | some _, surplus => .error (.misuse (.unrecognized surplus))

end Reading

def Arguments.parse (argv : List String) : Except Stop Arguments := do
  let words ← (Word.sortAll argv).mapError Stop.misuse
  (← Reading.words {} words).finish

end Chip8.CommandLine
