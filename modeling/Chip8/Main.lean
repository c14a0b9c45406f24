import Chip8.Launch

/-! The command line. Standard input takes the place of the keyboard: a line holds the events of one
round, `+N` and `-N` for host key `N` going down and up. Frames are written as text. -/

namespace Chip8.Main

def eventOf? (word : String) : Option HostEvent :=
  match word.toList with
  | '+' :: digits => (Text.Numeral.natural? digits).map fun n => .keyDown n
  | '-' :: digits => (Text.Numeral.natural? digits).map fun n => .keyUp n
  | _ => if word = "quit" then some .quit else none

def batchOf (line : String) : List HostEvent :=
  (line.trimAscii.toString.splitOn " ").filterMap eventOf?

/-- A clock that moves on by a little more than a sixtieth of a second with every round. -/
def steadyClock (rounds : Nat) : Time.Clock :=
  ⟨(List.range (rounds + 1)).map fun (k : Nat) => (18 * k : Rat) / 1024⟩

def drawing (s : Screen) : String :=
  String.join (s.lines.toList.map fun line =>
    String.ofList ((List.finRange 64).map fun x => if line.getMsbD x then '#' else '.') ++ "\n")

def failureOf : IO.Error → Disk.Failure
  | .alreadyExists _ code text | .interrupted _ code text | .noFileOrDirectory _ code text
  | .invalidArgument _ code text | .permissionDenied _ code text | .resourceExhausted _ code text
  | .inappropriateType _ code text | .noSuchThing _ code text | .otherError code text
  | .resourceBusy code text | .resourceVanished code text | .unsupportedOperation code text
  | .hardwareFault code text | .unsatisfiedConstraints code text | .illegalOperation code text
  | .protocolError code text | .timeExpired code text => ⟨code.toNat, text⟩
  | .unexpectedEof => ⟨5, "Input/output error"⟩
  | .userError text => ⟨5, text⟩

/-- A path with a null character names no file. -/
def readFile (p : Disk.Path) : IO (Except Disk.Failure (List UInt8)) := do
  if p.text.toList.contains '\x00' then return .error .missing
  try
    return .ok (← IO.FS.readBinFile p.text).toList
  catch e => return .error (failureOf e)

partial def readLines (input : IO.FS.Stream) : IO (List String) := do
  let line ← input.getLine
  if line.isEmpty then return [] else return line :: (← readLines input)

def statusOf : Launch.Finish → UInt32
  | .returned status | .exited status => status.toUInt32
  | .broken _ => 1

def romOf (args : List String) : Option String :=
  (CommandLine.Arguments.parse args).toOption.map fun a => a.rom

def launch (args : List String) : IO UInt32 := do
  let (content, lines) ←
    match romOf args with
    | none => pure (.ok [], [])
    | some rom => pure (← readFile (.parse rom), ← readLines (← IO.getStdin))
  let around : Launch.Surroundings :=
    ⟨fun _ => content, lines.map batchOf, steadyClock lines.length⟩
  let report := Launch.run Launch.reporter args around
  for call in report.calls do
    if let .rendered frame := call then IO.println (drawing frame)
  IO.print report.output
  IO.eprint report.complaint
  if let .broken cause := report.finish then IO.eprintln cause.message
  return statusOf report.finish

end Chip8.Main

def main (args : List String) : IO UInt32 :=
  Chip8.Main.launch args
