import Chip8.CommandLine.Arguments
import Chip8.Session

/-! A whole run from the command line: arguments, program file, session, exit status. -/

namespace Chip8

open CommandLine

namespace Launch

def okStatus : Nat := 0

def faultStatus : Nat := 1

def badRomStatus : Nat := 2

/-- What surrounds a run: the files that it can read, the events that its window gets, and its
clock. -/
structure Surroundings where
  read : Disk.Reader
  batches : List (List HostEvent)
  clock : Time.Clock

/-- A run returns a status once its arguments are good, exits with one before that, or breaks
off. -/
inductive Finish
  | returned (status : Nat)
  | exited (status : Nat)
  | broken (cause : Refusal)

structure Report where
  finish : Finish
  output : String
  complaint : String
  calls : List Call

def reporter : String := "chipemu.cli"

def log (level : Level) (notices : List Notice) : String :=
  String.join ((Notice.heard level notices).map Notice.line)

/-- The report on the end of a session that has given notices. -/
def conclude (level : Level) (notices : List Notice) (opened : Call) (r : Session.Record) :
    Report :=
  let complaint := log level (notices ++ r.notices)
  let calls := opened :: r.calls
  match r.ending with
  | .closed => ⟨.returned okStatus, "", complaint, calls⟩
  | .interrupted => ⟨.returned okStatus, "\nExiting.\n", complaint, calls⟩
  | .halted cause =>
    ⟨.returned faultStatus, "", complaint ++ "Machine halted: " ++ cause.message ++ "\n", calls⟩
  | .refused cause => ⟨.broken cause, "", complaint, calls⟩

def breakOff (cause : Refusal) : Report :=
  ⟨.broken cause, "", "", []⟩

/-- Loads the program and runs its session. -/
def play (reporter : String) (rom : String) (scale : Option Int) (level : Level)
    (settings : Settings) (around : Surroundings) : Report :=
  match Console.boot settings with
  | .error cause => breakOff (.fault cause)
  | .ok console =>
    let loaded := console.loadFile around.read rom
    let notices := Console.bootNotices settings ++ loaded.notices
    match loaded.result with
    | .error refusal =>
      if refusal.category = .resource then
        ⟨.returned badRomStatus, "", log level (notices ++ [.romRefused reporter refusal]), []⟩
      else ⟨.broken refusal, "", log level notices, []⟩
    | .ok () =>
      match scale with
      | none => ⟨.broken .noScale, "", log level notices, []⟩
      | some scale =>
        let window := Window.opened scale
        conclude level notices (.opened window.scale loaded.console)
          (Session.run loaded.console window around.clock around.batches)

def stop (s : Stop) : Report :=
  ⟨.exited s.status, s.output, s.complaint, []⟩

def run (reporter : String) (argv : List String) (around : Surroundings) : Report :=
  match Arguments.parse argv with
  | .error s => stop s
  | .ok arguments =>
    match arguments.clock with
    | none => breakOff .noClock
    | some clock =>
      if clock ≤ 0 then stop (.misuse .clockNotPositive)
      else
        match arguments.level, ({ clockHz := clock } : Draft).check with
        | none, _ => breakOff .noLevel
        | some _, .error refusal => breakOff refusal
        | some level, .ok settings =>
          play reporter arguments.rom arguments.scale level settings around

end Launch

end Chip8
