import Chip8.Time.Clock
import Chip8.Window

/-! A session: the loop that hands events to a console, lets it run, ticks its timers when they are
due and shows its frames. -/

namespace Chip8

/-- What the window saw, in order. -/
inductive Call
  | opened (scale : Nat) (console : Console)
  | handled (stays : Bool) (console : Console)
  | rendered (frame : Screen)
  | paced (rate : Nat) (console : Console)

inductive Ending
  | closed
  | halted (cause : Fault)
  | interrupted
  | refused (cause : Refusal)

structure Session where
  console : Console
  window : Window
  clock : Time.Clock
  lastTick : Rat

namespace Session

/-- What a session, or the rest of one, comes to. -/
structure Record where
  calls : List Call
  notices : List Notice
  session : Session
  ending : Ending

/-- Puts what happened before in front of a record. -/
def Record.after (r : Record) (calls : List Call) (notices : List Notice) : Record :=
  { r with calls := calls ++ r.calls, notices := notices ++ r.notices }

def tickWhenDue (s : Session) (period : Rat) : Session :=
  let (now, clock) := s.clock.read
  if Time.due period s.lastTick now then
    { s with console := s.console.tick, clock, lastTick := now }
  else { s with clock }

def present (s : Session) : List Call × Session :=
  match s.console.poll with
  | (some frame, console) =>
    ([.rendered frame], { s with console, window := s.window.render frame })
  | (none, console) => ([], { s with console })

/-- One round for each batch of events; when there are no more, the window is closed. An
interrupt strikes before the events of its batch are handled. -/
def rounds (period : Rat) (s : Session) : List (List HostEvent) → Record
  | [] => ⟨[.handled false s.console], [], s, .closed⟩
  | batch :: later =>
    if .interrupt ∈ batch then ⟨[], [], s, .interrupted⟩
    else
      let (stays, console) := s.console.handle batch
      if !stays then ⟨[.handled false console], [], { s with console }, .closed⟩
      else
        let r := console.run console.settings.frameCycles
        let t := { s with console := r.console }
        match r.result, r.console.fault with
        | .error refusal, _ => ⟨[.handled true console], r.notices, t, .refused refusal⟩
        | .ok _, some cause => ⟨[.handled true console], r.notices, t, .halted cause⟩
        | .ok _, none =>
          let (shown, u) := (t.tickWhenDue period).present
          let calls := .handled true console :: shown ++
            [.paced u.console.settings.timerHz u.console]
          (rounds period u later).after calls r.notices

def run (console : Console) (window : Window) (clock : Time.Clock)
    (batches : List (List HostEvent)) : Record :=
  match Time.period? console.settings.timerHz with
  | none => ⟨[], [], ⟨console, window, clock, 0⟩, .refused .timerRateTooLarge⟩
  | some period =>
    let (now, clock) := clock.read
    rounds period ⟨console, window, clock, now⟩ batches

end Session

end Chip8
