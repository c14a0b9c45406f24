import Chip8.Console.Basic

/-! The operations of a host as data, and runs of them. -/

namespace Chip8

inductive Operation
  | step
  | run (count : Int)
  | playFrame
  | tick
  | press (key : Int)
  | release (key : Int)
  | setKeypad (states : List Bool)
  | poll
  | load (data : List UInt8)
  | loadFile (read : Disk.Reader) (path : String)

inductive Answer
  | nothing
  | flag (value : Bool)
  | count (value : Nat)
  | frame (value : Option Screen)

namespace Reply

def map {α β : Type} (f : α → β) (r : Reply α) : Reply β :=
  ⟨r.console, r.result.map f, r.notices⟩

end Reply

namespace Console

def perform (c : Console) : Operation → Reply Answer
  | .step => c.step.map .flag
  | .run count => (c.run count).map .count
  | .playFrame => c.playFrame.map .count
  | .tick => c.tick.answer (.ok .nothing)
  | .press key => (c.press key).map fun _ => .nothing
  | .release key => (c.release key).map fun _ => .nothing
  | .setKeypad states => (c.setKeypad states).map fun _ => .nothing
  | .poll => c.poll.2.answer (.ok (.frame c.poll.1))
  | .load data => (c.load data).map fun _ => .nothing
  | .loadFile read path => (c.loadFile read path).map fun _ => .nothing

/-- The console after a list of operations, of which any may have been refused. -/
def performAll (c : Console) (ops : List Operation) : Console :=
  ops.foldl (fun d op => (d.perform op).console) c

def replies (c : Console) : List Operation → List (Reply Answer)
  | [] => []
  | op :: ops => c.perform op :: (c.perform op).console.replies ops

end Console

end Chip8
