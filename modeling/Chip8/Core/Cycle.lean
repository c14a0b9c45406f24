import Chip8.Core.Basic
import Chip8.Instr.Alu
import Chip8.Notice

/-! One cycle of a core: fetch, decode, execute. -/

namespace Chip8.Core

/-- A fallible part of a run: it fails, or its value decides how the run goes on. -/
def proceed {α : Type} (c : Core) (part : Except Fault α) (go : α → Outcome) : Outcome :=
  match part with
  | .error cause => .failed c cause
  | .ok a => go a

/-- A fallible part of an instruction: it fails before any effect, or its value decides how the
core goes on. -/
def attempt {α : Type} (c : Core) (part : Except Fault α) (go : α → Core) : Outcome :=
  c.proceed part fun a => .done (go a)

/-- Writes bytes to consecutive cells, one after the other. -/
def storeRun (c : Core) (address : Int) : List UInt8 → Outcome
  | [] => .done c
  | b :: bs =>
    c.proceed (c.ram.write address b.toNat) fun ram =>
      storeRun { c with ram } (address + 1) bs

/-- Stores registers from `I` on, which moves with every cell. -/
def storeRegisters (c : Core) : List Register → Outcome
  | [] => .done c
  | r :: rs =>
    c.proceed (c.ram.write c.pointer (c.get r).toNat) fun ram =>
      storeRegisters ({ c with ram }.setPointer (c.pointer + 1)) rs

/-- Loads registers from `I` on, which moves with every cell. -/
def loadRegisters (c : Core) : List Register → Outcome
  | [] => .done c
  | r :: rs =>
    c.proceed (c.ram.read c.pointer) fun b =>
      loadRegisters ((c.set r b).setPointer (c.pointer + 1)) rs

/-- The registers from `V0` to `x`. -/
def upTo (x : Register) : List Register :=
  (List.finRange 16).take (x + 1)

/-- The three decimal digits of a byte. -/
def decimal (b : UInt8) : List UInt8 :=
  [b / 100, b / 10 % 10, b % 10]

def execute (i : Instr) (c : Core) : Outcome :=
  match i with
  | .clear => .done { c with panel := c.panel.clear }.next
  | .ret => c.attempt c.stack.pop fun (a, stack) => { c with stack }.goTo (a.toNat + 2)
  | .jump target => .done (c.goTo target)
  | .call target => c.attempt (c.stack.push c.pc) fun stack => { c with stack }.goTo target
  | .skipIf x value => .done (c.skipWhen (c.get x == value))
  | .skipUnless x value => .done (c.skipWhen (c.get x != value))
  | .skipSame x y => .done (c.skipWhen (c.get x == c.get y))
  | .skipDifferent x y => .done (c.skipWhen (c.get x != c.get y))
  | .load x value => .done (c.set x value).next
  | .add x value => .done (c.set x (c.get x + value)).next
  | .alu op x y => .done (c.withBank (op.apply x y)).next
  | .point address => .done (c.setPointer address).next
  | .draw x y height =>
    c.attempt (c.drawFrom c.pointer (c.get x).toNat (c.get y).toNat height) fun (hit, d) =>
      (d.withBank (·.setFlag hit)).next
  | .skipDown x => c.attempt (c.keypad.holds (c.get x).toNat) fun down => c.skipWhen down
  | .skipUp x => c.attempt (c.keypad.holds (c.get x).toNat) fun down => c.skipWhen !down
  | .getDelay x => .done (c.set x c.timers.delay).next
  | .awaitKey x =>
    match c.keypad.lowestDown with
    | none => .done (c.goTo c.pc)
    | some k => .done (c.set x (UInt8.ofNat k)).next
  | .setDelay x => .done { c with timers := { c.timers with delay := c.get x } }.next
  | .setSound x => .done { c with timers := { c.timers with sound := c.get x } }.next
  | .movePoint x => .done (c.setPointer (c.pointer + (c.get x).toNat)).next
  | .glyph x =>
    .done (c.setPointer (c.settings.fontAddress + (c.get x).toNat * 5)).next
  | .storeDecimal x => (c.storeRun c.pointer (decimal (c.get x))).andThen next
  | .storeUpTo x => (c.storeRegisters (upTo x)).andThen next
  | .loadUpTo x => (c.loadRegisters (upTo x)).andThen next

/-- Executes the instruction at the program counter. -/
def cycle (c : Core) : Outcome :=
  match c.ram.fetch c.pc with
  | .error cause => .failed c cause
  | .ok word =>
    match Instr.decode ⟨word.toNat⟩ with
    | none => .failed c (.unknownWord word.toNat c.pc)
    | some i => execute i c

/-- What an instruction reports besides being decoded. -/
def reports (c : Core) : Instr → List Notice
  | .ret => (c.stack.entries.take 1).map fun a => .returning a.toNat
  | .call target => [.calling target]
  | .awaitKey x => c.keypad.lowestDown.toList.map fun (k : Key) => .keyStored k x
  | _ => []

/-- What the next cycle reports. -/
def notices (c : Core) : List Notice :=
  match c.ram.fetch c.pc with
  | .error _ => []
  | .ok word =>
    .decoding word.toNat c.pc ::
      match Instr.decode ⟨word.toNat⟩ with
      | none => []
      | some i => c.reports i

end Chip8.Core
