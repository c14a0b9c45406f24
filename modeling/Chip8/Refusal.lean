import Chip8.Disk.Reader
import Chip8.Fault
import Chip8.Layout
import Chip8.Text.Quoted

/-! Refusals: requests that cannot be met, with their wording and the categories they fall under. -/

namespace Chip8

open Text

inductive Refusal
  | fault (cause : Fault)
  | romTooLarge (length : Nat) (capacity : Int)
  | romUnreadable (path : String) (failure : Disk.Failure) (file : String)
  | nulInPath
  | keyStates (count : Nat)
  | registerIndex (number : Int)
  | columnIndex (x : Int)
  | lineIndex (y : Int)
  | shortSprite
  | readOnlyFrame
  | frameSize (count : Nat)
  | fontLength (length : Nat)
  | fontPlace
  | rates
  | fontByte
  | fixedSetting (name : String)
  | timerRateTooLarge
  | noClock
  | noLevel
  | noScale
  deriving DecidableEq

namespace Refusal

def message : Refusal → String
  | fault cause => cause.message
  | romTooLarge length capacity =>
    "ROM is too large for memory (" ++ toString length ++ " bytes, max " ++ toString capacity ++ ")"
  | romUnreadable path failure file =>
    "Cannot read ROM " ++ path ++ ": [Errno " ++ toString failure.number ++ "] " ++
      failure.text ++ ": " ++ quoted file
  | nulInPath => "embedded null byte"
  | keyStates count =>
    "Expected " ++ toString keyCount ++ " key states, got " ++ toString count
  | registerIndex number => "Invalid register V" ++ Hex.upper 0 number
  | columnIndex x =>
    "index " ++ toString x ++ " is out of bounds for axis 1 with size " ++ toString screenWidth
  | lineIndex y =>
    "index " ++ toString y ++ " is out of bounds for axis 0 with size " ++ toString screenHeight
  | shortSprite => "buffer is smaller than requested size"
  | readOnlyFrame => "assignment destination is read-only"
  | frameSize count =>
    "cannot reshape array of size " ++ toString count ++ " into shape (" ++
      toString screenHeight ++ "," ++ toString screenWidth ++ ")"
  | fontLength length =>
    "Font must hold " ++ toString glyphCount ++ " glyphs of " ++ toString glyphHeight ++
      " bytes, got " ++ toString length ++ " bytes"
  | fontPlace => "Font must fit below the program address"
  | rates => "clock_hz and timer_hz must be positive"
  | fontByte => "bytes must be in range(0, 256)"
  | fixedSetting name => "cannot assign to field " ++ quoted name
  | timerRateTooLarge => "int too large to convert to float"
  | noClock => "'<=' not supported between instances of 'list' and 'int'"
  | noLevel => "attribute name must be string, not 'list'"
  | noScale =>
    "int() argument must be a string, a bytes-like object or a real number, not 'list'"

end Refusal

/-- What kind of error a host sees. -/
inductive Category
  | machine
  | decode
  | bounds
  | stackOverflow
  | stackUnderflow
  | resource
  | index
  | value
  | lookup
  | fixed
  | overflow
  | wrongKind
  deriving DecidableEq

namespace Category

/-- The categories that an error of this one belongs to, itself among them. -/
def ancestors : Category → List Category
  | machine => [machine]
  | decode => [machine, decode]
  | bounds => [machine, bounds, index, lookup]
  | stackOverflow => [machine, bounds, stackOverflow, index, lookup]
  | stackUnderflow => [machine, bounds, stackUnderflow, index, lookup]
  | resource => [machine, resource, value]
  | index => [index, lookup]
  | value => [value]
  | lookup => [lookup]
  | fixed => [fixed]
  | overflow => [overflow]
  | wrongKind => [wrongKind]

end Category

def Fault.category : Fault → Category
  | .unknownWord _ _ => .decode
  | .memoryAccess _ _ _ => .bounds
  | .keyIndex _ => .bounds
  | .stackOverflow _ => .stackOverflow
  | .stackUnderflow => .stackUnderflow

def Refusal.category : Refusal → Category
  | .fault cause => cause.category
  | .romTooLarge _ _ | .romUnreadable _ _ _ => .resource
  | .registerIndex _ | .columnIndex _ | .lineIndex _ => .index
  | .fixedSetting _ => .fixed
  | .timerRateTooLarge => .overflow
  | .noClock | .noLevel | .noScale => .wrongKind
  | .nulInPath | .keyStates _ | .shortSprite | .readOnlyFrame | .frameSize _ | .fontLength _
  | .fontPlace | .rates | .fontByte => .value

end Chip8
