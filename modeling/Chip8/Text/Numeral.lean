import Chip8.Text.Digit

/-! Whole numbers as people type them: blanks around, a sign, digits of any script, and single
underscores between digits. -/

namespace Chip8.Text.Numeral

/-- Code points of the blanks that may surround a number, besides the blank itself. -/
def blanks : List Nat :=
  [0x09, 0x0A, 0x0B, 0x0C, 0x0D, 0x85, 0xA0, 0x1680, 0x2000, 0x2001, 0x2002, 0x2003, 0x2004,
    0x2005, 0x2006, 0x2007, 0x2008, 0x2009, 0x200A, 0x2028, 0x2029, 0x202F, 0x205F, 0x3000]

def isBlank (c : Char) : Bool :=
  c == ' ' || blanks.contains c.toNat

def trim (s : List Char) : List Char :=
  ((s.dropWhile isBlank).reverse.dropWhile isBlank).reverse

/-- The digits of a number; an underscore may stand between two of them. -/
def digits? : List Char → Option (List Nat)
  | [] => none
  | [c] => (digitValue? c).map fun d => [d]
  | c :: '_' :: rest => do return (← digitValue? c) :: (← digits? rest)
  | c :: rest => do return (← digitValue? c) :: (← digits? rest)

def valueOf (digits : List Nat) : Nat :=
  digits.foldl (fun n d => 10 * n + d) 0

/-- Numbers with more digits are not read. -/
def digitLimit : Nat := 4300

def natural? (s : List Char) : Option Nat :=
  (digits? s).bind fun ds => if ds.length ≤ digitLimit then some (valueOf ds) else none

def signed? : List Char → Option Int
  | '-' :: rest => (natural? rest).map fun n => -(n : Int)
  | '+' :: rest => (natural? rest).map Int.ofNat
  | s => (natural? s).map Int.ofNat

def integer? (s : String) : Option Int :=
  signed? (trim s.toList)

/-- Whether a text is a minus sign with digits behind it, one point before the last ones allowed. A
line feed may follow. -/
def isNegative (s : String) : Bool :=
  match s.toList with
  | '-' :: rest =>
    let body := if rest.getLast? = some '\n' then rest.dropLast else rest
    match body.dropWhile isDigit with
    | [] => body != []
    | '.' :: fraction => fraction != [] && fraction.all isDigit
    | _ => false
  | _ => false

end Chip8.Text.Numeral
