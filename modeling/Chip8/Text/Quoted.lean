import Chip8.Text.Printable

/-! Quoted text: between quotes, with what cannot be seen written as escapes. -/

namespace Chip8.Text.Quoted

/-- A code point in lower-case hexadecimal, padded with zeros to `width` digits. -/
def code (width n : Nat) : List Char :=
  let digits := Nat.toDigits 16 n
  List.replicate (width - digits.length) '0' ++ digits

def escape (quote c : Char) : List Char :=
  if c = quote ∨ c = '\\' then ['\\', c]
  else if c = '\n' then ['\\', 'n']
  else if c = '\r' then ['\\', 'r']
  else if c = '\t' then ['\\', 't']
  else if isPrintable c then [c]
  else if c.toNat < 0x100 then '\\' :: 'x' :: code 2 c.toNat
  else if c.toNat < 0x10000 then '\\' :: 'u' :: code 4 c.toNat
  else '\\' :: 'U' :: code 8 c.toNat

/-- Single quotes, unless the text holds a single quote and no double one. -/
def quoteFor (s : List Char) : Char :=
  if '\'' ∈ s ∧ '"' ∉ s then '"' else '\''

def encode (s : List Char) : List Char :=
  let quote := quoteFor s
  quote :: s.flatMap (escape quote) ++ [quote]

end Chip8.Text.Quoted

namespace Chip8.Text

/-- The text as a quoted literal. -/
def quoted (s : String) : String :=
  String.ofList (Quoted.encode s.toList)

end Chip8.Text
