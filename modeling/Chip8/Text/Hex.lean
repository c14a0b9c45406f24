/-! Hexadecimal numerals: upper case, padded with zeros to a width in which a sign counts. -/

namespace Chip8.Text.Hex

def digits (n : Nat) : List Char :=
  (Nat.toDigits 16 n).map Char.toUpper

/-- The numeral of `n` in at least `width` characters; a wider numeral is not cut. -/
def upper (width : Nat) (n : Int) : String :=
  let sign := if n < 0 then ['-'] else []
  let body := digits n.natAbs
  String.ofList (sign ++ List.replicate (width - (sign.length + body.length)) '0' ++ body)

/-- An address with at least three digits, behind its marker. -/
def address (n : Int) : String :=
  "0x" ++ upper 3 n

/-- An instruction word with at least four digits, behind its marker. -/
def word (n : Int) : String :=
  "0x" ++ upper 4 n

end Chip8.Text.Hex
