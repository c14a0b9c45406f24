/-! The fixed sizes of a CHIP-8 machine, its memory layout and the built-in hexadecimal font. -/

namespace Chip8

def memorySize : Nat := 4096

def programStart : Nat := 0x200

def fontStart : Nat := 0x50

def programRoom : Nat := memorySize - programStart

def screenWidth : Nat := 64

def screenHeight : Nat := 32

/-- A sprite row is one byte. -/
def spriteWidth : Nat := 8

def registerCount : Nat := 16

def keyCount : Nat := 16

def stackDepth : Nat := 16

def glyphCount : Nat := 16

def glyphHeight : Nat := 5

def fontLength : Nat := glyphCount * glyphHeight

def defaultClockHz : Nat := 700

def defaultTimerHz : Nat := 60

abbrev Register := Fin 16

abbrev Key := Fin 16

theorem toNat_lt_sixteen {n : Int} (h : 0 ≤ n ∧ n < 16) : n.toNat < 16 := by
  omega

/-- A column of the screen, from left to right. -/
abbrev Column := Fin 64

/-- A line of the screen, from top to bottom. -/
abbrev Line := Fin 32

/-- One line per glyph, from 0 to F; a glyph is four pixels wide. -/
def hexFont : Vector UInt8 80 := #v[
  0xF0, 0x90, 0x90, 0x90, 0xF0,
  0x20, 0x60, 0x20, 0x20, 0x70,
  0xF0, 0x10, 0xF0, 0x80, 0xF0,
  0xF0, 0x10, 0xF0, 0x10, 0xF0,
  0x90, 0x90, 0xF0, 0x10, 0x10,
  0xF0, 0x80, 0xF0, 0x10, 0xF0,
  0xF0, 0x80, 0xF0, 0x90, 0xF0,
  0xF0, 0x10, 0x20, 0x40, 0x40,
  0xF0, 0x90, 0xF0, 0x90, 0xF0,
  0xF0, 0x90, 0xF0, 0x10, 0xF0,
  0xF0, 0x90, 0xF0, 0x90, 0x90,
  0xE0, 0x90, 0xE0, 0x90, 0xE0,
  0xF0, 0x80, 0x80, 0x80, 0xF0,
  0xE0, 0x90, 0x90, 0x90, 0xE0,
  0xF0, 0x80, 0xF0, 0x80, 0xF0,
  0xF0, 0x80, 0xF0, 0x80, 0x80]

end Chip8
