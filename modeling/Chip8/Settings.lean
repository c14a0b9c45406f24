import Chip8.Refusal

/-! Settings of a machine, checked once before any machine is built from them. -/

namespace Chip8

/-- Settings as a host proposes them. -/
structure Draft where
  programAddress : Int := programStart
  fontAddress : Int := fontStart
  font : List Int := hexFont.toList.map fun b => (b.toNat : Int)
  clockHz : Int := defaultClockHz
  timerHz : Int := defaultTimerHz

structure Settings where
  programAddress : Nat
  fontAddress : Nat
  font : Vector UInt8 80
  clockHz : Nat
  timerHz : Nat
  font_below_program : fontAddress + 80 ≤ programAddress
  clock_pos : 0 < clockHz
  timer_pos : 0 < timerHz
  deriving DecidableEq

namespace Settings

/-- The cycles that fall on one tick of the timers, at least one. -/
def frameCycles (s : Settings) : Nat :=
  max 1 (s.clockHz / s.timerHz)

theorem frameCycles_pos (s : Settings) : 0 < s.frameCycles :=
  Nat.lt_of_lt_of_le Nat.zero_lt_one (Nat.le_max_left 1 _)

/-- The room for a program; negative when programs would start behind the end of memory. -/
def room (s : Settings) : Int :=
  4096 - s.programAddress

/-- Settings never change once they are checked. -/
def assign (_ : Settings) (name : String) : Except Refusal Settings :=
  .error (.fixedSetting name)

end Settings

namespace Draft

abbrev Byte (n : Int) : Prop := 0 ≤ n ∧ n < 256

/-- Checks the length of the font, its place, the two rates and last the bytes of the font. -/
def check (d : Draft) : Except Refusal Settings :=
  if length : d.font.length = 80 then
    if place : 0 ≤ d.fontAddress ∧ d.fontAddress ≤ d.programAddress - 80 then
      if rates : 0 < d.clockHz ∧ 0 < d.timerHz then
        if ∀ n ∈ d.font, Byte n then
          .ok {
            programAddress := d.programAddress.toNat
            fontAddress := d.fontAddress.toNat
            font := ⟨(d.font.map UInt8.ofInt).toArray, by simpa using length⟩
            clockHz := d.clockHz.toNat
            timerHz := d.timerHz.toNat
            font_below_program := by omega
            clock_pos := by omega
            timer_pos := by omega }
        else .error .fontByte
      else .error .rates
    else .error .fontPlace
  else .error (.fontLength d.font.length)

end Draft

def Settings.standard : Settings where
  programAddress := programStart
  fontAddress := fontStart
  font := hexFont
  clockHz := defaultClockHz
  timerHz := defaultTimerHz
  font_below_program := by decide
  clock_pos := by decide
  timer_pos := by decide

end Chip8
