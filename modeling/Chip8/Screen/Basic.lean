import Chip8.Layout

/-! The screen as 32 lines of 64 pixels. Sprites are added to it by exclusive or and wrap around
at both edges. -/

namespace Chip8

/-- Lines from top to bottom; the most significant bit of a line is its left pixel. -/
structure Screen where
  lines : Vector (BitVec 64) 32
  deriving DecidableEq

namespace Screen

def blank : Screen := ⟨Vector.replicate 32 0⟩

def line (s : Screen) (y : Line) : BitVec 64 := s.lines[y]

def lit (s : Screen) (x : Column) (y : Line) : Bool :=
  (s.line y).getMsbD x

/-- The line that a sprite row covers: a sprite row `k` below the line `y`, wrapping around. -/
def lineOf (y : Int) (k : Nat) : Line :=
  ⟨((y + k) % 32).toNat, by omega⟩

/-- A sprite row as a line of pixels: eight from column `x` on, wrapping around. -/
def stamp (x : Int) (row : UInt8) : BitVec 64 :=
  (row.toBitVec ++ 0#56).rotateRight (x % 64).toNat

def hits (s : Screen) (x y : Int) (row : UInt8) (k : Nat) : Bool :=
  s.line (lineOf y k) &&& stamp x row != 0

def collides (s : Screen) (x y : Int) (sprite : List UInt8) : Bool :=
  sprite.zipIdx.any fun (row, k) => s.hits x y row k

def stampLine (before s : Screen) (x y : Int) (row : UInt8) (k : Nat) : Screen :=
  ⟨s.lines.set (lineOf y k) (before.line (lineOf y k) ^^^ stamp x row)⟩

/-- Adds a sprite at `(x, y)`. Every row is added to the pixels from before, so of two rows that
cover one line the later stays. -/
def paint (s : Screen) (x y : Int) (sprite : List UInt8) : Screen :=
  sprite.zipIdx.foldl (fun t (row, k) => s.stampLine t x y row k) s

def toList (s : Screen) : List Bool :=
  s.lines.toList.flatMap fun l => (List.finRange 64).map fun x => l.getMsbD x

/-- The pixel of a stamp at column `c` is the bit of the row that lies as far right of `x`. -/
theorem getMsbD_stamp (x : Int) (row : UInt8) (c : Column) :
    (stamp x row).getMsbD c = row.toBitVec.getMsbD (((c : Int) - x) % 64).toNat := by
  have hs : (x % 64).toNat % 64 = (x % 64).toNat := by omega
  have hp (k : Nat) (hk : k < 64) :
      (row.toBitVec ++ 0#56 : BitVec 64).getMsbD k = row.toBitVec.getMsbD k := by
    have := BitVec.getMsbD_append (x := row.toBitVec) (y := 0#56) (i := k)
    rw [show (row.toBitVec ++ 0#56 : BitVec 64).getMsbD k =
      (row.toBitVec ++ 0#56 : BitVec (8 + 56)).getMsbD k from rfl, this]
    split
    · rename_i h
      simp [BitVec.getMsbD, show ¬ k < 8 by omega]
    · rfl
  unfold stamp
  rw [BitVec.getMsbD_rotateRight, hs]
  simp only [c.isLt, decide_true, Bool.true_and]
  split
  · rw [hp _ (by omega)]
    congr 1
    omega
  · rw [hp _ (by omega)]
    congr 1
    omega

theorem line_stampLine (b s : Screen) (x y : Int) (row : UInt8) (k : Nat) (l : Line) :
    (b.stampLine s x y row k).line l =
      if lineOf y k = l then b.line l ^^^ stamp x row else s.line l := by
  simp only [line, stampLine, Fin.getElem_fin, Vector.getElem_set, Fin.ext_iff]
  split <;> simp_all

end Screen

end Chip8
