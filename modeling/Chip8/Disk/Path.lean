/-! Paths as lists of names. -/

namespace Chip8.Disk

/-- A path: the slashes in front of it, then its names. -/
structure Path where
  root : String
  names : List String
  deriving DecidableEq

namespace Path

/-- The mark of the directory itself. -/
def here : String := "."

/-- The name of the directory above. -/
def above : String := ".."

/-- Exactly two slashes in front are kept; any other number counts as one. -/
def rootOf (s : List Char) : String :=
  match (s.takeWhile (· = '/')).length with
  | 0 => ""
  | 2 => "//"
  | _ => "/"

/-- Reads a path; empty names and marks of the same directory are dropped. -/
def parse (s : String) : Path :=
  ⟨rootOf s.toList, (s.splitOn "/").filter fun name => name != "" && name != here⟩

def text (p : Path) : String :=
  if p.root = "" ∧ p.names = [] then here else p.root ++ "/".intercalate p.names

end Path

end Chip8.Disk
