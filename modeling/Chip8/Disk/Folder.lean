import Chip8.Disk.Reader

/-! A working directory with files in it and below it, and what reading a path in it gives. -/

namespace Chip8.Disk

/-- A file under the names of the directories that lead to it and its own. -/
structure File where
  names : List String
  content : List UInt8

structure Folder where
  files : List File

/-- Where a walk through the directories stands. -/
inductive Place
  | below (names : List String)
  | outside

namespace Folder

def ofList (files : List (String × List UInt8)) : Folder :=
  ⟨files.map fun (name, content) => ⟨(Path.parse name).names, content⟩⟩

def file? (f : Folder) (names : List String) : Option File :=
  f.files.find? fun file => file.names == names

def isFolder (f : Folder) (names : List String) : Bool :=
  names == [] || f.files.any fun file => names.isPrefixOf file.names

/-- The most bytes that a name may have. -/
def nameLimit : Nat := 255

/-- The most bytes that a path may have. -/
def pathLimit : Nat := 4095

/-- Follows names from a directory on. Of what lies outside the working directory only the
directories above it are there. -/
def walk (f : Folder) : Place → List String → Except Failure (List UInt8)
  | _, [] => .error .isDirectory
  | .outside, name :: rest =>
    if name = Path.above then walk f .outside rest
    else if nameLimit < name.utf8ByteSize then .error .nameTooLong
    else .error .missing
  | .below here, name :: rest =>
    if name = Path.above then
      walk f (if here = [] then .outside else .below here.dropLast) rest
    else if nameLimit < name.utf8ByteSize then .error .nameTooLong
    else
      match f.file? (here ++ [name]) with
      | some file => if rest = [] then .ok file.content else .error .notDirectory
      | none => if f.isFolder (here ++ [name]) then walk f (.below (here ++ [name])) rest
        else .error .missing

def read (f : Folder) : Reader := fun p =>
  if pathLimit < p.text.utf8ByteSize then .error .nameTooLong
  else walk f (if p.root = "" then .below [] else .outside) p.names

end Folder

end Chip8.Disk
