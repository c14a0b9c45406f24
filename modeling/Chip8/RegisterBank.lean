import Chip8.Refusal

/-! The registers of a core: sixteen bytes `V0` to `VF`, the 16-bit address register `I`, and the
program counter. -/

namespace Chip8

/-- Carries, borrows and collisions are reported in `VF`. -/
def flagRegister : Register := Fin.last 15

/-- The program counter starts at any address whatever; whenever it is set it is taken modulo
`2 ^ 16`. -/
structure RegisterBank where
  v : Vector UInt8 16
  i : UInt16
  pc : Int
  deriving DecidableEq

namespace RegisterBank

def start (pc : Int) : RegisterBank := ⟨Vector.replicate 16 0, 0, pc⟩

def get (b : RegisterBank) (r : Register) : UInt8 := b.v[r]

def set (b : RegisterBank) (r : Register) (value : UInt8) : RegisterBank :=
  { b with v := b.v.set r value }

/-- Values are taken modulo `2 ^ 16`. -/
def setI (b : RegisterBank) (value : Int) : RegisterBank :=
  { b with i := UInt16.ofInt value }

def setPc (b : RegisterBank) (value : Int) : RegisterBank :=
  { b with pc := value % 65536 }

def moveOn (b : RegisterBank) (n : Int) : RegisterBank :=
  b.setPc (b.pc + n)

def setFlag (b : RegisterBank) (flag : Bool) : RegisterBank :=
  b.set flagRegister (if flag then 1 else 0)

def register (n : Int) : Except Refusal Register :=
  if h : 0 ≤ n ∧ n < 16 then .ok ⟨n.toNat, toNat_lt_sixteen h⟩ else .error (.registerIndex n)

def read (b : RegisterBank) (n : Int) : Except Refusal UInt8 :=
  (register n).map b.get

/-- Values are taken modulo 256. -/
def write (b : RegisterBank) (n value : Int) : Except Refusal RegisterBank :=
  (register n).map fun r => b.set r (UInt8.ofInt value)

def toList (b : RegisterBank) : List UInt8 := b.v.toList

def text (b : RegisterBank) : String :=
  let bytes := b.toList.zipIdx.map fun (value, r) =>
    "V" ++ Text.Hex.upper 1 r ++ "=" ++ Text.Hex.upper 2 value.toNat
  "<RegisterFile " ++ " ".intercalate bytes ++ " I=" ++ Text.Hex.upper 3 b.i.toNat ++
    " PC=" ++ Text.Hex.upper 3 b.pc ++ ">"

theorem get_set (b : RegisterBank) (r s : Register) (value : UInt8) :
    (b.set r value).get s = if r = s then value else b.get s := by
  simp only [get, set, Fin.getElem_fin, Vector.getElem_set, Fin.ext_iff]

end RegisterBank

end Chip8
