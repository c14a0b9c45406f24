import Chip8.Refusal

/-! The hexadecimal keypad: sixteen flags that the host sets and the core reads. -/

namespace Chip8

structure Keypad where
  keys : Vector Bool 16
  deriving DecidableEq

namespace Keypad

def released : Keypad := ⟨Vector.replicate 16 false⟩

def key (n : Int) : Except Fault Key :=
  if h : 0 ≤ n ∧ n < 16 then .ok ⟨n.toNat, toNat_lt_sixteen h⟩ else .error (.keyIndex n)

def down (p : Keypad) (k : Key) : Bool := p.keys[k]

def holds (p : Keypad) (n : Int) : Except Fault Bool :=
  (key n).map p.down

def put (p : Keypad) (k : Key) (down : Bool) : Keypad := ⟨p.keys.set k down⟩

def set (p : Keypad) (n : Int) (down : Bool) : Except Fault Keypad :=
  (key n).map fun k => p.put k down

/-- Replaces all flags at once, which takes exactly one for each key. -/
def ofStates (states : List Bool) : Except Refusal Keypad :=
  if h : states.length = 16 then .ok ⟨⟨states.toArray, by simpa using h⟩⟩
  else .error (.keyStates states.length)

/-- The lowest key that is down. -/
def lowestDown (p : Keypad) : Option Key :=
  (List.finRange 16).find? p.down

def toList (p : Keypad) : List Bool := p.keys.toList

theorem down_set {p q : Keypad} {k : Key} {down : Bool} (h : p.set k down = .ok q) (l : Key) :
    q.down l = if k = l then down else p.down l := by
  have hk : key k = .ok k := by
    rw [key, dif_pos (by omega)]
    rfl
  rw [set, hk] at h
  cases h
  simp only [Keypad.down, put, Fin.getElem_fin, Vector.getElem_set, Fin.ext_iff]

end Keypad

end Chip8
