import Chip8.Proofs.Transfers
import Mathlib.Data.List.Induction

/-! Histories of memory. Whatever has been asked of it, memory keeps its size, and every cell holds
the byte that was put there last. -/

namespace Chip8.Ram

inductive Edit
  | load (address : Int) (data : List UInt8)
  | write (address value : Int)

namespace Edit

def address : Edit → Int
  | load address _ | write address _ => address

def data : Edit → List UInt8
  | load _ data => data
  | write _ value => [UInt8.ofNat (value % 256).toNat]

abbrev Fits (size : Nat) (e : Edit) : Prop :=
  Covers size e.address e.data.length

/-- The byte that an edit puts into a cell; one that does not fit puts none anywhere. -/
def put? (size a : Nat) (e : Edit) : Option UInt8 :=
  if e.Fits size ∧ e.address ≤ a then e.data[a - e.address.toNat]? else none

end Edit

variable {size : Nat}

def edit (m : Ram size) : Edit → Except Fault (Ram size)
  | .load address data => m.load address data
  | .write address value => m.write address value

/-- Memory after edits of which any may have been refused. -/
def editAll (m : Ram size) (es : List Edit) : Ram size :=
  es.foldl (fun k e => (k.edit e).toOption.getD k) m

variable {m : Ram size} {e : Edit}

lemma edit_of_fits (m : Ram size) (h : e.Fits size) :
    m.edit e = .ok (m.blit e.address.toNat e.data) := by
  cases e <;> exact if_pos h

lemma edit_of_not_fits (m : Ram size) (h : ¬ e.Fits size) :
    m.edit e = .error (.memoryAccess e.address e.data.length size) := by
  cases e <;> exact if_neg h

lemma editAll_concat (m : Ram size) (es : List Edit) (e : Edit) :
    m.editAll (es ++ [e]) = ((m.editAll es).edit e).toOption.getD (m.editAll es) := by
  rw [editAll, List.foldl_append]
  rfl

lemma get_edit (m : Ram size) (e : Edit) {a : Nat} (h : a < size) :
    ((m.edit e).toOption.getD m).get a = (e.put? size a).getD (m.get a) := by
  by_cases hf : e.Fits size
  · rw [edit_of_fits m hf, Edit.put?]
    change (m.blit _ _).get a = _
    rw [get_blit]
    by_cases hl : e.address ≤ a
    · rw [if_pos ⟨Int.toNat_le.mpr hl, h⟩, if_pos ⟨hf, hl⟩]
    · rw [if_neg fun hc => hl (Int.toNat_le.mp hc.1), if_neg fun hc => hl hc.2]
      rfl
  · rw [edit_of_not_fits m hf, Edit.put?, if_neg fun hc => hf hc.1]
    rfl

lemma get_editAll (m : Ram size) (es : List Edit) {a : Nat} (h : a < size) :
    (m.editAll es).get a = (es.reverse.findSome? (Edit.put? size a)).getD (m.get a) := by
  -- from the end, because the last edit decides
  induction es using List.reverseRecOn with
  | nil => rfl
  | append_singleton es e ih =>
    rw [editAll_concat, get_edit _ _ h, ih, List.reverse_append, List.reverse_singleton,
      List.singleton_append, List.findSome?_cons]
    cases e.put? size a <;> rfl

lemma getElem?_toList (m : Ram size) (k : Nat) :
    m.toList[k]? = if k < size then some (m.get k) else none := by
  rw [toList, Vector.getElem?_toList, get]
  split
  · rename_i h
    simp [h]
  · rename_i h
    simp [h]

/-- Loading where there is room replaces a stretch of memory by one that is as long. -/
lemma toList_blit (m : Ram size) {a : Nat} {bs : List UInt8} (h : a + bs.length ≤ size) :
    (m.blit a bs).toList = m.toList.take a ++ bs ++ m.toList.drop (a + bs.length) := by
  have hm : m.toList.length = size := m.cells.length_toList
  have ht : (m.toList.take a).length = a := List.length_take_of_le (by omega)
  apply List.ext_getElem?
  intro k
  rw [getElem?_toList, List.append_assoc, List.getElem?_append, List.getElem?_append, ht]
  by_cases hk : k < a
  · rw [if_pos (by omega), if_pos hk, m.get_blit_of_outside (.inl hk), List.getElem?_take_of_lt hk,
      getElem?_toList, if_pos (by omega)]
  · by_cases hb : k - a < bs.length
    · obtain ⟨j, rfl⟩ := Nat.exists_eq_add_of_le (Nat.le_of_not_lt hk)
      rw [Nat.add_sub_cancel_left] at hb ⊢
      rw [if_pos (by omega), if_neg hk, if_pos hb, m.get_blit_add (by omega) hb,
        List.getElem?_eq_getElem hb]
    · have hn : a + bs.length + (k - a - bs.length) = k := by omega
      rw [if_neg hk, if_neg hb, List.getElem?_drop, getElem?_toList, hn,
        m.get_blit_of_outside (by omega)]

lemma read_eq (m : Ram size) {a : Int} (h : Covers size a 1) : m.read a = .ok (m.get a.toNat) :=
  if_pos h

lemma map_ok_bytes (m : Ram size) {a h : Int} (hc : Covers size a h) :
    (m.bytes ⟨a.toNat, h.toNat⟩).map Except.ok =
      (List.range h.toNat).map fun j : Nat => m.read (a + j) := by
  rw [bytes, List.map_map]
  apply List.map_congr_left
  intro j hj
  have hl : j < h.toNat := List.mem_range.mp hj
  have ha : (a + j).toNat = a.toNat + j := by omega
  rw [m.read_eq ⟨by omega, by decide, by omega⟩, ha]
  rfl

/-- `m` is what a history of edits has made of blank memory. -/
structure Records (m : Ram size) (es : List Edit) : Prop where
  length : m.toList.length = size
  cells : ∀ a < size, m.read a = .ok ((es.reverse.findSome? (Edit.put? size a)).getD 0)
  accepts : ∀ e : Edit, e.Fits size → ∃ k, m.edit e = .ok k ∧ m.editAll [e] = k ∧
    k.toList = m.toList.take e.address.toNat ++ e.data ++
      m.toList.drop (e.address.toNat + e.data.length)
  refuses : ∀ e : Edit, ¬ e.Fits size →
    m.edit e = .error (.memoryAccess e.address e.data.length size) ∧ m.editAll [e] = m
  spans : ∀ a h : Int, Covers size a h → ∃ s, m.span a h = .ok s ∧ ∀ later,
    ((m.editAll later).bytes s).map Except.ok =
      (List.range h.toNat).map fun j : Nat => (m.editAll later).read (a + j)
  spans_refused : ∀ a h : Int, ¬ Covers size a h → m.span a h = .error (.memoryAccess a h size)
  fetches : ∀ a : Int, Covers size a 2 → ∃ hi lo w, m.read a = .ok hi ∧ m.read (a + 1) = .ok lo ∧
    m.fetch a = .ok w ∧ w.toNat = 256 * hi.toNat + lo.toNat
  fetches_refused : ∀ a : Int, ¬ Covers size a 2 → m.fetch a = .error (.memoryAccess a 2 size)

/-- After every history of edits memory has its size, each cell holds the byte of the last edit that
covered it, and exactly the accesses that lie in memory succeed. -/
theorem memory_records_edits (size : Nat) (es : List Edit) :
    ((zero : Ram size).editAll es).Records es := by
  generalize hm : (zero : Ram size).editAll es = m
  refine ⟨m.cells.length_toList, ?_, ?_, ?_, ?_, fun a h hc => if_neg hc, ?_,
    fun a hc => if_neg hc⟩
  · intro a ha
    rw [read_of_lt _ ha, ← hm, get_editAll _ _ ha, get_zero]
  · intro e he
    refine ⟨_, edit_of_fits m he, ?_, toList_blit m ?_⟩
    · rw [editAll, List.foldl_cons, edit_of_fits m he]
      rfl
    · obtain ⟨ha, -, hl⟩ := he
      omega
  · intro e he
    refine ⟨edit_of_not_fits m he, ?_⟩
    rw [editAll, List.foldl_cons, edit_of_not_fits m he]
    rfl
  · intro a h hc
    exact ⟨_, if_pos hc, fun later => map_ok_bytes _ hc⟩
  · intro a hc
    obtain ⟨w, hw, he⟩ := m.fetch_eq hc
    have ha : (a + 1).toNat = a.toNat + 1 := by omega
    refine ⟨_, _, w, m.read_eq (by omega), m.read_eq (by omega), hw, ?_⟩
    rw [he, ha]
    rfl

example : ((zero : Ram 4).editAll
    [.load 0 [1, 2, 3], .write 1 (-1), .load 2 [7, 8, 9], .write 4 5]).toList = [1, 255, 3, 0] := by
  decide

end Chip8.Ram
