import Chip8.Proofs.Course
import Chip8.Window
import Mathlib.Data.List.Induction

/-! Host events and the keypad. Each pad key is as the last heeded event of its host key left it;
what stands behind an event that ends the session is never heeded. -/

namespace Chip8

namespace HostEvent

/-- The events before the first that ends the session. -/
def heeded (batch : List HostEvent) : List HostEvent :=
  batch.takeWhile fun e => !e.ends

/-- The host key that an event is about, and whether it goes down. -/
def key? : HostEvent → Option (Int × Bool)
  | keyDown key => some (key, true)
  | keyUp key => some (key, false)
  | quit | interrupt | other => none

/-- Whether an event brings this host key down or up. -/
def moves? (host : Int) (e : HostEvent) : Option Bool :=
  e.key?.bind fun (key, down) => if key = host then some down else none

/-- What an event asks of a console, if its host key is one of the pad's. -/
def operation? (e : HostEvent) : Option Operation :=
  e.key?.bind fun (key, down) => (Keypad.ofHostKey? key).map fun k : Key =>
    if down then .press (k : Nat) else .release (k : Nat)

end HostEvent

namespace Keypad

variable {host : Int} {k : Key}

/-- No two keys of the pad share a host key. -/
lemma ofHostKey?_eq_some_iff : ofHostKey? host = some k ↔ hostKeys.get k = host := by
  constructor
  · intro h
    have hb : (hostKeys.get k == host) = true :=
      List.find?_some (p := fun k => hostKeys.get k == host) h
    exact beq_iff_eq.mp hb
  · rintro rfl
    revert k
    decide

lemma ofHostKey?_eq_none_iff : ofHostKey? host = none ↔ ∀ k, hostKeys.get k ≠ host := by
  rw [Option.eq_none_iff_forall_ne_some]
  exact forall_congr' fun k => not_congr ofHostKey?_eq_some_iff

lemma set_natCast (p : Keypad) (k : Key) (down : Bool) :
    p.set (k : Nat) down = .ok (p.put k down) := by
  rw [set, key, dif_pos (by omega)]
  rfl

lemma down_put (p : Keypad) (k l : Key) (down : Bool) :
    (p.put k down).down l = if k = l then down else p.down l :=
  down_set (p.set_natCast k down) l

end Keypad

namespace Console

open HostEvent

/-- `d` is what the events make of `c`: each key is as the last event of its host key says, nothing
else has changed, and every request to the pad was granted. -/
structure Heeds (c d : Console) (es : List HostEvent) : Prop where
  keys : ∀ k, d.core.keypad.down k =
    (es.reverse.findSome? (moves? (Keypad.hostKeys.get k))).getD (c.core.keypad.down k)
  rest : d = c.move (.keys d.core.keypad)
  performs : d = c.performAll (es.filterMap operation?)
  granted : ∀ r ∈ c.replies (es.filterMap operation?), r.result = .ok .nothing

/-- The console after calls which each found a batch of events. -/
def handleAll (c : Console) (batches : List (List HostEvent)) : Console :=
  batches.foldl (fun d batch => (d.handle batch).2) c

variable {c d : Console} {e : HostEvent} {k : Key}

lemma perform_key (c : Console) (k : Key) (down : Bool) :
    c.perform (if down then .press (k : Nat) else .release (k : Nat)) =
      (c.move (.keys (c.core.keypad.put k down))).answer (.ok .nothing) := by
  have hs : c.setKey (k : Nat) down =
      (c.move (.keys (c.core.keypad.put k down))).answer (.ok ()) := by
    rw [setKey, Keypad.set_natCast]
    rfl
  have hp : c.perform (if down then .press (k : Nat) else .release (k : Nat)) =
      (c.setKey (k : Nat) down).map fun _ => .nothing := by
    cases down <;> rfl
  rw [hp, hs]
  rfl

/-- The console after an event that does not end the session. -/
def heed (c : Console) (e : HostEvent) : Console :=
  e.key?.elim c fun (key, down) => (c.touch key down).2

/-- An event does nothing, or it brings one key of the pad down or up. -/
lemma event_cases (e : HostEvent) :
    (e.operation? = none ∧ (∀ c : Console, c.heed e = c) ∧
      ∀ k, e.moves? (Keypad.hostKeys.get k) = none) ∨
    ∃ op j down, e.operation? = some op ∧
      (∀ c : Console, c.heed e = c.move (.keys (c.core.keypad.put j down)) ∧
        c.perform op = (c.heed e).answer (.ok .nothing)) ∧
      ∀ k, e.moves? (Keypad.hostKeys.get k) = if j = k then some down else none := by
  cases he : e.key? with
  | none =>
    refine .inl ⟨?_, ?_, ?_⟩ <;> simp only [operation?, heed, moves?, he] <;> intros <;> rfl
  | some p =>
    obtain ⟨host, down⟩ := p
    have hh (c : Console) : c.heed e = (c.touch host down).2 := by rw [heed, he]; rfl
    have hm (k : Key) : e.moves? (Keypad.hostKeys.get k) =
        if host = Keypad.hostKeys.get k then some down else none := by rw [moves?, he]; rfl
    have ho : e.operation? = (Keypad.ofHostKey? host).map fun k : Key =>
        if down then .press (k : Nat) else .release (k : Nat) := by rw [operation?, he]; rfl
    cases hk : Keypad.ofHostKey? host with
    | none =>
      refine .inl ⟨?_, ?_, ?_⟩
      · rw [ho, hk]
        rfl
      · intro c
        rw [hh, touch, hk]
      · intro k
        rw [hm, if_neg (Keypad.ofHostKey?_eq_none_iff.mp hk k).symm]
    | some j =>
      have hc (c : Console) : c.heed e = c.move (.keys (c.core.keypad.put j down)) := by
        rw [hh, touch, hk]
        rfl
      refine .inr ⟨if down then .press (j : Nat) else .release (j : Nat), j, down, ?_, ?_, ?_⟩
      · rw [ho, hk]
        rfl
      · intro c
        exact ⟨hc c, by rw [hc, perform_key]⟩
      · intro k
        have hj : host = Keypad.hostKeys.get k ↔ j = k := by
          rw [eq_comm, ← Keypad.ofHostKey?_eq_some_iff, hk, Option.some_inj]
        rw [hm, if_congr hj rfl rfl]

variable {es : List HostEvent}

lemma lastMove_concat (host : Int) (es : List HostEvent) (e : HostEvent) :
    (es ++ [e]).reverse.findSome? (moves? host) =
      (e.moves? host).or (es.reverse.findSome? (moves? host)) := by
  rw [List.reverse_append, List.reverse_singleton, List.singleton_append, List.findSome?_cons]
  cases e.moves? host <;> rfl

lemma Heeds.refl (c : Console) : c.Heeds c [] :=
  ⟨fun _ => rfl, rfl, rfl, fun _ hr => absurd hr List.not_mem_nil⟩

lemma Heeds.concat (h : c.Heeds d es) (e : HostEvent) : c.Heeds (d.heed e) (es ++ [e]) := by
  have hr := h.rest
  rcases event_cases e with ⟨ho, hd, hm⟩ | ⟨op, j, down, ho, hd, hm⟩
  · have hs : (es ++ [e]).filterMap operation? = es.filterMap operation? := by
      rw [List.filterMap_append, List.filterMap_cons_none ho, List.filterMap_nil, List.append_nil]
    rw [hd]
    refine ⟨?_, hr, hs ▸ h.performs, hs ▸ h.granted⟩
    intro k
    rw [lastMove_concat, hm, Option.none_or]
    exact h.keys k
  · obtain ⟨hc, hp⟩ := hd d
    have hs : (es ++ [e]).filterMap operation? = es.filterMap operation? ++ [op] := by
      rw [List.filterMap_append, List.filterMap_cons_some ho, List.filterMap_nil]
    refine ⟨?_, ?_, ?_, ?_⟩
    · intro k
      rw [lastMove_concat, hm, hc]
      refine (d.core.keypad.down_put j k down).trans ?_
      split
      · rfl
      · exact h.keys k
    · rw [hc, hr]
      rfl
    · rw [hs, performAll_append, ← h.performs]
      exact (congrArg Reply.console hp).symm
    · rw [hs, replies_append, ← h.performs]
      intro r hr
      rcases List.mem_append.mp hr with hr | hr
      · exact h.granted r hr
      · obtain rfl := List.mem_singleton.mp hr
        exact congrArg Reply.result hp

lemma heeds_foldl (c : Console) (es : List HostEvent) : c.Heeds (es.foldl heed c) es := by
  induction es using List.reverseRecOn with
  | nil => exact .refl c
  | append_singleton es e ih =>
    rw [List.foldl_append]
    exact ih.concat e

lemma handle_of_ends (h : e.ends = true) (batch : List HostEvent) :
    c.handle (e :: batch) = (false, c) := by
  rw [handle.eq_def]
  exact if_pos h

lemma handle_of_not_ends (h : e.ends = false) (batch : List HostEvent) :
    c.handle (e :: batch) = (c.heed e).handle batch := by
  cases e with
  | quit => cases h
  | keyDown key | keyUp key | interrupt | other => simp only [handle, h]; rfl

lemma handle_eq_foldl (c : Console) (batch : List HostEvent) :
    (c.handle batch).2 = (heeded batch).foldl heed c ∧
      ((c.handle batch).1 = true ↔ heeded batch = batch) := by
  induction batch generalizing c with
  | nil => exact ⟨rfl, iff_of_true rfl rfl⟩
  | cons e batch ih =>
    cases he : e.ends with
    | true =>
      have hn : heeded (e :: batch) = [] := List.takeWhile_cons_of_neg (by simp [he])
      rw [handle_of_ends he, hn]
      exact ⟨rfl, iff_of_false Bool.false_ne_true (List.cons_ne_nil e batch).symm⟩
    | false =>
      have hn : heeded (e :: batch) = e :: heeded batch := List.takeWhile_cons_of_pos (by simp [he])
      obtain ⟨hd, hs⟩ := ih (c.heed e)
      rw [handle_of_not_ends he, hn, List.cons.injEq, eq_self, true_and]
      exact ⟨hd, hs⟩

lemma handleAll_eq_foldl (c : Console) (batches : List (List HostEvent)) :
    c.handleAll batches = (batches.flatMap heeded).foldl heed c := by
  induction batches generalizing c with
  | nil => rfl
  | cons batch batches ih =>
    rw [List.flatMap_cons, List.foldl_append, ← (c.handle_eq_foldl batch).1, ← ih]
    rfl

/-- A call heeds the events before the first that ends the session, and tells whether these are all;
the others are lost to every later call. Of the events heeded the last for each host key decides. -/
theorem events_reach_keypad (c : Console) :
    (∀ batch, ((c.handle batch).1 = true ↔ heeded batch = batch) ∧
      c.Heeds (c.handle batch).2 (heeded batch)) ∧
    ∀ batches, c.Heeds (c.handleAll batches) (batches.flatMap heeded) := by
  constructor
  · intro batch
    obtain ⟨hd, hs⟩ := c.handle_eq_foldl batch
    rw [hd]
    exact ⟨hs, c.heeds_foldl _⟩
  · intro batches
    rw [handleAll_eq_foldl]
    exact c.heeds_foldl _

end Console

end Chip8
