import Chip8.Console.Operation
import Mathlib.Tactic.Common

/-! Records of faults among all that a console reports. A cycle that stops leaves one, and nothing
else that an instruction reports is an error. -/

namespace Chip8

namespace Notice

/-- The level and the source that captured faults are recorded with. -/
def isMachineError (n : Notice) : Bool :=
  n.level == .error && n.source == "chipemu.machine"

def errors (ns : List Notice) : List Notice :=
  ns.filter isMachineError

lemma errors_append (ns ms : List Notice) : errors (ns ++ ms) = errors ns ++ errors ms :=
  List.filter_append ns ms

lemma errors_reverse (ns : List Notice) : errors ns.reverse = (errors ns).reverse :=
  List.filter_reverse

lemma errors_eq_nil {ns : List Notice} (h : ∀ n ∈ ns, n.level ≠ .error) : errors ns = [] := by
  refine List.filter_eq_nil_iff.mpr ?_
  intro n hn
  rw [isMachineError, beq_eq_false_iff_ne.mpr (h n hn)]
  exact Bool.false_ne_true

end Notice

namespace Core

open Notice

lemma level_of_reports {c : Core} {i : Instr} {n : Notice} (h : n ∈ c.reports i) :
    n.level = .debug := by
  cases i with
  | ret =>
    obtain ⟨a, -, rfl⟩ := List.mem_map.mp h
    rfl
  | call t =>
    obtain rfl := List.mem_singleton.mp h
    rfl
  | awaitKey x =>
    obtain ⟨k, -, rfl⟩ := List.mem_map.mp h
    rfl
  | _ => cases h

lemma level_of_notices {c : Core} {n : Notice} (h : n ∈ c.notices) : n.level = .debug := by
  rw [notices] at h
  cases hf : c.ram.fetch c.pc with
  | error f =>
    rw [hf] at h
    cases h
  | ok w =>
    simp only [hf, List.mem_cons] at h
    rcases h with rfl | h
    · rfl
    · cases hd : Instr.decode ⟨w.toNat⟩ with
      | none =>
        rw [hd] at h
        cases h
      | some i =>
        rw [hd] at h
        exact level_of_reports h

lemma errors_notices (c : Core) : errors c.notices = [] := by
  refine errors_eq_nil ?_
  intro n hn
  rw [level_of_notices hn]
  exact Level.noConfusion

end Core

namespace Console

open Notice

def log (c : Console) (ops : List Operation) : List Notice :=
  (c.replies ops).flatMap Reply.notices

lemma errors_advance (c : Console) :
    errors c.advanceNotices = c.core.cycle.cause?.toList.map .halted := by
  rw [advanceNotices, errors_append, Core.errors_notices]
  cases c.core.cycle.cause? <;> rfl

end Console

end Chip8
