import Chip8.Proofs.Execution

/-! The fault law: in which states a cycle stops, and for which fault. -/

namespace Chip8.Core

/-- A cycle faults when it cannot fetch, when what it fetches is no instruction, or when the
instruction meets an obstacle. -/
inductive Faults (c : Core) : Fault → Prop
  | fetch : c.pc < 0 ∨ 4096 < c.pc + 2 → Faults c (.memoryAccess c.pc 2 4096)
  | word : c.Fetchable → ¬ Opcode.Defined c.word → Faults c (.unknownWord c.word c.pc)
  | instruction {i : Instr} {f : Fault} : c.At i → c.obstacle i = some f → Faults c f

variable {c : Core} {f : Fault}

lemma not_fetchable_iff : ¬ c.Fetchable ↔ c.pc < 0 ∨ 4096 < c.pc + 2 := by
  rw [Fetchable]
  omega

lemma At.defined {i : Instr} (h : c.At i) : Opcode.Defined c.word :=
  Instr.exists_word_iff.mp ⟨i, h.2⟩

lemma faults_iff_of_not_fetchable (h : ¬ c.Fetchable) :
    c.Faults f ↔ f = .memoryAccess c.pc 2 4096 := by
  constructor
  · intro hf
    cases hf with
    | fetch _ => rfl
    | word hp _ => exact absurd hp h
    | instruction hi _ => exact absurd hi.1 h
  · rintro rfl
    exact .fetch (not_fetchable_iff.mp h)

lemma faults_iff_of_undefined (h : c.Fetchable) (hw : ¬ Opcode.Defined c.word) :
    c.Faults f ↔ f = .unknownWord c.word c.pc := by
  constructor
  · intro hf
    cases hf with
    | fetch hp => exact absurd h (not_fetchable_iff.mpr hp)
    | word _ _ => rfl
    | instruction hi _ => exact absurd hi.defined hw
  · rintro rfl
    exact .word h hw

lemma faults_iff_of_at {i : Instr} (h : c.At i) : c.Faults f ↔ c.obstacle i = some f := by
  constructor
  · intro hf
    cases hf with
    | fetch hp => exact absurd h.1 (not_fetchable_iff.mpr hp)
    | word _ hw => exact absurd h.defined hw
    | instruction hj ho => rwa [h.unique hj]
  · exact .instruction h

lemma cause?_cycle_iff (c : Core) (f : Fault) : c.cycle.cause? = some f ↔ c.Faults f := by
  rcases c.fetch_cases with h | ⟨h, hw⟩ | ⟨i, h⟩
  · rw [cycle_of_not_fetchable h, faults_iff_of_not_fetchable h]
    exact Option.some_inj.trans eq_comm
  · rw [cycle_of_undefined h hw, faults_iff_of_undefined h hw]
    exact Option.some_inj.trans eq_comm
  · rw [cause?_cycle h, faults_iff_of_at h]

lemma exists_done_iff (o : Outcome) : (∃ d, o = .done d) ↔ ∀ f, o.cause? ≠ some f := by
  cases o with
  | done d => simp [Outcome.cause?]
  | failed d f => simp [Outcome.cause?]

/-- A cycle stops exactly for the faults of the law, and completes in every other state. -/
theorem cycle_fault_law (c : Core) :
    (∀ f, c.cycle.cause? = some f ↔ c.Faults f) ∧
      ((∃ d, c.cycle = .done d) ↔ ∀ f, ¬ c.Faults f) := by
  refine ⟨c.cause?_cycle_iff, ?_⟩
  rw [exists_done_iff]
  exact forall_congr' fun f => not_congr (c.cause?_cycle_iff f)

end Chip8.Core
