import Chip8.Proofs.Course
import Chip8.Proofs.Faults

/-! Two consoles in lockstep. Cores that are about to execute the same instruction stay related, and
answer the same, if this instruction relates what it leaves of them. -/

namespace Chip8

namespace Core

variable {R : Core → Core → Prop} {c d : Core}

lemma cycle_congr (hp : c.pc = d.pc) (hw : c.Fetchable → c.word = d.word)
    (hs : (∀ i, ¬ c.At i) → R c d)
    (hi : ∀ i, c.At i → c.obstacle i = d.obstacle i ∧ R (c.after i) (d.after i)) :
    c.cycle.cause? = d.cycle.cause? ∧ R c.cycle.core d.cycle.core := by
  have hf : c.Fetchable ↔ d.Fetchable := by rw [Fetchable, Fetchable, hp]
  rcases c.fetch_cases with h | ⟨h, hu⟩ | ⟨i, h⟩
  · rw [cycle_of_not_fetchable h, cycle_of_not_fetchable (mt hf.mpr h), hp]
    exact ⟨rfl, hs fun i hi => h hi.1⟩
  · have he := hw h
    rw [cycle_of_undefined h hu, cycle_of_undefined (hf.mp h) (he ▸ hu), hp, he]
    exact ⟨rfl, hs fun i hi => hu hi.defined⟩
  · have hd : d.At i := ⟨hf.mp h.1, (hw h.1).symm.trans h.2⟩
    rw [cause?_cycle h, cause?_cycle hd, core_cycle h, core_cycle hd]
    exact hi i h

end Core

namespace Console

variable {R : Core → Core → Prop} {c d : Console}

lemma step_congr (hf : c.fault = d.fault) (hs : ∀ f, c.fault = some f → R c.core d.core)
    (hc : c.fault = none → c.core.cycle.cause? = d.core.cycle.cause? ∧
      R c.core.cycle.core d.core.cycle.core) :
    c.step.result = d.step.result ∧ c.step.console.fault = d.step.console.fault ∧
      R c.step.console.core d.step.console.core := by
  cases h : c.fault with
  | some f =>
    have hd : d.fault = some f := hf ▸ h
    simp only [step, h, hd]
    exact ⟨rfl, hf, hs f h⟩
  | none =>
    have hd : d.fault = none := hf ▸ h
    obtain ⟨he, hr⟩ := hc h
    simp only [step, h, hd, advance_eq, he]
    exact ⟨trivial, trivial, hr⟩

end Console

end Chip8
