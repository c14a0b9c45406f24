import Chip8.Proofs.Calls
import Chip8.Proofs.Lockstep

/-! Runs of cores that may differ in their devices. A device decides nothing in a run that completes
no instruction which reads it, and no instruction reads the sound timer or the mark of the panel. -/

namespace Chip8

inductive Device
  | delay
  | sound
  | keypad
  | screen
  | mark

namespace Instr

def reads : Instr → Device → Prop
  | .getDelay _, .delay => True
  | .skipDown _, .keypad | .skipUp _, .keypad | .awaitKey _, .keypad => True
  | .draw _ _ _, .screen => True
  | _, _ => False

lemma not_reads_sound (i : Instr) : ¬ i.reads .sound := by
  cases i <;> exact id

lemma not_reads_mark (i : Instr) : ¬ i.reads .mark := by
  cases i <;> exact id

end Instr

namespace Core

def Shares (c d : Core) : Device → Prop
  | .delay => c.timers.delay = d.timers.delay
  | .sound => c.timers.sound = d.timers.sound
  | .keypad => c.keypad = d.keypad
  | .screen => c.panel.screen = d.panel.screen
  | .mark => c.panel.dirty = d.panel.dirty

/-- The cores agree on all but their devices. -/
structure Alike (c d : Core) : Prop where
  settings : c.settings = d.settings
  ram : c.ram = d.ram
  bank : c.bank = d.bank
  stack : c.stack = d.stack

variable {c d : Core} {i : Instr}

lemma Alike.eq (h : c.Alike d) :
    d = { c with panel := d.panel, timers := d.timers, keypad := d.keypad } := by
  obtain ⟨hs, hr, hb, hk⟩ := h
  rw [hs, hr, hb, hk]

lemma Alike.pc (h : c.Alike d) : c.pc = d.pc :=
  congrArg RegisterBank.pc h.bank

lemma Alike.word (h : c.Alike d) : c.word = d.word := by
  rw [Core.word, Core.word, h.ram, h.pc]

lemma Alike.obstacle (h : c.Alike d) (i : Instr) : c.obstacle i = d.obstacle i := by
  rw [h.eq]
  cases i <;> rfl

lemma Alike.ramAfter (h : c.Alike d) (i : Instr) : c.ramAfter i = d.ramAfter i := by
  rw [h.eq]
  cases i <;> rfl

lemma Alike.stackAfter (h : c.Alike d) (i : Instr) : c.stackAfter i = d.stackAfter i := by
  rw [h.eq]
  cases i <;> rfl

lemma Alike.target (h : c.Alike d) (hk : i.reads .keypad → c.keypad = d.keypad) :
    c.target i = d.target i := by
  rw [h.eq]
  cases i with
  | skipDown x | skipUp x | awaitKey x => simp only [Core.target, hk trivial]; rfl
  | _ => rfl

section

variable (h : c.Alike d) (hr : c.obstacle i = none → ∀ a, i.reads a → c.Shares d a)
include h hr

lemma Alike.bankAfter : c.bankAfter i = d.bankAfter i := by
  rw [h.eq]
  cases i with
  | getDelay x =>
    have ht : c.timers.delay = d.timers.delay := hr rfl .delay trivial
    simp only [Core.bankAfter, ht]
  | awaitKey x =>
    have hk : c.keypad = d.keypad := hr rfl .keypad trivial
    simp only [Core.bankAfter, hk]
  | draw x y n =>
    by_cases hn : c.bank.i.toNat + n ≤ 4096
    · have hs : c.panel.screen = d.panel.screen :=
        hr ((c.obstacle_draw_iff x y n).mpr hn) .screen trivial
      simp only [Core.bankAfter, if_pos hn, Panel.paint, hs]
      rfl
    · simp only [Core.bankAfter, if_neg hn]
  | _ => rfl

lemma Alike.bank_after : (c.after i).bank = (d.after i).bank := by
  have hb := h.bankAfter hr
  simp only [Core.after, ← h.obstacle i]
  cases ho : c.obstacle i with
  | none => simp only [hb, h.target (hr ho .keypad)]
  | some f => exact hb

lemma Alike.after : (c.after i).Alike (d.after i) where
  settings := h.settings
  ram := h.ramAfter i
  bank := h.bank_after hr
  stack := h.stackAfter i

end

lemma Alike.shares_after (h : c.Alike d) {a : Device} (ha : c.Shares d a) :
    (c.after i).Shares (d.after i) a := by
  rw [h.eq]
  cases a with
  | keypad => exact ha
  | delay =>
    cases i with
    | setDelay x => rfl
    | _ => exact ha
  | sound =>
    cases i with
    | setSound x => rfl
    | _ => exact ha
  | screen =>
    cases i with
    | clear => rfl
    | draw x y n =>
      have hs : c.panel.screen = d.panel.screen := ha
      simp only [Shares, Core.after, panelAfter, Panel.paint, hs]
      split
      · rfl
      · exact hs
    | _ => exact ha
  | mark =>
    cases i with
    | clear => rfl
    | draw x y n =>
      simp only [Shares, Core.after, panelAfter]
      split
      · rfl
      · exact ha
    | _ => exact ha

/-- A step depends on a device only if it completes an instruction that reads it. -/
lemma Alike.cycle (h : c.Alike d)
    (hr : ∀ i, c.At i → c.obstacle i = none → ∀ a, i.reads a → c.Shares d a) :
    c.cycle.cause? = d.cycle.cause? ∧ c.cycle.core.Alike d.cycle.core ∧
      ∀ a, c.Shares d a → c.cycle.core.Shares d.cycle.core a := by
  apply cycle_congr (R := fun k l => k.Alike l ∧ ∀ a, c.Shares d a → k.Shares l a)
  · exact h.pc
  · intro _
    exact h.word
  · intro _
    exact ⟨h, fun a ha => ha⟩
  · intro i hi
    exact ⟨h.obstacle i, h.after (hr i hi), fun a ha => h.shares_after ha⟩

end Core

namespace Console

structure Alike (c d : Console) : Prop where
  core : c.core.Alike d.core
  fault : c.fault = d.fault

variable {c d : Console}

lemma Alike.step (h : c.Alike d)
    (hr : ∀ i, c.completes .cycle = some i → ∀ a, i.reads a → c.core.Shares d.core a) :
    c.step.result = d.step.result ∧ c.step.console.Alike d.step.console ∧
      ∀ a, c.core.Shares d.core a → c.step.console.core.Shares d.step.console.core a := by
  obtain ⟨hq, hf, ha, hs⟩ := step_congr
    (R := fun k l => k.Alike l ∧ ∀ a, c.core.Shares d.core a → k.Shares l a) h.fault
    (fun _ _ => ⟨h.core, fun a ha => ha⟩) fun hf =>
      h.core.cycle fun i hi ho => hr i (completes_of_at hf hi ho)
  exact ⟨hq, ⟨ha, hf⟩, hs⟩

lemma Alike.steps (h : c.Alike d) (n : Nat)
    (hr : ∀ i ∈ c.executed (.replicate n .cycle), ∀ a, i.reads a → c.core.Shares d.core a) :
    (c.replies (.replicate n .step)).map Reply.result =
        (d.replies (.replicate n .step)).map Reply.result ∧
      (c.performAll (.replicate n .step)).Alike (d.performAll (.replicate n .step)) ∧
      ∀ a, c.core.Shares d.core a →
        (c.performAll (.replicate n .step)).core.Shares
          (d.performAll (.replicate n .step)).core a := by
  induction n generalizing c d with
  | zero => exact ⟨rfl, h, fun a ha => ha⟩
  | succ n ih =>
    rw [List.replicate_succ, executed, ← step_console] at hr
    obtain ⟨hq, hk, hs⟩ := h.step fun i hi =>
      hr i (List.mem_append_left _ (Option.mem_toList.mpr hi))
    -- what is shared stays shared, so the rest of the run needs nothing new
    obtain ⟨hqs, hks, hss⟩ := ih hk fun i hi a ha =>
      hs a (hr i (List.mem_append_right _ hi) a ha)
    refine ⟨?_, hks, fun a ha => hss a (hs a ha)⟩
    rw [List.replicate_succ, replies, replies, List.map_cons, List.map_cons]
    exact congrArg₂ List.cons (congrArg (Except.map Answer.flag) hq) hqs

end Console

end Chip8
