import Chip8.Proofs.Calls
import Chip8.Proofs.Lockstep

/-! Schedules of steps and ticks. A tick can be moved past every cycle that neither reads nor sets a
timer, so when a run has no other cycles it does not matter how its ticks are spread over it. -/

namespace Chip8

/-- The instruction reads or sets a timer. -/
def Instr.Timed : Instr → Prop
  | .getDelay _ | .setDelay _ | .setSound _ => True
  | _ => False

namespace Core

def tick (c : Core) : Core :=
  { c with timers := c.timers.tick }

variable {c : Core} {i : Instr}

lemma obstacle_tick (c : Core) (i : Instr) : c.tick.obstacle i = c.obstacle i := by
  cases i <;> rfl

lemma obstacle_of_timed (h : i.Timed) : c.obstacle i = none := by
  cases i with
  | getDelay x | setDelay x | setSound x => rfl
  | _ => exact h.elim

lemma after_tick (h : ¬ i.Timed) : c.tick.after i = (c.after i).tick := by
  cases i with
  | getDelay x | setDelay x | setSound x => exact absurd trivial h
  | _ => rfl

lemma cycle_tick (h : ∀ i, c.At i → ¬ i.Timed) :
    c.cycle.cause? = c.tick.cycle.cause? ∧ c.tick.cycle.core = c.cycle.core.tick := by
  apply cycle_congr (R := fun k l => l = k.tick)
  · rfl
  · exact fun _ => rfl
  · exact fun _ => rfl
  · intro i hi
    exact ⟨(c.obstacle_tick i).symm, after_tick (h i hi)⟩

end Core

namespace Console

variable {c : Console} {ops other : List Operation}

/-- `n` steps and `m` ticks in any order. -/
def Schedule (n m : Nat) (ops : List Operation) : Prop :=
  ops.Perm (.replicate n .step ++ .replicate m .tick)

/-- What the steps of a run are told, in order. -/
def stepped (c : Console) : List Operation → List (Except Refusal Answer × List Notice)
  | [] => []
  | .step :: ops =>
    ((c.perform .step).result, (c.perform .step).notices) :: (c.perform .step).console.stepped ops
  | op :: ops => (c.perform op).console.stepped ops

/-- Two runs complete the same instructions, tell their steps the same and end alike. -/
structure Concur (c : Console) (ops other : List Operation) : Prop where
  executed : c.executed (c.course ops) = c.executed (c.course other)
  stepped : c.stepped ops = c.stepped other
  console : c.performAll ops = c.performAll other

lemma completes_tick (c : Console) : c.tick.completes .cycle = c.completes .cycle := by
  apply Option.ext
  intro i
  rw [completes_eq_some_iff, completes_eq_some_iff]
  exact and_congr_right fun _ => and_congr_right fun _ =>
    Eq.congr_left (c.core.obstacle_tick i)

lemma advance_tick (h : ∀ i, c.core.At i → ¬ i.Timed) :
    c.tick.advance = (c.advance.1, c.advance.2.tick) := by
  obtain ⟨hc, hk⟩ := c.core.cycle_tick h
  rw [advance_eq, advance_eq, hc]
  exact congrArg (fun d => (_, Console.mk d _)) hk

lemma advanceNotices_tick (h : ∀ i, c.core.At i → ¬ i.Timed) :
    c.tick.advanceNotices = c.advanceNotices := by
  have hc : c.core.cycle.cause? = c.tick.core.cycle.cause? := (c.core.cycle_tick h).1
  rw [advanceNotices, ← hc]
  rfl

lemma step_tick (h : ∀ i, c.completes .cycle = some i → ¬ i.Timed) :
    c.tick.step = { c.step with console := c.step.console.tick } := by
  have ht : c.tick.fault = c.fault := rfl
  cases hf : c.fault with
  | some f =>
    simp only [step, ht, hf]
    rfl
  | none =>
    have hq (i : Instr) (hi : c.core.At i) : ¬ i.Timed := fun hi' =>
      h i (completes_of_at hf hi (Core.obstacle_of_timed hi')) hi'
    simp only [step, ht, hf, advance_tick hq, advanceNotices_tick hq]

lemma Concur.refl (c : Console) (ops : List Operation) : c.Concur ops ops :=
  ⟨rfl, rfl, rfl⟩

lemma Concur.trans {third : List Operation} (h : c.Concur ops other) (k : c.Concur other third) :
    c.Concur ops third where
  executed := h.executed.trans k.executed
  stepped := h.stepped.trans k.stepped
  console := h.console.trans k.console

lemma Concur.cons {op : Operation} (h : (c.perform op).console.Concur ops other) :
    c.Concur (op :: ops) (op :: other) where
  executed := by rw [executed_course_cons, executed_course_cons, h.executed]
  stepped := by cases op <;> simp only [Console.stepped, h.stepped]
  console := h.console

/-- A tick and a step change places. -/
lemma concur_swap (ops : List Operation) (h : ∀ i, c.completes .cycle = some i → ¬ i.Timed) :
    c.Concur (.step :: .tick :: ops) (.tick :: .step :: ops) := by
  have hs : c.tick.step = { c.step with console := c.step.console.tick } := step_tick h
  have hp : c.tick.perform .step =
      { c.perform .step with console := c.step.console.tick } :=
    congrArg (Reply.map Answer.flag) hs
  have hm : c.tick.move .cycle = c.step.console.tick := by
    rw [← step_console, hs]
  constructor
  · change (c.completes .cycle).toList ++
        (c.move .cycle).tick.executed (c.step.console.tick.course ops) =
      (c.tick.completes .cycle).toList ++
        (c.tick.move .cycle).executed ((c.tick.perform .step).console.course ops)
    rw [completes_tick, hm, hp, step_console]
  · change ((c.perform .step).result, (c.perform .step).notices) ::
        c.step.console.tick.stepped ops =
      ((c.tick.perform .step).result, (c.tick.perform .step).notices) ::
        (c.tick.perform .step).console.stepped ops
    rw [hp]
  · change c.step.console.tick.performAll ops = (c.tick.perform .step).console.performAll ops
    rw [hp]

lemma Concur.symm (h : c.Concur ops other) : c.Concur other ops :=
  ⟨h.executed.symm, h.stepped.symm, h.console.symm⟩

lemma concur_of_perm (h : ops.Perm other) (hs : ∀ op ∈ ops, op = .step ∨ op = .tick)
    (hq : ∀ i ∈ c.executed (c.course ops), ¬ i.Timed) : c.Concur ops other := by
  induction h generalizing c with
  | nil => exact .refl c []
  | cons op h ih =>
    rw [executed_course_cons] at hq
    exact (ih (fun o ho => hs o (List.mem_cons_of_mem op ho))
      fun i hi => hq i (List.mem_append_right _ hi)).cons
  | swap a b ops =>
    have hb := hs b List.mem_cons_self
    have ha := hs a (List.mem_cons_of_mem b List.mem_cons_self)
    rcases hb with rfl | rfl <;> rcases ha with rfl | rfl
    · exact .refl c _
    · refine concur_swap ops fun i hi => hq i ?_
      exact List.mem_append_left _ (Option.mem_toList.mpr hi)
    · refine (concur_swap ops fun i hi => hq i ?_).symm
      rw [← completes_tick] at hi
      exact List.mem_append_right _ (List.mem_append_left _ (Option.mem_toList.mpr hi))
    · exact .refl c _
  | trans h _ ih ih' =>
    have hk := ih hs hq
    refine hk.trans (ih' ?_ ?_)
    · exact fun o ho => hs o (h.mem_iff.mpr ho)
    · rwa [← hk.executed]

lemma Schedule.mem {n m : Nat} (h : Schedule n m ops) : ∀ op ∈ ops, op = .step ∨ op = .tick := by
  intro op ho
  rcases List.mem_append.mp (h.mem_iff.mp ho) with hm | hm
  · exact .inl (List.eq_of_mem_replicate hm)
  · exact .inr (List.eq_of_mem_replicate hm)

/-- How ticks are spread over steps does not matter in a run that completes no instruction which
reads or sets a timer: every other schedule completes the same instructions, tells its steps the
same, and leaves the same console. -/
theorem schedules_concur {n m : Nat} (h : Schedule n m ops) (k : Schedule n m other)
    (hq : ∀ i ∈ c.executed (c.course ops), ¬ i.Timed) :
    c.executed (c.course ops) = c.executed (c.course other) ∧
      c.stepped ops = c.stepped other ∧ c.performAll ops = c.performAll other := by
  obtain ⟨he, hs, hc⟩ := concur_of_perm (h.trans k.symm) h.mem hq
  exact ⟨he, hs, hc⟩

/-- Adds one to a register and then returns, which no call has prepared. -/
def counting : Console := ⟨{
  settings := .standard
  ram := Ram.zero.blit 0x200 [0x70, 0x01, 0x00, 0xEE]
  bank := RegisterBank.start 0x200
  stack := CallStack.empty
  panel := Panel.fresh
  timers := ⟨1, 9⟩
  keypad := Keypad.released }, none⟩

theorem schedules_concur_counting :
    let early : List Operation := [.tick, .tick, .step, .step]
    let spread : List Operation := [.step, .tick, .step, .tick]
    Schedule 2 2 early ∧ Schedule 2 2 spread ∧
      counting.executed (counting.course spread) = [.add 0 1] ∧
      (counting.performAll spread).fault = some .stackUnderflow ∧
      (counting.performAll spread).core.timers = ⟨0, 7⟩ := by
  intro early spread
  have he : Schedule 2 2 early :=
    (List.perm_append_comm : ([.tick, .tick] ++ [.step, .step] : List Operation).Perm _)
  have hs : Schedule 2 2 spread := .cons _ (.swap _ _ _)
  have hx : counting.executed (counting.course early) = [.add 0 1] := by decide +kernel
  have hf : (counting.performAll early).fault = some .stackUnderflow := by decide +kernel
  have ht : (counting.performAll early).core.timers = ⟨0, 7⟩ := by decide +kernel
  obtain ⟨hi, -, hc⟩ := schedules_concur he hs (by
    rw [hx]
    intro i hi
    obtain rfl := List.mem_singleton.mp hi
    exact id)
  rw [← hi, ← hc]
  exact ⟨he, hs, hx, hf, ht⟩

end Console

end Chip8
