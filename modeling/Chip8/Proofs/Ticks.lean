import Chip8.Proofs.Calls
import Chip8.Proofs.Halting

/-! The timers through their history. A timer shows what an instruction last set it to, less the
ticks since, and neither the other timer nor the number of cycles has a part in it. -/

namespace Chip8

inductive Timer
  | delay
  | sound

/-- The instruction that sets a timer from a register. -/
def Timer.setter : Timer → Register → Instr
  | delay => .setDelay
  | sound => .setSound

def Countdown.left (t : Countdown) : Timer → Nat
  | .delay => t.delay.toNat
  | .sound => t.sound.toNat

def Move.isTick : Move → Bool
  | .tick => true
  | _ => false

/-- The timers tick when the host says so, and with every frame that is not refused. -/
def Operation.ticks : Operation → Except Refusal Answer → Bool
  | .tick, _ => true
  | .playFrame, .ok _ => true
  | _, _ => false

variable {k : Timer}

lemma Countdown.left_tick (t : Countdown) (k : Timer) : t.tick.left k = t.left k - 1 := by
  cases k <;> exact toNat_lower _

namespace Core

variable {c : Core} {i : Instr} {x : Register}

lemma obstacle_setter (c : Core) (k : Timer) (x : Register) : c.obstacle (k.setter x) = none := by
  cases k <;> rfl

lemma left_timersAfter (h : ∀ x, i ≠ k.setter x) : (c.timersAfter i).left k = c.timers.left k := by
  cases k with
  | delay =>
    cases i with
    | setDelay x => exact absurd rfl (h x)
    | _ => rfl
  | sound =>
    cases i with
    | setSound x => exact absurd rfl (h x)
    | _ => rfl

lemma left_cycle_of_at (h : c.At (k.setter x)) : c.cycle.core.timers.left k = (c.get x).toNat := by
  rw [core_cycle h]
  cases k <;> rfl

lemma left_cycle (h : ∀ x, ¬ c.At (k.setter x)) : c.cycle.core.timers.left k = c.timers.left k := by
  rcases c.cycle_cases with ⟨f, hf⟩ | ⟨i, hi⟩
  · rw [hf]
    rfl
  · rw [core_cycle hi]
    refine left_timersAfter ?_
    rintro x rfl
    exact h x hi

end Core

namespace Console

variable {c : Console} {m : Move} {x : Register}

/-- In a run of moves the timer was last set to `d`, or never and `d` is zero, and it has ticked `t`
times since. -/
inductive LastSet (k : Timer) (c : Console) : List Move → Nat → Nat → Prop
  | never {ms : List Move} : (∀ x, k.setter x ∉ c.executed ms) →
      LastSet k c ms 0 (ms.countP Move.isTick)
  | set (before later : List Move) {x : Register} :
      (c.moveAll before).completes .cycle = some (k.setter x) →
      (∀ y, k.setter y ∉ (c.moveAll (before ++ [.cycle])).executed later) →
      LastSet k c (before ++ .cycle :: later) ((c.moveAll before).core.get x).toNat
        (later.countP Move.isTick)

/-- The number of ticks that operations make, told from the replies to them. -/
def ticks (c : Console) (ops : List Operation) : Nat :=
  (ops.zip (c.replies ops)).countP fun (op, r) => op.ticks r.result

lemma completes_setter_iff :
    c.completes .cycle = some (k.setter x) ↔ c.fault = none ∧ c.core.At (k.setter x) := by
  rw [completes_eq_some_iff, and_iff_left (c.core.obstacle_setter k x)]

lemma left_of_completes (h : c.completes .cycle = some (k.setter x)) :
    (c.move .cycle).core.timers.left k = (c.core.get x).toNat := by
  obtain ⟨hf, hi⟩ := completes_setter_iff.mp h
  rw [move_cycle_of_running hf, core_advance]
  exact Core.left_cycle_of_at hi

lemma left_move (h : ∀ x, c.completes m ≠ some (k.setter x)) :
    (c.move m).core.timers.left k = c.core.timers.left k - [m].countP Move.isTick := by
  cases m with
  | cycle =>
    cases hf : c.fault with
    | some f => rw [move_cycle_of_fault hf]; rfl
    | none =>
      rw [move_cycle_of_running hf, core_advance]
      exact Core.left_cycle fun x hx => h x (completes_setter_iff.mpr ⟨hf, hx⟩)
  | tick => exact c.core.timers.left_tick k
  | keys keypad | clean | write data => rfl

/-- As long as nothing sets it, a timer counts the ticks. -/
lemma left_moveAll {ms : List Move} (h : ∀ x, k.setter x ∉ c.executed ms) :
    (c.moveAll ms).core.timers.left k = c.core.timers.left k - ms.countP Move.isTick := by
  induction ms generalizing c with
  | nil => rfl
  | cons m ms ih =>
    simp only [executed, List.mem_append, Option.mem_toList, not_or] at h
    have hm := left_move fun x => (h x).1
    have hr := ih fun x => (h x).2
    have hc : (m :: ms).countP Move.isTick = [m].countP Move.isTick + ms.countP Move.isTick := by
      rw [← List.singleton_append, List.countP_append]
    rw [hc, ← Nat.sub_sub, ← hm]
    exact hr

lemma exists_lastSet (k : Timer) (c : Console) (ms : List Move) : ∃ d t, c.LastSet k ms d t := by
  induction ms generalizing c with
  | nil => exact ⟨_, _, .never fun _ => List.not_mem_nil⟩
  | cons m ms ih =>
    obtain ⟨d, t, h⟩ := ih (c.move m)
    cases h with
    | @set before later x hx hl => exact ⟨_, _, .set (m :: before) later hx hl⟩
    | never hn =>
      by_cases hm : ∃ x, c.completes m = some (k.setter x)
      · obtain ⟨x, hx⟩ := hm
        cases m with
        | cycle => exact ⟨_, _, .set [] ms hx hn⟩
        | tick | keys keypad | clean | write data => cases hx
      · refine ⟨_, _, .never fun x => ?_⟩
        rw [executed, List.mem_append, Option.mem_toList]
        exact not_or.mpr ⟨fun hx => hm ⟨x, hx⟩, hn x⟩

lemma left_of_lastSet {ms : List Move} {d t : Nat} (h0 : c.core.timers.left k = 0)
    (h : c.LastSet k ms d t) : (c.moveAll ms).core.timers.left k = d - t := by
  cases h with
  | never hn => rw [left_moveAll hn, h0]
  | @set before later x hx hl =>
    rw [moveAll_append] at hl ⊢
    exact (left_moveAll hl).trans (congrArg (· - _) (left_of_completes hx))

lemma countP_cycles (n : Nat) : (List.replicate n Move.cycle).countP Move.isTick = 0 := by
  rw [List.countP_replicate]
  rfl

lemma countP_of_not_makes {op : Operation} (h : ¬ op.Makes .tick) :
    (c.moves op).countP Move.isTick = 0 := by
  rw [List.countP_eq_zero]
  intro m hm ht
  have ho := makes_of_mem_moves hm
  cases m with
  | tick => exact h ho
  | cycle | keys keypad | clean | write data => cases ht

lemma countP_moves (c : Console) (op : Operation) :
    (c.moves op).countP Move.isTick = if op.ticks (c.perform op).result then 1 else 0 := by
  cases op with
  | tick => rfl
  | playFrame =>
    cases hf : c.fault with
    | some f =>
      have hr : c.perform .playFrame = c.answer (.error (.fault f)) := perform_executes hf trivial
      rw [moves, if_pos (halted_of_fault hf), hr]
      rfl
    | none =>
      have hr : (c.perform .playFrame).result = .ok (.count
          ((Stretch.mk 0 c []).extend c.settings.frameCycles).completed) := by
        rw [perform, playFrame_of_running hf]
        rfl
      rw [moves, if_neg (halted_of_running hf), hr, List.countP_append, countP_cycles]
      rfl
  | step | run count | press key | release key | setKeypad states | poll | load data
  | loadFile read path => exact countP_of_not_makes id

lemma countP_course (c : Console) (ops : List Operation) :
    (c.course ops).countP Move.isTick = c.ticks ops := by
  induction ops generalizing c with
  | nil => rfl
  | cons op ops ih =>
    rw [course, List.countP_append, countP_moves, ih, ticks, ticks, replies, List.zip_cons_cons,
      List.countP_cons, Nat.add_comm]

lemma sounding_iff : c.sounding = true ↔ 0 < c.core.timers.left .sound := by
  rw [sounding, Countdown.sounding, bne_iff_ne, ne_eq, ← UInt8.toNat_inj]
  exact Nat.pos_iff_ne_zero.symm

/-- At each point of every run a timer shows what it was last set to less the ticks since, and the
buzzer sounds while these are fewer. -/
theorem timers_follow_history {s : Settings} (h : boot s = .ok c) (k : Timer)
    (ops : List Operation) :
    (∃ d t, c.LastSet k (c.course ops) d t) ∧
    (∀ d t, c.LastSet k (c.course ops) d t → (c.performAll ops).core.timers.left k = d - t ∧
      (k = .sound → ((c.performAll ops).sounding = true ↔ t < d))) ∧
    (∀ ms d t, c.LastSet k ms d t → (c.moveAll ms).core.timers.left k = d - t) ∧
    ∀ (e : Console) (later : List Operation),
      (e.course later).countP Move.isTick = e.ticks later := by
  have h0 : c.core.timers.left k = 0 := by
    obtain ⟨ram, rfl⟩ := eq_of_boot h
    cases k <;> rfl
  refine ⟨exists_lastSet k c _, ?_, fun ms d t => left_of_lastSet h0, countP_course⟩
  intro d t ht
  have hl := left_of_lastSet h0 ht
  rw [moveAll_course] at hl
  refine ⟨hl, ?_⟩
  rintro rfl
  rw [sounding_iff, hl]
  exact Nat.sub_pos_iff_lt

def standard : Console := ⟨{
  settings := .standard
  ram := Ram.zero.blit fontStart hexFont.toList
  bank := RegisterBank.start programStart
  stack := CallStack.empty
  panel := Panel.fresh
  timers := Countdown.zero
  keypad := Keypad.released }, none⟩

lemma boot_standard : boot .standard = .ok standard := rfl

/-- Sets the buzzer to five ticks and goes round in a loop. -/
def buzzer : List UInt8 := [0x60, 0x05, 0xF0, 0x18, 0x12, 0x04]

def buzzing : List Operation := [.load buzzer, .step, .run 3, .tick, .step, .tick]

lemma lastSet_buzzing : standard.LastSet .sound (standard.course buzzing) 5 2 := by
  have hc : standard.course buzzing =
      [.write buzzer, .cycle] ++ .cycle :: [.cycle, .cycle, .tick, .cycle, .tick] := rfl
  obtain ⟨hs, he, hv⟩ :
      (standard.moveAll [.write buzzer, .cycle]).completes .cycle = some (.setSound 0) ∧
      (standard.moveAll [.write buzzer, .cycle, .cycle]).executed
        [.cycle, .cycle, .tick, .cycle, .tick] = [.jump 0x204, .jump 0x204, .jump 0x204] ∧
      ((standard.moveAll [.write buzzer, .cycle]).core.get 0).toNat = 5 := by
    decide +kernel
  have hl := LastSet.set (k := .sound) [.write buzzer, .cycle]
    [.cycle, .cycle, .tick, .cycle, .tick] hs fun y hy => by
      change Instr.setSound y ∈ (standard.moveAll [.write buzzer, .cycle, .cycle]).executed _ at hy
      rw [he] at hy
      simp at hy
  rw [hv] at hl
  rw [hc]
  exact hl

theorem timers_follow_history_buzzing : boot .standard = .ok standard ∧
    standard.LastSet .sound (standard.course buzzing) 5 2 ∧
      (standard.performAll buzzing).core.timers.left .sound = 5 - 2 ∧
      (standard.performAll buzzing).sounding = true := by
  obtain ⟨-, hl, -⟩ := timers_follow_history boot_standard .sound buzzing
  obtain ⟨ht, hs⟩ := hl 5 2 lastSet_buzzing
  exact ⟨boot_standard, lastSet_buzzing, ht, (hs rfl).mpr (by decide)⟩

end Console

end Chip8
