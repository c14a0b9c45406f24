import Chip8.Proofs.Ticks
import Mathlib.Data.Fin.Tuple.Basic

/-! Waiting for a key. While no key is down a console that waits stays where it is, and only its
timers go on; the first cycle that finds a key down stores the lowest one and moves on. -/

namespace Chip8

/-- The answer to an operation all of whose cycles complete, if it is one that has cycles. -/
def Operation.inFull (s : Settings) : Operation → Option Answer
  | .step => some (.flag true)
  | .run count => some (.count count.toNat)
  | .playFrame => some (.count s.frameCycles)
  | _ => none

lemma Keypad.lowestDown_eq_some_iff {p : Keypad} {k : Key} :
    p.lowestDown = some k ↔ p.down k = true ∧ ∀ j < k, p.down j = false := by
  rw [lowestDown, ← Fin.find?_eq_find?_finRange, Fin.find?_eq_some_iff]

lemma Keypad.lowestDown_eq_none_iff {p : Keypad} :
    p.lowestDown = none ↔ ∀ k, p.down k = false := by
  rw [lowestDown, ← Fin.find?_eq_find?_finRange, Fin.find?_eq_none_iff]

namespace Core

variable {c d : Core} {x : Register} {k : Key} {i : Instr}

lemma cycle_of_released (h : c.At (.awaitKey x)) (hk : c.keypad.lowestDown = none) :
    c.cycle = .done c := by
  have hp : c.pc % 65536 = c.pc := Int.emod_eq_of_lt h.1.1 (by have := h.1.2; omega)
  rw [cycle_of_at h, execute, hk]
  change Outcome.done (c.goTo c.pc) = _
  rw [goTo, withBank, RegisterBank.setPc, hp]
  rfl

lemma cycle_of_pressed (h : c.At (.awaitKey x)) (hk : c.keypad.lowestDown = some k) :
    c.cycle = .done { c with bank := { c.bank.set x (UInt8.ofNat k) with pc := c.pc + 2 } } := by
  have hp : (c.pc + 2) % 65536 = c.pc + 2 :=
    Int.emod_eq_of_lt (by have := h.1.1; omega) (by have := h.1.2; omega)
  rw [cycle_of_at h, execute, hk]
  change Outcome.done ((c.set x (UInt8.ofNat k)).goTo (c.pc + 2)) = _
  rw [goTo, withBank, RegisterBank.setPc, hp]
  rfl

lemma eq_of_cycles {n : Nat} (hs : c.cycle = .done c) (h : Cycles n c d) : d = c := by
  induction h with
  | zero => rfl
  | succ hd _ ih =>
    obtain rfl := Outcome.done.inj (hs.symm.trans hd)
    exact ih hs

end Core

namespace Console

variable {c d : Console} {m : Move} {ms ns : List Move} {x : Register} {t : Nat}

/-- No key is down whenever a cycle runs. -/
def Unheld (c : Console) : List Move → Prop
  | [] => True
  | m :: ms => (m = .cycle → ∀ k, c.core.keypad.down k = false) ∧ (c.move m).Unheld ms

instance : DecidablePred (· = Move.cycle)
  | .cycle => .isTrue rfl
  | .tick | .keys _ | .clean | .write _ => .isFalse Move.noConfusion

instance Unheld.decidable (c : Console) : (ms : List Move) → Decidable (c.Unheld ms)
  | [] => .isTrue trivial
  | m :: ms =>
    have := Unheld.decidable (c.move m) ms
    inferInstanceAs (Decidable ((m = .cycle → ∀ k, c.core.keypad.down k = false) ∧ _))

/-- Nothing but timers, keys and the mark of the panel has changed, and the timers by `t` ticks. -/
structure Waits (c d : Console) (t : Nat) : Prop where
  fault : d.fault = none
  settings : d.core.settings = c.core.settings
  ram : d.core.ram = c.core.ram
  bank : d.core.bank = c.core.bank
  stack : d.core.stack = c.core.stack
  screen : d.core.panel.screen = c.core.panel.screen
  timers : ∀ k, d.core.timers.left k = c.core.timers.left k - t

/-- `k` is the lowest key that is down, and the next cycle stores it and moves on. -/
structure Resumes (c : Console) (x : Register) (k : Key) : Prop where
  down : c.core.keypad.down k = true
  lowest : ∀ j < k, c.core.keypad.down j = false
  completes : c.completes .cycle = some (.awaitKey x)
  console : c.move .cycle = c.withCore fun d =>
    { d with bank := { d.bank.set x (UInt8.ofNat k) with pc := d.pc + 2 } }

lemma unheld_append : c.Unheld (ms ++ ns) ↔ c.Unheld ms ∧ (c.moveAll ms).Unheld ns := by
  induction ms generalizing c with
  | nil => exact (and_iff_right trivial).symm
  | cons m ms ih =>
    rw [List.cons_append, Unheld, Unheld, ih, and_assoc]
    rfl

lemma Waits.refl (h : c.fault = none) : c.Waits c 0 :=
  ⟨h, rfl, rfl, rfl, rfl, rfl, fun _ => rfl⟩

lemma Waits.at (hw : c.Waits d t) (h : c.core.At (.awaitKey x)) : d.core.At (.awaitKey x) :=
  h.of_pc hw.ram (congrArg RegisterBank.pc hw.bank)

lemma Waits.cycle (hw : c.Waits d t) (h : c.core.At (.awaitKey x))
    (hk : ∀ k, d.core.keypad.down k = false) : d.core.cycle = .done d.core :=
  Core.cycle_of_released (hw.at h) (Keypad.lowestDown_eq_none_iff.mpr hk)

lemma Waits.move (hw : c.Waits d t) (h : c.core.At (.awaitKey x))
    (hk : m = .cycle → ∀ k, d.core.keypad.down k = false) (hm : ∀ data, m ≠ .write data) :
    c.Waits (d.move m) (t + [m].countP Move.isTick) := by
  cases m with
  | cycle =>
    have hd : d.move .cycle = d := by
      rw [move_cycle_of_running hw.fault, advance_of_done (hw.cycle h (hk rfl))]
    rwa [hd]
  | tick =>
    refine { hw with timers := fun k => ?_ }
    have hl := hw.timers k
    change d.core.timers.tick.left k = _
    rw [Countdown.left_tick, hl, Nat.sub_sub]
    rfl
  | keys keypad | clean => exact { hw with }
  | write data => exact absurd rfl (hm data)

lemma Waits.moveAll (hw : c.Waits d t) (h : c.core.At (.awaitKey x)) (hk : d.Unheld ms)
    (hm : ∀ data, .write data ∉ ms) : c.Waits (d.moveAll ms) (t + ms.countP Move.isTick) := by
  induction ms generalizing d t with
  | nil => exact hw
  | cons m ms ih =>
    have hd := hw.move h hk.1 fun data he => hm data (he ▸ List.mem_cons_self)
    have hr := ih hd hk.2 fun data hc => hm data (List.mem_cons_of_mem m hc)
    rwa [Nat.add_assoc, ← List.countP_append] at hr

lemma write_not_mem_course {ops : List Operation} (h : ∀ op ∈ ops, ¬ op.loads)
    (data : List UInt8) : .write data ∉ c.course ops := by
  intro hm
  obtain ⟨op, ho, hw⟩ := exists_makes_of_mem_course hm
  cases op with
  | load _ | loadFile _ _ => exact h _ ho trivial
  | _ => exact hw

lemma run_of_still (hf : c.fault = none) {n : Int}
    (h : 0 < n → c.core.cycle = .done c.core) : (c.run n).result = .ok n.toNat := by
  by_cases hn : n ≤ 0
  · rw [run, if_pos hn, Int.toNat_of_nonpos hn]
    rfl
  · have hs := h (Int.not_le.mp hn)
    obtain ⟨m, rfl⟩ := Int.eq_ofNat_of_zero_le (Int.le_of_lt (Int.not_le.mp hn))
    rcases run_cases hf (n := m) (by omega) with ⟨d, notices, -, hr⟩ |
      ⟨l, d, e, f, notices, -, hy, he, -⟩
    · rw [hr]
      rfl
    · -- the stretch stays where it is, so no cycle of it can fail
      obtain rfl := Core.eq_of_cycles hs hy
      rw [hs] at he
      cases he

lemma Waits.inFull {op : Operation} {a : Answer} (hw : c.Waits d t) (h : c.core.At (.awaitKey x))
    (hk : d.Unheld (d.moves op)) (ha : op.inFull c.settings = some a) :
    (d.perform op).result = .ok a := by
  cases op with
  | step =>
    obtain rfl := Option.some.inj ha
    have hd := hw.cycle h (hk.1 rfl)
    simp only [perform, step, hw.fault, advance_of_done hd]
    rfl
  | run n =>
    obtain rfl := Option.some.inj ha
    have hr : (d.run n).result = .ok n.toNat := by
      refine run_of_still hw.fault fun hn => hw.cycle h ?_
      obtain ⟨m, hm⟩ : ∃ m, n.toNat = m + 1 := Nat.exists_eq_add_one.mpr (by omega)
      rw [moves, hm] at hk
      exact hk.1 rfl
    rw [perform, Reply.map, hr]
    rfl
  | playFrame =>
    obtain rfl := Option.some.inj ha
    have hs : d.settings = c.settings := hw.settings
    have hr : (d.run d.settings.frameCycles).result = .ok c.settings.frameCycles := by
      rw [← hs]
      refine run_of_still hw.fault fun _ => hw.cycle h ?_
      obtain ⟨m, hm⟩ := Nat.exists_eq_add_one.mpr d.settings.frameCycles_pos
      rw [moves, if_neg (halted_of_running hw.fault), hm] at hk
      exact hk.1 rfl
    simp only [perform, playFrame, hr]
    rfl
  | tick | press key | release key | setKeypad states | poll | load data
  | loadFile read path => cases ha

lemma Waits.resumes (hw : c.Waits d t) (h : c.core.At (.awaitKey x))
    (hk : ∃ k, d.core.keypad.down k = true) : ∃ k, d.Resumes x k := by
  cases hl : d.core.keypad.lowestDown with
  | none =>
    obtain ⟨k, hk⟩ := hk
    rw [Keypad.lowestDown_eq_none_iff.mp hl k] at hk
    cases hk
  | some k =>
    obtain ⟨hd, hj⟩ := Keypad.lowestDown_eq_some_iff.mp hl
    refine ⟨k, hd, hj, completes_of_at hw.fault (hw.at h) rfl, ?_⟩
    rw [move_cycle_of_running hw.fault, advance_of_done (Core.cycle_of_pressed (hw.at h) hl)]
    rfl

/-- A console that waits for a key loses nothing: as long as no cycle finds a key down, all cycles
complete and only the timers count, and the first one that does stores the lowest key. -/
theorem key_wait_stalls {ops : List Operation} (hf : c.fault = none)
    (h : c.core.At (.awaitKey x)) (hl : ∀ op ∈ ops, ¬ op.loads) :
    (c.Unheld (c.course ops) →
      c.Waits (c.performAll ops) (c.ticks ops) ∧
      ∀ before op later a, ops = before ++ op :: later → op.inFull c.settings = some a →
        ((c.performAll before).perform op).result = .ok a) ∧
    ∀ ms later, c.course ops = ms ++ .cycle :: later → c.Unheld ms →
      c.Waits (c.moveAll ms) (ms.countP Move.isTick) ∧
      ((∃ k, (c.moveAll ms).core.keypad.down k = true) → ∃ k, (c.moveAll ms).Resumes x k) := by
  have hw (ms : List Move) (hk : c.Unheld ms) (hm : ∀ data, .write data ∉ ms) :
      c.Waits (c.moveAll ms) (ms.countP Move.isTick) := by
    have hm := (Waits.refl hf).moveAll h hk hm
    rwa [Nat.zero_add] at hm
  constructor
  · intro hk
    constructor
    · have hc := hw _ hk (write_not_mem_course hl)
      rwa [moveAll_course, countP_course] at hc
    · rintro before op later a rfl ha
      rw [course_append, course] at hk
      obtain ⟨hb, ho⟩ := unheld_append.mp hk
      rw [moveAll_course] at ho
      have hc := hw _ hb (write_not_mem_course fun o hm => hl o (List.mem_append_left _ hm))
      rw [moveAll_course] at hc
      exact hc.inFull h (unheld_append.mp ho).1 ha
  · intro ms later hc hk
    have hm := hw ms hk fun data hd => write_not_mem_course hl data (hc ▸ List.mem_append_left _ hd)
    exact ⟨hm, hm.resumes h⟩

/-- Waits for a key to store in `V3`. -/
def waiter : Console := ⟨{
  settings := { Settings.standard with clockHz := 60, clock_pos := by decide }
  ram := Ram.zero.blit 0x200 [0xF3, 0x0A]
  bank := RegisterBank.start 0x200
  stack := CallStack.empty
  panel := Panel.fresh
  timers := ⟨9, 1⟩
  keypad := Keypad.released }, none⟩

def idling : List Operation :=
  [.press 2, .release 2, .step, .tick, .playFrame, .run 2, .press 7, .press 4]

lemma at_waiter : waiter.core.At (.awaitKey 3) := by
  refine ⟨⟨by decide, by decide⟩, ?_⟩
  decide +kernel

lemma unheld_idling : waiter.Unheld (waiter.course idling) := by
  decide +kernel

theorem key_wait_stalls_waiter : waiter.fault = none ∧ waiter.core.At (.awaitKey 3) ∧
    waiter.Unheld (waiter.course idling) ∧ waiter.Waits (waiter.performAll idling) 2 ∧
    (waiter.performAll idling).Resumes 3 4 := by
  have hl : ∀ op ∈ idling ++ [.step], ¬ op.loads := by simp [idling, Operation.loads]
  have hc : waiter.course (idling ++ [.step]) = waiter.course idling ++ [.cycle] :=
    waiter.course_append idling [.step]
  have ht : waiter.ticks idling = 2 := by decide +kernel
  obtain ⟨hw, -⟩ := (key_wait_stalls rfl at_waiter
    fun op ho => hl op (List.mem_append_left _ ho)).1 unheld_idling
  obtain ⟨-, hr⟩ := (key_wait_stalls rfl at_waiter hl).2 _ _ hc unheld_idling
  rw [moveAll_course] at hr
  obtain ⟨k, hk⟩ := hr ⟨4, by decide +kernel⟩
  have h4 : k = 4 := by
    have hu : ∀ k, (waiter.performAll idling).core.keypad.down k = true →
        (∀ j < k, (waiter.performAll idling).core.keypad.down j = false) → k = 4 := by
      decide +kernel
    exact hu k hk.down hk.lowest
  exact ⟨rfl, at_waiter, unheld_idling, ht ▸ hw, h4 ▸ hk⟩

end Console

end Chip8
