import Chip8.Proofs.Devices

/-! Polls. Runs that differ only in their polls lead to the same console but for the mark of the
panel, and all their other operations tell the host the same. -/

namespace Chip8

namespace Operation

def isPoll : Operation → Bool
  | .poll => true
  | _ => false

lemma isPoll_iff {op : Operation} : op.isPoll = true ↔ op = .poll := by
  cases op <;> simp [isPoll]

end Operation

namespace Core

def mark (c : Core) (b : Bool) : Core :=
  { c with panel := { c.panel with dirty := b } }

variable {c d : Core}

lemma Alike.eq_mark (h : c.Alike d) (hs : ∀ a, a ≠ .mark → c.Shares d a) :
    d = c.mark d.panel.dirty := by
  have hp : d.panel = { c.panel with dirty := d.panel.dirty } :=
    congrArg (Panel.mk · d.panel.dirty) (hs .screen Device.noConfusion).symm
  have ht : d.timers = c.timers :=
    congrArg₂ Countdown.mk (hs .delay Device.noConfusion).symm (hs .sound Device.noConfusion).symm
  have hk : d.keypad = c.keypad := (hs .keypad Device.noConfusion).symm
  rw [mark, ← hp, ← ht, ← hk]
  exact h.eq

lemma cycle_mark (c : Core) (b : Bool) : (c.mark b).cycle.cause? = c.cycle.cause? ∧
    ∃ m, (c.mark b).cycle.core = c.cycle.core.mark m := by
  have ha : c.Alike (c.mark b) := ⟨rfl, rfl, rfl, rfl⟩
  have hs (a : Device) (h : a ≠ .mark) : c.Shares (c.mark b) a := by
    cases a with
    | mark => exact absurd rfl h
    | _ => rfl
  have hr (i : Instr) (a : Device) (h : i.reads a) : c.Shares (c.mark b) a := by
    refine hs a ?_
    rintro rfl
    exact i.not_reads_mark h
  obtain ⟨hc, hd, hk⟩ := ha.cycle fun i _ _ => hr i
  exact ⟨hc.symm, _, hd.eq_mark fun a h => hk a (hs a h)⟩

end Core

namespace Console

def mark (c : Console) (b : Bool) : Console :=
  c.withCore (·.mark b)

end Console

def Reply.mark {α : Type} (r : Reply α) (b : Bool) : Reply α :=
  { r with console := r.console.mark b }

namespace Console

variable (c : Console) (b : Bool)

lemma advance_mark : ∃ m, (c.mark b).advance = (c.advance.1, c.advance.2.mark m) := by
  obtain ⟨hc, m, hm⟩ := c.core.cycle_mark b
  refine ⟨m, ?_⟩
  rw [advance_eq, advance_eq]
  change ((c.core.mark b).cycle.cause?.isNone, Console.mk (c.core.mark b).cycle.core _) = _
  rw [hm, hc]
  exact congrArg (fun f => (_, Console.mk _ (Option.or f c.fault))) hc

lemma advanceNotices_mark : (c.mark b).advanceNotices = c.advanceNotices := by
  have hc : (c.mark b).core.cycle.cause? = c.core.cycle.cause? := (c.core.cycle_mark b).1
  rw [advanceNotices, hc]
  rfl

lemma step_mark : ∃ m, (c.mark b).step = c.step.mark m := by
  obtain ⟨m, hm⟩ := c.advance_mark b
  have hf : (c.mark b).fault = c.fault := rfl
  have hn := c.advanceNotices_mark b
  cases h : c.fault with
  | some f =>
    refine ⟨b, ?_⟩
    simp only [step, hf, h]
    rfl
  | none =>
    refine ⟨m, ?_⟩
    simp only [step, hf, h, hm, hn]
    rfl

def Stretch.mark (s : Stretch) : Stretch :=
  { s with console := s.console.mark b }

lemma extend_mark (s : Stretch) (n : Nat) : ∃ m, (s.mark b).extend n = (s.extend n).mark m := by
  induction n generalizing s b with
  | zero => exact ⟨b, rfl⟩
  | succ n ih =>
    obtain ⟨m, hm⟩ := s.console.advance_mark b
    have hn := s.console.advanceNotices_mark b
    simp only [Stretch.extend, Stretch.mark, hm, hn]
    cases s.console.advance with
    | mk completed d =>
      cases completed with
      | true => exact ih m ⟨s.completed + 1, d, s.console.advanceNotices.reverse ++ s.reversed⟩
      | false => exact ⟨m, rfl⟩

lemma run_mark (count : Int) : ∃ m, (c.mark b).run count = (c.run count).mark m := by
  have hf : (c.mark b).fault = c.fault := rfl
  rw [run, run]
  split
  · exact ⟨b, rfl⟩
  · cases h : c.fault with
    | some f =>
      refine ⟨b, ?_⟩
      simp only [hf, h]
      rfl
    | none =>
      obtain ⟨m, hm⟩ := extend_mark b ⟨0, c, []⟩ count.toNat
      refine ⟨m, ?_⟩
      rw [Stretch.mark] at hm
      simp only [hf, h, hm]
      rfl

lemma playFrame_mark : ∃ m, (c.mark b).playFrame = c.playFrame.mark m := by
  have hs : (c.mark b).settings = c.settings := rfl
  obtain ⟨m, hm⟩ := c.run_mark b c.settings.frameCycles
  refine ⟨m, ?_⟩
  rw [playFrame, playFrame, hs, hm]
  generalize c.run c.settings.frameCycles = r
  obtain ⟨d, result, notices⟩ := r
  cases result <;> rfl

lemma setKey_mark (key : Int) (down : Bool) :
    (c.mark b).setKey key down = (c.setKey key down).mark b := by
  have hk : (c.mark b).core.keypad = c.core.keypad := rfl
  rw [setKey, setKey, hk]
  cases c.core.keypad.set key down <;> rfl

lemma setKeypad_mark (states : List Bool) :
    (c.mark b).setKeypad states = (c.setKeypad states).mark b := by
  rw [setKeypad, setKeypad]
  cases Keypad.ofStates states <;> rfl

lemma load_mark (data : List UInt8) : (c.mark b).load data = (c.load data).mark b := by
  by_cases h : c.settings.programAddress + data.length ≤ 4096
  · rw [load_of_le h, load_of_le (c := c.mark b) h]
    rfl
  · rw [load_of_lt h, load_of_lt (c := c.mark b) h]
    rfl

lemma loadFile_mark (read : Disk.Reader) (path : String) :
    (c.mark b).loadFile read path = (c.loadFile read path).mark b := by
  rw [loadFile, loadFile]
  cases readRom read path with
  | ok data => exact c.load_mark b data
  | error refusal => rfl

lemma perform_mark {op : Operation} (h : op ≠ .poll) :
    ∃ m, (c.mark b).perform op = (c.perform op).mark m := by
  cases op with
  | poll => exact absurd rfl h
  | step =>
    obtain ⟨m, hm⟩ := c.step_mark b
    exact ⟨m, congrArg (Reply.map Answer.flag) hm⟩
  | run count =>
    obtain ⟨m, hm⟩ := c.run_mark b count
    exact ⟨m, congrArg (Reply.map Answer.count) hm⟩
  | playFrame =>
    obtain ⟨m, hm⟩ := c.playFrame_mark b
    exact ⟨m, congrArg (Reply.map Answer.count) hm⟩
  | tick => exact ⟨b, rfl⟩
  | press key => exact ⟨b, congrArg (Reply.map _) (c.setKey_mark b key true)⟩
  | release key => exact ⟨b, congrArg (Reply.map _) (c.setKey_mark b key false)⟩
  | setKeypad states => exact ⟨b, congrArg (Reply.map _) (c.setKeypad_mark b states)⟩
  | load data => exact ⟨b, congrArg (Reply.map _) (c.load_mark b data)⟩
  | loadFile read path => exact ⟨b, congrArg (Reply.map _) (c.loadFile_mark b read path)⟩

lemma poll_mark : ∃ m, ((c.mark b).perform .poll).console = c.mark m := by
  cases b with
  | true => exact ⟨false, rfl⟩
  | false => exact ⟨false, rfl⟩

/-- What the host is told by a run apart from its polls. -/
def told (c : Console) : List Operation → List (Except Refusal Answer × List Notice)
  | [] => []
  | op :: ops =>
    if op.isPoll then (c.perform op).console.told ops
    else ((c.perform op).result, (c.perform op).notices) :: (c.perform op).console.told ops

lemma polls_erased (ops : List Operation) :
    (c.mark b).told ops = c.told (ops.filter (!·.isPoll)) ∧
      ∃ m, (c.mark b).performAll ops = (c.performAll (ops.filter (!·.isPoll))).mark m := by
  -- the mark may be another one after each operation
  induction ops generalizing c b with
  | nil => exact ⟨rfl, b, rfl⟩
  | cons op ops ih =>
    rw [told, performAll, List.foldl_cons]
    by_cases h : op.isPoll = true
    · obtain rfl := Operation.isPoll_iff.mp h
      obtain ⟨m, hm⟩ := c.poll_mark b
      rw [if_pos h, hm]
      exact ih c m
    · obtain ⟨m, hm⟩ := c.perform_mark b (mt Operation.isPoll_iff.mpr h)
      rw [if_neg h, List.filter_cons_of_pos (by simp [h]), told, if_neg h, hm]
      obtain ⟨ht, hk⟩ := ih (c.perform op).console m
      exact ⟨congrArg _ ht, hk⟩

lemma mark_self : c.mark c.core.panel.dirty = c := rfl

variable {c}

lemma told_of_filter_eq {ops polled : List Operation}
    (h : polled.filter (!·.isPoll) = ops.filter (!·.isPoll)) :
    c.told polled = c.told ops ∧ ∃ m, c.performAll polled = (c.performAll ops).mark m := by
  obtain ⟨ht, m, hm⟩ := c.polls_erased c.core.panel.dirty ops
  obtain ⟨hp, k, hk⟩ := c.polls_erased c.core.panel.dirty polled
  rw [mark_self] at ht hm hp hk
  rw [h] at hp hk
  refine ⟨hp.trans ht.symm, k, ?_⟩
  rw [hk, hm]
  rfl

/-- A run depends on a device only if it completes an instruction that reads it, which none does for
the sound timer and the mark of the panel, so polls can be put into a run anywhere. -/
theorem run_independent_of_devices :
    (∀ {c d : Console} (n : Nat), c.Alike d →
      (∀ i ∈ c.executed (.replicate n .cycle), ∀ a, i.reads a → c.core.Shares d.core a) →
        (c.replies (.replicate n .step)).map Reply.result =
          (d.replies (.replicate n .step)).map Reply.result ∧
        (c.performAll (.replicate n .step)).Alike (d.performAll (.replicate n .step)) ∧
        ∀ a, c.core.Shares d.core a →
          (c.performAll (.replicate n .step)).core.Shares
            (d.performAll (.replicate n .step)).core a) ∧
    (∀ i : Instr, ¬ i.reads .sound ∧ ¬ i.reads .mark) ∧
    ∀ {c : Console} {ops polled : List Operation},
      polled.filter (!·.isPoll) = ops.filter (!·.isPoll) →
        c.told polled = c.told ops ∧ ∃ m, c.performAll polled = (c.performAll ops).mark m := by
  refine ⟨?_, ?_, told_of_filter_eq⟩
  · intro c d n h hr
    exact h.steps n hr
  · intro i
    exact ⟨i.not_reads_sound, i.not_reads_mark⟩

/-- Reads the delay timer and then returns, which no call has prepared. -/
def sampling (panel : Panel) (sound : UInt8) (keypad : Keypad) : Console := ⟨{
  settings := Settings.standard
  ram := Ram.zero.blit 0x200 [0xF0, 0x07, 0x00, 0xEE]
  bank := RegisterBank.start 0x200
  stack := CallStack.empty
  panel := panel
  timers := ⟨7, sound⟩
  keypad := keypad }, none⟩

theorem run_independent_of_devices_sampling : ∃ c d : Console,
    c.Alike d ∧ c.executed (.replicate 3 .cycle) = [.getDelay 0] ∧
      c.core.keypad ≠ d.core.keypad ∧ c.core.panel.screen ≠ d.core.panel.screen ∧
      (d.performAll (.replicate 3 .step)).fault = some .stackUnderflow ∧
      (d.performAll (.replicate 3 .step)).core.get 0 = 7 ∧
      ∃ m, c.performAll [.poll, .step, .poll] = (c.performAll [.step]).mark m := by
  let c := sampling Panel.fresh 0 Keypad.released
  let d := sampling ⟨Screen.blank.paint 0 0 [0xFF], false⟩ 9 (Keypad.released.put 5 true)
  have ha : c.Alike d := ⟨⟨rfl, rfl, rfl, rfl⟩, rfl⟩
  have he : c.executed (.replicate 3 .cycle) = [.getDelay 0] := by decide +kernel
  have hf : (c.performAll (.replicate 3 .step)).fault = some .stackUnderflow := by decide +kernel
  have hv : (c.performAll (.replicate 3 .step)).core.get 0 = 7 := by decide +kernel
  obtain ⟨-, hk, -⟩ := run_independent_of_devices.1 3 ha (by
    rw [he]
    intro i hi a hr
    obtain rfl := List.mem_singleton.mp hi
    cases a with
    | delay => rfl
    | _ => exact hr.elim)
  refine ⟨c, d, ha, he, by decide, by decide +kernel, hk.fault ▸ hf, ?_, ?_⟩
  · rw [Core.get, ← hk.core.bank]
    exact hv
  · have hp : [Operation.poll, .step, .poll].filter (!·.isPoll) =
        [Operation.step].filter (!·.isPoll) := rfl
    exact (run_independent_of_devices.2.2 hp).2

end Console

end Chip8
