import Chip8.Proofs.Course
import Chip8.Proofs.Residue

/-! Bounds that hold at every point of every run. The program counter is bounded because return
addresses are, and these are bounded because each is the address of an instruction that was
fetched. -/

namespace Chip8

namespace Core

/-- The stack is no deeper than it may be, and holds addresses of fetched instructions. -/
structure Sound (c : Core) : Prop where
  depth : c.stack.length ≤ 16
  entries : ∀ a ∈ c.stack.entries, a.toNat ≤ 4094

variable {c d : Core} {i : Instr}

lemma Sound.of_stack (h : c.Sound) (hs : d.stack = c.stack) : d.Sound := by
  constructor
  · rw [hs]
    exact h.depth
  · rw [hs]
    exact h.entries

lemma toNat_ofInt_pc (h : c.Fetchable) : ((UInt16.ofInt c.pc).toNat : Int) = c.pc := by
  obtain ⟨h0, h2⟩ := h
  simp only [UInt16.ofInt, UInt16.toNat_ofNat']
  omega

lemma sound_after (h : c.Sound) (hi : c.At i) : (c.after i).Sound := by
  cases i with
  | ret =>
    constructor
    · have ht := List.length_tail (l := c.stack.entries)
      have hd := h.depth
      change c.stack.entries.tail.length ≤ 16
      rw [CallStack.length] at hd
      omega
    · intro a ha
      exact h.entries a (List.mem_of_mem_tail ha)
  | call t =>
    by_cases hl : c.stack.length < 16
    · have hs : (c.after (.call t)).stack = ⟨UInt16.ofInt c.pc :: c.stack.entries⟩ := if_pos hl
      constructor
      · rw [hs]
        exact hl
      · rw [hs]
        intro a ha
        rcases List.mem_cons.mp ha with rfl | ha
        · -- the address of the call itself, which has just been fetched
          have hp := toNat_ofInt_pc hi.1
          have hf := hi.1.2
          omega
        · exact h.entries a ha
    · exact h.of_stack (if_neg hl)
  | _ => exact h.of_stack rfl

lemma sound_cycle (h : c.Sound) : c.cycle.core.Sound := by
  rcases c.cycle_cases with ⟨f, hf⟩ | ⟨i, hi⟩
  · rwa [hf]
  · rw [core_cycle hi]
    exact sound_after h hi

lemma headD_le (h : c.Sound) : (c.stack.entries.headD 0).toNat ≤ 4094 := by
  cases hs : c.stack.entries with
  | nil => exact Nat.zero_le _
  | cons a as =>
    refine h.entries a ?_
    rw [hs]
    exact List.mem_cons_self

lemma target_mem (h : c.Sound) (hi : c.At i) : 0 ≤ c.target i ∧ c.target i ≤ 4098 := by
  obtain ⟨h0, h2⟩ := hi.1
  cases i with
  | ret =>
    have ha := headD_le h
    rw [target]
    omega
  | jump t | call t =>
    rw [target]
    omega
  | skipIf _ _ | skipUnless _ _ | skipSame _ _ | skipDifferent _ _ | skipDown _ | skipUp _
  | awaitKey _ =>
    rw [target]
    split <;> omega
  | _ =>
    rw [target]
    omega

lemma pc_eq_target (h : c.Sound) (hi : c.At i) (hd : c.cycle = .done d) : d.pc = c.target i := by
  obtain ⟨h0, h1⟩ := target_mem h hi
  rw [pc_of_done hi hd]
  exact Int.emod_eq_of_lt h0 (by omega)

lemma pc_mem_of_done (h : c.Sound) (hd : c.cycle = .done d) : 0 ≤ d.pc ∧ d.pc ≤ 4098 := by
  obtain ⟨i, hi⟩ := exists_at_of_done hd
  rw [pc_eq_target h hi hd]
  exact target_mem h hi

lemma length_lt_of_call {t : Fin 4096} (h : c.obstacle (.call t) = none) :
    c.stack.length < 16 := by
  rw [obstacle] at h
  split at h
  · cases h
  · omega

lemma pushed_of_done {t : Fin 4096} (hi : c.At (.call t)) (hd : c.cycle = .done d) :
    ∃ a, d.stack.entries = a :: c.stack.entries ∧ (a.toNat : Int) = c.pc := by
  obtain ⟨rfl, ho⟩ := eq_after_of_done hi hd
  exact ⟨_, congrArg CallStack.entries (if_pos (length_lt_of_call ho)), toNat_ofInt_pc hi.1⟩

end Core

namespace Console

/-- What holds after `n` completed cycles of a console that was booted with settings `s`. -/
structure Bounded (s : Settings) (n : Nat) (c : Console) : Prop where
  core : c.core.Sound
  start : n = 0 → c.core.pc = s.programAddress
  range : 0 < n → 0 ≤ c.core.pc ∧ c.core.pc ≤ 4098

/-- The bounds of a console with all that follows from them: no part exceeds its size, neither a
new program counter nor a pushed address is ever cut, and once a cycle has completed only the end
of memory is out of reach. -/
structure WithinBounds (s : Settings) (n : Nat) (c : Console) : Prop extends Bounded s n c where
  memory : c.core.ram.toList.length = 4096
  registers : ∀ r, (c.core.get r).toNat ≤ 255
  timers : c.core.timers.delay.toNat ≤ 255 ∧ c.core.timers.sound.toNat ≤ 255
  pointer : c.core.bank.i.toNat ≤ 0xFFFF
  keys : c.core.keypad.toList.length = 16
  pixels : c.core.panel.screen.toList.length = 2048
  uncut : ∀ i d, c.core.At i → c.core.cycle = .done d → d.pc = c.core.target i
  pushed : ∀ t d, c.core.At (.call t) → c.core.cycle = .done d →
    ∃ a, d.stack.entries = a :: c.core.stack.entries ∧ (a.toNat : Int) = c.core.pc
  beyond : 0 < n → ¬ c.core.Fetchable → 4095 ≤ c.core.pc ∧ c.core.pc ≤ 4098

variable {s : Settings} {n : Nat} {c : Console}

lemma length_pixels (t : Screen) : t.toList.length = 2048 := by
  simp [Screen.toList, List.length_flatMap, List.map_const']

lemma Bounded.within (h : Bounded s n c) : c.WithinBounds s n where
  toBounded := h
  memory := by simp [Ram.toList]
  registers r := Nat.le_of_lt_succ (c.core.get r).toNat_lt
  timers := ⟨Nat.le_of_lt_succ c.core.timers.delay.toNat_lt,
    Nat.le_of_lt_succ c.core.timers.sound.toNat_lt⟩
  pointer := Nat.le_of_lt_succ c.core.bank.i.toNat_lt
  keys := by simp [Keypad.toList]
  pixels := length_pixels _
  uncut _ _ hi hd := Core.pc_eq_target h.core hi hd
  pushed _ _ hi hd := Core.pushed_of_done hi hd
  beyond hn hf := by
    have hr := h.range hn
    rw [Core.Fetchable] at hf
    omega

lemma bounded_boot (h : boot s = .ok c) : Bounded s 0 c := by
  obtain ⟨ram, rfl⟩ := eq_of_boot h
  exact ⟨⟨Nat.zero_le _, fun _ ha => absurd ha List.not_mem_nil⟩, fun _ => rfl,
    fun hn => absurd hn (Nat.lt_irrefl 0)⟩

lemma bounded_cycle (h : Bounded s n c) : Bounded s (n + c.gain .cycle) (c.move .cycle) := by
  cases hf : c.fault with
  | some f => rwa [gain_cycle_of_fault hf, move_cycle_of_fault hf]
  | none =>
    have hs := Core.sound_cycle h.core
    rw [move_cycle_of_running hf]
    cases hc : c.core.cycle with
    | done d =>
      rw [hc] at hs
      rw [gain_cycle_of_done hf hc, advance_of_done hc]
      exact ⟨hs, fun hn => absurd hn (Nat.succ_ne_zero n), fun _ => Core.pc_mem_of_done h.core hc⟩
    | failed d f =>
      have hp : d.pc = c.core.pc := Core.pc_of_failed hc
      rw [hc] at hs
      rw [gain_cycle_of_failed hf hc, advance_of_failed hc]
      refine ⟨hs, ?_, ?_⟩
      · intro hn
        exact hp.trans (h.start hn)
      · intro hn
        exact hp.symm ▸ h.range hn

lemma bounded_move (n : Nat) (c : Console) (m : Move) (h : Bounded s n c) :
    Bounded s (n + c.gain m) (c.move m) := by
  cases m with
  | cycle => exact bounded_cycle h
  | tick | keys keypad | clean | write data => exact ⟨h.core.of_stack rfl, h.start, h.range⟩

/-- Every console stays within its bounds at each point of every run. -/
theorem course_within_bounds (h : boot s = .ok c) (ops : List Operation) :
    (c.performAll ops).WithinBounds s (c.completed (c.course ops)) ∧
      c.moveAll (c.course ops) = c.performAll ops ∧
      ∀ k, (c.moveAll ((c.course ops).take k)).WithinBounds s
        (c.completed ((c.course ops).take k)) := by
  have hm (ms : List Move) : (c.moveAll ms).WithinBounds s (c.completed ms) := by
    have hp := moveAll_induction bounded_move ms (bounded_boot h)
    rw [Nat.zero_add] at hp
    exact hp.within
  refine ⟨?_, c.moveAll_course ops, fun k => hm _⟩
  rw [← moveAll_course]
  exact hm _

def endlessCalls : List Operation :=
  [.load [0x22, 0x00], .press 16, .run 20, .tick, .playFrame]

theorem endlessCalls_within_bounds : ∃ c, boot Settings.standard = .ok c ∧
    (c.performAll endlessCalls).WithinBounds Settings.standard
      (c.completed (c.course endlessCalls)) := by
  obtain ⟨c, hc⟩ : ∃ c, boot Settings.standard = .ok c := ⟨_, rfl⟩
  exact ⟨c, hc, (course_within_bounds hc endlessCalls).1⟩

end Console

end Chip8
