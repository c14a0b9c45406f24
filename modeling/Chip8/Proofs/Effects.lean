import Chip8.Proofs.Faults

/-! What an instruction may change, and that a cycle changes nothing else, whether it completes or
stops. -/

namespace Chip8

namespace Instr

/-- The instruction may write the cell `a` when `I` holds `base`. -/
def writes (base a : Nat) : Instr → Prop
  | .storeDecimal _ => base ≤ a ∧ a ≤ base + 2
  | .storeUpTo x => base ≤ a ∧ a ≤ base + x
  | _ => False

def paints : Instr → Prop
  | .clear | .draw _ _ _ => True
  | _ => False

def setsDelay : Instr → Prop
  | .setDelay _ => True
  | _ => False

def setsSound : Instr → Prop
  | .setSound _ => True
  | _ => False

def calls : Instr → Prop
  | .call _ => True
  | _ => False

def moves : Instr → Prop
  | .point _ | .movePoint _ | .glyph _ | .storeUpTo _ | .loadUpTo _ => True
  | _ => False

def sets (r : Register) : Instr → Prop
  | .load x _ | .add x _ | .alu _ x _ | .getDelay x | .awaitKey x => r = x
  | .loadUpTo x => r ≤ x
  | _ => False

def flags : Instr → Prop
  | .alu op _ _ => op ∈ [.add, .sub, .shiftRight, .subFrom, .shiftLeft]
  | .draw _ _ _ => True
  | _ => False

end Instr

namespace Core

/-- The core is about to execute an instruction of this kind. -/
def Runs (c : Core) (kind : Instr → Prop) : Prop :=
  ∃ i, c.At i ∧ kind i

/-- A step from `c` to `d` changes only what the instruction at the program counter may change. -/
structure Confined (c d : Core) : Prop where
  settings : d.settings = c.settings
  cells : ∀ a, d.ram.get a ≠ c.ram.get a → c.Runs (·.writes c.bank.i.toNat a)
  screen : d.panel.screen ≠ c.panel.screen → c.Runs Instr.paints
  dirty : d.panel.dirty ≠ c.panel.dirty → d.panel.dirty = true ∧ c.Runs Instr.paints
  delay : d.timers.delay ≠ c.timers.delay → c.Runs Instr.setsDelay
  sound : d.timers.sound ≠ c.timers.sound → c.Runs Instr.setsSound
  keypad : d.keypad = c.keypad
  stack : d.stack = c.stack ∨
    (c.Runs Instr.calls ∧ ∃ a, d.stack.entries = a :: c.stack.entries) ∨
    (c.At .ret ∧ ∃ a, c.stack.entries = a :: d.stack.entries)
  pointer : d.bank.i ≠ c.bank.i → c.Runs Instr.moves
  registers : ∀ r, d.get r ≠ c.get r → c.Runs fun i => i.sets r ∨ (r = flagRegister ∧ i.flags)

lemma Confined.refl (c : Core) : c.Confined c where
  settings := rfl
  cells _ h := absurd rfl h
  screen h := absurd rfl h
  dirty h := absurd rfl h
  delay h := absurd rfl h
  sound h := absurd rfl h
  keypad := rfl
  stack := .inl rfl
  pointer h := absurd rfl h
  registers _ h := absurd rfl h

variable {c : Core} {i : Instr}

lemma get_ramAfter {a : Nat} (h : ¬ i.writes c.bank.i.toNat a) :
    (c.ramAfter i).get a = c.ram.get a := by
  cases i with
  | storeDecimal x =>
    have hl := length_decimal (c.get x)
    refine c.ram.get_blit_of_outside ?_
    rw [Instr.writes] at h
    omega
  | storeUpTo x =>
    have hl := c.length_stored x
    refine c.ram.get_blit_of_outside ?_
    rw [Instr.writes] at h
    omega
  | _ => rfl

lemma panelAfter_eq (h : ¬ i.paints) : c.panelAfter i = c.panel := by
  cases i with
  | clear | draw x y n => exact absurd trivial h
  | _ => rfl

lemma dirty_panelAfter (h : (c.panelAfter i).dirty ≠ c.panel.dirty) :
    (c.panelAfter i).dirty = true := by
  cases i with
  | clear => rfl
  | draw x y n =>
    rw [panelAfter] at h ⊢
    split
    · rfl
    · rename_i hf
      rw [if_neg hf] at h
      exact absurd rfl h
  | _ => exact absurd rfl h

lemma delay_timersAfter (h : ¬ i.setsDelay) : (c.timersAfter i).delay = c.timers.delay := by
  cases i with
  | setDelay x => exact absurd trivial h
  | _ => rfl

lemma sound_timersAfter (h : ¬ i.setsSound) : (c.timersAfter i).sound = c.timers.sound := by
  cases i with
  | setSound x => exact absurd trivial h
  | _ => rfl

lemma stackAfter_cases (c : Core) (i : Instr) : c.stackAfter i = c.stack ∨
    (i.calls ∧ ∃ a, (c.stackAfter i).entries = a :: c.stack.entries) ∨
    (i = .ret ∧ ∃ a, c.stack.entries = a :: (c.stackAfter i).entries) := by
  cases i with
  | ret =>
    cases hs : c.stack.entries with
    | nil => exact .inl (c.stackAfter_ret hs)
    | cons a as =>
      refine .inr (.inr ⟨rfl, a, ?_⟩)
      rw [stackAfter, hs, List.tail_cons]
  | call t =>
    rw [stackAfter]
    split
    · exact .inr (.inl ⟨trivial, _, rfl⟩)
    · exact .inl rfl
  | _ => exact .inl rfl

lemma i_bankAfter (h : ¬ i.moves) : (c.bankAfter i).i = c.bank.i := by
  cases i with
  | point _ | movePoint _ | glyph _ | storeUpTo _ | loadUpTo _ => exact absurd trivial h
  | alu op x y => cases op <;> rfl
  | draw x y n =>
    rw [bankAfter]
    split <;> rfl
  | awaitKey x =>
    rw [bankAfter]
    split <;> rfl
  | _ => rfl

lemma get_apply {op : AluOp} {x y r : Register} (b : RegisterBank) (hx : r ≠ x)
    (hf : ¬ (r = flagRegister ∧ Instr.flags (.alu op x y))) : (op.apply x y b).get r = b.get r := by
  have hs (v : UInt8) : (b.set x v).get r = b.get r := by
    rw [RegisterBank.get_set, if_neg (Ne.symm hx)]
  cases op with
  | copy | or | and | xor => exact hs _
  | add | sub | shiftRight | subFrom | shiftLeft =>
    have hr : r ≠ flagRegister := fun hr => hf ⟨hr, by simp [Instr.flags]⟩
    refine (RegisterBank.get_set _ _ _ _).trans ?_
    rw [if_neg (Ne.symm hr)]
    exact hs _

lemma get_bankAfter {r : Register} (hs : ¬ i.sets r) (hf : ¬ (r = flagRegister ∧ i.flags)) :
    (c.bankAfter i).get r = c.get r := by
  have hset (x : Register) (v : UInt8) (hx : r ≠ x) : (c.bank.set x v).get r = c.get r := by
    rw [RegisterBank.get_set, if_neg (Ne.symm hx)]
    rfl
  cases i with
  | load x v => exact hset x v hs
  | add x v => exact hset x _ hs
  | getDelay x => exact hset x _ hs
  | awaitKey x =>
    rw [bankAfter]
    split
    · rfl
    · exact hset x _ hs
  | alu op x y => exact get_apply c.bank hs hf
  | draw x y n =>
    rw [bankAfter]
    split
    · exact hset flagRegister _ fun hr => hf ⟨hr, trivial⟩
    · rfl
  | loadUpTo x =>
    have hx : ¬ (r : Nat) ≤ x := hs
    have hl : (c.ram.bytes ⟨c.bank.i.toNat, min ((x : Nat) + 1) c.room⟩).length ≤ x + 1 := by
      rw [Ram.length_bytes]
      exact Nat.min_le_left _ _
    change (c.bank.fill _ _).get r = c.get r
    rw [RegisterBank.get_fill_upTo _ _ hl, List.getElem?_eq_none (by omega), Option.getD_none]
    rfl
  | _ => rfl

lemma i_after (c : Core) (i : Instr) : (c.after i).bank.i = (c.bankAfter i).i := by
  rw [after]
  cases c.obstacle i <;> rfl

lemma get_after (c : Core) (i : Instr) (r : Register) :
    (c.after i).get r = (c.bankAfter i).get r := by
  rw [after]
  cases c.obstacle i <;> rfl

lemma confined_after (h : c.At i) : c.Confined (c.after i) where
  settings := rfl
  cells a ha := by
    by_contra hn
    exact ha (get_ramAfter fun hw => hn ⟨i, h, hw⟩)
  screen hs := by
    by_contra hn
    exact hs (congrArg Panel.screen (panelAfter_eq fun hp => hn ⟨i, h, hp⟩))
  dirty hd := by
    refine ⟨dirty_panelAfter hd, ?_⟩
    by_contra hn
    exact hd (congrArg Panel.dirty (panelAfter_eq fun hp => hn ⟨i, h, hp⟩))
  delay hd := by
    by_contra hn
    exact hd (delay_timersAfter fun hs => hn ⟨i, h, hs⟩)
  sound hd := by
    by_contra hn
    exact hd (sound_timersAfter fun hs => hn ⟨i, h, hs⟩)
  keypad := rfl
  stack := by
    rcases c.stackAfter_cases i with hs | ⟨hc, ha⟩ | ⟨rfl, ha⟩
    · exact .inl hs
    · exact .inr (.inl ⟨⟨i, h, hc⟩, ha⟩)
    · exact .inr (.inr ⟨h, ha⟩)
  pointer hp := by
    by_contra hn
    exact hp ((i_after c i).trans (i_bankAfter fun hm => hn ⟨i, h, hm⟩))
  registers r hr := by
    by_contra hn
    exact hr ((get_after c i r).trans (get_bankAfter (fun hs => hn ⟨i, h, .inl hs⟩)
      fun hf => hn ⟨i, h, .inr hf⟩))

/-- A cycle changes memory, screen, timers, keys, stack and registers only as the instruction at
the program counter may, and never marks the panel as clean. -/
theorem cycle_confined (c : Core) : c.Confined c.cycle.core := by
  rcases c.cycle_cases with ⟨f, hf⟩ | ⟨i, hi⟩
  · rw [hf]
    exact .refl c
  · rw [core_cycle hi]
    exact confined_after hi

end Core

end Chip8
