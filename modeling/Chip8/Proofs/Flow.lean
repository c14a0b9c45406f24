import Chip8.Proofs.Bounds
import Chip8.Proofs.Waiting

/-! Where the program counter goes: most instructions lead to the next one, the conditional skips
past it when their condition holds, and jumps, calls, returns and key waits lead elsewhere. -/

namespace Chip8

namespace Instr

/-- The conditional skip with the same operands and the opposite condition. -/
def opposite? : Instr → Option Instr
  | .skipIf x value => some (.skipUnless x value)
  | .skipUnless x value => some (.skipIf x value)
  | .skipSame x y => some (.skipDifferent x y)
  | .skipDifferent x y => some (.skipSame x y)
  | .skipDown x => some (.skipUp x)
  | .skipUp x => some (.skipDown x)
  | _ => none

def Linear : Instr → Prop
  | .ret | .jump _ | .call _ | .skipIf _ _ | .skipUnless _ _ | .skipSame _ _
  | .skipDifferent _ _ | .skipDown _ | .skipUp _ | .awaitKey _ => False
  | _ => True

end Instr

namespace Core

def Skips (c : Core) : Instr → Prop
  | .skipIf x value => c.get x = value
  | .skipUnless x value => c.get x ≠ value
  | .skipSame x y => c.get x = c.get y
  | .skipDifferent x y => c.get x ≠ c.get y
  | .skipDown x => ∃ k : Key, (k : Nat) = (c.get x).toNat ∧ c.keypad.down k = true
  | .skipUp x => ∃ k : Key, (k : Nat) = (c.get x).toNat ∧ c.keypad.down k = false
  | _ => False

/-- The address to which an instruction leads, before it is cut to sixteen bits. -/
inductive Leads (c : Core) : Instr → Int → Prop
  | jump (t : Fin 4096) : Leads c (.jump t) (t : Nat)
  | call (t : Fin 4096) : Leads c (.call t) (t : Nat)
  | ret {a : UInt16} {as : List UInt16} : c.stack.entries = a :: as → Leads c .ret (a.toNat + 2)
  | skip {i j : Instr} : i.opposite? = some j → c.Skips i → Leads c i (c.pc + 4)
  | noSkip {i j : Instr} : i.opposite? = some j → ¬ c.Skips i → Leads c i (c.pc + 2)
  | wait (x : Register) : (∀ k, c.keypad.down k = false) → Leads c (.awaitKey x) c.pc
  | key (x : Register) {k : Key} : c.keypad.down k = true → Leads c (.awaitKey x) (c.pc + 2)
  | next {i : Instr} : i.Linear → Leads c i (c.pc + 2)

/-- A completed cycle from `c` to `d` executes `i`, which leads to `a`. The address is cut only when
`i` returns to the end of the address range, where no call can have been. -/
structure Advances (c d : Core) (i : Instr) (a : Int) : Prop where
  executes : c.At i
  leads : ∀ b, c.Leads i b ↔ b = a
  pc : d.pc = a % 65536
  uncut : d.pc = a ∨ i = .ret ∧ ∃ b bs, c.stack.entries = b :: bs ∧ 0xFFFD < b.toNat
  pushed : ∀ t, i = .call t → ∃ b, d.stack.entries = b :: c.stack.entries ∧ b.toNat ≤ 4094
  opposite : ∀ j, i.opposite? = some j → ∃ e, execute j c = .done e ∧
    (d.pc = c.pc + 4 ∧ e.pc = c.pc + 2 ∨ d.pc = c.pc + 2 ∧ e.pc = c.pc + 4)

variable {c d : Core} {i j : Instr}

lemma exists_key_iff {p : Keypad} {n : Nat} {b : Bool} :
    (∃ k : Key, (k : Nat) = n ∧ p.down k = b) ↔ p.keys[n]? = some b := by
  rw [Vector.getElem?_eq_some_iff]
  constructor
  · rintro ⟨k, rfl, hb⟩
    exact ⟨k.isLt, hb⟩
  · rintro ⟨hn, hb⟩
    exact ⟨⟨n, hn⟩, rfl, hb⟩

lemma target_of_skips (hj : i.opposite? = some j) (hs : c.Skips i) : c.target i = c.pc + 4 := by
  cases i with
  | skipIf x v | skipUnless x v | skipSame x y | skipDifferent x y =>
    exact congrArg (c.pc + ·) (if_pos hs)
  | skipDown x | skipUp x => exact congrArg (c.pc + ·) (if_pos (exists_key_iff.mp hs))
  | _ => cases hj

lemma target_of_not_skips (hj : i.opposite? = some j) (hs : ¬ c.Skips i) :
    c.target i = c.pc + 2 := by
  cases i with
  | skipIf x v | skipUnless x v | skipSame x y | skipDifferent x y =>
    exact congrArg (c.pc + ·) (if_neg hs)
  | skipDown x | skipUp x => exact congrArg (c.pc + ·) (if_neg (mt exists_key_iff.mpr hs))
  | _ => cases hj

lemma target_ret {a : UInt16} {as : List UInt16} (h : c.stack.entries = a :: as) :
    c.target .ret = a.toNat + 2 := by
  rw [target, h, List.headD_cons]

lemma exists_entry (h : c.obstacle .ret = none) : ∃ a as, c.stack.entries = a :: as := by
  apply List.exists_cons_of_ne_nil
  intro hs
  have hl : c.stack.length = 0 := List.length_eq_zero_iff.mpr hs
  rw [obstacle, if_pos hl] at h
  cases h

lemma eq_target_of_leads {a : Int} (h : c.Leads i a) : a = c.target i := by
  cases h with
  | jump t | call t => rfl
  | ret hs => exact (target_ret hs).symm
  | skip hj hs => exact (target_of_skips hj hs).symm
  | noSkip hj hs => exact (target_of_not_skips hj hs).symm
  | wait x hk => exact (if_pos (Keypad.lowestDown_eq_none_iff.mpr hk)).symm
  | key x hk =>
    refine (if_neg ?_).symm
    intro hn
    rw [Keypad.lowestDown_eq_none_iff.mp hn] at hk
    cases hk
  | next hl =>
    cases i with
    | ret | jump _ | call _ | skipIf _ _ | skipUnless _ _ | skipSame _ _ | skipDifferent _ _
    | skipDown _ | skipUp _ | awaitKey _ => cases hl
    | _ => rfl

lemma leads_target (ho : c.obstacle i = none) : c.Leads i (c.target i) := by
  by_cases hj : ∃ j, i.opposite? = some j
  · obtain ⟨j, hj⟩ := hj
    by_cases hs : c.Skips i
    · rw [target_of_skips hj hs]
      exact .skip hj hs
    · rw [target_of_not_skips hj hs]
      exact .noSkip hj hs
  · cases i with
    | jump t => exact .jump t
    | call t => exact .call t
    | ret =>
      obtain ⟨a, as, hs⟩ := exists_entry ho
      rw [target_ret hs]
      exact .ret hs
    | awaitKey x =>
      rw [target]
      split
      · rename_i hn
        exact .wait x (Keypad.lowestDown_eq_none_iff.mp hn)
      · rename_i hn
        obtain ⟨k, hk⟩ := Option.ne_none_iff_exists'.mp hn
        exact .key x (Keypad.lowestDown_eq_some_iff.mp hk).1
    | skipIf _ _ | skipUnless _ _ | skipSame _ _ | skipDifferent _ _ | skipDown _ | skipUp _ =>
      exact absurd ⟨_, rfl⟩ hj
    | _ => exact .next trivial

lemma leads_iff {a : Int} (ho : c.obstacle i = none) : c.Leads i a ↔ a = c.target i := by
  constructor
  · exact eq_target_of_leads
  · rintro rfl
    exact leads_target ho

lemma target_mem_of_ne_ret (hi : c.At i) (hr : i ≠ .ret) :
    0 ≤ c.target i ∧ c.target i ≤ 4098 := by
  -- only a return looks at the stack, so the bounds of an empty one apply
  have hs : Sound { c with stack := CallStack.empty } :=
    ⟨Nat.zero_le _, fun a ha => absurd ha List.not_mem_nil⟩
  have ht : target { c with stack := CallStack.empty } i = c.target i := by
    cases i with
    | ret => exact absurd rfl hr
    | _ => rfl
  rw [← ht]
  exact target_mem hs hi

lemma pc_after (ho : c.obstacle i = none) : (c.after i).pc = c.target i % 65536 := by
  rw [after, ho]
  rfl

lemma obstacle_opposite (hj : i.opposite? = some j) : c.obstacle j = c.obstacle i := by
  cases i with
  | skipIf x v | skipUnless x v | skipSame x y | skipDifferent x y | skipDown x | skipUp x =>
    obtain rfl := Option.some.inj hj
    rfl
  | _ => cases hj

lemma opposite?_symm (hj : i.opposite? = some j) : j.opposite? = some i := by
  cases i with
  | skipIf x v | skipUnless x v | skipSame x y | skipDifferent x y | skipDown x | skipUp x =>
    obtain rfl := Option.some.inj hj
    rfl
  | _ => cases hj

lemma not_down_iff {p : Keypad} {n : Nat} {b : Bool} (h : n < 16) :
    p.keys[n]? = some b ↔ ¬ p.keys[n]? = some (!b) := by
  cases b <;> simp [h]

lemma key_lt {x : Register} (h : c.obstacle (.skipDown x) = none) : (c.get x).toNat < 16 := by
  by_contra hn
  rw [obstacle, if_pos (Nat.lt_of_not_ge fun hl => hn (Nat.lt_succ_of_le hl))] at h
  cases h

lemma skips_opposite (ho : c.obstacle i = none) (hj : i.opposite? = some j) :
    c.Skips j ↔ ¬ c.Skips i := by
  cases i with
  | skipIf x v | skipSame x y =>
    obtain rfl := Option.some.inj hj
    exact Iff.rfl
  | skipUnless x v | skipDifferent x y =>
    obtain rfl := Option.some.inj hj
    exact not_not.symm
  | skipDown x | skipUp x =>
    obtain rfl := Option.some.inj hj
    rw [Skips, Skips, exists_key_iff, exists_key_iff]
    exact not_down_iff (key_lt ho)
  | _ => cases hj

lemma pc_of_opposite (hc : c.Fetchable) (ho : c.obstacle i = none) (hj : i.opposite? = some j) :
    (c.after i).pc = c.pc + 4 ∧ (c.after j).pc = c.pc + 2 ∨
      (c.after i).pc = c.pc + 2 ∧ (c.after j).pc = c.pc + 4 := by
  obtain ⟨h0, h2⟩ := hc
  have hk := opposite?_symm hj
  have hs := skips_opposite ho hj
  rw [pc_after ho, pc_after ((obstacle_opposite hj).trans ho)]
  by_cases hi : c.Skips i
  · rw [target_of_skips hj hi, target_of_not_skips hk (fun h => hs.mp h hi)]
    omega
  · rw [target_of_not_skips hj hi, target_of_skips hk (hs.mpr hi)]
    omega

lemma target_uncut (hi : c.At i) (ho : c.obstacle i = none) :
    c.target i % 65536 = c.target i ∨
      i = .ret ∧ ∃ b bs, c.stack.entries = b :: bs ∧ 0xFFFD < b.toNat := by
  by_cases hr : i = .ret
  · subst hr
    obtain ⟨b, bs, hs⟩ := exists_entry ho
    by_cases hb : 0xFFFD < b.toNat
    · exact .inr ⟨rfl, b, bs, hs, hb⟩
    · left
      rw [target_ret hs]
      exact Int.emod_eq_of_lt (by omega) (by omega)
  · obtain ⟨h0, h1⟩ := target_mem_of_ne_ret hi hr
    exact .inl (Int.emod_eq_of_lt h0 (by omega))

lemma advances_of_done (hi : c.At i) (hd : c.cycle = .done d) : c.Advances d i (c.target i) := by
  have hp := pc_of_done hi hd
  have hc := hi.1
  obtain ⟨rfl, ho⟩ := eq_after_of_done hi hd
  refine ⟨hi, fun b => leads_iff ho, hp, ?_, ?_, ?_⟩
  · rw [hp]
    exact target_uncut hi ho
  · rintro t rfl
    obtain ⟨b, hb, hv⟩ := pushed_of_done hi hd
    refine ⟨b, hb, ?_⟩
    -- the address of the call has just been fetched from
    have hf := hc.2
    omega
  · intro j hj
    exact ⟨c.after j, execute_of_unhindered c ((obstacle_opposite hj).trans ho),
      pc_of_opposite hc ho hj⟩

/-- A cycle that completes moves the program counter to where its instruction leads, and of two
opposite skips exactly one skips; a cycle that stops leaves it. -/
theorem program_counter_law (c : Core) :
    (∀ d, c.cycle = .done d → ∃ i a, c.Advances d i a) ∧
      ∀ d f, c.cycle = .failed d f → d.pc = c.pc := by
  constructor
  · intro d hd
    obtain ⟨i, hi⟩ := exists_at_of_done hd
    exact ⟨i, c.target i, advances_of_done hi hd⟩
  · intro d f hf
    exact pc_of_failed hf

/-- `3000` in the last two cells: the skip leads out of memory. -/
def lastWord : Core where
  settings := .standard
  ram := Ram.zero.blit 0xFFE [0x30, 0x00]
  bank := RegisterBank.start 0xFFE
  stack := CallStack.empty
  panel := Panel.fresh
  timers := Countdown.zero
  keypad := Keypad.released

lemma at_lastWord : lastWord.At (.skipIf 0 0) := by
  have h0 : lastWord.ram.get 0xFFE = 0x30 :=
    Ram.get_blit_add _ (k := 0) (by decide) (by decide)
  have h1 : lastWord.ram.get (0xFFE + 1) = 0x00 :=
    Ram.get_blit_add _ (by decide) (by decide)
  refine ⟨⟨by decide, by decide⟩, ?_⟩
  rw [word, Ram.word, show lastWord.pc.toNat = 0xFFE from rfl, h0, h1]
  rfl

theorem program_counter_law_lastWord : ∃ d e f g, lastWord.cycle = .done d ∧ d.pc = 4098 ∧
    execute (.skipUnless 0 0) lastWord = .done e ∧ e.pc = 4096 ∧
    d.cycle = .failed f g ∧ f.pc = 4098 := by
  have hd : lastWord.cycle = .done (lastWord.after (.skipIf 0 0)) := by
    rw [cycle_eq at_lastWord]
    rfl
  obtain ⟨i, a, h⟩ := (program_counter_law lastWord).1 _ hd
  obtain rfl := h.executes.unique at_lastWord
  obtain rfl : 4098 = a := (h.leads 4098).mp (.skip rfl rfl)
  have hp : (lastWord.after (.skipIf 0 0)).pc = 4098 := h.pc
  obtain ⟨e, he, hs⟩ := h.opposite _ rfl
  have hf := cycle_of_not_fetchable (c := lastWord.after (.skipIf 0 0))
    (fun hc => absurd hc.2 (by rw [hp]; decide))
  refine ⟨_, e, _, _, hd, hp, he, ?_, hf, ?_⟩
  · have hl : lastWord.pc = 4094 := rfl
    rw [hp, hl] at hs
    omega
  · rw [(program_counter_law _).2 _ _ hf, hp]

end Core

end Chip8
