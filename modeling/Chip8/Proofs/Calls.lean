import Chip8.Proofs.Bounds
import Chip8.Proofs.Effects
import Mathlib.Data.List.Induction
import Mathlib.Data.List.Infix

/-! Calls and returns. While the stack is deeper than it was at a call, what the call found and
pushed stays at its bottom, so the matching return goes back behind the call; and the depth is the
number of calls that have not returned yet. -/

namespace Chip8

def Instr.isCall : Instr → Bool
  | .call _ => true
  | _ => false

namespace Core

/-- The core after a move of the console that runs it. -/
def turn (c : Core) (m : Move) : Core :=
  (Console.move ⟨c, none⟩ m).core

/-- Moves lead from `c` to a further core, and at each point the stack is deeper than `n`. -/
inductive Above (n : Nat) (c : Core) : Core → Prop
  | start : n < c.stack.length → Above n c c
  | turn {d : Core} (m : Move) : Above n c d → n < (d.turn m).stack.length → Above n c (d.turn m)

def instr? (c : Core) : Option Instr :=
  match c.ram.fetch c.pc with
  | .error _ => none
  | .ok word => Instr.decode ⟨word.toNat⟩

variable {c d e : Core} {i : Instr} {f : Fault} {n : Nat}

lemma instr?_eq (h : c.At i) : c.instr? = some i := by
  obtain ⟨w, hf, he⟩ := c.ram.fetch_eq ⟨h.1.1, by decide, h.1.2⟩
  have hw : (w.toNat : Int) = (i.word : Int) := congrArg Nat.cast (he.trans h.2)
  simp only [instr?, hf]
  rw [hw]
  exact Instr.decode_of_eq_word rfl

lemma turn_cycle (c : Core) : c.turn .cycle = c.cycle.core := by
  rw [turn, Console.move_cycle_of_running rfl, Console.core_advance]

lemma stack_turn_cases (c : Core) (m : Move) : (c.turn m).stack = c.stack ∨
    (∃ a, (c.turn m).stack.entries = a :: c.stack.entries) ∨
    ∃ a, c.stack.entries = a :: (c.turn m).stack.entries := by
  cases m with
  | cycle =>
    rw [turn_cycle]
    rcases c.cycle_cases with ⟨f, hf⟩ | ⟨i, hi⟩
    · rw [hf]
      exact .inl rfl
    · rw [core_cycle hi]
      rcases c.stackAfter_cases i with hs | ⟨-, ha⟩ | ⟨-, ha⟩
      · exact .inl hs
      · exact .inr (.inl ha)
      · exact .inr (.inr ha)
  | tick | keys keypad | clean | write data => exact .inl rfl

lemma suffix_turn {bottom : List UInt16} (m : Move) (hb : bottom <:+ c.stack.entries)
    (hl : bottom.length ≤ (c.turn m).stack.length) : bottom <:+ (c.turn m).stack.entries := by
  rcases c.stack_turn_cases m with hs | ⟨a, ha⟩ | ⟨a, ha⟩
  · rwa [hs]
  · rw [ha]
    exact hb.trans (List.suffix_cons a _)
  · -- both are suffixes of the stack before, and the bottom is the shorter one
    rw [ha] at hb
    exact List.suffix_of_suffix_length_le hb (List.suffix_cons a _) hl

lemma suffix_of_above {bottom : List UInt16} (hb : bottom <:+ c.stack.entries)
    (hl : bottom.length = n + 1) (h : Above n c d) : bottom <:+ d.stack.entries := by
  induction h with
  | start _ => exact hb
  | turn m _ hn ih => exact suffix_turn m ih (hl.trans_le hn)

lemma cycle_ret {a : UInt16} {as : List UInt16} (hi : c.At .ret) (hs : c.stack.entries = a :: as) :
    ∃ d, c.cycle = .done d ∧ d.pc = (a.toNat + 2 : Int) % 65536 ∧ d.stack = ⟨as⟩ := by
  have ho : c.obstacle .ret = none := by
    refine if_neg ?_
    rw [CallStack.length, hs]
    exact Nat.succ_ne_zero _
  have hd : c.cycle = .done (c.after .ret) := by rw [cycle_eq hi, ho, Outcome.ending]
  refine ⟨_, hd, ?_, ?_⟩
  · rw [pc_of_done hi hd, target, hs, List.headD_cons]
  · change (⟨c.stack.entries.tail⟩ : CallStack 16) = _
    rw [hs, List.tail_cons]

lemma stack_of_failed (h : c.cycle = .failed d f) : d.stack = c.stack := by
  rcases c.cycle_cases with ⟨g, hg⟩ | ⟨i, hi⟩
  · rw [hg] at h
    cases h
    rfl
  · obtain ⟨rfl, ho⟩ := eq_after_of_failed hi h
    exact stackAfter_of_obstacle ho

lemma length_stackAfter (h : c.obstacle i = none) :
    (c.stackAfter i).length + [i].count .ret = c.stack.length + [i].countP Instr.isCall := by
  cases i with
  | ret =>
    have hl : c.stack.length ≠ 0 := by
      intro hz
      rw [obstacle, if_pos hz] at h
      cases h
    have ht : (c.stackAfter .ret).length = c.stack.length - 1 := List.length_tail
    have hc : [Instr.ret].count .ret = 1 := rfl
    have hn : [Instr.ret].countP Instr.isCall = 0 := rfl
    omega
  | call t =>
    have hl := length_lt_of_call h
    have ht : (c.stackAfter (.call t)).length = c.stack.length + 1 := by
      rw [stackAfter, if_pos hl]
      rfl
    have hc : [Instr.call t].count .ret = 0 := List.count_eq_zero_of_not_mem (by simp)
    have hn : [Instr.call t].countP Instr.isCall = 1 := rfl
    omega
  | _ => rfl

end Core

namespace Console

/-- The instruction that a move completes, if it is a cycle and completes one. -/
def completes (c : Console) : Move → Option Instr
  | .cycle => if c.halted then none else if c.advance.1 then c.core.instr? else none
  | _ => none

def executed (c : Console) : List Move → List Instr
  | [] => []
  | m :: ms => (c.completes m).toList ++ (c.move m).executed ms

structure Nested (c : Console) (ms : List Move) : Prop where
  depth : ((c.moveAll ms).core.stack.length : Int) =
    (c.executed ms).countP Instr.isCall - (c.executed ms).count .ret
  limit : (c.moveAll ms).core.stack.length ≤ 16

variable {c : Console}

lemma completes_of_at {i : Instr} (hf : c.fault = none) (hi : c.core.At i)
    (ho : c.core.obstacle i = none) : c.completes .cycle = some i := by
  have hd : c.core.cycle = .done (c.core.after i) := by
    rw [Core.cycle_eq hi, ho]
    rfl
  rw [completes, if_neg (halted_of_running hf), advance_of_done hd, if_pos rfl, Core.instr?_eq hi]

lemma completes_eq_some_iff {i : Instr} : c.completes .cycle = some i ↔
    c.fault = none ∧ c.core.At i ∧ c.core.obstacle i = none := by
  constructor
  · intro h
    cases hf : c.fault with
    | some f =>
      rw [completes, if_pos (halted_of_fault hf)] at h
      cases h
    | none =>
      rw [completes, if_neg (halted_of_running hf)] at h
      cases hc : c.core.cycle with
      | failed d f =>
        rw [advance_of_failed hc] at h
        cases h
      | done d =>
        obtain ⟨j, hj⟩ := Core.exists_at_of_done hc
        rw [advance_of_done hc, if_pos rfl, Core.instr?_eq hj] at h
        obtain rfl := Option.some.inj h
        exact ⟨rfl, hj, (Core.eq_after_of_done hj hc).2⟩
  · rintro ⟨hf, hi, ho⟩
    exact completes_of_at hf hi ho

lemma executed_append (c : Console) (ms ns : List Move) :
    c.executed (ms ++ ns) = c.executed ms ++ (c.moveAll ms).executed ns := by
  induction ms generalizing c with
  | nil => rfl
  | cons m ms ih =>
    rw [List.cons_append, executed, ih, ← List.append_assoc]
    rfl

lemma executed_course_cons (c : Console) (op : Operation) (ops : List Operation) :
    c.executed (c.course (op :: ops)) = c.executed (c.moves op) ++
      (c.perform op).console.executed ((c.perform op).console.course ops) := by
  rw [course, executed_append, ← perform_console]

lemma core_move (c : Console) (m : Move) :
    (c.move m).core = c.core ∨ (c.move m).core = c.core.turn m := by
  cases m with
  | cycle =>
    cases hf : c.fault with
    | some f => exact .inl (congrArg core (move_cycle_of_fault hf))
    | none =>
      rw [move_cycle_of_running hf, core_advance, Core.turn_cycle]
      exact .inr rfl
  | tick | keys keypad | clean | write data => exact .inr rfl

lemma above_moveAll {n : Nat} {ms : List Move}
    (h : ∀ ns, ns <+: ms → n < (c.moveAll ns).core.stack.length) :
    Core.Above n c.core (c.moveAll ms).core := by
  induction ms using List.reverseRecOn with
  | nil => exact .start (h [] List.prefix_rfl)
  | append_singleton ms m ih =>
    have hs := ih fun ns hn => h ns (hn.trans (List.prefix_append ms [m]))
    have hl := h (ms ++ [m]) List.prefix_rfl
    have hm : c.moveAll (ms ++ [m]) = (c.moveAll ms).move m := c.moveAll_append ms [m]
    rw [hm] at hl ⊢
    rcases (c.moveAll ms).core_move m with he | he
    · rwa [he]
    · rw [he] at hl ⊢
      exact .turn m hs hl

lemma length_move (c : Console) (m : Move) :
    (c.move m).core.stack.length + (c.completes m).toList.count .ret =
      c.core.stack.length + (c.completes m).toList.countP Instr.isCall := by
  cases m with
  | cycle =>
    cases hf : c.fault with
    | some f => rw [move_cycle_of_fault hf, completes, if_pos (halted_of_fault hf)]; rfl
    | none =>
      rw [move_cycle_of_running hf, completes, if_neg (halted_of_running hf)]
      cases hc : c.core.cycle with
      | failed d f =>
        rw [advance_of_failed hc, Core.stack_of_failed hc]
        rfl
      | done d =>
        obtain ⟨i, hi⟩ := Core.exists_at_of_done hc
        obtain ⟨rfl, ho⟩ := Core.eq_after_of_done hi hc
        rw [advance_of_done hc, Core.instr?_eq hi]
        exact Core.length_stackAfter ho
  | tick | keys keypad | clean | write data => rfl

lemma length_moveAll (c : Console) (ms : List Move) :
    (c.moveAll ms).core.stack.length + (c.executed ms).count .ret =
      c.core.stack.length + (c.executed ms).countP Instr.isCall := by
  induction ms generalizing c with
  | nil => rfl
  | cons m ms ih =>
    have hm := c.length_move m
    have hr := ih (c.move m)
    rw [executed, List.count_append, List.countP_append]
    change ((c.move m).moveAll ms).core.stack.length + _ = _
    omega

lemma nested_of_boot {s : Settings} (h : boot s = .ok c) (ms : List Move) : c.Nested ms := by
  have he : c.core.stack.length = 0 := by
    obtain ⟨ram, rfl⟩ := eq_of_boot h
    rfl
  constructor
  · have hl := c.length_moveAll ms
    omega
  · exact (moveAll_induction bounded_move ms (bounded_boot h)).core.depth

end Console

namespace Core

/-- As long as the stack stays deeper than it was at a call, as it may along any operations, the
address of the call lies on what the call found; a return that uncovers it goes on behind the call
and leaves the stack as it was. In every run the depth is the number of calls less that of
returns. -/
theorem calls_well_nested :
    (∀ {c d : Core} {t : Fin 4096}, c.At (.call t) → c.cycle = .done d →
      ∃ a : UInt16, (a.toNat : Int) = c.pc ∧ ∀ e, Above c.stack.length d e →
        (a :: c.stack.entries) <:+ e.stack.entries ∧
        (e.At .ret → e.stack.length = c.stack.length + 1 →
          ∃ f, e.cycle = .done f ∧ f.pc = c.pc + 2 ∧ f.stack = c.stack)) ∧
    (∀ {c : Console} {n : Nat} {ops : List Operation},
      (∀ ms, ms <+: c.course ops → n < (c.moveAll ms).core.stack.length) →
        Above n c.core (c.performAll ops).core) ∧
    ∀ {s : Settings} {c : Console}, Console.boot s = .ok c →
      (∀ ops, c.moveAll (c.course ops) = c.performAll ops) ∧ ∀ ms, c.Nested ms := by
  refine ⟨?_, ?_, ?_⟩
  · intro c d t hi hd
    obtain ⟨a, hs, ha⟩ := pushed_of_done hi hd
    refine ⟨a, ha, ?_⟩
    intro e he
    have hb : (a :: c.stack.entries) <:+ e.stack.entries :=
      suffix_of_above (hs ▸ List.suffix_rfl) rfl he
    refine ⟨hb, ?_⟩
    intro hr hl
    obtain ⟨f, hf, hp, ht⟩ := cycle_ret hr (hb.eq_of_length hl.symm).symm
    refine ⟨f, hf, ?_, ht⟩
    have hc := hi.1
    rw [hp, ha]
    exact Int.emod_eq_of_lt (by have := hc.1; omega) (by have := hc.2; omega)
  · intro c n ops h
    rw [← c.moveAll_course ops]
    exact Console.above_moveAll h
  · intro s c h
    exact ⟨c.moveAll_course, Console.nested_of_boot h⟩

def caller : Core where
  settings := .standard
  ram := Ram.zero.blit 0x200 [0x22, 0x02, 0x00, 0xEE]
  bank := RegisterBank.start 0x200
  stack := CallStack.empty
  panel := Panel.fresh
  timers := Countdown.zero
  keypad := Keypad.released

lemma caller_ram {k : Nat} (hk : k < 4) :
    caller.ram.get (0x200 + k) = [0x22, 0x02, 0x00, 0xEE][k] :=
  Ram.get_blit_add _ (by omega) hk

lemma at_call : caller.At (.call 0x202) := by
  refine ⟨⟨by decide, by decide⟩, ?_⟩
  have h0 := caller_ram (k := 0) (by decide)
  have h1 := caller_ram (k := 1) (by decide)
  rw [word, Ram.word, show caller.pc.toNat = 0x200 + 0 from rfl, h0, h1]
  rfl

def called : Core := (caller.after (.call 0x202)).turn .tick

lemma at_ret : called.At .ret := by
  refine ⟨⟨by decide, by decide⟩, ?_⟩
  have h2 := caller_ram (k := 2) (by decide)
  have h3 := caller_ram (k := 3) (by decide)
  rw [word, Ram.word, show called.pc.toNat = 0x200 + 2 from rfl,
    show called.ram = caller.ram from rfl, h2, h3]
  rfl

theorem calls_well_nested_caller :
    caller.cycle = .done (caller.after (.call 0x202)) ∧
      Above 0 (caller.after (.call 0x202)) called ∧
      (∃ f, called.cycle = .done f ∧ f.pc = 0x202 ∧ f.stack = caller.stack) ∧
      ∃ c, Console.boot .standard = .ok c ∧ c.Nested (c.course [.load [0x22, 0x00], .run 20]) := by
  have hd : caller.cycle = .done (caller.after (.call 0x202)) := by
    rw [cycle_eq at_call]
    rfl
  have ha : Above 0 (caller.after (.call 0x202)) called :=
    .turn .tick (.start (by decide)) (by decide)
  obtain ⟨a, -, hn⟩ := calls_well_nested.1 at_call hd
  obtain ⟨c, hc⟩ : ∃ c, Console.boot .standard = .ok c := ⟨_, rfl⟩
  exact ⟨hd, ha, (hn called ha).2 at_ret rfl, c, hc,
    (calls_well_nested.2.2 hc).2 _⟩

end Core

end Chip8
