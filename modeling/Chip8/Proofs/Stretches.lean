import Chip8.Proofs.Course
import Chip8.Proofs.Records

/-! Stretches of cycles: either all of their cycles complete, or those before the first fault do. -/

namespace Chip8

namespace Core

inductive Cycles : Nat → Core → Core → Prop
  | zero {c : Core} : Cycles 0 c c
  | succ {n : Nat} {c d e : Core} : c.cycle = .done d → Cycles n d e → Cycles (n + 1) c e

end Core

namespace Console

open Notice

/-- The stretch `t` is `s` extended by `n` cycles, or by those up to the first fault. -/
inductive Stretch.Extends (s : Stretch) (n : Nat) (t : Stretch) : Prop
  | whole (d : Core) : Core.Cycles n s.console.core d → t.completed = s.completed + n →
      t.console = { s.console with core := d } → errors t.reversed = errors s.reversed →
      s.Extends n t
  | upTo (m : Nat) (d e : Core) (f : Fault) : m < n → Core.Cycles m s.console.core d →
      d.cycle = .failed e f → t.completed = s.completed + m → t.console = ⟨e, some f⟩ →
      errors t.reversed = .halted f :: errors s.reversed → s.Extends n t

variable {c : Console}

lemma errors_reversed (s : Stretch) : errors (s.console.advanceNotices.reverse ++ s.reversed) =
    s.console.core.cycle.cause?.toList.map .halted ++ errors s.reversed := by
  rw [errors_append, errors_reverse, errors_advance]
  cases s.console.core.cycle.cause? <;> rfl

lemma extends_extend (s : Stretch) (n : Nat) : s.Extends n (s.extend n) := by
  induction n generalizing s with
  | zero => exact .whole s.console.core .zero rfl rfl rfl
  | succ n ih =>
    have he := errors_reversed s
    cases hc : s.console.core.cycle with
    | failed e f =>
      rw [hc] at he
      simp only [Stretch.extend, advance_of_failed hc]
      exact .upTo 0 s.console.core e f (Nat.succ_pos n) .zero hc rfl rfl he
    | done d =>
      rw [hc] at he
      simp only [Stretch.extend, advance_of_done hc]
      have hn (m : Nat) : s.completed + 1 + m = s.completed + (m + 1) := by omega
      rcases ih ⟨s.completed + 1, { s.console with core := d },
        s.console.advanceNotices.reverse ++ s.reversed⟩ with
        ⟨e, hy, ht, hs, hr⟩ | ⟨m, e, g, f, hm, hy, hg, ht, hs, hr⟩
      · exact .whole e (.succ hc hy) (ht.trans (hn n)) hs (hr.trans he)
      · exact .upTo (m + 1) e g f (Nat.succ_lt_succ hm) (.succ hc hy) hg (ht.trans (hn m)) hs
          (hr.trans (congrArg _ he))

lemma moveAll_of_cycles {n : Nat} {d : Core} (h : c.fault = none)
    (hy : Core.Cycles n c.core d) : c.moveAll (.replicate n .cycle) = ⟨d, none⟩ := by
  generalize hc : c.core = k at hy
  induction hy generalizing c with
  | zero =>
    obtain ⟨core, fault⟩ := c
    obtain rfl := hc
    obtain rfl := h
    rfl
  | @succ n k e d hd hy ih =>
    obtain rfl := hc
    rw [List.replicate_succ, moveAll, List.foldl_cons, move_cycle_of_running h, advance_of_done hd]
    exact ih h rfl

/-- The cycles left over after a fault find the console halted. -/
lemma moveAll_of_failed {m n : Nat} {d e : Core} {f : Fault} (h : c.fault = none) (hn : m < n)
    (hy : Core.Cycles m c.core d) (hf : d.cycle = .failed e f) :
    c.moveAll (.replicate n .cycle) = ⟨e, some f⟩ := by
  obtain ⟨k, rfl⟩ := Nat.exists_eq_add_of_lt hn
  rw [Nat.add_assoc, ← List.replicate_append_replicate, moveAll_append, moveAll_of_cycles h hy,
    List.replicate_succ, moveAll, List.foldl_cons, move_cycle_of_running rfl,
    advance_of_failed hf]
  exact moveAll_cycles_of_fault rfl k

lemma run_of_running (h : c.fault = none) {count : Int} (hn : 0 < count) :
    c.run count = ⟨((Stretch.mk 0 c []).extend count.toNat).console,
      .ok ((Stretch.mk 0 c []).extend count.toNat).completed,
      ((Stretch.mk 0 c []).extend count.toNat).reversed.reverse⟩ := by
  rw [run, if_neg (Int.not_le.mpr hn), h]

lemma playFrame_of_running (h : c.fault = none) :
    c.playFrame = ⟨((Stretch.mk 0 c []).extend c.settings.frameCycles).console.tick,
      .ok ((Stretch.mk 0 c []).extend c.settings.frameCycles).completed,
      ((Stretch.mk 0 c []).extend c.settings.frameCycles).reversed.reverse⟩ := by
  rw [playFrame, run_of_running h (Int.natCast_pos.mpr c.settings.frameCycles_pos)]
  rfl

lemma run_cases (h : c.fault = none) {n : Nat} (hn : 0 < n) :
    (∃ d notices, Core.Cycles n c.core d ∧ c.run n = ⟨⟨d, none⟩, .ok n, notices⟩) ∨
    ∃ m d e f notices, m < n ∧ Core.Cycles m c.core d ∧ d.cycle = .failed e f ∧
      c.run n = ⟨⟨e, some f⟩, .ok m, notices⟩ := by
  have hr := run_of_running h (Int.natCast_pos.mpr hn)
  rw [Int.toNat_natCast] at hr
  rcases extends_extend ⟨0, c, []⟩ n with ⟨d, hy, ht, hd, -⟩ | ⟨m, d, e, f, hm, hy, hg, ht, hd, -⟩
  · rw [ht, hd.trans (congrArg (Console.mk d) h), Nat.zero_add] at hr
    exact .inl ⟨d, _, hy, hr⟩
  · rw [ht, hd, Nat.zero_add] at hr
    exact .inr ⟨m, d, e, f, _, hm, hy, hg, hr⟩

lemma playFrame_of_moves (h : c.fault = none) :
    c.playFrame.console = (c.moveAll (.replicate c.settings.frameCycles .cycle)).tick := by
  have hm : c.moves .playFrame = .replicate c.settings.frameCycles .cycle ++ [.tick] :=
    if_neg (halted_of_running h)
  rw [playFrame_console, hm, moveAll_append]
  rfl

lemma errors_of_extends {s t : Stretch} {n : Nat} (h : s.Extends n t) (hf : s.console.fault = none)
    (hs : errors s.reversed = []) :
    errors t.reversed.reverse = t.console.fault.toList.map .halted := by
  rw [errors_reverse]
  cases h with
  | whole d _ _ hd hr =>
    rw [hr, hs, hd, hf]
    rfl
  | upTo m d e f _ _ _ _ hd hr =>
    rw [hr, hs, hd]
    rfl

lemma errors_run (h : c.fault = none) {count : Int} (hn : 0 < count) :
    errors (c.run count).notices = (c.run count).console.fault.toList.map .halted := by
  rw [run_of_running h hn]
  exact errors_of_extends (extends_extend _ _) h rfl

end Console

end Chip8
