import Chip8.Proofs.Schedules
import Chip8.Proofs.Stretches
import Mathlib.Algebra.GroupWithZero.Nat

/-! Batches of cycles. However a number of cycles is split into batches, the same cycles are
executed, up to the same fault. -/

namespace Chip8

/-- How many cycles an answer tells of; a refusal tells of none. -/
def Reply.cycles (r : Reply Answer) : Nat :=
  match r.result with
  | .ok (.count n) => n
  | _ => 0

namespace Console

/-- A batch of `n` cycles led from `c` to `d` and completed `r` of them: all, or those before the
first fault. -/
inductive Batch (c : Console) (n : Nat) (d : Console) : Nat → Prop
  | whole {core : Core} : Core.Cycles n c.core core → d = ⟨core, none⟩ → Batch c n d n
  | short {r : Nat} {core after : Core} {f : Fault} : r < n → Core.Cycles r c.core core →
      core.cycle = .failed after f → d = ⟨after, some f⟩ → Batch c n d r

variable {c d : Console} {s : Stretch} {m n r : Nat} {f : Fault}

lemma extend_whole (n : Nat) (h : (s.extend m).completed = s.completed + m) :
    s.extend (m + n) = (s.extend m).extend n := by
  induction m generalizing s with
  | zero => rw [Nat.zero_add, Stretch.extend]
  | succ m ih =>
    have hn : s.completed + (m + 1) = s.completed + 1 + m := by omega
    rw [Nat.add_right_comm]
    cases hc : s.console.core.cycle with
    | done d =>
      simp only [Stretch.extend, advance_of_done hc] at h ⊢
      exact ih (h.trans hn)
    | failed d f =>
      simp only [Stretch.extend, advance_of_failed hc] at h
      omega

lemma extend_short (n : Nat) (h : (s.extend m).completed ≠ s.completed + m) :
    s.extend (m + n) = s.extend m := by
  induction m generalizing s with
  | zero => exact absurd rfl h
  | succ m ih =>
    have hn : s.completed + (m + 1) = s.completed + 1 + m := by omega
    rw [Nat.add_right_comm]
    cases hc : s.console.core.cycle with
    | done d =>
      simp only [Stretch.extend, advance_of_done hc] at h ⊢
      exact ih fun he => h (he.trans hn.symm)
    | failed d f => simp only [Stretch.extend, advance_of_failed hc]

/-- What a stretch adds does not depend on what came before. -/
lemma extend_eq (s : Stretch) (n : Nat) : s.extend n =
    ⟨s.completed + (Stretch.extend ⟨0, s.console, []⟩ n).completed,
      (Stretch.extend ⟨0, s.console, []⟩ n).console,
      (Stretch.extend ⟨0, s.console, []⟩ n).reversed ++ s.reversed⟩ := by
  induction n generalizing s with
  | zero => rfl
  | succ n ih =>
    cases hc : s.console.core.cycle with
    | done d =>
      simp only [Stretch.extend, advance_of_done hc]
      rw [ih, ih ⟨0 + 1, _, _⟩]
      simp [Nat.add_assoc]
    | failed d f => simp [Stretch.extend, advance_of_failed hc]

lemma run_eq_extend (h : c.fault = none) (n : Nat) :
    c.run n = ⟨(Stretch.extend ⟨0, c, []⟩ n).console, .ok (Stretch.extend ⟨0, c, []⟩ n).completed,
      (Stretch.extend ⟨0, c, []⟩ n).reversed.reverse⟩ := by
  cases n with
  | zero => rfl
  | succ n => exact run_of_running h (Int.natCast_pos.mpr n.succ_pos)

lemma run_toNat (c : Console) (count : Int) : c.run count.toNat = c.run count := by
  by_cases h : count ≤ 0
  · rw [Int.toNat_of_nonpos h, run, run, if_pos h]
    rfl
  · rw [Int.toNat_of_nonneg (by omega)]

lemma batch_run (h : c.fault = none) (n : Nat) :
    ∃ r, (c.run n).result = .ok r ∧ c.Batch n (c.run n).console r := by
  rcases n.eq_zero_or_pos with rfl | hn
  · exact ⟨0, rfl, .whole .zero (congrArg (Console.mk c.core) h)⟩
  · rcases run_cases h hn with ⟨d, notices, hy, hr⟩ | ⟨r, d, e, f, notices, hl, hy, hf, hr⟩
    · rw [hr]
      exact ⟨n, rfl, .whole hy rfl⟩
    · rw [hr]
      exact ⟨r, rfl, .short hl hy hf rfl⟩

lemma Batch.le (h : c.Batch n d r) : r ≤ n := by
  cases h with
  | whole _ _ => exact Nat.le_refl n
  | short hr _ _ _ => exact Nat.le_of_lt hr

lemma Batch.lt_iff (h : c.Batch n d r) : r < n ↔ d.halted = true := by
  cases h with
  | whole _ hd =>
    rw [hd]
    exact iff_of_false (Nat.lt_irrefl n) Bool.false_ne_true
  | short hr _ _ hd =>
    rw [hd]
    exact iff_of_true hr rfl

lemma fault_of_whole (h : c.fault = none) (hm : (c.run m).result = .ok m) :
    (c.run m).console.fault = none := by
  obtain ⟨r, hr, hb⟩ := c.batch_run h m
  obtain rfl : m = r := Except.ok.inj (hm.symm.trans hr)
  cases hb with
  | whole _ hd => rw [hd]
  | short hr _ _ _ => exact absurd hr (Nat.lt_irrefl m)

lemma fault_of_short (h : c.fault = none) (hm : (c.run m).result ≠ .ok m) :
    ∃ f, (c.run m).console.fault = some f := by
  obtain ⟨r, hr, hb⟩ := c.batch_run h m
  cases hb with
  | whole _ _ => exact absurd hr hm
  | short _ _ _ hd => exact ⟨_, congrArg Console.fault hd⟩

lemma run_add_whole (h : c.fault = none) (n : Nat) (hm : (c.run m).result = .ok m) :
    ∃ k, ((c.run m).console.run n).result = .ok k ∧
      c.run (m + n : Nat) = ⟨((c.run m).console.run n).console, .ok (m + k),
        (c.run m).notices ++ ((c.run m).console.run n).notices⟩ := by
  have hf := fault_of_whole h hm
  rw [run_eq_extend h] at hm hf ⊢
  have hc : (Stretch.extend ⟨0, c, []⟩ m).completed = m := Except.ok.inj hm
  rw [run_eq_extend hf]
  refine ⟨_, rfl, ?_⟩
  rw [run_eq_extend h, extend_whole n (hc.trans (Nat.zero_add m).symm), extend_eq, hc,
    List.reverse_append]

lemma run_add_short (h : c.fault = none) (n : Nat) (hm : (c.run m).result ≠ .ok m) :
    c.run (m + n : Nat) = c.run m := by
  rw [run_eq_extend h] at hm
  rw [run_eq_extend h, run_eq_extend h, extend_short n]
  intro he
  exact hm (congrArg Except.ok (he.trans (Nat.zero_add m)))

/-- How many cycles the batches of a list ask for; those of fewer than one ask for none. -/
def demand (counts : List Int) : Nat :=
  (counts.map Int.toNat).sum

lemma batches_of_fault (h : c.fault = some f) (counts : List Int) :
    c.performAll (counts.map .run) = c ∧
      ((c.replies (counts.map .run)).map Reply.cycles).sum = 0 := by
  induction counts with
  | nil => exact ⟨rfl, rfl⟩
  | cons count counts ih =>
    have hp : (c.perform (.run count)).console = c ∧ (c.perform (.run count)).cycles = 0 := by
      by_cases hn : 0 < count
      · rw [perform, run_of_fault h hn]
        exact ⟨rfl, rfl⟩
      · rw [perform, run, if_pos (Int.not_lt.mp hn)]
        exact ⟨rfl, rfl⟩
    rw [List.map_cons, performAll, List.foldl_cons, replies, List.map_cons, List.sum_cons, hp.1,
      hp.2, ih.2]
    exact ⟨ih.1, rfl⟩

lemma run_batches (h : c.fault = none) (counts : List Int) :
    c.performAll (counts.map .run) = (c.run (demand counts)).console ∧
      (c.run (demand counts)).result =
        .ok ((c.replies (counts.map .run)).map Reply.cycles).sum := by
  induction counts generalizing c with
  | nil => exact ⟨rfl, rfl⟩
  | cons count counts ih =>
    have hd : demand (count :: counts) = count.toNat + demand counts := rfl
    have hp : (c.perform (.run count)).console = (c.run count.toNat).console := by
      rw [perform, ← c.run_toNat count]
      rfl
    have hc {r : Nat} (hr : (c.run count.toNat).result = .ok r) :
        (c.perform (.run count)).cycles = r := by
      rw [run_toNat] at hr
      rw [perform, Reply.cycles, Reply.map, hr]
      rfl
    rw [List.map_cons, performAll, List.foldl_cons, replies, List.map_cons, List.sum_cons, hp, hd]
    by_cases hm : (c.run count.toNat).result = .ok count.toNat
    · obtain ⟨k, hk, he⟩ := run_add_whole h (demand counts) hm
      obtain ⟨hl, hs⟩ := ih (fault_of_whole h hm)
      rw [he, hc hm, ← Except.ok.inj (hk.symm.trans hs)]
      exact ⟨hl, rfl⟩
    · -- the fault ends this batch; those left over are refused
      obtain ⟨f, hf⟩ := fault_of_short h hm
      obtain ⟨r, hr, -⟩ := c.batch_run h count.toNat
      obtain ⟨hl, hs⟩ := batches_of_fault hf counts
      rw [run_add_short h _ hm, hc hr, hs]
      exact ⟨hl, hr⟩

/-- A batch executes cycles up to its number or the first fault; batches one after the other
execute what a single one of their total does, and those of fewer than one cycle nothing. -/
theorem batches_compose :
    (∀ (c : Console) (count : Int), count ≤ 0 → c.run count = c.answer (.ok 0)) ∧
    ∀ c : Console, c.fault = none →
      (∀ n : Nat, ∃ r ≤ n, (c.run n).result = .ok r ∧
        (r < n ↔ (c.run n).console.halted = true) ∧ c.Batch n (c.run n).console r) ∧
      (∀ m n : Nat, (c.run m).result = .ok m → ∃ k, ((c.run m).console.run n).result = .ok k ∧
        c.run (m + n : Nat) = ⟨((c.run m).console.run n).console, .ok (m + k),
          (c.run m).notices ++ ((c.run m).console.run n).notices⟩) ∧
      (∀ m n : Nat, (c.run m).result ≠ .ok m → c.run (m + n : Nat) = c.run m) ∧
      ∀ counts, c.performAll (counts.map .run) = (c.run (demand counts)).console ∧
        (c.run (demand counts)).result =
          .ok ((c.replies (counts.map .run)).map Reply.cycles).sum := by
  refine ⟨fun c count hn => if_pos hn, ?_⟩
  intro c h
  refine ⟨?_, fun m n => run_add_whole h n, fun m n => run_add_short h n, run_batches h⟩
  intro n
  obtain ⟨r, hr, hb⟩ := c.batch_run h n
  exact ⟨r, hb.le, hr, hb.lt_iff, hb⟩

theorem batches_compose_counting : counting.fault = none ∧
    (counting.run 1).result = .ok 1 ∧ (counting.run 2).result = .ok 1 ∧
    (∃ k, ((counting.run 1).console.run 1).result = .ok k ∧
      (counting.run 2).result = .ok (1 + k)) ∧
    (counting.run 2).console.halted = true ∧ counting.run 5 = counting.run 2 ∧
    counting.performAll ([1, -4, 1].map .run) = (counting.run 2).console := by
  have h1 : (counting.run 1).result = .ok 1 := by decide +kernel
  have h2 : (counting.run 2).result = .ok 1 := by decide +kernel
  obtain ⟨hb, hw, hs, hc⟩ := batches_compose.2 counting rfl
  obtain ⟨r, -, hr, hh, -⟩ := hb 2
  obtain rfl : r = 1 := Except.ok.inj (hr.symm.trans h2)
  obtain ⟨k, hk, he⟩ := hw 1 1 h1
  refine ⟨rfl, h1, h2, ⟨k, hk, congrArg Reply.result he⟩, hh.mp (by decide), ?_, (hc _).1⟩
  refine hs 2 3 fun he => ?_
  cases h2.symm.trans he

end Console

end Chip8
