import Chip8.Proofs.Cadence

/-! The pace of the timers. A round ticks when a period has passed since the last tick, and what has
passed beyond the period is lost, so between ticks lies anything from one period to two. -/

namespace Chip8

namespace Time

/-- Up to the `n`th, readings never go back, are at most a period apart, and are small enough for
their differences not to be rounded. -/
structure Regular (period : Rat) (readings : Nat → Rat) (n : Nat) : Prop where
  ordered : ∀ k < n, readings k ≤ readings (k + 1)
  close : ∀ k < n, readings (k + 1) - readings k ≤ period
  exact : ∀ i j, i ≤ j → j ≤ n →
    Binary64.round (readings j - readings i) = readings j - readings i

lemma floor_of_lag {period elapsed : Rat} {t : Nat} (h : 0 < period) (hl : t * period ≤ elapsed)
    (hu : elapsed < (2 * t + 1) * period) :
    ⌊(elapsed / period + 1) / 2⌋ ≤ (t : Int) ∧ (t : Int) ≤ ⌊elapsed / period⌋ := by
  constructor
  · rw [← Int.lt_add_one_iff, Int.floor_lt, div_lt_iff₀ two_pos, ← lt_sub_iff_add_lt,
      div_lt_iff₀ h]
    refine hu.trans_eq ?_
    push_cast
    ring
  · rw [Int.le_floor, le_div_iff₀ h]
    exact hl

lemma round_sub_eq {last now : Int} (hl : |last| < 2 ^ 52) (hn : |now| < 2 ^ 52) :
    Binary64.round (now / 1024 - last / 1024 : Rat) = now / 1024 - last / 1024 := by
  have hd : |now - last| < 2 ^ 53 := by
    have := abs_sub now last
    omega
  have hr := Binary64.round_eq_self (e := -10) hd (by norm_num)
  have h2 : (2 : Rat) ^ (-10 : Int) = 1 / 1024 := by norm_num
  rwa [h2, mul_one_div, Int.cast_sub, sub_div] at hr

namespace Regular

variable {period : Rat} {readings : Nat → Rat} {n i j : Nat}

lemma mono (h : Regular period readings n) (hj : j ≤ n) : Regular period readings j where
  ordered k hk := h.ordered k (hk.trans_le hj)
  close k hk := h.close k (hk.trans_le hj)
  exact i k hi hk := h.exact i k hi (hk.trans hj)

lemma le (h : Regular period readings n) (hi : i ≤ j) (hj : j ≤ n) : readings i ≤ readings j := by
  induction j, hi using Nat.le_induction with
  | base => exact le_rfl
  | succ j hi ih => exact (ih (Nat.le_of_succ_le hj)).trans (h.ordered j hj)

lemma due_iff (h : Regular period readings n) (hi : i ≤ j) (hj : j ≤ n) :
    due period (readings i) (readings j) = true ↔ period ≤ readings j - readings i := by
  rw [due, decide_eq_true_iff, h.exact i j hi hj]

end Regular

namespace Clock

/-- For each of the next `n` readings whether a timer is due that last ticked at `last`. -/
def dues (period last : Rat) (c : Clock) : Nat → List Bool
  | 0 => []
  | n + 1 =>
    let isDue := due period last c.read.1
    isDue :: c.read.2.dues period (if isDue then c.read.1 else last) n

variable {period : Rat} {readings : Nat → Rat} {n i k : Nat}

lemma take_dues (period last : Rat) (c : Clock) (h : k ≤ n) :
    (c.dues period last n).take k = c.dues period last k := by
  induction k generalizing last c n with
  | zero => rfl
  | succ k ih =>
    obtain ⟨n, rfl⟩ := Nat.exists_eq_add_of_le' (Nat.zero_lt_of_lt h)
    simp only [dues, List.take_succ_cons, ih _ _ (Nat.le_of_succ_le_succ h)]

/-- With `t` ticks since the `i`th reading, at which there was one too, no more than `2 t + 1`
periods have passed. -/
lemma lag_of_regular (hp : 0 < period) (hr : Regular period readings (k + n)) (hi : i ≤ k)
    (hl : readings k - readings i < period) {c : Clock}
    (hc : ∀ j, c.reading j = readings (k + 1 + j)) :
    ((c.dues period (readings i) n).count true : Rat) * period ≤ readings (k + n) - readings i ∧
      readings (k + n) - readings i <
        (2 * ((c.dues period (readings i) n).count true : Rat) + 1) * period := by
  induction n generalizing k i c with
  | zero =>
    have h0 := sub_nonneg.mpr (hr.le hi le_rfl)
    rw [dues, List.count_nil, Nat.cast_zero, zero_mul, mul_zero, zero_add, one_mul]
    exact ⟨h0, hl⟩
  | succ n ih =>
    have hk : k + (n + 1) = k + 1 + n := by omega
    rw [hk] at hr ⊢
    have hn : c.read.1 = readings (k + 1) := hc 0
    have hs (j : Nat) : c.read.2.reading j = readings (k + 1 + 1 + j) := by
      rw [Nat.add_right_comm]
      exact hc (j + 1)
    have hg := hr.close k (by omega)
    have hq := hr.due_iff (Nat.le_succ_of_le hi) (Nat.le_add_right (k + 1) n)
    cases hd : due period (readings i) (readings (k + 1)) with
    | false =>
      have hb : readings (k + 1) - readings i < period := by
        rw [← not_le, ← hq, hd]
        exact Bool.false_ne_true
      have he : c.dues period (readings i) (n + 1) =
          false :: c.read.2.dues period (readings i) n := by
        simp [dues, hn, hd]
      rw [he, List.count_cons_of_ne Bool.false_ne_true]
      exact ih hr (Nat.le_succ_of_le hi) hb hs
    | true =>
      have hb := hq.mp hd
      have he : c.dues period (readings i) (n + 1) =
          true :: c.read.2.dues period (readings (k + 1)) n := by
        simp [dues, hn, hd]
      obtain ⟨hlo, hhi⟩ := ih hr le_rfl (by rwa [sub_self]) hs
      rw [he, List.count_cons_self, Nat.cast_succ]
      constructor <;> linarith

end Clock

end Time

/-- Spins, with one cycle a frame and 64 ticks a second. -/
def Console.spinning : Console := ⟨{
  settings := { Settings.standard with
    clockHz := 64
    timerHz := 64
    clock_pos := by decide
    timer_pos := by decide }
  ram := Ram.zero.blit 0x200 [0x12, 0x00]
  bank := RegisterBank.start 0x200
  stack := CallStack.empty
  panel := Panel.fresh
  timers := ⟨10, 0⟩
  keypad := Keypad.released }, none⟩

namespace Session

variable {period : Rat} {s t : Session} {xs : List Round}

/-- Whether a round ticks is up to the clock alone. -/
lemma ticks_of_plays (h : Plays period s xs t) :
    xs.map Round.ticks = s.clock.dues period s.lastTick xs.length := by
  induction h with
  | nil => rfl
  | @cons s t x xs _ ht _ ih =>
    rw [List.map_cons, ih, List.length_cons, Time.Clock.dues, next, ht]

lemma countP_take_of_plays (h : Plays period s xs t) {k : Nat} (hk : k ≤ xs.length) :
    (xs.take k).countP Round.ticks = (s.clock.dues period s.lastTick k).count true := by
  rw [← Time.Clock.take_dues period s.lastTick s.clock hk, ← ticks_of_plays h, ← List.map_take,
    List.count, List.countP_map]
  congr 1
  funext x
  exact (beq_true _).symm

/-- As long as no round takes longer than a period, the timers tick at no more than their rate and
at no less than half of it: after each round, with `e` periods gone since the start, they have made
between `(e + 1) / 2` and `e` ticks, both rounded down. -/
theorem ticks_half_to_full_rate {c : Console} {w : Window} {clock : Time.Clock}
    {batches : List (List HostEvent)} (h : c.fault = none)
    (hp : Time.period? c.settings.timerHz = some period)
    (hr : Time.Regular period clock.reading (run c w clock batches).paces) :
    ∃ xs t last, Splits period ⟨c, w, clock.read.2, clock.read.1⟩ batches (run c w clock batches)
        xs t last ∧
      ∀ k ≤ xs.length,
        ⌊((clock.reading k - clock.reading 0) / period + 1) / 2⌋ ≤
            ((xs.take k).countP Round.ticks : Int) ∧
          ((xs.take k).countP Round.ticks : Int) ≤
            ⌊(clock.reading k - clock.reading 0) / period⌋ := by
  have h0 : 0 < period := Time.period_pos hp c.settings.timer_pos
  obtain ⟨xs, t, last, hs⟩ := run_splits hp h w clock batches
  rw [paces_of_splits hs] at hr
  refine ⟨xs, t, last, hs, ?_⟩
  intro k hk
  have hm := hr.mono hk
  rw [← Nat.zero_add k] at hm
  have hl := Time.Clock.lag_of_regular (c := clock.read.2) h0 hm le_rfl (by rwa [sub_self])
    (fun j => by rw [Nat.add_comm]; rfl)
  have ht : (xs.take k).countP Round.ticks =
      (clock.read.2.dues period (clock.reading 0) k).count true :=
    countP_take_of_plays hs.plays hk
  rw [Nat.zero_add] at hl
  rw [ht]
  exact Time.floor_of_lag h0 hl.1 hl.2

/-- Each round takes a little less than a period, which is 16 of 1024 parts of a second. -/
def briskClock : Time.Clock := ⟨[0, 15, 30, 45, 60, 75].map (· / 1024)⟩

def fiveBatches : List (List HostEvent) := List.replicate 5 []

lemma period_spinning : Time.period? Console.spinning.settings.timerHz = some (1 / 64) := by
  decide +kernel

lemma paces_spinning :
    (run Console.spinning (Window.opened 1) briskClock fiveBatches).paces = 5 := by
  decide +kernel

lemma regular_brisk : Time.Regular (1 / 64) briskClock.reading 5 := by
  have hs : ∀ k ≤ 5, briskClock.reading k = (15 * k : Int) / 1024 := by decide +kernel
  constructor
  · decide +kernel
  · decide +kernel
  · intro i j hi hj
    rw [hs i (hi.trans hj), hs j hj]
    apply Time.round_sub_eq <;> rw [abs_of_nonneg (by positivity)] <;> omega

theorem ticks_half_to_full_rate_spinning : Console.spinning.fault = none ∧
    Time.period? Console.spinning.settings.timerHz = some (1 / 64) ∧
    Time.Regular (1 / 64) briskClock.reading
      (run Console.spinning (Window.opened 1) briskClock fiveBatches).paces ∧
    ∃ xs t last, Splits (1 / 64)
        ⟨Console.spinning, Window.opened 1, briskClock.read.2, briskClock.read.1⟩ fiveBatches
        (run Console.spinning (Window.opened 1) briskClock fiveBatches) xs t last ∧
      2 ≤ (xs.take 5).countP Round.ticks ∧ (xs.take 5).countP Round.ticks ≤ 4 := by
  have hr : Time.Regular (1 / 64) briskClock.reading
      (run Console.spinning (Window.opened 1) briskClock fiveBatches).paces := by
    rw [paces_spinning]
    exact regular_brisk
  obtain ⟨xs, t, last, hs, hk⟩ := ticks_half_to_full_rate rfl period_spinning hr
  have hn : 5 ≤ xs.length := by rw [← paces_of_splits hs, paces_spinning]
  obtain ⟨hl, hu⟩ := hk 5 hn
  have h2 : ⌊((briskClock.reading 5 - briskClock.reading 0) / (1 / 64) + 1) / 2⌋ = 2 := by
    decide +kernel
  have h4 : ⌊(briskClock.reading 5 - briskClock.reading 0) / (1 / 64)⌋ = 4 := by
    decide +kernel
  rw [h2] at hl
  rw [h4] at hu
  exact ⟨rfl, period_spinning, hr, xs, t, last, hs, by omega, by omega⟩

/-- After five rounds, and more than four periods, there have been two ticks. -/
theorem ticks_fall_behind : Console.spinning.fault = none ∧
    Time.period? Console.spinning.settings.timerHz = some (1 / 64) ∧
    Time.Regular (1 / 64) briskClock.reading 5 ∧
    (run Console.spinning (Window.opened 1) briskClock fiveBatches).session.console.fault = none ∧
    ∃ xs t last, Splits (1 / 64)
        ⟨Console.spinning, Window.opened 1, briskClock.read.2, briskClock.read.1⟩ fiveBatches
        (run Console.spinning (Window.opened 1) briskClock fiveBatches) xs t last ∧
      xs.length = 5 ∧
      ¬ ⌊(briskClock.reading 5 - briskClock.reading 0) / (1 / 64)⌋ - 1 ≤
        ((xs.take 5).countP Round.ticks : Int) := by
  obtain ⟨xs, t, last, hs⟩ :=
    run_splits period_spinning rfl (Window.opened 1) briskClock fiveBatches
  have hn : xs.length = 5 := (paces_of_splits hs).symm.trans paces_spinning
  have ht : (xs.take 5).countP Round.ticks = 2 :=
    (countP_take_of_plays hs.plays hn.ge).trans (by decide +kernel)
  have h4 : ⌊(briskClock.reading 5 - briskClock.reading 0) / (1 / 64)⌋ = 4 := by
    decide +kernel
  refine ⟨rfl, period_spinning, regular_brisk, by decide +kernel, xs, t, last, hs, hn, ?_⟩
  rw [ht, h4]
  decide

end Session

end Chip8
