import Chip8.Proofs.Calls
import Chip8.Proofs.Rounds

/-! What a window shows. Every whole round ends with the screen in the window, and it renders when
there is something new to see. -/

namespace Chip8

namespace Core

variable {c d : Core} {i : Instr}

lemma dirty_panelAfter_iff (h : c.obstacle i = none) :
    (c.panelAfter i).dirty = true ↔ c.panel.dirty = true ∨ i.paints := by
  cases i with
  | clear => simp [panelAfter, Panel.clear, Instr.paints]
  | draw x y n =>
    simp [panelAfter, (c.obstacle_draw_iff x y n).mp h, Panel.paint, Instr.paints]
  | _ => simp [panelAfter, Instr.paints]

end Core

namespace Console

variable {c : Console} {d : Core} {i : Instr} {n : Nat}

/-- One of the first `n` cycles completes an instruction that paints. -/
def Paints (c : Console) (n : Nat) : Prop :=
  ∃ i ∈ c.executed (.replicate n .cycle), i.paints

lemma executed_succ (hf : c.fault = none) (hi : c.core.At i) (hd : c.core.cycle = .done d)
    (n : Nat) : c.executed (.replicate (n + 1) .cycle) =
      i :: (⟨d, none⟩ : Console).executed (.replicate n .cycle) := by
  have hm : c.move .cycle = ⟨d, none⟩ := by
    rw [move_cycle_of_running hf, advance_of_done hd, ← hf]
  have hc : c.completes .cycle = some i :=
    completes_of_at hf hi (Core.eq_after_of_done hi hd).2
  rw [List.replicate_succ, executed, hm, hc]
  rfl

lemma panel_of_cycles (hf : c.fault = none) (hy : Core.Cycles n c.core d) :
    (d.panel.dirty = true ↔ c.core.panel.dirty = true ∨ c.Paints n) ∧
      (¬ c.Paints n → d.panel.screen = c.core.panel.screen) := by
  generalize hc : c.core = k at hy
  induction hy generalizing c with
  | zero => simp [Paints, executed]
  | @succ n k e d he hy ih =>
    obtain rfl := hc
    obtain ⟨i, hi⟩ := Core.exists_at_of_done he
    obtain ⟨rfl, ho⟩ := Core.eq_after_of_done hi he
    obtain ⟨hd, hs⟩ := ih (c := ⟨c.core.after i, none⟩) rfl rfl
    have hp : c.Paints (n + 1) ↔ i.paints ∨ (⟨c.core.after i, none⟩ : Console).Paints n := by
      simp only [Paints, executed_succ hf hi he, List.exists_mem_cons_iff]
    constructor
    · rw [hd, hp, ← or_assoc]
      exact or_congr_left (Core.dirty_panelAfter_iff ho)
    · rw [hp, not_or]
      rintro ⟨hn, hl⟩
      exact (hs hl).trans (congrArg Panel.screen (Core.panelAfter_eq hn))

lemma poll_frame (c : Console) :
    c.poll.1 = if c.core.panel.dirty then some c.core.panel.screen else none := by
  rw [poll]
  split <;> rfl

lemma poll_panel (c : Console) : c.poll.2.core.panel = ⟨c.core.panel.screen, false⟩ := by
  cases hd : c.core.panel.dirty with
  | true =>
    rw [poll, if_pos hd]
    rfl
  | false =>
    rw [poll, if_neg (Bool.eq_false_iff.mp hd), ← hd]

end Console

namespace Round

def frames (xs : List Round) : List Screen :=
  xs.filterMap shown

/-- After the rounds before it, the round leaves the screen in the window. -/
structure Current (before : List Round) (x : Round) : Prop where
  clean : x.paced.core.panel.dirty = false
  frame : (frames (before ++ [x])).getLast? = some x.paced.core.panel.screen
  shows : x.shown.isSome = true ↔
    before = [] ∨ x.handled.Paints x.handled.settings.frameCycles

variable {c : Console} {x : Round}

lemma Follows.panel (h : x.Follows c) : x.paced.core.panel.dirty = false ∧
    (x.shown.isSome = true ↔
      c.core.panel.dirty = true ∨ x.handled.Paints x.handled.settings.frameCycles) ∧
    x.shown.getD c.core.panel.screen = x.paced.core.panel.screen := by
  obtain ⟨d, hy, hp⟩ := h.played
  obtain ⟨hd, hs⟩ := Console.panel_of_cycles h.running hy
  rw [Console.panel_handle h.stays] at hd hs
  let e : Console := if x.ticks then (⟨d, none⟩ : Console).tick else ⟨d, none⟩
  have he : e.core.panel = d.panel := by
    cases ht : x.ticks <;> simp only [e, ht] <;> rfl
  have hx : x.shown = e.poll.1 := congrArg Prod.fst hp
  have hc : x.paced.core.panel = ⟨d.panel.screen, false⟩ := by
    rw [← he, ← e.poll_panel]
    exact congrArg (Core.panel ∘ Console.core ∘ Prod.snd) hp
  rw [hc, hx, e.poll_frame, he]
  refine ⟨rfl, ?_, ?_⟩
  · rw [← hd]
    split <;> simp_all
  · split
    · rfl
    · rename_i hn
      exact (hs fun hq => hn (hd.mpr (.inr hq))).symm

end Round

namespace Session

variable {period : Rat} {s t : Session} {x : Round} {xs before later : List Round}

lemma plays_append (h : Plays period s (before ++ x :: later) t) :
    ∃ u, Plays period s before u ∧ x.Follows u.console ∧
      Plays period s (before ++ [x]) (u.next x) := by
  induction before generalizing s with
  | nil =>
    cases h with
    | cons hx ht _ => exact ⟨s, .nil, hx, .cons hx ht .nil⟩
  | cons y ys ih =>
    cases h with
    | cons hy ht hr =>
      obtain ⟨u, hu, hx, hl⟩ := ih hr
      exact ⟨u, .cons hy ht hu, hx, .cons hy ht hl⟩

/-- From a session without news, the last frame is what it starts with or has been shown since. -/
lemma frames_of_clean (h : Plays period s xs t) (hd : s.console.core.panel.dirty = false) :
    t.console.core.panel.dirty = false ∧
      (Round.frames xs).getLast?.getD s.console.core.panel.screen =
        t.console.core.panel.screen := by
  induction h with
  | nil => exact ⟨hd, rfl⟩
  | @cons s t x xs hx _ _ ih =>
    obtain ⟨hc, -, hs⟩ := hx.panel
    obtain ⟨ht, hl⟩ := ih hc
    refine ⟨ht, ?_⟩
    rw [← hl]
    change _ = (Round.frames xs).getLast?.getD x.paced.core.panel.screen
    rw [← hs, Round.frames, List.filterMap_cons]
    cases x.shown with
    | none => rfl
    | some frame =>
      rw [List.getLast?_cons]
      rfl

lemma frames_of_plays (h : Plays period s xs t) (hd : s.console.core.panel.dirty = true)
    (hn : xs ≠ []) : t.console.core.panel.dirty = false ∧
      (Round.frames xs).getLast? = some t.console.core.panel.screen := by
  cases h with
  | nil => exact absurd rfl hn
  | @cons _ _ x xs hx _ hr =>
    obtain ⟨hc, hi, hs⟩ := hx.panel
    obtain ⟨ht, hl⟩ := frames_of_clean hr hc
    -- the first round renders, so it does not matter what the window showed before it
    obtain ⟨frame, hf⟩ := Option.isSome_iff_exists.mp (hi.mpr (.inl hd))
    refine ⟨ht, ?_⟩
    have he : frame = (s.next x).console.core.panel.screen := by
      rw [hf] at hs
      exact hs
    rw [← hl, ← he, Round.frames, List.filterMap_cons, hf, List.getLast?_cons]
    rfl

lemma current_of_plays (h : Plays period s (before ++ x :: later) t)
    (hd : s.console.core.panel.dirty = true) : Round.Current before x := by
  obtain ⟨u, hu, hx, hl⟩ := plays_append h
  obtain ⟨hc, hf⟩ := frames_of_plays hl hd (List.append_ne_nil_of_right_ne_nil _ (by simp))
  refine ⟨hc, hf, hx.panel.2.1.trans (or_congr_left ?_)⟩
  by_cases hb : before = []
  · subst hb
    cases hu
    exact iff_of_true hd rfl
  · rw [(frames_of_plays hu hd hb).1]
    exact iff_of_false Bool.false_ne_true hb

lemma closed_iff_of_ends {rest : List (List HostEvent)} {last : List Call} {u : Session}
    {ending : Ending} (hf : s.console.fault = none) (h : Ends s rest last u ending)
    (hi : ending ≠ .interrupted) : ending = .closed ↔ u.console.fault = none := by
  cases h with
  | exhausted => exact iff_of_true rfl hf
  | closed _ _ hd => exact iff_of_true rfl hd
  | interrupted _ => exact absurd rfl hi
  | halted _ _ _ _ _ _ => exact iff_of_false Ending.noConfusion (Option.some_ne_none _)

/-- A session that starts with news is whole rounds, each of which leaves no news and the screen in
the window, and renders once if it is the first or something was painted in it; the round in which a
cycle stops is left as the fault leaves it. A session that is over and was not interrupted is closed
just if its console runs. -/
theorem window_shows_screen {c : Console} {w : Window} {clock : Time.Clock}
    {batches : List (List HostEvent)} (h : c.fault = none) (hd : c.core.panel.dirty = true)
    (hp : Time.period? c.settings.timerHz = some period) :
    ∃ xs t last, Splits period ⟨c, w, clock.read.2, clock.read.1⟩ batches (run c w clock batches)
        xs t last ∧
      (∀ before x later, xs = before ++ x :: later → Round.Current before x) ∧
      (run c w clock batches).Returns
        (if (run c w clock batches).session.console.halted then Launch.faultStatus
          else Launch.okStatus) ∧
      ((run c w clock batches).ending ≠ .interrupted →
        ((run c w clock batches).ending = .closed ↔
          (run c w clock batches).session.console.fault = none)) := by
  rw [run_eq hp]
  obtain ⟨xs, t, last, hs⟩ := exists_splits period ⟨c, w, clock.read.2, clock.read.1⟩ batches h
  obtain ⟨rest, -, he⟩ := hs.ends
  refine ⟨xs, t, last, hs, ?_, returns_of_ends hs.running he, closed_iff_of_ends hs.running he⟩
  rintro before x later rfl
  exact current_of_plays hs.plays hd

theorem window_shows_screen_clearing : ∃ period, Console.clearing.fault = none ∧
    Console.clearing.core.panel.dirty = true ∧
    Time.period? Console.clearing.settings.timerHz = some period ∧
    ∃ xs t last, Splits period ⟨Console.clearing, Window.opened 1, ⟨[5]⟩, 0⟩ [[.other], [.quit]]
        (run Console.clearing (Window.opened 1) ⟨[0, 5]⟩ [[.other], [.quit]]) xs t last ∧
      ∀ before x later, xs = before ++ x :: later → Round.Current before x := by
  have hp : Time.period? Console.clearing.settings.timerHz =
      some (4803839602528529 / 288230376151711744) := by
    decide +kernel
  obtain ⟨xs, t, last, hs, hc, -, -⟩ :=
    @window_shows_screen _ Console.clearing (Window.opened 1) ⟨[0, 5]⟩ [[.other], [.quit]] rfl rfl
      hp
  exact ⟨_, rfl, rfl, hp, xs, t, last, hs, hc⟩

end Session

end Chip8
