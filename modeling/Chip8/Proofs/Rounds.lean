import Chip8.Launch
import Chip8.Proofs.HostKeys
import Chip8.Proofs.Stretches

/-! Sessions taken apart: the rounds that are played to their end, and how the last one ends. -/

namespace Chip8

/-- A round that is played to its end, as its window sees it. -/
structure Round where
  events : List HostEvent
  handled : Console
  ticks : Bool
  shown : Option Screen
  paced : Console

namespace Round

def calls (x : Round) : List Call :=
  .handled true x.handled ::
    (x.shown.toList.map .rendered ++ [.paced x.paced.settings.timerHz x.paced])

/-- All cycles of the round complete; then the timers may tick, and a poll comes last. -/
structure Follows (c : Console) (x : Round) : Prop where
  quiet : .interrupt ∉ x.events
  stays : c.handle x.events = (true, x.handled)
  running : x.handled.fault = none
  played : ∃ d, Core.Cycles x.handled.settings.frameCycles x.handled.core d ∧
    (x.shown, x.paced) = (if x.ticks then (⟨d, none⟩ : Console).tick else ⟨d, none⟩).poll

end Round

namespace Console

lemma handle_eq (c : Console) (batch : List HostEvent) :
    ∃ keypad, (c.handle batch).2 = c.move (.keys keypad) := by
  rw [(c.handle_eq_foldl batch).1]
  exact ⟨_, (c.heeds_foldl _).rest⟩

lemma fault_handle {c d : Console} {batch : List HostEvent} {stays : Bool}
    (h : c.handle batch = (stays, d)) : d.fault = c.fault := by
  obtain ⟨keypad, hk⟩ := c.handle_eq batch
  obtain rfl : d = c.move (.keys keypad) := by rwa [h] at hk
  rfl

lemma panel_handle {c d : Console} {batch : List HostEvent} {stays : Bool}
    (h : c.handle batch = (stays, d)) : d.core.panel = c.core.panel := by
  obtain ⟨keypad, hk⟩ := c.handle_eq batch
  obtain rfl : d = c.move (.keys keypad) := by rwa [h] at hk
  rfl

lemma fault_poll (c : Console) : c.poll.2.fault = c.fault := by
  rw [poll]
  split <;> rfl

end Console

lemma Round.Follows.fault_paced {c : Console} {x : Round} (h : x.Follows c) :
    x.paced.fault = none := by
  obtain ⟨d, -, hp⟩ := h.played
  have hd : x.paced = (if x.ticks then (⟨d, none⟩ : Console).tick else ⟨d, none⟩).poll.2 :=
    congrArg Prod.snd hp
  rw [hd, Console.fault_poll]
  cases x.ticks <;> rfl

namespace Session

open Notice

def next (s : Session) (x : Round) : Session where
  console := x.paced
  window := x.shown.elim s.window s.window.render
  clock := s.clock.read.2
  lastTick := if x.ticks then s.clock.read.1 else s.lastTick

inductive Plays (period : Rat) : Session → List Round → Session → Prop
  | nil {s : Session} : Plays period s [] s
  | cons {s t : Session} {x : Round} {xs : List Round} : x.Follows s.console →
      x.ticks = Time.due period s.lastTick s.clock.read.1 → Plays period (s.next x) xs t →
      Plays period s (x :: xs) t

/-- How a session ends with what is left of its batches: its last calls, what it leaves and why. -/
inductive Ends (s : Session) : List (List HostEvent) → List Call → Session → Ending → Prop
  | exhausted : Ends s [] [.handled false s.console] s .closed
  | closed {batch : List HostEvent} {later : List (List HostEvent)} {d : Console} :
      .interrupt ∉ batch → s.console.handle batch = (false, d) → d.fault = none →
      Ends s (batch :: later) [.handled false d] { s with console := d } .closed
  | interrupted {batch : List HostEvent} {later : List (List HostEvent)} :
      .interrupt ∈ batch → Ends s (batch :: later) [] s .interrupted
  | halted {batch : List HostEvent} {later : List (List HostEvent)} {m : Nat} {d : Console}
      {e g : Core} {f : Fault} :
      .interrupt ∉ batch → s.console.handle batch = (true, d) → d.fault = none →
      m < d.settings.frameCycles → Core.Cycles m d.core e → e.cycle = .failed g f →
      Ends s (batch :: later) [.handled true d] { s with console := ⟨g, some f⟩ } (.halted f)

structure Splits (period : Rat) (s : Session) (batches : List (List HostEvent)) (r : Record)
    (xs : List Round) (t : Session) (last : List Call) : Prop where
  plays : Plays period s xs t
  running : t.console.fault = none
  ends : ∃ rest, batches = xs.map Round.events ++ rest ∧ Ends t rest last r.session r.ending
  calls : r.calls = xs.flatMap Round.calls ++ last

variable {period : Rat} {s t : Session} {x : Round} {xs : List Round}

lemma tickWhenDue_eq (s : Session) (period : Rat) : s.tickWhenDue period =
    { s with
      console := if Time.due period s.lastTick s.clock.read.1 then s.console.tick else s.console
      clock := s.clock.read.2
      lastTick :=
        if Time.due period s.lastTick s.clock.read.1 then s.clock.read.1 else s.lastTick } := by
  cases hc : s.clock.read with
  | mk now clock =>
    simp only [tickWhenDue, hc]
    split <;> rfl

lemma present_eq (s : Session) : s.present = (s.console.poll.1.toList.map .rendered,
    { s with
      console := s.console.poll.2
      window := s.console.poll.1.elim s.window s.window.render }) := by
  rw [present]
  cases s.console.poll with
  | mk frame c => cases frame <;> rfl

/-- The whole round that a batch makes when all of its cycles complete. -/
def round (s : Session) (period : Rat) (batch : List HostEvent) (d : Console) (e : Core) : Round :=
  let ticks := Time.due period s.lastTick s.clock.read.1
  let polled := (if ticks then (⟨e, none⟩ : Console).tick else ⟨e, none⟩).poll
  ⟨batch, d, ticks, polled.1, polled.2⟩

lemma tickWhenDue_present (s : Session) (period : Rat) (batch : List HostEvent) (d : Console)
    (e : Core) : ({ s with console := ⟨e, none⟩ }.tickWhenDue period).present =
      ((s.round period batch d e).shown.toList.map .rendered,
        s.next (s.round period batch d e)) := by
  rw [tickWhenDue_eq, present_eq]
  rfl

lemma rounds_of_whole {batch : List HostEvent} {later : List (List HostEvent)} {d : Console}
    {e : Core} {n : Nat} {notices : List Notice} (hi : .interrupt ∉ batch)
    (hd : s.console.handle batch = (true, d))
    (hr : d.run d.settings.frameCycles = ⟨⟨e, none⟩, .ok n, notices⟩) :
    rounds period s (batch :: later) =
      (rounds period (s.next (s.round period batch d e)) later).after
        (s.round period batch d e).calls notices := by
  have hp := s.tickWhenDue_present period batch d e
  simp only [rounds, if_neg hi, hd, hr, hp]
  rfl

lemma Splits.cons {batch : List HostEvent} {batches : List (List HostEvent)} {r : Record}
    {last : List Call} {notices : List Notice} (hx : x.Follows s.console)
    (ht : x.ticks = Time.due period s.lastTick s.clock.read.1) (he : x.events = batch)
    (h : Splits period (s.next x) batches r xs t last) :
    Splits period s (batch :: batches) (r.after x.calls notices) (x :: xs) t last where
  plays := .cons hx ht h.plays
  running := h.running
  ends := by
    obtain ⟨rest, hb, hr⟩ := h.ends
    exact ⟨rest, by rw [hb, ← he]; rfl, hr⟩
  calls := by
    change x.calls ++ r.calls = _
    rw [h.calls, List.flatMap_cons, List.append_assoc]

lemma splits_of_end {batches : List (List HostEvent)} {r : Record} {last : List Call}
    (h : s.console.fault = none) (hr : r.calls = last)
    (he : Ends s batches last r.session r.ending) : Splits period s batches r [] s last :=
  ⟨.nil, h, ⟨batches, rfl, he⟩, hr⟩

/-- A running session ends with its next batch, or makes a whole round of it and goes on. Errors are
recorded for the fault at the end alone. -/
lemma rounds_cons_cases (period : Rat) (batch : List HostEvent) (later : List (List HostEvent))
    (h : s.console.fault = none) :
    (∃ r, rounds period s (batch :: later) = r ∧
      Ends s (batch :: later) r.calls r.session r.ending ∧
      errors r.notices = r.session.console.fault.toList.map .halted) ∨
    ∃ x notices, x.Follows s.console ∧ x.ticks = Time.due period s.lastTick s.clock.read.1 ∧
      x.events = batch ∧ errors notices = [] ∧
      rounds period s (batch :: later) =
        (rounds period (s.next x) later).after x.calls notices := by
  by_cases hi : .interrupt ∈ batch
  · have hr : rounds period s (batch :: later) = ⟨[], [], s, .interrupted⟩ := by
      rw [rounds, if_pos hi]
    exact .inl ⟨_, hr, .interrupted hi, by rw [h]; rfl⟩
  cases hd : s.console.handle batch with
  | mk stays d =>
    have hf : d.fault = none := (Console.fault_handle hd).trans h
    cases stays with
    | false =>
      have hr : rounds period s (batch :: later) =
          ⟨[.handled false d], [], { s with console := d }, .closed⟩ := by
        simp only [rounds, if_neg hi, hd]
        rfl
      exact .inl ⟨_, hr, .closed hi hd hf, by rw [hf]; rfl⟩
    | true =>
      have he := Console.errors_run hf (Int.natCast_pos.mpr d.settings.frameCycles_pos)
      rcases Console.run_cases hf d.settings.frameCycles_pos with
        ⟨e, notices, hy, hr⟩ | ⟨m, e, g, f, notices, hm, hy, hg, hr⟩
      · rw [hr] at he
        exact .inr ⟨s.round period batch d e, notices, ⟨hi, hd, hf, e, hy, rfl⟩, rfl, rfl, he,
          rounds_of_whole hi hd hr⟩
      · -- the round in which a cycle stops is not a whole one, but the end
        have hs : rounds period s (batch :: later) = ⟨[.handled true d], notices,
            { s with console := ⟨g, some f⟩ }, .halted f⟩ := by
          simp only [rounds, if_neg hi, hd, hr]
          rfl
        rw [hr] at he
        exact .inl ⟨_, hs, .halted hi hd hf hm hy hg, he⟩

lemma exists_splits (period : Rat) (s : Session) (batches : List (List HostEvent))
    (h : s.console.fault = none) :
    ∃ xs t last, Splits period s batches (rounds period s batches) xs t last := by
  induction batches generalizing s with
  | nil => exact ⟨[], s, _, splits_of_end h rfl .exhausted⟩
  | cons batch later ih =>
    rcases rounds_cons_cases period batch later h with
      ⟨r, hr, he, -⟩ | ⟨x, notices, hx, ht, hb, -, hr⟩
    · rw [hr]
      exact ⟨[], s, r.calls, splits_of_end h rfl he⟩
    · obtain ⟨xs, t, last, hs⟩ := ih (s.next x) hx.fault_paced
      rw [hr]
      exact ⟨_, t, last, hs.cons hx ht hb⟩

lemma errors_rounds (period : Rat) (s : Session) (batches : List (List HostEvent))
    (h : s.console.fault = none) : errors (rounds period s batches).notices =
      (rounds period s batches).session.console.fault.toList.map .halted := by
  induction batches generalizing s with
  | nil =>
    rw [rounds, h]
    rfl
  | cons batch later ih =>
    rcases rounds_cons_cases period batch later h with
      ⟨r, hr, -, he⟩ | ⟨x, notices, hx, -, -, he, hr⟩
    · rw [hr]
      exact he
    · have hi := ih (s.next x) hx.fault_paced
      rw [hr, Record.after, errors_append, he]
      exact hi

/-- The status with which a run of this session is over. -/
def Record.Returns (r : Record) (status : Nat) : Prop :=
  ∀ level notices opened, (Launch.conclude level notices opened r).finish = .returned status

lemma returns_of_ends {rest : List (List HostEvent)} {last : List Call} {r : Record}
    (hf : s.console.fault = none) (h : Ends s rest last r.session r.ending) :
    r.Returns (if r.session.console.halted then Launch.faultStatus else Launch.okStatus) := by
  obtain ⟨calls, notices, session, ending⟩ := r
  change Ends s rest last session ending at h
  intro level notices opened
  cases h with
  | exhausted | interrupted _ => simp [Launch.conclude, Console.halted, hf]
  | closed _ _ hd => simp [Launch.conclude, Console.halted, hd]
  | halted _ _ _ _ _ _ => simp [Launch.conclude, Console.halted]

lemma returns_rounds (period : Rat) (s : Session) (batches : List (List HostEvent))
    (h : s.console.fault = none) : (rounds period s batches).Returns
      (if (rounds period s batches).session.console.halted then Launch.faultStatus
        else Launch.okStatus) := by
  obtain ⟨xs, t, last, hs⟩ := exists_splits period s batches h
  obtain ⟨rest, -, he⟩ := hs.ends
  exact returns_of_ends hs.running he

lemma run_eq {c : Console} (hp : Time.period? c.settings.timerHz = some period) (w : Window)
    (clock : Time.Clock) (batches : List (List HostEvent)) :
    run c w clock batches = rounds period ⟨c, w, clock.read.2, clock.read.1⟩ batches := by
  rw [run, hp]

lemma run_splits {c : Console} (hp : Time.period? c.settings.timerHz = some period)
    (h : c.fault = none) (w : Window) (clock : Time.Clock) (batches : List (List HostEvent)) :
    ∃ xs t last, Splits period ⟨c, w, clock.read.2, clock.read.1⟩ batches (run c w clock batches)
      xs t last := by
  rw [run_eq hp]
  exact exists_splits period _ batches h

end Session

/-- Clears the screen and spins, two cycles a frame. -/
def Console.clearing : Console := ⟨{
  settings := { Settings.standard with clockHz := 120, clock_pos := by decide }
  ram := Ram.zero.blit 0x200 [0x00, 0xE0, 0x12, 0x02]
  bank := RegisterBank.start 0x200
  stack := CallStack.empty
  panel := Panel.fresh
  timers := ⟨2, 1⟩
  keypad := Keypad.released }, none⟩

end Chip8
