import Chip8.Proofs.Rounding
import Chip8.Proofs.Rounds

/-! The cadence of a session. When every reading of the clock is a period later than the one before,
its rounds are those of a host that leaves the cadence to the console. -/

namespace Chip8

namespace Time.Clock

/-- What the clock gives at the reading that follows `k` others. -/
def reading (c : Clock) : Nat → Rat
  | 0 => c.read.1
  | k + 1 => c.read.2.reading k

end Time.Clock

namespace Call

def isPaced : Call → Bool
  | .paced _ _ => true
  | _ => false

def isRendered : Call → Bool
  | .rendered _ => true
  | _ => false

lemma dropWhile_rendered (before : List Call) (d : Console) (frames : List Screen) :
    (before ++ handled true d :: frames.map rendered).reverse.dropWhile isRendered =
      handled true d :: before.reverse := by
  rw [List.reverse_append, List.reverse_cons, List.append_assoc, List.dropWhile_append_of_pos]
  · rfl
  · simp [isRendered]

lemma handled_inj {before after : List Call} {d e : Console} {frames shown : List Screen}
    (h : before ++ handled true d :: frames.map rendered =
      after ++ handled true e :: shown.map rendered) : before = after ∧ d = e := by
  have hr := congrArg (fun calls : List Call => calls.reverse.dropWhile isRendered) h
  simp only [dropWhile_rendered] at hr
  obtain ⟨hd, hb⟩ := List.cons.inj hr
  exact ⟨List.reverse_injective hb, (handled.inj hd).2⟩

end Call

namespace Session

/-- The rounds that were played to their end; each of them took a reading. -/
def Record.paces (r : Record) : Nat :=
  r.calls.countP Call.isPaced

end Session

/-- What a window sees of a host, and what the host leaves. -/
structure Service where
  calls : List Call
  console : Console
  ending : Ending

def Service.after (v : Service) (calls : List Call) : Service :=
  { v with calls := calls ++ v.calls }

namespace Console

/-- For every batch of events the console plays a frame and is polled. -/
def serve (c : Console) : List (List HostEvent) → Service
  | [] => ⟨[.handled false c], c, .closed⟩
  | batch :: later =>
    if .interrupt ∈ batch then ⟨[], c, .interrupted⟩
    else
      let (stays, d) := c.handle batch
      if !stays then ⟨[.handled false d], d, .closed⟩
      else
        let e := d.playFrame.console
        let (frame, g) := e.poll
        let calls := .handled true d :: frame.toList.map .rendered
        match e.fault with
        | some cause => ⟨calls, g, .halted cause⟩
        | none => (g.serve later).after (calls ++ [.paced g.settings.timerHz g])

end Console

namespace Service

/-- The first service does what the second one does. When a fault ends both, they have handed the
same console to their last frame. The first one stops at what the cycles of that frame leave; the
second one ticks and polls, and shows what the poll gives. -/
inductive Matches (u v : Service) : Prop
  | whole : (∀ f, v.ending ≠ .halted f) → u = v → u.Matches v
  | halted {before : List Call} {d e : Console} {f : Fault} : d.fault = none →
      (d.run d.settings.frameCycles).console = e → e.fault = some f →
      d.playFrame.console = e.tick → u = ⟨before ++ [.handled true d], e, .halted f⟩ →
      v = ⟨before ++ .handled true d :: e.tick.poll.1.toList.map .rendered, e.tick.poll.2,
        .halted f⟩ → u.Matches v

lemma after_after (v : Service) (calls before : List Call) :
    (v.after calls).after before = v.after (before ++ calls) :=
  congrArg (mk · v.console v.ending) (List.append_assoc before calls v.calls).symm

lemma Matches.after {u v : Service} (h : u.Matches v) (calls : List Call) :
    (u.after calls).Matches (v.after calls) := by
  cases h with
  | whole hn he => exact .whole hn (congrArg (Service.after · calls) he)
  | @halted before d e f hd he hf hp hu hv =>
    refine @halted _ _ (calls ++ before) d e f hd he hf hp ?_ ?_
    · rw [hu, List.append_assoc]
      rfl
    · rw [hv, List.append_assoc]
      rfl

/-- A service is matched by one other at most. -/
lemma Matches.unique {u v w : Service} (hu : u.Matches v) (hw : w.Matches v) : u = w := by
  cases hu with
  | whole hn hu =>
    cases hw with
    | whole _ hw => exact hu.trans hw.symm
    | @halted _ _ _ f _ _ _ _ _ hv => exact absurd (congrArg Service.ending hv) (hn f)
  | @halted before d e f _ he hf _ hu hv =>
    cases hw with
    | whole hn _ => exact absurd (congrArg Service.ending hv) (hn f)
    | halted _ he' hf' _ hw hv' =>
      -- behind the frames, the calls end with the console that the last cycles started from
      obtain ⟨rfl, rfl⟩ := Call.handled_inj (congrArg Service.calls (hv.symm.trans hv'))
      obtain rfl := he.symm.trans he'
      obtain rfl := Option.some.inj (hf.symm.trans hf')
      exact hu.trans hw.symm

end Service

def Session.Record.service (r : Record) : Service :=
  ⟨r.calls, r.session.console, r.ending⟩

namespace Console

variable {c : Console} {x : Round} {later : List (List HostEvent)}

lemma playFrame_cases (h : c.fault = none) :
    (∃ d, Core.Cycles c.settings.frameCycles c.core d ∧
      c.playFrame.result = .ok c.settings.frameCycles ∧
      c.playFrame.console = (⟨d, none⟩ : Console).tick) ∨
    ∃ f, c.playFrame.console.fault = some f := by
  rcases run_cases h c.settings.frameCycles_pos with
    ⟨d, notices, hy, hr⟩ | ⟨m, d, e, f, notices, -, -, -, hr⟩
  · refine .inl ⟨d, hy, ?_, ?_⟩ <;> simp only [playFrame, hr]
  · refine .inr ⟨f, ?_⟩
    simp only [playFrame, hr]
    rfl

lemma playFrame_of_run (h : c.fault = none) :
    c.playFrame.console = (c.run c.settings.frameCycles).console.tick := by
  rw [playFrame_of_moves h, run_console, Int.toNat_natCast]

lemma serve_of_follows (h : x.Follows c) (ht : x.ticks = true) :
    c.serve (x.events :: later) = (x.paced.serve later).after x.calls := by
  obtain ⟨d, hy, hp⟩ := h.played
  have he : x.handled.playFrame.console = (⟨d, none⟩ : Console).tick := by
    rw [playFrame_of_moves h.running, moveAll_of_cycles h.running hy]
  rw [ht, if_pos rfl] at hp
  simp only [serve, if_neg h.quiet, h.stays, he, ← hp]
  rfl

lemma serve_of_fault {batch : List HostEvent} {d e : Console} {f : Fault}
    (hi : .interrupt ∉ batch) (hd : c.handle batch = (true, d))
    (hp : d.playFrame.console = e.tick) (hf : e.fault = some f) :
    c.serve (batch :: later) = ⟨.handled true d :: e.tick.poll.1.toList.map .rendered,
      e.tick.poll.2, .halted f⟩ := by
  have ht : e.tick.fault = some f := hf
  simp only [serve, if_neg hi, hd, hp, ht]
  rfl

lemma poll_tick (c : Console) : c.tick.poll.2 =
    ⟨{ c.core with
      timers := c.core.timers.tick
      panel := { c.core.panel with dirty := false } }, c.fault⟩ := by
  cases h : c.core.panel with
  | mk screen dirty =>
    cases dirty <;> simp [poll, tick, withCore, h, Panel.take, Panel.hold, Panel.shown]

end Console

namespace Session

variable {period : Rat} {s t : Session} {xs : List Round} {batches rest : List (List HostEvent)}
  {last : List Call} {r : Record} {v : Service}

lemma serve_of_plays (h : Plays period s xs t) (ht : ∀ x ∈ xs, x.ticks = true)
    (rest : List (List HostEvent)) : s.console.serve (xs.map Round.events ++ rest) =
      (t.console.serve rest).after (xs.flatMap Round.calls) := by
  induction h with
  | nil => rfl
  | @cons s t x xs hx _ _ ih =>
    obtain ⟨hxt, ht⟩ := List.forall_mem_cons.mp ht
    rw [List.map_cons, List.cons_append, Console.serve_of_follows hx hxt]
    change ((s.next x).console.serve _).after _ = _
    rw [ih ht, Service.after_after, List.flatMap_cons]

lemma ticks_of_spaced {rate : Nat} (hp : Time.period? rate = some period)
    (h : Plays period s xs t) {readings : Nat → Rat} (h0 : readings 0 = s.lastTick)
    (hs : ∀ k, readings (k + 1) = s.clock.reading k)
    (hk : ∀ k < xs.length, period ≤ readings (k + 1) - readings k) :
    ∀ x ∈ xs, x.ticks = true := by
  induction h generalizing readings with
  | nil => exact fun x hx => absurd hx List.not_mem_nil
  | @cons s t x xs hx ht _ ih =>
    have hd : x.ticks = true := by
      rw [ht, ← h0, ← Time.Clock.reading, ← hs]
      exact Time.due_of_le hp (hk 0 (Nat.succ_pos _))
    -- the round ticks, so the next one compares with this reading
    have hl : (s.next x).lastTick = readings 1 := by
      rw [hs, next, hd, if_pos rfl, Time.Clock.reading]
    refine List.forall_mem_cons.mpr ⟨hd, ?_⟩
    apply @ih (fun k => readings (k + 1)) hl.symm
    · intro k
      exact hs (k + 1)
    · intro k hlt
      exact hk (k + 1) (Nat.succ_lt_succ hlt)

lemma countP_of_ends {u : Session} {ending : Ending} (h : Ends s rest last u ending) :
    last.countP Call.isPaced = 0 := by
  cases h <;> rfl

lemma paces_of_splits (h : Splits period s batches r xs t last) : r.paces = xs.length := by
  have hx (x : Round) : x.calls.countP Call.isPaced = 1 := by
    cases hs : x.shown <;> simp [Round.calls, Call.isPaced, hs]
  obtain ⟨rest, -, he⟩ := h.ends
  rw [Record.paces, h.calls, List.countP_append, countP_of_ends he, List.countP_flatMap]
  simp [Function.comp_def, hx]

lemma matches_of_ends {u : Session} {ending : Ending} (h : Ends s rest last u ending) :
    Service.Matches ⟨last, u.console, ending⟩ (s.console.serve rest) := by
  cases h with
  | exhausted => exact .whole (fun f => Ending.noConfusion) rfl
  | closed hi hd _ =>
    simp only [Console.serve, if_neg hi, hd]
    exact .whole (fun f => Ending.noConfusion) rfl
  | interrupted hi =>
    simp only [Console.serve, if_pos hi]
    exact .whole (fun f => Ending.noConfusion) rfl
  | @halted _ _ m d _ g f hi hd hf hm hy he =>
    have hr : (d.run d.settings.frameCycles).console = ⟨g, some f⟩ := by
      rw [Console.run_console, Int.toNat_natCast, Console.moveAll_of_failed hf hm hy he]
    have hp : d.playFrame.console = (⟨g, some f⟩ : Console).tick := by
      rw [Console.playFrame_of_run hf, hr]
    rw [Console.serve_of_fault hi hd hp rfl]
    exact @Service.Matches.halted _ _ [] d _ f hf hr rfl hp rfl rfl

lemma matches_of_splits (h : Splits period s batches r xs t last) (ht : ∀ x ∈ xs, x.ticks = true) :
    r.service.Matches (s.console.serve batches) := by
  obtain ⟨rest, hb, he⟩ := h.ends
  have hr : r.service =
      Service.after ⟨last, r.session.console, r.ending⟩ (xs.flatMap Round.calls) :=
    congrArg (Service.mk · _ _) h.calls
  rw [hr, hb, serve_of_plays h.plays ht]
  exact (matches_of_ends he).after _

/-- When each reading that a session takes is a period later than the one before, the session does
what a host does that plays a frame and polls for every batch of events: the same calls with the
same consoles, and the same end. A fault ends it behind the cycles of its last frame, before the
tick and the poll that host goes on with; these change the timers and the mark of the screen alone.
So that host leaves the session no other outcome. A frame of either is as many cycles as the
settings tell and one tick. -/
theorem session_matches_service {c : Console} {w : Window} {clock : Time.Clock}
    {batches : List (List HostEvent)} (h : c.fault = none)
    (hp : Time.period? c.settings.timerHz = some period)
    (hk : ∀ k < (run c w clock batches).paces,
      period ≤ clock.reading (k + 1) - clock.reading k) :
    (run c w clock batches).service.Matches (c.serve batches) ∧
      (∀ u : Service, u.Matches (c.serve batches) → u = (run c w clock batches).service) ∧
      (run c w clock batches).Returns
        (if (run c w clock batches).session.console.halted then Launch.faultStatus
          else Launch.okStatus) ∧
      (∀ d : Console, d.fault = none → (∃ f, d.playFrame.console.fault = some f) ∨
        ∃ e, Core.Cycles d.settings.frameCycles d.core e ∧
          d.playFrame.result = .ok d.settings.frameCycles ∧
          d.playFrame.console = ⟨{ e with timers := e.timers.tick }, none⟩) ∧
      ∀ e : Console, e.tick.poll.2 = ⟨{ e.core with
        timers := e.core.timers.tick
        panel := { e.core.panel with dirty := false } }, e.fault⟩ := by
  have hm : (run c w clock batches).service.Matches (c.serve batches) := by
    obtain ⟨xs, t, last, hs⟩ := run_splits hp h w clock batches
    rw [paces_of_splits hs] at hk
    exact matches_of_splits hs (ticks_of_spaced hp hs.plays rfl (fun k => rfl) hk)
  refine ⟨hm, fun u hu => hu.unique hm, ?_, ?_, Console.poll_tick⟩
  · rw [run_eq hp]
    exact returns_rounds period _ batches h
  · intro d hd
    rcases Console.playFrame_cases hd with he | hf
    · exact .inr he
    · exact .inl hf

/-- Clears the screen in its first frame and again in its second one, and stops right behind. -/
def stopping : Console := ⟨{
  settings := { Settings.standard with clockHz := 150, clock_pos := by decide }
  ram := Ram.zero.blit 0x200 [0x12, 0x02, 0x00, 0xE0, 0x00, 0xE0, 0xFF, 0xFF]
  bank := RegisterBank.start 0x200
  stack := CallStack.empty
  panel := Panel.fresh
  timers := ⟨2, 1⟩
  keypad := Keypad.released }, none⟩

def steadyClock : Time.Clock := ⟨[0, 18 / 1024, 36 / 1024]⟩

def twoBatches : List (List HostEvent) := [[.keyDown 120], [.other]]

theorem session_matches_service_steady : ∃ period, Time.period? defaultTimerHz = some period ∧
    (∀ k < 2, period ≤ steadyClock.reading (k + 1) - steadyClock.reading k) ∧
    (Console.clearing.fault = none ∧
      (run Console.clearing (Window.opened 1) steadyClock twoBatches).paces = 2 ∧
      (run Console.clearing (Window.opened 1) steadyClock twoBatches).service.Matches
        (Console.clearing.serve twoBatches)) ∧
    stopping.fault = none ∧
    (run stopping (Window.opened 1) steadyClock twoBatches).paces = 1 ∧
    (run stopping (Window.opened 1) steadyClock twoBatches).service.Matches
      (stopping.serve twoBatches) ∧
    (let c := (run stopping (Window.opened 1) steadyClock twoBatches).session.console;
      c.halted ∧ c.core.timers = ⟨1, 0⟩ ∧ c.core.panel.dirty) ∧
    (let d := (stopping.serve twoBatches).console;
      d.halted ∧ d.core.timers = ⟨0, 0⟩ ∧ d.core.panel.dirty = false) := by
  have hp : Time.period? defaultTimerHz = some (4803839602528529 / 288230376151711744) := by
    decide +kernel
  have hk : ∀ k < 2, (4803839602528529 / 288230376151711744 : Rat) ≤
      steadyClock.reading (k + 1) - steadyClock.reading k := by
    decide +kernel
  have hn : (run Console.clearing (Window.opened 1) steadyClock twoBatches).paces = 2 := by
    decide +kernel
  have h1 : (run stopping (Window.opened 1) steadyClock twoBatches).paces = 1 := by
    decide +kernel
  refine ⟨_, hp, hk, ⟨rfl, hn, ?_⟩, rfl, h1, ?_, ?_, ?_⟩
  · refine (@session_matches_service _ Console.clearing (Window.opened 1) steadyClock twoBatches
      rfl hp ?_).1
    rw [hn]
    exact hk
  · refine (@session_matches_service _ stopping (Window.opened 1) steadyClock twoBatches
      rfl hp ?_).1
    rw [h1]
    exact fun k hl => hk k (hl.trans Nat.one_lt_two)
  all_goals decide +kernel

end Session

end Chip8
