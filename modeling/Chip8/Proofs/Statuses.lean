import Chip8.Disk.Folder
import Chip8.Proofs.Placement
import Chip8.Proofs.Rounds
import Mathlib

/-! The status that a launch ends with: of misuse, of a program that cannot be had, of a fault, or
of a session that was ended by its host. -/

namespace Chip8

/-- The standard settings with another clock. -/
def Settings.clocked (clock : Int) (h : 0 < clock) : Settings :=
  { Settings.standard with clockHz := clock.toNat, clock_pos := by omega }

lemma Draft.check_clock {clock : Int} (h : 0 < clock) :
    ({ clockHz := clock } : Draft).check = .ok (.clocked clock h) := by
  have hb : ∀ n ∈ ({} : Draft).font, Byte n := by decide
  have hp : 0 ≤ ({} : Draft).fontAddress ∧
      ({} : Draft).fontAddress ≤ ({} : Draft).programAddress - 80 := by decide
  have ht : 0 < ({} : Draft).timerHz := by decide
  rw [check, dif_pos (by rfl), dif_pos hp, dif_pos ⟨h, ht⟩, if_pos hb]
  rfl

lemma Time.period_standard :
    Time.period? defaultTimerHz = some (4803839602528529 / 288230376151711744) := by
  decide +kernel

namespace Console

variable {read : Disk.Reader} {rom : String}

lemma loadFile_of_error {failure : Disk.Failure} (c : Console) (hn : '\x00' ∉ rom.toList)
    (hr : read (.parse rom) = .error failure) : c.loadFile read rom =
      c.answer (.error (.romUnreadable rom failure (Disk.Path.parse rom).text)) := by
  rw [loadFile, readRom, if_neg (by simpa using hn)]
  simp only [hr]
  rfl

lemma loadFile_of_ok {data : List UInt8} (c : Console) (hn : '\x00' ∉ rom.toList)
    (hr : read (.parse rom) = .ok data) : c.loadFile read rom = c.load data := by
  rw [loadFile, readRom, if_neg (by simpa using hn)]
  simp only [hr]
  rfl

end Console

namespace Launch

open CommandLine Notice

/-- No program comes from a file that cannot be read or holds more than the room for programs. -/
inductive Unfit : Except Disk.Failure (List UInt8) → Prop
  | unreadable (failure : Disk.Failure) : Unfit (.error failure)
  | tooLong {data : List UInt8} : 3584 < data.length → Unfit (.ok data)

/-- A session has been played, and reported on after other notices. The machine at its end decides
the status, and only its fault is told. -/
structure Report.Plays (report : Report) (level : Level) (before : List Notice) (opened : Call)
    (r : Session.Record) : Prop where
  calls : report.calls = opened :: r.calls
  status : report.finish =
    .returned (if r.session.console.halted then faultStatus else okStatus)
  told : report.complaint = log level (before ++ r.notices) ++ String.join
    (r.session.console.fault.toList.map fun f => "Machine halted: " ++ f.message ++ "\n")
  recorded : errors (before ++ r.notices) = r.session.console.fault.toList.map .halted
  ended : r.ending = .closed ∨ r.ending = .interrupted ↔ r.session.console.fault = none

/-- A launch with a clock that runs. Without a fit program there is nothing but its refusal, else
the session of the console that has loaded it. -/
structure Report.Launches (report : Report) (reporter rom : String) (scale clock : Int)
    (level : Level) (around : Surroundings) : Prop where
  refused : report.finish = .returned badRomStatus ↔ Unfit (around.read (.parse rom))
  unfit : Unfit (around.read (.parse rom)) → ∃ refusal, refusal.category = .resource ∧
    report = ⟨.returned badRomStatus, "",
      log level [.wrote fontLength fontStart, .romRefused reporter refusal], []⟩
  fit : ∀ data, around.read (.parse rom) = .ok data → data.length ≤ 3584 →
    ∃ s c, ({ clockHz := clock } : Draft).check = .ok s ∧ Console.boot s = .ok c ∧
      report.Plays level (Console.bootNotices s ++ (c.load data).notices)
        (.opened (Window.opened scale).scale (c.load data).console)
        (Session.run (c.load data).console (Window.opened scale) around.clock around.batches)

variable {reporter rom : String} {scale clock : Int} {level : Level} {around : Surroundings}
  {before : List Notice} {opened : Call} {r : Session.Record}

lemma plays_of_ends {t : Session} {rest : List (List HostEvent)} {last : List Call}
    (hf : t.console.fault = none) (h : Session.Ends t rest last r.session r.ending)
    (hb : errors before = [])
    (hn : errors r.notices = r.session.console.fault.toList.map .halted) :
    (conclude level before opened r).Plays level before opened r := by
  have hs := Session.returns_of_ends hf h level before opened
  have he : errors (before ++ r.notices) = r.session.console.fault.toList.map .halted := by
    rw [errors_append, hb, hn, List.nil_append]
  obtain ⟨calls, notices, session, ending⟩ := r
  change Session.Ends t rest last session ending at h
  cases h with
  | exhausted => exact ⟨rfl, hs, by simp [conclude, hf], he, by simp [hf]⟩
  | closed _ _ hd => exact ⟨rfl, hs, by simp [conclude, hd], he, by simp [hd]⟩
  | interrupted _ => exact ⟨rfl, hs, by simp [conclude, hf], he, by simp [hf]⟩
  | halted _ _ _ _ _ _ =>
    exact ⟨rfl, hs, by simp [conclude, String.append_assoc], he, by simp⟩

lemma boot_clocked (h : 0 < clock) :
    Console.boot (.clocked clock h) = .ok (.fresh (.clocked clock h)) :=
  Console.boot_of_le (by decide : fontStart + 80 ≤ 4096)

lemma load_clocked {data : List UInt8} (h : 0 < clock) (hd : data.length ≤ 3584) :
    (Console.fresh (.clocked clock h)).load data =
      ⟨(Console.fresh (.clocked clock h)).move (.write data), .ok (),
        [.wrote data.length programStart, .romLoaded data.length]⟩ := by
  refine Console.load_of_le ?_
  change 512 + data.length ≤ 4096
  omega

lemma play_of_refused {width : Option Int} {refusal : Refusal} (h : 0 < clock)
    (hl : (Console.fresh (.clocked clock h)).loadFile around.read rom =
      (Console.fresh (.clocked clock h)).answer (.error refusal))
    (hc : refusal.category = .resource) :
    play reporter rom width level (.clocked clock h) around = ⟨.returned badRomStatus, "",
      log level [.wrote fontLength fontStart, .romRefused reporter refusal], []⟩ := by
  rw [play, boot_clocked h]
  simp only [hl, Console.answer, if_pos hc]
  rfl

lemma play_of_loaded {data : List UInt8} (h : 0 < clock) (hn : '\x00' ∉ rom.toList)
    (hr : around.read (.parse rom) = .ok data) (hd : data.length ≤ 3584) :
    play reporter rom (some scale) level (.clocked clock h) around =
      let loaded := (Console.fresh (.clocked clock h)).load data
      conclude level (Console.bootNotices (.clocked clock h) ++ loaded.notices)
        (.opened (Window.opened scale).scale loaded.console)
        (Session.run loaded.console (Window.opened scale) around.clock around.batches) := by
  rw [play, boot_clocked h]
  simp only [Console.loadFile_of_ok _ hn hr, load_clocked h hd]

lemma finish_of_no_scale {data : List UInt8} (h : 0 < clock) (hn : '\x00' ∉ rom.toList)
    (hr : around.read (.parse rom) = .ok data) (hd : data.length ≤ 3584) :
    (play reporter rom none level (.clocked clock h) around).finish = .broken .noScale := by
  rw [play, boot_clocked h]
  simp only [Console.loadFile_of_ok _ hn hr, load_clocked h hd]

lemma load_cases (around : Surroundings) (h : 0 < clock) (hn : '\x00' ∉ rom.toList) :
    (Unfit (around.read (.parse rom)) ∧ ∃ refusal, refusal.category = .resource ∧
      (Console.fresh (.clocked clock h)).loadFile around.read rom =
        (Console.fresh (.clocked clock h)).answer (.error refusal)) ∨
    ∃ data, around.read (.parse rom) = .ok data ∧ data.length ≤ 3584 := by
  cases hr : around.read (.parse rom) with
  | error failure =>
    exact .inl ⟨.unreadable failure, _, rfl, Console.loadFile_of_error _ hn hr⟩
  | ok data =>
    by_cases hl : data.length ≤ 3584
    · exact .inr ⟨data, rfl, hl⟩
    · refine .inl ⟨.tooLong (Nat.not_le.mp hl), .romTooLarge data.length 3584, rfl, ?_⟩
      rw [Console.loadFile_of_ok _ hn hr]
      refine Console.load_of_lt ?_
      change ¬ 512 + data.length ≤ 4096
      omega

lemma plays_of_loaded {data : List UInt8} (reporter : String) (scale : Int) (level : Level)
    (h : 0 < clock) (hn : '\x00' ∉ rom.toList) (hr : around.read (.parse rom) = .ok data)
    (hd : data.length ≤ 3584) :
    ∃ s c, ({ clockHz := clock } : Draft).check = .ok s ∧ Console.boot s = .ok c ∧
      (play reporter rom (some scale) level (.clocked clock h) around).Plays level
        (Console.bootNotices s ++ (c.load data).notices)
        (.opened (Window.opened scale).scale (c.load data).console)
        (Session.run (c.load data).console (Window.opened scale) around.clock around.batches) := by
  refine ⟨_, _, Draft.check_clock h, boot_clocked h, ?_⟩
  rw [play_of_loaded h hn hr hd, load_clocked h hd]
  have hp : Time.period? ((Console.fresh (.clocked clock h)).move (.write data)).settings.timerHz =
      some (4803839602528529 / 288230376151711744) := Time.period_standard
  obtain ⟨xs, t, last, hs⟩ := Session.run_splits hp rfl (Window.opened scale) around.clock
    around.batches
  obtain ⟨rest, -, he⟩ := hs.ends
  refine plays_of_ends hs.running he rfl ?_
  rw [Session.run_eq hp]
  exact Session.errors_rounds _ _ _ rfl

lemma launches_play (h : 0 < clock) (hn : '\x00' ∉ rom.toList) :
    (play reporter rom (some scale) level (.clocked clock h) around).Launches reporter rom scale
      clock level around := by
  rcases load_cases around h hn with ⟨hu, refusal, hc, hl⟩ | ⟨data, hd, hl⟩
  · have hp : play reporter rom (some scale) level (.clocked clock h) around = _ :=
      play_of_refused h hl hc
    refine ⟨iff_of_true (by rw [hp]) hu, fun _ => ⟨refusal, hc, hp⟩, fun data hd hl => ?_⟩
    rw [hd] at hu
    cases hu
    omega
  · have hu : ¬ Unfit (around.read (.parse rom)) := by
      rw [hd]
      rintro ⟨hg⟩
      omega
    obtain ⟨s, c, hs, hc, hp⟩ := plays_of_loaded reporter scale level h hn hd hl
    refine ⟨iff_of_false ?_ hu, fun hb => absurd hb hu, ?_⟩
    · rw [hp.status]
      split <;> exact nofun
    · intro data' hd' _
      obtain rfl := Except.ok.inj (hd.symm.trans hd')
      exact ⟨s, c, hs, hc, hp⟩

lemma broken_play {width : Option Int} {cause : Refusal} (h : 0 < clock)
    (hn : '\x00' ∉ rom.toList)
    (hb : (play reporter rom width level (.clocked clock h) around).finish = .broken cause) :
    width = none ∧ cause = .noScale := by
  rcases load_cases around h hn with ⟨-, refusal, hc, hl⟩ | ⟨data, hd, hl⟩
  · rw [play_of_refused h hl hc] at hb
    cases hb
  · cases width with
    | none =>
      rw [finish_of_no_scale h hn hd hl] at hb
      exact ⟨rfl, (Finish.broken.inj hb).symm⟩
    | some scale =>
      obtain ⟨s, c, -, -, hp⟩ := plays_of_loaded reporter scale level h hn hd hl
      rw [hp.status] at hb
      cases hb

variable {argv : List String} {a : Arguments}

lemma run_of_not_pos (ha : Arguments.parse argv = .ok a) (hc : a.clock = some clock)
    (h : clock ≤ 0) : run reporter argv around = stop (.misuse .clockNotPositive) := by
  simp only [run, ha, hc, if_pos h]

lemma run_of_pos (ha : Arguments.parse argv = .ok a) (hc : a.clock = some clock)
    (hl : a.level = some level) (h : 0 < clock) : run reporter argv around =
      play reporter a.rom a.scale level (.clocked clock h) around := by
  simp only [run, ha, hc, hl, if_neg (Int.not_le.mpr h), Draft.check_clock h]

lemma broken_run {cause : Refusal} (ha : Arguments.parse argv = .ok a)
    (hn : '\x00' ∉ a.rom.toList)
    (hb : (run reporter argv around).finish = .broken cause) :
    (a.scale = none ∨ a.clock = none ∨ a.level = none) ∧ cause.category = .wrongKind := by
  cases hc : a.clock with
  | none =>
    simp only [run, ha, hc] at hb
    cases hb
    exact ⟨.inr (.inl rfl), rfl⟩
  | some clock =>
    by_cases h : clock ≤ 0
    · rw [run_of_not_pos ha hc h] at hb
      cases hb
    · cases hl : a.level with
      | none =>
        simp only [run, ha, hc, if_neg h, hl] at hb
        cases hb
        exact ⟨.inr (.inr rfl), rfl⟩
      | some level =>
        rw [run_of_pos ha hc hl (Int.not_le.mp h)] at hb
        obtain ⟨hs, rfl⟩ := broken_play _ hn hb
        exact ⟨.inl hs, rfl⟩

/-- The law of statuses for accepted arguments. A clock that does not run is misuse, whatever the
files are; with values for all switches every other launch returns, and no error of the machine or
of a value ever leaves it. -/
theorem status_of_accepted (ha : Arguments.parse argv = .ok a) (hn : '\x00' ∉ a.rom.toList)
    (reporter : String) (around : Surroundings) :
    (∀ clock, a.clock = some clock → clock ≤ 0 →
      run reporter argv around = ⟨.exited 2, "", Misuse.clockNotPositive.text, []⟩) ∧
    (∀ scale clock level, a.scale = some scale → a.clock = some clock → a.level = some level →
      0 < clock → (run reporter argv around).Launches reporter a.rom scale clock level around) ∧
    ∀ cause, (run reporter argv around).finish = .broken cause →
      (a.scale = none ∨ a.clock = none ∨ a.level = none) ∧
      .machine ∉ cause.category.ancestors ∧ .value ∉ cause.category.ancestors := by
  refine ⟨fun clock hc h => run_of_not_pos ha hc h, ?_, ?_⟩
  · intro scale clock level hs hc hl h
    rw [run_of_pos ha hc hl h, hs]
    exact launches_play h hn
  · intro cause hb
    obtain ⟨hv, hc⟩ := broken_run ha hn hb
    rw [hc]
    exact ⟨hv, by decide, by decide⟩

/-- One file, with a program that stops at once. -/
def faulty : Disk.Folder := ⟨[⟨["f"], [0xFF, 0xFF]⟩]⟩

theorem status_of_accepted_faulty :
    (∀ around, run Launch.reporter ["f", "--clock", "0"] around =
      ⟨.exited 2, "", Misuse.clockNotPositive.text, []⟩) ∧
    (run Launch.reporter ["g"] ⟨faulty.read, [], ⟨[]⟩⟩).finish = .returned 2 ∧
    (run Launch.reporter ["f"] ⟨faulty.read, [[]], ⟨[]⟩⟩).finish = .returned 1 := by
  have ha (rom : String) (h : Arguments.parse [rom] = .ok ⟨rom, some 15, some 700, some .warning⟩)
      (hn : '\x00' ∉ rom.toList) (batches : List (List HostEvent)) :=
    (status_of_accepted h hn Launch.reporter ⟨faulty.read, batches, ⟨[]⟩⟩).2.1 15 700 .warning
      rfl rfl rfl (by decide)
  refine ⟨?_, ?_, ?_⟩
  · intro around
    exact (status_of_accepted (a := ⟨"f", some 15, some 0, some .warning⟩) rfl (by decide)
      Launch.reporter around).1 0 rfl (Int.le_refl 0)
  · have hr : faulty.read (.parse "g") = .error .missing := by cbv
    refine (ha "g" rfl (by decide) []).refused.mpr ?_
    change Unfit (faulty.read (.parse "g"))
    rw [hr]
    exact .unreadable _
  · have hr : faulty.read (.parse "f") = .ok [0xFF, 0xFF] := by cbv
    obtain ⟨s, c, hs, hc, hp⟩ := (ha "f" rfl (by decide) [[]]).fit _ hr (by decide)
    obtain rfl := Except.ok.inj (hs.symm.trans (Draft.check_clock (by decide)))
    obtain rfl := Except.ok.inj (hc.symm.trans (boot_clocked _))
    rw [hp.status]
    exact congrArg Finish.returned (by decide +kernel)

end Launch

end Chip8
