import Chip8.Proofs.Course
import Chip8.Proofs.Execution
import Mathlib.Data.List.Induction

/-! Frames. Whatever touches the screen marks the panel, and only the delivery of a frame takes the
mark away, so while there is no mark the screen is still what was delivered last. -/

namespace Chip8

def Reply.Delivers (r : Reply Answer) : Prop :=
  ∃ frame, r.result = .ok (.frame (some frame))

namespace Core

lemma panelAfter_cases (c : Core) (i : Instr) :
    c.panelAfter i = c.panel ∨ (c.panelAfter i).dirty = true := by
  cases i with
  | clear => exact .inr rfl
  | draw x y n =>
    rw [panelAfter]
    split
    · exact .inr rfl
    · exact .inl rfl
  | _ => exact .inl rfl

lemma panel_cycle_cases (c : Core) :
    c.cycle.core.panel = c.panel ∨ c.cycle.core.panel.dirty = true := by
  rcases c.cycle_cases with ⟨f, hf⟩ | ⟨i, hi⟩
  · rw [hf]
    exact .inl rfl
  · rw [core_cycle hi]
    exact c.panelAfter_cases i

end Core

namespace Console

variable {c : Console}

lemma panel_move_cases {m : Move} (h : m ≠ .clean) :
    (c.move m).core.panel = c.core.panel ∨ (c.move m).core.panel.dirty = true := by
  cases m with
  | cycle =>
    cases hf : c.fault with
    | some f =>
      rw [move_cycle_of_fault hf]
      exact .inl rfl
    | none =>
      rw [move_cycle_of_running hf, core_advance]
      exact c.core.panel_cycle_cases
  | clean => exact absurd rfl h
  | tick | keys keypad | write data => exact .inl rfl

lemma panel_moveAll_cases {ms : List Move} (h : .clean ∉ ms) :
    (c.moveAll ms).core.panel = c.core.panel ∨ (c.moveAll ms).core.panel.dirty = true := by
  induction ms generalizing c with
  | nil => exact .inl rfl
  | cons m ms ih =>
    have hm : m ≠ .clean := fun he => h (he ▸ List.mem_cons_self)
    rcases ih (c := c.move m) fun hc => h (List.mem_cons_of_mem m hc) with hr | hr
    · change ((c.move m).moveAll ms).core.panel = _ ∨ ((c.move m).moveAll ms).core.panel.dirty = _
      rw [hr]
      exact panel_move_cases hm
    · exact .inr hr

lemma clean_not_mem_moves (c : Console) {op : Operation} (h : op ≠ .poll) :
    .clean ∉ c.moves op := by
  intro hm
  have ho : op.Makes .clean := makes_of_mem_moves hm
  cases op with
  | poll => exact h rfl
  | _ => exact ho

lemma not_delivers_map {α : Type} {f : α → Answer} (r : Reply α) (h : ∀ a s, f a ≠ .frame s) :
    ¬ (r.map f).Delivers := by
  rintro ⟨frame, hd⟩
  rw [Reply.map] at hd
  cases hr : r.result with
  | error cause =>
    rw [hr] at hd
    cases hd
  | ok a =>
    rw [hr] at hd
    exact h a _ (Except.ok.inj hd)

lemma not_delivers {op : Operation} (h : op ≠ .poll) : ¬ (c.perform op).Delivers := by
  cases op with
  | poll => exact absurd rfl h
  | tick => rintro ⟨frame, ⟨⟩⟩
  | step | run count | playFrame | press key | release key | setKeypad states | load data
  | loadFile read path => exact not_delivers_map _ fun _ _ => Answer.noConfusion

lemma poll_of_dirty (h : c.core.panel.dirty = true) :
    c.perform .poll = (c.move .clean).answer (.ok (.frame (some c.core.panel.screen))) := by
  rw [perform, poll, if_pos h]
  rfl

lemma poll_of_clean (h : c.core.panel.dirty = false) :
    c.perform .poll = c.answer (.ok (.frame none)) := by
  rw [perform, poll, if_neg (Bool.eq_false_iff.mp h)]

lemma perform_cases (c : Console) (op : Operation) :
    (op = .poll ∧ (c.perform op).Delivers) ∨
    ¬ (c.perform op).Delivers ∧ ((c.perform op).console.core.panel = c.core.panel ∨
      (c.perform op).console.core.panel.dirty = true) := by
  by_cases h : op = .poll
  · subst h
    cases hd : c.core.panel.dirty with
    | true =>
      rw [poll_of_dirty hd]
      exact .inl ⟨rfl, _, rfl⟩
    | false =>
      rw [poll_of_clean hd]
      refine .inr ⟨?_, .inl rfl⟩
      rintro ⟨frame, ⟨⟩⟩
  · refine .inr ⟨not_delivers h, ?_⟩
    rw [perform_console]
    exact panel_moveAll_cases (c.clean_not_mem_moves h)

/-- A poll has delivered a frame, none has after it, and the screen is still what it was then. -/
def Shown (c : Console) (ops : List Operation) : Prop :=
  ∃ before later, ops = before ++ .poll :: later ∧
    ((c.performAll before).perform .poll).Delivers ∧
    (∀ r ∈ (c.performAll (before ++ [.poll])).replies later, ¬ r.Delivers) ∧
    (c.performAll ops).core.panel.screen =
      (c.performAll (before ++ [.poll])).core.panel.screen

lemma Shown.concat {ops : List Operation} {op : Operation} (h : c.Shown ops)
    (hd : ¬ ((c.performAll ops).perform op).Delivers)
    (hp : (c.performAll (ops ++ [op])).core.panel = (c.performAll ops).core.panel) :
    c.Shown (ops ++ [op]) := by
  obtain ⟨before, later, rfl, hb, hl, hs⟩ := h
  refine ⟨before, later ++ [op], by simp, hb, ?_, ?_⟩
  · have he : (c.performAll (before ++ [.poll])).performAll later =
        c.performAll (before ++ .poll :: later) := by
      rw [← performAll_append, List.append_assoc]
      rfl
    intro r hr
    rw [replies_append, he] at hr
    rcases List.mem_append.mp hr with hr | hr
    · exact hl r hr
    · obtain rfl := List.mem_singleton.mp hr
      exact hd
  · rw [hp]
    exact hs

lemma shown_of_clean {s : Settings} (h : boot s = .ok c) {ops : List Operation}
    (hd : (c.performAll ops).core.panel.dirty = false) : c.Shown ops := by
  induction ops using List.reverseRecOn with
  | nil =>
    obtain ⟨ram, rfl⟩ := eq_of_boot h
    cases hd
  | append_singleton ops op ih =>
    have hp : c.performAll (ops ++ [op]) = ((c.performAll ops).perform op).console :=
      c.performAll_append ops [op]
    rcases (c.performAll ops).perform_cases op with ⟨rfl, hf⟩ | ⟨hf, he | he⟩
    · exact ⟨ops, [], rfl, hf, fun r hr => absurd hr List.not_mem_nil, rfl⟩
    · -- the panel is as before, so the frame delivered last is still the same one
      rw [hp, he] at hd
      exact (ih hd).concat hf (hp ▸ he)
    · rw [hp, he] at hd
      cases hd

/-- No update of the screen is lost: without a mark, or when a poll gives nothing, the screen is the
one delivered last, and what a poll gives is the screen as it is. -/
theorem no_update_lost {s : Settings} (h : boot s = .ok c) (ops : List Operation) :
    ((c.performAll ops).core.panel.dirty = false → c.Shown ops) ∧
    (((c.performAll ops).perform .poll).result = .ok (.frame none) → c.Shown ops) ∧
    (.poll ∉ ops → ((c.performAll ops).perform .poll).Delivers) ∧
    ∀ frame, ((c.performAll ops).perform .poll).result = .ok (.frame (some frame)) →
      frame = (c.performAll ops).core.panel.screen ∧
        frame = ((c.performAll ops).perform .poll).console.core.panel.screen := by
  cases hd : (c.performAll ops).core.panel.dirty with
  | true =>
    rw [poll_of_dirty hd]
    refine ⟨Bool.noConfusion, ?_, fun _ => ⟨_, rfl⟩, ?_⟩
    · rintro ⟨⟩
    · rintro frame ⟨⟩
      exact ⟨rfl, rfl⟩
  | false =>
    have hs := shown_of_clean h hd
    rw [poll_of_clean hd]
    refine ⟨fun _ => hs, fun _ => hs, ?_, ?_⟩
    · obtain ⟨before, later, rfl, -⟩ := hs
      exact fun hn => absurd (List.mem_append_right before List.mem_cons_self) hn
    · rintro frame ⟨⟩

theorem no_update_lost_polled : ∃ c, boot .standard = .ok c ∧
    (c.perform .poll).Delivers ∧ (c.performAll [.poll, .tick]).core.panel.dirty = false ∧
      c.Shown [.poll, .tick] := by
  obtain ⟨c, hc⟩ : ∃ c, boot .standard = .ok c := ⟨_, rfl⟩
  have hd : (c.performAll [.poll, .tick]).core.panel.dirty = false := by
    obtain ⟨ram, rfl⟩ := eq_of_boot hc
    rfl
  exact ⟨c, hc, (no_update_lost hc []).2.2.1 List.not_mem_nil, hd, (no_update_lost hc _).1 hd⟩

end Console

end Chip8
