import Mathlib
import CodeFlow.Proofs.Job.Invariant
import CodeFlow.Proofs.Window.Invariant
import CodeFlow.Window.Operation

/-!
# `CodeFlow.Proofs.Window.Log` — what the log shows

The box of the log takes text only while it is enabled, and everything that writes into it enables it and
disables it again. So whatever is done with the window, the box is disabled in between, and it shows what was
printed since the window was opened or the log was emptied, no more and no less. Runs of every kind leave the
button ready.

## Contents
- `Terminal.Shows`: a box that shows what was printed from some point on.
- `shows_perform`, `shows_clearLog`: one operation.
- `after`: operations one after the other; `log_shows_printed`.
-/

namespace CodeFlow

/-! ## The box -/

/-- A text goes behind what a box shows, whether it was enabled or not. -/
theorem TextBox.showText_eq (b : TextBox) (text : String) : b.showText text = ⟨b.text ++ text, false⟩ := rfl

theorem TextBox.clear_eq (b : TextBox) : b.clear = ⟨"", false⟩ := rfl

/-- The box is disabled and shows what was printed behind a text that was printed before. -/
def Terminal.Shows (before : String) (t : Terminal) : Prop :=
  ∃ text, t = ⟨before ++ text, some ⟨text, false⟩⟩

theorem Terminal.Shows.put {before : String} {t : Terminal} (h : t.Shows before) (text : String) :
    (t.put text).Shows before := by
  obtain ⟨shown, rfl⟩ := h
  refine ⟨shown ++ text, ?_⟩
  rw [Terminal.put, Option.map_some, TextBox.showText_eq, String.append_assoc]

theorem Terminal.Shows.print {before : String} {t : Terminal} (h : t.Shows before) (text : String) :
    (t.print text).Shows before :=
  (h.put text).put "\n"

/-- Printing is all that a job does to the terminal. -/
theorem Job.steady_shows (s : Settings) (before : String) :
    Steady s fun w => w.terminal.Shows before where
  print text := fun _ h => h.print text
  charting _ := fun _ h => h
  handOver _ := fun _ h => h
  post _ _ := fun _ h => h
  write _ _ _ _ := Work.preserves_write fun _ _ _ h => h

namespace Window

/-! ## Operations -/

/-- The log shows what was printed behind a text that was printed before. -/
def Session.Shows (before : String) (s : Session) : Prop := s.workspace.terminal.Shows before

section
variable {before : String}

theorem shows_say (text : String) : Preserves (Session.Shows before) (say text) := fun _ h => h.print text

theorem shows_openFolder (path : String) : Preserves (Session.Shows before) (openFolder path) := by
  refine Preserves.bind (fun _ h => h) fun s => ?_
  cases s.launcher.failure with
  | some reason => exact shows_say _
  | none => exact fun _ h => h

/-- Printing is all that a run does to the terminal. -/
theorem steady_shows (c : Controls) : Steady c (Session.Shows before) where
  say := shows_say
  ready := fun _ h => h
  takeExtension _ _ := fun _ h => h
  performGroups exts gs := fun s h => (Job.steady_shows (settingsOf c exts) before).performGroups gs s.workspace h
  openFolder _ := shows_openFolder _

theorem shows_run : Preserves (Session.Shows before) run := fun s h => (steady_shows s.controls).run h

theorem shows_click : Preserves (Session.Shows before) click := by
  intro s h
  rw [run_click]
  exact shows_run _ h

theorem shows_fillExtensions (names : List String) : Preserves (Session.Shows before) (fillExtensions names) := by
  unfold fillExtensions
  simp only
  split_ifs
  · exact preserves_pure ()
  · exact Preserves.bind (fun _ h => h) fun _ => shows_say _

theorem shows_fillRange (range : Option (Nat × Nat)) : Preserves (Session.Shows before) (fillRange range) := by
  unfold fillRange
  split
  · exact Preserves.bind (fun _ h => h) fun _ => Preserves.bind (fun _ h => h) fun _ => shows_say _
  · exact Preserves.bind (fun _ h => h) fun _ _ h => h

theorem shows_detect (folder : String) : Preserves (Session.Shows before) (detect folder) := by
  refine Preserves.bind (fun _ h => h) fun s => ?_
  split
  · exact shows_say _
  · refine (shows_fillExtensions _).bind fun _ => ?_
    split
    · exact shows_say _
    · exact shows_fillRange _

theorem shows_browse (folder : String) : Preserves (Session.Shows before) (browse folder) := by
  unfold browse
  split_ifs
  · exact preserves_pure ()
  · exact Preserves.bind (fun _ h => h) fun _ => shows_detect folder

/-- **One operation**: text is added to the log at most, unless it is emptied. -/
theorem shows_perform {op : Operation} (hop : op ≠ .clear) : Preserves (Session.Shows before) op.perform := by
  cases op with
  | enter e text => exact fun _ h => h
  | turn switch on => exact fun _ h => h
  | choose engine => exact fun _ h => h
  | browse folder => exact shows_browse folder
  | detect folder => exact shows_detect folder
  | run => exact shows_run.bind fun _ => preserves_pure ()
  | click => exact shows_click.bind fun _ => preserves_pure ()
  | clear => exact absurd rfl hop
  | print text => exact shows_say text
  | launch path => exact shows_openFolder path
  | place entries => exact fun _ h => h

/-- Emptying the log: from there on it shows what is printed later. -/
theorem shows_clearLog {s : Session} (h : s.Shows before) :
    (clearLog.run s).2.Shows s.workspace.terminal.printed := by
  obtain ⟨text, ht⟩ := h
  refine ⟨"", ?_⟩
  change ({ s.workspace.terminal with box := s.workspace.terminal.box.map (·.clear) } : Terminal) = _
  rw [ht, Option.map_some, TextBox.clear_eq, String.append_empty]

end

/-! ## Sessions -/

/-- The session after operations one after the other. -/
def after (s : Session) (ops : List Operation) : Session := ops.foldl (fun s op => (op.perform.run s).2) s

theorem after_append (s : Session) (ops later : List Operation) :
    after s (ops ++ later) = after (after s ops) later := List.foldl_append

/-- The operations up to the last time that the log was emptied, or none. -/
def UpToClear (ops : List Operation) : Prop := ops = [] ∨ ∃ earlier, ops = earlier ++ [.clear]

/-- In a session that begins with an empty log, the log shows what was printed since it was last emptied. -/
theorem shows_after {s : Session} (hs : s.Shows s.workspace.terminal.printed) (ops : List Operation) :
    ∃ earlier later, ops = earlier ++ later ∧ UpToClear earlier ∧ (∀ op ∈ later, op ≠ .clear) ∧
      (after s ops).Shows (after s earlier).workspace.terminal.printed := by
  -- the operations are taken from the first to the last, so the last one is split off
  induction ops using List.reverseRecOn with
  | nil => exact ⟨[], [], rfl, .inl rfl, by simp, hs⟩
  | append_singleton ops op ih =>
      obtain ⟨earlier, later, rfl, hearlier, hlater, hshows⟩ := ih
      by_cases hop : op = .clear
      · subst hop
        refine ⟨earlier ++ later ++ [.clear], [], (List.append_nil _).symm, .inr ⟨_, rfl⟩, by simp, ?_⟩
        rw [after_append]
        have hclear := shows_clearLog hshows
        exact hclear
      · refine ⟨earlier, later ++ [op], List.append_assoc _ _ _, hearlier, ?_, ?_⟩
        · intro x hx
          rcases List.mem_append.1 hx with hx | hx
          · exact hlater x hx
          · rw [List.mem_singleton.1 hx]
            exact hop
        · rw [after_append]
          exact shows_perform hop _ hshows

theorem getLast?_button_run (s : Session) : (run.run s).2.controls.button.getLast? = some .ready := by
  rw [run_run, StateT.run_bind]
  exact List.getLast?_concat

/-- **The log and the button.** Whatever is done with a window once it is opened, and whatever fails on the way:
the box of the log is disabled in between, and its text is what was printed since the log was last emptied, or
else since the window was opened. After a run or a click the button is ready. -/
theorem log_shows_printed (w : Workspace) (launcher : Launcher) (icon : Option String) (ops : List Operation) :
    let opened := start w launcher icon
    (∃ earlier later text, ops = earlier ++ later ∧ UpToClear earlier ∧ (∀ op ∈ later, op ≠ .clear) ∧
      (after opened ops).workspace.terminal.box = some { text := text, enabled := false } ∧
      (after opened ops).workspace.terminal.printed =
        (after opened earlier).workspace.terminal.printed ++ text) ∧
    (after opened (ops ++ [.run])).controls.button.getLast? = some ⟨true, "GENERAR DIAGRAMAS"⟩ ∧
    (after opened (ops ++ [.click])).controls.button.getLast? = some ⟨true, "GENERAR DIAGRAMAS"⟩ := by
  intro opened
  have hopened : opened.Shows opened.workspace.terminal.printed := by
    refine ⟨"", ?_⟩
    rw [String.append_empty]
    rfl
  refine ⟨?_, ?_, ?_⟩
  · obtain ⟨earlier, later, hops, hearlier, hlater, text, htext⟩ := shows_after hopened ops
    exact ⟨earlier, later, text, hops, hearlier, hlater, by rw [htext], by rw [htext]⟩
  · rw [after_append]
    exact getLast?_button_run _
  · rw [after_append]
    have hclick := run_click (after opened ops)
    change (click.run (after opened ops)).2.controls.button.getLast? = _
    rw [hclick]
    exact getLast?_button_run _

end Window

end CodeFlow
