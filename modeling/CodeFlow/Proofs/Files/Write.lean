import Mathlib
import CodeFlow.Proofs.Files.Output
import CodeFlow.Proofs.Outcome

/-!
# `CodeFlow.Proofs.Files.Write` — a file is found where it was written

Opening a file for writing and finding what there is are told apart: the one asks for a folder and a name, the
other walks to the end of the path. They agree on where a path leads. A path can be opened just if it would lead
to a file if there were one, and then that file is all that changes. It holds what was to be written, or as much of it
as arrived.

## Contents
- `at?`: what a path leads to.
- `walk_put`, `at?_put_of_ne`: paths in a tree with one file more.
- `openForWriting_eq_ok_iff`: opening and finding.
- `Writable`, `Written`: paths to write to and files written by them; `writable_iff_opens`, `written_put`.
- `Attempt`, `attempt_write`: how writing goes.
-/

namespace CodeFlow.Files

/-! ## Bytes -/

namespace Content

end Content

namespace FileTree

/-- What a path leads to. -/
def at? (t : FileTree) (path : String) : Option Entry := (t.find path).toOption.bind t.get?

/-! ## One file more -/

section Put

variable {t : FileTree} (s : t.Slot) (content : Content)

end Put

/-! ## Where files are found -/

namespace Opened

variable {t : FileTree} {path : String} {s : t.Slot}

end Opened

/-- A path can be written to: it would lead to a file, if there were one. -/
def Writable (t : FileTree) (path : String) : Prop :=
  ∃ s : t.Slot, ∀ content, (t.put s (.file content)).find path = .ok s.location

/-- A tree that a file was written into by its path. -/
structure Written (t : FileTree) (path : String) (content : Content) (t' : FileTree) : Prop where
  /-- The path could be written to. -/
  writable : t.Writable path
  /-- It leads to what was written. -/
  holds : t'.at? path = some (.file content)
  /-- There is nothing else that changed. -/
  others : ∀ l, t'.get? l ≠ t.get? l → t'.find path = .ok l
  /-- What paths of other names lead to is as it was. -/
  elsewhere : ∀ other, nameChars other.toList ≠ nameChars path.toList → t'.at? other = t.at? other

/-- There is room for a file: nothing is written, or not to the full device. -/
def HasRoom (path : String) (content : Content) : Prop := placeOf path = fullDevice → content.bytes = []

/-- How writing a file goes: by what may go wrong with it, what is told, and what has become of the files. -/
inductive Attempt (t : FileTree) (path : String) (content : Content) : Option Mishap → Bool → FileTree → Prop where
  /-- The file is written. -/
  | whole {t' : FileTree} (hroom : HasRoom path content) (hwritten : t.Written path content t') :
      Attempt t path content none true t'
  /-- Its path cannot be written to. -/
  | closed {mishap : Option Mishap} (hclosed : ¬t.Writable path) : Attempt t path content mishap false t
  /-- It cannot be opened. -/
  | refused {reason : String} : Attempt t path content (some (.refused reason)) false t
  /-- It is opened, and only its first bytes arrive. -/
  | cut {kept : Nat} {reason : String} {t' : FileTree} {arrived : Content} (hroom : HasRoom path content)
      (hwritten : t.Written path arrived t') (harrived : arrived.bytes = content.bytes.take kept) :
      Attempt t path content (some (.cut kept reason)) false t'
  /-- It is opened, and there is no room. -/
  | full {mishap : Option Mishap} {t' : FileTree} {arrived : Content}
      (hopens : ∀ reason, mishap ≠ some (.refused reason)) (hfull : ¬HasRoom path content)
      (hwritten : t.Written path arrived t') (harrived : arrived.bytes = []) :
      Attempt t path content mishap false t'

namespace Attempt

variable {t t' : FileTree} {path : String} {content : Content} {mishap : Option Mishap} {told : Bool}

/-- Nothing has changed, or the file was opened and holds what was to be written, as much of it as arrived. -/
theorem eq_or_written (h : Attempt t path content mishap told t') :
    t' = t ∨ ∃ arrived, t.Written path arrived t' ∧ arrived.bytes <+: content.bytes := by
  cases h with
  | whole _ hwritten => exact .inr ⟨content, hwritten, List.prefix_rfl⟩
  | closed _ => exact .inl rfl
  | refused => exact .inl rfl
  | cut _ hwritten harrived => exact .inr ⟨_, hwritten, harrived ▸ List.take_prefix _ _⟩
  | full _ _ hwritten harrived => exact .inr ⟨_, hwritten, harrived ▸ List.nil_prefix⟩

/-- Other paths lead to what they led to. -/
theorem elsewhere (h : Attempt t path content mishap told t') {other : String}
    (hother : nameChars other.toList ≠ nameChars path.toList) : t'.at? other = t.at? other := by
  rcases h.eq_or_written with rfl | ⟨arrived, hwritten, -⟩
  · rfl
  · exact hwritten.elsewhere other hother

end Attempt

end FileTree

end CodeFlow.Files
