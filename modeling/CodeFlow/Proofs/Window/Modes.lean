import Mathlib
import CodeFlow.Proofs.Files.Listing
import CodeFlow.Proofs.Window.Detect

/-!
# `CodeFlow.Proofs.Window.Modes` — detection in a folder alone and with all inside

Fields are filled in by the source files of a folder, which is searched alone or with all that is inside. One might
think that where nothing is inside the two ways come to the same. They do not quite. A folder that cannot be listed is
reported by the first, which leaves the fields as they were; for the second it is a folder without source files, and
the range is emptied. And the first tests every path, so it misses files whose paths are too long to be tested.

## Contents
- `Entries.withNames`, `exists_run_detect`: fields as a function of the names that are found.
- `Session.searching`, `fieldsAfter`: the fields after a detection in one of the two ways.
- `sourceNames_unlisted`, `sourceNames_leaf`: the names that are found.
- `modes_agree_iff`, and a folder that is missing.
-/

namespace CodeFlow.Window

open Files Selection
open Text hiding join

/-! ## Fields -/

/-- The fields with the extensions of some names, if there are any. -/
def Entries.withExtensions (e : Entries) (names : List String) : Entries :=
  let exts := sortBy textLe (names.filterMap sourceExtension?).eraseDups
  if exts.isEmpty then e else { e with exts := joinStrings ", " exts }

/-- The fields with a range; without one they are emptied. -/
def Entries.withRange (e : Entries) (range : Option (Nat × Nat)) : Entries :=
  { e with
    first := (range.map fun r => toString r.1).getD ""
    last := (range.map fun r => toString r.2).getD "" }

/-- The fields as some names fill them in. A number that is too long to be read leaves the range as it was. -/
def Entries.withNames (e : Entries) (names : List String) : Entries :=
  (numbers names).toOption.elim (e.withExtensions names) fun ns => (e.withExtensions names).withRange (range? ns)

/-- The fields after a search: what is not found changes nothing. -/
def Entries.after (e : Entries) (found : Except Failure (List String)) : Entries := found.toOption.elim e e.withNames

theorem exists_run_withExtensions (names : List String) (s : Session) :
    ∃ t, (fillExtensions names).run s = ((), (s.printing t).filled (s.controls.entries.withExtensions names)) := by
  unfold fillExtensions Entries.withExtensions
  by_cases hempty : (sortBy textLe (names.filterMap sourceExtension?).eraseDups).isEmpty = true
  · rw [if_pos hempty, if_pos hempty]
    exact ⟨_, rfl⟩
  · rw [if_neg hempty, if_neg hempty]
    exact ⟨_, rfl⟩

theorem exists_run_withRange (range : Option (Nat × Nat)) (s : Session) :
    ∃ t, (fillRange range).run s = ((), (s.printing t).filled (s.controls.entries.withRange range)) := by
  cases range with
  | none => exact ⟨_, rfl⟩
  | some r => exact ⟨_, rfl⟩

theorem exists_run_reportDetect (e : Failure) (s : Session) : ∃ t, (reportDetect e).run s = ((), s.printing t) :=
  ⟨_, rfl⟩

/-- **What detection does to the fields** is up to the names that are found. -/
theorem exists_run_detect (folder : String) (s : Session) :
    ∃ t, (detect folder).run s = ((), (s.printing t).filled
      (s.controls.entries.after (sourceNames s.workspace.files s.controls.switches.recursive folder))) := by
  unfold detect
  rw [run_bind_of_eq (a := get) rfl]
  cases hnames : sourceNames s.workspace.files s.controls.switches.recursive folder with
  | error e => exact exists_run_reportDetect _ s
  | ok names =>
      obtain ⟨t, hexts⟩ := exists_run_withExtensions names s
      simp only
      rw [run_bind_of_eq hexts]
      cases hnumbers : numbers names with
      | error e =>
          have hafter : s.controls.entries.after (.ok names) = s.controls.entries.withExtensions names := by
            simp [Entries.after, Entries.withNames, hnumbers, Except.toOption]
          rw [hafter]
          exact exists_run_reportDetect _ _
      | ok ns =>
          have hafter : s.controls.entries.after (.ok names) =
              (s.controls.entries.withExtensions names).withRange (range? ns) := by
            simp [Entries.after, Entries.withNames, hnumbers, Except.toOption]
          rw [hafter]
          exact exists_run_withRange (range? ns) _

/-! ## The two ways to search -/

/-- A session in which folders inside are searched or not. -/
def Session.searching (s : Session) (recursive : Bool) : Session :=
  { s with controls := { s.controls with switches := { s.controls.switches with recursive := recursive } } }

/-- The fields after the source files of a folder were detected, in it alone or with all inside. -/
def fieldsAfter (s : Session) (recursive : Bool) (folder : String) : Entries :=
  ((detect folder).run (s.searching recursive)).2.controls.entries

theorem fieldsAfter_eq (s : Session) (recursive : Bool) (folder : String) :
    fieldsAfter s recursive folder = s.controls.entries.after (sourceNames s.workspace.files recursive folder) := by
  obtain ⟨t, hrun⟩ := exists_run_detect folder (s.searching recursive)
  rw [fieldsAfter, hrun]
  rfl

section Names

variable {t : FileTree} {folder : String}

/-- The names of a folder that cannot be listed: an error for one, for the other none. -/
theorem sourceNames_unlisted {e : FileError} (h : t.list folder = .error e) :
    sourceNames t false folder = .error (.unusable e folder) ∧
      sourceNames t true folder = if e = .nullChar then .error (.unusable e folder) else .ok [] := by
  refine ⟨by simp [sourceNames, h], ?_⟩
  unfold FileTree.list at h
  unfold sourceNames FileTree.search
  cases hfind : t.find folder with
  | error e' =>
      obtain rfl : e' = e := by simpa [hfind] using h
      cases e' <;> rfl
  | ok l =>
      rw [hfind] at h
      simp only at h
      split_ifs at h with hfolder
      obtain rfl := Except.error.inj h
      simp [hfolder]

/-- Whether a name is that of a source file. -/
def isSource (n : String) : Bool := (sourceExtension? n).isSome

/-- The names of a folder without folders in it: all its source files for one, and for the other those that can be
tested. -/
theorem sourceNames_leaf {l : Location} (hfind : t.find folder = .ok l)
    (hfolder : t.isFolderAt l = true) (hfiles : ∀ n ∈ t.childNames l, t.isFolderAt (l.child n) = false) :
    sourceNames t true folder = .ok ((t.childNames l).filter isSource) ∧
      sourceNames t false folder = .ok (((t.childNames l).filter isSource).filter fun n =>
        (FileTree.spellingError? (join folder n)).isNone) := by
  constructor
  · have hnames : t.fileNames l = t.childNames l := by
      refine List.filter_eq_self.2 fun n hn => ?_
      rw [hfiles n hn]
      rfl
    have hsearch : t.search folder = .ok [⟨folder, t.childNames l⟩] := by
      simp [FileTree.search, hfind, hfolder, FileTree.visits, FileTree.foldersBelow_eq hfiles, hnames]
    have hsource : isSource = fun n => (sourceExtension? n).isSome := rfl
    simp [sourceNames, hsearch, hsource]
  · have hlist : t.list folder = .ok (t.childNames l) := by simp [FileTree.list, hfind, hfolder]
    have htested : ∀ n ∈ t.childNames l, (t.isFile (join folder n) && isSource n) =
        ((FileTree.spellingError? (join folder n)).isNone && isSource n) := by
      intro n hn
      congr 1
      have hname := FileTree.isFileName_of_mem_childNames hn
      cases hspelling : FileTree.spellingError? (join folder n) with
      | some e => simp [FileTree.isFile, FileTree.find, hspelling, Except.toOption]
      | none =>
          have hjoin := FileTree.find_join hfind hfolder hname (FileTree.mem_childNames.1 hn) hspelling
          simp [FileTree.isFile, hjoin, Except.toOption, hfiles n hn]
    rw [List.filter_filter, ← List.filter_congr htested]
    simp [sourceNames, hlist, isSource]

end Names

theorem withNames_nil (e : Entries) : e.withNames [] = { e with first := "", last := "" } := rfl

/-- To empty the range changes nothing only if it is empty. -/
theorem emptied_eq_iff {e : Entries} : { e with first := "", last := "" } = e ↔ e.first = "" ∧ e.last = "" := by
  obtain ⟨path, base, output, exts, first, last⟩ := e
  simp [eq_comm]

/-- **The two ways agree in folders without folders inside, but for what cannot be listed or tested.** A folder that
cannot be listed leaves the fields as they were if it is searched alone. If all inside is searched as well, so does a
path that cannot be spelled for its zero character, while any other empties the range: the two agree only if that was
empty before. In a folder without folders in it, all source files count if it is searched with all inside, and if it is
searched alone those whose paths can be spelled: the two agree if all can be. -/
theorem modes_agree_iff (s : Session) (folder : String) :
    let t := s.workspace.files
    let e := s.controls.entries
    (∀ error, t.list folder = .error error →
      fieldsAfter s false folder = e ∧
      fieldsAfter s true folder = (if error = .nullChar then e else { e with first := "", last := "" }) ∧
      (fieldsAfter s true folder = fieldsAfter s false folder ↔
        error = .nullChar ∨ e.first = "" ∧ e.last = "")) ∧
    (∀ l, t.find folder = .ok l → t.isFolderAt l = true →
      (∀ n ∈ t.childNames l, t.isFolderAt (l.child n) = false) →
      fieldsAfter s true folder = e.withNames ((t.childNames l).filter isSource) ∧
      fieldsAfter s false folder = e.withNames (((t.childNames l).filter isSource).filter fun n =>
        (FileTree.spellingError? (join folder n)).isNone) ∧
      ((∀ n ∈ t.childNames l, isSource n = true → FileTree.spellingError? (join folder n) = none) →
        fieldsAfter s true folder = fieldsAfter s false folder)) := by
  intro t e
  rw [fieldsAfter_eq, fieldsAfter_eq]
  constructor
  · intro error herror
    obtain ⟨hflat, hdeep⟩ := sourceNames_unlisted herror
    have halone : e.after (sourceNames t false folder) = e := by
      rw [hflat]
      rfl
    have hinside : e.after (sourceNames t true folder) =
        if error = .nullChar then e else { e with first := "", last := "" } := by
      rw [hdeep]
      split_ifs
      · rfl
      · exact withNames_nil e
    refine ⟨halone, hinside, ?_⟩
    rw [hinside, halone]
    by_cases hnull : error = .nullChar
    · simp [hnull]
    · rw [if_neg hnull, emptied_eq_iff]
      exact (or_iff_right hnull).symm
  · intro l hfind hfolder hfiles
    obtain ⟨hdeep, hflat⟩ := sourceNames_leaf hfind hfolder hfiles
    refine ⟨by rw [hdeep]; rfl, by rw [hflat]; rfl, fun hspelled => ?_⟩
    have hall : ((t.childNames l).filter isSource).filter (fun n => (FileTree.spellingError? (join folder n)).isNone) =
        (t.childNames l).filter isSource := by
      refine List.filter_eq_self.2 fun n hn => ?_
      obtain ⟨hchild, hsource⟩ := List.mem_filter.1 hn
      rw [hspelled n hchild hsource]
      rfl
    rw [hdeep, hflat, hall]

/-- A folder that is missing leaves the range as it was if it is searched alone, and empties it otherwise. -/
theorem missing_modes_differ : (FileTree.list {} "missing").toOption = none ∧
    (fieldsAfter {} false "missing").first = "91" ∧ (fieldsAfter {} true "missing").first = "" ∧
    fieldsAfter {} true "missing" ≠ fieldsAfter {} false "missing" := by
  decide +kernel

/-- A folder with a source file in it, -/
def stocked : Session where
  workspace := { files := FileTree.build {} [("p/a7.py", .file (.text ""))] }

/-- in which both ways fill in the same. -/
theorem stocked_modes_agree :
    (fieldsAfter stocked false "p").first = "7" ∧
    fieldsAfter stocked true "p" = fieldsAfter stocked false "p" := by
  have hfound : stocked.workspace.files.find "p" = .ok ⟨.above 0, ["p"]⟩ := by rfl
  refine ⟨by decide +kernel, ?_⟩
  refine ((modes_agree_iff stocked "p").2 ⟨.above 0, ["p"]⟩ hfound ?_ ?_).2.2 ?_
  · decide +kernel
  · decide +kernel
  · decide +kernel

end CodeFlow.Window
