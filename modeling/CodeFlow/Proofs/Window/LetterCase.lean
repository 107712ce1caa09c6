import Mathlib
import CodeFlow.Proofs.Job.Turns
import CodeFlow.Proofs.Selection.LetterCase
import CodeFlow.Proofs.Window.Frame

/-!
# `CodeFlow.Proofs.Window.LetterCase` — capitals in the extensions field

A run takes files whose names, in lower case, end in one of the extensions entered. Capitals in the names make no
difference, but capitals in the field do: an extension with a capital takes nothing. Two texts that differ in capitals
alone are as good as each other only if the extensions that a file can have are written in both of them, or in none,
without capitals.

## Contents
- `bundle_congr`, `performGroups_congr`: what is made by extensions that take the same names.
- `Twins`: two sessions that differ in the field alone; `twins_run`.
- `NoDifference`, `letter_case_ignored_iff`, and `PY`, which is not `py`.
-/

namespace CodeFlow

/-! ## Bundles -/

namespace Job

open Files Selection
open Text hiding join

section Congr

variable {exts exts' : List (List Char)} (h : SameNames exts exts')

include h

theorem filesInside_congr (t : FileTree) (folder : String) :
    filesInside t exts folder = filesInside t exts' folder := by
  unfold filesInside
  cases hlist : t.list folder with
  | error e => simp [Except.toOption]
  | ok names =>
      have hfilter : names.filter (hasExtension exts) = names.filter (hasExtension exts') :=
        List.filter_congr fun n hn => h n (FileTree.isFileName_of_list hlist n hn)
      simp [Except.toOption, hfilter]

/-- **The same bundles are made by extensions that take the same names.** -/
theorem bundle_congr (t : FileTree) (seed : String) : bundle t exts seed = bundle t exts' seed := by
  unfold bundle
  simp only [filesInside_congr h]

/-! ## Diagrams -/

theorem performSeed_congr (output engine : String) (simulate : Bool) (folder : String) (met : List String)
    (seed : String) : performSeed ⟨exts, output, engine, simulate⟩ folder met seed =
      performSeed ⟨exts', output, engine, simulate⟩ folder met seed := by
  unfold performSeed
  simp only [bundle_congr h]
  rfl

theorem performSeeds_congr (output engine : String) (simulate : Bool) (folder : String) (met seeds : List String) :
    performSeeds ⟨exts, output, engine, simulate⟩ folder met seeds =
      performSeeds ⟨exts', output, engine, simulate⟩ folder met seeds := by
  induction seeds generalizing met with
  | nil => rfl
  | cons seed rest ih => simp only [performSeeds, performSeed_congr h, ih]

/-- **The same diagrams are made by extensions that take the same names.** -/
theorem performGroups_congr (output engine : String) (simulate : Bool) (gs : List Group) :
    performGroups ⟨exts, output, engine, simulate⟩ gs = performGroups ⟨exts', output, engine, simulate⟩ gs := by
  induction gs with
  | nil => rfl
  | cons g rest ih => simp only [performGroups, performSeeds_congr h, ih]

end Congr

end Job

/-! ## Runs -/

namespace Window

open Files Selection
open Text hiding join

/-- Controls with other extensions entered. -/
def Controls.entering (c : Controls) (text : String) : Controls :=
  { c with entries := { c.entries with exts := text } }

/-- A session with other extensions entered. -/
def Session.entering (s : Session) (text : String) : Session := { s with controls := s.controls.entering text }

/-- Two sessions that differ in the extensions entered and in nothing else. -/
structure Twins (a b : String) (s s' : Session) : Prop where
  exts : s.controls.entries.exts = a
  other : s' = s.entering b

section Twins

variable {a b : String}

theorem twins_act {α : Type} (m : Work α) : Parallel (Twins a b) (act m) (act m) := by
  rintro s _ ⟨hexts, rfl⟩
  exact ⟨rfl, hexts, rfl⟩

theorem twins_say (text : String) : Parallel (Twins a b) (say text) (say text) := twins_act _

theorem twins_showButton (look : ButtonLook) : Parallel (Twins a b) (showButton look) (showButton look) := by
  rintro s _ ⟨hexts, rfl⟩
  exact ⟨rfl, hexts, rfl⟩

theorem twins_openFolder (folder : String) : Parallel (Twins a b) (openFolder folder) (openFolder folder) := by
  refine Coupled.get_bind ?_
  rintro s _ ⟨-, rfl⟩
  have hlauncher : (s.entering b).launcher = s.launcher := rfl
  rw [hlauncher]
  cases s.launcher.failure with
  | some reason => exact twins_say _
  | none =>
      rintro x _ ⟨hexts, rfl⟩
      exact ⟨rfl, hexts, rfl⟩

theorem twins_announce (folder : String) (f : NameFilter) (simulate : Bool) :
    Parallel (Twins a b) (announce folder f simulate) (announce folder f simulate) := by
  unfold announce
  exact (twins_say _).bind fun _ => (twins_say _).bind fun _ => twins_say _

/-- The button is made ready, and what was made is given back. -/
theorem twins_ready (made : List Job.Product) : Parallel (Twins a b)
    (showButton .ready >>= fun _ => (pure made : Task (List Job.Product)))
    (showButton .ready >>= fun _ => (pure made : Task (List Job.Product))) :=
  (twins_showButton _).bind fun _ => Parallel.pure _

variable (h : SameNames (extensions a) (extensions b))

include h

theorem seeds_congr (t : FileTree) (recursive : Bool) (f : NameFilter) (folder : String) :
    seeds t (extensions b) recursive f folder = seeds t (extensions a) recursive f folder := by
  rw [seeds, seeds, candidates_congr h]

theorem twins_performSeeds (output engine : String) (simulate : Bool) (paths : List String) :
    Parallel (Twins a b) (performSeeds ⟨extensions a, output, engine, simulate⟩ paths)
      (performSeeds ⟨extensions b, output, engine, simulate⟩ paths) := by
  unfold performSeeds
  split_ifs
  · exact (twins_say _).bind fun _ => Parallel.pure _
  · rw [Job.performGroups_congr h]
    exact twins_act _

theorem twins_processFolder (folder : String) {f : NameFilter} (hbase : extensionOf? f.base = none) (c : Controls) :
    Parallel (Twins a b) (processFolder folder f c) (processFolder folder f (c.entering b)) := by
  have htake : Parallel (Twins a b) (takeExtension f.base) (takeExtension f.base) := by
    unfold takeExtension
    rw [hbase]
    exact Parallel.pure _
  refine htake.bind fun _ => Coupled.get_bind ?_
  rintro x _ ⟨hexts, rfl⟩
  have hfiles : (x.entering b).workspace.files = x.workspace.files := rfl
  have hother : (x.entering b).controls.entries.exts = b := rfl
  have hswitches : (c.entering b).switches = c.switches := rfl
  simp only [hexts, hfiles, hother, hswitches, seeds_congr h]
  cases seeds x.workspace.files (extensions a) c.switches.recursive f folder with
  | error e => exact (twins_say _).bind fun _ => Parallel.pure _
  | ok paths =>
      refine (twins_performSeeds h _ _ _ paths).bind fun made => ?_
      split_ifs
      · exact (twins_openFolder folder).bind fun _ => Parallel.pure _
      · exact Parallel.pure _

theorem twins_runBody (files : FileTree) {c : Controls} (hbase : extensionOf? (trimmed c.entries.base) = none) :
    Parallel (Twins a b) (runBody c files) (runBody (c.entering b) files) := by
  have hrefused : ∀ text, Parallel (Twins a b)
      (say text >>= fun _ => showButton .ready >>= fun _ => (pure [] : Task (List Job.Product)))
      (say text >>= fun _ => showButton .ready >>= fun _ => (pure [] : Task (List Job.Product))) := fun text =>
    (twins_say text).bind fun _ => twins_ready []
  have hrange : rangeOf? (c.entering b) = rangeOf? c := rfl
  unfold runBody
  rw [hrange]
  cases rangeOf? c with
  | none => exact hrefused _
  | some range =>
      obtain ⟨first, last⟩ := range
      have hfolder : folderOf (c.entering b).entries = folderOf c.entries := rfl
      have hfilter : (c.entering b).entries.base = c.entries.base := rfl
      have hswitches : (c.entering b).switches = c.switches := rfl
      simp only [hfolder, hfilter, hswitches]
      have hprocess := twins_processFolder h (folderOf c.entries) (f := ⟨trimmed c.entries.base, first, last⟩) hbase c
      refine (twins_announce _ _ _).bind fun _ => ?_
      by_cases hpath : files.hasPath (folderOf c.entries) = true
      · rw [if_pos hpath, if_pos hpath]
        exact hprocess
      · rw [if_neg hpath, if_neg hpath]
        exact hrefused _

/-- **A run does the same** with extensions that take the same names. -/
theorem twins_run {s : Session} (hbase : extensionOf? (trimmed s.controls.entries.base) = none) :
    run.run (s.entering b) = ((run.run (s.entering a)).1, (run.run (s.entering a)).2.entering b) := by
  have hbody := (twins_runBody h s.workspace.files (c := (s.entering a).controls) hbase).bind twins_ready
  obtain ⟨hvalue, -, hsession⟩ := hbody (s.entering a) (s.entering b) ⟨rfl, rfl⟩
  rw [run_run, run_run]
  exact Prod.ext hvalue.symm hsession

end Twins

/-- Two texts for the extensions make no difference in a session: the same files are selected, the same bundles are
made of them, and the run does the same. -/
structure NoDifference (s : Session) (a b : String) : Prop where
  selected : discovered? (s.entering b) = discovered? (s.entering a)
  bundles : ∀ seed, Job.bundle s.workspace.files (sourceExtensions (s.entering b).controls.entries) seed =
    Job.bundle s.workspace.files (sourceExtensions (s.entering a).controls.entries) seed
  run : run.run (s.entering b) = ((run.run (s.entering a)).1, (run.run (s.entering a)).2.entering b)

theorem sourceExtensions_entering {s : Session} (hbase : extensionOf? (trimmed s.controls.entries.base) = none)
    (text : String) : sourceExtensions (s.entering text).controls.entries = extensions text := by
  change extensions ((extensionOf? (trimmed s.controls.entries.base)).getD text) = _
  rw [hbase]
  rfl

theorem noDifference_of_sameNames {a b : String} (h : SameNames (extensions a) (extensions b)) {s : Session}
    (hbase : extensionOf? (trimmed s.controls.entries.base) = none) : NoDifference s a b where
  selected := by
    have hrange : rangeOf? (s.entering b).controls = rangeOf? (s.entering a).controls := rfl
    have hfolder : folderOf (s.entering b).controls.entries = folderOf (s.entering a).controls.entries := rfl
    have hfiles : ∀ text, (s.entering text).workspace.files = s.workspace.files := fun _ => rfl
    have hswitches : (s.entering b).controls.switches = (s.entering a).controls.switches := rfl
    have hfilter : (s.entering b).controls.entries.base = (s.entering a).controls.entries.base := rfl
    simp only [discovered?, hrange, hfolder, hswitches, hfilter, sourceExtensions_entering hbase, hfiles,
      candidates_congr h]
  bundles seed := by
    rw [sourceExtensions_entering hbase, sourceExtensions_entering hbase]
    exact (Job.bundle_congr h _ seed).symm
  run := twins_run h hbase

/-! ## Names -/

section Shelf

variable {n : String} (hn : IsFileName n)

/-- A file in a folder in a folder. -/
def shelf : FileTree where
  entries :=
    [(⟨.above 0, ["p"]⟩, .folder), (⟨.above 0, ["p", "q"]⟩, .folder), (⟨.above 0, ["p", "q", n]⟩, .file (.text ""))]
  named := by
    have hp : IsFileName "p" := by decide
    have hq : IsFileName "q" := by decide
    simp [hp, hq, hn]
  distinct := by simp
  grounded := by
    intro e he
    simp only [List.mem_cons, List.not_mem_nil, or_false] at he
    rcases he with rfl | rfl | rfl <;> rfl

/-- The bundle of a seed beside the inner folder has the file if its name is taken. -/
theorem bundle_shelf (exts : List (List Char)) :
    Job.bundle (shelf hn) exts "p/x" = Job.addNew ["p/x"] (([n].filter (hasExtension exts)).map (join "p/q")) := by
  have hat : (shelf hn).isFolderAt ⟨.above 0, ["p"]⟩ = true ∧ (shelf hn).isFolderAt ⟨.above 0, ["p", "q"]⟩ = true :=
    ⟨rfl, rfl⟩
  have hfind : (shelf hn).find "p" = .ok ⟨.above 0, ["p"]⟩ ∧ (shelf hn).find "p/q" = .ok ⟨.above 0, ["p", "q"]⟩ :=
    ⟨rfl, rfl⟩
  have houter : (shelf hn).list "p" = .ok ["q"] := by
    have hnames : (shelf hn).childNames ⟨.above 0, ["p"]⟩ = ["q"] := by
      simp [shelf, FileTree.childNames, FileTree.nameIn?, Location.child, sortBy, insertBy]
    rw [FileTree.list, hfind.1]
    simp [hat.1, hnames]
  have hinner : (shelf hn).list "p/q" = .ok [n] := by
    have hnames : (shelf hn).childNames ⟨.above 0, ["p", "q"]⟩ = [n] := by
      simp [shelf, FileTree.childNames, FileTree.nameIn?, Location.child, sortBy, insertBy]
    rw [FileTree.list, hfind.2]
    simp [hat.2, hnames]
  have hparent : parent "p/x" = "p" := by decide +kernel
  have hjoin : join "p" "q" = "p/q" := by decide +kernel
  have hfolder : (shelf hn).isFolder "p/q" = true := by
    rw [FileTree.isFolder, hfind.2]
    exact hat.2
  simp [Job.bundle, hparent, houter, Except.toOption, hjoin, Job.filesInside, hfolder, hinner]

/-- Where the bundles of that tree are the same, the name is taken by both or by none. -/
theorem hasExtension_eq_of_bundle_shelf {exts exts' : List (List Char)}
    (h : Job.bundle (shelf hn) exts "p/x" = Job.bundle (shelf hn) exts' "p/x") :
    hasExtension exts n = hasExtension exts' n := by
  have hseed : join "p/q" n ≠ "p/x" := by
    intro heq
    have hparent : parent (join (join "p" "q") n) = join "p" "q" := Job.parent_join_join (by decide) hn.1.slash
    have hjoin : join "p" "q" = "p/q" := by decide +kernel
    rw [hjoin, heq] at hparent
    exact absurd hparent (by decide +kernel)
  have hmem : ∀ es, join "p/q" n ∈ Job.bundle (shelf hn) es "p/x" ↔ hasExtension es n = true := by
    intro es
    rw [bundle_shelf]
    by_cases hes : hasExtension es n = true
    · simp [hes, Job.addNew, hseed]
    · simp [hes, Job.addNew, hseed]
  rw [Bool.eq_iff_iff, ← hmem, ← hmem, h]

end Shelf

/-- A name filter without a point brings no extension along. -/
theorem extensionOf?_trimmed {base : String} (h : '.' ∉ base.toList) : extensionOf? (trimmed base) = none := by
  refine Option.eq_none_iff_forall_ne_some.2 fun ext hext => h ?_
  have hpoint := (point_mem_of_extensionOf? hext).1
  rw [trimmed, String.toList_ofList] at hpoint
  exact strip_subset _ hpoint

/-- A session that starts with the tree of a name. -/
def shelved {n : String} (hn : IsFileName n) : Session where
  workspace := { files := shelf hn }

theorem sameNames_of_noDifference {a b : String}
    (h : ∀ s : Session, '.' ∉ s.controls.entries.base.toList → NoDifference s a b) :
    SameNames (extensions a) (extensions b) := by
  intro n hn
  have hbase : (shelved hn).controls.entries.base = "" := rfl
  have hpoint : '.' ∉ (shelved hn).controls.entries.base.toList := by simp [hbase]
  have hexts := sourceExtensions_entering (s := shelved hn) (extensionOf?_trimmed hpoint)
  have hbundle := (h (shelved hn) hpoint).bundles "p/x"
  rw [hexts, hexts] at hbundle
  exact (hasExtension_eq_of_bundle_shelf hn hbundle).symm

/-- **When capitals in the extensions field make no difference.** Of two texts that differ in capitals alone, both
select the same files, make the same bundles and do the same in every session whose name filter has no point, if and
only if they give the same extensions of those that a file can have. Such an extension has no capitals. So if one text
gives it, the other gives it too, or gives it with capitals, and by that takes nothing. -/
theorem letter_case_ignored_iff {a b : String} (hab : folded a.toList = folded b.toList) :
    ((∀ s : Session, '.' ∉ s.controls.entries.base.toList → NoDifference s a b) ↔
      ∀ e, Fits e → (e ∈ extensions a ↔ e ∈ extensions b)) ∧
    (∀ e, Fits e → ∀ c ∈ e, c.isUpper = false) ∧
    (∀ e ∈ extensions a, Fits e → ∃ e' ∈ extensions b, folded e' = e ∧ (e' = e ∨ ¬Fits e')) := by
  refine ⟨⟨fun h => ?_, fun h s hbase => ?_⟩, fun e => isUpper_of_fits, fun e he hfits => ?_⟩
  · exact sameNames_extensions_iff.1 (sameNames_of_noDifference h)
  · exact noDifference_of_sameNames (sameNames_extensions_iff.2 h) (extensionOf?_trimmed hbase)
  · have hfolded : (extensions b).map folded = (extensions a).map folded := by
      rw [← extensions_folded, ← extensions_folded, hab]
    have hmem : e ∈ (extensions b).map folded := by
      rw [hfolded]
      exact List.mem_map.2 ⟨e, he, folded_eq_self (isUpper_of_fits hfits)⟩
    obtain ⟨e', he', rfl⟩ := List.mem_map.1 hmem
    refine ⟨e', he', rfl, ?_⟩
    by_cases hfits' : Fits e'
    · exact .inl (folded_eq_self (isUpper_of_fits hfits')).symm
    · exact .inr hfits'

/-- A folder with a source file in it, which is the one to search. -/
def library : Session where
  workspace := { files := FileTree.build {} [("p/a.py", .file (.text "x = 1\n"))] }
  controls := { entries := { path := "p" } }

/-- Capitals are entered, and the file is not selected. -/
theorem capitals_select_nothing : folded "PY".toList = folded "py".toList ∧
    '.' ∉ library.controls.entries.base.toList ∧ discovered? (library.entering "py") = some ["p/a.py"] ∧
    discovered? (library.entering "PY") = some [] := by
  refine ⟨by decide, by decide +kernel, by decide +kernel, by decide +kernel⟩

/-- Where `py` is entered without capitals, `Py` or `pY` beside it does nothing. -/
theorem capitals_beside_ignored : folded "Py, py".toList = folded "py, pY".toList ∧
    discovered? (library.entering "Py, py") = some ["p/a.py"] ∧
    NoDifference library "Py, py" "py, pY" := by
  have hfolded : folded "Py, py".toList = folded "py, pY".toList := by decide
  refine ⟨hfolded, by decide +kernel, ?_⟩
  refine (letter_case_ignored_iff hfolded).1.2 (fun e hfits => ?_) library (by decide +kernel)
  have hleft : extensions "Py, py" = [".Py".toList, ".py".toList] := by decide +kernel
  have hright : extensions "py, pY" = [".py".toList, ".pY".toList] := by decide +kernel
  have hcapital : ∀ t : List Char, t.any Char.isUpper = true → e ≠ t := by
    rintro t ht rfl
    obtain ⟨c, hc, hupper⟩ := List.any_eq_true.1 ht
    rw [isUpper_of_fits hfits c hc] at hupper
    exact Bool.false_ne_true hupper
  have hfirst := hcapital ".Py".toList (by decide)
  have hlast := hcapital ".pY".toList (by decide)
  simp only [hleft, hright, List.mem_cons, List.not_mem_nil, hfirst, hlast, or_false, false_or]

end Window

end CodeFlow
