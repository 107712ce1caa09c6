import Mathlib
import CodeFlow.Proofs.Selection.Scan
import CodeFlow.Proofs.Window.Fields
import CodeFlow.Proofs.Window.Search

/-!
# `CodeFlow.Proofs.Window.Detect` — what is detected is what a run takes

When a folder is chosen, its source files are detected, and fields are filled in by them. A run goes by the fields and
searches the folder again. It comes by the same files, and takes those that have a number.

## Contents
- `detected`: the files that are detected; `sourceNames_eq`.
- `exists_run_browse`: what choosing a folder does.
- `Follows`: a window after a choice; `detection_complete`.
-/

namespace CodeFlow.Window

open Files Selection
open Text hiding join

/-! ## Detected files -/

/-- Whether a path that a search comes by is taken for a source file. In a folder that is searched alone there may be
folders too, so the path has to lead to a file. -/
def detects (t : FileTree) (recursive : Bool) (path : String) : Bool :=
  (sourceExtension? (name path)).isSome && (recursive || t.isFile path)

/-- The source files that are detected in a folder, by path. -/
def detected (t : FileTree) (recursive : Bool) (folder : String) : Except Failure (List String) :=
  (scanned t recursive folder).map (List.filter (detects t recursive))

theorem map_name_filter_map_join (root : String) {ns : List String} (h : ∀ n ∈ ns, IsPart n) {p q : String → Bool}
    (hpq : ∀ n ∈ ns, p (join root n) = q n) : ((ns.map (join root)).filter p).map name = ns.filter q := by
  have hname : ∀ n ∈ ns.filter q, (name ∘ join root) n = n := fun n hn =>
    name_join root (h n (List.mem_filter.1 hn).1).slash
  have hfilter : ns.filter (p ∘ join root) = ns.filter q := List.filter_congr hpq
  rw [List.filter_map, List.map_map, hfilter, List.map_congr_left hname, List.map_id']

/-- **The names that are detected** are those of the files. -/
theorem sourceNames_eq (t : FileTree) (recursive : Bool) (folder : String) :
    sourceNames t recursive folder = (detected t recursive folder).map (List.map name) := by
  unfold sourceNames detected scanned
  cases recursive with
  | true =>
      cases hsearch : t.search folder with
      | error e => rfl
      | ok visits =>
          have hfiles : ∀ v ∈ visits, ((v.files.map (join v.path)).filter (detects t true)).map name =
              v.files.filter fun n => (sourceExtension? n).isSome := by
            intro v hv
            have hparts : ∀ n ∈ v.files, IsPart n := fun n hn => (FileTree.isFileName_of_search hsearch v hv n hn).1
            refine map_name_filter_map_join v.path hparts fun n hn => ?_
            rw [detects, name_join v.path (hparts n hn).slash, Bool.true_or, Bool.and_true]
          simp only [if_true, Except.map, Except.mapError, List.filter_flatMap, List.map_flatMap,
            List.flatMap_congr hfiles]
  | false =>
      cases hlist : t.list folder with
      | error e => rfl
      | ok names =>
          have hparts : ∀ n ∈ names, IsPart n := fun n hn => (FileTree.isFileName_of_list hlist n hn).1
          have hfiles : ∀ n ∈ names, detects t false (join folder n) =
              (t.isFile (join folder n) && (sourceExtension? n).isSome) := by
            intro n hn
            rw [detects, name_join folder (hparts n hn).slash, Bool.false_or, Bool.and_comm]
          have hnames := map_name_filter_map_join folder hparts hfiles
          simp only [Bool.false_eq_true, if_false, Except.map, Except.mapError, hnames]

theorem exists_scanned {t : FileTree} {recursive : Bool} {folder : String} {found : List String}
    (h : detected t recursive folder = .ok found) :
    ∃ paths, scanned t recursive folder = .ok paths ∧ found = paths.filter (detects t recursive) := by
  unfold detected at h
  cases hscanned : scanned t recursive folder with
  | error e => simp [hscanned, Except.map] at h
  | ok paths =>
      rw [hscanned] at h
      exact ⟨paths, rfl, (Except.ok.inj h).symm⟩

/-! ## Choosing a folder -/

/-- The extensions of some files, as they are filled in. -/
def detectedExtensions (found : List String) : List String :=
  sortBy textLe ((found.map name).filterMap sourceExtension?).eraseDups

/-- The fields as they are filled in: a folder, the extensions of some files in it, and a range of numbers. -/
def Entries.fill (e : Entries) (folder : String) (found : List String) (a b : Nat) : Entries :=
  { e with
    path := folder, exts := joinStrings ", " (detectedExtensions found)
    first := toString a, last := toString b }

/-- A session with other fields. -/
def Session.filled (s : Session) (e : Entries) : Session := { s with controls := { s.controls with entries := e } }

theorem exists_run_fillExtensions {found : List String} (h : detectedExtensions found ≠ []) (s : Session) :
    ∃ t, (fillExtensions (found.map name)).run s = ((), (s.printing t).filled
      { s.controls.entries with exts := joinStrings ", " (detectedExtensions found) }) := by
  have hempty : ¬(detectedExtensions found).isEmpty = true := by simpa using h
  unfold fillExtensions
  rw [← detectedExtensions, if_neg hempty]
  exact ⟨_, rfl⟩

theorem exists_run_fillRange (a b : Nat) (s : Session) :
    ∃ t, (fillRange (some (a, b))).run s = ((), (s.printing t).filled
      { s.controls.entries with first := toString a, last := toString b }) :=
  ⟨_, rfl⟩

/-- **Choosing a folder** fills in its path, the extensions of its source files and the range of their numbers, once
there is one with a number. -/
theorem exists_run_browse {s : Session} {folder : String} {found : List String} (hfolder : folder ≠ "")
    (hnames : sourceNames s.workspace.files s.controls.switches.recursive folder = .ok (found.map name))
    (hexts : detectedExtensions found ≠ []) (hnumber : ∃ p ∈ found, (number? p).isSome = true)
    (hsize : ∀ p ∈ found, (name p).utf8ByteSize ≤ 255) :
    ∃ a b t, range? (found.filterMap number?) = some (a, b) ∧
      (browse folder).run s = ((), (s.printing t).filled (s.controls.entries.fill folder found a b)) := by
  obtain ⟨p, hp, hsome⟩ := hnumber
  obtain ⟨n, hn⟩ := Option.isSome_iff_exists.1 hsome
  obtain ⟨⟨a, b⟩, hrange⟩ := exists_range? (List.ne_nil_of_mem (List.mem_filterMap.2 ⟨p, hp, hn⟩))
  have hnumbers := numbers_map_name hsize
  have hempty : ¬folder.isEmpty = true := by simpa using hfolder
  have hpath : (setEntry .path folder).run s = ((), s.filled { s.controls.entries with path := folder }) := rfl
  unfold browse
  rw [if_neg hempty, run_bind_of_eq hpath]
  unfold detect
  rw [run_bind_of_eq (a := get) rfl]
  simp only [Session.filled, hnames, hnumbers, hrange]
  obtain ⟨t, ht⟩ := exists_run_fillExtensions hexts (s.filled { s.controls.entries with path := folder })
  rw [Session.filled] at ht
  rw [run_bind_of_eq ht]
  obtain ⟨t', ht'⟩ := exists_run_fillRange a b _
  exact ⟨a, b, t', rfl, ht'⟩

/-! ## The run that follows -/

theorem mem_detectedExtensions {found : List String} {e : String} :
    e ∈ detectedExtensions found ↔ ∃ p ∈ found, sourceExtension? (name p) = some e := by
  rw [detectedExtensions, mem_sortBy, List.mem_eraseDups, List.mem_filterMap]
  simp

theorem detectedExtensions_ne_nil {t : FileTree} {recursive : Bool} {found : List String}
    (hfound : ∀ p ∈ found, detects t recursive p = true) (hne : found ≠ []) : detectedExtensions found ≠ [] := by
  obtain ⟨p, hp⟩ := List.exists_mem_of_ne_nil found hne
  obtain ⟨e, he⟩ := Option.isSome_iff_exists.1 (Bool.and_eq_true_iff.1 (hfound p hp)).1
  exact List.ne_nil_of_mem (mem_detectedExtensions.2 ⟨p, hp, he⟩)

/-- What is read of the extensions that were filled in. -/
theorem extensions_detected {found : List String} (hne : detectedExtensions found ≠ []) :
    extensions (joinStrings ", " (detectedExtensions found)) =
      (detectedExtensions found).map fun e => '.' :: e.toList := by
  refine extensions_joinStrings hne fun e he => ?_
  obtain ⟨p, -, hp⟩ := mem_detectedExtensions.1 he
  exact (sourceExtension?_eq_some.1 hp).1

/-- A name has one of the extensions that were filled in just if its extension was detected. -/
theorem hasExtension_detected {found : List String} (n : String) :
    hasExtension ((detectedExtensions found).map fun e => '.' :: e.toList) n = true ↔
      ∃ e ∈ detectedExtensions found, sourceExtension? n = some e := by
  rw [hasExtension, List.any_map, List.any_eq_true]
  refine exists_congr fun e => and_congr_right fun he => ?_
  obtain ⟨p, -, hp⟩ := mem_detectedExtensions.1 he
  exact isSuffixOf_lower_iff (sourceExtension?_eq_some.1 hp).1

/-- What a filter takes that has a range and no text: names with a number in the range. -/
theorem accepted_inRange {a b : Nat} {p : String} (h : (name p).utf8ByteSize ≤ 255) :
    accepted ⟨"", some (a : Int), some (b : Int)⟩ (name p) = true ↔
      name p ≠ ownName ∧ ∃ n, number? p = some n ∧ a ≤ n ∧ n ≤ b := by
  have hoccurs : occurs (lower "".toList) (lower (name p).toList) = true := by
    cases lower (name p).toList <;> rfl
  rw [accepted, Bool.and_eq_true_iff, decide_eq_true_eq, NameFilter.accepts, firstNumber_name h]
  refine and_congr_right fun _ => ?_
  simp only [hoccurs, if_true]
  cases number? p with
  | none => simp [Except.map, Except.toOption]
  | some n => simp [Except.map, Except.toOption, NameFilter.inRange]

/-- A window in which a folder was chosen, once it is set to run by what was filled in: the range is used, there is no
name filter, and folders inside are searched or not as before. -/
structure Follows (chosen s : Session) : Prop where
  /-- The files are the same. -/
  files : s.workspace.files = chosen.workspace.files
  /-- The fields are as they were filled in. -/
  path : s.controls.entries.path = chosen.controls.entries.path
  exts : s.controls.entries.exts = chosen.controls.entries.exts
  first : s.controls.entries.first = chosen.controls.entries.first
  last : s.controls.entries.last = chosen.controls.entries.last
  /-- Folders inside are searched or not as before. -/
  recursive : s.controls.switches.recursive = chosen.controls.switches.recursive
  /-- The range is used. -/
  range : s.controls.switches.useRange = true
  /-- There is no name filter. -/
  base : trimmed s.controls.entries.base = ""

/-- A window in which the range is turned on. -/
def Session.ranged (s : Session) : Session :=
  { s with controls := { s.controls with switches := { s.controls.switches with useRange := true } } }

theorem follows_ranged {s : Session} (h : trimmed s.controls.entries.base = "") : Follows s s.ranged :=
  ⟨rfl, rfl, rfl, rfl, rfl, rfl, rfl, h⟩

/-- What a run finds by fields that say where to search and which numbers to take. -/
theorem discovered?_of_fields {s : Session} {folder : String} {paths : List String} {a b : Nat}
    (hfolder : folderOf s.controls.entries = folder)
    (hscanned : scanned s.workspace.files s.controls.switches.recursive folder = .ok paths) (hne : paths ≠ [])
    (hrange : rangeOf? s.controls = some (some (a : Int), some (b : Int)))
    (hbase : trimmed s.controls.entries.base = "") :
    discovered? s = some ((paths.filter fun p => hasExtension (extensions s.controls.entries.exts) (name p)).filter
      fun p => accepted ⟨"", some (a : Int), some (b : Int)⟩ (name p)) := by
  obtain ⟨l, hfind, -⟩ := (scanned_cases hscanned).resolve_left hne
  have hpath : s.workspace.files.hasPath folder = true := by
    rw [FileTree.hasPath, hfind]
    rfl
  have hexts : sourceExtensions s.controls.entries = extensions s.controls.entries.exts := by
    rw [sourceExtensions, hbase]
    rfl
  unfold discovered?
  rw [hrange, hfolder, hexts, hbase, Option.bind_some, if_pos hpath, candidates_eq, hscanned]
  simp only [Except.map, Except.toOption, Option.bind_some, chosen_scanned hscanned]

/-- **A path that a search comes by is taken just if it was detected and has a number**, but for the program's own
name and for what is no file. -/
theorem taken_iff_detected {t : FileTree} {recursive : Bool} {paths : List String} {a b : Nat}
    (hrange : range? ((paths.filter (detects t recursive)).filterMap number?) = some (a, b)) {p : String}
    (hp : p ∈ paths) (hsize : (name p).utf8ByteSize ≤ 255) :
    let exts := (detectedExtensions (paths.filter (detects t recursive))).map fun e => '.' :: e.toList
    ((recursive || t.isFile p) = true ∧ accepted ⟨"", some (a : Int), some (b : Int)⟩ (name p) = true) ∧
        hasExtension exts (name p) = true ↔
      ((number? p).isSome = true ∧ name p ≠ ownName) ∧ detects t recursive p = true := by
  intro exts
  obtain ⟨⟨-, hleast⟩, -, hgreatest⟩ := range?_eq_some hrange
  rw [hasExtension_detected, accepted_inRange hsize]
  constructor
  · rintro ⟨⟨hfile, hown, n, hn, -⟩, e, -, hext⟩
    exact ⟨⟨by rw [hn]; rfl, hown⟩, by rw [detects, hext, hfile]; rfl⟩
  · rintro ⟨⟨hsome, hown⟩, hdetects⟩
    have hin : p ∈ paths.filter (detects t recursive) := List.mem_filter.2 ⟨hp, hdetects⟩
    obtain ⟨hext, hfile⟩ := Bool.and_eq_true_iff.1 hdetects
    obtain ⟨e, he⟩ := Option.isSome_iff_exists.1 hext
    obtain ⟨n, hn⟩ := Option.isSome_iff_exists.1 hsome
    have hmem : n ∈ (paths.filter (detects t recursive)).filterMap number? := List.mem_filterMap.2 ⟨p, hin, hn⟩
    exact ⟨⟨hfile, hown, n, hn, hleast n hmem, hgreatest n hmem⟩, e, mem_detectedExtensions.2 ⟨p, hin, he⟩, he⟩

/-- What a run selects by fields that were filled in, and what was detected. -/
theorem filter_taken_eq {t : FileTree} {recursive : Bool} {paths : List String} {a b : Nat}
    (hrange : range? ((paths.filter (detects t recursive)).filterMap number?) = some (a, b))
    (hsize : ∀ p ∈ paths, (name p).utf8ByteSize ≤ 255) :
    let found := paths.filter (detects t recursive)
    let exts := (detectedExtensions found).map fun e => '.' :: e.toList
    ((paths.filter fun p => hasExtension exts (name p)).filter fun p =>
        accepted ⟨"", some (a : Int), some (b : Int)⟩ (name p)).filter (fun p => recursive || t.isFile p) =
      found.filter fun p => (number? p).isSome && name p ≠ ownName := by
  intro found exts
  rw [List.filter_filter, List.filter_filter, List.filter_filter]
  refine List.filter_congr fun p hp => ?_
  rw [Bool.eq_iff_iff]
  simp only [Bool.and_eq_true, decide_eq_true_eq]
  exact taken_iff_detected hrange hp (hsize p hp)

/-- The range that a run reads of fields that were filled in. -/
theorem rangeOf?_filled {c : Controls} {paths : List String} {a b : Nat} (hrange : c.switches.useRange = true)
    (hfirst : c.entries.first = toString a) (hlast : c.entries.last = toString b)
    (h : range? (paths.filterMap number?) = some (a, b)) :
    rangeOf? c = some (some (a : Int), some (b : Int)) := by
  have hread : ∀ n ∈ paths.filterMap number?, boundOf? (toString n) = some (some (n : Int)) := by
    intro n hn
    obtain ⟨p, -, hp⟩ := List.mem_filterMap.1 hn
    exact boundOf?_toString (lt_of_number? hp)
  obtain ⟨⟨ha, -⟩, hb, -⟩ := range?_eq_some h
  rw [rangeOf?, if_pos hrange, hfirst, hlast, hread a ha, hread b hb]
  rfl

/-- What a run finds by fields that were filled in. -/
theorem discovered?_of_filled {s s' : Session} {t : Terminal} {folder : String} {paths found : List String}
    {a b : Nat} (hfolder : folder ≠ "") (htrimmed : trimmed folder = folder)
    (hscanned : scanned s.workspace.files s.controls.switches.recursive folder = .ok paths) (hne : paths ≠ [])
    (hexts : detectedExtensions found ≠ []) (hrange : range? (found.filterMap number?) = some (a, b))
    (hafter : Follows ((s.printing t).filled (s.controls.entries.fill folder found a b)) s') :
    let exts := (detectedExtensions found).map fun e => '.' :: e.toList
    discovered? s' = some ((paths.filter fun p => hasExtension exts (name p)).filter
      fun p => accepted ⟨"", some (a : Int), some (b : Int)⟩ (name p)) := by
  intro exts
  have hfolderOf : folderOf s'.controls.entries = folder := by
    have hpath : trimmed s'.controls.entries.path = folder := (congrArg trimmed hafter.path).trans htrimmed
    rw [folderOf, hpath]
    exact if_neg (by simpa using hfolder)
  have hscanned' : scanned s'.workspace.files s'.controls.switches.recursive folder = .ok paths := by
    rw [hafter.files, hafter.recursive]
    exact hscanned
  have hrangeOf := rangeOf?_filled hafter.range hafter.first hafter.last hrange
  have hextsOf : extensions s'.controls.entries.exts = exts :=
    (congrArg extensions hafter.exts).trans (extensions_detected hexts)
  rw [discovered?_of_fields hfolderOf hscanned' hne hrangeOf hafter.base, hextsOf]

/-- **Detection is complete for the run that follows.** Whenever a folder is chosen and a file with a number is
detected in it, a run that goes by what was filled in takes the files that were detected and have a number, but for
those with the program's own name. If folders inside are searched it takes these and no others. In a folder alone it
may take folders that are named like files besides, so these are the regular files that it takes. -/
theorem detection_complete {s s' : Session} {folder : String} {found : List String}
    (hfolder : folder ≠ "") (htrimmed : trimmed folder = folder)
    (hfound : detected s.workspace.files s.controls.switches.recursive folder = .ok found)
    (hnumber : ∃ p ∈ found, (number? p).isSome = true) (hafter : Follows ((browse folder).run s).2 s') :
    let numbered := found.filter fun p => (number? p).isSome && name p ≠ ownName
    sourceNames s.workspace.files s.controls.switches.recursive folder = .ok (found.map name) ∧
    ∃ selected, discovered? s' = some selected ∧ (selected ≠ [] → RunTakes s' selected) ∧
      (s.controls.switches.recursive = true → selected = numbered) ∧
      (s.controls.switches.recursive = false → selected.filter s.workspace.files.isFile = numbered) := by
  intro numbered
  have hnames := sourceNames_eq s.workspace.files s.controls.switches.recursive folder
  rw [hfound] at hnames
  obtain ⟨paths, hscanned, rfl⟩ := exists_scanned hfound
  have hsize : ∀ q ∈ paths, (name q).utf8ByteSize ≤ 255 := by
    intro q hq
    obtain ⟨root, n, rfl, hn, hshort⟩ := exists_of_mem_scanned hscanned hq
    rwa [name_join root hn.slash]
  obtain ⟨p, hp, hsome⟩ := hnumber
  have hexts := detectedExtensions_ne_nil (fun q hq => (List.mem_filter.1 hq).2) (List.ne_nil_of_mem hp)
  obtain ⟨a, b, t, hrange, hbrowse⟩ := exists_run_browse hfolder hnames hexts ⟨p, hp, hsome⟩
    fun q hq => hsize q (List.mem_filter.1 hq).1
  rw [hbrowse] at hafter
  have hdiscovered := discovered?_of_filled hfolder htrimmed hscanned
    (List.ne_nil_of_mem (List.mem_filter.1 hp).1) hexts hrange hafter
  obtain ⟨selected, hselected, hsame⟩ : ∃ selected, discovered? s' = some selected ∧
      selected.filter (fun q => s.controls.switches.recursive || s.workspace.files.isFile q) = numbered :=
    ⟨_, hdiscovered, filter_taken_eq hrange hsize⟩
  refine ⟨hnames, selected, hselected, runTakes_of_discovered hselected, fun hdeep => ?_, fun hflat => ?_⟩
  · rw [← hsame, List.filter_eq_self.2]
    intro q _
    rw [hdeep]
    rfl
  · rw [← hsame]
    refine List.filter_congr fun q _ => ?_
    rw [hflat]
    rfl

/-- A window for a folder that has a folder named like a file, and a file with digits of another script. -/
def survey : Session where
  workspace :=
    { files := ({} : FileTree).build
        [("p/a٣.PY", .file (.text "x")), ("p/b10.py", .file (.text "y")), ("p/c.js", .file (.text "z")),
          ("p/d4.py", .folder), ("p/generador_diagramas3000.py", .file (.text ""))] }
  controls := { entries := { base := " " }, switches := { recursive := false } }

/-- The run takes the files with a number, and the folder that is named like one. -/
theorem survey_complete :
    let chosen := ((browse "p").run survey).2
    trimmed "p" = "p" ∧
    detected survey.workspace.files survey.controls.switches.recursive "p" =
      .ok ["p/a٣.PY", "p/b10.py", "p/c.js", "p/generador_diagramas3000.py"] ∧
    Follows chosen chosen.ranged ∧ discovered? chosen.ranged = some ["p/a٣.PY", "p/b10.py", "p/d4.py"] ∧
    ["p/a٣.PY", "p/b10.py", "p/d4.py"].filter survey.workspace.files.isFile = ["p/a٣.PY", "p/b10.py"] := by
  intro chosen
  have hfolder : trimmed "p" = "p" := by decide +kernel
  have hfound : detected survey.workspace.files survey.controls.switches.recursive "p" =
      .ok ["p/a٣.PY", "p/b10.py", "p/c.js", "p/generador_diagramas3000.py"] :=
    eq_ok_of_toOption (by decide +kernel)
  have hafter : Follows chosen chosen.ranged := follows_ranged (by decide +kernel)
  have hselected : discovered? chosen.ranged = some ["p/a٣.PY", "p/b10.py", "p/d4.py"] := by decide +kernel
  obtain ⟨-, selected, hdiscovered, -, -, hregular⟩ := detection_complete (by decide) hfolder hfound
    ⟨"p/b10.py", by decide +kernel, by decide +kernel⟩ hafter
  obtain rfl : _ = selected := Option.some.inj (hselected.symm.trans hdiscovered)
  refine ⟨hfolder, hfound, hafter, hselected, ?_⟩
  rw [hregular rfl]
  decide +kernel

end CodeFlow.Window
