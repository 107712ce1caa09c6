import Mathlib
import CodeFlow.Proofs.Window.Simulation

/-!
# `CodeFlow.Proofs.Window.Frame` — what a run leaves alone

A run writes at paths of two endings and makes no folder. Of the controls it changes the extensions at most, and
these only for a name filter that brings one along. Files with the extensions that it goes by are therefore not
written unless these are those of what it writes.

## Contents
- `Rendered`: a tree that a run has written into; `Job.steady_rendered`.
- `Framed`: what may have changed in a session; `steady_framed`.
- `run_changes_diagrams_only`.
-/

namespace CodeFlow

open Files

/-! ## Files -/

/-- A tree that a run has written into: all that changed are files that are named like diagrams. -/
structure Rendered (t t' : FileTree) : Prop where
  /-- Only output was written. -/
  beside : t.Beside t'
  /-- What is not as it was is a file, named like a diagram or like one that was refused. -/
  changed : ∀ l, t'.get? l ≠ t.get? l →
    (∃ (folder : Location) (n : String), l = folder.child n ∧ IsRendered n.toList) ∧
      ∃ content, t'.get? l = some (.file content)

theorem Rendered.refl (t : FileTree) : Rendered t t := ⟨.refl t, fun _ h => absurd rfl h⟩

theorem Files.IsRendered.nameChars {t : List Char} (h : IsRendered t) : IsRendered (nameChars t) := by
  rcases h with ⟨u, rfl⟩ | ⟨u, rfl⟩
  · rw [nameChars_append_of_not_mem u (by decide)]
    exact .inl (List.suffix_append _ _)
  · rw [nameChars_append_of_not_mem u (by decide)]
    exact .inr (List.suffix_append _ _)

theorem Rendered.write {t t' : FileTree} (h : Rendered t t') {path : String} (hpath : IsRendered path.toList)
    (content : Content) (mishap : Option Mishap) : Rendered t (t'.write path content mishap).2 := by
  refine ⟨h.beside.write hpath.isOutput content mishap, fun l hl => ?_⟩
  rcases FileTree.write_cases t' path content mishap with hsame | ⟨s, content', hopened, hput⟩
  · rw [hsame] at hl ⊢
    exact h.changed l hl
  · rw [hput, FileTree.get?_put] at hl ⊢
    split_ifs at hl ⊢ with hplace
    · exact ⟨⟨s.folder, s.name, hplace, hopened.name ▸ hpath.nameChars⟩, content', rfl⟩
    · exact h.changed l hl

/-- Whatever the service replies, a job writes files that are named like diagrams. -/
theorem Job.steady_rendered (s : Settings) (t : FileTree) : Steady s fun w => Rendered t w.files :=
  .of_files fun content mishap h hpath => h.write hpath content mishap

/-- The path of what is in a folder ends in its name. -/
theorem Files.Location.suffix_text_child (l : Location) (n : String) :
    n.toList <:+ (l.child n).text.toList := by
  have hparts : (l.child n).parts = l.parts ++ [n] := by
    obtain ⟨anchor, names⟩ := l
    cases anchor with
    | above levels => simp [Location.parts, Location.child]
    | root => simp [Location.parts, Location.child]
  have hsuffix := Text.suffix_join_concat "/".toList n.toList (l.parts.map String.toList)
  rw [Location.text, hparts, if_neg (by simp), Text.toList_joinStrings, List.map_append]
  exact hsuffix

namespace Window

open Selection Job

/-! ## Sessions -/

/-- What may be different in a session after a run. -/
structure Framed (start s : Session) : Prop where
  /-- Files that are named like diagrams. -/
  files : Rendered start.workspace.files s.workspace.files
  /-- No switch. -/
  switches : s.controls.switches = start.controls.switches
  /-- Not the engine. -/
  engine : s.controls.engine = start.controls.engine
  /-- The extensions, if the name filter brings one along, and no other field. -/
  entries : s.controls.entries = start.controls.entries ∨
    ∃ ext, extensionOf? (trimmed start.controls.entries.base) = some ext ∧
      s.controls.entries = { start.controls.entries with exts := ext }

theorem Framed.refl (s : Session) : Framed s s := ⟨.refl _, rfl, rfl, .inl rfl⟩

theorem framed_openFolder {start : Session} (folder : String) : Preserves (Framed start) (openFolder folder) := by
  intro s h
  obtain ⟨t, launches, hopen⟩ := exists_run_openFolder folder s
  rw [hopen]
  exact ⟨h.files, h.switches, h.engine, h.entries⟩

theorem framed_setEntry {start : Session} {ext : String}
    (hext : extensionOf? (trimmed start.controls.entries.base) = some ext) :
    Preserves (Framed start) (setEntry .exts ext) := by
  intro s h
  refine ⟨h.files, h.switches, h.engine, .inr ⟨ext, hext, ?_⟩⟩
  change s.controls.entries.put ext .exts = _
  rcases h.entries with hsame | ⟨ext', -, hchanged⟩
  · rw [hsame]
    rfl
  · rw [hchanged]
    rfl

theorem steady_framed (start : Session) : Steady start.controls (Framed start) where
  say _ := fun _ h => ⟨h.files, h.switches, h.engine, h.entries⟩
  ready := fun _ h => ⟨h.files, h.switches, h.engine, h.entries⟩
  takeExtension _ hext := framed_setEntry hext
  performGroups exts gs := fun s h =>
    ⟨(Job.steady_rendered (settingsOf start.controls exts) _).performGroups gs s.workspace h.files,
      h.switches, h.engine, h.entries⟩
  openFolder _ := framed_openFolder _

/-- An extension has a point before it. -/
theorem point_mem_of_extensionOf? {base ext : String} (h : extensionOf? base = some ext) :
    '.' ∈ base.toList ∧ (splitExtensionChars base.toList).2 ≠ [] := by
  unfold extensionOf? at h
  simp only at h
  split_ifs at h with hempty
  refine ⟨?_, by simpa using hempty⟩
  unfold splitExtensionChars at hempty
  simp only at hempty
  split_ifs at hempty with hpoint
  · have hname : '.' ∈ nameChars base.toList := (List.dropWhile_suffix _).subset (by simpa using hpoint)
    exact (nameChars_suffix _).subset hname
  · simp at hempty

/-- Files of a bundle have one of the extensions. -/
theorem not_isOutput_of_mem_bundle {s : Session} {found : List String} (hfound : discovered? s = some found)
    (hexts : Sources (sourceExtensions s.controls.entries)) {seed : String} (hseed : seed ∈ found)
    {t : FileTree} {p : String} (hp : p ∈ bundle t (sourceExtensions s.controls.entries) seed) :
    ¬IsOutput p.toList := by
  obtain ⟨range, paths, -, -, hpaths, hchosen⟩ := discovered?_eq_some hfound
  have hseeds := exists_of_mem_seeds (seeds_of_chosen hpaths hchosen) seed (mem_ordered.2 hseed)
  rcases eq_or_of_mem_bundle hp with rfl | ⟨d, n, rfl, hext⟩
  · obtain ⟨d, n, rfl, hext⟩ := hseeds
    exact hexts.not_isOutput hext (suffix_join d n)
  · exact hexts.not_isOutput hext (suffix_join d n)

/-- **A run changes diagrams only.** Whatever the files, the controls and the replies of the service: what a run
changes are files with paths that end in one of two ways, and it makes and removes no folder. Switches, engine and
fields stay, but for the extensions if the name filter has a point and an extension. So unless the extensions of
diagrams and of refused ones are among those that the run goes by, the files that it finds and those of their
bundles stay as they are, whatever files there are by the time that a bundle is made. -/
theorem run_changes_diagrams_only (s : Session) :
    let t := s.workspace.files
    let t' := (run.run s).2.workspace.files
    let c := (run.run s).2.controls
    let exts := sourceExtensions s.controls.entries
    (∀ l, t'.get? l ≠ t.get? l → IsRendered l.text.toList ∧ ∃ content, t'.get? l = some (.file content)) ∧
    (∀ l, t'.isFolderAt l = t.isFolderAt l) ∧
    c.switches = s.controls.switches ∧ c.engine = s.controls.engine ∧
    (c.entries = s.controls.entries ∨ ∃ ext, c.entries = { s.controls.entries with exts := ext } ∧
      '.' ∈ (trimmed s.controls.entries.base).toList ∧
      (splitExtensionChars (trimmed s.controls.entries.base).toList).2 ≠ []) ∧
    (['.', 'p', 'd', 'f'] ∉ exts → ['.', 'd', 'o', 't'] ∉ exts → ∀ found, discovered? s = some found →
      ∀ seed ∈ found, ∀ now, ∀ p ∈ bundle now exts seed,
        t'.readText? p = t.readText? p ∧ ∀ l, t.find p = .ok l → t'.get? l = t.get? l) := by
  intro t t' c exts
  have h : Framed s (run.run s).2 := (steady_framed s).run (.refl s)
  refine ⟨fun l hl => ?_, h.files.beside.folders, h.switches, h.engine, ?_, ?_⟩
  · obtain ⟨⟨folder, n, rfl, hn⟩, hcontent⟩ := h.files.changed l hl
    have hsuffix := folder.suffix_text_child n
    exact ⟨hn.imp (·.trans hsuffix) (·.trans hsuffix), hcontent⟩
  · refine h.entries.imp id ?_
    rintro ⟨ext, hext, hentries⟩
    exact ⟨ext, hentries, point_mem_of_extensionOf? hext⟩
  · intro hpdf hdot found hfound seed hseed now p hp
    have hexts : Sources exts := ⟨fun _ => isExtension_extensions, hpdf, hdot⟩
    have hsource := not_isOutput_of_mem_bundle hfound hexts hseed hp
    exact ⟨h.files.beside.readText?_eq hsource, fun l hl => h.files.beside.get?_of_find hsource hl⟩

end Window

end CodeFlow
