import Mathlib
import CodeFlow.Proofs.Files.Output
import CodeFlow.Proofs.Job
import CodeFlow.Proofs.Selection
import CodeFlow.Proofs.Text.Lower

/-!
# `CodeFlow.Proofs.Job.Sources` — what is drawn does not depend on what was written

Diagrams are drawn from files with the extensions of source code. If output is none of them, a tree that
output was written into gives the same bundles and the same payloads.

## Contents
- `Sources`: extensions that output has not; `Sources.not_isOutput`.
- `bundle_eq`, `payload_eq`: what is drawn of two trees.
-/

namespace CodeFlow.Job

open Files Selection
open Text hiding join

/-! ## Extensions -/

theorem isExtension_extensions {entry : String} {e : List Char} (h : e ∈ extensions entry) :
    IsExtension e := by
  unfold extensions at h
  simp only at h
  split_ifs at h
  · exact ⟨['p', 'y'], List.mem_singleton.1 h, by decide⟩
  · obtain ⟨part, -, rfl⟩ := List.mem_map.1 h
    exact ⟨_, rfl, by simp⟩

/-- Extensions of source code, which output has not. -/
structure Sources (exts : List (List Char)) : Prop where
  /-- They are extensions. -/
  form : ∀ e ∈ exts, IsExtension e
  /-- None is that of diagrams. -/
  pdf : ['.', 'p', 'd', 'f'] ∉ exts
  /-- None is that of texts that were refused. -/
  dot : ['.', 'd', 'o', 't'] ∉ exts

/-- A path whose last part has one of the extensions is not output. -/
theorem Sources.not_isOutput {exts : List (List Char)} (h : Sources exts) {n : String}
    (hn : hasExtension exts n = true) {path : List Char} (hpath : n.toList <:+ path) : ¬IsOutput path := by
  obtain ⟨e, he, hsuffix⟩ := List.any_eq_true.1 hn
  have hlower : e <:+ lower n.toList := List.isSuffixOf_iff_suffix.1 hsuffix
  -- an extension in lower case at the end of the path would be the one that the name has
  have hout : ∀ out, IsExtension out → (∀ c ∈ out, IsLow c) → out <:+ path → out ∈ exts := by
    intro out hform hlow hend
    rcases List.suffix_or_suffix_of_suffix hend hpath with hin | hin
    · obtain ⟨front, hfront⟩ := hin
      have hend' : out <:+ lower n.toList := hfront ▸ suffix_lowerFrom hlow front []
      rwa [hform.unique (h.form e he) hend' hlower]
    · have hname : lower n.toList = n.toList :=
        lowerFrom_of_isLow (fun c hc => hlow c (hin.subset hc)) []
      rw [hname] at hlower
      rwa [hform.unique (h.form e he) (List.suffix_refl out) (hlower.trans hin)]
  rintro (hend | hend)
  · exact h.pdf (hout _ ⟨_, rfl, by decide⟩ (by simp [IsLow]) hend)
  · exact h.dot (hout _ ⟨_, rfl, by decide⟩ (by simp [IsLow]) hend)

theorem suffix_join (folder n : String) : n.toList <:+ (join folder n).toList := by
  rw [join, String.toList_ofList, joinChars_eq]
  split_ifs
  · exact List.suffix_refl _
  · exact List.suffix_append _ _

/-! ## Bundles -/

theorem mem_addNew {p : String} {paths new : List String} (h : p ∈ addNew paths new) :
    p ∈ paths ∨ p ∈ new := by
  induction new generalizing paths with
  | nil => exact .inl h
  | cons q rest ih =>
      rcases ih h with hp | hp
      · split_ifs at hp
        · exact .inl hp
        · rcases List.mem_append.1 hp with hp | hp
          · exact .inl hp
          · exact .inr (List.mem_singleton.1 hp ▸ List.mem_cons_self)
      · exact .inr (List.mem_cons_of_mem _ hp)

/-- Besides the seed, a bundle has files with one of the extensions. -/
theorem eq_or_of_mem_bundle {t : FileTree} {exts : List (List Char)} {seed p : String}
    (h : p ∈ bundle t exts seed) : p = seed ∨ ∃ d n, p = join d n ∧ hasExtension exts n = true := by
  rcases mem_addNew h with hp | hp
  · exact .inl (List.mem_singleton.1 hp)
  · obtain ⟨n, -, hp⟩ := List.mem_flatMap.1 hp
    unfold filesInside at hp
    split_ifs at hp
    · obtain ⟨m, hm, rfl⟩ := List.mem_map.1 hp
      exact .inr ⟨_, m, rfl, (List.mem_filter.1 hm).2⟩
    · simp at hp

section
variable {t t' : FileTree} (h : t.Beside t') {exts : List (List Char)} (hexts : Sources exts)

include h hexts

theorem filesInside_eq (folder : String) : filesInside t' exts folder = filesInside t exts folder := by
  unfold filesInside
  rw [h.isFolder_eq]
  split_ifs
  · congr 1
    refine h.list_filter_eq folder fun _ _ n _ houtput _ => ?_
    by_contra hext
    exact hexts.not_isOutput (by simpa using hext) (List.suffix_refl _) houtput
  · rfl

/-- **A bundle is the same** after output was written: a new file has no files inside. -/
theorem bundle_eq (seed : String) : bundle t' exts seed = bundle t exts seed := by
  have hfiles : ∀ n, t.isFolder (join (parent seed) n) = false →
      filesInside t exts (join (parent seed) n) = [] := by
    intro n hn
    simp [filesInside, hn]
  have hnames : ((t'.list (parent seed)).toOption.getD []).filter (fun n => t.isFolder (join (parent seed) n)) =
      ((t.list (parent seed)).toOption.getD []).filter (fun n => t.isFolder (join (parent seed) n)) := by
    refine h.list_filter_eq _ fun l hl n hn _ hkind => ?_
    rw [← Bool.not_eq_true]
    intro hfolder
    -- a path that leads to a folder in the folder of the seed leads to its child
    obtain ⟨m, hm, hmkind⟩ := FileTree.exists_of_isFolder hfolder
    have hplace : m = l.child n := by
      rw [FileTree.eq_location_of_find hm, location_join (FileTree.ne_empty_of_find hl) hn,
        ← FileTree.eq_location_of_find hl]
    rw [hplace, hkind] at hmkind
    exact absurd hmkind (by simp)
  unfold bundle
  simp only [filesInside_eq h hexts]
  rw [← flatMap_filter_of_nil hfiles, hnames, flatMap_filter_of_nil hfiles]

omit hexts in
/-- **A payload is the same** after output was written, if no path of it is spelled like output. -/
theorem payload_eq {paths : List String} (hpaths : ∀ p ∈ paths, ¬IsOutput p.toList) :
    payload t' paths = payload t paths := by
  unfold payload
  refine List.filterMap_congr fun p hp => ?_
  rw [part?, part?, h.readText?_eq (hpaths p hp)]

end

/-! ## Seeds -/

theorem chosen_sublist {f : NameFilter} {paths others : List String} (h : chosen f paths = .ok others) :
    others.Sublist paths := by
  induction paths generalizing others with
  | nil =>
      obtain rfl := Except.ok.inj h
      exact List.Sublist.refl []
  | cons p rest ih =>
      rw [chosen] at h
      split at h
      · simp at h
      · split at h
        · simp at h
        · rename_i hrest
          obtain rfl := Except.ok.inj h
          split_ifs
          · exact (ih hrest).cons_cons p
          · exact (ih hrest).cons p

/-- Seeds have one of the extensions. -/
theorem exists_of_mem_seeds {t : FileTree} {exts : List (List Char)} {recursive : Bool} {f : NameFilter}
    {folder : String} {paths : List String} (h : seeds t exts recursive f folder = .ok paths) :
    ∀ p ∈ paths, ∃ d n, p = join d n ∧ hasExtension exts n = true := by
  have hcandidates : ∀ cs, candidates t exts recursive folder = .ok cs →
      ∀ p ∈ cs, ∃ d n, p = join d n ∧ hasExtension exts n = true := by
    intro cs hcs p hp
    unfold candidates at hcs
    split_ifs at hcs
    · split at hcs
      · simp at hcs
      · obtain rfl := Except.ok.inj hcs
        obtain ⟨v, -, hp⟩ := List.mem_flatMap.1 hp
        obtain ⟨n, hn, rfl⟩ := List.mem_map.1 hp
        exact ⟨v.path, n, rfl, (List.mem_filter.1 hn).2⟩
    · split at hcs
      · simp at hcs
      · obtain rfl := Except.ok.inj hcs
        obtain ⟨n, hn, rfl⟩ := List.mem_map.1 hp
        exact ⟨folder, n, rfl, (List.mem_filter.1 hn).2⟩
  unfold seeds at h
  split at h
  · simp at h
  · rename_i cs hcs
    split at h
    · simp at h
    · rename_i others hothers
      obtain rfl := Except.ok.inj h
      intro p hp
      exact hcandidates cs hcs p ((chosen_sublist hothers).subset (mem_ordered.1 hp))

theorem mem_of_mem_groups {paths : List String} {g : Group} (hg : g ∈ groups paths) :
    ∀ f ∈ g.files, f ∈ paths := by
  rw [groups_eq] at hg
  obtain ⟨folder, -, rfl⟩ := List.mem_map.1 hg
  exact fun f hf => (List.mem_filter.1 hf).1

end CodeFlow.Job
