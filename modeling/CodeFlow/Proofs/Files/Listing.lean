import Mathlib
import CodeFlow.Proofs.Files.Tree

/-!
# `CodeFlow.Proofs.Files.Listing` — what is listed is listed once

No place of a tree has two entries, so no listing names anything twice. Everything lies in a folder, so a folder
without folders in it is all that a search of it comes by.

## Contents
- `nodup_childNames`, `nodup_fileNames`, `nodup_foldersBelow`: listings.
- `get?_of_mem`: what there is at a place with an entry.
- `isFolderAt_of_below`, `foldersBelow_eq`: folders inside.
-/

namespace CodeFlow.Files.FileTree

variable (t : FileTree) (l : Location)

/-! ## Listings -/

theorem nodup_childNames : (t.childNames l).Nodup := by
  rw [childNames_eq, sortBy_eq_insertionSort, (List.perm_insertionSort _ _).nodup_iff]
  refine t.distinct.filterMap ?_
  intro a b n ha hb
  rw [nameIn?_eq_some.1 ha, nameIn?_eq_some.1 hb]

theorem nodup_fileNames : (t.fileNames l).Nodup := (t.nodup_childNames l).filter _

/-- A search comes by no folder twice. -/
theorem nodup_foldersBelow : (t.foldersBelow l).Nodup := by
  unfold foldersBelow
  rw [List.nodup_cons, sortBy_eq_insertionSort, List.mem_insertionSort, (List.perm_insertionSort _ _).nodup_iff]
  constructor
  · -- the folder itself is not among those inside
    intro hmem
    obtain ⟨entry, -, hentry⟩ := List.mem_filterMap.1 hmem
    have hkept := (Option.filter_eq_some_iff.1 hentry).2
    simp at hkept
  · rw [List.Nodup, List.pairwise_filterMap]
    refine (List.pairwise_map.1 t.distinct).imp ?_
    rintro a b hne names hnames names' hnames' rfl
    have ha := eq_foldl_child_of_namesBelow? (Option.filter_eq_some_iff.1 hnames).1
    have hb := eq_foldl_child_of_namesBelow? (Option.filter_eq_some_iff.1 hnames').1
    exact hne (ha.trans hb.symm)

/-! ## Folders inside -/

variable {t l}

/-- A place has one entry, and that is what there is. -/
theorem get?_of_mem {e : Entry} (hne : l.names ≠ []) (he : (l, e) ∈ t.entries) : t.get? l = some e := by
  obtain ⟨before, after, hentries⟩ := List.append_of_mem he
  have hnot : ∀ d ∈ before, l ≠ d.1 := by
    rintro d hd rfl
    have hdistinct := t.distinct
    rw [hentries, List.map_append, List.map_cons] at hdistinct
    exact (List.nodup_append.1 hdistinct).2.2 _ (List.mem_map_of_mem hd) _ List.mem_cons_self rfl
  rw [get?, entryAt?, if_neg (by simpa using hne), List.lookup_eq_some_iff]
  exact ⟨before, after, hentries, fun d hd => by simpa using hnot d hd⟩

theorem isSome_of_isFolderAt (h : t.isFolderAt l = true) : (t.get? l).isSome = true := by
  obtain ⟨e, he, -⟩ := isFolderAt_eq_true_iff.1 h
  rw [he]
  rfl

/-- What there is somewhere below a place makes it a folder. -/
theorem isFolderAt_of_below {names : List String} (hne : names ≠ [])
    (hthere : (t.get? (names.foldl Location.child l)).isSome = true) : t.isFolderAt l = true := by
  induction names using List.reverseRecOn with
  | nil => exact absurd rfl hne
  | append_singleton names n ih =>
      rw [List.foldl_append, List.foldl_cons, List.foldl_nil] at hthere
      obtain ⟨e, he⟩ := isSome_get?_child.1 hthere
      have hfolder : t.isFolderAt ((names.foldl Location.child l).child n).up = true := t.grounded _ he
      rw [Location.up_child] at hfolder
      cases names with
      | nil => exact hfolder
      | cons m rest => exact ih (by simp) (isSome_of_isFolderAt hfolder)

/-- A search of a folder without folders in it comes by nothing else. -/
theorem foldersBelow_eq (hfiles : ∀ n ∈ t.childNames l, t.isFolderAt (l.child n) = false) :
    t.foldersBelow l = [[]] := by
  have hnone : ∀ names ∈ t.foldersBelow l, names = [] := by
    intro names hnames
    by_contra hne
    obtain ⟨e, he, hfolder⟩ : ∃ e, (names.foldl Location.child l, e) ∈ t.entries ∧ e.isFolder = true := by
      rw [foldersBelow, List.mem_cons, mem_sortBy, List.mem_filterMap] at hnames
      obtain ⟨⟨k, e⟩, he, hk⟩ := hnames.resolve_left hne
      obtain ⟨hbelow, hkept⟩ := Option.filter_eq_some_iff.1 hk
      exact ⟨e, eq_foldl_child_of_namesBelow? hbelow ▸ he, (Bool.and_eq_true_iff.1 hkept).1⟩
    have hget := get?_of_mem (by simp [foldl_child, hne]) he
    obtain ⟨n, rest, rfl⟩ := List.exists_cons_of_ne_nil hne
    -- the first name on the way down is a folder
    have hfirst : t.isFolderAt (l.child n) = true := by
      cases rest with
      | nil => exact isFolderAt_eq_true_iff.2 ⟨e, hget, hfolder⟩
      | cons m rest =>
          refine isFolderAt_of_below (List.cons_ne_nil m rest) ?_
          rw [List.foldl_cons] at hget
          rw [hget]
          rfl
    rw [hfiles n (mem_childNames.2 (isSome_of_isFolderAt hfirst))] at hfirst
    exact Bool.false_ne_true hfirst
  -- and nothing is listed twice
  have hnodup := t.nodup_foldersBelow l
  rw [foldersBelow] at hnone hnodup ⊢
  refine congrArg _ (List.eq_nil_iff_forall_not_mem.2 fun names hnames => ?_)
  obtain rfl := hnone names (List.mem_cons_of_mem _ hnames)
  exact (List.nodup_cons.1 hnodup).1 hnames

end CodeFlow.Files.FileTree
