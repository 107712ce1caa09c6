import Mathlib
import CodeFlow.Proofs.Order
import CodeFlow.Selection

/-!
# `CodeFlow.Proofs.Selection.Order` — the order in which files are taken

Files that were found are sorted by number if all have one, otherwise by path, and then taken folder by folder. No
file is lost or doubled on the way: the folders stand in the order of their first files, and each has its files in
the order of sorting.

## Contents
- `Arranged`: how found files are sorted; `arranged_ordered`.
- `groups_eq`: groups of files, by folder.
- `inTurn`: files in the order in which they are taken; `perm_inTurn`.
-/

namespace CodeFlow.Selection

open Files

/-! ## Sorting -/

/-- The files found, sorted. -/
structure Arranged (found sorted : List String) : Prop where
  /-- Every file stands there as often as it was found. -/
  perm : sorted.Perm found
  /-- If all have a number, numbers ascend, and files of one number stand as they were found. -/
  byNumber : (∀ p ∈ found, (number? p).isSome = true) →
    sorted.Pairwise (fun p q => ∀ m ∈ number? p, ∀ n ∈ number? q, m ≤ n) ∧
      ∀ n, sorted.filter (number? · = some n) = found.filter (number? · = some n)
  /-- Otherwise paths ascend. -/
  byPath : (∃ p ∈ found, number? p = none) → sorted.Pairwise (textLe · · = true)

/-- Sorting by numbers: not to be above is total and transitive. -/
def numberLe (p q : String) : Bool := (number? p).getD 0 ≤ (number? q).getD 0

instance : IsTrans String (numberLe · · = true) :=
  ⟨fun p q r hpq hqr => by
    simp only [numberLe, decide_eq_true_eq] at hpq hqr ⊢
    omega⟩

instance : Std.Total (numberLe · · = true) :=
  ⟨fun p q => by
    simp only [numberLe, decide_eq_true_eq]
    omega⟩

/-- Files of one number keep their order. -/
theorem filter_sortBy_numberLe (n : Nat) (found : List String) :
    (sortBy numberLe found).filter (number? · = some n) = found.filter (number? · = some n) := by
  rw [sortBy_eq_insertionSort]
  have hperm := (List.perm_insertionSort (numberLe · · = true) found).filter (number? · = some n)
  -- among files of one number none is above another, so they are not moved past each other
  have htied : (found.filter (number? · = some n)).Pairwise (numberLe · · = true) := by
    refine List.Pairwise.imp_of_mem ?_ (List.pairwise_of_forall (R := fun _ _ => True) fun _ _ => trivial)
    intro p q hp hq _
    have hpn : number? p = some n := by simpa using (List.mem_filter.1 hp).2
    have hqn : number? q = some n := by simpa using (List.mem_filter.1 hq).2
    simp [numberLe, hpn, hqn]
  have hsub := (List.sublist_insertionSort htied List.filter_sublist).filter (number? · = some n)
  rw [List.filter_filter] at hsub
  simp only [Bool.and_self] at hsub
  exact (hsub.eq_of_length hperm.length_eq.symm).symm

/-- **Sorting** loses nothing and keeps the order of files with equal numbers. -/
theorem arranged_ordered (found : List String) : Arranged found (ordered found) := by
  unfold ordered
  split_ifs with hall
  · have hsome : ∀ p ∈ found, (number? p).isSome = true := by simpa using hall
    refine ⟨?_, fun _ => ⟨?_, fun n => filter_sortBy_numberLe n found⟩, ?_⟩
    · rw [sortBy_eq_insertionSort]
      exact List.perm_insertionSort _ _
    · have hsorted : (sortBy numberLe found).Pairwise (numberLe · · = true) := by
        rw [sortBy_eq_insertionSort]
        exact List.pairwise_insertionSort _ _
      refine hsorted.imp ?_
      intro p q hle m hm n hn
      simp only [numberLe, decide_eq_true_eq] at hle
      rw [Option.mem_def] at hm hn
      simpa [hm, hn] using hle
    · rintro ⟨p, hp, hnone⟩
      have hp' := hsome p hp
      rw [hnone] at hp'
      exact absurd hp' (by simp)
  · refine ⟨?_, fun hsome => absurd (List.all_eq_true.2 hsome) hall, fun _ => ?_⟩
    · rw [sortBy_eq_insertionSort]
      exact List.perm_insertionSort _ _
    · rw [sortBy_eq_insertionSort]
      exact List.pairwise_insertionSort _ _

/-! ## Folder by folder -/

/-- The folders of files, in the order of their first files. -/
def foldersOf (paths : List String) : List String := (paths.map parent).eraseDups

/-- The files that lie in a folder, in their order. -/
def filesIn (paths : List String) (folder : String) : List String := paths.filter (parent · = folder)

theorem foldersOf_concat (paths : List String) (p : String) :
    foldersOf (paths ++ [p]) =
      if parent p ∈ foldersOf paths then foldersOf paths else foldersOf paths ++ [parent p] := by
  unfold foldersOf
  rw [List.map_append, List.map_singleton, List.eraseDups_append]
  generalize paths.map parent = folders
  split_ifs with hmem
  · rw [List.mem_eraseDups] at hmem
    simp [List.removeAll, hmem]
  · rw [List.mem_eraseDups] at hmem
    simp [List.removeAll, hmem, List.eraseDups_cons]

theorem filesIn_concat (paths : List String) (p folder : String) :
    filesIn (paths ++ [p]) folder =
      if parent p = folder then filesIn paths folder ++ [p] else filesIn paths folder := by
  unfold filesIn
  rw [List.filter_append]
  split_ifs with h <;> simp [h]

theorem nodup_foldersOf (paths : List String) : (foldersOf paths).Nodup := by
  induction paths using List.reverseRecOn with
  | nil => simp [foldersOf]
  | append_singleton paths p ih =>
      rw [foldersOf_concat]
      split_ifs with hmem
      · exact ih
      · exact ih.append (List.nodup_singleton _) (by simpa using hmem)

/-- A file goes behind those of its folder, and a new folder behind the others. -/
theorem addToGroup_map {ds : List String} (hds : ds.Nodup) (files : String → List String) (path : String)
    (hnew : parent path ∉ ds → files (parent path) = []) :
    addToGroup path (ds.map fun d => ⟨d, files d⟩) =
      (if parent path ∈ ds then ds else ds ++ [parent path]).map fun d =>
        ⟨d, if parent path = d then files d ++ [path] else files d⟩ := by
  induction ds with
  | nil => simp [addToGroup, hnew]
  | cons d rest ih =>
      obtain ⟨hd, hrest⟩ := List.nodup_cons.1 hds
      rw [List.map_cons, addToGroup]
      by_cases hfolder : d = parent path
      · -- the group is there, and no other group is of this folder
        have hothers : ∀ e ∈ rest, (⟨e, files e⟩ : Group) =
            ⟨e, if parent path = e then files e ++ [path] else files e⟩ := by
          intro e he
          have hne : parent path ≠ e := by
            rintro rfl
            exact hd (hfolder ▸ he)
          rw [if_neg hne]
        rw [if_pos hfolder, if_pos (hfolder ▸ List.mem_cons_self), List.map_cons, List.map_congr_left hothers,
          if_pos hfolder.symm]
      · have hmem : parent path ∈ d :: rest ↔ parent path ∈ rest := by simp [Ne.symm hfolder]
        have hnew' : parent path ∉ rest → files (parent path) = [] := fun h => hnew (mt hmem.1 h)
        rw [if_neg hfolder, ih hrest hnew']
        simp only [hmem]
        split_ifs <;> simp [Ne.symm hfolder]

/-- **Groups**: a group for every folder, in the order of first files, with the files of the folder. -/
theorem groups_eq (paths : List String) :
    groups paths = (foldersOf paths).map fun folder => ⟨folder, filesIn paths folder⟩ := by
  induction paths using List.reverseRecOn with
  | nil => rfl
  | append_singleton paths p ih =>
      have hnew : parent p ∉ foldersOf paths → filesIn paths (parent p) = [] := by
        intro hmem
        refine List.filter_eq_nil_iff.2 fun q hq hparent => hmem ?_
        have hq' : parent q = parent p := by simpa using hparent
        rw [foldersOf, List.mem_eraseDups, ← hq']
        exact List.mem_map_of_mem hq
      have hstep : groups (paths ++ [p]) = addToGroup p (groups paths) := by
        rw [groups, List.foldl_append]
        rfl
      rw [hstep, ih, addToGroup_map (nodup_foldersOf paths) _ p hnew, foldersOf_concat]
      simp only [filesIn_concat]

/-- Files in the order in which they are taken: folder by folder, as they are sorted. -/
def inTurn (found : List String) : List String := (groups (ordered found)).flatMap (·.files)

theorem inTurn_eq (found : List String) :
    inTurn found = (foldersOf (ordered found)).flatMap (filesIn (ordered found)) := by
  rw [inTurn, groups_eq, List.flatMap_map]

theorem perm_addToGroup (path : String) (gs : List Group) :
    ((addToGroup path gs).flatMap (·.files)).Perm (gs.flatMap (·.files) ++ [path]) := by
  induction gs with
  | nil => exact List.Perm.refl _
  | cons g rest ih =>
      rw [addToGroup]
      split_ifs
      · rw [List.flatMap_cons, List.flatMap_cons, List.append_assoc, List.append_assoc]
        exact List.Perm.append_left _ List.perm_append_comm
      · rw [List.flatMap_cons, List.flatMap_cons, List.append_assoc]
        exact List.Perm.append_left _ ih

/-- **Nothing is lost or doubled** when files are taken folder by folder. -/
theorem perm_inTurn (found : List String) : (inTurn found).Perm found := by
  have hgroups : ∀ paths : List String, ((groups paths).flatMap (·.files)).Perm paths := by
    intro paths
    induction paths using List.reverseRecOn with
    | nil => exact List.Perm.refl _
    | append_singleton paths p ih =>
        rw [groups, List.foldl_append]
        exact (perm_addToGroup p _).trans (ih.append_right [p])
  exact (hgroups _).trans (arranged_ordered found).perm

end CodeFlow.Selection
