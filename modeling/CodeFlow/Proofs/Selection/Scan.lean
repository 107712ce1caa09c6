import Mathlib
import CodeFlow.Proofs.Files.Listing
import CodeFlow.Proofs.Selection

/-!
# `CodeFlow.Proofs.Selection.Scan` — what a search comes by

A search comes by paths and takes some of them by their names. What it comes by does not depend on what is taken,
and it comes by no path twice.

## Contents
- `scanned`: the paths that a search comes by.
- `candidates_eq`, `chosen_scanned`: what of it is taken.
- `nodup_scanned`, `nodup_candidates`: none of it twice.
-/

namespace CodeFlow.Selection

open Files

/-- The paths that a search comes by. -/
def scanned (t : FileTree) (recursive : Bool) (folder : String) : Except Failure (List String) :=
  (if recursive then (t.search folder).map fun visits => visits.flatMap fun v => v.files.map (join v.path)
  else (t.list folder).map fun names => names.map (join folder)).mapError (Failure.unusable · folder)

section
variable {t : FileTree} {recursive : Bool} {folder : String} {paths : List String}

/-! ## Folders -/

theorem scanned_flat {l : Location} (hfind : t.find folder = .ok l) (hfolder : t.isFolderAt l = true) :
    scanned t false folder = .ok ((t.childNames l).map (join folder)) := by
  simp [scanned, FileTree.list, hfind, hfolder, Except.map, Except.mapError]

theorem scanned_deep {l : Location} (hfind : t.find folder = .ok l) (hfolder : t.isFolderAt l = true) :
    scanned t true folder = .ok ((t.foldersBelow l).flatMap fun names =>
      (t.fileNames (names.foldl Location.child l)).map (join (names.foldl join folder))) := by
  simp [scanned, FileTree.search, hfind, hfolder, FileTree.visits, List.flatMap_map, Except.map, Except.mapError]

/-- A search comes by something in folders only. -/
theorem scanned_cases (h : scanned t recursive folder = .ok paths) :
    paths = [] ∨ ∃ l, t.find folder = .ok l ∧ t.isFolderAt l = true := by
  unfold scanned FileTree.search FileTree.list at h
  cases hfind : t.find folder with
  | error e =>
      left
      cases recursive <;> cases e <;> simp [hfind, Except.map, Except.mapError] at h <;> exact h
  | ok l =>
      cases hfolder : t.isFolderAt l with
      | true => exact .inr ⟨l, rfl, hfolder⟩
      | false =>
          left
          cases recursive <;> simp [hfind, hfolder, Except.map, Except.mapError] at h
          exact h

/-! ## Names -/

/-- To take by their names what lies in a folder is to take names. -/
theorem filter_map_join (root : String) {ns : List String} (h : ∀ n ∈ ns, IsPart n) (q : String → Bool) :
    (ns.map (join root)).filter (fun p => q (name p)) = (ns.filter q).map (join root) := by
  have hname : ∀ n ∈ ns, q (name (join root n)) = q n := by
    intro n hn
    rw [name_join root (h n hn).slash]
  rw [List.filter_map]
  exact congrArg _ (List.filter_congr hname)

/-- What a search comes by has names that files can have. -/
theorem exists_of_mem_scanned (h : scanned t recursive folder = .ok paths) {p : String}
    (hp : p ∈ paths) : ∃ root n, p = join root n ∧ IsFileName n := by
  rcases scanned_cases h with rfl | ⟨l, hfind, hfolder⟩
  · simp at hp
  · cases recursive with
    | true =>
        rw [scanned_deep hfind hfolder] at h
        obtain rfl := Except.ok.inj h
        obtain ⟨names, -, hp⟩ := List.mem_flatMap.1 hp
        obtain ⟨n, hn, rfl⟩ := List.mem_map.1 hp
        exact ⟨_, n, rfl, FileTree.isFileName_of_mem_childNames (FileTree.mem_fileNames.1 hn).1⟩
    | false =>
        rw [scanned_flat hfind hfolder] at h
        obtain rfl := Except.ok.inj h
        obtain ⟨n, hn, rfl⟩ := List.mem_map.1 hp
        exact ⟨folder, n, rfl, FileTree.isFileName_of_mem_childNames hn⟩

/-- **Candidates** are the paths with one of the extensions that a search comes by. -/
theorem candidates_eq (exts : List (List Char)) :
    candidates t exts recursive folder =
      (scanned t recursive folder).map (List.filter fun p => hasExtension exts (name p)) := by
  unfold candidates scanned
  cases recursive with
  | true =>
      cases hsearch : t.search folder with
      | error e => rfl
      | ok visits =>
          have hfiles : ∀ v ∈ visits, (v.files.map (join v.path)).filter (fun p => hasExtension exts (name p)) =
              (v.files.filter (hasExtension exts)).map (join v.path) := fun v hv =>
            filter_map_join v.path (fun n hn => (FileTree.isFileName_of_search hsearch v hv n hn).1) _
          simp only [if_true, Except.map, Except.mapError, List.filter_flatMap, List.flatMap_congr hfiles]
  | false =>
      cases hlist : t.list folder with
      | error e => rfl
      | ok names =>
          have hnames :=
            filter_map_join folder (fun n hn => (FileTree.isFileName_of_list hlist n hn).1) (hasExtension exts)
          simp only [Bool.false_eq_true, if_false, Except.map, Except.mapError, hnames]

/-- What a filter takes of the paths that a search comes by. -/
theorem chosen_scanned (h : scanned t recursive folder = .ok paths) (f : NameFilter)
    (p : String → Bool) : chosen f (paths.filter p) = .ok ((paths.filter p).filter fun q => accepted f (name q)) := by
  refine chosen_eq_filter fun q hq => ?_
  obtain ⟨root, n, rfl, hn, hsize⟩ := exists_of_mem_scanned h (List.mem_filter.1 hq).1
  rw [takes_join f root hn hsize, name_join root hn.slash]

/-! ## No path twice -/

theorem join_injOn (root : String) {ns : List String} (h : ∀ n ∈ ns, IsPart n) :
    ∀ n ∈ ns, ∀ m ∈ ns, join root n = join root m → n = m := by
  intro n hn m hm heq
  rw [← name_join root (h n hn).slash, heq, name_join root (h m hm).slash]

/-- Files of two folders have different paths. -/
theorem disjoint_files (hfolder : folder ≠ "") {names names' ns ms : List String}
    (hnames : ∀ n ∈ names, IsPart n) (hnames' : ∀ n ∈ names', IsPart n) (hns : ∀ n ∈ ns, IsPart n)
    (hms : ∀ n ∈ ms, IsPart n) (hne : names ≠ names') :
    List.Disjoint (ns.map (join (names.foldl join folder))) (ms.map (join (names'.foldl join folder))) := by
  intro p hp hp'
  obtain ⟨n, hn, rfl⟩ := List.mem_map.1 hp
  obtain ⟨m, hm, heq⟩ := List.mem_map.1 hp'
  obtain ⟨hroot, hplace⟩ := location_foldl_join hnames hfolder
  obtain ⟨hroot', hplace'⟩ := location_foldl_join hnames' hfolder
  -- one path has one place, and the place tells the folder
  have hchild := location_join hroot (hns n hn)
  rw [← heq, location_join hroot' (hms m hm), hplace, hplace', child_inj] at hchild
  have hbelow := congrArg Location.names hchild.1
  rw [FileTree.foldl_child, FileTree.foldl_child] at hbelow
  exact hne (List.append_cancel_left hbelow).symm

/-- **A search comes by no path twice.** -/
theorem nodup_scanned (h : scanned t recursive folder = .ok paths) : paths.Nodup := by
  have hpart : ∀ {l : Location}, ∀ n ∈ t.childNames l, IsPart n :=
    fun n hn => (FileTree.isFileName_of_mem_childNames hn).1
  have hfile : ∀ {l : Location}, ∀ n ∈ t.fileNames l, IsPart n := fun n hn =>
    hpart n (FileTree.mem_fileNames.1 hn).1
  rcases scanned_cases h with rfl | ⟨l, hfind, hfolder⟩
  · exact List.nodup_nil
  · cases recursive with
    | true =>
        rw [scanned_deep hfind hfolder] at h
        obtain rfl := Except.ok.inj h
        refine List.nodup_flatMap.2 ⟨fun names _ => ?_, ?_⟩
        · exact (t.nodup_fileNames _).map_on (join_injOn _ hfile)
        · refine (t.nodup_foldersBelow l).imp_of_mem ?_
          intro names names' hnames hnames' hne
          exact disjoint_files (FileTree.ne_empty_of_find hfind) (FileTree.isPart_of_mem_foldersBelow hnames)
            (FileTree.isPart_of_mem_foldersBelow hnames') hfile hfile hne
    | false =>
        rw [scanned_flat hfind hfolder] at h
        obtain rfl := Except.ok.inj h
        exact (t.nodup_childNames l).map_on (join_injOn folder hpart)

theorem nodup_candidates {exts : List (List Char)}
    (h : candidates t exts recursive folder = .ok paths) : paths.Nodup := by
  rw [candidates_eq] at h
  cases hscanned : scanned t recursive folder with
  | error e => simp [hscanned, Except.map] at h
  | ok all =>
      rw [hscanned] at h
      obtain rfl := Except.ok.inj h
      exact (nodup_scanned hscanned).filter _

end

end CodeFlow.Selection
