import Mathlib
import CodeFlow.Proofs.Files.Tree
import CodeFlow.Selection

/-!
# `CodeFlow.Proofs.Selection` — searching a folder alone and with all inside

A folder searched alone is listed, so what is found are entries of any kind; searched with all folders
inside, files only. Both ways take names by the same filter. They find the same directly in the folder
unless it holds a folder that is named like a file.

## Contents
- `accepted`: whether a name is taken; `takes_join`.
- `seeds_eq`: a search of names that files can have succeeds.
- `lookalikes`: folders that are named like files.
- `scans_agree_iff`: when the two ways find the same.
-/

namespace CodeFlow.Selection

open Files
open Text hiding join

/-! ## Names that are taken -/

theorem length_toList_le_utf8ByteSize (s : String) : s.toList.length ≤ s.utf8ByteSize := by
  rw [← String.ofList_toList (s := s), String.utf8ByteSize_ofList, String.toList_ofList]
  induction s.toList with
  | nil => simp
  | cons c cs ih =>
      have := c.utf8Size_pos
      simp only [List.length_cons, String.utf8Len_cons]
      omega

/-- A text that is not too long has no number that is. -/
theorem exists_firstNumber {t : List Char} (h : t.length ≤ maxDigits) : ∃ n, firstNumber t = .ok n := by
  unfold firstNumber
  split
  · exact ⟨_, rfl⟩
  · rename_i hdigits
    have hshort : ((t.dropWhile (!isDigit ·)).takeWhile isDigit).length ≤ t.length :=
      (List.takeWhile_sublist _).length_le.trans (List.dropWhile_sublist _).length_le
    rw [readDigits, if_neg (by omega)]
    exact ⟨_, rfl⟩

/-- Whether a name is taken. -/
def accepted (f : NameFilter) (n : String) : Bool :=
  n ≠ ownName && (f.accepts n).toOption.getD false

theorem accepts_of_short (f : NameFilter) {n : String} (h : n.utf8ByteSize ≤ 255) :
    f.accepts n = .ok ((f.accepts n).toOption.getD false) := by
  have hlength : n.toList.length ≤ maxDigits :=
    (length_toList_le_utf8ByteSize n).trans (h.trans (by decide))
  obtain ⟨m, hm⟩ := exists_firstNumber hlength
  unfold NameFilter.accepts
  rw [hm]
  split_ifs <;> rfl

theorem takes_join (f : NameFilter) (folder : String) {n : String} (hn : IsPart n)
    (hsize : n.utf8ByteSize ≤ 255) : takes f (join folder n) = .ok (accepted f n) := by
  rw [takes, name_join folder hn.slash, accepts_of_short f hsize, accepted]
  split_ifs with h <;> simp [h, Except.toOption]

theorem chosen_eq_filter {f : NameFilter} {q : String → Bool} {paths : List String}
    (h : ∀ p ∈ paths, takes f p = .ok (q p)) : chosen f paths = .ok (paths.filter q) := by
  induction paths with
  | nil => rfl
  | cons p rest ih =>
      rw [chosen, h p List.mem_cons_self, ih fun p' hp' => h p' (List.mem_cons_of_mem _ hp')]
      simp [List.filter_cons]

@[simp]
theorem mem_ordered {p : String} {paths : List String} : p ∈ ordered paths ↔ p ∈ paths := by
  unfold ordered
  split_ifs <;> exact mem_sortBy _

/-- **A search of names that files can have succeeds**, and takes the names that are accepted. -/
theorem seeds_eq {t : FileTree} {exts : List (List Char)} {recursive : Bool} {f : NameFilter}
    {folder : String} {paths : List String} (hpaths : candidates t exts recursive folder = .ok paths)
    (hparts : ∀ p ∈ paths, ∃ root n, p = join root n ∧ IsFileName n) :
    seeds t exts recursive f folder = .ok (ordered (paths.filter fun p => accepted f (name p))) := by
  have htakes : ∀ p ∈ paths, takes f p = .ok (accepted f (name p)) := by
    intro p hp
    obtain ⟨root, n, rfl, hn, hsize⟩ := hparts p hp
    rw [takes_join f root hn hsize, name_join root hn.slash]
  rw [seeds, hpaths]
  simp only [chosen_eq_filter htakes]

/-! ## The two ways to search -/

variable {t : FileTree} {folder : String} {l : Location}

/-- What a folder that is searched alone has to offer. -/
theorem candidates_flat (hfind : t.find folder = .ok l) (hfolder : t.isFolderAt l = true)
    (exts : List (List Char)) :
    candidates t exts false folder = .ok (((t.childNames l).filter (hasExtension exts)).map (join folder)) := by
  simp [candidates, FileTree.list, hfind, hfolder]

/-- What a folder that is searched with all inside has to offer. -/
theorem candidates_deep (hfind : t.find folder = .ok l) (hfolder : t.isFolderAt l = true)
    (exts : List (List Char)) :
    candidates t exts true folder = .ok ((t.foldersBelow l).flatMap fun names =>
      ((t.fileNames (names.foldl Location.child l)).filter (hasExtension exts)).map
        (join (names.foldl join folder))) := by
  simp [candidates, FileTree.search, hfind, hfolder, FileTree.visits, List.flatMap_map]

theorem join_ne_empty (folder : String) {n : String} (hn : IsPart n) : join folder n ≠ "" := by
  intro h
  have hnil : (join folder n).toList = [] := by rw [h]; rfl
  rw [toList_join folder hn.slash] at hnil
  exact hn.proper.1 (by simpa using (List.append_eq_nil_iff.1 hnil).2)

/-- Folders inside have their places below. -/
theorem location_foldl_join {names : List String} (h : ∀ n ∈ names, IsPart n) {folder : String}
    (hfolder : folder ≠ "") :
    names.foldl join folder ≠ "" ∧ (Route.ofText (names.foldl join folder)).location =
      names.foldl Location.child (Route.ofText folder).location := by
  induction names generalizing folder with
  | nil => exact ⟨hfolder, rfl⟩
  | cons n rest ih =>
      have hn := h n List.mem_cons_self
      have hrest := ih (fun m hm => h m (List.mem_cons_of_mem _ hm)) (join_ne_empty folder hn)
      rwa [location_join hfolder hn] at hrest

/-- What is found lies directly in the folder just if it was found there, and not further inside. -/
theorem find_parent_join_iff (hfind : t.find folder = .ok l) {names : List String}
    (hnames : ∀ n ∈ names, IsPart n) {n : String} (hn : IsPart n) :
    t.find (parent (join (names.foldl join folder) n)) = .ok l ↔ names = [] := by
  constructor
  · intro h
    obtain ⟨hne, hplace⟩ := location_foldl_join hnames (FileTree.ne_empty_of_find hfind)
    have hl : l = names.foldl Location.child l := by
      calc l = (Route.ofText (parent (join (names.foldl join folder) n))).location :=
            FileTree.eq_location_of_find h
        _ = (Route.ofText (names.foldl join folder)).location := location_parent_join hne hn.slash
        _ = names.foldl Location.child l := by rw [hplace, ← FileTree.eq_location_of_find hfind]
    -- further inside, places have more names
    rw [FileTree.foldl_child] at hl
    have hlength := congrArg (·.names.length) hl
    simpa using hlength
  · rintro rfl
    exact FileTree.find_parent_join hfind hn.slash

/-- The folders in a folder that are taken for files: those with a name that is taken and has one of the
extensions. -/
def lookalikes (t : FileTree) (exts : List (List Char)) (f : NameFilter) (folder : String)
    (l : Location) : List String :=
  ((t.childNames l).filter fun n =>
    t.isFolderAt (l.child n) && hasExtension exts n && accepted f n).map (join folder)

section
variable (hfind : t.find folder = .ok l) (hfolder : t.isFolderAt l = true)
  (exts : List (List Char)) (f : NameFilter)

include hfind hfolder

/-- What a search of the folder alone finds. -/
theorem exists_flat : ∃ flat, seeds t exts false f folder = .ok flat ∧ ∀ p, p ∈ flat ↔
    ∃ n ∈ t.childNames l, hasExtension exts n = true ∧ accepted f n = true ∧ p = join folder n := by
  refine ⟨_, seeds_eq (candidates_flat hfind hfolder exts) ?_, fun p => ?_⟩
  · intro p hp
    obtain ⟨n, hn, rfl⟩ := List.mem_map.1 hp
    exact ⟨folder, n, rfl, FileTree.isFileName_of_mem_childNames (List.mem_filter.1 hn).1⟩
  · rw [mem_ordered, List.mem_filter, List.mem_map]
    constructor
    · rintro ⟨⟨n, hn, rfl⟩, haccepted⟩
      obtain ⟨hchild, hext⟩ := List.mem_filter.1 hn
      rw [name_join folder (FileTree.isFileName_of_mem_childNames hchild).1.slash] at haccepted
      exact ⟨n, hchild, hext, haccepted, rfl⟩
    · rintro ⟨n, hchild, hext, haccepted, rfl⟩
      refine ⟨⟨n, List.mem_filter.2 ⟨hchild, hext⟩, rfl⟩, ?_⟩
      rwa [name_join folder (FileTree.isFileName_of_mem_childNames hchild).1.slash]

/-- What a search of the folder and all inside finds. -/
theorem exists_deep : ∃ deep, seeds t exts true f folder = .ok deep ∧ ∀ p, p ∈ deep ↔
    ∃ names ∈ t.foldersBelow l, ∃ n ∈ t.fileNames (names.foldl Location.child l),
      hasExtension exts n = true ∧ accepted f n = true ∧ p = join (names.foldl join folder) n := by
  have hpart : ∀ {names : List String} {n : String},
      n ∈ t.fileNames (names.foldl Location.child l) → IsFileName n := fun hn =>
    FileTree.isFileName_of_mem_childNames (FileTree.mem_fileNames.1 hn).1
  refine ⟨_, seeds_eq (candidates_deep hfind hfolder exts) ?_, fun p => ?_⟩
  · intro p hp
    obtain ⟨names, -, hp⟩ := List.mem_flatMap.1 hp
    obtain ⟨n, hn, rfl⟩ := List.mem_map.1 hp
    exact ⟨_, n, rfl, hpart (List.mem_filter.1 hn).1⟩
  · rw [mem_ordered, List.mem_filter, List.mem_flatMap]
    constructor
    · rintro ⟨⟨names, hnames, hp⟩, haccepted⟩
      obtain ⟨n, hn, rfl⟩ := List.mem_map.1 hp
      obtain ⟨hfile, hext⟩ := List.mem_filter.1 hn
      rw [name_join _ (hpart hfile).1.slash] at haccepted
      exact ⟨names, hnames, n, hfile, hext, haccepted, rfl⟩
    · rintro ⟨names, hnames, n, hfile, hext, haccepted, rfl⟩
      refine ⟨⟨names, hnames, List.mem_map.2 ⟨n, List.mem_filter.2 ⟨hfile, hext⟩, rfl⟩⟩, ?_⟩
      rwa [name_join _ (hpart hfile).1.slash]

omit hfolder in
/-- What the search of all inside finds directly in the folder: the files in it. -/
theorem mem_deep_directly_iff {deep : List String} (hdeep : ∀ p, p ∈ deep ↔
      ∃ names ∈ t.foldersBelow l, ∃ n ∈ t.fileNames (names.foldl Location.child l),
        hasExtension exts n = true ∧ accepted f n = true ∧ p = join (names.foldl join folder) n)
    (p : String) :
    p ∈ deep ∧ t.find (parent p) = t.find folder ↔
      ∃ n ∈ t.fileNames l, hasExtension exts n = true ∧ accepted f n = true ∧ p = join folder n := by
  have hpart : ∀ {names : List String} {n : String},
      n ∈ t.fileNames (names.foldl Location.child l) → IsPart n := fun hn =>
    (FileTree.isFileName_of_mem_childNames (FileTree.mem_fileNames.1 hn).1).1
  rw [hdeep, hfind]
  constructor
  · rintro ⟨⟨names, hnames, n, hfile, hext, haccepted, rfl⟩, hparent⟩
    obtain rfl := (find_parent_join_iff hfind (FileTree.isPart_of_mem_foldersBelow hnames) (hpart hfile)).1 hparent
    exact ⟨n, hfile, hext, haccepted, rfl⟩
  · rintro ⟨n, hfile, hext, haccepted, rfl⟩
    have hpart := (FileTree.isFileName_of_mem_childNames (FileTree.mem_fileNames.1 hfile).1).1
    exact ⟨⟨[], List.mem_cons_self, n, hfile, hext, haccepted, rfl⟩,
      FileTree.find_parent_join hfind hpart.slash⟩

omit hfind hfolder in
/-- A folder taken for a file is not one of the files. -/
theorem not_file_of_mem_lookalikes {p : String} (h : p ∈ lookalikes t exts f folder l) :
    ¬∃ n ∈ t.fileNames l, hasExtension exts n = true ∧ accepted f n = true ∧ p = join folder n := by
  rintro ⟨m, hfile, -, -, rfl⟩
  obtain ⟨n, hn, hjoin⟩ := List.mem_map.1 h
  obtain ⟨hchild, htaken⟩ := List.mem_filter.1 hn
  obtain ⟨hmchild, hmfile⟩ := FileTree.mem_fileNames.1 hfile
  have hname : n = m := by
    rw [← name_join folder (FileTree.isFileName_of_mem_childNames hchild).1.slash, hjoin,
      name_join folder (FileTree.isFileName_of_mem_childNames hmchild).1.slash]
  simp [hname, hmfile] at htaken

/-- **When the two ways to search agree.** In a folder that there is, both succeed. Searched alone, it gives
what the search of all inside finds directly in it, and besides the folders in it that are taken for files.
So they agree there just if no folder in it is named like a file that is taken. -/
theorem scans_agree_iff :
    ∃ flat deep, seeds t exts false f folder = .ok flat ∧ seeds t exts true f folder = .ok deep ∧
      (∀ p, p ∈ flat ↔
        (p ∈ deep ∧ t.find (parent p) = t.find folder) ∨ p ∈ lookalikes t exts f folder l) ∧
      ((∀ p, p ∈ flat ↔ p ∈ deep ∧ t.find (parent p) = t.find folder) ↔
        lookalikes t exts f folder l = []) := by
  obtain ⟨flat, hflat, hmemflat⟩ := exists_flat hfind hfolder exts f
  obtain ⟨deep, hdeep, hmemdeep⟩ := exists_deep hfind hfolder exts f
  have hdirect := mem_deep_directly_iff hfind exts f hmemdeep
  -- an entry of the folder is a file or a folder
  have hsplit : ∀ p, p ∈ flat ↔
      (p ∈ deep ∧ t.find (parent p) = t.find folder) ∨ p ∈ lookalikes t exts f folder l := by
    intro p
    rw [hmemflat, hdirect, lookalikes, List.mem_map]
    constructor
    · rintro ⟨n, hchild, hext, haccepted, rfl⟩
      cases hkind : t.isFolderAt (l.child n) with
      | true => exact .inr ⟨n, List.mem_filter.2 ⟨hchild, by simp [hkind, hext, haccepted]⟩, rfl⟩
      | false => exact .inl ⟨n, FileTree.mem_fileNames.2 ⟨hchild, hkind⟩, hext, haccepted, rfl⟩
    · rintro (⟨n, hfile, hext, haccepted, rfl⟩ | ⟨n, hn, rfl⟩)
      · exact ⟨n, (FileTree.mem_fileNames.1 hfile).1, hext, haccepted, rfl⟩
      · obtain ⟨hchild, htaken⟩ := List.mem_filter.1 hn
        simp only [Bool.and_eq_true] at htaken
        exact ⟨n, hchild, htaken.1.2, htaken.2, rfl⟩
  refine ⟨flat, deep, hflat, hdeep, hsplit, ?_⟩
  rw [List.eq_nil_iff_forall_not_mem]
  refine forall_congr' fun p => ?_
  rw [hsplit p, hdirect p, or_iff_left_iff_imp]
  exact ⟨fun h hp => not_file_of_mem_lookalikes exts f hp (h hp), fun h hp => absurd hp h⟩

omit hfind hfolder

/-- A folder with nothing in it but a folder that is named like a file. -/
def disguised : FileTree := FileTree.build {} [("p/d.py", .folder)]

/-- The folder is found by one way of searching only. -/
theorem folder_found_alone :
    (seeds disguised [['.', 'p', 'y']] false ⟨"", none, none⟩ "p").toOption = some ["p/d.py"] ∧
    (seeds disguised [['.', 'p', 'y']] true ⟨"", none, none⟩ "p").toOption = some [] := by
  decide +kernel

/-- The two ways to search do not agree on a folder that is named like a file. -/
theorem disguised_scans_differ :
    lookalikes disguised [['.', 'p', 'y']] ⟨"", none, none⟩ "p" ⟨.above 0, ["p"]⟩ ≠ [] ∧
    ∃ flat deep, seeds disguised [['.', 'p', 'y']] false ⟨"", none, none⟩ "p" = .ok flat ∧
      seeds disguised [['.', 'p', 'y']] true ⟨"", none, none⟩ "p" = .ok deep ∧
      ¬∀ p, p ∈ flat ↔ p ∈ deep ∧ disguised.find (parent p) = disguised.find "p" := by
  have hlook : lookalikes disguised [['.', 'p', 'y']] ⟨"", none, none⟩ "p" ⟨.above 0, ["p"]⟩ ≠ [] := by
    decide +kernel
  have hfind : disguised.find "p" = .ok ⟨.above 0, ["p"]⟩ := by rfl
  obtain ⟨flat, deep, hflat, hdeep, -, hagree⟩ :=
    scans_agree_iff hfind (by decide +kernel) [['.', 'p', 'y']] ⟨"", none, none⟩
  exact ⟨hlook, flat, deep, hflat, hdeep, fun h => hlook (hagree.1 h)⟩

end

end CodeFlow.Selection
