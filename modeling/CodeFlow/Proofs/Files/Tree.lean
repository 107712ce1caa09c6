import Mathlib
import CodeFlow.Files.Access
import CodeFlow.Proofs.Files.Path
import CodeFlow.Proofs.Order

/-!
# `CodeFlow.Proofs.Files.Tree` — listings and paths

What a folder lists is what there is in it, and a path that leads somewhere leads to the place it is
spelled for.

## Contents
- `isFolderAt_eq_true_iff`, `isFolderAt_anchor`: folders.
- `mem_childNames`, `mem_fileNames`: listings.
- `get?_put`, `filter_childNames_put`: what a change shows in.
- `isFileName_of_list`, `isFileName_of_search`: names that are listed.
- `eq_location_of_find`, `find_parent_join`, `find_join`: paths.
-/

namespace CodeFlow.Files.FileTree

/-! ## Folders -/

theorem isFolderAt_eq_true_iff {t : FileTree} {l : Location} :
    t.isFolderAt l = true ↔ ∃ e, t.get? l = some e ∧ e.isFolder = true :=
  Option.any_eq_true _ _

theorem isFolderAt_of_none {t : FileTree} {l : Location} (h : t.get? l = none) : t.isFolderAt l = false := by
  show (t.get? l).any Entry.isFolder = false
  rw [h]
  rfl

theorem isFolderAt_anchor (t : FileTree) {l : Location} (h : l.names = []) : t.isFolderAt l = true := by
  simp [isFolderAt, folderAt, entryAt?, h, Entry.isFolder]

/-! ## Listings -/

theorem nameIn?_eq_some {folder l : Location} {n : String} :
    nameIn? folder l = some n ↔ l = folder.child n := by
  unfold nameIn?
  constructor
  · intro h
    obtain ⟨last, -, hif⟩ := Option.bind_eq_some_iff.1 h
    split_ifs at hif with hchild
    rw [← Option.some.inj hif, hchild]
  · rintro rfl
    simp [Location.child]

theorem isSome_get?_child {t : FileTree} {l : Location} {n : String} :
    (t.get? (l.child n)).isSome = true ↔ ∃ e, (l.child n, e) ∈ t.entries := by
  have hne : (l.child n).names.isEmpty = false := by simp [Location.child]
  rw [get?, entryAt?, if_neg (by simp [hne]), List.lookup_isSome_iff]
  constructor
  · rintro ⟨⟨k, e⟩, he, hk⟩
    exact ⟨e, by rwa [eq_of_beq hk]⟩
  · rintro ⟨e, he⟩
    exact ⟨_, he, beq_self_eq_true _⟩

/-- **A folder lists what there is in it.** -/
theorem mem_childNames {t : FileTree} {l : Location} {n : String} :
    n ∈ t.childNames l ↔ (t.get? (l.child n)).isSome = true := by
  rw [childNames, mem_sortBy, isSome_get?_child, List.mem_filterMap]
  constructor
  · rintro ⟨⟨k, e⟩, he, hk⟩
    exact ⟨e, by rwa [← nameIn?_eq_some.1 hk]⟩
  · rintro ⟨e, he⟩
    exact ⟨_, he, nameIn?_eq_some.2 rfl⟩

theorem mem_fileNames {t : FileTree} {l : Location} {n : String} :
    n ∈ t.fileNames l ↔ n ∈ t.childNames l ∧ t.isFolderAt (l.child n) = false := by
  simp [fileNames]

theorem foldl_child (names : List String) (l : Location) :
    names.foldl Location.child l = { l with names := l.names ++ names } := by
  induction names generalizing l with
  | nil => simp
  | cons n rest ih => simp [ih, Location.child]

theorem eq_foldl_child_of_namesBelow? {folder l : Location} {names : List String}
    (h : namesBelow? folder l = some names) : l = names.foldl Location.child folder := by
  unfold namesBelow? at h
  split_ifs at h with hbelow
  obtain ⟨hanchor, hprefix⟩ : l.anchor = folder.anchor ∧ folder.names <+: l.names := by
    simpa using hbelow
  obtain ⟨rest, hrest⟩ := hprefix
  have hnames : rest = names := by simpa [← hrest] using h
  rw [foldl_child, ← hnames, hrest, ← hanchor]

/-- A search comes by the folder itself, and by others that have entries below it. -/
theorem mem_foldersBelow {t : FileTree} {l : Location} {names : List String}
    (h : names ∈ t.foldersBelow l) :
    names = [] ∨ names ≠ [] ∧ ∃ e, (names.foldl Location.child l, e) ∈ t.entries := by
  rw [foldersBelow, List.mem_cons, mem_sortBy, List.mem_filterMap] at h
  rcases h with h | ⟨⟨k, e⟩, he, hk⟩
  · exact .inl h
  · obtain ⟨hbelow, hkept⟩ := Option.filter_eq_some_iff.1 hk
    have hne : names ≠ [] := by simpa using (Bool.and_eq_true_iff.1 hkept).2
    exact .inr ⟨hne, e, by rwa [← eq_foldl_child_of_namesBelow? hbelow]⟩

/-! ## Changes -/

variable {t : FileTree}

theorem get?_put (s : t.Slot) (e : Entry) (m : Location) :
    (t.put s e).get? m = if m = s.location then some e else t.get? m :=
  entryAt?_putEntry s.names_ne_nil e t.entries m

/-- A file that is put somewhere is no folder, and there was none. -/
theorem isFolderAt_put (s : t.Slot) (content : Content) (m : Location) :
    (t.put s (.file content)).isFolderAt m = t.isFolderAt m := by
  show ((t.put s (.file content)).get? m).any Entry.isFolder = t.isFolderAt m
  rw [get?_put]
  split_ifs with hm
  · rw [hm]
    exact s.free.symm
  · rfl

/-- A listing depends on the places of entries only. -/
theorem childNames_eq (t : FileTree) (l : Location) :
    t.childNames l = sortBy textLe ((t.entries.map (·.1)).filterMap (nameIn? l)) := by
  rw [List.filterMap_map]
  rfl

/-- What is put in a folder shows in listings just of that folder, and only where it is asked for. -/
theorem filter_childNames_put {p : String → Bool} (s : t.Slot) (e : Entry) (m : Location)
    (hp : m = s.folder → p s.name = false) : ((t.put s e).childNames m).filter p = (t.childNames m).filter p := by
  rw [childNames_eq, childNames_eq, filter_sortBy_textLe, filter_sortBy_textLe, put, keys_putEntry]
  split_ifs
  · rfl
  · rw [List.filterMap_append, List.filter_append]
    have hnew : ([s.location].filterMap (nameIn? m)).filter p = [] := by
      rw [List.filter_eq_nil_iff]
      intro x hx
      obtain ⟨l, hl, hx⟩ := List.mem_filterMap.1 hx
      have hchild : s.folder.child s.name = m.child x := by
        rw [← nameIn?_eq_some.1 hx, List.mem_singleton.1 hl]
        rfl
      obtain ⟨rfl, rfl⟩ := child_inj.1 hchild
      simp [hp rfl]
    rw [hnew, List.append_nil]

/-! ## Names -/

theorem isFileName_of_mem_childNames {l : Location} {n : String} (h : n ∈ t.childNames l) : IsFileName n := by
  obtain ⟨e, he⟩ := isSome_get?_child.1 (mem_childNames.1 h)
  exact t.named _ he n (by simp [Location.child])

/-- A listing has names that files can have. -/
theorem isFileName_of_list {path : String} {names : List String} (h : t.list path = .ok names) :
    ∀ n ∈ names, IsFileName n := by
  unfold list at h
  split at h
  · simp at h
  · split_ifs at h
    obtain rfl := Except.ok.inj h
    exact fun n hn => isFileName_of_mem_childNames hn

/-- A search comes by names that files can have. -/
theorem isFileName_of_search {path : String} {visits : List Visit} (h : t.search path = .ok visits) :
    ∀ v ∈ visits, ∀ n ∈ v.files, IsFileName n := by
  intro v hv n hn
  unfold search at h
  split at h
  · simp at h
  · obtain rfl := Except.ok.inj h
    simp at hv
  · obtain rfl := Except.ok.inj h
    split_ifs at hv
    · obtain ⟨names, -, rfl⟩ := List.mem_map.1 hv
      exact isFileName_of_mem_childNames (mem_fileNames.1 hn).1
    · simp at hv

theorem isPart_of_mem_foldersBelow {l : Location} {names : List String} (h : names ∈ t.foldersBelow l) :
    ∀ n ∈ names, IsPart n := by
  rcases mem_foldersBelow h with rfl | ⟨-, e, he⟩
  · simp
  · intro n hn
    rw [foldl_child] at he
    exact (t.named _ he n (List.mem_append_right _ hn)).1

/-! ## Paths -/

theorem find_eq_ok_iff {t : FileTree} {path : String} {l : Location} :
    t.find path = .ok l ↔ spellingError? path = none ∧ t.walk (Route.ofText path).start
      (Route.ofText path).steps = .ok l := by
  unfold find follow
  cases spellingError? path <;> simp

/-- **A path that leads somewhere leads to the place it is spelled for.** -/
theorem eq_location_of_find {t : FileTree} {path : String} {l : Location} (h : t.find path = .ok l) :
    l = (Route.ofText path).location :=
  walk_eq_foldl (find_eq_ok_iff.1 h).2

theorem ne_empty_of_find {t : FileTree} {path : String} {l : Location} (h : t.find path = .ok l) :
    path ≠ "" := by
  rintro rfl
  exact absurd (find_eq_ok_iff.1 h).1 (by decide)

theorem exists_of_isFolder {t : FileTree} {path : String} (h : t.isFolder path = true) :
    ∃ l, t.find path = .ok l ∧ t.isFolderAt l = true := by
  unfold isFolder at h
  cases hfind : t.find path with
  | error e => simp [hfind, Except.toOption] at h
  | ok l => exact ⟨l, rfl, by simpa [hfind, Except.toOption] using h⟩

theorem walk_append (t : FileTree) (l : Location) (xs ys : List String) :
    t.walk l (xs ++ ys) = (t.walk l xs).bind (t.walk · ys) := by
  induction xs generalizing l with
  | nil => rfl
  | cons part rest ih =>
      rw [List.cons_append, walk, walk]
      cases t.step l part with
      | ok next => exact ih next
      | error e => rfl

/-- A slash behind a path leads no further. -/
theorem find_of_concat_slash {t : FileTree} {u : List Char} {l : Location} (hu : u ≠ [])
    (h : t.find (String.ofList (u ++ ['/'])) = .ok l) : t.find (String.ofList u) = .ok l := by
  obtain ⟨hspelling, hwalk⟩ := find_eq_ok_iff.1 h
  refine find_eq_ok_iff.2 ⟨?_, ?_⟩
  · -- the shorter path is spelled no worse
    unfold spellingError? at hspelling ⊢
    split_ifs at hspelling with hnull hempty hlong
    have hnull' : ¬((String.ofList u).toList.any (·.toNat == 0)) = true := by
      intro h
      apply hnull
      rw [String.toList_ofList] at h ⊢
      rw [List.any_append, h, Bool.true_or]
    have hempty' : ¬(String.ofList u).isEmpty = true := by simpa using hu
    have hlong' : ¬4095 < (String.ofList u).utf8ByteSize := by
      rw [String.ofList_append, String.utf8ByteSize_append] at hlong
      omega
    rw [if_neg hnull', if_neg hempty', if_neg hlong']
  · rw [ofText_concat_slash hu] at hwalk
    simp only [Route.add, walk_append] at hwalk
    cases hm : t.walk (Route.ofText (String.ofList u)).start (Route.ofText (String.ofList u)).steps with
    | error e =>
        rw [hm] at hwalk
        exact absurd hwalk (by simp [Except.bind])
    | ok m =>
        rw [hm] at hwalk
        simp only [Except.bind, walk, step] at hwalk
        split_ifs at hwalk <;> simp_all

/-- The folder of a path in a folder is that folder, however its path ends. -/
theorem find_parent_join {t : FileTree} {folder n : String} {l : Location} (h : t.find folder = .ok l)
    (hn : '/' ∉ n.toList) : t.find (parent (join folder n)) = .ok l :=
  parent_join_induction (P := fun path => t.find path = .ok l) find_of_concat_slash (ne_empty_of_find h) hn h

/-- **What is in a folder is found by a path in it**, if the path can be spelled. -/
theorem find_join {t : FileTree} {folder n : String} {l : Location} (hfind : t.find folder = .ok l)
    (hfolder : t.isFolderAt l = true) (hn : IsFileName n)
    (hthere : (t.get? (l.child n)).isSome = true) (hspelling : spellingError? (join folder n) = none) :
    t.find (join folder n) = .ok (l.child n) := by
  obtain ⟨start, steps, hroute, hjoin⟩ := exists_route_join (ne_empty_of_find hfind)
  have hwalk := (find_eq_ok_iff.1 hfind).2
  have hl : t.walk start steps = .ok l := by
    rcases hroute with hroute | hroute
    · rwa [hroute] at hwalk
    · -- an empty step stays where it is
      rw [hroute, walk_append] at hwalk
      cases hm : t.walk start steps with
      | error e => simp [hm, Except.bind] at hwalk
      | ok m =>
          rw [hm] at hwalk
          simp only [Except.bind, walk, step] at hwalk
          split_ifs at hwalk <;> simp_all
  refine find_eq_ok_iff.2 ⟨hspelling, ?_⟩
  obtain ⟨hempty, hpoint, hpoints⟩ := hn.1.proper
  have hstep : t.step l n = .ok (l.child n) := by
    simp [step, hfolder, hempty, hpoint, hpoints, Nat.not_lt.2 hn.2, hthere]
  rw [hjoin n hn.1.slash, walk_append, hl]
  simp only [Except.bind, walk, hstep]

end CodeFlow.Files.FileTree
