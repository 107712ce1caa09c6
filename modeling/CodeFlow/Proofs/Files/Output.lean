import Mathlib
import CodeFlow.Proofs.Files.Tree

/-!
# `CodeFlow.Proofs.Files.Output` — trees that diagrams were written into

What is rendered is written to files whose names end in one of two extensions. A tree that such files were
added to has the same folders. Paths lead to the same places but for the new files, listings differ in their
names only, and all other files read the same.

## Contents
- `IsOutput`: texts with one of the extensions that are written; `IsRendered`: paths that are written at.
- `Beside`: a tree with such files added; `Beside.write`.
- `Beside.isFolder_eq`, `Beside.list_filter_eq`, `Beside.readText?_eq`.
-/

namespace CodeFlow.Files

open Text hiding join

/-! ## Names of output -/

/-- A text that ends as the files that are written. -/
def IsOutput (t : List Char) : Prop := ['.', 'p', 'd', 'f'] <:+ t ∨ ['.', 'd', 'o', 't'] <:+ t

theorem IsOutput.of_suffix {s t : List Char} (hs : IsOutput s) (h : s <:+ t) : IsOutput t :=
  hs.imp (·.trans h) (·.trans h)

/-- A text that ends as the paths that runs write at. -/
def IsRendered (t : List Char) : Prop := ['.', 'p', 'd', 'f'] <:+ t ∨ ".pdf.debug.dot".toList <:+ t

theorem IsRendered.isOutput {t : List Char} (h : IsRendered t) : IsOutput t := by
  rcases h with h | h
  · exact .inl h
  · exact .inr (List.IsSuffix.trans ⟨".pdf.debug".toList, rfl⟩ h)

theorem nameChars_suffix (t : List Char) : nameChars t <:+ t := ⟨headChars t, headChars_append_nameChars t⟩

theorem nameChars_append_of_not_mem (t : List Char) {b : List Char} (hb : '/' ∉ b) :
    nameChars (t ++ b) = nameChars t ++ b := by
  have hkeep := bne_of_not_mem (t := b.reverse) (by simpa using hb)
  unfold nameChars
  rw [List.reverse_append, List.takeWhile_append_of_pos hkeep, List.reverse_append, List.reverse_reverse]

/-- A path ends as its name does. -/
theorem IsOutput.nameChars {t : List Char} (h : IsOutput t) : IsOutput (nameChars t) := by
  rcases h with ⟨u, rfl⟩ | ⟨u, rfl⟩
  · rw [nameChars_append_of_not_mem u (by decide)]
    exact .inl (List.suffix_append _ _)
  · rw [nameChars_append_of_not_mem u (by decide)]
    exact .inr (List.suffix_append _ _)

/-- A place that output is written to. -/
def Location.IsOutput (l : Location) : Prop :=
  ∃ (folder : Location) (n : String), l = folder.child n ∧ IsPart n ∧ Files.IsOutput n.toList

/-! ## The last step of a path -/

theorem getLast?_splitOnChar (t : List Char) :
    (splitOnChar '/' t).getLast? = some (nameChars t) := by
  have hslash := slash_not_mem_nameChars t
  rcases ending_headChars t with hhead | ⟨u, hu⟩
  · have ht : nameChars t = t := by simpa [hhead] using headChars_append_nameChars t
    rw [ht] at hslash
    rw [splitOnChar_of_not_mem hslash, ht]
    rfl
  · have ht : t = u ++ '/' :: nameChars t := by
      conv_lhs => rw [← headChars_append_nameChars t, hu, List.append_assoc, List.singleton_append]
    conv_lhs => rw [ht, splitOnChar_append_cons, splitOnChar_of_not_mem hslash]
    simp

/-- A route starts at an anchor. -/
theorem names_start_ofText (path : String) : (Route.ofText path).start.names = [] := by
  unfold Route.ofText
  split
  · rfl
  · rfl
  · rfl
  · split_ifs <;> rfl

/-- The last step of a path is its name. -/
theorem getLast?_steps {path last : String} (h : (Route.ofText path).steps.getLast? = some last) :
    last.toList = nameChars path.toList := by
  have hparts : ((splitOnChar '/' path.toList).map String.ofList).getLast? =
      some (String.ofList (nameChars path.toList)) := by
    rw [List.getLast?_map, getLast?_splitOnChar]
    rfl
  -- the steps are the parts of the path but for the one that says where it starts
  have hlast : ((splitOnChar '/' path.toList).map String.ofList).getLast? = some last := by
    unfold Route.ofText at h
    split at h
    · simp at h
    · simp at h
    · rename_i rest _ hrest
      rw [hrest, List.getLast?_cons, h]
      rfl
    · rename_i first rest _ _ hrest
      rw [hrest]
      split_ifs at h
      · rw [List.getLast?_cons, h]
        rfl
      · exact h
  rw [hparts] at hlast
  rw [← Option.some.inj hlast, String.toList_ofList]

namespace FileTree

/-- Steps that do not end in an empty one are parted before the last. -/
theorem eq_concat_of_splitLast {steps before : List String} {last : String}
    (h : splitLast steps = some (before, last)) (hne : steps.getLast? ≠ some "") : steps = before ++ [last] := by
  unfold splitLast at h
  rw [← List.head?_reverse] at hne
  cases hsteps : steps.reverse with
  | nil => simp [hsteps] at h
  | cons x xs =>
      have hx : (x == "") = false := by simpa [hsteps] using hne
      rw [hsteps, List.dropWhile_cons_of_neg (by simp [hx])] at h
      obtain ⟨rfl, rfl⟩ : xs.reverse = before ∧ x = last := by simpa using h
      rw [← List.reverse_reverse steps, hsteps, List.reverse_cons]

/-- A slot of a name in a folder has that name and lies there. -/
theorem slotIn_eq_ok_iff {t : FileTree} {folder : Location} {name : String} {s : t.Slot} :
    t.slotIn folder name = .ok s ↔ s.folder = folder ∧ s.name = name := by
  constructor
  · intro h
    unfold slotIn at h
    split_ifs at h
    obtain rfl := Except.ok.inj h
    exact ⟨rfl, rfl⟩
  · rintro ⟨rfl, rfl⟩
    rw [slotIn, dif_pos s.inside, dif_pos s.named.1, dif_pos s.named.2, dif_pos s.free]

/-- A path by which a file is opened for writing, and its slot. -/
structure Opened (t : FileTree) (path : String) (s : t.Slot) : Prop where
  /-- The path can be spelled. -/
  spelled : spellingError? path = none
  /-- Its last step is the name of the file, and those before it lead to the folder. -/
  route : ∃ before, (Route.ofText path).steps = before ++ [s.name] ∧
    t.walk (Route.ofText path).start before = .ok s.folder

theorem Opened.name {t : FileTree} {path : String} {s : t.Slot} (h : t.Opened path s) :
    s.name.toList = nameChars path.toList := by
  obtain ⟨before, hsteps, -⟩ := h.route
  exact getLast?_steps (by rw [hsteps, List.getLast?_concat])

/-- **What is written goes to the place that the path is spelled for.** -/
theorem Opened.location_eq {t : FileTree} {path : String} {s : t.Slot} (h : t.Opened path s) :
    s.location = placeOf path := by
  obtain ⟨before, hsteps, hbefore⟩ := h.route
  rw [placeOf, Route.location, hsteps, List.foldl_append, ← walk_eq_foldl hbefore]
  exact (enter_of_isInner s.named.1.proper s.folder).symm

theorem openForWriting_eq_ok_iff_opened {t : FileTree} {path : String} {s : t.Slot} :
    t.openForWriting path = .ok s ↔ t.Opened path s := by
  constructor
  · intro h
    unfold openForWriting at h
    split at h
    · simp at h
    · rename_i hspelled
      simp only at h
      split at h
      · simp at h
      · rename_i before last hlast
        split at h
        · simp at h
        · rename_i folder hfolder
          split_ifs at h with hend
          obtain ⟨rfl, rfl⟩ := slotIn_eq_ok_iff.1 h
          have hopen : (Route.ofText path).steps.getLast? ≠ some "" := by simpa [s.inside] using hend
          exact ⟨hspelled, before, eq_concat_of_splitLast hlast hopen, hfolder⟩
  · intro h
    obtain ⟨before, hsteps, hbefore⟩ := h.route
    have hempty : s.name ≠ "" := s.named.1.proper.1
    have hsplit : splitLast (Route.ofText path).steps = some (before, s.name) := by
      simp [splitLast, hsteps, hempty]
    have hend : (Route.ofText path).steps.getLast? ≠ some "" := by simp [hsteps, hempty]
    simp [openForWriting, h.spelled, hsplit, hbefore, hend, slotIn_eq_ok_iff]

/-- **What writing a file does**: nothing, or something is put where the path is opened. -/
theorem write_cases (t : FileTree) (path : String) (content : Content) (mishap : Option Mishap) :
    (t.write path content mishap).2 = t ∨
      ∃ s content', t.Opened path s ∧ (t.write path content mishap).2 = t.put s (.file content') := by
  unfold write
  cases hopen : t.openForWriting path with
  | error e => exact .inl rfl
  | ok s =>
      have hopened := openForWriting_eq_ok_iff_opened.1 hopen
      dsimp only
      split
      · exact .inr ⟨s, content, hopened, rfl⟩
      · exact .inl rfl
      · exact .inr ⟨s, _, hopened, rfl⟩

/-! ## Trees with output -/

/-- A tree with output added to it: files, at places where there is no folder. -/
structure Beside (t t' : FileTree) : Prop where
  /-- Other places are as they were. -/
  same : ∀ l, ¬l.IsOutput → t'.get? l = t.get? l
  /-- Nothing is gone. -/
  kept : ∀ l, (t.get? l).isSome = true → (t'.get? l).isSome = true
  /-- No folder came or went. -/
  folders : ∀ l, t'.isFolderAt l = t.isFolderAt l
  /-- Listings are the same where names of output are not asked for. -/
  listed : ∀ l p, (∀ n, IsPart n → IsOutput n.toList → t.isFolderAt (l.child n) = false → p n = false) →
    (t'.childNames l).filter p = (t.childNames l).filter p

namespace Beside

theorem refl (t : FileTree) : Beside t t := ⟨fun _ _ => rfl, fun _ h => h, fun _ => rfl, fun _ _ _ => rfl⟩

theorem put {t t' : FileTree} (h : Beside t t') (s : t'.Slot) (houtput : IsOutput s.name.toList)
    (content : Content) : Beside t (t'.put s (.file content)) where
  same l hl := by
    have hne : l ≠ s.location := by
      rintro rfl
      exact hl ⟨s.folder, s.name, rfl, s.named.1, houtput⟩
    rw [get?_put, if_neg hne]
    exact h.same l hl
  kept l hl := by
    rw [get?_put]
    split_ifs
    · rfl
    · exact h.kept l hl
  folders l := by
    rw [isFolderAt_put]
    exact h.folders l
  listed l p hp := by
    rw [filter_childNames_put]
    · exact h.listed l p hp
    · rintro rfl
      exact hp s.name s.named.1 houtput ((h.folders _).symm.trans s.free)

/-- **Writing output** adds to the files at most. -/
theorem write {t t' : FileTree} (h : Beside t t') {path : String} (hpath : IsOutput path.toList)
    (content : Content) (mishap : Option Mishap) : Beside t (t'.write path content mishap).2 := by
  rcases write_cases t' path content mishap with hsame | ⟨s, content', hopened, hput⟩
  · rw [hsame]
    exact h
  · rw [hput]
    exact h.put s (hopened.name ▸ hpath.nameChars) content'

end Beside

/-! ## Where paths end -/

/-- A place that a path comes by: what lies above it are folders. -/
def Reached (t : FileTree) (l : Location) : Prop :=
  ∀ k < l.names.length, t.isFolderAt { l with names := l.names.take k } = true

theorem Reached.up {t : FileTree} {l : Location} (h : t.Reached l) :
    t.Reached l.up ∧ t.isFolderAt l.up = true := by
  obtain ⟨a, names⟩ := l
  rcases List.eq_nil_or_concat names with rfl | ⟨front, x, rfl⟩
  · have hup : (Location.up ⟨a, []⟩).names = [] := by cases a <;> rfl
    refine ⟨fun k hk => ?_, ?_⟩
    · simp [hup] at hk
    · cases a <;> rfl
  · have hup : Location.up ⟨a, front.concat x⟩ = ⟨a, front⟩ := by
      obtain ⟨y, ys, hys⟩ := List.exists_cons_of_ne_nil (List.concat_ne_nil x front)
      have hdrop : (y :: ys).dropLast = front := by rw [← hys, List.dropLast_concat]
      rw [List.concat_eq_append, hys, Location.up, hdrop]
    rw [hup]
    refine ⟨fun k hk => ?_, ?_⟩
    · have := h k (by simpa using Nat.lt_succ_of_lt hk)
      simpa [List.take_append_of_le_length (Nat.le_of_lt hk)] using this
    · simpa using h front.length (by simp)

theorem Reached.child {t : FileTree} {l : Location} (h : t.Reached l) (hl : t.isFolderAt l = true)
    (n : String) : t.Reached (l.child n) := by
  intro k hk
  have hle : k ≤ l.names.length := by simpa [Location.child, Nat.lt_succ_iff] using hk
  have htake : (l.child n).names.take k = l.names.take k := List.take_append_of_le_length hle
  rw [htake]
  rcases Nat.lt_or_eq_of_le hle with hlt | rfl
  · exact h k hlt
  · rwa [List.take_length]

/-- What a step from a folder does. -/
theorem step_cases {t : FileTree} {l next : Location} {part : String} (h : t.step l part = .ok next) :
    t.isFolderAt l = true ∧ (next = l ∨ next = l.up ∨ next = l.child part) := by
  unfold step at h
  split_ifs at h <;> simp_all

/-- A path ends at a folder, or at what its last step names. -/
theorem walk_end {t : FileTree} {l m : Location} {steps : List String} (hl : t.Reached l)
    (hfolder : t.isFolderAt l = true) (h : t.walk l steps = .ok m) :
    t.isFolderAt m = true ∨ ∃ (k : Location) (last : String), steps.getLast? = some last ∧ m = k.child last := by
  induction steps generalizing l with
  | nil =>
      obtain rfl := Except.ok.inj h
      exact .inl hfolder
  | cons part rest ih =>
      rw [walk] at h
      split at h
      · rename_i next hnext
        -- the last step of the rest is the last step of all
        have hlast : t.isFolderAt next = true → t.Reached next → t.isFolderAt m = true ∨
            ∃ (k : Location) (last : String), (part :: rest).getLast? = some last ∧ m = k.child last := by
          intro hkind hreached
          refine (ih hreached hkind h).imp id ?_
          rintro ⟨k, last, hrest, hm⟩
          exact ⟨k, last, by rw [List.getLast?_cons, hrest]; rfl, hm⟩
        obtain ⟨-, rfl | rfl | rfl⟩ := step_cases hnext
        · exact hlast hfolder hl
        · exact hlast hl.up.2 hl.up.1
        · cases hkind : t.isFolderAt (l.child part) with
          | true => exact hlast hkind (hl.child hfolder part)
          | false =>
              -- nothing leads on from a file
              cases rest with
              | nil => exact .inr ⟨l, part, rfl, (Except.ok.inj h).symm⟩
              | cons p ps => simp [walk, step, hkind] at h
      · simp at h

namespace Beside
variable {t t' : FileTree} (h : Beside t t')

include h

theorem step_cases (l : Location) (part : String) :
    t'.step l part = t.step l part ∨
      (t.step l part).toOption = none ∧ t'.step l part = .ok (l.child part) ∧
        t'.isFolderAt (l.child part) = false ∧ IsOutput part.toList := by
  unfold step
  rw [h.folders l]
  split_ifs with hfile hstay hup hlong hnew hold hold
  · exact .inl rfl
  · exact .inl rfl
  · exact .inl rfl
  · exact .inl rfl
  · exact .inl rfl
  · -- the step leads to a file that is new
    have hplace : (l.child part).IsOutput := by
      by_contra hno
      rw [h.same _ hno] at hnew
      exact hold hnew
    obtain ⟨folder, n, hchild, -, houtput⟩ := hplace
    obtain ⟨-, rfl⟩ := child_inj.1 hchild
    refine .inr ⟨rfl, rfl, ?_, houtput⟩
    rw [h.folders]
    exact isFolderAt_of_none (Option.not_isSome_iff_eq_none.1 hold)
  · exact absurd (h.kept _ hold) hnew
  · exact .inl rfl

/-- Paths lead to the same places, or to a new file. -/
theorem walk_cases (l : Location) (steps : List String) :
    (t'.walk l steps).toOption = (t.walk l steps).toOption ∨
      (t.walk l steps).toOption = none ∧ ∃ (m : Location) (last : String), t'.walk l steps = .ok m ∧
        t'.isFolderAt m = false ∧ steps.getLast? = some last ∧ IsOutput last.toList := by
  induction steps generalizing l with
  | nil => exact .inl rfl
  | cons part rest ih =>
      rw [walk, walk]
      rcases h.step_cases l part with hstep | ⟨hnone, hstep, hkind, houtput⟩
      · rw [hstep]
        cases t.step l part with
        | error e => exact .inl rfl
        | ok next =>
            refine (ih next).imp id ?_
            rintro ⟨hnone, m, last, hm, hkind, hlast, houtput⟩
            exact ⟨hnone, m, last, hm, hkind, by rw [List.getLast?_cons, hlast]; rfl, houtput⟩
      · rw [hstep]
        cases ht : t.step l part with
        | ok next => simp [ht, Except.toOption] at hnone
        | error e =>
            -- nothing leads on from the new file
            cases rest with
            | nil => exact .inr ⟨rfl, l.child part, part, rfl, hkind, rfl, houtput⟩
            | cons p ps =>
                refine .inl ?_
                simp [walk, step, hkind, Except.toOption]

theorem find_cases (path : String) :
    (t'.find path).toOption = (t.find path).toOption ∨
      (t.find path).toOption = none ∧ IsOutput path.toList ∧
        ∃ m, t'.find path = .ok m ∧ t'.isFolderAt m = false := by
  unfold find follow
  cases spellingError? path with
  | some e => exact .inl rfl
  | none =>
      refine (h.walk_cases _ _).imp id ?_
      rintro ⟨hnone, m, last, hm, hkind, hlast, houtput⟩
      have hsuffix : last.toList <:+ path.toList := getLast?_steps hlast ▸ nameChars_suffix _
      exact ⟨hnone, houtput.of_suffix hsuffix, m, hm, hkind⟩

/-- The same paths lead to folders. -/
theorem isFolder_eq (path : String) : t'.isFolder path = t.isFolder path := by
  unfold isFolder
  rcases h.find_cases path with hfind | ⟨hnone, -, m, hm, hkind⟩
  · rw [hfind, funext h.folders]
  · rw [hnone, hm]
    simpa [Except.toOption] using hkind

/-- Listings by paths are the same where names of output are not asked for. -/
theorem list_filter_eq (path : String) {p : String → Bool}
    (hp : ∀ l, t.find path = .ok l →
      ∀ n, IsPart n → IsOutput n.toList → t.isFolderAt (l.child n) = false → p n = false) :
    ((t'.list path).toOption.getD []).filter p = ((t.list path).toOption.getD []).filter p := by
  unfold list
  rcases h.find_cases path with hfind | ⟨hnone, -, m, hm, hkind⟩
  · cases hl : t.find path with
    | error e =>
        rw [hl] at hfind
        cases hl' : t'.find path with
        | error e' => rfl
        | ok m => simp [hl', Except.toOption] at hfind
    | ok l =>
        rw [hl] at hfind
        cases hl' : t'.find path with
        | error e' => simp [hl', Except.toOption] at hfind
        | ok m =>
            obtain rfl : m = l := by simpa [hl', Except.toOption] using hfind
            simp only [h.folders m]
            split_ifs
            · exact h.listed m p (hp m hl)
            · rfl
  · cases hl : t.find path with
    | ok l => simp [hl, Except.toOption] at hnone
    | error e => simp [hm, hkind, Except.toOption]

/-- What a path leads to is as it was, unless it is spelled like output. -/
theorem get?_of_find {path : String} (hpath : ¬IsOutput path.toList) {m : Location}
    (hm : t.find path = .ok m) : t'.get? m = t.get? m := by
  have hstart := names_start_ofText path
  have hreached : t.Reached (Route.ofText path).start := fun k hk => by simp [hstart] at hk
  have hfolder : t.isFolderAt (Route.ofText path).start = true := isFolderAt_anchor t hstart
  rcases walk_end hreached hfolder (find_eq_ok_iff.1 hm).2 with hkind | ⟨k, last, hlast, rfl⟩
  · -- there is a folder in both trees
    have hget : ∀ {u : FileTree}, u.isFolderAt m = true → u.get? m = some .folder := by
      intro u hu
      obtain ⟨e, he, hkind⟩ := isFolderAt_eq_true_iff.1 hu
      cases e with
      | folder => exact he
      | file content => exact absurd hkind Bool.false_ne_true
    rw [hget hkind, hget ((h.folders m).trans hkind)]
  · refine h.same _ ?_
    rintro ⟨folder, n, hchild, -, houtput⟩
    obtain ⟨-, rfl⟩ := child_inj.1 hchild
    have hsuffix : last.toList <:+ path.toList := getLast?_steps hlast ▸ nameChars_suffix _
    exact hpath (houtput.of_suffix hsuffix)

/-- **Files that are not output read the same.** -/
theorem readText?_eq {path : String} (hpath : ¬IsOutput path.toList) :
    t'.readText? path = t.readText? path := by
  unfold readText?
  rcases h.find_cases path with hfind | ⟨-, houtput, -⟩
  · rw [hfind]
    cases hm : t.find path with
    | error e => rfl
    | ok m =>
        change t'.readTextAt? m = t.readTextAt? m
        rw [readTextAt?, readTextAt?, h.get?_of_find hpath hm]
  · exact absurd houtput hpath

end Beside

end FileTree

end CodeFlow.Files
