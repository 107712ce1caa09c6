import Mathlib
import CodeFlow.Files.Access
import CodeFlow.Proofs.Text.Search

/-!
# `CodeFlow.Proofs.Files.Path` — the last part of a path and the rest

A path is cut after its last slash. Both parts can be told from the path, which decides when two joined
paths are equal, and the same cut of a route decides when they lead to the same place.

## Contents
- `Ending`: texts that end in a slash or are empty; `append_inj_of_ending`.
- `within`: what `join` puts in front; `within_inj_parent`.
- `location_ofText_append`, `location_join`: the place of a path, by its last part.
- `walk_eq_foldl`: a path that leads somewhere leads to the place it is spelled for.
-/

namespace CodeFlow.Files

open Text

/-! ## The last slash -/

/-- A text that is empty or ends in a slash. -/
def Ending (t : List Char) : Prop := t = [] ∨ ∃ u, t = u ++ ['/']

theorem nameChars_append {a b : List Char} (ha : Ending a) (hb : '/' ∉ b) : nameChars (a ++ b) = b := by
  have hkeep := bne_of_not_mem (t := b.reverse) (by simpa using hb)
  unfold nameChars
  rw [List.reverse_append, List.takeWhile_append_of_pos hkeep]
  rcases ha with rfl | ⟨u, rfl⟩ <;> simp

theorem headChars_append_nameChars (t : List Char) : headChars t ++ nameChars t = t := by
  unfold headChars nameChars dropEndWhile
  rw [← List.reverse_append, List.takeWhile_append_dropWhile, List.reverse_reverse]

theorem slash_not_mem_nameChars (t : List Char) : '/' ∉ nameChars t := by
  intro hm
  have := List.mem_takeWhile_imp (List.mem_reverse.1 hm)
  simp at this

theorem ending_headChars (t : List Char) : Ending (headChars t) := by
  unfold headChars dropEndWhile
  cases h : t.reverse.dropWhile (· != '/') with
  | nil => exact .inl rfl
  | cons c u =>
      have hc : (c != '/') = false := by
        have := List.head?_dropWhile_not (· != '/') t.reverse
        simpa [h] using this
      have : c = '/' := by simpa using hc
      exact .inr ⟨u.reverse, by simp [this]⟩

theorem headChars_append {a b : List Char} (ha : Ending a) (hb : '/' ∉ b) : headChars (a ++ b) = a := by
  have hcut := headChars_append_nameChars (a ++ b)
  rw [nameChars_append ha hb] at hcut
  exact List.append_cancel_right hcut

theorem headChars_of_not_mem {t : List Char} (h : '/' ∉ t) : headChars t = [] :=
  headChars_append (.inl rfl) h

/-- **A path is cut in one way** into a text up to its last slash and a text without slashes. -/
theorem append_inj_of_ending {a a' b b' : List Char} (ha : Ending a) (ha' : Ending a') (hb : '/' ∉ b)
    (hb' : '/' ∉ b') : a ++ b = a' ++ b' ↔ a = a' ∧ b = b' := by
  refine ⟨fun h => ?_, fun h => by rw [h.1, h.2]⟩
  have hname : b = b' := by
    rw [← nameChars_append ha hb, h, nameChars_append ha' hb']
  rw [hname] at h
  exact ⟨List.append_cancel_right h, hname⟩

/-! ## Joined paths -/

/-- A folder with the slash that goes before what is in it. -/
def within (folder : List Char) : List Char :=
  if folder.isEmpty || folder.getLast? = some '/' then folder else folder ++ ['/']

theorem joinChars_eq (folder path : List Char) :
    joinChars folder path = if path.head? = some '/' then path else within folder ++ path := by
  unfold joinChars within
  split_ifs <;> simp

theorem ending_within (folder : List Char) : Ending (within folder) := by
  unfold within
  split_ifs with h
  · rw [Bool.or_eq_true, List.isEmpty_iff, decide_eq_true_eq] at h
    rcases h with rfl | h
    · exact .inl rfl
    · obtain ⟨u, hu⟩ := List.getLast?_eq_some_iff.1 h
      exact .inr ⟨u, hu⟩
  · exact .inr ⟨folder, rfl⟩

theorem Ending.append {a b : List Char} (ha : Ending a) (hb : Ending b) : Ending (a ++ b) := by
  rcases hb with rfl | ⟨u, rfl⟩
  · simpa using ha
  · exact .inr ⟨a ++ u, by simp⟩

theorem ending_joinChars (folder : List Char) {path : List Char} (h : Ending path) :
    Ending (joinChars folder path) := by
  rw [joinChars_eq]
  split_ifs
  · exact h
  · exact (ending_within folder).append h

/-- A parent ends in a slash only if it is made of slashes. -/
theorem all_slash_of_parentChars {path u : List Char} (h : parentChars path = u ++ ['/']) :
    ∀ c ∈ u, c = '/' := by
  simp only [parentChars] at h
  split_ifs at h with hall
  · intro c hc
    have := List.all_eq_true.1 hall c (by rw [h]; exact List.mem_append_left _ hc)
    simpa using this
  · -- slashes at the end were dropped
    exfalso
    have hrev : (headChars path).reverse.dropWhile (· == '/') = '/' :: u.reverse := by
      rw [dropEndWhile, List.reverse_eq_iff] at h
      simpa using h
    have := List.head?_dropWhile_not (· == '/') (headChars path).reverse
    simp [hrev] at this

/-- **Parents can be told from the slash behind them.** -/
theorem within_inj_parent {p q : List Char} :
    within (parentChars p) = within (parentChars q) ↔ parentChars p = parentChars q := by
  -- a parent without a slash at its end is not, with a slash behind it, another parent
  have hmixed : ∀ {p q : List Char}, parentChars p ≠ [] → (parentChars p).getLast? ≠ some '/' →
      parentChars q = parentChars p ++ ['/'] → False := by
    intro p q hne hlast h
    obtain ⟨u, c, hu⟩ := List.eq_nil_or_concat (parentChars p) |>.resolve_left hne
    have hc : c = '/' := all_slash_of_parentChars h c (by simp [hu])
    rw [hu, hc] at hlast
    simp at hlast
  refine ⟨fun h => ?_, fun h => by rw [h]⟩
  unfold within at h
  split_ifs at h with hp hq hq
  · exact h
  · simp only [Bool.or_eq_true, List.isEmpty_iff, decide_eq_true_eq, not_or] at hq
    exact (hmixed hq.1 hq.2 h).elim
  · simp only [Bool.or_eq_true, List.isEmpty_iff, decide_eq_true_eq, not_or] at hp
    exact (hmixed hp.1 hp.2 h.symm).elim
  · exact List.append_cancel_right h

/-! ## Places -/

/-- A text that, as a path, names something in the working folder. -/
structure IsName (t : String) : Prop extends IsPart t where
  /-- It is not how the working folder is written. -/
  elsewhere : t ≠ working

theorem enter_of_isInner {part : String} (h : IsInner part) (l : Location) : l.enter part = l.child part := by
  obtain ⟨hempty, hdot, hdots⟩ := h
  simp [Location.enter, hempty, hdot, hdots]

/-- Behind a slash, the last part of a path is the last step of its route. -/
theorem exists_route_append (b : List Char) :
    ∃ start steps, ∀ t : String, '/' ∉ t.toList →
      Route.ofText (String.ofList (b ++ '/' :: t.toList)) = ⟨start, steps ++ [t]⟩ := by
  obtain ⟨x, xs, hx⟩ := List.exists_cons_of_ne_nil (splitOnChar_ne_nil '/' b)
  have hparts : ∀ t : String, '/' ∉ t.toList →
      (splitOnChar '/' (String.ofList (b ++ '/' :: t.toList)).toList).map String.ofList =
        String.ofList x :: (xs.map String.ofList ++ [t]) := by
    intro t ht
    rw [String.toList_ofList, splitOnChar_append_cons, hx, splitOnChar_of_not_mem ht]
    simp
  -- the first part decides where the route starts, whatever comes last
  by_cases hroot : String.ofList x = ""
  · refine ⟨{ anchor := .root }, xs.map String.ofList, fun t ht => ?_⟩
    unfold Route.ofText
    rw [hparts t ht, hroot]
    cases xs <;> rfl
  · by_cases hcwd : String.ofList x = working
    · refine ⟨{}, xs.map String.ofList, fun t ht => ?_⟩
      unfold Route.ofText
      rw [hparts t ht]
      simp [hcwd, working]
    · refine ⟨{}, String.ofList x :: xs.map String.ofList, fun t ht => ?_⟩
      unfold Route.ofText
      rw [hparts t ht]
      split <;> simp_all

/-- A slash behind a path is one more empty step. -/
theorem ofText_concat_slash {b : List Char} (hb : b ≠ []) :
    Route.ofText (String.ofList (b ++ ['/'])) = (Route.ofText (String.ofList b)).add [""] := by
  obtain ⟨x, xs, hx⟩ := List.exists_cons_of_ne_nil (splitOnChar_ne_nil '/' b)
  have hparts : (splitOnChar '/' (String.ofList b).toList).map String.ofList =
      String.ofList x :: xs.map String.ofList := by
    rw [String.toList_ofList, hx, List.map_cons]
  have hlonger : (splitOnChar '/' (String.ofList (b ++ ['/'])).toList).map String.ofList =
      String.ofList x :: (xs.map String.ofList ++ [""]) := by
    rw [String.toList_ofList, splitOnChar_append_cons, hx]
    simp [splitOnChar]
  -- an empty first part does not stand alone, so it means the root in both paths
  have halone : String.ofList x = "" → xs ≠ [] := by
    rintro hempty rfl
    obtain ⟨c, rest, rfl⟩ := List.exists_cons_of_ne_nil hb
    obtain rfl : x = [] := by simpa using hempty
    obtain ⟨y, ys, hy⟩ := List.exists_cons_of_ne_nil (splitOnChar_ne_nil '/' rest)
    rw [splitOnChar, hy] at hx
    split_ifs at hx <;> simp [consHead] at hx
  unfold Route.ofText
  rw [hparts, hlonger]
  by_cases hroot : String.ofList x = ""
  · obtain ⟨y, ys, rfl⟩ := List.exists_cons_of_ne_nil (halone hroot)
    simp [hroot, Route.add]
  · by_cases hcwd : String.ofList x = working
    · simp [hcwd, working, Route.add]
    · split <;> simp_all [Route.add]

/-- **The place of a path**: where its folder is, and there the last part. -/
theorem location_ofText_slash (b : List Char) {t : String} (ht : IsPart t) :
    (Route.ofText (String.ofList (b ++ '/' :: t.toList))).location =
      (Route.ofText (String.ofList (b ++ ['/']))).location.child t := by
  obtain ⟨start, steps, h⟩ := exists_route_append b
  have hfolder : Route.ofText (String.ofList (b ++ ['/'])) = ⟨start, steps ++ [""]⟩ := h "" (by simp)
  rw [h t ht.slash, hfolder]
  simp only [Route.location, List.foldl_append, List.foldl_cons, List.foldl_nil]
  rw [enter_of_isInner ht.proper]
  rfl

theorem location_ofText_append {a : List Char} (ha : Ending a) {t : String} (ht : IsName t) :
    (Route.ofText (String.ofList (a ++ t.toList))).location =
      (Route.ofText (String.ofList a)).location.child t := by
  rcases ha with rfl | ⟨b, rfl⟩
  · -- a name alone is a path from the working folder
    have hempty := ht.proper.1
    have hcwd := ht.elsewhere
    have hparts : (splitOnChar '/' (String.ofList ([] ++ t.toList)).toList).map String.ofList = [t] := by
      simp [splitOnChar_of_not_mem ht.slash]
    have hroute : Route.ofText (String.ofList ([] ++ t.toList)) = ⟨{}, [t]⟩ := by
      unfold Route.ofText
      rw [hparts]
      split <;> simp_all
    have hfolder : Route.ofText (String.ofList []) = {} := by decide
    rw [hroute, hfolder]
    exact enter_of_isInner ht.proper {}
  · rw [List.append_assoc, List.singleton_append]
    exact location_ofText_slash b ht.toIsPart

theorem toList_join (folder : String) {t : String} (ht : '/' ∉ t.toList) :
    (join folder t).toList = within folder.toList ++ t.toList := by
  have hhead : t.toList.head? ≠ some '/' := fun h => ht (List.mem_of_mem_head? h)
  rw [join, String.toList_ofList, joinChars_eq, if_neg hhead]

theorem name_join (folder : String) {t : String} (ht : '/' ∉ t.toList) : name (join folder t) = t := by
  rw [name, toList_join folder ht, nameChars_append (ending_within _) ht, String.ofList_toList]

/-- What is in a folder has its place there. -/
theorem location_join {folder t : String} (hfolder : folder ≠ "") (ht : IsPart t) :
    (Route.ofText (join folder t)).location = (Route.ofText folder).location.child t := by
  have hne : folder.toList ≠ [] := by simpa using hfolder
  rw [← String.ofList_toList (s := join folder t), toList_join folder ht.slash, within]
  split_ifs with h
  · -- the folder has a slash behind it already
    have hlast : folder.toList.getLast? = some '/' := by simpa [hfolder] using h
    obtain ⟨u, hu⟩ := List.getLast?_eq_some_iff.1 hlast
    rw [hu, List.append_assoc, List.singleton_append, location_ofText_slash u ht, ← hu,
      String.ofList_toList]
  · rw [List.append_assoc, List.singleton_append, location_ofText_slash _ ht, ofText_concat_slash hne,
      String.ofList_toList]
    simp [Route.location, Route.add, Location.enter]

/-- The route of a path in a folder is that of the folder, but for an empty step, and then the last part. -/
theorem exists_route_join {folder : String} (hfolder : folder ≠ "") :
    ∃ start steps, (Route.ofText folder = ⟨start, steps⟩ ∨ Route.ofText folder = ⟨start, steps ++ [""]⟩) ∧
      ∀ t : String, '/' ∉ t.toList → Route.ofText (join folder t) = ⟨start, steps ++ [t]⟩ := by
  have hne : folder.toList ≠ [] := by simpa using hfolder
  have hjoin : ∀ t : String, '/' ∉ t.toList → join folder t = String.ofList (within folder.toList ++ t.toList) := by
    intro t ht
    rw [← toList_join folder ht, String.ofList_toList]
  by_cases hlast : folder.toList.getLast? = some '/'
  · -- the folder has a slash behind it already
    obtain ⟨u, hu⟩ := List.getLast?_eq_some_iff.1 hlast
    obtain ⟨start, steps, h⟩ := exists_route_append u
    refine ⟨start, steps, .inr ?_, fun t ht => ?_⟩
    · rw [← String.ofList_toList (s := folder), hu]
      exact h "" (by simp)
    · rw [hjoin t ht, within, if_pos (by simp [hlast]), hu, List.append_assoc, List.singleton_append]
      exact h t ht
  · obtain ⟨start, steps, h⟩ := exists_route_append folder.toList
    refine ⟨start, steps, .inl ?_, fun t ht => ?_⟩
    · have hslash : (Route.ofText folder).add [""] = ⟨start, steps ++ [""]⟩ := by
        rw [← h "" (by simp), ← String.ofList_toList (s := folder), ← ofText_concat_slash hne, String.toList_ofList]
        rfl
      obtain ⟨hstart, hsteps⟩ := (Route.mk.injEq ..).mp hslash
      rw [← hstart, ← List.append_cancel_right hsteps]
    · rw [hjoin t ht, within, if_neg (by simp [hlast, hfolder]), List.append_assoc, List.singleton_append]
      exact h t ht

/-- The folder of a path in a folder is written as that folder but for slashes behind it. -/
theorem parentChars_join {folder n : String} (hfolder : folder ≠ "") (hn : '/' ∉ n.toList) :
    parentChars (join folder n).toList =
      if folder.toList.all (· == '/') then folder.toList
      else dropEndWhile (· == '/') folder.toList := by
  have hne : folder.toList ≠ [] := by simpa using hfolder
  rw [toList_join folder hn, parentChars, headChars_append (ending_within _) hn, within]
  by_cases hslash : (folder.toList.isEmpty || folder.toList.getLast? = some '/') = true
  · rw [if_pos hslash]
  · -- a folder without a slash behind it is not made of slashes
    rw [if_neg hslash]
    obtain ⟨u, c, hu⟩ := (List.eq_nil_or_concat folder.toList).resolve_left hne
    have hc : c ≠ '/' := by
      rintro rfl
      exact hslash (by simp [hu])
    have hdrop := dropEndWhile_append_of_forall (p := (· == '/')) (a := u ++ [c]) (b := ['/']) (by simp)
    simpa [hu, hc] using hdrop

/-- What a slash behind a path does not change is the same of a folder and of the folder of a path in it. -/
theorem parent_join_induction {P : String → Prop}
    (hstep : ∀ {u : List Char}, u ≠ [] → P (String.ofList (u ++ ['/'])) → P (String.ofList u))
    {folder n : String} (hfolder : folder ≠ "") (hn : '/' ∉ n.toList) (h : P folder) :
    P (parent (join folder n)) := by
  have hdrop : ∀ u : List Char, u.all (· == '/') = false → P (String.ofList u) →
      P (String.ofList (dropEndWhile (· == '/') u)) := by
    intro u hu hP
    induction u using List.reverseRecOn with
    | nil => simp at hu
    | append_singleton u c ih =>
        by_cases hc : c = '/'
        · subst hc
          have hall : u.all (· == '/') = false := by simpa using hu
          have hne : u ≠ [] := by
            rintro rfl
            simp at hall
          rw [dropEndWhile_append_of_forall (by simp)]
          exact ih hall (hstep hne hP)
        · rwa [dropEndWhile_of_getLast (by simpa using hc)]
  rw [parent, parentChars_join hfolder hn]
  split_ifs with hall
  · rwa [String.ofList_toList]
  · exact hdrop _ (by simpa using hall) (by rwa [String.ofList_toList])

theorem location_parent_join {folder n : String} (hfolder : folder ≠ "") (hn : '/' ∉ n.toList) :
    (Route.ofText (parent (join folder n))).location = (Route.ofText folder).location := by
  refine parent_join_induction
    (P := fun path => (Route.ofText path).location = (Route.ofText folder).location)
    (fun hu h => ?_) hfolder hn rfl
  rw [ofText_concat_slash hu] at h
  simpa [Route.location, Route.add, Location.enter] using h

theorem child_inj {l m : Location} {a b : String} : l.child a = m.child b ↔ l = m ∧ a = b := by
  obtain ⟨la, ln⟩ := l
  obtain ⟨ma, mn⟩ := m
  simp only [Location.child, Location.mk.injEq]
  constructor
  · rintro ⟨hanchor, hnames⟩
    have := List.append_inj' hnames rfl
    exact ⟨⟨hanchor, this.1⟩, by simpa using this.2⟩
  · rintro ⟨⟨hanchor, hnames⟩, hlast⟩
    exact ⟨hanchor, by rw [hnames, hlast]⟩

/-! ## Walks -/

/-- Walking through what there is follows the spelling. -/
theorem walk_eq_foldl {t : FileTree} {l m : Location} {steps : List String}
    (h : t.walk l steps = .ok m) : m = steps.foldl Location.enter l := by
  induction steps generalizing l with
  | nil => exact (Except.ok.inj h).symm
  | cons part rest ih =>
      rw [FileTree.walk] at h
      split at h
      · rename_i next hnext
        have hstep : next = l.enter part := by
          unfold FileTree.step at hnext
          unfold Location.enter
          split_ifs at hnext ⊢ <;> simp_all
        rw [List.foldl_cons, ← hstep]
        exact ih h
      · simp at h

end CodeFlow.Files
