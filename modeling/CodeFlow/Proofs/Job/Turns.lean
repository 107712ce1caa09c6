import Mathlib
import CodeFlow.Proofs.Coupling
import CodeFlow.Proofs.Files.Tree
import CodeFlow.Proofs.Job.Sources

/-!
# `CodeFlow.Proofs.Job.Turns` — every seed has its turn

A seed that was met in a bundle of its folder would be passed over. None is: besides its seed, a bundle has files
that lie one folder further inside. So each seed has its turn, and its diagram is made if there is something to draw.

## Contents
- `Drawable`: a file that is drawn; `payload_ne_nil_iff`.
- `eq_or_parent_ne_of_mem_bundle`: where the other files of a bundle lie.
- `Taken`: seeds that have their turns; `taken_performGroups`.
-/

namespace CodeFlow.Job

open Files Selection
open Text hiding join

/-! ## What is drawn -/

/-- A path leads to a text that is not blank. -/
def Drawable (t : FileTree) (path : String) : Prop :=
  ∃ code, t.readText? path = some code ∧ ∃ c ∈ code, isBlank c = false

theorem strip_eq_nil_iff {t : List Char} : strip t = [] ↔ ∀ c ∈ t, isBlank c = true := by
  refine ⟨isBlank_of_strip_eq_nil, fun h => ?_⟩
  rw [← List.append_nil t, strip_append_left h]
  rfl

theorem isSome_part?_iff {t : FileTree} {path : String} : (part? t path).isSome = true ↔ Drawable t path := by
  unfold part? Drawable
  cases t.readText? path with
  | none => simp
  | some code => simp [strip_eq_nil_iff]

/-- There is something to draw if a path leads to a text that is not blank. -/
theorem payload_ne_nil_iff {t : FileTree} {paths : List String} :
    payload t paths ≠ [] ↔ ∃ p ∈ paths, Drawable t p := by
  rw [payload, ne_eq, List.filterMap_eq_nil_iff]
  push Not
  simp only [← isSome_part?_iff, Option.isSome_iff_ne_none]

/-! ## What is met -/

/-- The folder of what lies in a folder of a folder. -/
theorem parent_join_join {folder n m : String} (hn : IsPart n) (hm : '/' ∉ m.toList) :
    parent (join (join folder n) m) = join folder n := by
  -- the path of the folder ends in its name, so there is no slash to be dropped
  obtain ⟨u, c, hlast⟩ := (List.eq_nil_or_concat n.toList).resolve_left (by simpa using hn.proper.1)
  have hc : c ≠ '/' := by
    rintro rfl
    exact hn.slash (by simp [hlast])
  have hinner : (join folder n).toList = (within folder.toList ++ u) ++ [c] := by
    rw [toList_join folder hn.slash, hlast, List.concat_eq_append, List.append_assoc]
  have hall : ¬(join folder n).toList.all (· == '/') = true := by simp [hinner, hc]
  rw [parent, parentChars_join (join_ne_empty folder hn) hm, if_neg hall, hinner,
    dropEndWhile_of_getLast (by simpa using hc), ← hinner, String.ofList_toList]

theorem join_ne_self (folder : String) {n : String} (hn : IsPart n) : join folder n ≠ folder := by
  intro h
  have hlength : (join folder n).toList.length = folder.toList.length := by rw [h]
  have hpos : 0 < n.toList.length := List.length_pos_iff.2 (by simpa using hn.proper.1)
  have hle : folder.toList.length ≤ (within folder.toList).length := by
    unfold within
    split_ifs <;> simp
  rw [toList_join folder hn.slash, List.length_append] at hlength
  omega

/-- **Besides its seed, a bundle has files that lie further inside**, not in the folder of the seed. -/
theorem eq_or_parent_ne_of_mem_bundle {t : FileTree} {exts : List (List Char)} {seed p : String}
    (h : p ∈ bundle t exts seed) : p = seed ∨ parent p ≠ parent seed := by
  have hlisted : ∀ {folder n : String}, n ∈ ((t.list folder).toOption).getD [] → IsPart n := by
    intro folder n hn
    cases hlist : t.list folder with
    | error e => simp [hlist, Except.toOption] at hn
    | ok names =>
        rw [hlist] at hn
        exact (FileTree.isFileName_of_list hlist n hn).1
  rcases mem_addNew h with hp | hp
  · exact .inl (List.mem_singleton.1 hp)
  · obtain ⟨n, hn, hp⟩ := List.mem_flatMap.1 hp
    unfold filesInside at hp
    split_ifs at hp
    · obtain ⟨m, hm, rfl⟩ := List.mem_map.1 hp
      have hmpart := hlisted (List.mem_filter.1 hm).1
      rw [parent_join_join (hlisted hn) hmpart.slash]
      exact .inr (join_ne_self _ (hlisted hn))
    · simp at hp

/-! ## Turns -/

/-- The workspace once a diagram was generated of what there is to draw for a seed. -/
def drawn (s : Settings) (seed : String) (w : Workspace) : Workspace :=
  ((Diagram.generate s.options (payloadValue (payload w.files (bundle w.files s.exts seed)))
    (outputPath s.output seed)).run w).2

/-- Seeds have their turns, one after the other: what is made, and the workspace at the end. -/
inductive Taken (s : Settings) : List String → Workspace → List Product → Workspace → Prop
  | done (w : Workspace) : Taken s [] w [] w
  /-- There is something to draw, so a diagram is generated, once, and how that went is printed. The bundle has none
  of the seeds of the folder that are still to come. -/
  | drawn {seed : String} {rest : List String} {w w' : Workspace} {report : Terminal} {made : List Product}
      (something : ∃ p ∈ bundle w.files s.exts seed, Drawable w.files p)
      (unmet : ∀ later ∈ rest, parent later = parent seed → later ∉ bundle w.files s.exts seed)
      (next : Taken s rest { drawn s seed w with terminal := report } made w') :
      Taken s (seed :: rest) w (⟨seed, outputPath s.output seed⟩ :: made) w'
  /-- There is nothing to draw, so nothing is done. -/
  | blank {seed : String} {rest : List String} {w w' : Workspace} {made : List Product}
      (nothing : ∀ p ∈ bundle w.files s.exts seed, ¬Drawable w.files p) (next : Taken s rest w made w') :
      Taken s (seed :: rest) w made w'

/-- First the seeds of one folder, then seeds of others. -/
theorem Taken.append {s : Settings} {xs ys : List String} {w w' w'' : Workspace} {made made' : List Product}
    (h : Taken s xs w made w') (h' : Taken s ys w' made' w'')
    (hfolders : ∀ x ∈ xs, ∀ y ∈ ys, parent y ≠ parent x) : Taken s (xs ++ ys) w (made ++ made') w'' := by
  induction h with
  | done w => exact h'
  | drawn hsome hunmet _ ih =>
      refine .drawn hsome ?_ (ih h' fun x hx => hfolders x (List.mem_cons_of_mem _ hx))
      intro later hlater hparent
      rcases List.mem_append.1 hlater with hin | hin
      · exact hunmet later hin hparent
      · exact absurd hparent (hfolders _ List.mem_cons_self later hin)
  | blank hnone _ ih => exact .blank hnone (ih h' fun x hx => hfolders x (List.mem_cons_of_mem _ hx))

/-- To make a diagram is to generate it and to print how that went. -/
theorem exists_run_makeDiagram (s : Settings) (parts : List (String × String)) (folder outName : String)
    (w : Workspace) :
    ∃ report, ((makeDiagram s parts folder outName).run w).2 =
      { ((Diagram.generate s.options (payloadValue parts) (join folder outName)).run w).2 with
        terminal := report } := by
  rw [makeDiagram, StateT.run_bind]
  rcases (Diagram.generate s.options (payloadValue parts) (join folder outName)).run w with ⟨_ | _ | _, w'⟩
  · exact ⟨w'.terminal, rfl⟩
  · exact ⟨_, rfl⟩
  · exact ⟨_, rfl⟩

/-- What is done for a seed that was not met. -/
theorem run_performSeed (s : Settings) {folder : String} {met : List String} {seed : String}
    (hfolder : parent seed = folder) (hmet : seed ∉ met) (w : Workspace) :
    ∃ report, (performSeed s folder met seed).run w =
      if payload w.files (bundle w.files s.exts seed) = [] then ((met, none), w)
      else ((met ++ bundle w.files s.exts seed, some ⟨seed, outputPath s.output seed⟩),
        { drawn s seed w with terminal := report }) := by
  subst hfolder
  obtain ⟨report, hreport⟩ := exists_run_makeDiagram s (payload w.files (bundle w.files s.exts seed)) (parent seed)
    (outputName s.output seed) w
  refine ⟨report, ?_⟩
  unfold performSeed
  rw [if_neg hmet, run_bind_of_eq (a := get) rfl]
  simp only [List.isEmpty_iff]
  split_ifs
  · rfl
  · rw [StateT.run_bind]
    exact congrArg (Prod.mk _) hreport

/-- **The seeds of a folder have their turns**: none of them was met when it comes up. -/
theorem taken_performSeeds (s : Settings) {folder : String} (met : List String) {seeds : List String}
    (hseeds : seeds.Nodup) (hfolder : ∀ p ∈ seeds, parent p = folder) (hmet : ∀ p ∈ seeds, p ∉ met)
    (w : Workspace) :
    Taken s seeds w ((performSeeds s folder met seeds).run w).1 ((performSeeds s folder met seeds).run w).2 := by
  induction seeds generalizing met w with
  | nil => exact .done w
  | cons seed rest ih =>
      obtain ⟨hnew, hrest⟩ := List.nodup_cons.1 hseeds
      have hparents : ∀ p ∈ rest, parent p = folder := fun p hp => hfolder p (List.mem_cons_of_mem _ hp)
      have hparent : parent seed = folder := hfolder seed List.mem_cons_self
      obtain ⟨report, hseed⟩ := run_performSeed s hparent (hmet seed List.mem_cons_self) w
      have hothers : ∀ p ∈ rest, p ∉ met := fun p hp => hmet p (List.mem_cons_of_mem _ hp)
      rw [performSeeds]
      split_ifs at hseed with hpayload
      · rw [run_bind_of_eq hseed]
        have hnone : ∀ p ∈ bundle w.files s.exts seed, ¬Drawable w.files p := fun p hp hdrawable =>
          payload_ne_nil_iff.2 ⟨p, hp, hdrawable⟩ hpayload
        exact .blank hnone (ih _ hrest hparents hothers w)
      · rw [run_bind_of_eq hseed]
        -- what the bundle adds to what was met lies in other folders
        have hunmet : ∀ later ∈ rest, later ∉ bundle w.files s.exts seed := by
          intro later hlater hin
          rcases eq_or_parent_ne_of_mem_bundle hin with rfl | hne
          · exact hnew hlater
          · exact hne ((hparents later hlater).trans hparent.symm)
        have hmet' : ∀ p ∈ rest, p ∉ met ++ bundle w.files s.exts seed := fun p hp hin =>
          (List.mem_append.1 hin).elim (hothers p hp) (hunmet p hp)
        exact .drawn (payload_ne_nil_iff.1 hpayload) (fun p hp _ => hunmet p hp)
          (ih _ hrest hparents hmet' _)

/-- **Every seed has its turn**, folder by folder. -/
theorem taken_performGroups (s : Settings) {gs : List Group} (hsorted : Sorted gs)
    (hnodup : ∀ g ∈ gs, g.files.Nodup) (w : Workspace) :
    Taken s (gs.flatMap (·.files)) w ((performGroups s gs).run w).1 ((performGroups s gs).run w).2 := by
  induction gs generalizing w with
  | nil => exact .done w
  | cons g rest ih =>
      have hfolders := List.nodup_cons.1 hsorted.folders
      have hrest : Sorted rest := ⟨hfolders.2, fun g' hg' => hsorted.files g' (List.mem_cons_of_mem _ hg')⟩
      have hparents := hsorted.files g List.mem_cons_self
      have hfirst := taken_performSeeds s [] (hnodup g List.mem_cons_self) hparents (by simp) w
      have hothers := ih hrest (fun g' hg' => hnodup g' (List.mem_cons_of_mem _ hg'))
        ((performSeeds s g.folder [] g.files).run w).2
      refine hfirst.append hothers fun x hx y hy hparent => ?_
      -- no other group is of this folder
      obtain ⟨g', hg', hy'⟩ := List.mem_flatMap.1 hy
      have hfolder : g'.folder = g.folder := by
        rw [← hsorted.files g' (List.mem_cons_of_mem _ hg') y hy', hparent, hparents x hx]
      exact hfolders.1 (List.mem_map.2 ⟨g', hg', hfolder⟩)

end CodeFlow.Job
