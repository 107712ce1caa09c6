import Mathlib
import CodeFlow.Job
import CodeFlow.Proofs.Files.Path
import CodeFlow.Proofs.Ident
import CodeFlow.Proofs.Outcome
import CodeFlow.Proofs.Selection.Order

/-!
# `CodeFlow.Proofs.Job` — where diagrams go

The name of a diagram keeps one thing of its seed, the number or else the name without extension. That, and
the folder that the diagram goes to, decide whether two diagrams are given the same path.

## Contents
- `Key`, `key`: what the name of a diagram keeps.
- `path_eq_iff`, `place_eq_iff`: when two diagrams go to the same path or to the same place.
- `Made`: what is known of the diagrams of a run; `made_performGroups`.
-/

namespace CodeFlow.Job

open Files Text Selection

/-! ## Names -/

/-- What the name of a diagram keeps of its seed. -/
inductive Key where
  | number (n : Nat)
  | stem (t : List Char)
deriving DecidableEq

/-- What is kept of a seed. -/
def key (seed : String) : Key :=
  match number? seed with
  | some n => .number n
  | none => .stem (splitExtensionChars (name seed).toList).1

/-- How a key is written at the end of a name. -/
def Key.suffix : Key → List Char
  | .number n => ' ' :: ((toString n).toList ++ ['.', 'p', 'd', 'f'])
  | .stem t => '_' :: (t ++ ['.', 'p', 'd', 'f'])

theorem Key.suffix_injective : Function.Injective Key.suffix := by
  intro a b h
  cases a with
  | number m =>
      cases b with
      | number n =>
          have hdigits : (toString m).toList = (toString n).toList :=
            List.append_cancel_right (List.cons.inj h).2
          rw [Nat.repr_injective (String.toList_inj.1 hdigits)]
      | stem t => simp [suffix] at h
  | stem t =>
      cases b with
      | number n => simp [suffix] at h
      | stem u => rw [List.append_cancel_right (List.cons.inj h).2]

theorem Key.getLast_suffix (k : Key) : k.suffix.getLast? = some 'f' := by
  cases k with
  | number n => exact List.getLast?_append_of_ne_nil (' ' :: (toString n).toList) (by simp)
  | stem t => exact List.getLast?_append_of_ne_nil ('_' :: t) (by simp)

theorem toList_outputName (output seed : String) :
    (outputName output seed).toList = output.toList ++ (key seed).suffix := by
  unfold outputName key
  cases number? seed <;> simp [Key.suffix]

/-- A stem is part of a name. -/
theorem splitExtensionChars_subset {t : List Char} (h : '/' ∉ t) : (splitExtensionChars t).1 ⊆ t := by
  have hhead := headChars_of_not_mem h
  have hname : nameChars t = t := by simpa [hhead] using headChars_append_nameChars t
  simp only [splitExtensionChars, hhead, hname, List.nil_append]
  split_ifs
  · -- points in front, and what stands before the last point behind them
    refine List.append_subset.2 ⟨List.takeWhile_subset _, ?_⟩
    intro c hc
    have hstem := dropEndWhile_subset _ _ (List.mem_of_mem_dropLast hc)
    exact (List.dropWhile_suffix _).subset hstem
  · exact fun _ hc => hc

theorem slash_not_mem_suffix (seed : String) : '/' ∉ (key seed).suffix := by
  have hname : '/' ∉ (name seed).toList := by
    simpa [name] using slash_not_mem_nameChars seed.toList
  unfold key
  cases number? seed with
  | some n =>
      have hdigits : '/' ∉ (toString n).toList := fun hm =>
        absurd (Ident.isDigit_of_mem_toString hm) (by decide)
      simpa [Key.suffix] using hdigits
  | none =>
      have hstem : '/' ∉ (splitExtensionChars (name seed).toList).1 := fun hm =>
        hname (splitExtensionChars_subset hname hm)
      simpa [Key.suffix] using hstem

/-! ## Paths -/

/-- The path of the diagram of a seed. -/
def outputPath (output seed : String) : String := join (parent seed) (outputName output seed)

/-- The folder that the diagram of a seed goes to, as it is spelled: a name for diagrams may lead to
another folder. -/
def outputFolder (output seed : String) : String :=
  join (parent seed) (String.ofList (headChars output.toList))

/-- The name of the diagram of a seed in its folder. -/
def outputLast (output seed : String) : String :=
  String.ofList (nameChars output.toList ++ (key seed).suffix)

/-- Whether a name for diagrams starts at the root. -/
def AtRoot (output : String) : Prop := output.toList.head? = some '/'

theorem head_headChars (t : List Char) : (headChars t).head? = some '/' ↔ t.head? = some '/' := by
  have hcut := headChars_append_nameChars t
  cases hhead : headChars t with
  | nil =>
      -- no slash at all, so none in front
      rw [hhead, List.nil_append] at hcut
      have hslash := slash_not_mem_nameChars t
      rw [hcut] at hslash
      simp only [List.head?_nil, reduceCtorEq, false_iff]
      exact fun h => hslash (List.mem_of_mem_head? h)
  | cons c u =>
      rw [← hcut, hhead]
      simp

theorem toList_outputFolder (output seed : String) :
    (outputFolder output seed).toList =
      joinChars (parentChars seed.toList) (headChars output.toList) := by
  simp [outputFolder, Files.join, parent]

theorem ending_outputFolder (output seed : String) : Ending (outputFolder output seed).toList := by
  rw [toList_outputFolder]
  exact ending_joinChars _ (ending_headChars _)

theorem isName_outputLast (output seed : String) : IsName (outputLast output seed) := by
  -- no name for a folder itself ends like a diagram
  have hlast : (outputLast output seed).toList.getLast? = some 'f' := by
    simp [outputLast, List.getLast?_append, Key.getLast_suffix]
  have hne : ∀ t : String, t.toList.getLast? ≠ some 'f' → outputLast output seed ≠ t := by
    rintro t ht rfl
    exact ht hlast
  refine ⟨⟨?_, hne "" (by decide), hne "." (by decide), hne ".." (by decide)⟩, hne working (by decide)⟩
  simpa [outputLast] using ⟨slash_not_mem_nameChars _, slash_not_mem_suffix seed⟩

/-- A path is cut into its folder and its name. -/
theorem toList_outputPath (output seed : String) :
    (outputPath output seed).toList =
      (outputFolder output seed).toList ++ (outputLast output seed).toList := by
  have hcut := headChars_append_nameChars output.toList
  -- what is kept of the seed does not decide where the name starts
  have hstart : (output.toList ++ (key seed).suffix).head? = some '/' ↔
      (headChars output.toList).head? = some '/' := by
    rw [head_headChars]
    cases houtput : output.toList with
    | nil => cases key seed <;> simp [Key.suffix]
    | cons c u => simp
  rw [toList_outputFolder, outputPath, Files.join, String.toList_ofList, toList_outputName, outputLast,
    String.toList_ofList, parent, String.toList_ofList, joinChars_eq, joinChars_eq]
  simp only [hstart]
  split_ifs
  · rw [← List.append_assoc, hcut]
  · conv_lhs => rw [← hcut]
    simp only [List.append_assoc]

theorem outputLast_inj {output seed seed' : String} :
    outputLast output seed = outputLast output seed' ↔ key seed = key seed' := by
  unfold outputLast
  rw [String.ofList_inj, List.append_cancel_left_eq]
  exact Key.suffix_injective.eq_iff

theorem outputFolder_inj {output seed seed' : String} :
    outputFolder output seed = outputFolder output seed' ↔
      AtRoot output ∨ parent seed = parent seed' := by
  rw [← String.toList_inj, toList_outputFolder, toList_outputFolder, joinChars_eq, joinChars_eq]
  split_ifs with hroot
  · simp [AtRoot, (head_headChars _).1 hroot]
  · -- the name for diagrams leads both to a folder in that of the seed
    rw [List.append_cancel_right_eq, within_inj_parent]
    have hat : ¬AtRoot output := fun h => hroot ((head_headChars _).2 h)
    rw [or_iff_right hat, parent, parent, String.ofList_inj]

/-- **Two seeds are given one path** if their names keep the same and they lie in one folder, or the name
for diagrams starts at the root. -/
theorem path_eq_iff (output seed seed' : String) :
    outputPath output seed = outputPath output seed' ↔
      key seed = key seed' ∧ (AtRoot output ∨ parent seed = parent seed') := by
  rw [← String.toList_inj, toList_outputPath, toList_outputPath,
    append_inj_of_ending (ending_outputFolder _ _) (ending_outputFolder _ _)
      (isName_outputLast _ _).slash (isName_outputLast _ _).slash,
    String.toList_inj, String.toList_inj, outputFolder_inj, outputLast_inj]
  exact and_comm

/-- **Two diagrams go to one place** if the names of their seeds keep the same and their folders are one
place. -/
theorem place_eq_iff (output seed seed' : String) :
    placeOf (outputPath output seed) = placeOf (outputPath output seed') ↔
      key seed = key seed' ∧ placeOf (outputFolder output seed) = placeOf (outputFolder output seed') := by
  have hplace : ∀ seed, placeOf (outputPath output seed) =
      (placeOf (outputFolder output seed)).child (outputLast output seed) := by
    intro seed
    have := location_ofText_append (ending_outputFolder output seed) (isName_outputLast output seed)
    rwa [← toList_outputPath, String.ofList_toList, String.ofList_toList] at this
  rw [hplace, hplace, child_inj, outputLast_inj]
  exact and_comm

/-! ## Seeds one after the other -/

theorem subset_addNew (paths new : List String) : paths ⊆ addNew paths new := by
  induction new generalizing paths with
  | nil => exact fun _ h => h
  | cons p rest ih =>
      refine List.Subset.trans ?_ (ih _)
      split_ifs
      · exact fun _ h => h
      · exact List.subset_append_left _ _

theorem mem_bundle (t : FileTree) (exts : List (List Char)) (seed : String) : seed ∈ bundle t exts seed :=
  subset_addNew _ _ List.mem_cons_self

/-- A seed is made at most once, and is met from then on. -/
theorem satisfies_performSeed (s : Settings) (folder : String) (met : List String) (seed : String) :
    SatisfiesM (fun r => met ⊆ r.1 ∧ ∀ p ∈ r.2, p = ⟨seed, Files.join folder (outputName s.output seed)⟩ ∧
      seed ∉ met ∧ seed ∈ r.1) (performSeed s folder met seed) := by
  unfold performSeed
  split_ifs with hmet
  · -- met before: nothing is made
    exact SatisfiesM.pure ⟨fun _ h => h, by simp⟩
  · refine satisfiesM_of_forall fun w => ?_
    simp only
    split_ifs
    · exact SatisfiesM.pure ⟨fun _ h => h, by simp⟩
    · refine satisfiesM_of_forall fun _ => SatisfiesM.pure ?_
      refine ⟨List.subset_append_left _ _, ?_⟩
      rintro p ⟨⟩
      exact ⟨rfl, hmet, List.mem_append_right _ (mem_bundle _ _ _)⟩

/-- What is made of the seeds of a folder. -/
theorem satisfies_performSeeds (s : Settings) (folder : String) (met seeds : List String) :
    SatisfiesM (fun made => (made.map (·.seed)).Nodup ∧ ∀ p ∈ made,
      p.path = Files.join folder (outputName s.output p.seed) ∧ p.seed ∈ seeds ∧ p.seed ∉ met)
      (performSeeds s folder met seeds) := by
  induction seeds generalizing met with
  | nil => exact SatisfiesM.pure (by simp)
  | cons seed rest ih =>
      refine (satisfies_performSeed s folder met seed).bind fun r hr => (ih r.1).bind fun others ho => ?_
      obtain ⟨hmet, hmade⟩ := hr
      obtain ⟨hnodup, hothers⟩ := ho
      refine SatisfiesM.pure ⟨?_, ?_⟩
      · cases hr2 : r.2 with
        | none => simpa using hnodup
        | some p =>
            obtain ⟨rfl, -, hin⟩ := hmade p hr2
            simp only [Option.toList_some, List.singleton_append, List.map_cons, List.nodup_cons]
            refine ⟨fun hmem => ?_, hnodup⟩
            -- the others were made after the seed was met
            obtain ⟨q, hq, hseed⟩ := List.mem_map.1 hmem
            exact (hothers q hq).2.2 (hseed ▸ hin)
      · intro p hp
        rcases List.mem_append.1 hp with hp | hp
        · obtain ⟨rfl, hnew, -⟩ := hmade p (Option.mem_toList.1 hp)
          exact ⟨rfl, List.mem_cons_self, hnew⟩
        · obtain ⟨hpath, hseed, hnew⟩ := hothers p hp
          exact ⟨hpath, List.mem_cons_of_mem _ hseed, fun h => hnew (hmet h)⟩

/-! ## Folder by folder -/

/-- Groups have folders of their own, and their files lie in them. -/
structure Sorted (gs : List Group) : Prop where
  /-- No two groups have one folder. -/
  folders : (gs.map (·.folder)).Nodup
  /-- Files lie in the folder of their group. -/
  files : ∀ g ∈ gs, ∀ f ∈ g.files, parent f = g.folder

theorem sorted_groups (paths : List String) : Sorted (groups paths) := by
  rw [groups_eq]
  constructor
  · rw [List.map_map]
    exact (nodup_foldersOf paths).map fun _ _ h => h
  · intro g hg f hf
    obtain ⟨folder, -, rfl⟩ := List.mem_map.1 hg
    simpa [filesIn] using (List.mem_filter.1 hf).2

/-- What is known of the diagrams of a run. -/
structure Made (output : String) (made : List Product) : Prop where
  /-- No seed is made twice. -/
  seeds : (made.map (·.seed)).Nodup
  /-- Paths are those of the seeds. -/
  paths : ∀ p ∈ made, p.path = outputPath output p.seed

theorem made_nil (output : String) : Made output [] := ⟨by simp, by simp⟩

theorem satisfies_performGroups (s : Settings) {gs : List Group} (h : Sorted gs) :
    SatisfiesM (fun made => Made s.output made ∧ ∀ p ∈ made, ∃ g ∈ gs, p.seed ∈ g.files)
      (performGroups s gs) := by
  induction gs with
  | nil => exact SatisfiesM.pure ⟨made_nil _, by simp⟩
  | cons g rest ih =>
      have hfolders := List.nodup_cons.1 h.folders
      have hrest : Sorted rest := ⟨hfolders.2, fun g' hg' => h.files g' (List.mem_cons_of_mem _ hg')⟩
      refine (satisfies_performSeeds s g.folder [] g.files).bind fun made hmade =>
        (ih hrest).bind fun others hothers => SatisfiesM.pure ?_
      obtain ⟨hnodup, hmade⟩ := hmade
      obtain ⟨hothers, hin⟩ := hothers
      have hparent : ∀ p ∈ made, parent p.seed = g.folder := fun p hp =>
        h.files g List.mem_cons_self _ (hmade p hp).2.1
      refine ⟨⟨?_, ?_⟩, ?_⟩
      · -- a seed lies in the folder of one group only
        rw [List.map_append]
        refine hnodup.append hothers.seeds fun seed hseed hseed' => ?_
        obtain ⟨p, hp, rfl⟩ := List.mem_map.1 hseed
        obtain ⟨q, hq, hqp⟩ := List.mem_map.1 hseed'
        obtain ⟨g', hg', hq'⟩ := hin q hq
        have hfolder : g'.folder = g.folder := by
          rw [← h.files g' (List.mem_cons_of_mem _ hg') _ hq', hqp, hparent p hp]
        exact hfolders.1 (List.mem_map.2 ⟨g', hg', hfolder⟩)
      · intro p hp
        rcases List.mem_append.1 hp with hp | hp
        · rw [(hmade p hp).1, outputPath, hparent p hp]
        · exact hothers.paths p hp
      · intro p hp
        rcases List.mem_append.1 hp with hp | hp
        · exact ⟨g, List.mem_cons_self, (hmade p hp).2.1⟩
        · obtain ⟨g', hg', hp'⟩ := hin p hp
          exact ⟨g', List.mem_cons_of_mem _ hg', hp'⟩

/-- **The diagrams of a run**: no seed twice, and paths by seeds. -/
theorem made_performGroups (s : Settings) (paths : List String) :
    SatisfiesM (Made s.output) (performGroups s (groups paths)) :=
  (satisfies_performGroups s (sorted_groups paths)).imp fun h => h.1

end CodeFlow.Job
