import Mathlib
import CodeFlow.Dependency
import CodeFlow.Proofs.DepthFirst
import CodeFlow.Proofs.Files.Tree
import CodeFlow.Proofs.Source.Imports

/-!
# `CodeFlow.Proofs.Dependency` — the dependencies of a file are what its imports reach

What a file imports is told from what it holds: the statements of the program that it is read as, at any depth, name
modules, and a name may stand for some files. The search for dependencies is bounded by the number of entries of the
tree. The bound is never felt: the tree has an entry for whatever a file imports, so a search that goes one file deeper
has one entry less to go to. Files may import each other in circles or not: the search is the depth-first search of
`CodeFlow.Proofs.DepthFirst`.

## Contents
- `Stands`: the routes that a name may stand for; `mem_candidates_iff`.
- `Imports`: one file imports another; `neighbours`, `mem_neighbours`.
- `visit_succ`: to pass over a file by its path saves a step and changes nothing.
- `mem_places_of_imports`: what is imported has an entry.
- `unmet`: the places that are left to go to; `exists_visit`.
- `resolve_lists_reachable`: the dependencies of a file; `circle`: two files that import each other.
-/

namespace CodeFlow.Dependency

open Files Source DepthFirst

variable {t : FileTree} {root : Route} {file other : Location}

/-! ## Imports -/

/-- The routes that a name may stand for in a file. -/
inductive Stands (t : FileTree) (root : Route) (file : Location) : Import → Route → Prop where
  /-- The first part of the name is a file below the root. -/
  | module {m first : String} {rest : List String} (hparts : moduleParts m = first :: rest) :
      Stands t root file ⟨0, m⟩ (root.add [first ++ ".py"])
  /-- It is a folder there, and the file makes it a package. -/
  | package {m first : String} {rest : List String} {l : Location} (hparts : moduleParts m = first :: rest)
      (hfind : t.follow (root.add [first]) = .ok l) (hfolder : t.isFolderAt l = true) :
      Stands t root file ⟨0, m⟩ (root.add [first, "__init__.py"])
  /-- It is a folder there, and the whole name a file in it or further inside. -/
  | inside {m first last : String} {between : List String} {l : Location}
      (hparts : moduleParts m = first :: between ++ [last]) (hfind : t.follow (root.add [first]) = .ok l)
      (hfolder : t.isFolderAt l = true) :
      Stands t root file ⟨0, m⟩ (root.add (first :: between ++ [last ++ ".py"]))
  /-- With points before it, the first part of the name is a file so many folders above. -/
  | relative {level : Nat} {m first : String} {rest : List String} (hlevel : level ≠ 0) (hname : m ≠ "")
      (hparts : moduleParts m = first :: rest) :
      Stands t root file ⟨level, m⟩ ⟨Location.up^[level] file, [first ++ ".py"]⟩
  /-- Points alone stand for the file that makes that folder a package. -/
  | points {level : Nat} (hlevel : level ≠ 0) :
      Stands t root file ⟨level, ""⟩ ⟨Location.up^[level] file, ["__init__.py"]⟩

theorem leads_iff {r : Route} : leads t r = true ↔ ∃ l, t.follow r = .ok l := by
  unfold leads
  cases t.follow r with
  | error e => simp [Except.toOption]
  | ok l => simp [Except.toOption]

theorem leadsToFolder_iff {r : Route} :
    leadsToFolder t r = true ↔ ∃ l, t.follow r = .ok l ∧ t.isFolderAt l = true := by
  unfold leadsToFolder
  cases t.follow r with
  | error e => simp [Except.toOption]
  | ok l => simp [Except.toOption]

theorem moduleParts_ne_nil (m : String) : moduleParts m ≠ [] := by
  rw [moduleParts, Ne, List.map_eq_nil_iff]
  exact Text.splitOnChar_ne_nil '.' m.toList

theorem add_add (r : Route) (xs ys : List String) : (r.add xs).add ys = r.add (xs ++ ys) := by
  simp [Route.add]

theorem mem_rootCandidates {c : Route} {first : String} {rest : List String} :
    c ∈ rootCandidates t root (first :: rest) ↔
      c = root.add [moduleFile first] ∨ leadsToFolder t (root.add [first]) = true ∧
        (c = root.add [first, packageFile] ∨ rest ≠ [] ∧ c = root.add (moduleSteps (first :: rest))) := by
  unfold rootCandidates
  rw [List.mem_cons, List.headD_cons, add_add, List.singleton_append]
  by_cases hfolder : leadsToFolder t (root.add [first]) = true
  · by_cases hrest : rest = []
    · simp [hfolder, hrest]
    · simp [hfolder, hrest, List.length_pos_iff]
  · simp [hfolder]

/-- The file of a name of several parts. -/
theorem moduleSteps_concat (front : List String) (last : String) :
    moduleSteps (front ++ [last]) = front ++ [moduleFile last] := by
  simp [moduleSteps]

/-- The first point stands for the folder of the file, and each other one for a folder above. -/
theorem pointFolder_up (file : Location) {level : Nat} (h : level ≠ 0) :
    pointFolder file.up level = Location.up^[level] file := by
  induction level with
  | zero => exact absurd rfl h
  | succ n ih =>
      rw [Function.iterate_succ_apply']
      cases n with
      | zero => rfl
      | succ m => rw [pointFolder, ih (Nat.succ_ne_zero m)]

/-- **Where an import may lead** is what its name may stand for. -/
theorem mem_candidates_iff {i : Import} {c : Route} : c ∈ candidates t root file i ↔ Stands t root file i c := by
  obtain ⟨level, m⟩ := i
  obtain ⟨first, rest, hparts⟩ := List.exists_cons_of_ne_nil (moduleParts_ne_nil m)
  unfold candidates
  by_cases hlevel : level = 0
  · subst hlevel
    rw [if_pos rfl, hparts, mem_rootCandidates]
    constructor
    · rintro (rfl | ⟨hleads, hinside⟩)
      · exact .module hparts
      obtain ⟨l, hfind, hfolder⟩ := leadsToFolder_iff.1 hleads
      rcases hinside with rfl | ⟨hrest, rfl⟩
      · exact .package hparts hfind hfolder
      · obtain ⟨between, last, rfl⟩ := (List.eq_nil_or_concat' rest).resolve_left hrest
        rw [← List.cons_append] at hparts ⊢
        rw [moduleSteps_concat]
        exact .inside hparts hfind hfolder
    · intro h
      cases h with
      | module hparts' =>
          obtain ⟨rfl, -⟩ := List.cons.inj (hparts.symm.trans hparts')
          exact .inl rfl
      | package hparts' hfind hfolder =>
          obtain ⟨rfl, -⟩ := List.cons.inj (hparts.symm.trans hparts')
          exact .inr ⟨leadsToFolder_iff.2 ⟨_, hfind, hfolder⟩, .inl rfl⟩
      | inside hparts' hfind hfolder =>
          obtain ⟨rfl, rfl⟩ := List.cons.inj (hparts.symm.trans hparts')
          refine .inr ⟨leadsToFolder_iff.2 ⟨_, hfind, hfolder⟩, .inr ⟨by simp, ?_⟩⟩
          rw [List.append_eq, ← List.cons_append, moduleSteps_concat]
          rfl
      | relative hlevel _ _ => exact absurd rfl hlevel
      | points hlevel => exact absurd rfl hlevel
  · rw [if_neg hlevel, relativeCandidates, hparts, List.mem_singleton, pointFolder_up file hlevel]
    constructor
    · rintro rfl
      by_cases hname : m = ""
      · subst hname
        exact .points hlevel
      · rw [if_neg (by simpa using hname)]
        exact .relative hlevel hname hparts
    · intro h
      cases h with
      | module _ => exact absurd rfl hlevel
      | package _ _ _ => exact absurd rfl hlevel
      | inside _ _ _ => exact absurd rfl hlevel
      | relative _ hname hparts' =>
          obtain ⟨rfl, -⟩ := List.cons.inj (hparts.symm.trans hparts')
          rw [if_neg (by simpa using hname)]
          rfl
      | points _ => rfl

/-- A file imports another: it is read as a program, of which a statement at some depth names a module, and what the
name may stand for leads to the other file. -/
def Imports (t : FileTree) (root : Route) (file other : Location) : Prop :=
  ∃ body s i c, (t.readTextAt? file).bind parse? = some body ∧ Inside body s ∧ i ∈ s.named ∧
    Stands t root file i c ∧ t.follow c = .ok other

/-- What the imports of a file are, whether it can be read or not. -/
theorem mem_fileImports {i : Import} :
    i ∈ fileImports t file ↔ ∃ body s, (t.readTextAt? file).bind parse? = some body ∧ Inside body s ∧ i ∈ s.named := by
  unfold fileImports
  cases (t.readTextAt? file).bind parse? with
  | none => simp
  | some body => simp [mem_imports_iff]

theorem imports_iff :
    Imports t root file other ↔
      ∃ i ∈ fileImports t file, ∃ c ∈ candidates t root file i, leads t c = true ∧ c.location = other := by
  constructor
  · rintro ⟨body, s, i, c, hbody, hs, hi, hstands, hfollow⟩
    exact ⟨i, mem_fileImports.2 ⟨body, s, hbody, hs, hi⟩, c, mem_candidates_iff.2 hstands,
      leads_iff.2 ⟨other, hfollow⟩, (walk_eq_foldl hfollow).symm⟩
  · rintro ⟨i, hi, c, hc, hleads, rfl⟩
    obtain ⟨body, s, hbody, hs, hi⟩ := mem_fileImports.1 hi
    obtain ⟨l, hfollow⟩ := leads_iff.1 hleads
    -- a route that leads somewhere leads where it is spelled for
    obtain rfl : l = c.location := walk_eq_foldl hfollow
    exact ⟨body, s, i, c, hbody, hs, hi, mem_candidates_iff.1 hc, hfollow⟩

/-- The files that a file imports, in the order of its imports; none if it cannot be read as a program. -/
def neighbours (t : FileTree) (root : Route) (file : Location) : List Location :=
  ((t.readTextAt? file).bind parse?).elim [] fun body =>
    (((imports body).flatMap (candidates t root file)).filter (leads t)).map Route.location

theorem neighbours_eq : neighbours t root file =
    (((fileImports t file).flatMap (candidates t root file)).filter (leads t)).map Route.location := by
  unfold neighbours fileImports
  cases (t.readTextAt? file).bind parse? with
  | none => rfl
  | some body => rfl

theorem mem_neighbours : other ∈ neighbours t root file ↔ Imports t root file other := by
  simp only [neighbours_eq, imports_iff, List.mem_map, List.mem_filter, List.mem_flatMap]
  constructor
  · rintro ⟨c, ⟨⟨i, hi, hc⟩, hleads⟩, hother⟩
    exact ⟨i, hi, c, hc, hleads, hother⟩
  · rintro ⟨i, hi, c, hc, hleads, hother⟩
    exact ⟨c, ⟨⟨i, hi, hc⟩, hleads⟩, hother⟩

/-! ## Files that are passed over -/

section Passed

variable {plain : Bool}

theorem visit_of_mem {met : List Location} (h : file ∈ met) (n : Nat) : visit t root plain n met file = met := by
  cases n with
  | zero => rfl
  | succ n => rw [visit, if_pos h]

/-- **To pass over a file by its path changes nothing**: it was met, and a search that came to it would turn back. -/
theorem visit_succ (n : Nat) (met : List Location) (file : Location) :
    visit t root plain (n + 1) met file =
      if file ∈ met then met else (neighbours t root file).foldl (visit t root plain n) (met ++ [file]) := by
  have hstep : ∀ (i : Import) (met : List Location) (c : Route),
      (if (leads t c && !((plain || i.level ≠ 0) && c.location ∈ met)) = true then
        visit t root plain n met c.location else met) =
      if leads t c = true then visit t root plain n met c.location else met := by
    intro i met c
    by_cases hmem : c.location ∈ met
    · simp [visit_of_mem hmem]
    · simp [hmem]
  rw [visit, neighbours_eq, List.foldl_map, List.foldl_filter, List.foldl_flatMap]
  simp only [hstep]

end Passed

/-! ## Names of files -/

theorem isInner_moduleFile (part : String) : IsInner (moduleFile part) := by
  have hlast : (moduleFile part).toList.getLast? = some 'y' := by simp [moduleFile]
  refine ⟨?_, ?_, ?_⟩ <;>
  · intro h
    rw [h] at hlast
    exact absurd hlast (by decide)

theorem isInner_packageFile : IsInner packageFile := by
  unfold packageFile
  decide

/-- An import leads to a file: the last step is the name of one. -/
theorem exists_last_of_stands {i : Import} {c : Route} (h : Stands t root file i c) :
    ∃ front last, c.steps = front ++ [last] ∧ IsInner last := by
  cases h with
  | module _ => exact ⟨root.steps, _, rfl, isInner_moduleFile _⟩
  | @package m first rest l _ _ _ =>
      exact ⟨root.steps ++ [first], _, by simp [Route.add, packageFile], isInner_packageFile⟩
  | @inside m first last between l _ _ _ =>
      exact ⟨root.steps ++ first :: between, _, by simp [Route.add, moduleFile], isInner_moduleFile last⟩
  | relative _ _ _ => exact ⟨[], _, rfl, isInner_moduleFile _⟩
  | points _ => exact ⟨[], _, rfl, isInner_packageFile⟩

/-- The places at which a tree has something. -/
def places (t : FileTree) : List Location := t.entries.map (·.1)

/-- The name of a file leads into a folder, to an entry. -/
theorem mem_places_of_step {l m : Location} {last : String} (hlast : IsInner last)
    (h : t.step l last = .ok m) : m ∈ places t := by
  obtain ⟨hempty, hpoint, hpoints⟩ := hlast
  unfold FileTree.step at h
  split_ifs at h with hfile hstay hlong hthere
  · simp [hempty, hpoint] at hstay
  · obtain rfl := Except.ok.inj h
    obtain ⟨e, he⟩ := FileTree.isSome_get?_child.1 hthere
    exact List.mem_map.2 ⟨_, he, rfl⟩

/-- A route that ends in the name of a file leads to an entry, if anywhere. -/
theorem mem_places_of_follow {c : Route} {front : List String} {last : String} {m : Location}
    (hsteps : c.steps = front ++ [last]) (hlast : IsInner last) (hm : t.follow c = .ok m) : m ∈ places t := by
  rw [FileTree.follow, hsteps, FileTree.walk_append] at hm
  cases hfront : t.walk c.start front with
  | error e => simp [hfront, Except.bind] at hm
  | ok l =>
      rw [hfront] at hm
      cases hstep : t.step l last with
      | error e => simp [Except.bind, FileTree.walk, hstep] at hm
      | ok k =>
          have hk : k = m := by simpa [Except.bind, FileTree.walk, hstep] using hm
          rw [← hk]
          exact mem_places_of_step hlast hstep

/-- **What is imported has an entry.** -/
theorem mem_places_of_imports (h : Imports t root file other) : other ∈ places t := by
  obtain ⟨body, s, i, c, -, -, -, hstands, hfollow⟩ := h
  obtain ⟨front, last, hsteps, hlast⟩ := exists_last_of_stands hstands
  exact mem_places_of_follow hsteps hlast hfollow

/-! ## The bound -/

/-- How many entries of a tree were not met. -/
def unmet (t : FileTree) (met : List Location) : Nat := ((places t).filter (· ∉ met)).length

theorem unmet_le (t : FileTree) (met : List Location) : unmet t met ≤ t.entries.length := by
  have h : unmet t met ≤ (places t).length := List.length_filter_le _ _
  rwa [places, List.length_map] at h

/-- What is met later is taken from what is left. -/
theorem unmet_append (t : FileTree) (met more : List Location) :
    unmet t (met ++ more) = (((places t).filter (· ∉ met)).filter (· ∉ more)).length := by
  rw [unmet, List.filter_filter]
  congr 2
  funext l
  simp [Bool.and_comm]

theorem unmet_append_le (t : FileTree) (met more : List Location) : unmet t (met ++ more) ≤ unmet t met := by
  rw [unmet_append]
  exact List.length_filter_le _ _

/-- An entry that is met is one entry less. -/
theorem unmet_concat_lt {met : List Location} (hplace : file ∈ places t) (hnew : file ∉ met) :
    unmet t (met ++ [file]) < unmet t met := by
  rw [unmet_append, unmet, List.length_filter_lt_length_iff_exists]
  exact ⟨file, by simp [hplace, hnew], by simp⟩

/-! ## The search -/

section Search

variable {plain : Bool}

/-- A search through files that have entries, by a search that goes deep enough into each. -/
theorem exists_foldl_visit {n : Nat}
    (hvisit : ∀ met file, file ∈ met ∨ unmet t (met ++ [file]) < n →
      ∃ out, visit t root plain n met file = met ++ out ∧ Lists (neighbours t root) met [file] out)
    {files : List Location} (hfiles : files ⊆ places t) {met : List Location} (hmet : unmet t met ≤ n) :
    ∃ out, files.foldl (visit t root plain n) met = met ++ out ∧ Lists (neighbours t root) met files out := by
  induction files generalizing met with
  | nil => exact ⟨[], by simp, .nil⟩
  | cons file files ih =>
      obtain ⟨hfile, hrest⟩ := List.cons_subset.1 hfiles
      have hdeep : file ∈ met ∨ unmet t (met ++ [file]) < n := by
        by_cases hmem : file ∈ met
        · exact .inl hmem
        · exact .inr (Nat.lt_of_lt_of_le (unmet_concat_lt hfile hmem) hmet)
      obtain ⟨first, hfirst, hlists⟩ := hvisit met file hdeep
      obtain ⟨out, hout, hothers⟩ := ih hrest (Nat.le_trans (unmet_append_le t met first) hmet)
      refine ⟨first ++ out, ?_, hlists.cons hothers⟩
      rw [List.foldl_cons, hfirst, hout, List.append_assoc]

/-- **The search is depth-first**, as soon as it may go as deep as there are entries left. -/
theorem exists_visit (n : Nat) (met : List Location) (file : Location)
    (hn : file ∈ met ∨ unmet t (met ++ [file]) < n) :
    ∃ out, visit t root plain n met file = met ++ out ∧ Lists (neighbours t root) met [file] out := by
  induction n generalizing met file with
  | zero =>
      have hmem : file ∈ met := hn.resolve_right (Nat.not_lt_zero _)
      exact ⟨[], by simp [visit], .single_of_mem hmem⟩
  | succ n ih =>
      rw [visit_succ]
      split_ifs with hmem
      · exact ⟨[], by simp, .single_of_mem hmem⟩
      · have hleft : unmet t (met ++ [file]) ≤ n := Nat.lt_succ_iff.1 (hn.resolve_left hmem)
        have hplaces : neighbours t root file ⊆ places t := fun l hl =>
          mem_places_of_imports (mem_neighbours.1 hl)
        obtain ⟨below, hbelow, hlists⟩ := exists_foldl_visit ih hplaces hleft
        refine ⟨file :: below, ?_, .single hmem hlists⟩
        rw [hbelow, List.append_assoc, List.singleton_append]

end Search

/-! ## Dependencies -/

/-- The root of a project: the folder of the file, unless another is given. -/
def rootOf (file : String) (root : Option String) : Route :=
  (root.map Route.ofText).getD ⟨(placeOf file).up, []⟩

/-- **The dependencies of a file are what its imports reach.** Whatever the tree, the file, the root and the
files met before: the search lists in depth-first order, from the file on and without repetition, exactly what
is reached by imports without passing through a file that was met before. Those files and the ones listed are
the files met afterwards; a file that was met before has no dependencies. A search that may go deeper finds
the same. -/
theorem resolve_lists_reachable (t : FileTree) (file : String) (root : Option String)
    (met : List Location) :
    let a := resolve t file root met
    let next := neighbours t (rootOf file root)
    (∀ out, Lists next met [placeOf file] out ↔ out = a.found) ∧
      (∀ l, l ∈ a.found ↔ Reaches (Imports t (rootOf file root)) met (placeOf file) l) ∧
      a.found.Nodup ∧
      (placeOf file ∉ met → a.found.head? = some (placeOf file)) ∧
      (placeOf file ∈ met → a.found = [] ∧ a.met = met) ∧
      a.met = met ++ a.found ∧
      ∀ n, t.entries.length < n → visit t (rootOf file root) (root.all isPlain) n met (placeOf file) = a.met := by
  intro a next
  have hvisit : ∀ n, t.entries.length < n →
      ∃ out, visit t (rootOf file root) (root.all isPlain) n met (placeOf file) = met ++ out ∧
        Lists next met [placeOf file] out :=
    fun n hn => exists_visit n met (placeOf file) (.inr (Nat.lt_of_le_of_lt (unmet_le t _) hn))
  obtain ⟨out, hall, hlists⟩ := hvisit (t.entries.length + 2) (by omega)
  have hmet : a.met = met ++ out := hall
  have hfound : a.found = out := by
    show (visit t (rootOf file root) (root.all isPlain) (t.entries.length + 2) met (placeOf file)).drop met.length = out
    rw [hall, List.drop_left]
  have hjoins : (fun a b => b ∈ next a) = Imports t (rootOf file root) := by
    funext x y
    exact propext mem_neighbours
  rw [hfound, hmet]
  refine ⟨fun out' => ⟨fun h => h.unique hlists, fun h => h ▸ hlists⟩, fun l => ?_, hlists.nodup, ?_, ?_,
    rfl, fun n hn => ?_⟩
  · rw [hlists.mem_iff, hjoins]
    simp
  · intro hnew
    cases hlists with
    | skip hmem _ => exact absurd hmem hnew
    | enter _ _ _ => rfl
  · intro hmem
    have hnil : out = [] := hlists.unique (.single_of_mem hmem)
    exact ⟨hnil, by rw [hnil, List.append_nil]⟩
  · obtain ⟨out', hall', hlists'⟩ := hvisit n hn
    rw [hall', hlists'.unique hlists]

/-- Two files that import each other. -/
def circle : FileTree :=
  FileTree.build {} [("a.py", .file (.text "import b\n")), ("b.py", .file (.text "import a\n"))]

/-- The search goes round once, and not at all past a file that was met before. -/
theorem circle_resolved :
    let root := rootOf "a.py" none
    Imports circle root (placeOf "a.py") (placeOf "b.py") ∧ Imports circle root (placeOf "b.py") (placeOf "a.py") ∧
    (resolve circle "a.py" none []).found = [placeOf "a.py", placeOf "b.py"] ∧
    Reaches (Imports circle root) [] (placeOf "a.py") (placeOf "b.py") ∧
    (resolve circle "a.py" none [placeOf "b.py"]).found = [placeOf "a.py"] ∧
    ¬Reaches (Imports circle root) [placeOf "b.py"] (placeOf "a.py") (placeOf "b.py") := by
  intro root
  have hround : (resolve circle "a.py" none []).found = [placeOf "a.py", placeOf "b.py"] := by decide +kernel
  have hpast : (resolve circle "a.py" none [placeOf "b.py"]).found = [placeOf "a.py"] := by decide +kernel
  have hreached := (resolve_lists_reachable circle "a.py" none []).2.1 (placeOf "b.py")
  have hstopped := (resolve_lists_reachable circle "a.py" none [placeOf "b.py"]).2.1 (placeOf "b.py")
  rw [hround] at hreached
  rw [hpast] at hstopped
  refine ⟨imports_iff.2 (by decide +kernel), imports_iff.2 (by decide +kernel), hround, hreached.1 (by decide +kernel),
    hpast, mt hstopped.2 (by decide +kernel)⟩

end CodeFlow.Dependency
