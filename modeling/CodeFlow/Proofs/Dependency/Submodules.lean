import Mathlib
import CodeFlow.Proofs.Dependency
import CodeFlow.Proofs.Source.Parser

/-!
# `CodeFlow.Proofs.Dependency.Submodules` — names that are imported from a package

`from package import part` may mean a file `part` in the folder of the package. The search never looks at the names
that are imported: of such a statement it follows the module alone, and of that the first part, or the whole of it
where no points stand before it. So a file in the folder is not found on account of the statement, unless it is the
one that makes the folder a package; it is found if the search starts from it or some other import leads to it.

## Contents
- `Stmt.fromImport?`: statements that import names.
- `moduleFolder`, `submodule`: the folder of a module, and a file in it.
- `leadsTo_submodule_iff`: the statements that lead there themselves.
- `submodule_found_iff`, and `packaged`, of which a file is not found.
-/

namespace CodeFlow

/-! ## Statements -/

namespace Source

/-- The module and the names of a statement that imports names. -/
def Stmt.fromImport? : Stmt → Option (Nat × Option String × List Alias)
  | .importFrom level module names => some (level, module, names)
  | _ => none

theorem eq_of_fromImport? {s : Stmt} {level : Nat} {module : Option String} {names : List Alias}
    (h : s.fromImport? = some (level, module, names)) : s = .importFrom level module names := by
  cases s <;> simp_all [Stmt.fromImport?]

end Source

namespace Dependency

open Files Source DepthFirst

/-! ## Files in the folder of a module -/

/-- The parts of the name of a module; none if there are only points. -/
def partsOf (module : Option String) : List String := (module.map moduleParts).getD []

/-- The folder that the module of an import stands for. -/
def moduleFolder (root : Route) (file : Location) (level : Nat) (module : Option String) : Route :=
  (if level = 0 then root else ⟨pointFolder file.up level, []⟩).add (partsOf module)

/-- Where a name that is imported lies, if it is a file in the folder of the module. -/
def submodule (root : Route) (file : Location) (level : Nat) (module : Option String) (name : String) : Route :=
  (moduleFolder root file level module).add [moduleFile name]

/-- Names lead into folders. -/
theorem location_add {names : List String} (h : ∀ n ∈ names, IsInner n) (r : Route) :
    (r.add names).location = { r.location with names := r.location.names ++ names } := by
  have henter : ∀ l : Location, names.foldl Location.enter l = names.foldl Location.child l := by
    intro l
    refine List.foldl_ext _ _ _ fun l n hn => ?_
    exact enter_of_isInner (h n hn) l
  rw [Route.location, Route.add, List.foldl_append, henter, FileTree.foldl_child]
  rfl

theorem location_add_inj {xs ys : List String} (hxs : ∀ n ∈ xs, IsInner n) (hys : ∀ n ∈ ys, IsInner n)
    (r : Route) : (r.add xs).location = (r.add ys).location ↔ xs = ys := by
  rw [location_add hxs, location_add hys, Location.mk.injEq]
  simp

theorem moduleFile_eq_packageFile {name : String} : moduleFile name = packageFile ↔ name = "__init__" := by
  constructor
  · intro h
    have hpackage : packageFile = "__init__" ++ ".py" := by decide
    rw [moduleFile, hpackage] at h
    exact String.append_left_inj _ |>.1 h
  · rintro rfl
    decide

variable {level : Nat} {module : Option String} {names : List Alias}

/-- The parts of a module's name are names of folders. -/
theorem isInner_of_mem_partsOf (h : (Stmt.importFrom level module names).Formed) {part : String}
    (hpart : part ∈ partsOf module) : IsInner part := by
  cases module with
  | none => exact absurd hpart List.not_mem_nil
  | some m =>
      obtain ⟨cs, hcs, rfl⟩ := List.mem_map.1 hpart
      have hne : cs ≠ [] := h.2 m rfl cs hcs
      have hpoint : '.' ∉ cs := Text.not_mem_of_mem_splitOnChar hcs
      refine ⟨?_, ?_, ?_⟩
      · intro heq
        exact hne (by simpa using congrArg String.toList heq)
      · intro heq
        have : cs = ['.'] := by simpa using congrArg String.toList heq
        exact hpoint (by simp [this])
      · intro heq
        have : cs = ['.', '.'] := by simpa using congrArg String.toList heq
        exact hpoint (by simp [this])

/-! ## What a statement leads to -/

/-- There is something where an import of a file may lead, and it is at a given place. -/
def LeadsTo (t : FileTree) (root : Route) (file : Location) (i : Import) (l : Location) : Prop :=
  ∃ c ∈ candidates t root file i, leads t c = true ∧ c.location = l

/-- A route that leads on comes by a folder. -/
theorem leadsToFolder_of_add {t : FileTree} {r : Route} {part : String} (h : leads t (r.add [part]) = true) :
    leadsToFolder t r = true := by
  obtain ⟨m, hm⟩ := leads_iff.1 h
  rw [FileTree.follow, Route.add, FileTree.walk_append] at hm
  cases hwalk : t.walk r.start r.steps with
  | error e => simp [hwalk, Except.bind] at hm
  | ok l =>
      refine leadsToFolder_iff.2 ⟨l, hwalk, ?_⟩
      by_contra hfolder
      have hfile : t.isFolderAt l = false := by simpa using hfolder
      have hstep : t.step l part = .error .notFolder := by
        rw [FileTree.step, hfile]
        rfl
      simp [hwalk, hstep, Except.bind, FileTree.walk] at hm

section Statement

variable {t : FileTree} {root c : Route} {file : Location} {name : String}

/-- Below the folder of a module without points, the search comes by the file of a package at most. -/
theorem add_mem_rootCandidates_iff {parts : List String} (hne : parts ≠ []) (hparts : ∀ n ∈ parts, IsInner n)
    (hleads : leads t (root.add (parts ++ [moduleFile name])) = true) :
    (∃ c ∈ rootCandidates t root parts, leads t c = true ∧
      c.location = (root.add (parts ++ [moduleFile name])).location) ↔ name = "__init__" ∧ parts.length = 1 := by
  obtain ⟨first, rest, rfl⟩ := List.exists_cons_of_ne_nil hne
  have hfirst : IsInner first := hparts first List.mem_cons_self
  have hsub : ∀ n ∈ first :: rest ++ [moduleFile name], IsInner n := by
    rw [List.forall_mem_append, List.forall_mem_singleton]
    exact ⟨hparts, isInner_moduleFile name⟩
  have hpackage : ∀ n ∈ [first, packageFile], IsInner n := by simpa using ⟨hfirst, isInner_packageFile⟩
  constructor
  · rintro ⟨c, hc, -, h⟩
    rcases mem_rootCandidates.1 hc with rfl | ⟨-, rfl | ⟨-, rfl⟩⟩
    · -- the file of the first part is not below it
      have hsteps := (location_add_inj (by simpa using isInner_moduleFile first) hsub root).1 h
      simpa using congrArg List.length hsteps
    · have hsteps := (location_add_inj hpackage hsub root).1 h
      obtain ⟨rfl, hname⟩ : rest = [] ∧ packageFile = moduleFile name := by
        cases rest <;> simp_all
      exact ⟨moduleFile_eq_packageFile.1 hname.symm, rfl⟩
    · -- nor is the file of the whole name
      have hlast : moduleSteps (first :: rest) =
          (first :: rest).dropLast ++ [moduleFile ((first :: rest).getLast hne)] := by
        rw [moduleSteps, List.getLast?_eq_some_getLast hne]
        rfl
      have hwhole : ∀ n ∈ moduleSteps (first :: rest), IsInner n := by
        rw [hlast, List.forall_mem_append, List.forall_mem_singleton]
        exact ⟨fun n hn => hparts n (List.mem_of_mem_dropLast hn), isInner_moduleFile _⟩
      have hlength := congrArg List.length ((location_add_inj hwhole hsub root).1 h)
      rw [hlast] at hlength
      simp at hlength
  · rintro ⟨rfl, hlength⟩
    obtain rfl : rest = [] := by simpa using hlength
    have hinit : moduleFile "__init__" = packageFile := moduleFile_eq_packageFile.2 rfl
    rw [hinit] at hleads ⊢
    have hfolder : leadsToFolder t (root.add [first]) = true := by
      refine @leadsToFolder_of_add t (root.add [first]) packageFile ?_
      rwa [add_add]
    exact ⟨_, mem_rootCandidates.2 (.inr ⟨hfolder, .inl rfl⟩), hleads, rfl⟩

/-- The same with points. -/
theorem add_mem_relativeCandidates_iff (hformed : (Stmt.importFrom level module names).Formed) {folder : Location}
    (hleads : leads t (Route.add ⟨pointFolder folder level, []⟩ (partsOf module ++ [moduleFile name])) = true) :
    (∃ c ∈ relativeCandidates folder ⟨level, module.getD ""⟩, leads t c = true ∧
      c.location = (Route.add ⟨pointFolder folder level, []⟩ (partsOf module ++ [moduleFile name])).location) ↔
      name = "__init__" ∧ module = none := by
  have hsub : ∀ n ∈ partsOf module ++ [moduleFile name], IsInner n := by
    rw [List.forall_mem_append, List.forall_mem_singleton]
    exact ⟨fun n hn => isInner_of_mem_partsOf hformed hn, isInner_moduleFile name⟩
  have hinj : ∀ n, IsInner n → (Route.location ⟨pointFolder folder level, [n]⟩ =
      (Route.add ⟨pointFolder folder level, []⟩ (partsOf module ++ [moduleFile name])).location ↔
        [n] = partsOf module ++ [moduleFile name]) := fun n hn =>
    location_add_inj (by simpa using hn) hsub ⟨pointFolder folder level, []⟩
  cases module with
  | none =>
      constructor
      · rintro ⟨c, hc, -, h⟩
        obtain rfl := List.mem_singleton.1 hc
        have hsteps := (hinj packageFile isInner_packageFile).1 h
        exact ⟨moduleFile_eq_packageFile.1 (List.singleton_inj.1 hsteps).symm, rfl⟩
      · rintro ⟨rfl, -⟩
        have hinit : moduleFile "__init__" = packageFile := moduleFile_eq_packageFile.2 rfl
        rw [hinit] at hleads ⊢
        exact ⟨_, List.mem_singleton.2 rfl, hleads, rfl⟩
  | some m =>
      have hempty : m.isEmpty = false := by
        rw [Bool.eq_false_iff, Ne, String.isEmpty_iff]
        rintro rfl
        exact hformed.2 "" rfl [] (by decide) rfl
      refine iff_of_false ?_ (by simp)
      rintro ⟨c, hc, -, h⟩
      simp only [relativeCandidates, Option.getD_some, hempty, Bool.false_eq_true, if_false, List.mem_singleton] at hc
      subst hc
      have hlength := congrArg List.length ((hinj _ (isInner_moduleFile _)).1 h)
      simp [partsOf, moduleParts_ne_nil] at hlength

/-- The search looks for the file that makes the folder of the module a package: the module is given by points alone,
or by one part without points. -/
def LooksForPackage (level : Nat) (module : Option String) : Prop :=
  level = 0 ∧ (partsOf module).length = 1 ∨ level ≠ 0 ∧ module = none

/-- **A statement leads into the folder of its module only to the file of a package**, and only where the search looks
for that. -/
theorem leadsTo_submodule_iff (hformed : (Stmt.importFrom level module names).Formed)
    (hleads : leads t (submodule root file level module name) = true) :
    LeadsTo t root file ⟨level, module.getD ""⟩ (submodule root file level module name).location ↔
      name = "__init__" ∧ LooksForPackage level module := by
  unfold LeadsTo candidates
  by_cases hlevel : level = 0
  · have hsub : submodule root file level module name = root.add (partsOf module ++ [moduleFile name]) := by
      rw [submodule, moduleFolder, if_pos hlevel, add_add]
    obtain ⟨m, rfl⟩ := Option.ne_none_iff_exists'.1 (hformed.1 hlevel)
    have hparts : ∀ n ∈ moduleParts m, IsInner n := fun n hn => isInner_of_mem_partsOf hformed hn
    rw [hsub] at hleads ⊢
    rw [if_pos hlevel]
    refine (add_mem_rootCandidates_iff (moduleParts_ne_nil m) hparts hleads).trans ?_
    simp [LooksForPackage, hlevel, partsOf]
  · have hsub : submodule root file level module name =
        Route.add ⟨pointFolder file.up level, []⟩ (partsOf module ++ [moduleFile name]) := by
      rw [submodule, moduleFolder, if_neg hlevel, add_add]
    rw [hsub] at hleads ⊢
    rw [if_neg hlevel]
    refine (add_mem_relativeCandidates_iff hformed hleads).trans ?_
    simp [LooksForPackage, hlevel]

end Statement

/-! ## What is found -/

/-- A file is found if the search starts from it or a file that is found imports it. -/
theorem mem_found_iff {t : FileTree} {file : String} {root : Option String} {l : Location} :
    l ∈ (resolve t file root []).found ↔
      placeOf file = l ∨ ∃ k ∈ (resolve t file root []).found, Imports t (rootOf file root) k l := by
  have hdeep : unmet t ([] ++ [placeOf file]) < t.entries.length + 2 := by
    have := unmet_le t ([] ++ [placeOf file])
    omega
  obtain ⟨out, hall, hlists⟩ := @exists_visit t (rootOf file root) (root.all isPlain) (t.entries.length + 2) []
    (placeOf file) (.inr hdeep)
  have hfound : (resolve t file root []).found = out := hall
  have hreached : ∀ {l}, l ∈ out ↔
      Relation.ReflTransGen (fun a b => b ∈ neighbours t (rootOf file root) a) (placeOf file) l := by
    intro l
    rw [hlists.mem_iff]
    simp [Reaches]
  rw [hfound]
  constructor
  · intro hl
    rcases Relation.ReflTransGen.cases_tail (hreached.1 hl) with heq | ⟨k, hk, hstep⟩
    · exact .inl heq.symm
    · exact .inr ⟨k, hreached.2 hk, mem_neighbours.1 hstep⟩
  · rintro (rfl | ⟨k, hk, himports⟩)
    · exact hreached.2 .refl
    · exact hreached.2 ((hreached.1 hk).tail (mem_neighbours.2 himports))

/-- **A file in the folder of a module is not found because a name is imported from there.** Let names be imported
from a module by a program that is found, and let one of them be a file in the folder of that module. The statement
leads to it only if it is the file of a package and the search looks for that. Otherwise the file is found exactly if
the search starts from it or another import, in this program or in another one that is found, leads to it. -/
theorem submodule_found_iff {t : FileTree} {file : String} {root : Option String} {user : Location} {body : List Stmt}
    (huser : user ∈ (resolve t file root []).found) (hparse : (t.readTextAt? user).bind parse? = some body)
    (hinside : Inside body (.importFrom level module names)) :
    let found := (resolve t file root []).found
    ∀ a ∈ names, leads t (submodule (rootOf file root) user level module a.name) = true →
      ((submodule (rootOf file root) user level module a.name).location ∈ found ↔
        a.name = "__init__" ∧ LooksForPackage level module ∨
        placeOf file = (submodule (rootOf file root) user level module a.name).location ∨
        ∃ other ∈ found, ∃ i ∈ fileImports t other, (other, i) ≠ (user, ⟨level, module.getD ""⟩) ∧
          LeadsTo t (rootOf file root) other i (submodule (rootOf file root) user level module a.name).location) := by
  intro found a _ hleads
  have hbody : fileImports t user = imports body := by
    rw [fileImports, hparse]
    rfl
  have hown : ⟨level, module.getD ""⟩ ∈ fileImports t user := by
    rw [hbody]
    exact mem_imports_of_inside hinside (List.mem_singleton.2 rfl)
  obtain ⟨text, -, htext⟩ := Option.bind_eq_some_iff.1 hparse
  have hformed := formed_parse? htext _ hinside
  have hiff := @leadsTo_submodule_iff _ _ _ t (rootOf file root) user a.name hformed hleads
  rw [mem_found_iff]
  simp only [imports_iff]
  constructor
  · rintro (hstart | ⟨other, hother, i, hi, hto⟩)
    · exact .inr (.inl hstart)
    · by_cases hsame : (other, i) = (user, ⟨level, module.getD ""⟩)
      · obtain ⟨rfl, rfl⟩ := Prod.mk.inj hsame
        exact .inl (hiff.1 hto)
      · exact .inr (.inr ⟨other, hother, i, hi, hsame, hto⟩)
  · rintro (hpackage | hstart | ⟨other, hother, i, hi, -, hto⟩)
    · exact .inr ⟨user, huser, _, hown, hiff.2 hpackage⟩
    · exact .inl hstart
    · exact .inr ⟨other, hother, i, hi, hto⟩

/-- A program, and a file in a folder next to it. -/
def packaged (program : String) : FileTree :=
  FileTree.build {} [("main.py", .file (.text program)), ("pkg/helper.py", .file (.text ""))]

/-- The place of that file, for a name imported by the program. -/
def helper : Route := submodule (rootOf "main.py" none) (placeOf "main.py") 0 (some "pkg") "helper"

theorem exists_inside_packaged {program : String}
    (h : (((packaged program).readTextAt? (placeOf "main.py")).bind parse?).any (fun body =>
      body.any fun s => s.fromImport? = some (0, some "pkg", [⟨"helper", none⟩])) = true) :
    ∃ body, ((packaged program).readTextAt? (placeOf "main.py")).bind parse? = some body ∧
      Inside body (.importFrom 0 (some "pkg") [⟨"helper", none⟩]) := by
  obtain ⟨body, hparse, hany⟩ := (Option.any_eq_true _ _).1 h
  obtain ⟨s, hs, himport⟩ := List.any_eq_true.1 hany
  exact ⟨body, hparse, .here (eq_of_fromImport? (of_decide_eq_true himport) ▸ hs)⟩

/-- The file is not found if the program imports its name from the folder, -/
theorem helper_not_found : ∃ body,
    ((packaged "from pkg import helper\n").readTextAt? (placeOf "main.py")).bind parse? = some body ∧
    Inside body (.importFrom 0 (some "pkg") [⟨"helper", none⟩]) ∧
    placeOf "main.py" ∈ (resolve (packaged "from pkg import helper\n") "main.py" none []).found ∧
    (packaged "from pkg import helper\n").get? helper.location = some (.file (.text "")) ∧
    leads (packaged "from pkg import helper\n") helper = true ∧
    helper.location ∉ (resolve (packaged "from pkg import helper\n") "main.py" none []).found := by
  have hchecked : placeOf "main.py" ∈ (resolve (packaged "from pkg import helper\n") "main.py" none []).found ∧
      (packaged "from pkg import helper\n").get? helper.location = some (.file (.text "")) ∧
      leads (packaged "from pkg import helper\n") helper = true ∧
      helper.location ∉ (resolve (packaged "from pkg import helper\n") "main.py" none []).found := by
    decide +kernel
  obtain ⟨body, hparse, hinside⟩ := @exists_inside_packaged "from pkg import helper\n" (by decide +kernel)
  exact ⟨body, hparse, hinside, hchecked⟩

/-- and it is found if the program imports it as a module as well. -/
theorem helper_found : placeOf "main.py" ∈
      (resolve (packaged "import pkg.helper\nfrom pkg import helper\n") "main.py" none []).found ∧
    leads (packaged "import pkg.helper\nfrom pkg import helper\n") helper = true ∧
    helper.location ∈ (resolve (packaged "import pkg.helper\nfrom pkg import helper\n") "main.py" none []).found := by
  have hchecked : placeOf "main.py" ∈
        (resolve (packaged "import pkg.helper\nfrom pkg import helper\n") "main.py" none []).found ∧
      leads (packaged "import pkg.helper\nfrom pkg import helper\n") helper = true ∧
      ⟨0, "pkg.helper"⟩ ∈ fileImports (packaged "import pkg.helper\nfrom pkg import helper\n") (placeOf "main.py") ∧
      helper ∈ candidates (packaged "import pkg.helper\nfrom pkg import helper\n") (rootOf "main.py" none)
        (placeOf "main.py") ⟨0, "pkg.helper"⟩ := by
    decide +kernel
  obtain ⟨hstart, hleads, hmodule, hcandidate⟩ := hchecked
  obtain ⟨body, hparse, hinside⟩ :=
    @exists_inside_packaged "import pkg.helper\nfrom pkg import helper\n" (by decide +kernel)
  refine ⟨hstart, hleads, ?_⟩
  refine (submodule_found_iff hstart hparse hinside ⟨"helper", none⟩ (by simp) hleads).2 (.inr (.inr ?_))
  exact ⟨_, hstart, _, hmodule, by simp, helper, hcandidate, hleads, rfl⟩

end Dependency

end CodeFlow
