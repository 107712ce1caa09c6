import CodeFlow.Files.Access
import CodeFlow.Source.Imports
import CodeFlow.Source.Parser

/-!
# `CodeFlow.Dependency` — the files a file imports

An import stands for files below the root of a project, or near the importing file if points stand before
its name. The dependencies of a file are itself and, one after the other, those of the files it imports;
a file that was met before is not listed again.

## Contents
- `candidates`: where an import may lead.
- `fileImports`: the imports of a file.
- `isPlain`, `visit`: all files reached from a file, each before those it imports.
- `Answer`, `resolve`.
-/

namespace CodeFlow.Dependency

open Files Source Text

/-- The parts of the name of a module. -/
def moduleParts (module : String) : List String :=
  (splitOnChar '.' module.toList).map String.ofList

/-- The file of a module. -/
def moduleFile (part : String) : String := part ++ ".py"

/-- The file that makes a folder a package. -/
def packageFile : String := "__init__.py"

/-- Where the file of a module lies below a folder: the parts before the last are folders. -/
def moduleSteps (parts : List String) : List String :=
  parts.dropLast ++ (parts.getLast?.map moduleFile).toList

/-- Whether a route leads somewhere. -/
def leads (t : FileTree) (r : Route) : Bool := (t.follow r).toOption.isSome

/-- Whether a route leads to a folder. -/
def leadsToFolder (t : FileTree) (r : Route) : Bool := (t.follow r).toOption.any t.isFolderAt

/-- Where an import without points may lead: the file of the first part of its name; if that part is a
folder, also its package file, and the file of the whole name if it has several parts. -/
def rootCandidates (t : FileTree) (root : Route) (parts : List String) : List Route :=
  let first := parts.headD ""
  let package := root.add [first]
  let inside :=
    if leadsToFolder t package then
      package.add [packageFile] :: (if 1 < parts.length then [root.add (moduleSteps parts)] else [])
    else []
  root.add [moduleFile first] :: inside

/-- The folder that points before a name stand for: the first is the folder of the file, each other one
goes up. -/
def pointFolder (folder : Location) : Nat → Location
  | 0 => folder
  | 1 => folder
  | n + 2 => (pointFolder folder (n + 1)).up

/-- Where an import with points may lead. -/
def relativeCandidates (folder : Location) (i : Import) : List Route :=
  let file := if i.module.isEmpty then packageFile else moduleFile ((moduleParts i.module).headD "")
  [⟨pointFolder folder i.level, [file]⟩]

/-- Where an import of a file may lead. -/
def candidates (t : FileTree) (root : Route) (file : Location) (i : Import) : List Route :=
  if i.level = 0 then rootCandidates t root (moduleParts i.module) else relativeCandidates file.up i

/-- The imports of a file; none if it cannot be read as a program. -/
def fileImports (t : FileTree) (file : Location) : List Import :=
  (((t.readTextAt? file).bind parse?).map imports).getD []

/-- Whether a folder is written as its place is: from the root on and without detours. A slash behind it is none. -/
def isPlain (folder : String) : Bool :=
  let steps := (Route.ofText folder).steps
  isAbsolute folder && (if steps.getLast? = some "" then steps.dropLast else steps).all (IsInner ·)

/-- Adds a file and all it leads to, to those that were met. Where an import leads to is passed over if its path is
written as that of a file that was met, for which the folder it starts from has to be written so. The first number
bounds how deep the search goes. -/
def visit (t : FileTree) (root : Route) (plain : Bool) : Nat → List Location → Location → List Location
  | 0, met, _ => met
  | n + 1, met, file =>
    if file ∈ met then met
    else
      (fileImports t file).foldl (fun met i =>
        (candidates t root file i).foldl (fun met c =>
          let passed := (plain || i.level ≠ 0) && c.location ∈ met
          if leads t c && !passed then visit t root plain n met c.location else met) met) (met ++ [file])

/-- What is found: the dependencies in order, and all files that were met. -/
structure Answer where
  /-- The files found, each before those it imports. -/
  found : List Location
  /-- The files met before and those found. -/
  met : List Location
deriving Repr, DecidableEq

/-- Finds the dependencies of a file. Without a root, the folder of the file is the root. -/
def resolve (t : FileTree) (file : String) (root : Option String) (met : List Location) : Answer :=
  let start := placeOf file
  let route := (root.map Route.ofText).getD ⟨start.up, []⟩
  let all := visit t route (root.all isPlain) (t.entries.length + 2) met start
  ⟨all.drop met.length, all⟩

end CodeFlow.Dependency
