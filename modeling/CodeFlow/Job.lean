import CodeFlow.Diagram
import CodeFlow.Selection

/-!
# `CodeFlow.Job` — one diagram per seed

From each seed a diagram is made of the seed and of the files in the folders beside it. Files that cannot
be read or hold nothing but blanks are left out; if none is left, there is no diagram.

## Contents
- `bundle`, `payload`: the files of a diagram and what is read of them.
- `outputName`: the name of the diagram.
- `Settings`, `Product`, `performSeed`, `performGroups`.
-/

namespace CodeFlow.Job

open Files Text Selection Work

/-! ## Files -/

/-- The files with one of some extensions in a folder beside a seed. -/
def filesInside (t : FileTree) (exts : List (List Char)) (folder : String) : List String :=
  if t.isFolder folder then
    ((((t.list folder).toOption).getD []).filter (hasExtension exts)).map (join folder)
  else []

/-- Adds what is not there yet. -/
def addNew (paths : List String) : List String → List String
  | [] => paths
  | p :: rest => addNew (if p ∈ paths then paths else paths ++ [p]) rest

/-- The files of the diagram of a seed: itself and the files in the folders beside it. -/
def bundle (t : FileTree) (exts : List (List Char)) (seed : String) : List String :=
  let folder := parent seed
  let names := ((t.list folder).toOption).getD []
  addNew [seed] (names.flatMap fun n => filesInside t exts (join folder n))

/-- The name and the text of a file; none if it cannot be read or is blank. -/
def part? (t : FileTree) (path : String) : Option (String × String) :=
  match t.readText? path with
  | none => none
  | some code => if (strip code).isEmpty then none else some (name path, String.ofList code)

/-- What is drawn of a bundle. -/
def payload (t : FileTree) (paths : List String) : List (String × String) :=
  paths.filterMap (part? t)

/-- Names and codes as a value to be drawn. -/
def payloadValue (parts : List (String × String)) : Value :=
  .list (parts.map fun (n, c) => .list [.text n, .text c])

/-- The name of the diagram of a seed: with the number of the seed, or else with its name. -/
def outputName (output seed : String) : String :=
  match number? seed with
  | some n => output ++ " " ++ toString n ++ ".pdf"
  | none => output ++ "_" ++ String.ofList (splitExtensionChars (name seed).toList).1 ++ ".pdf"

/-! ## Runs -/

/-- What a run needs to know. -/
structure Settings where
  /-- The extensions of source files. -/
  exts : List (List Char)
  /-- What the names of diagrams begin with. -/
  output : String
  /-- The engine that renders. -/
  engine : String
  /-- Nothing is posted or written. -/
  simulate : Bool

/-- How the diagrams of a run are made. -/
def Settings.options (s : Settings) : Diagram.Options where
  source := { simplify := false, align := true, inner := true }
  engine := s.engine
  theme := some "default"
  simulate := s.simulate

/-- Makes a diagram and reports how that went. -/
def makeDiagram (s : Settings) (parts : List (String × String)) (folder outName : String) :
    Work Unit := do
  match ← Diagram.generate s.options (payloadValue parts) (join folder outName) with
  | .ok true => print ("    [ÉXITO] Hecho -> " ++ outName)
  | .ok false => print ("    [ERROR] Falló la generación (" ++ outName ++ ").")
  | .error _ => return ()

/-- A diagram that was made: its seed and where it goes. -/
structure Product where
  /-- The path of the seed. -/
  seed : String
  /-- The path of the diagram. -/
  path : String
deriving Repr, DecidableEq

/-- Makes the diagram of a seed unless it was met before. Gives the files met after it, and what was
made. -/
def performSeed (s : Settings) (folder : String) (met : List String) (seed : String) :
    Work (List String × Option Product) := do
  if seed ∈ met then return (met, none)
  else
    let t := (← get).files
    let paths := bundle t s.exts seed
    let parts := payload t paths
    if parts.isEmpty then return (met, none)
    else
      let outName := outputName s.output seed
      makeDiagram s parts folder outName
      return (met ++ paths, some ⟨seed, join folder outName⟩)

/-- Makes the diagrams of seeds one after the other. -/
def performSeeds (s : Settings) (folder : String) : List String → List String → Work (List Product)
  | _, [] => return []
  | met, seed :: rest => do
    let (met, made) ← performSeed s folder met seed
    let others ← performSeeds s folder met rest
    return made.toList ++ others

/-- Makes the diagrams of groups one after the other. -/
def performGroups (s : Settings) : List Group → Work (List Product)
  | [] => return []
  | g :: rest => do
    let made ← performSeeds s g.folder [] g.files
    let others ← performGroups s rest
    return made ++ others

end CodeFlow.Job
