import CodeFlow.Job
import CodeFlow.Window.Session

/-!
# `CodeFlow.Window.Run` — making the diagrams of a folder

A run reads the controls, searches the folder and makes a diagram per seed. Whatever happens, the run
button is ready again at the end.

## Contents
- `folderOf`, `engineOf`, `rangeOf?`, `extensionOf?`: what the controls say.
- `runBody`, `run`, `click`.
-/

namespace CodeFlow.Window

open Files Text Selection

/-! ## What the controls say -/

/-- A text without blanks around it. -/
def trimmed (text : String) : String := String.ofList (strip text.toList)

/-- The folder of the program itself, which is searched if no other is given. -/
def ownFolder : String := join working "gui"

/-- The folder to search. -/
def folderOf (e : Entries) : String :=
  let path := trimmed e.path
  if path.isEmpty then ownFolder else path

/-- What the names of diagrams begin with. -/
def outputOf (e : Entries) : String :=
  let output := trimmed e.output
  if output.isEmpty then "Diagrama" else output

/-- The engine of a choice. -/
def engineOf (choice : String) : String :=
  if occurs "Graphviz".toList choice.toList then "graphviz" else Diagram.chartEngine

/-- A bound of the range; an empty field gives none. The outer option is empty if the field does not hold
a number. -/
def boundOf? (text : String) : Option (Option Int) :=
  let t := strip text.toList
  if t.isEmpty then some none else (readInt? t).map some

/-- The range, if it is used. Empty if a field does not hold a number. -/
def rangeOf? (c : Controls) : Option (Option Int × Option Int) :=
  if c.switches.useRange then do
    let first ← boundOf? c.entries.first
    let last ← boundOf? c.entries.last
    return (first, last)
  else some (none, none)

/-- A bound as it is reported. -/
def boundText (b : Option Int) : String := (b.map toString).getD "None"

/-- The extension that the name filter brings along, without points. -/
def extensionOf? (base : String) : Option String :=
  let ext := (splitExtensionChars base.toList).2
  if ext.isEmpty then none else some (String.ofList (ext.filter (· != '.')))

/-! ## Runs -/

/-- Takes over the extension that the name filter brings along. -/
def takeExtension (base : String) : Task Unit :=
  match extensionOf? base with
  | some ext => setEntry .exts ext
  | none => return ()

/-- Says what a run is about to do. -/
def announce (folder : String) (f : NameFilter) (simulate : Bool) : Task Unit := do
  say "\n--- INICIANDO PROCESO ---"
  say ("Carpeta: " ++ folder)
  say ("Config: Base='" ++ f.base ++ "', Rango=" ++ boundText f.first ++ "-" ++ boundText f.last ++
    ", Simulación=" ++ (if simulate then "1" else "0"))

/-- Makes the diagrams of seeds. -/
def performSeeds (settings : Job.Settings) (seeds : List String) : Task (List Job.Product) :=
  if seeds.isEmpty then do
    say "No se encontraron archivos que coincidan con los criterios."
    return []
  else act (Job.performGroups settings (groups seeds))

/-- Searches a folder that there is and makes its diagrams. The folder is opened at the end if that is
wanted. -/
def processFolder (folder : String) (f : NameFilter) (c : Controls) : Task (List Job.Product) := do
  takeExtension f.base
  let s ← get
  let exts := extensions s.controls.entries.exts
  match seeds s.workspace.files exts c.switches.recursive f folder with
  | .error e =>
    say ("\nERROR CRÍTICO: " ++ e.message)
    return []
  | .ok paths =>
    let settings : Job.Settings :=
      { exts := exts, output := outputOf c.entries, engine := engineOf c.engine
        simulate := c.switches.simulate }
    let made ← performSeeds settings paths
    if c.switches.openAfter && !c.switches.simulate then openFolder folder
    return made

/-- A run up to its end, with the controls and the files as they are before it. -/
def runBody (c : Controls) (files : FileTree) : Task (List Job.Product) := do
  match rangeOf? c with
  | none =>
    say "Error: Los rangos deben ser números enteros."
    showButton .ready
    return []
  | some (first, last) =>
    let folder := folderOf c.entries
    let f : NameFilter := ⟨trimmed c.entries.base, first, last⟩
    announce folder f c.switches.simulate
    if files.hasPath folder then processFolder folder f c
    else
      say ("Error: La carpeta '" ++ folder ++ "' no existe.")
      showButton .ready
      return []

/-- Runs, and gives the diagrams that were made. The button is ready at the end. -/
def run : Task (List Job.Product) := do
  let s ← get
  let made ← runBody s.controls s.workspace.files
  showButton .ready
  return made

/-- Presses the run button and waits for the end. -/
def click : Task (List Job.Product) := do
  showButton .busy
  run

end CodeFlow.Window
