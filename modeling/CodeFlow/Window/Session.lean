import CodeFlow.Resource
import CodeFlow.Window.Controls
import CodeFlow.Workspace

/-!
# `CodeFlow.Window.Session` — the window and what it acts on

## Contents
- `Launcher`, `Launch`: opening folders.
- `Session`, `Task`: the state of a session and what is done in it.
- `start`: a new window.
- `openFolder`, `clearLog`.
-/

namespace CodeFlow.Window

open Files

/-- What opens folders. -/
structure Launcher where
  /-- The name of the system. -/
  system : String := "Linux"
  /-- Why opening fails, if it does. -/
  failure : Option String := none
deriving Repr, DecidableEq

/-- A folder that was opened: how and which. -/
structure Launch where
  /-- The command. -/
  command : String
  /-- The path. -/
  path : String
deriving Repr, DecidableEq

/-- The command that opens folders on a system. -/
def Launcher.command (l : Launcher) : String :=
  if l.system = "Windows" then "startfile"
  else if l.system = "Darwin" then "open"
  else "xdg-open"

/-- The state of a session. -/
structure Session where
  /-- What the program acts on. -/
  workspace : Workspace := {}
  /-- The controls. -/
  controls : Controls := {}
  /-- What opens folders. -/
  launcher : Launcher := {}
  /-- The folders that were opened, in order. -/
  launches : List Launch := []

/-- Something done in a session. -/
abbrev Task := StateM Session

/-- Does what concerns the workspace alone. -/
def act {α : Type} (a : Work α) : Task α := fun s =>
  let (value, workspace) := a.run s.workspace
  (value, { s with workspace := workspace })

/-- Prints a line. -/
def say (text : String) : Task Unit := act (Work.print text)

/-- Puts a text in a field. -/
def setEntry (e : Entry) (text : String) : Task Unit :=
  modify fun s => { s with controls := { s.controls with entries := s.controls.entries.put text e } }

/-- Changes how the run button looks. -/
def showButton (look : ButtonLook) : Task Unit :=
  modify fun s => { s with controls := { s.controls with button := s.controls.button ++ [look] } }

/-- Opens a folder. -/
def openFolder (path : String) : Task Unit := do
  let s ← get
  match s.launcher.failure with
  | some reason => say ("Error abriendo carpeta: " ++ reason)
  | none => modify fun s => { s with launches := s.launches ++ [⟨s.launcher.command, path⟩] }

/-- Empties the log. -/
def clearLog : Task Unit :=
  modify fun s =>
    let terminal := { s.workspace.terminal with box := s.workspace.terminal.box.map (·.clear) }
    { s with workspace := { s.workspace with terminal := terminal } }

/-- The file of the icon. -/
def iconPath : String := Resource.path none "imagen.ico"

/-- Shows the icon, if there is one. A failure is printed. -/
def showIcon (w : Workspace) (failure : Option String) : Workspace :=
  match failure with
  | some reason =>
    if w.files.hasPath iconPath then
      { w with terminal := w.terminal.print ("No se pudo cargar el icono: " ++ reason) }
    else w
  | none => w

/-- Opens the window: the icon is shown, and from then on printed text goes to the log. -/
def start (w : Workspace) (launcher : Launcher) (iconFailure : Option String) : Session :=
  let w := showIcon w iconFailure
  { workspace := { w with terminal := { w.terminal with box := some { enabled := false } } }
    launcher := launcher }

end CodeFlow.Window
