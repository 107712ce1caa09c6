/-!
# `CodeFlow.Window.Controls` — the controls of the window

## Contents
- `Entries`, `Entry`: fields for text.
- `Switches`, `Switch`.
- `ButtonLook`: how the run button looks.
- `Controls`.
-/

namespace CodeFlow.Window

/-- The texts of the fields. -/
structure Entries where
  /-- The folder to search. -/
  path : String := ""
  /-- What names have to contain. -/
  base : String := ""
  /-- What the names of diagrams begin with. -/
  output : String := "Diagrama"
  /-- The extensions of source files, divided by commas. -/
  exts : String := "py"
  /-- The least number. -/
  first : String := "91"
  /-- The greatest number. -/
  last : String := "120"
deriving Repr, DecidableEq

/-- A field for text. -/
inductive Entry where
  | path
  | base
  | output
  | exts
  | first
  | last
deriving Repr, DecidableEq

/-- Puts a text in a field. -/
def Entries.put (e : Entries) (text : String) : Entry → Entries
  | .path => { e with path := text }
  | .base => { e with base := text }
  | .output => { e with output := text }
  | .exts => { e with exts := text }
  | .first => { e with first := text }
  | .last => { e with last := text }

/-- Which switches are on. -/
structure Switches where
  /-- Files begin with a number. -/
  numberFirst : Bool := false
  /-- Numbers have to lie in the range. -/
  useRange : Bool := false
  /-- Folders inside the folder are searched. -/
  recursive : Bool := true
  /-- Nothing is posted or written. -/
  simulate : Bool := false
  /-- The folder is opened at the end. -/
  openAfter : Bool := true
deriving Repr, DecidableEq

/-- A switch. -/
inductive Switch where
  | numberFirst
  | useRange
  | recursive
  | simulate
  | openAfter
deriving Repr, DecidableEq

/-- Turns a switch on or off. -/
def Switches.turn (s : Switches) (on : Bool) : Switch → Switches
  | .numberFirst => { s with numberFirst := on }
  | .useRange => { s with useRange := on }
  | .recursive => { s with recursive := on }
  | .simulate => { s with simulate := on }
  | .openAfter => { s with openAfter := on }

/-- How the run button looks. -/
structure ButtonLook where
  /-- Whether it can be pressed. -/
  enabled : Bool
  /-- What is written on it. -/
  text : String
deriving Repr, DecidableEq

/-- The button while a run is going on. -/
def ButtonLook.busy : ButtonLook := ⟨false, "Procesando..."⟩

/-- The button before and after a run. -/
def ButtonLook.ready : ButtonLook := ⟨true, "GENERAR DIAGRAMAS"⟩

/-- The controls of the window. -/
structure Controls where
  /-- The fields. -/
  entries : Entries := {}
  /-- The switches. -/
  switches : Switches := {}
  /-- The engine as it is chosen. -/
  engine : String := "Graphviz (Más detalle)"
  /-- How the run button was made to look, in order. -/
  button : List ButtonLook := []
deriving Repr, DecidableEq

end CodeFlow.Window
