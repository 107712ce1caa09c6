import CodeFlow.Window.Detect
import CodeFlow.Window.Run

/-!
# `CodeFlow.Window.Operation` — what can be done with the window
-/

namespace CodeFlow.Window

open Files

/-- Something done with the window. -/
inductive Operation where
  /-- Types a text into a field. -/
  | enter (e : Entry) (text : String)
  /-- Turns a switch. -/
  | turn (s : Switch) (on : Bool)
  /-- Chooses an engine. -/
  | choose (engine : String)
  /-- Chooses a folder. -/
  | browse (folder : String)
  | detect (folder : String)
  | run
  | click
  | clear
  | print (text : String)
  /-- Opens a folder. -/
  | launch (path : String)
  /-- Files are put into the tree from the outside. -/
  | place (entries : List (String × Files.Entry))

/-- Does it. -/
def Operation.perform : Operation → Task Unit
  | .enter e text => setEntry e text
  | .turn switch on =>
    modify fun s =>
      { s with controls := { s.controls with switches := s.controls.switches.turn on switch } }
  | .choose engine => modify fun s => { s with controls := { s.controls with engine := engine } }
  | .browse folder => Window.browse folder
  | .detect folder => Window.detect folder
  | .run => do let _ ← Window.run
  | .click => do let _ ← Window.click
  | .clear => clearLog
  | .print text => say text
  | .launch path => openFolder path
  | .place entries =>
    modify fun s => { s with workspace := { s.workspace with files := s.workspace.files.build entries } }

end CodeFlow.Window
