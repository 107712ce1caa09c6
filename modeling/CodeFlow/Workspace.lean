import CodeFlow.Draws
import CodeFlow.Files.Access
import CodeFlow.Service
import CodeFlow.Terminal

/-!
# `CodeFlow.Workspace` — what the program acts on

Files and what goes wrong with them, the rendering service, the numbers to hand out and the terminal, as one value
that the program changes. It also keeps what was handed over to be rendered and what was posted.
-/

namespace CodeFlow

open Files

/-- A diagram that is handed over to be rendered. -/
structure Handover where
  /-- The text of the diagram. -/
  diagram : String
  /-- The path of the file that it is rendered into. -/
  path : String
deriving Repr, DecidableEq

/-- The mishaps of the files that are written next; there are none when they are used up. -/
structure Storage where
  /-- What goes wrong with each file, in order. -/
  mishaps : List (Option Mishap) := []

/-- Takes what goes wrong with the next file. -/
def Storage.next (s : Storage) : Option Mishap × Storage := (s.mishaps.head?.join, ⟨s.mishaps.tail⟩)

/-- What the program acts on. -/
structure Workspace where
  /-- Files and folders. -/
  files : FileTree := {}
  /-- What goes wrong with files that are written. -/
  storage : Storage := {}
  /-- The rendering service. -/
  service : Service := {}
  /-- Step numbers and drawn numbers. -/
  supply : Supply := {}
  /-- Printed text. -/
  terminal : Terminal := {}
  /-- What was handed over to be rendered, in order. -/
  handovers : List Handover := []
  /-- What was posted, in order. -/
  requests : List Request := []

/-- Something done in a workspace. -/
abbrev Work := StateM Workspace

namespace Work

/-- Prints a line. -/
def print (text : String) : Work Unit :=
  modify fun w => { w with terminal := w.terminal.print text }

/-- Hands a diagram over to be rendered. -/
def handOver (h : Handover) : Work Unit :=
  modify fun w => { w with handovers := w.handovers ++ [h] }

/-- Posts a request and takes the reply. -/
def post (r : Request) : Work Reply := fun w =>
  let (reply, service) := w.service.next
  (reply, { w with service := service, requests := w.requests ++ [r] })

/-- Writes a file. -/
def write (path : String) (content : Content) : Work (Except WriteError Unit) := fun w =>
  let (mishap, storage) := w.storage.next
  let (result, files) := w.files.write path content mishap
  (result, { w with files := files, storage := storage })

/-- Does what only uses up numbers. -/
def charting {α : Type} (a : StateM Supply α) : Work α := fun w =>
  let (value, supply) := a.run w.supply
  (value, { w with supply := supply })

end Work

end CodeFlow
