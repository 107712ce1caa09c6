/-!
# `CodeFlow.Terminal` — printed text

What is printed is kept, and shown in a text box once there is one. A box takes changes only while it is
enabled: to show a text, it is enabled, the text goes behind what is there, the end is brought into view,
and the box is disabled again.

## Contents
- `TextBox`, `TextBox.Call`: a box and what is asked of it.
- `TextBox.showText`, `TextBox.clear`: changes of a box that is disabled otherwise.
- `Terminal`, `Terminal.print`.
-/

namespace CodeFlow

/-- A box that shows text. -/
structure TextBox where
  /-- The text shown. -/
  text : String := ""
  /-- Whether the text can be changed. -/
  enabled : Bool := true
deriving Repr, DecidableEq

namespace TextBox

/-- What is asked of a box. -/
inductive Call where
  /-- Enables or disables it. -/
  | configure (enabled : Bool)
  /-- Adds text at the end, marked with a tag. -/
  | insertEnd (text tag : String)
  /-- Brings the end into view. -/
  | seeEnd
deriving Repr, DecidableEq

/-- Does what is asked. A disabled box keeps its text. -/
def perform (b : TextBox) : Call → TextBox
  | .configure enabled => { b with enabled := enabled }
  | .insertEnd text _ => if b.enabled then { b with text := b.text ++ text } else b
  | .seeEnd => b

/-- The tag of printed text. -/
def printTag : String := "stdout"

/-- What is asked to show a text. -/
def showCalls (text tag : String) : List Call :=
  [.configure true, .insertEnd text tag, .seeEnd, .configure false]

/-- Shows a text. -/
def showText (b : TextBox) (text : String) : TextBox := (showCalls text printTag).foldl perform b

/-- Takes the text away. A disabled box keeps it. -/
def deleteAll (b : TextBox) : TextBox := if b.enabled then { b with text := "" } else b

/-- Empties a box: it is enabled, the text is taken away, and it is disabled again. -/
def clear (b : TextBox) : TextBox := (b.perform (.configure true)).deleteAll.perform (.configure false)

end TextBox

/-- Where text is printed. -/
structure Terminal where
  /-- All that was printed. -/
  printed : String := ""
  /-- The box that shows it, once there is one. -/
  box : Option TextBox := none
deriving Repr, DecidableEq

namespace Terminal

/-- Prints a text. -/
def put (t : Terminal) (text : String) : Terminal where
  printed := t.printed ++ text
  box := t.box.map (·.showText text)

/-- Prints a line. -/
def print (t : Terminal) (text : String) : Terminal := (t.put text).put "\n"

end Terminal

end CodeFlow
