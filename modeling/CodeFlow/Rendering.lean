import CodeFlow.Workspace

/-!
# `CodeFlow.Rendering` — from diagram texts to files

A diagram text is posted to the service, which gives back the file to write. If the service refuses it,
the text is kept beside the place of the file, to be looked at. In a simulation nothing is posted or
written.

## Contents
- `plainBody`: the text as it is posted.
- `request`, `debugPath`, `receive`.
- `render`.
-/

namespace CodeFlow.Rendering

open Files Work

/-- Whether a character is posted as it is: printable ASCII, the last ASCII character, and line ends and
tabs. -/
def isPlain (c : Char) : Bool :=
  (c.toNat < 128 && 32 ≤ c.toNat) || c == '\n' || c == '\r' || c == '\t'

/-- A text as it is posted: a question mark for every character that is not plain. -/
def plainBody (diagram : String) : String :=
  String.ofList (diagram.toList.map fun c => if isPlain c then c else '?')

/-- The request that posts a diagram. -/
def request (engine diagram : String) : Request where
  url := "https://kroki.io/" ++ engine ++ "/pdf"
  body := plainBody diagram
  timeout := 120
  headers := [("Content-Type", "text/plain; charset=utf-8"), ("X-Kroki-Optimize", "true")]

/-- Where a refused diagram is kept. -/
def debugPath (output : String) : String := output ++ ".debug.dot"

/-- Writes the file that came back. -/
def save (output : String) (content : Content) : Work Bool := do
  match ← write output content with
  | .ok () => return true
  | .error e =>
    print ("    [!] Error guardando archivo PDF: " ++ e.message output)
    return false

/-- Keeps a refused diagram. -/
def keepRefused (diagram output : String) : Work Unit := do
  match ← write (debugPath output) (.text diagram) with
  | .ok () => print ("    [DEBUG] Código del diagrama guardado en: " ++ debugPath output)
  | .error _ => return ()

/-- Takes the reply to a diagram. -/
def receive (diagram output : String) : Reply → Work Bool
  | .response 200 content => save output content
  | .response status _ => do
    print ("    [!] Kroki returned status " ++ toString status)
    keepRefused diagram output
    return false
  | .failure reason => do
    print ("    [!] Error de conexión con Kroki: " ++ reason)
    return false

/-- Posts a diagram and writes what comes back. -/
def send (engine diagram output : String) : Work Bool := do
  print ("    [DEBUG] Enviando " ++ toString diagram.length ++ " chars a Kroki (endpoint /pdf)...")
  receive diagram output (← post (request engine diagram))

/-- Renders a diagram into a file, and tells whether that succeeded. -/
def render (simulate : Bool) (engine diagram output : String) : Work Bool := do
  handOver ⟨diagram, output⟩
  if simulate then
    print ("    [SIMULACIÓN] Generando PDF en: " ++ output)
    return true
  else send engine diagram output

end CodeFlow.Rendering
