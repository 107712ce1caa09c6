import CodeFlow.Text.Blank
import CodeFlow.Text.Search

/-!
# `CodeFlow.Files.Path` — paths as texts and as places

A path is a text whose parts are divided by slashes. Read as a route, it starts at the working folder or
at the root and goes on part by part; a location is a place that such a route leads to.

## Contents
- `join`, `parent`, `name`, `splitExtensionChars`, `isAbsolute`: paths as texts.
- `IsInner`, `IsPart`, `IsFileName`: parts of paths.
- `Location`: a place, by the parts below its anchor; `fullDevice`.
- `Route`: where a path starts and the parts it takes; `placeOf`.
-/

namespace CodeFlow.Files

open Text

/-! ## Texts -/

/-- A path inside a folder. A path that starts at the root stands for itself. -/
def joinChars (folder path : List Char) : List Char :=
  if path.head? = some '/' then path
  else if folder.isEmpty || folder.getLast? = some '/' then folder ++ path
  else folder ++ '/' :: path

/-- A path inside a folder. -/
def join (folder path : String) : String :=
  String.ofList (joinChars folder.toList path.toList)

/-- The part of a path after its last slash. -/
def nameChars (path : List Char) : List Char :=
  (path.reverse.takeWhile (· != '/')).reverse

/-- The part of a path up to its last slash. -/
def headChars (path : List Char) : List Char :=
  dropEndWhile (· != '/') path

/-- The part of a path before its last slashes; slashes alone are the root and stay. -/
def parentChars (path : List Char) : List Char :=
  let head := headChars path
  if head.all (· == '/') then head else dropEndWhile (· == '/') head

/-- The name at the end of a path. -/
def name (path : String) : String := String.ofList (nameChars path.toList)

/-- The folder that a path lies in. -/
def parent (path : String) : String := String.ofList (parentChars path.toList)

/-- A path without its extension, and the extension with its point. Points at the start of the name do
not begin an extension. -/
def splitExtensionChars (path : List Char) : List Char × List Char :=
  let last := nameChars path
  let dots := last.takeWhile (· == '.')
  let rest := last.dropWhile (· == '.')
  if rest.contains '.' then
    let stem := dropEndWhile (· != '.') rest
    (headChars path ++ dots ++ stem.dropLast, '.' :: rest.drop stem.length)
  else (path, [])

/-- How the working folder is written. -/
def working : String := "<cwd>"

/-- Whether a path is written from the root on. -/
def isAbsolute (path : String) : Bool :=
  path.toList.head? = some '/' || path = working || (working.toList ++ ['/']).isPrefixOf path.toList

/-! ## Parts -/

/-- A part of a path that leads into a folder: it is not empty, and not one of the names for a folder itself or
the one above. -/
def IsInner (part : String) : Prop := part ≠ "" ∧ part ≠ "." ∧ part ≠ ".."

instance (part : String) : Decidable (IsInner part) :=
  inferInstanceAs (Decidable (part ≠ "" ∧ part ≠ "." ∧ part ≠ ".."))

/-- A text that names something in a folder. -/
structure IsPart (t : String) : Prop where
  /-- It has no slashes. -/
  slash : '/' ∉ t.toList
  /-- It leads into the folder. -/
  proper : IsInner t

instance (t : String) : Decidable (IsPart t) :=
  decidable_of_iff ('/' ∉ t.toList ∧ IsInner t) ⟨fun h => ⟨h.1, h.2⟩, fun h => ⟨h.slash, h.proper⟩⟩

/-- A name that a file can have: it is not too long. -/
def IsFileName (n : String) : Prop := IsPart n ∧ n.utf8ByteSize ≤ 255

instance (n : String) : Decidable (IsFileName n) := inferInstanceAs (Decidable (IsPart n ∧ n.utf8ByteSize ≤ 255))

/-! ## Places -/

/-- Where the parts of a location are counted from. -/
inductive Anchor where
  /-- The folder so many levels above the working folder. -/
  | above (levels : Nat)
  /-- The root. -/
  | root
deriving Repr, DecidableEq

/-- A place: names below an anchor. -/
structure Location where
  /-- Where the names start. -/
  anchor : Anchor := .above 0
  /-- The names, from the outside in. -/
  names : List String := []
deriving Repr, DecidableEq

namespace Location

/-- The folder above. The root is above itself. -/
def up (l : Location) : Location :=
  match l.names, l.anchor with
  | [], .above n => { l with anchor := .above (n + 1) }
  | [], .root => l
  | _ :: _, _ => { l with names := l.names.dropLast }

/-- A place inside. -/
def child (l : Location) (name : String) : Location := { l with names := l.names ++ [name] }

/-- Takes one part of a path by its spelling alone. -/
def enter (l : Location) (part : String) : Location :=
  if part = "" || part = "." then l else if part = ".." then l.up else l.child part

/-- The parts of the path of a location. -/
def parts (l : Location) : List String :=
  match l.anchor with
  | .above n => List.replicate n ".." ++ l.names
  | .root => "" :: l.names

/-- The path of a location from the working folder. -/
def text (l : Location) : String :=
  if l.parts.isEmpty then working else joinStrings "/" l.parts

theorem up_child (l : Location) (n : String) : (l.child n).up = l := by
  obtain ⟨anchor, names⟩ := l
  cases names with
  | nil => rfl
  | cons x xs =>
      show Location.mk anchor (x :: xs ++ [n]).dropLast = _
      rw [List.dropLast_concat]

end Location

/-- The device that is always full. -/
def fullDevice : Location := ⟨.root, ["dev", "full"]⟩

/-! ## Routes -/

/-- A path as it is walked. -/
structure Route where
  /-- Where the path starts. -/
  start : Location := {}
  /-- The parts, in order. Empty parts come from doubled or closing slashes. -/
  steps : List String := []
deriving Repr, DecidableEq

namespace Route

/-- The route of a path. -/
def ofText (path : String) : Route :=
  match (splitOnChar '/' path.toList).map String.ofList with
  | [] => {}
  | "" :: [] => {}
  | "" :: rest => ⟨{ anchor := .root }, rest⟩
  | first :: rest => if first = working then ⟨{}, rest⟩ else ⟨{}, first :: rest⟩

/-- Goes on into a folder. -/
def add (r : Route) (names : List String) : Route := { r with steps := r.steps ++ names }

/-- The location that a route is spelled for, whatever there is. -/
def location (r : Route) : Location := r.steps.foldl Location.enter r.start

end Route

/-- The place that a path is spelled for. -/
def placeOf (path : String) : Location := (Route.ofText path).location

end CodeFlow.Files
