import CodeFlow.Text.CharName
import CodeFlow.Text.Table

/-!
# `CodeFlow.Source.Literal` — the characters that a string literal denotes

A backslash and what follows it stand for a character: line ends, control characters, numbers in octal
or hexadecimal, and names of characters. A backslash before anything else stands for itself.

## Contents
- `escapeAt`: the escape after a backslash in a text, `byteEscapeAt` in bytes.
- `decode`, `decodeText?`, `decodeBytes?`.
-/

namespace CodeFlow.Source.Literal

open Text

/-- The control characters and marks with an escape of their own. -/
def simpleEscape? (c : Char) : Option Nat :=
  match c with
  | '\\' => some 92
  | '\'' => some 39
  | '"' => some 34
  | 'a' => some 7
  | 'b' => some 8
  | 'f' => some 12
  | 'n' => some 10
  | 'r' => some 13
  | 't' => some 9
  | 'v' => some 11
  | _ => none

/-- Whether a character is an octal digit. -/
def isOctal (c : Char) : Bool := '0' ≤ c && c ≤ '7'

/-- A number of exactly `width` hexadecimal digits, and how many characters it takes together with the
letter in front of it. -/
def hexEscape (width : Nat) (t : List Char) : Option (List Nat × Nat) :=
  let digits := t.take width
  let n := Table.valueIn 16 digits
  if digits.length = width ∧ digits.all (fun c => (Table.hexValue? c).isSome) ∧ n ≤ 0x10FFFF then
    some ([n], width + 1)
  else none

/-- The escape that begins after a backslash: the code points it stands for and how many characters of
the text it takes. None if it is malformed. -/
def commonEscape (t : List Char) : Option (List Nat × Nat) :=
  match t with
  | [] => some ([92], 0)
  | '\n' :: _ => some ([], 1)
  | 'x' :: rest => hexEscape 2 rest
  | c :: _ =>
    match simpleEscape? c with
    | some n => some ([n], 1)
    | none =>
      let octal := (t.take 3).takeWhile isOctal
      if octal.isEmpty then some ([92], 0) else some ([Table.valueIn 8 octal], octal.length)

/-- The escape after a backslash in a text; the name of a character stands between braces. -/
def escapeAt (t : List Char) : Option (List Nat × Nat) :=
  match t with
  | 'u' :: rest => hexEscape 4 rest
  | 'U' :: rest => hexEscape 8 rest
  | 'N' :: '\x7b' :: rest =>
    let name := rest.takeWhile (· != '\x7d')
    if name.length < rest.length then
      (CharName.find? name).map fun n => ([n], name.length + 3)
    else none
  | 'N' :: _ => none
  | _ => commonEscape t

/-- The escape after a backslash in bytes. -/
def byteEscapeAt (t : List Char) : Option (List Nat × Nat) :=
  (commonEscape t).map fun (codes, n) => (codes.map (· % 256), n)

/-- Passes over `skip` characters and decodes what follows. -/
def decode (escape : List Char → Option (List Nat × Nat)) : Nat → List Char → Option (List Nat)
  | _, [] => some []
  | skip + 1, _ :: rest => decode escape skip rest
  | 0, c :: rest =>
    if c = '\\' then do
      let (codes, taken) ← escape rest
      (decode escape taken rest).map (codes ++ ·)
    else (decode escape 0 rest).map (c.toNat :: ·)

/-- The code points of a text literal. -/
def decodeText? (raw : Bool) (body : List Char) : Option (List Nat) :=
  if raw then some (body.map (·.toNat)) else decode escapeAt 0 body

/-- The bytes of a bytes literal, which may only hold ASCII characters. -/
def decodeBytes? (raw : Bool) (body : List Char) : Option (List Nat) :=
  if body.any (128 ≤ ·.toNat) then none
  else if raw then some (body.map (·.toNat))
  else decode byteEscapeAt 0 body

end CodeFlow.Source.Literal
