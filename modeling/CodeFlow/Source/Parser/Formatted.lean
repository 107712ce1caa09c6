import CodeFlow.Source.Expr
import CodeFlow.Source.Literal
import CodeFlow.Source.Token

/-!
# `CodeFlow.Source.Parser.Formatted` — strings with fields

A formatted text alternates between characters and fields in braces. A field holds an expression, and
after it an optional `=`, a conversion and a format, which may hold fields of its own, two levels
deep. Doubled braces stand for single ones outside of formats.

## Contents
- `literalRun`: the characters up to the next field.
- `fieldText`: the text of the expression of a field.
- `parts`, `formatted?`.
- `joinLiterals?`: string literals that stand next to each other.
-/

namespace CodeFlow.Source.Formatted

open Text

/-! ## Characters -/

/-- Where a run of characters ends. -/
inductive RunEnd where
  /-- At a doubled brace, which was taken as a single one. -/
  | doubled
  /-- At a field, at the end of a format, or at the end of the text. -/
  | stopped
deriving DecidableEq

/-- Takes characters up to a brace. `nested` in a format; `raw` if backslashes stand for themselves.
The braces of a character name do not count. A single closing brace outside of a format is refused. -/
def literalRun (raw nested : Bool) : Nat → List Char → Option (List Char × RunEnd × List Char)
  | 0, _ => none
  | n + 1, t =>
    let go (taken rest : List Char) : Option (List Char × RunEnd × List Char) :=
      (literalRun raw nested n rest).map fun (body, stop, after) => (taken ++ body, stop, after)
    let atBrace (front : List Char) (c : Char) (rest : List Char) :
        Option (List Char × RunEnd × List Char) :=
      if nested then some (front, .stopped, c :: rest)
      else if rest.head? = some c then some (front ++ [c], .doubled, rest.drop 1)
      else if c = '\x7d' then none
      else some (front, .stopped, c :: rest)
    match t with
    | [] => some ([], .stopped, [])
    | [c] => if c = '\x7b' ∨ c = '\x7d' then atBrace [] c [] else some ([c], .stopped, [])
    | c :: d :: rest =>
      if c = '\\' ∧ !raw then
        if d = 'N' then
          match rest with
          | '\x7b' :: name =>
            let inside := name.takeWhile (· != '\x7d')
            let taken := name.take (inside.length + 1)
            go ('\\' :: 'N' :: '\x7b' :: taken) (name.drop (inside.length + 1))
          | _ => none
        else if d = '\x7b' ∨ d = '\x7d' then atBrace ['\\'] d rest
        else go [c, d] rest
      else if c = '\x7b' ∨ c = '\x7d' then atBrace [] c (d :: rest)
      else go [c] (d :: rest)

/-! ## Fields -/

/-- Whether a closing bracket fits an opening one. -/
def fits (opening closing : Char) : Bool :=
  (opening == '(' && closing == ')') || (opening == '[' && closing == ']') ||
    (opening == '\x7b' && closing == '\x7d')

/-- `fieldText quote brackets t` is the text of an expression up to the character that ends it, outside
of strings and brackets, and the text from that character on. `quote` is the open string, and whether
it has triple quotes. Backslashes and comments are refused. -/
def fieldText : Option (Char × Bool) → List Char → List Char → Option (List Char × List Char)
  | _, _, [] => none
  | some (mark, triple), brackets, c :: rest =>
    let go (quote : Option (Char × Bool)) : Option (List Char × List Char) :=
      (fieldText quote brackets rest).map fun (e, after) => (c :: e, after)
    if c = '\\' then none
    else if c ≠ mark then go (some (mark, triple))
    else if !triple then go none
    else
      match rest with
      | d :: e :: rest =>
        if d = mark ∧ e = mark then
          (fieldText none brackets rest).map fun (x, after) => (c :: d :: e :: x, after)
        else go (some (mark, triple))
      | _ => go (some (mark, triple))
  | none, brackets, c :: rest =>
    let go (brackets : List Char) : Option (List Char × List Char) :=
      (fieldText none brackets rest).map fun (e, after) => (c :: e, after)
    if c = '\\' ∨ c = '#' then none
    else if c = '\'' ∨ c = '"' then
      let single := (fieldText (some (c, false)) brackets rest).map fun (e, after) => (c :: e, after)
      match rest with
      | d :: e :: rest =>
        if d = c ∧ e = c then
          (fieldText (some (c, true)) brackets rest).map fun (x, after) =>
            (c :: d :: e :: x, after)
        else single
      | _ => single
    else if c = '(' ∨ c = '[' ∨ c = '\x7b' then
      if brackets.length < 200 then go (c :: brackets) else none
    else if brackets.isEmpty ∧ (c = '!' ∨ c = ':' ∨ c = '\x7d' ∨ c = '=' ∨ c = '>' ∨ c = '<') then
      match rest with
      | '=' :: rest =>
        if c = '!' ∨ c = '=' ∨ c = '<' ∨ c = '>' then
          (fieldText none brackets rest).map fun (e, after) => (c :: '=' :: e, after)
        else some ([], c :: '=' :: rest)
      | _ => if c = '>' ∨ c = '<' then go brackets else some ([], c :: rest)
    else if c = ')' ∨ c = ']' ∨ c = '\x7d' then
      match brackets with
      | o :: outer => if fits o c then go outer else none
      | [] => none
    else go brackets

/-- A field: the text that an `=` shows, its value and its format, and what follows it. -/
structure Field where
  /-- The text of the expression, up to the `=` and the blanks after it. -/
  shown : List Char
  /-- The value. -/
  value : Expr
  /-- The conversion. -/
  conversion : Option Conversion
  /-- The format, if there is one. -/
  spec : Option (List FormatPart)

/-- A conversion by its letter. -/
def conversionOf? (c : Char) : Option Conversion :=
  if c = 's' then some .plain else if c = 'r' then some .quoted
  else if c = 'a' then some .ascii else none

/-- Reads a field after its opening brace. `spec` reads a format up to the closing brace. -/
def readField (value : List Char → Option Expr)
    (spec : List Char → Option (List FormatPart × List Char)) (t : List Char) :
    Option (Field × List Char) := do
  let (text, rest) ← fieldText none [] t
  if text.all fun c => c == ' ' || c == '\t' || c == '\n' || c == '\x0c' then none
  let e ← value text
  let (shown, rest) := match rest with
    | '=' :: rest =>
      let isSpace (c : Char) : Bool := c == ' ' || (9 ≤ c.toNat && c.toNat ≤ 13)
      (text ++ '=' :: rest.takeWhile isSpace, rest.dropWhile isSpace)
    | _ => ([], rest)
  let (conversion, rest) ← match rest with
    | '!' :: c :: rest => (conversionOf? c).map fun v => (some v, rest)
    | '!' :: _ => none
    | _ => some (none, rest)
  let (format, rest) ← match rest with
    | ':' :: rest =>
      if rest.isEmpty then none else (spec rest).map fun (parts, rest) => (some parts, rest)
    | _ => some (none, rest)
  let conversion :=
    if !shown.isEmpty ∧ format.isNone ∧ conversion.isNone then some .quoted else conversion
  match rest with
  | '\x7d' :: rest => some (⟨shown, e, conversion, format⟩, rest)
  | _ => none

/-! ## Parts -/

/-- Puts characters in front of parts; characters next to each other are one part. -/
def consChars (codes : List Nat) (parts : List FormatPart) : List FormatPart :=
  if codes.isEmpty then parts
  else
    match parts with
    | .chars more :: rest => .chars (codes ++ more) :: rest
    | _ => .chars codes :: parts

/-- Reads characters and fields up to the end of the text or, in a format, up to its closing brace. -/
def parts (raw nested : Bool) (field : List Char → Option (Field × List Char)) :
    Nat → List Char → Option (List FormatPart × List Char)
  | 0, _ => none
  | n + 1, t => do
    let (body, stop, rest) ← literalRun raw nested (t.length + 1) t
    let codes ← Literal.decodeText? raw body
    if stop = .doubled then
      let (more, rest) ← parts raw nested field n rest
      return (consChars codes more, rest)
    match rest with
    | '\x7b' :: rest =>
      let (f, rest) ← field rest
      let (more, rest) ← parts raw nested field n rest
      let shown := f.shown.map (·.toNat)
      let part := FormatPart.field f.value f.conversion f.spec.isSome (f.spec.getD [])
      return (consChars codes (consChars shown (part :: more)), rest)
    | _ => return (consChars codes [], rest)

/-- The parts of a formatted text, where `value` parses the expressions of its fields. -/
def formatted? (value : List Char → Option Expr) (raw : Bool) (body : List Char) :
    Option (List FormatPart) := do
  let n := body.length + 1
  let innerSpec := parts raw true (fun _ => none) n
  let innerField := readField value innerSpec
  let spec := parts raw true innerField n
  let (result, rest) ← parts raw false (readField value spec) n body
  if rest.isEmpty then some result else none

/-! ## Adjacent literals -/

/-- The parts of one literal that denotes a text. -/
def literalParts? (value : List Char → Option Expr) (l : StringLiteral) :
    Option (List FormatPart) :=
  if l.bytes then none
  else if l.formatted then formatted? value l.raw l.body
  else (Literal.decodeText? l.raw l.body).map fun codes => consChars codes []

/-- Puts parts in front of others. -/
def appendParts : List FormatPart → List FormatPart → List FormatPart
  | [], more => more
  | .chars codes :: rest, more => consChars codes (appendParts rest more)
  | part :: rest, more => part :: appendParts rest more

/-- The parts of all of some literals. -/
def allParts? (value : List Char → Option Expr) : List StringLiteral → Option (List FormatPart)
  | [] => some []
  | l :: rest => do
    let first ← literalParts? value l
    let more ← allParts? value rest
    return appendParts first more

/-- The expression that string literals next to each other denote. Bytes and texts do not mix. -/
def joinLiterals? (value : List Char → Option Expr) (ls : List StringLiteral) : Option Expr :=
  if ls.all (·.bytes) then do
    let codes ← ls.mapM fun l => Literal.decodeBytes? l.raw l.body
    return .constant (.bytes codes.flatten)
  else do
    let all ← allParts? value ls
    if ls.any (·.formatted) then return .formatted all
    else
      let codes := match all with
        | .chars codes :: _ => codes
        | _ => []
      return .constant (.text codes (ls.head?.any (·.marked)))

end CodeFlow.Source.Formatted
