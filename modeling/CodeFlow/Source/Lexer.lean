import CodeFlow.Source.Number
import CodeFlow.Source.Token
import CodeFlow.Text.Compatibility
import CodeFlow.Text.NameChar
import CodeFlow.Text.Newline

/-!
# `CodeFlow.Source.Lexer` — source text as tokens

A text is cut into tokens from left to right. Line ends inside brackets, blank lines and comments do
not count; the margins of the other lines open and close blocks.

## Contents
- Names, strings and symbols: `readWord`, `readString`, `readSymbol`.
- Margins: `margin`, `enterLine`.
- `scan`, `tokens?`.
-/

namespace CodeFlow.Source.Lexer

open Text Number

/-! ## Names and strings -/

/-- Whether a character can begin a name; letters beyond ASCII are checked later. -/
def beginsName (c : Char) : Bool := goesOn c && !('0' ≤ c && c ≤ '9')

/-- Whether a word made of name characters is a name. -/
def isName (word : List Char) : Bool :=
  match word with
  | [] => false
  | c :: rest =>
    (c.toNat < 128 || startsName c) && rest.all fun d => d.toNat < 128 || inName d

/-- `closeString mark triple t` is the body of a string that is open at the begin of `t`, and what
follows its closing quotes. A character after a backslash never closes; a line end is only allowed
between triple quotes. -/
def closeString (mark : Char) (triple : Bool) : List Char → Option (List Char × List Char)
  | [] => none
  | '\\' :: c :: rest =>
    (closeString mark triple rest).map fun (body, after) => ('\\' :: c :: body, after)
  | c :: rest =>
    if c = mark ∧ !triple then some ([], rest)
    else if c = mark ∧ [mark, mark].isPrefixOf rest then some ([], rest.drop 2)
    else if c = '\\' ∨ (c = '\n' ∧ !triple) then none
    else (closeString mark triple rest).map fun (body, after) => (c :: body, after)

/-- The letters that may stand in front of a string. -/
def stringLetters : List (List Char) :=
  [[], ['b'], ['r'], ['u'], ['f'], ['b', 'r'], ['r', 'b'], ['f', 'r'], ['r', 'f']]

/-- Reads a string after its letters, where `t` begins with the quote `mark`. -/
def readString (letters : List Char) (mark : Char) (t : List Char) :
    Option (Token × List Char) := do
  let triple := [mark, mark, mark].isPrefixOf t
  let (body, rest) ← closeString mark triple (t.drop (if triple then 3 else 1))
  let has (c : Char) : Bool := letters.any fun l => l.toLower == c
  some (.string ⟨has 'r', has 'b', has 'f', letters.head? == some 'u', body⟩, rest)

/-- Whether a text begins with a quote. -/
def beginsQuote : List Char → Option Char
  | '\'' :: _ => some '\''
  | '"' :: _ => some '"'
  | _ => none

/-- Reads a name, a keyword or a string with letters in front. -/
def readWord (t : List Char) : Option (Token × List Char) :=
  let word := t.takeWhile goesOn
  let rest := t.dropWhile goesOn
  match if stringLetters.contains (word.map (·.toLower)) then beginsQuote rest else none with
  | some mark => readString word mark rest
  | none =>
    if !isName word then none
    else
      let id := String.ofList word
      if keywords.contains id then some (.keyword id, rest)
      else (Identifier.ofChars? (foldName word)).map fun id => (.name id, rest)

/-- Reads an operator or a delimiter. -/
def readSymbol (t : List Char) : Option (Token × List Char) :=
  (symbols.find? fun s => s.toList.isPrefixOf t).map fun s => (.symbol s, t.drop s.length)

/-- Reads a token other than those of lines and blocks. -/
def readToken (t : List Char) : Option (Token × List Char) :=
  match t with
  | [] => none
  | c :: rest =>
    let pointed := c == '.' && (rest.head?.map (isDigitIn 10)).getD false
    if beginsName c then readWord t
    else if isDigitIn 10 c || pointed then
      (readNumber t).map fun (n, after) => (.number n, after)
    else
      match beginsQuote t with
      | some mark => readString [] mark t
      | none => readSymbol t

/-! ## Margins -/

/-- The width of a margin, counted with tab stops at every eight columns and, for comparison, at every
column. -/
structure Margin where
  /-- The width with wide tabs. -/
  wide : Nat
  /-- The width with narrow tabs. -/
  narrow : Nat
deriving Repr, DecidableEq

/-- Measures the margin at the begin of a line. A form feed starts again at zero. A line may be joined
to the next within its margin, and then the first part counts. -/
def margin (wide narrow joined : Nat) : List Char → Option (Margin × List Char)
  | '\\' :: '\n' :: rest =>
    if rest.isEmpty then none else margin wide narrow (if joined = 0 then wide else joined) rest
  | c :: rest =>
    if c = ' ' then margin (wide + 1) (narrow + 1) joined rest
    else if c = '\t' then margin ((wide / 8 + 1) * 8) (narrow + 1) joined rest
    else if c = '\x0c' then margin 0 0 joined rest
    else if c = '\\' then none
    else if joined = 0 then some (⟨wide, narrow⟩, c :: rest)
    else some (⟨joined, joined⟩, c :: rest)
  | [] => if joined = 0 then some (⟨wide, narrow⟩, []) else some (⟨joined, joined⟩, [])

/-- The most blocks that may be open within each other. -/
def maxBlocks : Nat := 100

/-- Closes the blocks with a margin wider than `m`; there must be one with exactly that margin. -/
def closeBlocks (m : Margin) : List Margin → Option (List Token × List Margin)
  | [] => if m = ⟨0, 0⟩ then some ([], []) else none
  | top :: rest =>
    if m.wide < top.wide then
      (closeBlocks m rest).map fun (ts, open_) => (.dedent :: ts, open_)
    else if m = top then some ([], top :: rest)
    else none

/-- The tokens for a line with margin `m` inside open blocks, innermost first, and the blocks that are
open then. Both ways of counting tabs have to agree on the comparison. -/
def enterLine (m : Margin) (blocks : List Margin) : Option (List Token × List Margin) :=
  let top := blocks.headD ⟨0, 0⟩
  if top.wide < m.wide then
    if m.narrow ≤ top.narrow || maxBlocks ≤ blocks.length + 1 then none
    else some ([.indent], m :: blocks)
  else closeBlocks m blocks

/-! ## Scanning -/

/-- What is open while a text is scanned. -/
structure State where
  /-- The margins of the open blocks, innermost first. -/
  blocks : List Margin
  /-- The open brackets, innermost first. -/
  brackets : List String

/-- The most brackets that may be open within each other. -/
def maxBrackets : Nat := 200

/-- Whether a closing bracket fits an opening one. -/
def closes (opening closing : String) : Bool :=
  (opening == "(" && closing == ")") || (opening == "[" && closing == "]") ||
    (opening == "\x7b" && closing == "\x7d")

/-- Follows the brackets. A closing bracket has to fit the innermost open one. -/
def State.follow (s : State) (t : Token) : Option State :=
  match t with
  | .symbol b =>
    if b == "(" || b == "[" || b == "\x7b" then
      if maxBrackets ≤ s.brackets.length then none
      else some { s with brackets := b :: s.brackets }
    else if b == ")" || b == "]" || b == "\x7d" then
      match s.brackets with
      | o :: rest => if closes o b then some { s with brackets := rest } else none
      | [] => none
    else some s
  | _ => some s

/-- Scans with a bound on the number of steps; `fresh` at the begin of a line outside brackets. -/
def scan : Nat → Bool → State → List Char → Option (List Token)
  | 0, _, _, _ => none
  | n + 1, true, s, t => do
    let (m, rest) ← margin 0 0 0 t
    match rest with
    | '\n' :: after => scan n true s after
    | '#' :: after => scan n true s ((after.dropWhile (· != '\n')).drop 1)
    | [] => some (s.blocks.map (fun _ => .dedent) ++ [.textEnd])
    | _ => do
      let (ts, blocks) ← enterLine m s.blocks
      let more ← scan n false { s with blocks := blocks } rest
      some (ts ++ more)
  | n + 1, false, s, t =>
    match t with
    | [] => none
    | '\\' :: '\n' :: rest => if rest.isEmpty then none else scan n false s rest
    | c :: rest =>
      if c = ' ' ∨ c = '\t' ∨ c = '\x0c' then scan n false s rest
      else if c = '#' then scan n false s (rest.dropWhile (· != '\n'))
      else if c = '\n' then
        if s.brackets.isEmpty then (scan n true s rest).map (.lineEnd :: ·)
        else scan n false s rest
      else do
        let (tok, after) ← readToken t
        let s ← s.follow tok
        (scan n false s after).map (tok :: ·)

/-- The tokens of a text. The last line needs no line end; a null character is refused. -/
def tokens? (t : List Char) : Option (List Token) :=
  let t := unifyNewlines t
  let t := if t.getLast? = some '\n' then t else t ++ ['\n']
  if t.any (·.toNat == 0) then none
  else scan (2 * t.length + 2) true ⟨[], []⟩ t

end CodeFlow.Source.Lexer
