import CodeFlow.Source.Constant

/-!
# `CodeFlow.Source.Token` — tokens of source code

Lines and blocks show as tokens of their own: the end of a logical line, the begin of an indented block
and its end.

## Contents
- `StringLiteral`, `Identifier`: what tokens hold.
- `Token`, `keywords`, `symbols`.
-/

namespace CodeFlow.Source

/-- A string literal: what its letters in front say, and its characters between the quotes, not yet
decoded. -/
structure StringLiteral where
  /-- Backslashes stand for themselves. -/
  raw : Bool
  /-- The literal denotes bytes. -/
  bytes : Bool
  /-- The literal has fields. -/
  formatted : Bool
  /-- The literal is marked with `u`. -/
  marked : Bool
  /-- The characters between the quotes. -/
  body : List Char
deriving Repr, DecidableEq

/-- A name. It is not empty, and since points part names, it has none. -/
structure Identifier where
  /-- How it is written. -/
  text : String
  /-- It has characters, and no point is among them. -/
  spelled : text.toList ≠ [] ∧ '.' ∉ text.toList
deriving Repr, DecidableEq

/-- The name that is written with some characters, if there is one. -/
def Identifier.ofChars? (t : List Char) : Option Identifier :=
  if h : t ≠ [] ∧ '.' ∉ t then some ⟨String.ofList t, by rwa [String.toList_ofList]⟩ else none

/-- A token. -/
inductive Token where
  | name (id : Identifier)
  | keyword (word : String)
  | number (value : Constant)
  | string (literal : StringLiteral)
  | symbol (text : String)
  | lineEnd
  | indent
  | dedent
  | textEnd
deriving Repr, DecidableEq

/-- The words that are no names. -/
def keywords : List String :=
  ["False", "None", "True", "and", "as", "assert", "async", "await", "break", "class", "continue",
    "def", "del", "elif", "else", "except", "finally", "for", "from", "global", "if", "import", "in",
    "is", "lambda", "nonlocal", "not", "or", "pass", "raise", "return", "try", "while", "with",
    "yield"]

/-- The operators and delimiters, the longest first. -/
def symbols : List String :=
  ["**=", "//=", ">>=", "<<=", "...", "!=", "%=", "&=", "**", "*=", "+=", "-=", "->", "//", "/=",
    ":=", "<<", "<=", "<>", "==", ">=", ">>", "@=", "^=", "|=", "%", "&", "(", ")", "*", "+", ",",
    "-", ".", "/", ":", ";", "<", "=", ">", "@", "[", "]", "^", "\x7b", "|", "\x7d", "~"]

end CodeFlow.Source
