import CodeFlow.Text.CharName.Alias
import CodeFlow.Text.CharName.Early
import CodeFlow.Text.CharName.Late
import CodeFlow.Text.CharName.Middle
import CodeFlow.Text.Search
import CodeFlow.Text.Table

/-!
# `CodeFlow.Text.CharName` — characters by their names

Most names are listed in tables. The names of Hangul syllables are put together from the names of their
parts, and some others end in the code point itself.

## Contents
- `searchTable`: names in a table, in any case.
- `codeInName?`: names that end in a code point.
- `syllable?`: Hangul syllables.
- `find?`.
-/

namespace CodeFlow.Text.CharName

/-! ## Tables -/

/-- The number that hexadecimal digits stand for. -/
def hexNumber (digits : List Char) : Nat :=
  digits.foldl (fun n c => 16 * n + (Table.hexValue? c).getD 0) 0

/-- An entry of a table: its code point and the words of its name, where the entry before it has the words
`words` and `next` is the code point after it. -/
def readEntry (next : Nat) (words : List (List Char)) (entry : List Char) :
    Nat × List (List Char) :=
  let entry := entry.filter (· != '\n')
  let code := entry.takeWhile (· != '=')
  let (next, entry) :=
    if code.length < entry.length then (hexNumber code, entry.drop (code.length + 1))
    else (next, entry)
  let shared := ((entry.head?.bind Table.hexValue?).getD 0)
  let more := entry.drop 1
  (next, words.take shared ++ (if more.isEmpty then [] else splitOnChar ' ' more))

/-- Looks for the words of a name among the entries of a table. -/
def searchEntries (target : List (List Char)) :
    Nat → List (List Char) → List (List Char) → Option Nat
  | _, _, [] => none
  | next, words, entry :: rest =>
    let (code, words) := readEntry next words entry
    if words = target then some code else searchEntries target (code + 1) words rest

/-- The code point of a name in a table. -/
def searchTable (table : String) (target : List (List Char)) : Option Nat :=
  searchEntries target 0 [] (splitOnChar ';' table.toList)

/-! ## Names that end in a code point -/

/-- The digits of a code point: at least four, in capitals. -/
def codeDigits (n : Nat) : List Char := (Nat.toDigits 16 n).map (·.toUpper)

/-- The code point at the end of a name that begins with given characters, if it lies in one of some
ranges and is written as it should be. -/
def codeInName? (front : String) (ranges : List (Nat × Nat)) (name : List Char) : Option Nat :=
  if front.toList.isPrefixOf name then
    let digits := name.drop front.length
    let n := hexNumber digits
    if digits = codeDigits n ∧ ranges.any (fun r => r.1 ≤ n && n ≤ r.2) then some n else none
  else none

/-- The unified ideographs. -/
def unifiedRanges : List (Nat × Nat) :=
  [(0x3400, 0x4DBF), (0x4E00, 0x9FFF), (0x20000, 0x2A6DF), (0x2A700, 0x2B738), (0x2B740, 0x2B81D),
    (0x2B820, 0x2CEA1), (0x2CEB0, 0x2EBE0), (0x30000, 0x3134A)]

/-- Names that end in a code point, in any case. -/
def numbered? (name : List Char) : Option Nat :=
  codeInName? "CJK COMPATIBILITY IDEOGRAPH-" [(0xF900, 0xFA6D), (0xFA70, 0xFAD9), (0x2F800, 0x2FA1D)]
    name
  <|> codeInName? "KHITAN SMALL SCRIPT CHARACTER-" [(0x18B00, 0x18CD5)] name
  <|> codeInName? "NUSHU CHARACTER-" [(0x1B170, 0x1B2FB)] name

/-! ## Hangul syllables -/

/-- The names of first sounds. -/
def leads : List String :=
  ["G", "GG", "N", "D", "DD", "R", "M", "B", "BB", "S", "SS", "", "J", "JJ", "C", "K", "T", "P", "H"]

/-- The names of vowels. -/
def vowels : List String :=
  ["A", "AE", "YA", "YAE", "EO", "E", "YEO", "YE", "O", "WA", "WAE", "OE", "YO", "U", "WEO", "WE",
    "WI", "YU", "EU", "YI", "I"]

/-- The names of last sounds. -/
def tails : List String :=
  ["", "G", "GG", "GS", "N", "NJ", "NH", "D", "L", "LG", "LM", "LB", "LS", "LT", "LP", "LH", "M", "B",
    "BS", "S", "SS", "NG", "J", "C", "K", "T", "P", "H"]

/-- The place of the longest of some names with which a text begins, and the text after it. -/
def longest? (names : List String) (t : List Char) : Option (Nat × List Char) :=
  let best := names.zipIdx.foldl (fun best (s, i) =>
    if s.toList.isPrefixOf t ∧ best.all (fun b : Nat × Nat => b.2 < s.length) then some (i, s.length)
    else best) none
  best.map fun (i, n) => (i, t.drop n)

/-- The code point of a Hangul syllable. -/
def syllable? (name : List Char) : Option Nat :=
  let front := "HANGUL SYLLABLE "
  if front.toList.isPrefixOf name then do
    let (l, t) ← longest? leads (name.drop front.length)
    let (v, t) ← longest? vowels t
    let (e, t) ← longest? tails t
    if t.isEmpty then some (0xAC00 + (l * 21 + v) * 28 + e) else none
  else none

/-! ## Names -/

/-- The code point of a named character. Names from the tables are read in any case. -/
def find? (name : List Char) : Option Nat :=
  if "HANGUL SYLLABLE ".toList.isPrefixOf name then syllable? name
  else if "CJK UNIFIED IDEOGRAPH-".toList.isPrefixOf name then
    codeInName? "CJK UNIFIED IDEOGRAPH-" unifiedRanges name
  else
    let name := name.map (·.toUpper)
    let words := splitOnChar ' ' name
    numbered? name
    <|> searchTable namesEarly words
    <|> searchTable namesMiddle words
    <|> searchTable namesLate words
    <|> searchTable aliases words

end CodeFlow.Text.CharName
