import Mathlib
import CodeFlow.FlowText.Dot
import CodeFlow.Proofs.Ident
import CodeFlow.Proofs.Text.Search

/-!
# `CodeFlow.Proofs.FlowText` — what the lines of a flow text declare and link

Definitions and links are read off a flow text in two passes. Here each pass is said line by line: which
identifiers a line declares, and which ends its links have.

## Contents
- `declared`: the identifier that a line declares; `mem_ids_definitions`, `ids_definitions`.
- `declared_definition`, `declared_marked`: lines that begin with the name of a step.
- `linkParts_arrow`, `lineLinks_arrow`: lines that link two steps.
- `declared_blank`, `lineLinks_blank`: blank lines.
-/

namespace CodeFlow.FlowText

open Text Ident Dot

/-! ## Declared identifiers -/

/-- The identifier that a line declares. -/
def Line.id? : Line → Option String
  | .definition d => some d.id
  | _ => none

/-- The identifiers that a line declares: one or none. -/
def declared (line : List Char) : List String := (Line.ofChars line).id?.toList

theorem mem_ids_put {table : Table} {d : Definition} {x : String} :
    x ∈ (table.put d).map (·.id) ↔ x ∈ table.map (·.id) ∨ x = d.id := by
  induction table with
  | nil => simp [Table.put]
  | cons e rest ih =>
      unfold Table.put
      split_ifs with h
      · simp only [List.map_cons, List.mem_cons, h]
        tauto
      · simp only [List.map_cons, List.mem_cons, ih]
        tauto

theorem ids_extend (id : String) (t : List Char) (table : Table) :
    (table.extend id t).map (·.id) = table.map (·.id) := by
  unfold Table.extend
  rw [List.map_map]
  refine List.map_congr_left fun d _ => ?_
  simp only [Function.comp]
  split_ifs <;> rfl

theorem mem_ids_collect {ls : List Line} {current : Option String} {table : Table} {x : String} :
    x ∈ (collect current table ls).map (·.id) ↔
      x ∈ table.map (·.id) ∨ ∃ l ∈ ls, l.id? = some x := by
  fun_induction collect current table ls with
  | case1 current table => simp
  | case2 current table rest ih => simp [ih, Line.id?]
  | case3 current table d rest ih => simp [ih, Line.id?, mem_ids_put, or_assoc, eq_comm]
  | case4 table t rest ih => simp [ih, Line.id?]
  | case5 table t rest id ih => simp [ih, Line.id?, ids_extend]

/-- An identifier is declared just if one of the lines declares it. -/
theorem mem_ids_definitions {flow : List Char} {x : String} :
    x ∈ (definitions flow).map (·.id) ↔ x ∈ (lines flow).flatMap declared := by
  rw [definitions, mem_ids_collect]
  simp [declared]

theorem put_of_not_mem {table : Table} {d : Definition} (h : d.id ∉ table.map (·.id)) :
    table.put d = table ++ [d] := by
  induction table with
  | nil => rfl
  | cons e rest ih =>
      rw [List.map_cons, List.mem_cons, not_or] at h
      rw [Table.put, if_neg (Ne.symm h.1), ih h.2, List.cons_append]

theorem ids_collect {ls : List Line} {current : Option String} {table : Table}
    (h : (table.map (·.id) ++ ls.filterMap Line.id?).Nodup) :
    (collect current table ls).map (·.id) = table.map (·.id) ++ ls.filterMap Line.id? := by
  fun_induction collect current table ls with
  | case1 current table => simp
  | case2 current table rest ih =>
      rw [List.filterMap_cons_none rfl] at h ⊢
      exact ih h
  | case3 current table d rest ih =>
      have hid : (Line.definition d).id? = some d.id := rfl
      rw [List.filterMap_cons_some hid] at h ⊢
      have hnew : d.id ∉ table.map (·.id) := fun hmem =>
        (List.nodup_append.1 h).2.2 _ hmem d.id List.mem_cons_self rfl
      rw [put_of_not_mem hnew] at ih ⊢
      simpa using ih (by simpa using h)
  | case4 table t rest ih =>
      rw [List.filterMap_cons_none rfl] at h ⊢
      exact ih h
  | case5 table t rest id ih =>
      rw [List.filterMap_cons_none rfl] at h ⊢
      rw [ids_extend] at ih
      exact ih h

/-- Identifiers that are declared once each are declared in the order of their lines. -/
theorem ids_definitions {flow : List Char} (h : ((lines flow).flatMap declared).Nodup) :
    (definitions flow).map (·.id) = (lines flow).flatMap declared := by
  have hdeclared : ((lines flow).map Line.ofChars).filterMap Line.id? = (lines flow).flatMap declared := by
    rw [List.filterMap_map, List.filterMap_eq_flatMap_toList]
    rfl
  rw [← hdeclared] at h ⊢
  rw [definitions, ids_collect (by simpa using h)]
  rfl

/-! ## Lines that begin with a name -/

/-- The characters of identifiers by number, away from blanks and line ends. -/
theorem toNat_of_isIdentChar {c : Char} (h : isIdentChar c = true) :
    (97 ≤ c.toNat ∧ c.toNat ≤ 122) ∨ (65 ≤ c.toNat ∧ c.toNat ≤ 90) ∨ (48 ≤ c.toNat ∧ c.toNat ≤ 57) ∨
      c.toNat = 95 := by
  refine toNat_of_isAlphanum ?_
  simpa [isIdentChar_eq] using h

theorem isWord_of_isIdentChar {c : Char} (h : isIdentChar c = true) : isWord c = true := by
  have hn := toNat_of_isIdentChar h
  rw [isWord, if_pos (by omega)]
  exact h

theorem isBlank_of_isIdentChar {c : Char} (h : isIdentChar c = true) : isBlank c = false :=
  isBlank_of_isAlphanum (by simpa [isIdentChar_eq] using h)

theorem isLineEnd_of_isIdentChar {c : Char} (h : isIdentChar c = true) : isLineEnd c = false := by
  have hn := toNat_of_isIdentChar h
  simp only [isLineEnd, Bool.or_eq_false_iff, Bool.and_eq_false_iff, decide_eq_false_iff_not,
    beq_eq_false_iff_ne]
  omega

/-- A text of word characters, as the kinds of steps are. -/
structure IsWordText (t : List Char) : Prop where
  /-- Its characters. -/
  word : ∀ c ∈ t, isWord c = true
  /-- There are some. -/
  ne_nil : t ≠ []

namespace IsWordText

variable {name : List Char}

theorem takeWhile_append (h : IsWordText name) {x : Char} (hx : isWord x = false) (rest : List Char) :
    (name ++ x :: rest).takeWhile isWord = name := by
  rw [List.takeWhile_append_of_pos h.word]
  simp [hx]

theorem dropWhile_append (h : IsWordText name) {x : Char} (hx : isWord x = false) (rest : List Char) :
    (name ++ x :: rest).dropWhile isWord = x :: rest := by
  rw [List.dropWhile_append_of_pos h.word]
  simp [hx]

end IsWordText

/-- A text of the characters of identifiers, as the names of steps are. -/
structure IsNameText (t : List Char) : Prop where
  /-- Its characters. -/
  ident : ∀ c ∈ t, isIdentChar c = true
  /-- There are some. -/
  ne_nil : t ≠ []

namespace IsNameText

variable {name : List Char}

theorem isWordText (h : IsNameText name) : IsWordText name :=
  ⟨fun c hc => isWord_of_isIdentChar (h.ident c hc), h.ne_nil⟩

theorem not_mem (h : IsNameText name) {c : Char} (hc : isIdentChar c = false) : c ∉ name := fun hm =>
  absurd (h.ident c hm) (by simp [hc])

theorem strip_eq (h : IsNameText name) : strip name = name :=
  strip_of_forall fun c hc => isBlank_of_isIdentChar (h.ident c hc)

/-- Without a prefix, a name is an identifier as it is. -/
theorem qualify_eq (h : IsNameText name) : qualify "" (String.ofList name) = String.ofList name := by
  simp [qualify, sanitize, h.ne_nil, map_sanitizeChar h.ident]

end IsNameText

theorem readDefinition?_append {name word : List Char} (hname : IsWordText name) (hword : IsWordText word)
    (text : List Char) : readDefinition? (name ++ '=' :: '>' :: (word ++ ':' :: text)) =
      some ⟨String.ofList name, String.ofList word, stripStart text⟩ := by
  have htake : (word ++ ':' :: text).takeWhile isWord = word := hword.takeWhile_append rfl text
  have hdrop : (word ++ ':' :: text).dropWhile isWord = ':' :: text := hword.dropWhile_append rfl text
  unfold readDefinition?
  rw [hname.takeWhile_append rfl, hname.dropWhile_append rfl]
  obtain ⟨c, name, rfl⟩ := List.exists_cons_of_ne_nil hname.ne_nil
  obtain ⟨k, word, rfl⟩ := List.exists_cons_of_ne_nil hword.ne_nil
  simp only [htake, hdrop]

/-- A line in which something else follows the name is no definition. -/
theorem readDefinition?_marked {name : List Char} (hname : IsWordText name) {x : Char}
    (hx : isWord x = false) (heq : x ≠ '=') (rest : List Char) :
    readDefinition? (name ++ x :: rest) = none := by
  unfold readDefinition?
  rw [hname.takeWhile_append hx, hname.dropWhile_append hx]
  split
  · -- only an equals sign may follow the name
    rename_i h
    exact absurd (List.cons.inj h).1 heq
  · rfl

theorem occurs_append {piece : List Char} (a b : List Char) : occurs piece (a ++ (piece ++ b)) = true := by
  induction a with
  | nil =>
      cases h : piece ++ b with
      | nil => simp_all [occurs]
      | cons c rest =>
          have : piece.isPrefixOf (c :: rest) = true := by simp [← h]
          simp [occurs, this]
  | cons c a ih => simp [occurs, ih]

/-- A line that begins with a definition declares its name, unless there is an arrow in it. -/
theorem declared_definition {name word : List Char} (hname : IsNameText name) (hword : IsWordText word)
    {text : List Char} (hlink : isLink (name ++ '=' :: '>' :: (word ++ ':' :: text)) = false) :
    declared (name ++ '=' :: '>' :: (word ++ ':' :: text)) = [String.ofList name] := by
  have hdefines : occurs definitionArrow (name ++ '=' :: '>' :: (word ++ ':' :: text)) = true :=
    occurs_append name (word ++ ':' :: text)
  -- the line begins with a character of a name, so it is no comment
  have hcomment : ['/', '/'].isPrefixOf (strip (name ++ '=' :: '>' :: (word ++ ':' :: text))) = false := by
    obtain ⟨c, rest, rfl⟩ := List.exists_cons_of_ne_nil hname.ne_nil
    have hc := hname.ident c List.mem_cons_self
    have hslash : '/' ≠ c := by
      rintro rfl
      exact absurd hc (by decide)
    rw [List.cons_append, strip_cons (isBlank_of_isIdentChar hc)]
    simp [List.isPrefixOf, hslash]
  simp [declared, Line.ofChars, Line.id?, hlink, hdefines, hcomment,
    readDefinition?_append hname.isWordText hword]

/-- A line in which something else follows the name declares nothing. -/
theorem declared_marked {name : List Char} (hname : IsWordText name) {x : Char} (hx : isWord x = false)
    (heq : x ≠ '=') (rest : List Char) : declared (name ++ x :: rest) = [] := by
  have hread := readDefinition?_marked hname hx heq rest
  unfold declared Line.ofChars
  split_ifs <;> simp [hread, Line.id?]

theorem declared_link {line : List Char} (h : isLink line = true) : declared line = [] := by
  simp [declared, Line.ofChars, Line.id?, h]

/-! ## Lines that link two steps -/

/-- How the specification of a source is written: in parentheses, if there is one. -/
def specText : Option (List Char) → List Char
  | none => []
  | some inner => '(' :: (inner ++ [')'])

/-- The style of a link by the specification of its source. -/
def specStyle : Option (List Char) → LinkStyle
  | none => .plain
  | some inner => styleOf inner

theorem getLast?_parens (source inner : List Char) :
    (source ++ '(' :: (inner ++ [')'])).getLast? = some ')' := by
  rw [← List.cons_append, ← List.append_assoc, List.getLast?_concat]

theorem insideParens_append {source : List Char} (hsource : '(' ∉ source) (inner : List Char) :
    insideParens (source ++ '(' :: (inner ++ [')'])) = inner := by
  have hafter : (source ++ '(' :: (inner ++ [')'])).dropWhile (· != '(') = '(' :: (inner ++ [')']) := by
    rw [List.dropWhile_append_of_pos (bne_of_not_mem hsource)]
    simp
  unfold insideParens
  rw [hafter]
  simp [dropEndWhile]

theorem beforeParen_append {source : List Char} (hsource : '(' ∉ source) (rest : List Char) :
    beforeParen (source ++ '(' :: rest) = source := by
  unfold beforeParen
  rw [List.takeWhile_append_of_pos (bne_of_not_mem hsource)]
  simp

section Arrow

variable {source target : List Char} {spec : Option (List Char)}

theorem isLink_arrow : isLink (source ++ specText spec ++ '-' :: '>' :: target) = true :=
  occurs_append (source ++ specText spec) target

variable (hsource : IsNameText source)

include hsource

theorem strip_specified : strip (source ++ specText spec) = source ++ specText spec := by
  cases spec with
  | none => rw [specText, List.append_nil, hsource.strip_eq]
  | some inner =>
      have hhead : ∀ c, (source ++ specText (some inner)).head? = some c → isBlank c = false := by
        intro c hc
        refine isBlank_of_isIdentChar (hsource.ident c ?_)
        rw [List.head?_append_of_ne_nil _ hsource.ne_nil] at hc
        exact List.mem_of_mem_head? hc
      have hlast : ∀ c, (source ++ specText (some inner)).getLast? = some c → isBlank c = false := by
        intro c hc
        rw [specText, getLast?_parens] at hc
        exact Option.some.inj hc ▸ rfl
      have := @strip_padded [] (source ++ specText (some inner)) [] (by simp) (by simp)
        (by simp [hsource.ne_nil]) hhead hlast
      simpa using this

theorem isSpecified_iff : isSpecified (source ++ specText spec) = spec.isSome := by
  cases spec with
  | none => simp [specText, isSpecified, hsource.not_mem (c := '(') rfl]
  | some inner =>
      rw [isSpecified, specText, getLast?_parens]
      simp

theorem insideParens_specified (inner : List Char) :
    insideParens (source ++ specText (some inner)) = inner :=
  insideParens_append (hsource.not_mem rfl) inner

theorem beforeParen_specified : beforeParen (source ++ specText spec) = source := by
  cases spec with
  | none => simpa [beforeParen, specText] using bne_of_not_mem (hsource.not_mem rfl)
  | some inner => exact beforeParen_append (hsource.not_mem rfl) _

/-- The specification does not count to the end of a link, and decides its style. -/
theorem link_specified (pre : String) (target : List Char) :
    link pre (source ++ specText spec, target) =
      ⟨qualify pre (String.ofList source), qualify pre (String.ofList target), specStyle spec⟩ := by
  have hspecified : isSpecified (source ++ specText spec) = spec.isSome := isSpecified_iff hsource
  cases spec with
  | none =>
      rw [specText, List.append_nil] at *
      simp [link, hspecified, specStyle]
  | some inner =>
      simp only [link, hspecified, Option.isSome_some, if_true, beforeParen_specified hsource,
        hsource.strip_eq, insideParens_specified hsource, specStyle]

variable (hspec : ∀ inner ∈ spec, isLink inner = false) (htarget : IsNameText target)

include hspec htarget

/-- The line of an arrow has two ends. -/
theorem linkParts_arrow : linkParts (source ++ specText spec ++ '-' :: '>' :: target) =
    [(source ++ specText spec, target)] := by
  have hfront : occurs arrow (source ++ specText spec) = false := by
    rw [arrow, occurs_append_of_not_mem (hsource.not_mem rfl)]
    cases spec with
    | none => rfl
    | some inner =>
        -- neither parenthesis is part of an arrow
        have hopen := occurs_append_of_not_mem (x := '-') (t := ['(']) (by decide) ['>'] (inner ++ [')'])
        rw [List.singleton_append] at hopen
        rw [specText, hopen, occurs_pair_concat (by decide)]
        exact hspec inner rfl
  have hsplit : splitOn arrow (source ++ specText spec ++ '-' :: '>' :: target) =
      [source ++ specText spec, target] := by
    rw [arrow, splitOn_append_pair (by decide) hfront,
      splitOn_pair_of_not_occurs (occurs_pair_of_not_mem (htarget.not_mem rfl))]
  rw [linkParts, hsplit]
  simp [neighbours, strip_specified hsource, htarget.strip_eq]

/-- The line of an arrow draws one link, between its two ends. -/
theorem lineLinks_arrow (pre : String) :
    lineLinks pre (source ++ specText spec ++ '-' :: '>' :: target) =
      [⟨qualify pre (String.ofList source), qualify pre (String.ofList target), specStyle spec⟩] := by
  rw [lineLinks, if_pos isLink_arrow, linkParts_arrow hsource hspec htarget, List.map_singleton,
    link_specified hsource]

end Arrow

/-! ## Blank lines -/

theorem not_mem_of_strip_eq_nil {line : List Char} (h : strip line = []) {c : Char}
    (hc : isBlank c = false) : c ∉ line := fun hm =>
  absurd (isBlank_of_strip_eq_nil h c hm) (by simp [hc])

theorem isLink_blank {line : List Char} (h : strip line = []) : isLink line = false :=
  occurs_pair_of_not_mem (not_mem_of_strip_eq_nil h (by decide))

theorem declared_blank {line : List Char} (h : strip line = []) : declared line = [] := by
  have hdefines : occurs definitionArrow line = false :=
    occurs_pair_of_not_mem (not_mem_of_strip_eq_nil h (by decide))
  simp [declared, Line.ofChars, isLink_blank h, hdefines, Line.id?]

theorem lineLinks_blank {line : List Char} (h : strip line = []) (pre : String) :
    lineLinks pre line = [] := by
  simp [lineLinks, isLink_blank h]

end CodeFlow.FlowText
