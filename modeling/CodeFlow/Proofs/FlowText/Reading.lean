import Mathlib
import CodeFlow.Proofs.FlowText
import CodeFlow.Proofs.Text.Word

/-!
# `CodeFlow.Proofs.FlowText.Reading` — a flow text says what its graph is

The reader goes through the lines once, with a table of definitions and the definition that text belongs to.
What it makes of them can be said without either: `IsReading` looks at the whole text, picks the last
definition of each identifier and the text lines behind it, and cuts every link line at its arrows. There is
exactly one graph that a text is read as.

The table is compared with the lines read so far, one line more at a time (`Tabled`): a new definition is the
last one of its identifier, and a text line goes to the definition after which there is no other.

## Contents
- `Defines`, `Reads`: what a line is; `reads_iff`.
- `LastDefined`: the last definition of an identifier; `LastDefined.unique`.
- `Tabled`: the table after some lines; `tabled_collect`.
- `Cut`, `Draws`, `LinksOf`: the links of a line; `cut_iff`, `draws_iff`.
- `IsReading`, `isReading_iff`.
-/

namespace CodeFlow.FlowText

open Text Dot Ident

/-! ## Lines -/

/-- A line that begins with `name=>kind:`, and the definition it gives. -/
inductive Defines : List Char → Definition → Prop where
  | intro {name kind : List Char} (hname : IsWordText name) (hkind : IsWordText kind) (text : List Char) :
      Defines (name ++ '=' :: '>' :: (kind ++ ':' :: text))
        ⟨String.ofList name, String.ofList kind, stripStart text⟩

/-- What a line is: a link if it has an arrow, otherwise a definition if it begins as one, otherwise text. -/
inductive Reads : List Char → Line → Prop where
  | link {line : List Char} (harrow : arrow <:+: line) : Reads line .link
  | definition {line : List Char} {d : Definition} (harrow : ¬arrow <:+: line) (hd : Defines line d) :
      Reads line (.definition d)
  | text {line : List Char} (harrow : ¬arrow <:+: line) (hd : ∀ d, ¬Defines line d) :
      Reads line (.text (strip line))

theorem isLink_iff {line : List Char} : isLink line = true ↔ arrow <:+: line := occurs_iff_infix

theorem isWordText_takeWhile {t : List Char} (h : t.takeWhile isWord ≠ []) : IsWordText (t.takeWhile isWord) :=
  ⟨fun _ hc => List.mem_takeWhile_imp hc, h⟩

theorem defines_of_readDefinition? {line : List Char} {d : Definition} (h : readDefinition? line = some d) :
    Defines line d := by
  unfold readDefinition? at h
  split at h
  · rename_i c id rest hname hrest
    split at h
    · rename_i k kind text hkind htext
      obtain rfl := Option.some.inj h
      have hline := List.takeWhile_append_dropWhile (p := isWord) (l := line)
      have hbehind := List.takeWhile_append_dropWhile (p := isWord) (l := rest)
      rw [hname, hrest, ← hbehind, hkind, htext] at hline
      rw [← hline]
      refine .intro ?_ ?_ text
      · rw [← hname]
        exact isWordText_takeWhile (by simp [hname])
      · rw [← hkind]
        exact isWordText_takeWhile (by simp [hkind])
    · simp at h
  · simp at h

theorem readDefinition?_eq_some {line : List Char} {d : Definition} :
    readDefinition? line = some d ↔ Defines line d := by
  constructor
  · exact defines_of_readDefinition?
  · rintro ⟨hname, hkind, text⟩
    exact readDefinition?_append hname hkind text

/-- What begins as a definition has the arrow of one and is no comment. -/
theorem Defines.isDefinition {line : List Char} {d : Definition} (h : Defines line d) :
    (occurs definitionArrow line && !(['/', '/'].isPrefixOf (strip line))) = true := by
  obtain ⟨hname, hkind, text⟩ := h
  rename_i name kind
  rw [Bool.and_eq_true]
  refine ⟨occurs_append name (kind ++ ':' :: text), ?_⟩
  -- the first character is one of a word, so it is neither blank nor a slash
  obtain ⟨c, rest, rfl⟩ := List.exists_cons_of_ne_nil hname.ne_nil
  have hc := hname.word c List.mem_cons_self
  have hblank : isBlank c = false := by
    rw [Bool.eq_false_iff]
    intro hblank
    rw [isWord_of_isBlank hblank] at hc
    exact absurd hc (by simp)
  have hslash : '/' ≠ c := by
    rintro rfl
    exact absurd hc (by decide)
  rw [List.cons_append, strip_cons hblank]
  simp [List.isPrefixOf, hslash]

theorem reads_ofChars (line : List Char) : Reads line (Line.ofChars line) := by
  unfold Line.ofChars
  split_ifs with hlink
  · exact .link (isLink_iff.1 hlink)
  · have harrow : ¬arrow <:+: line := fun h => hlink (isLink_iff.2 h)
    simp only
    split
    · rename_i d hd
      split_ifs at hd
      exact .definition harrow (defines_of_readDefinition? hd)
    · rename_i hnone
      refine .text harrow fun d hd => ?_
      rw [if_pos hd.isDefinition, readDefinition?_eq_some.2 hd] at hnone
      exact absurd hnone (by simp)

/-- **A line is read as what it is**, and as nothing else. -/
theorem reads_iff {line : List Char} {l : Line} : Reads line l ↔ Line.ofChars line = l := by
  constructor
  · intro h
    cases h with
    | link harrow => rw [Line.ofChars, if_pos (isLink_iff.2 harrow)]
    | definition harrow hd =>
        rw [Line.ofChars, if_neg (fun h => harrow (isLink_iff.1 h))]
        simp only [hd.isDefinition, if_true, readDefinition?_eq_some.2 hd]
    | text harrow hd =>
        have hnone : readDefinition? line = none := by
          rw [Option.eq_none_iff_forall_ne_some]
          intro d h
          exact hd d (readDefinition?_eq_some.1 h)
        rw [Line.ofChars, if_neg (fun h => harrow (isLink_iff.1 h))]
        simp [hnone]
  · rintro rfl
    exact reads_ofChars line

/-! ## Definitions -/

/-- What a line adds to the text of the definition before it. -/
def Line.more : Line → List Char
  | .text t => '\n' :: t
  | _ => []

/-- What lines add to the text of the definition before them: the text lines up to the next definition, each
behind a line end. -/
def continuation (ls : List Line) : List Char := (ls.takeWhile (·.id?.isNone)).flatMap Line.more

/-- The identifiers that lines define, in order of their first definition. -/
def definedIds (ls : List Line) : List String := (ls.filterMap Line.id?).eraseDups

/-- `d` is the last definition of `id` in some lines, with the text that goes on behind it. -/
def LastDefined (ls : List Line) (id : String) (d : Definition) : Prop :=
  ∃ before e after, ls = before ++ .definition e :: after ∧ e.id = id ∧ (∀ l ∈ after, l.id? ≠ some id) ∧
    d = { e with text := e.text ++ continuation after }

/-- There is one last definition. -/
theorem LastDefined.unique {ls : List Line} {id : String} {d d' : Definition} (h : LastDefined ls id d)
    (h' : LastDefined ls id d') : d = d' := by
  obtain ⟨before, e, after, rfl, hid, hlast, rfl⟩ := h
  obtain ⟨before', e', after', heq, hid', hlast', rfl⟩ := h'
  -- if one stood in front of the other, it would not be the last
  rcases List.append_eq_append_iff.1 heq with ⟨between, -, hrest⟩ | ⟨between, -, hrest⟩
  · cases between with
    | nil =>
        obtain ⟨rfl, rfl⟩ : e = e' ∧ after = after' := by simpa using hrest
        rfl
    | cons l between =>
        obtain ⟨-, rfl⟩ := List.cons.inj hrest
        exact absurd (congrArg some hid') (hlast (.definition e') (by simp))
  · cases between with
    | nil =>
        obtain ⟨rfl, rfl⟩ : e' = e ∧ after' = after := by simpa using hrest
        rfl
    | cons l between =>
        obtain ⟨-, rfl⟩ := List.cons.inj hrest
        exact absurd (congrArg some hid) (hlast' (.definition e) (by simp))

/-! ## The table -/

/-- The identifier that text belongs to after some lines. -/
def lastId (ls : List Line) : Option String := (ls.filterMap Line.id?).getLast?

theorem collect_concat (current : Option String) (table : Table) (ls : List Line) (l : Line) :
    collect current table (ls ++ [l]) = collect ((lastId ls).or current) (collect current table ls) [l] := by
  fun_induction collect current table ls with
  | case1 current table => rfl
  | case2 current table rest ih => simpa [collect, lastId, Line.id?] using ih
  | case3 current table d rest ih =>
      rw [List.cons_append, collect, ih]
      congr 1
      simp only [lastId, List.filterMap_cons, Line.id?, List.getLast?_cons]
      cases (rest.filterMap Line.id?).getLast? <;> rfl
  | case4 table t rest ih => simpa [collect, lastId, Line.id?] using ih
  | case5 table t rest id ih => simpa [collect, lastId, Line.id?] using ih

theorem continuation_cons (k : Line) (ls : List Line) :
    continuation (k :: ls) = if k.id? = none then k.more ++ continuation ls else [] := by
  unfold continuation
  rw [List.takeWhile_cons]
  cases k.id? <;> simp

/-- A line more goes to the text, unless a definition ended it. -/
theorem continuation_concat (ls : List Line) (l : Line) :
    continuation (ls ++ [l]) = continuation ls ++ if ∀ k ∈ ls, k.id? = none then l.more else [] := by
  induction ls with
  | nil => cases l <;> simp [continuation, Line.id?, Line.more]
  | cons k ls ih =>
      rw [List.cons_append, continuation_cons, continuation_cons, ih]
      by_cases hk : k.id? = none
      · simp [hk]
      · simp [hk]

/-- The last definition of all is the last one of its identifier, with no other behind it. -/
theorem lastId_eq_iff {before after : List Line} {e : Definition} (hlast : ∀ l ∈ after, l.id? ≠ some e.id) :
    lastId (before ++ .definition e :: after) = some e.id ↔ ∀ l ∈ after, l.id? = none := by
  have hsplit : lastId (before ++ .definition e :: after) =
      some ((after.filterMap Line.id?).getLast?.getD e.id) := by
    rw [lastId, List.filterMap_append, List.filterMap_cons_some (show (Line.definition e).id? = some e.id from rfl),
      List.getLast?_append_of_ne_nil _ (by simp), List.getLast?_cons]
  rw [hsplit]
  constructor
  · intro h
    rw [← List.filterMap_eq_nil_iff]
    cases hids : (after.filterMap Line.id?).getLast? with
    | none => exact List.getLast?_eq_none_iff.1 hids
    | some id =>
        -- a later definition would be one of the same identifier
        obtain ⟨l, hl, hid⟩ := List.mem_filterMap.1 (List.mem_of_getLast? hids)
        have heq : id = e.id := by simpa [hids] using h
        exact absurd (heq ▸ hid) (hlast l hl)
  · intro h
    rw [List.filterMap_eq_nil_iff.2 h]
    rfl

/-- What a line that does not define an identifier leaves of its last definition: text goes to the last
definition of all. -/
theorem LastDefined.concat {ls : List Line} {id : String} {d : Definition} (h : LastDefined ls id d) {l : Line}
    (hl : l.id? ≠ some id) :
    LastDefined (ls ++ [l]) id (if lastId ls = some id then { d with text := d.text ++ l.more } else d) := by
  obtain ⟨before, e, after, rfl, rfl, hlast, rfl⟩ := h
  refine ⟨before, e, after ++ [l], by simp, rfl, ?_, ?_⟩
  · intro k hk
    rcases List.mem_append.1 hk with hk | hk
    · exact hlast k hk
    · rwa [List.mem_singleton.1 hk]
  · simp only [lastId_eq_iff hlast, continuation_concat]
    split_ifs <;> simp

theorem ids_put (table : Table) (d : Definition) : (table.put d).map (·.id) =
    if d.id ∈ table.map (·.id) then table.map (·.id) else table.map (·.id) ++ [d.id] := by
  induction table with
  | nil => rfl
  | cons e rest ih =>
      rw [Table.put]
      by_cases he : e.id = d.id
      · simp [he]
      · have hne : d.id ≠ e.id := Ne.symm he
        simp only [if_neg he, List.map_cons, ih, List.mem_cons, hne, false_or]
        split_ifs
        · rfl
        · rw [List.cons_append]

theorem mem_put {table : Table} (hnodup : (table.map (·.id)).Nodup) {d e : Definition} (h : e ∈ table.put d) :
    e = d ∨ e ∈ table ∧ e.id ≠ d.id := by
  induction table with
  | nil => exact .inl (List.mem_singleton.1 h)
  | cons k rest ih =>
      rw [List.map_cons, List.nodup_cons] at hnodup
      rw [Table.put] at h
      split_ifs at h with hk
      · refine (List.mem_cons.1 h).imp id fun he => ⟨List.mem_cons_of_mem _ he, fun heq => hnodup.1 ?_⟩
        rw [hk, ← heq]
        exact List.mem_map_of_mem he
      · rcases List.mem_cons.1 h with rfl | h
        · exact .inr ⟨List.mem_cons_self, hk⟩
        · exact (ih hnodup.2 h).imp id fun he => ⟨List.mem_cons_of_mem _ he.1, he.2⟩

theorem eraseDups_concat (ids : List String) (id : String) :
    (ids ++ [id]).eraseDups = if id ∈ ids then ids.eraseDups else ids.eraseDups ++ [id] := by
  rw [List.eraseDups_append, List.removeAll]
  by_cases h : id ∈ ids <;> simp [h, List.eraseDups_cons]

/-- A line that defines nothing adds no identifier. -/
theorem definedIds_concat {l : Line} (h : l.id? = none) (ls : List Line) :
    definedIds (ls ++ [l]) = definedIds ls := by
  rw [definedIds, List.filterMap_append, List.filterMap_cons_none h, List.filterMap_nil, List.append_nil]
  rfl

theorem nodup_definedIds (ls : List Line) : (definedIds ls).Nodup := by
  unfold definedIds
  induction ls.filterMap Line.id? using List.reverseRecOn with
  | nil => exact List.nodup_nil
  | append_singleton ids id ih =>
      rw [eraseDups_concat]
      split_ifs with h
      · exact ih
      · refine ih.append (List.nodup_singleton id) ?_
        simpa [List.disjoint_singleton] using h

/-- What a table holds after some lines. -/
structure Tabled (ls : List Line) (table : Table) : Prop where
  /-- Every identifier has one entry, in order of its first definition. -/
  ids : table.map (·.id) = definedIds ls
  /-- The entry is its last definition. -/
  last : ∀ d ∈ table, LastDefined ls d.id d

namespace Tabled

variable {ls : List Line} {table : Table}

/-- A link leaves a table as it is. -/
theorem link (h : Tabled ls table) : Tabled (ls ++ [.link]) table where
  ids := by
    rw [definedIds_concat rfl]
    exact h.ids
  last d hd := by
    have hlast := (h.last d hd).concat (l := .link) (by simp [Line.id?])
    simpa [Line.more] using hlast

/-- Text goes to the entry of the last definition of all. -/
theorem text (h : Tabled ls table) (t : List Char) :
    Tabled (ls ++ [.text t]) (collect (lastId ls) table [.text t]) := by
  have hids : definedIds (ls ++ [.text t]) = definedIds ls := definedIds_concat rfl ls
  have hconcat : ∀ d ∈ table, LastDefined (ls ++ [.text t]) d.id
      (if lastId ls = some d.id then { d with text := d.text ++ '\n' :: t } else d) := fun d hd =>
    (h.last d hd).concat (l := .text t) (by simp [Line.id?])
  cases hid : lastId ls with
  | none =>
      refine ⟨by rw [hids, ← h.ids]; rfl, fun d hd => ?_⟩
      simpa [hid] using hconcat d hd
  | some id =>
      refine ⟨by rw [hids, ← h.ids]; exact ids_extend id t table, fun d hd => ?_⟩
      obtain ⟨e, he, rfl⟩ := List.mem_map.1 hd
      have hlast := hconcat e he
      simp only [hid, Option.some.injEq] at hlast
      by_cases heq : e.id = id
      · simpa [heq] using hlast
      · simpa [heq, Ne.symm heq] using hlast

/-- A definition takes the place of its identifier. -/
theorem definition (h : Tabled ls table) (d : Definition) : Tabled (ls ++ [.definition d]) (table.put d) where
  ids := by
    have hids : definedIds (ls ++ [.definition d]) =
        if d.id ∈ definedIds ls then definedIds ls else definedIds ls ++ [d.id] := by
      simp only [definedIds, List.filterMap_append, List.filterMap_cons, Line.id?, List.filterMap_nil]
      rw [eraseDups_concat]
      simp only [List.mem_eraseDups]
    rw [ids_put, hids, h.ids]
  last e he := by
    have hnodup : (table.map (·.id)).Nodup := h.ids ▸ nodup_definedIds ls
    rcases mem_put hnodup he with rfl | ⟨he, hne⟩
    · exact ⟨ls, e, [], rfl, rfl, by simp, by simp [continuation]⟩
    · have hlast := (h.last e he).concat (l := .definition d) (by simpa [Line.id?] using Ne.symm hne)
      simpa [Line.more] using hlast

end Tabled

/-- **The table holds the last definition of every identifier**, whatever the lines. -/
theorem tabled_collect (ls : List Line) : Tabled ls (collect none [] ls) := by
  induction ls using List.reverseRecOn with
  | nil => exact ⟨rfl, by simp [collect]⟩
  | append_singleton ls l ih =>
      rw [collect_concat, Option.or_none]
      cases l with
      | link => exact ih.link
      | definition d => exact ih.definition d
      | text t => exact ih.text t

/-! ## Links -/

/-- A line cut at its arrows. -/
structure Cut (line : List Char) (parts : List (List Char)) : Prop where
  /-- There is a part, also without an arrow. -/
  ne_nil : parts ≠ []
  /-- The parts with arrows between them are the line. -/
  whole : line = join arrow parts
  /-- No part has an arrow. -/
  bare : ∀ p ∈ parts, ¬arrow <:+: p

/-- **A line is cut at its arrows**, in one way. -/
theorem cut_iff {line : List Char} {parts : List (List Char)} : Cut line parts ↔ splitOn arrow line = parts := by
  have hbare : ∀ {p : List Char}, ¬arrow <:+: p ↔ occurs arrow p = false := fun {p} => by
    rw [← occurs_iff_infix, Bool.not_eq_true]
  constructor
  · intro h
    rw [h.whole]
    exact splitOn_join_pair (by decide) h.ne_nil fun p hp => hbare.1 (h.bare p hp)
  · intro hcut
    obtain ⟨found, hne, hwhole, hfound⟩ := exists_parts '-' '>' line
    have hsplit : splitOn arrow line = found := by
      rw [hwhole]
      exact splitOn_join_pair (by decide) hne hfound
    obtain rfl : found = parts := hsplit.symm.trans hcut
    exact ⟨hne, hwhole, fun p hp => hbare.2 (hfound p hp)⟩

/-- The style of a link by what stands in parentheses behind its source, in lower case. -/
inductive Styled : List Char → LinkStyle → Prop where
  | yes {spec : List Char} (hyes : ['y', 'e', 's'] <:+: lower spec) : Styled spec .yes
  | no {spec : List Char} (hyes : ¬['y', 'e', 's'] <:+: lower spec) (hno : ['n', 'o'] <:+: lower spec) :
      Styled spec .no
  | plain {spec : List Char} (hyes : ¬['y', 'e', 's'] <:+: lower spec) (hno : ¬['n', 'o'] <:+: lower spec) :
      Styled spec .plain

theorem styled_iff {spec : List Char} {style : LinkStyle} : Styled spec style ↔ styleOf spec = style := by
  simp only [styleOf, occurs_iff_infix]
  constructor
  · intro h
    cases h with
    | yes hyes => rw [if_pos hyes]
    | no hyes hno => rw [if_neg hyes, if_pos hno]
    | plain hyes hno => rw [if_neg hyes, if_neg hno]
  · rintro rfl
    split_ifs with hyes hno
    · exact .yes hyes
    · exact .no hyes hno
    · exact .plain hyes hno

/-- The link that is drawn between two parts of a line. A source with an opening parenthesis in it and a closing
one at its end is cut at the first opening one, and what stands between the two decides the style. -/
inductive Draws (pre : String) : List Char → List Char → Link → Prop where
  | specified {name inner target : List Char} {style : LinkStyle} (hname : '(' ∉ name)
      (hstyle : Styled inner style) :
      Draws pre (name ++ '(' :: (inner ++ [')'])) target
        ⟨qualify pre (String.ofList (strip name)), qualify pre (String.ofList target), style⟩
  | plain {source target : List Char} (hsource : ¬('(' ∈ source ∧ source.getLast? = some ')')) :
      Draws pre source target ⟨qualify pre (String.ofList source), qualify pre (String.ofList target), .plain⟩

theorem isSpecified_eq_true {source : List Char} :
    isSpecified source = true ↔ '(' ∈ source ∧ source.getLast? = some ')' := by
  simp [isSpecified]

/-- A specified source has its parentheses one behind the other. -/
theorem exists_of_isSpecified {source : List Char} (h : isSpecified source = true) :
    ∃ name inner, source = name ++ '(' :: (inner ++ [')']) ∧ '(' ∉ name := by
  obtain ⟨hopen, hclose⟩ := isSpecified_eq_true.1 h
  obtain ⟨name, rest, rfl, hname⟩ := List.eq_append_cons_of_mem hopen
  rcases List.eq_nil_or_concat' rest with rfl | ⟨inner, c, rfl⟩
  · -- the opening parenthesis is not a closing one
    simp at hclose
  · rw [← List.cons_append, ← List.append_assoc, List.getLast?_concat] at hclose
    exact ⟨name, inner, by rw [Option.some.inj hclose], hname⟩

theorem draws_iff {pre : String} {source target : List Char} {l : Link} :
    Draws pre source target l ↔ link pre (source, target) = l := by
  constructor
  · intro h
    cases h with
    | @specified name inner _ style hname hstyle =>
        have hspecified : isSpecified (name ++ '(' :: (inner ++ [')'])) = true :=
          isSpecified_eq_true.2 ⟨by simp, getLast?_parens name inner⟩
        simp only [link, hspecified, if_true, beforeParen_append hname, insideParens_append hname,
          styled_iff.1 hstyle]
    | plain hsource =>
        have hspecified : ¬isSpecified source = true := fun h => hsource (isSpecified_eq_true.1 h)
        simp only [link, if_neg hspecified]
  · rintro rfl
    by_cases hspecified : isSpecified source = true
    · obtain ⟨name, inner, rfl, hname⟩ := exists_of_isSpecified hspecified
      simp only [link, hspecified, if_true, beforeParen_append hname, insideParens_append hname]
      exact .specified hname (styled_iff.2 rfl)
    · simp only [link, if_neg hspecified]
      exact .plain fun h => hspecified (isSpecified_eq_true.2 h)

/-- The links of a link line: one for every two parts that follow each other. -/
def LinksOf (pre : String) (line : List Char) (ls : List Link) : Prop :=
  ∃ parts, Cut line parts ∧
    List.Forall₂ (fun ends l => Draws pre ends.1 ends.2 l)
      ((parts.map strip).zip (parts.map strip).tail) ls

theorem neighbours_eq_zip {α : Type} (xs : List α) : neighbours xs = xs.zip xs.tail := by
  induction xs with
  | nil => rfl
  | cons a xs ih =>
      cases xs with
      | nil => rfl
      | cons b rest => rw [neighbours, ih, List.tail_cons, List.tail_cons, List.zip_cons_cons]

theorem linksOf_iff {pre : String} {line : List Char} {ls : List Link} :
    LinksOf pre line ls ↔ (linkParts line).map (link pre) = ls := by
  have hdraws : ∀ ends l, Draws pre ends.1 ends.2 l ↔ link pre ends = l := fun _ _ => draws_iff
  simp only [LinksOf, cut_iff, exists_eq_left', hdraws]
  rw [← List.forall₂_map_left_iff, List.forall₂_eq_eq_eq, linkParts, neighbours_eq_zip]

/-! ## The graph -/

/-- The node of an identifier: its last definition decides on all but its place. -/
def NodeOf (pre : String) (ls : List Line) (id : String) (n : Node) : Prop :=
  ∃ d, LastDefined ls id d ∧
    n = ⟨qualify pre id, Label.escape (String.ofList d.text) Label.defaultLimit, shapeOf d.kind,
      some (fillOf d.kind)⟩

/-- What a flow text says its graph is. -/
structure IsReading (flow pre : String) (g : Graph) : Prop where
  /-- There is one node for each identifier that is defined, in the order of the first definitions. -/
  nodes : ∃ ls, List.Forall₂ Reads (lines flow.toList) ls ∧
    List.Forall₂ (NodeOf pre ls) (definedIds ls) g.nodes
  /-- The link lines are drawn one behind the other. -/
  links : ∃ rows, List.Forall₂ (LinksOf pre) ((lines flow.toList).filter fun line => arrow <:+: line) rows ∧
    g.links = rows.flatten

/-- The table gives the nodes. -/
theorem forall₂_nodeOf (pre : String) (ls : List Line) :
    List.Forall₂ (NodeOf pre ls) (definedIds ls) ((collect none [] ls).map (node pre)) := by
  have h := tabled_collect ls
  rw [← h.ids, List.forall₂_map_left_iff, List.forall₂_map_right_iff, List.forall₂_same]
  intro d hd
  exact ⟨d, h.last d hd, rfl⟩

/-- An identifier has one node. -/
theorem NodeOf.unique {pre : String} {ls : List Line} {id : String} {n n' : Node} (h : NodeOf pre ls id n)
    (h' : NodeOf pre ls id n') : n = n' := by
  obtain ⟨d, hd, rfl⟩ := h
  obtain ⟨d', hd', rfl⟩ := h'
  rw [hd.unique hd']

/-- The links of a text are those of its link lines. -/
theorem flatMap_lineLinks (pre : String) (ls : List (List Char)) : ls.flatMap (lineLinks pre) =
    ((ls.filter fun line => arrow <:+: line).map fun line => (linkParts line).map (link pre)).flatten := by
  induction ls with
  | nil => rfl
  | cons line ls ih =>
      rw [List.flatMap_cons, ih, lineLinks]
      by_cases harrow : arrow <:+: line
      · rw [if_pos (isLink_iff.2 harrow), List.filter_cons_of_pos (by simpa using harrow), List.map_cons,
          List.flatten_cons]
      · rw [if_neg (fun h => harrow (isLink_iff.1 h)), List.filter_cons_of_neg (by simpa using harrow),
          List.nil_append]

/-- The reader's graph is one that the text is read as. -/
theorem isReading_graph (flow pre : String) : IsReading flow pre (graph flow pre) where
  nodes := by
    refine ⟨(lines flow.toList).map Line.ofChars, ?_, forall₂_nodeOf pre _⟩
    rw [List.forall₂_map_right_iff, List.forall₂_same]
    exact fun line _ => reads_ofChars line
  links := by
    refine ⟨_, ?_, flatMap_lineLinks pre (lines flow.toList)⟩
    rw [List.forall₂_map_right_iff, List.forall₂_same]
    exact fun line _ => linksOf_iff.2 rfl

/-- A text is read as one graph. -/
theorem IsReading.unique {flow pre : String} {g g' : Graph} (h : IsReading flow pre g)
    (h' : IsReading flow pre g') : g = g' := by
  have hreads : Relator.RightUnique Reads := fun _ _ _ hl hl' => (reads_iff.1 hl).symm.trans (reads_iff.1 hl')
  have hlinks : Relator.RightUnique (LinksOf pre) := fun _ _ _ hl hl' =>
    (linksOf_iff.1 hl).symm.trans (linksOf_iff.1 hl')
  obtain ⟨ls, hls, hnodes⟩ := h.nodes
  obtain ⟨ls', hls', hnodes'⟩ := h'.nodes
  obtain ⟨rows, hrows, heq⟩ := h.links
  obtain ⟨rows', hrows', heq'⟩ := h'.links
  obtain rfl := List.right_unique_forall₂' hreads hls hls'
  obtain rfl := List.right_unique_forall₂' hlinks hrows hrows'
  have hnode : Relator.RightUnique (NodeOf pre ls) := fun _ _ _ => NodeOf.unique
  obtain ⟨nodes, links⟩ := g
  obtain ⟨nodes', links'⟩ := g'
  rw [Dot.Graph.mk.injEq]
  exact ⟨List.right_unique_forall₂' hnode hnodes hnodes', heq.trans heq'.symm⟩

/-- **A flow text is read as the graph that it says**, and as no other. -/
theorem isReading_iff {flow pre : String} {g : Graph} : IsReading flow pre g ↔ g = graph flow pre := by
  constructor
  · intro h
    exact h.unique (isReading_graph flow pre)
  · rintro rfl
    exact isReading_graph flow pre

end CodeFlow.FlowText
