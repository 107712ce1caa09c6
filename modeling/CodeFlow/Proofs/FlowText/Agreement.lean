import Mathlib
import CodeFlow.FlowText.Mermaid
import CodeFlow.Proofs.FlowText

/-!
# `CodeFlow.Proofs.FlowText.Agreement` — one flow text, drawn in two ways

There are two readers of flow texts: one writes DOT statements, the other a Mermaid diagram. Both go line
by line, but they put their questions to a line in different orders, and only the first takes apart
whatever stands in parentheses behind the source of a link. This module says of which texts they draw the
same chart.

## Contents
- `Outline`: what a diagram declares and draws, whichever way it is written.
- `Mermaid.Item`, `Mermaid.items`: a Mermaid diagram as data; `Mermaid.diagram_eq`.
- `Listing`: definitions, a line each, and then links.
- `Listing.items_eq`, `Listing.ids_graph`, `Listing.links_graph`: what each reader makes of a listing.
- `Listing.outlines_agree_iff`, and `turned`, which is drawn differently.
-/

namespace CodeFlow

open Text Ident Dot

/-- The word that stands on a link. -/
def Dot.LinkStyle.word : LinkStyle → Option String
  | .plain => none
  | .yes => some "yes"
  | .no => some "no"
  | .otherwise => some "no"
  | .dotted => none

namespace FlowText

/-! ## Outlines -/

/-- What a diagram shows, whichever way it is written. -/
structure Outline where
  /-- The identifiers that are declared, in order. -/
  ids : List String
  /-- The links in order, each with its source, its target and the word on it. -/
  links : List (String × String × Option String)
deriving DecidableEq

/-- The outline of DOT statements. -/
def Outline.ofGraph (g : Graph) : Outline where
  ids := g.ids
  links := g.links.map fun l => (l.source, l.target, l.style.word)

namespace Mermaid

/-- What a line of a Mermaid diagram is. -/
inductive Item where
  /-- It declares a step. -/
  | node (d : Definition)
  /-- It draws a link. -/
  | link (source target : String) (word : Option String)

namespace Item

/-- The line. -/
def render : Item → String
  | .node d => Mermaid.node d
  | .link source target none => "    " ++ source ++ " --> " ++ target
  | .link source target (some word) => "    " ++ source ++ (" -->|" ++ word ++ "| ") ++ target

/-- The identifier that is declared. -/
def id? : Item → Option String
  | .node d => some d.id
  | .link _ _ _ => none

/-- The link that is drawn. -/
def link? : Item → Option (String × String × Option String)
  | .node _ => none
  | .link source target word => some (source, target, word)

end Item

/-- The item of a link between two ends. -/
def linkItem (ends : List Char × List Char) : Item :=
  .link (String.ofList (condition ends.1).2) (String.ofList ends.2) (condition ends.1).1

/-- The items of a line. -/
def lineItems (line : List Char) : List Item :=
  match readDefinition? (strip line) with
  | some d => [.node d]
  | none => if isLink (strip line) then (linkParts (strip line)).map linkItem else []

/-- The items of a flow text. -/
def items (flow : String) : List Item := (lines flow.toList).flatMap lineItems

theorem render_linkItem (ends : List Char × List Char) : (linkItem ends).render = link ends := by
  unfold linkItem link
  cases condition ends.1 with
  | mk word source => cases word <;> rfl

theorem drawLine_eq (line : List Char) : drawLine line = (lineItems line).map Item.render := by
  unfold drawLine lineItems
  simp only
  cases readDefinition? (strip line) with
  | some d => rfl
  | none =>
      simp only
      split_ifs
      · simp [Function.comp_def, render_linkItem]
      · rfl

/-- A Mermaid diagram is its heading and its items, a line each. -/
theorem diagram_eq (flow : String) (theme : Option String) :
    diagram flow theme = joinStrings "\n" (heading theme ++ (items flow).map Item.render) := by
  have hlines : drawLine = fun line => (lineItems line).map Item.render := funext drawLine_eq
  simp [diagram, items, List.map_flatMap, hlines]

end Mermaid

/-- The outline of Mermaid items. -/
def Outline.ofItems (is : List Mermaid.Item) : Outline where
  ids := is.filterMap Mermaid.Item.id?
  links := is.filterMap Mermaid.Item.link?

/-- An outline in which only what stands before a parenthesis counts as the source of a link. -/
def Outline.bare (o : Outline) : Outline where
  ids := o.ids
  links := o.links.map fun (source, ends) => (String.ofList (beforeParen source.toList), ends)

/-! ## Listings -/

/-- A line that defines a step: `id=>kind:text`. -/
structure DefinitionLine where
  /-- The identifier of the step. -/
  id : List Char
  /-- The kind of step. -/
  kind : List Char
  /-- What the step says. -/
  text : List Char
  /-- The identifier is an ASCII word. -/
  isNameText_id : IsNameText id
  /-- The kind is a word. -/
  isWordText_kind : IsWordText kind

/-- The characters of the line. -/
def DefinitionLine.chars (d : DefinitionLine) : List Char :=
  d.id ++ '=' :: '>' :: (d.kind ++ ':' :: d.text)

/-- A line that links two steps: `a->b` or `a(spec)->b`. -/
structure LinkLine where
  /-- The step where the link starts. -/
  source : List Char
  /-- What stands in parentheses behind it. -/
  spec : Option (List Char)
  /-- The step where the link ends. -/
  target : List Char
  /-- The specification has neither arrows nor parentheses. -/
  plain : ∀ inner ∈ spec, isLink inner = false ∧ '(' ∉ inner ∧ ')' ∉ inner

/-- The characters of the line. -/
def LinkLine.chars (l : LinkLine) : List Char := l.source ++ specText l.spec ++ '-' :: '>' :: l.target

/-- Definitions and then links. -/
structure Listing where
  /-- The definitions. -/
  definitions : List DefinitionLine
  /-- The links. -/
  links : List LinkLine
  /-- No two definitions have one identifier. -/
  distinct : (definitions.map (·.id)).Nodup
  /-- Links join steps that are defined. -/
  joined : ∀ l ∈ links, l.source ∈ definitions.map (·.id) ∧ l.target ∈ definitions.map (·.id)

namespace Listing

/-- The lines of a listing. -/
def lines (d : Listing) : List (List Char) :=
  d.definitions.map DefinitionLine.chars ++ d.links.map LinkLine.chars

/-- A flow text has the lines of a listing, and perhaps blank ones among them. -/
def WrittenAs (d : Listing) (flow : String) : Prop :=
  (Text.lines flow.toList).filter (fun line => !(strip line).isEmpty) = d.lines

end Listing

/-! ## The lines of a listing -/

namespace DefinitionLine

variable (d : DefinitionLine)

/-- There is an arrow in the line just if there is one in the text. -/
theorem isLink_chars : isLink d.chars = isLink d.text := by
  have hid : '-' ∉ d.id ++ ['=', '>'] := by
    simpa using d.isNameText_id.not_mem (c := '-') rfl
  have hkind : '-' ∉ d.kind ++ [':'] := by
    have : '-' ∉ d.kind := fun hm => absurd (d.isWordText_kind.word _ hm) (by decide)
    simpa using this
  have hshape : d.chars = (d.id ++ ['=', '>']) ++ ((d.kind ++ [':']) ++ d.text) := by simp [chars]
  rw [hshape, isLink, arrow, occurs_append_of_not_mem hid, occurs_append_of_not_mem hkind]
  rfl

theorem declared_chars : declared d.chars = if isLink d.text then [] else [String.ofList d.id] := by
  rw [← d.isLink_chars]
  split_ifs with h
  · exact declared_link h
  · exact declared_definition d.isNameText_id d.isWordText_kind (by simpa [chars] using h)

theorem strip_chars : strip d.chars = d.id ++ '=' :: '>' :: (d.kind ++ ':' :: stripEnd d.text) := by
  obtain ⟨c, id, hid⟩ := List.exists_cons_of_ne_nil d.isNameText_id.ne_nil
  have hc : isBlank c = false := isBlank_of_isIdentChar (d.isNameText_id.ident c (by simp [hid]))
  have hcolon : isBlank ':' = false := by decide
  have hend := dropEndWhile_append_cons hcolon (id ++ '=' :: '>' :: d.kind) d.text
  rw [chars, hid, List.cons_append, strip_cons hc]
  simpa [stripEnd] using hend

theorem lineItems_chars : Mermaid.lineItems d.chars =
    [.node ⟨String.ofList d.id, String.ofList d.kind, stripStart (stripEnd d.text)⟩] := by
  have hread := readDefinition?_append d.isNameText_id.isWordText d.isWordText_kind (stripEnd d.text)
  rw [Mermaid.lineItems, d.strip_chars, hread]

end DefinitionLine

/-- What stands in parentheses is found there just if it is all that stands there. -/
theorem occurs_parens {source inner : List Char} (word : List Char) (hsource : '(' ∉ source)
    (hinner : '(' ∉ inner ∧ ')' ∉ inner) (hword : ')' ∉ word) :
    occurs (specText (some word)) (source ++ specText (some inner)) = decide (inner = word) := by
  have hrest : occurs ('(' :: (word ++ [')'])) (inner ++ [')']) = false := by
    have := occurs_append_of_not_mem (x := '(') (t := inner ++ [')']) (by simpa using hinner.1)
      (word ++ [')']) []
    rwa [List.append_nil] at this
  have hclose : (word ++ [')']).isPrefixOf (inner ++ [')']) = decide (inner = word) := by
    rw [Bool.eq_iff_iff, List.isPrefixOf_iff_prefix, decide_eq_true_eq]
    constructor
    · rintro ⟨rest, hrest⟩
      -- both end at their first closing parenthesis
      have hcut := congrArg (List.takeWhile (· != ')')) hrest
      rw [List.append_assoc, List.takeWhile_append_of_pos (bne_of_not_mem hword),
        List.takeWhile_append_of_pos (bne_of_not_mem hinner.2)] at hcut
      simpa using hcut.symm
    · rintro rfl
      exact List.prefix_rfl
  rw [specText, specText, occurs_append_of_not_mem hsource, occurs, hrest, Bool.or_false]
  simpa [List.isPrefixOf] using hclose

/-- What stands in parentheses is removed with them. -/
theorem replace_parens {source word : List Char} (hsource : '(' ∉ source) :
    replace (specText (some word)) [] (source ++ specText (some word)) = source := by
  have hskip : ∀ t : List Char, replaceFrom (specText (some word)) [] t.length t = [] := by
    intro t
    induction t with
    | nil => rfl
    | cons c t ih => exact ih
  unfold replace
  induction source with
  | nil =>
      have hself : (specText (some word)).isPrefixOf ('(' :: (word ++ [')'])) = true := by
        simp [specText]
      have hlength : (specText (some word)).length - 1 = (word ++ [')']).length := by simp [specText]
      change replaceFrom _ [] 0 ('(' :: (word ++ [')'])) = []
      rw [replaceFrom, if_pos hself, hlength, hskip, List.append_nil]
  | cons c source ih =>
      have hc : '(' ≠ c := List.ne_of_not_mem_cons hsource
      have hrest := ih (List.not_mem_of_not_mem_cons hsource)
      have hhead : (specText (some word)).isPrefixOf (c :: (source ++ specText (some word))) = false := by
        simp [specText, List.isPrefixOf, hc]
      rw [List.cons_append, replaceFrom, hhead, hrest]
      rfl

namespace Mermaid

theorem condition_specified {source : List Char} (hsource : IsNameText source) {inner : List Char}
    (hinner : '(' ∉ inner ∧ ')' ∉ inner) :
    condition (source ++ specText (some inner)) =
      if inner = ['y', 'e', 's'] then (some "yes", source)
      else if inner = ['n', 'o'] then (some "no", source)
      else (none, source ++ specText (some inner)) := by
  have hparen : '(' ∉ source := hsource.not_mem rfl
  have hyes := occurs_parens ['y', 'e', 's'] hparen hinner (by decide)
  have hno := occurs_parens ['n', 'o'] hparen hinner (by decide)
  have hspecified : isSpecified (source ++ specText (some inner)) = true := isSpecified_iff hsource
  change (if isSpecified (source ++ specText (some inner)) = true then
    if occurs (specText (some ['y', 'e', 's'])) (source ++ specText (some inner)) = true then
      (some "yes", replace (specText (some ['y', 'e', 's'])) [] (source ++ specText (some inner)))
    else if occurs (specText (some ['n', 'o'])) (source ++ specText (some inner)) = true then
      (some "no", replace (specText (some ['n', 'o'])) [] (source ++ specText (some inner)))
    else (none, source ++ specText (some inner))
    else (none, source ++ specText (some inner))) = _
  rw [if_pos hspecified, hyes, hno]
  simp only [decide_eq_true_eq]
  split_ifs with h h'
  · rw [h, replace_parens hparen]
  · rw [h', replace_parens hparen]
  · rfl

end Mermaid

namespace LinkLine

variable (l : LinkLine)

/-- The link as DOT statements draw it. -/
def drawn : String × String × Option String :=
  (String.ofList l.source, String.ofList l.target, (specStyle l.spec).word)

/-- The link as a Mermaid diagram draws it. -/
def sketched : String × String × Option String :=
  let (word, source) := Mermaid.condition (l.source ++ specText l.spec)
  (String.ofList source, String.ofList l.target, word)

variable {l} (hsource : IsNameText l.source) (htarget : IsNameText l.target)

include hsource htarget

theorem lineLinks_chars : lineLinks "" l.chars =
    [⟨String.ofList l.source, String.ofList l.target, specStyle l.spec⟩] := by
  rw [chars, lineLinks_arrow hsource (fun inner h => (l.plain inner h).1) htarget, hsource.qualify_eq,
    htarget.qualify_eq]

theorem strip_chars : strip l.chars = l.chars := by
  have hhead : ∀ c, l.chars.head? = some c → isBlank c = false := by
    intro c hc
    rw [chars, List.append_assoc, List.head?_append_of_ne_nil _ hsource.ne_nil] at hc
    exact isBlank_of_isIdentChar (hsource.ident c (List.mem_of_mem_head? hc))
  have hlast : ∀ c, l.chars.getLast? = some c → isBlank c = false := by
    intro c hc
    have hshape : l.chars = (l.source ++ specText l.spec ++ ['-', '>']) ++ l.target := by simp [chars]
    rw [hshape, List.getLast?_append_of_ne_nil _ htarget.ne_nil] at hc
    exact isBlank_of_isIdentChar (htarget.ident c (List.mem_of_getLast? hc))
  have := @strip_padded [] l.chars [] (by simp) (by simp) (by simp [chars]) hhead hlast
  simpa using this

theorem lineItems_chars : Mermaid.lineItems l.chars =
    [Mermaid.linkItem (l.source ++ specText l.spec, l.target)] := by
  -- a parenthesis or a dash follows the source, so the line is no definition
  have hread : readDefinition? l.chars = none := by
    cases hspec : l.spec with
    | none =>
        have := readDefinition?_marked hsource.isWordText (x := '-') (by decide) (by decide)
          ('>' :: l.target)
        simpa [chars, hspec, specText] using this
    | some inner =>
        have := readDefinition?_marked hsource.isWordText (x := '(') (by decide) (by decide)
          (inner ++ ')' :: '-' :: '>' :: l.target)
        simpa [chars, hspec, specText] using this
  have hparts := linkParts_arrow hsource (fun inner h => (l.plain inner h).1) htarget
  rw [Mermaid.lineItems, strip_chars hsource htarget, hread]
  simp only
  rw [chars, if_pos isLink_arrow, hparts, List.map_singleton]

omit htarget in
/-- Only a specification that is nothing but `yes` or `no` becomes a word on the link; any other stays
part of the source. -/
theorem sketched_eq : l.sketched = match l.spec with
    | none => (String.ofList l.source, String.ofList l.target, none)
    | some inner =>
      if inner = ['y', 'e', 's'] then (String.ofList l.source, String.ofList l.target, some "yes")
      else if inner = ['n', 'o'] then (String.ofList l.source, String.ofList l.target, some "no")
      else (String.ofList (l.source ++ specText (some inner)), String.ofList l.target, none) := by
  have hplain := l.plain
  unfold sketched
  cases hspec : l.spec with
  | none =>
      have hspecified : isSpecified (l.source ++ specText none) = false := isSpecified_iff hsource
      rw [specText, List.append_nil] at *
      simp [Mermaid.condition, hspecified]
  | some inner =>
      rw [Mermaid.condition_specified hsource (hplain inner hspec).2]
      simp only
      split_ifs <;> rfl

omit hsource htarget in
theorem word_styleOf_eq_none {t : List Char} : (styleOf t).word = none ↔ styleOf t = .plain := by
  unfold styleOf
  simp only
  split_ifs <;> simp [LinkStyle.word]

omit htarget in
/-- The two readers draw a link alike just if its source has no specification, or one of the two words. -/
theorem sketched_eq_drawn_iff : l.sketched = l.drawn ↔
    ∀ inner ∈ l.spec, inner = ['y', 'e', 's'] ∨ inner = ['n', 'o'] := by
  have hyes : (styleOf ['y', 'e', 's']).word = some "yes" := by decide +kernel
  have hno : (styleOf ['n', 'o']).word = some "no" := by decide +kernel
  rw [sketched_eq hsource, drawn]
  cases l.spec with
  | none => simp [specStyle, LinkStyle.word]
  | some inner =>
      simp only [specStyle, Option.mem_some_iff, forall_eq']
      split_ifs with h h'
      · simp [h, hyes]
      · simp [h', hno]
      · -- the parentheses are still there
        simp [h, h', specText]

omit htarget in
/-- If only what stands before a parenthesis counts as the source, any other specification will do as well
that speaks of neither word. -/
theorem bare_sketched_eq_drawn_iff :
    (String.ofList (beforeParen l.sketched.1.toList), l.sketched.2) = l.drawn ↔
      ∀ inner ∈ l.spec, inner = ['y', 'e', 's'] ∨ inner = ['n', 'o'] ∨ styleOf inner = .plain := by
  have hyes : (styleOf ['y', 'e', 's']).word = some "yes" := by decide +kernel
  have hno : (styleOf ['n', 'o']).word = some "no" := by decide +kernel
  have hbare : beforeParen l.source = l.source := by
    have : beforeParen (l.source ++ specText none) = l.source := beforeParen_specified hsource
    simpa [specText] using this
  rw [sketched_eq hsource, drawn]
  cases l.spec with
  | none => simp [specStyle, LinkStyle.word, hbare]
  | some inner =>
      simp only [specStyle, Option.mem_some_iff, forall_eq']
      split_ifs with h h'
      · simp [h, hyes, hbare]
      · simp [h', hno, hbare]
      · rw [String.toList_ofList, beforeParen_specified hsource]
        simp [h, h', eq_comm (a := none), word_styleOf_eq_none]

end LinkLine

/-! ## What the two readers make of a listing -/

namespace Listing

variable {d : Listing} {flow : String} (h : d.WrittenAs flow)

theorem isNameText_of_mem {t : List Char} (ht : t ∈ d.definitions.map (·.id)) : IsNameText t := by
  obtain ⟨x, -, rfl⟩ := List.mem_map.1 ht
  exact x.isNameText_id

include h

/-- To a reader that finds nothing in blank lines, a listing is its definitions and its links. -/
theorem flatMap_lines {β : Type} {f : List Char → List β} (hf : ∀ line, strip line = [] → f line = []) :
    (Text.lines flow.toList).flatMap f =
      d.definitions.flatMap (fun x => f x.chars) ++ d.links.flatMap fun l => f l.chars := by
  have hblank := flatMap_filter_of_nil (p := fun line => !(strip line).isEmpty) (f := f)
    (fun line hline => hf line (by simpa using hline)) (Text.lines flow.toList)
  rw [← hblank, h, lines, List.flatMap_append, List.flatMap_map, List.flatMap_map]

/-- The Mermaid diagram has a node for each definition and a link for each link. -/
theorem items_eq : Mermaid.items flow =
    d.definitions.map (fun x =>
      .node ⟨String.ofList x.id, String.ofList x.kind, stripStart (stripEnd x.text)⟩) ++
    d.links.map fun l => Mermaid.linkItem (l.source ++ specText l.spec, l.target) := by
  have hblank : ∀ line, strip line = [] → Mermaid.lineItems line = [] := fun line hline => by
    rw [Mermaid.lineItems, hline]
    rfl
  have hlink : ∀ l ∈ d.links, Mermaid.lineItems l.chars =
      [Mermaid.linkItem (l.source ++ specText l.spec, l.target)] := fun l hl =>
    LinkLine.lineItems_chars (isNameText_of_mem (d.joined l hl).1) (isNameText_of_mem (d.joined l hl).2)
  rw [Mermaid.items, flatMap_lines h hblank, List.flatMap_congr hlink, List.map_eq_flatMap,
    List.map_eq_flatMap]
  simp only [DefinitionLine.lineItems_chars]

theorem outline_items : Outline.ofItems (Mermaid.items flow) =
    ⟨d.definitions.map fun x => String.ofList x.id, d.links.map LinkLine.sketched⟩ := by
  rw [items_eq h]
  simp [Outline.ofItems, Function.comp_def, Mermaid.Item.id?, Mermaid.Item.link?, Mermaid.linkItem,
    LinkLine.sketched]

/-- The DOT statements declare the definitions without an arrow. -/
theorem ids_graph : (graph flow "").ids =
    (d.definitions.filter fun x => !isLink x.text).map fun x => String.ofList x.id := by
  have hdeclared : (Text.lines flow.toList).flatMap declared =
      (d.definitions.filter fun x => !isLink x.text).map fun x => String.ofList x.id := by
    have hlinks : (d.links.flatMap fun l => declared l.chars) = [] :=
      List.flatMap_eq_nil_iff.2 fun l _ => declared_link isLink_arrow
    have harrow := flatMap_filter_of_nil (p := fun x => !isLink x.text)
      (f := fun x : DefinitionLine => declared x.chars)
      (fun x hx => by simpa [x.declared_chars] using hx) d.definitions
    rw [flatMap_lines h fun _ => declared_blank, hlinks, List.append_nil, ← harrow, List.map_eq_flatMap]
    refine List.flatMap_congr fun x hx => ?_
    have : isLink x.text = false := by simpa using (List.mem_filter.1 hx).2
    rw [x.declared_chars, this]
    rfl
  have hnodup : ((Text.lines flow.toList).flatMap declared).Nodup := by
    have hall : (d.definitions.map fun x => String.ofList x.id).Nodup := by
      have := d.distinct.map fun _ _ => String.ofList_injective
      rwa [List.map_map] at this
    rw [hdeclared]
    exact hall.sublist (List.filter_sublist.map _)
  have hids : (graph flow "").ids = ((FlowText.definitions flow.toList).map (·.id)).map (qualify "") := by
    simp [Graph.ids, graph, node]
  rw [hids, ids_definitions hnodup, hdeclared, List.map_map]
  exact List.map_congr_left fun x _ => x.isNameText_id.qualify_eq

/-- The DOT statements draw the links, behind those that texts happen to have. -/
theorem links_graph : (graph flow "").links = d.definitions.flatMap (fun x => lineLinks "" x.chars) ++
    d.links.map fun l => ⟨String.ofList l.source, String.ofList l.target, specStyle l.spec⟩ := by
  have hlink : ∀ l ∈ d.links, lineLinks "" l.chars =
      [⟨String.ofList l.source, String.ofList l.target, specStyle l.spec⟩] := fun l hl =>
    LinkLine.lineLinks_chars (isNameText_of_mem (d.joined l hl).1) (isNameText_of_mem (d.joined l hl).2)
  have hgraph : (graph flow "").links = (Text.lines flow.toList).flatMap (lineLinks "") := rfl
  rw [hgraph, flatMap_lines h fun _ hline => lineLinks_blank hline "", List.flatMap_congr hlink,
    List.map_eq_flatMap]

/-- DOT statements of which a listing is drawn: identifiers decide about texts, and then only links are
left to be compared. -/
theorem eq_outline_graph_iff (links : List (String × String × Option String)) :
    (⟨d.definitions.map fun x => String.ofList x.id, links⟩ : Outline) = Outline.ofGraph (graph flow "") ↔
      (∀ x ∈ d.definitions, isLink x.text = false) ∧ links = d.links.map LinkLine.drawn := by
  have hlinks : (∀ x ∈ d.definitions, isLink x.text = false) →
      (Outline.ofGraph (graph flow "")).links = d.links.map LinkLine.drawn := by
    intro hplain
    have hstray : (d.definitions.flatMap fun x => lineLinks "" x.chars) = [] :=
      List.flatMap_eq_nil_iff.2 fun x hx => by simp [lineLinks, x.isLink_chars, hplain x hx]
    rw [Outline.ofGraph, links_graph h, hstray, List.nil_append, List.map_map]
    rfl
  constructor
  · intro heq
    have hids : d.definitions.map (fun x => String.ofList x.id) = (graph flow "").ids :=
      congrArg Outline.ids heq
    -- as many identifiers as definitions, so none was left out
    have hlength := congrArg List.length hids
    rw [ids_graph h, List.length_map, List.length_map] at hlength
    have hplain : ∀ x ∈ d.definitions, isLink x.text = false := by
      simpa using List.length_filter_eq_length_iff.1 hlength.symm
    exact ⟨hplain, (congrArg Outline.links heq).trans (hlinks hplain)⟩
  · rintro ⟨hplain, rfl⟩
    have hfilter : d.definitions.filter (fun x => !isLink x.text) = d.definitions :=
      List.filter_eq_self.2 fun x hx => by simp [hplain x hx]
    have hids : (Outline.ofGraph (graph flow "")).ids = d.definitions.map fun x => String.ofList x.id := by
      rw [Outline.ofGraph, ids_graph h, hfilter]
    rw [← hids, ← hlinks hplain]

/-- **When the two readers draw one chart.** The Mermaid diagram is its heading and its items, a line each.
It shows what the DOT statements show just if no text has an arrow in it and no source has a specification
other than `yes` and `no`. If only what stands before a parenthesis counts as a source there, a
specification that speaks of neither word does no harm. -/
theorem outlines_agree_iff :
    (∀ theme, Mermaid.diagram flow theme =
      joinStrings "\n" (Mermaid.heading theme ++ (Mermaid.items flow).map Mermaid.Item.render)) ∧
    (Outline.ofItems (Mermaid.items flow) = Outline.ofGraph (graph flow "") ↔
      (∀ x ∈ d.definitions, isLink x.text = false) ∧
      ∀ l ∈ d.links, ∀ inner ∈ l.spec, inner = ['y', 'e', 's'] ∨ inner = ['n', 'o']) ∧
    ((Outline.ofItems (Mermaid.items flow)).bare = Outline.ofGraph (graph flow "") ↔
      (∀ x ∈ d.definitions, isLink x.text = false) ∧
      ∀ l ∈ d.links, ∀ inner ∈ l.spec, inner = ['y', 'e', 's'] ∨ inner = ['n', 'o'] ∨
        styleOf inner = .plain) := by
  have hsource : ∀ l ∈ d.links, IsNameText l.source := fun l hl => isNameText_of_mem (d.joined l hl).1
  refine ⟨Mermaid.diagram_eq flow, ?_, ?_⟩
  · rw [outline_items h, eq_outline_graph_iff h, List.map_inj_left]
    exact and_congr_right fun _ => forall₂_congr fun l hl => LinkLine.sketched_eq_drawn_iff (hsource l hl)
  · rw [outline_items h, Outline.bare, eq_outline_graph_iff h, List.map_map, List.map_inj_left]
    exact and_congr_right fun _ => forall₂_congr fun l hl =>
      LinkLine.bare_sketched_eq_drawn_iff (hsource l hl)

omit h

/-- A condition of which one link turns to the right. -/
def turned : Listing where
  definitions :=
    [⟨['c'], "condition".toList, " x".toList, ⟨List.all_eq_true.1 rfl, by simp⟩,
        ⟨List.all_eq_true.1 rfl, by simp⟩⟩,
      ⟨['o'], "operation".toList, " y".toList, ⟨List.all_eq_true.1 rfl, by simp⟩,
        ⟨List.all_eq_true.1 rfl, by simp⟩⟩]
  links := [⟨['c'], some "yes, right".toList, ['o'], by simp [isLink, occurs, arrow, List.isPrefixOf]⟩]
  distinct := by decide
  joined := by decide

/-- The text of `turned`. -/
def turnedText : String := "c=>condition: x\no=>operation: y\nc(yes, right)->o\n"

/-- It is written as a flow text, and the two readers draw two charts of it. -/
theorem turned_outlines_differ : turned.WrittenAs turnedText ∧
    Outline.ofItems (Mermaid.items turnedText) ≠ Outline.ofGraph (graph turnedText "") := by
  have hwritten : turned.WrittenAs turnedText := by
    unfold WrittenAs
    decide +kernel
  refine ⟨hwritten, fun hagree => ?_⟩
  have hspec := ((outlines_agree_iff hwritten).2.1.1 hagree).2
  exact absurd hspec (by decide +kernel)

/-- The Mermaid diagram has the link start at a step that is not declared, with no word on it. -/
theorem turned_link :
    (Outline.ofGraph (graph turnedText "")).links = [("c", "o", some "yes")] ∧
      (Outline.ofItems (Mermaid.items turnedText)).links = [("c(yes, right)", "o", none)] ∧
      Mermaid.diagram turnedText (some "default") =
        "graph TD\n    c\x7b\"x\"\x7d\n    o[\"y\"]\n    c(yes, right) --> o" := by
  decide +kernel

end Listing

end FlowText

end CodeFlow
