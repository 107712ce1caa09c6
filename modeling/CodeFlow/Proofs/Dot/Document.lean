import Mathlib
import CodeFlow.Dot.Document
import CodeFlow.Proofs.Ident
import CodeFlow.Rendering

/-!
# `CodeFlow.Proofs.Dot.Document` — documents read as they were written

If the identifiers of a graph are identifiers and its labels stay between their quotes, then every line
that is written for it holds one statement, and a document is the nest of blocks it was meant to be.

## Contents
- `Node.Sound`, `Link.Sound`, `Graph.Sound`, `Document.Sound`: what statements have to satisfy.
- `Tidy`: lines that can stand together in a block.
- `wellFormed_plainBody`: the text of a sound document as it is posted.
-/

namespace CodeFlow.Dot

open Text Rendering

/-! ## Sound statements -/

/-- A node statement that can be written down. -/
structure Node.Sound (n : Node) : Prop where
  /-- The identifier is one. -/
  id : isIdentifier n.id.toList = true
  /-- The label stays between its quotes. -/
  label : Quotable n.label.toList

/-- A link statement that can be written down. -/
structure Link.Sound (l : Link) : Prop where
  /-- The source is an identifier. -/
  source : isIdentifier l.source.toList = true
  /-- The target is one. -/
  target : isIdentifier l.target.toList = true

/-- Statements that can be written down. -/
structure Graph.Sound (g : Graph) : Prop where
  /-- The nodes. -/
  nodes : ∀ n ∈ g.nodes, n.Sound
  /-- The links. -/
  links : ∀ l ∈ g.links, l.Sound

/-- A block that can be written down. -/
structure Cluster.Sound (c : Cluster) : Prop where
  /-- The label stays between its quotes. -/
  label : Quotable c.label.toList
  /-- The statements. -/
  graph : c.graph.Sound

/-- A document that can be written down. -/
def Document.Sound : Document → Prop
  | .single graph => graph.Sound
  | .clustered clusters => ∀ c ∈ clusters, c.Sound

/-! ## Identifiers in statements -/

theorem isAlphanum_of_mem_isIdentifier {t : List Char} (h : isIdentifier t = true) {c : Char}
    (hc : c ∈ t) : c.isAlphanum = true ∨ c = '_' := by
  cases t with
  | nil => simp at hc
  | cons d t =>
      simp only [isIdentifier, Bool.and_eq_true, List.all_eq_true, Bool.or_eq_true, beq_iff_eq] at h
      rcases List.mem_cons.1 hc with rfl | hc
      · exact h.1.imp_left fun ha => by simp [Char.isAlphanum, ha]
      · exact h.2 c hc

theorem isBlank_of_mem_isIdentifier {t : List Char} (h : isIdentifier t = true) {c : Char}
    (hc : c ∈ t) : isBlank c = false :=
  Ident.isBlank_of_isAlphanum (isAlphanum_of_mem_isIdentifier h hc)

/-- A character that may stand in a statement outside of strings: it is posted as it is and does not end
the statement. -/
def isCalm (c : Char) : Bool := isPlain c && !isDivider c

theorem isDivider_of_all_isCalm {t : List Char} (h : t.all isCalm = true) {c : Char} (hc : c ∈ t) :
    isDivider c = false := by
  have := List.all_eq_true.1 h c hc
  simp only [isCalm, Bool.and_eq_true, Bool.not_eq_true'] at this
  exact this.2

theorem isPlain_of_all_isCalm {t : List Char} (h : t.all isCalm = true) {c : Char} (hc : c ∈ t) :
    isPlain c = true := by
  have := List.all_eq_true.1 h c hc
  simp only [isCalm, Bool.and_eq_true] at this
  exact this.1

theorem not_mem_of_all_isCalm {t : List Char} (h : t.all isCalm = true) {c : Char}
    (hc : isDivider c = true) : c ∉ t := fun hm => by
  rw [isDivider_of_all_isCalm h hm] at hc
  exact absurd hc (by simp)

theorem all_isCalm_of_isIdentifier {t : List Char} (h : isIdentifier t = true) : t.all isCalm = true := by
  rw [List.all_eq_true]
  intro c hc
  -- letters, digits and the underscore by number: printable, and none of the dividers
  have hn := Ident.toNat_of_isAlphanum (isAlphanum_of_mem_isIdentifier h hc)
  have hlow : 32 ≤ c.toNat := by omega
  have hhigh : c.toNat < 128 := by omega
  have hdivider : ∀ d : Char, d.toNat = 59 ∨ d.toNat = 123 ∨ d.toNat = 125 → c ≠ d := by
    rintro d hd rfl
    omega
  have h1 := hdivider ';' (by decide)
  have h2 := hdivider '\x7b' (by decide)
  have h3 := hdivider '\x7d' (by decide)
  simp [isCalm, isPlain, isDivider, hlow, hhigh, h1, h2, h3]

/-- A character that does not stand in identifiers. -/
theorem not_mem_isIdentifier {t : List Char} (h : isIdentifier t = true) {c : Char}
    (hc : (c.isAlphanum || c == '_') = false) : c ∉ t := by
  intro hm
  have := isAlphanum_of_mem_isIdentifier h hm
  simp only [Bool.or_eq_false_iff, beq_eq_false_iff_ne] at hc
  rcases this with ha | ha
  · rw [hc.1] at ha; exact absurd ha (by simp)
  · exact hc.2 ha

theorem isIdentifier_ne_nil {t : List Char} (h : isIdentifier t = true) : t ≠ [] := by
  rintro rfl
  simp [isIdentifier] at h

/-- A statement is cut in front of its attributes. -/
theorem subject_append_bracket {s t : List Char} (hs : '[' ∉ s) : subject (s ++ '[' :: t) = strip s := by
  unfold subject
  rw [List.takeWhile_append_of_pos (bne_of_not_mem hs)]
  simp

theorem subject_of_not_mem {s : List Char} (hs : '[' ∉ s) : subject s = strip s := by
  unfold subject
  rw [List.takeWhile_eq_self_iff.2 (bne_of_not_mem hs)]

theorem isBlank_space : ∀ c ∈ [' '], isBlank c = true := by
  intro c hc
  rw [List.mem_singleton.1 hc]
  rfl

/-- An identifier with blanks around it. -/
theorem strip_identifier {b id e : List Char} (hb : ∀ c ∈ b, isBlank c = true)
    (he : ∀ c ∈ e, isBlank c = true) (hid : isIdentifier id = true) : strip (b ++ id ++ e) = id :=
  strip_padded hb he (isIdentifier_ne_nil hid)
    (fun _ hc => isBlank_of_mem_isIdentifier hid (List.mem_of_mem_head? hc))
    (fun _ hc => isBlank_of_mem_isIdentifier hid (List.mem_of_getLast? hc))

/-- The identifier of a node statement. -/
theorem ends_node {b id t : List Char} (hb : ∀ c ∈ b, isBlank c = true)
    (hid : isIdentifier id = true) : ends (b ++ (id ++ ' ' :: '[' :: t)) = [id] := by
  have hbracket : '[' ∉ id ++ [' '] := by
    simpa using not_mem_isIdentifier hid (by decide)
  have hsubject : subject (b ++ (id ++ ' ' :: '[' :: t)) = id := by
    have hshape : id ++ ' ' :: '[' :: t = (id ++ [' ']) ++ '[' :: t := by simp
    rw [subject_append_left hb, hshape, subject_append_bracket hbracket]
    exact strip_identifier (b := []) (by simp) isBlank_space hid
  unfold ends
  rw [hsubject, splitOn_pair_of_not_occurs (occurs_pair_of_not_mem (not_mem_isIdentifier hid (by decide)))]
  simp [strip_of_forall fun c hc => isBlank_of_mem_isIdentifier hid hc]

/-- A link between two identifiers, as it stands before its attributes. -/
def linkText (source target : List Char) : List Char := source ++ ' ' :: '-' :: '>' :: ' ' :: target

section LinkText

variable {source target : List Char} (hsource : isIdentifier source = true)
  (htarget : isIdentifier target = true)

include hsource htarget

theorem bracket_not_mem_linkText : '[' ∉ linkText source target := by
  simp [linkText, not_mem_isIdentifier hsource (c := '[') (by decide),
    not_mem_isIdentifier htarget (c := '[') (by decide)]

theorem strip_linkText {e : List Char} (he : ∀ c ∈ e, isBlank c = true) :
    strip (linkText source target ++ e) = linkText source target := by
  refine strip_padded (b := []) (t := linkText source target) (by simp) he (by simp [linkText]) ?_ ?_
  · intro c hc
    obtain ⟨d, u, hd⟩ := List.exists_cons_of_ne_nil (isIdentifier_ne_nil hsource)
    have : d = c := by simpa [linkText, hd] using hc
    exact isBlank_of_mem_isIdentifier hsource (by simp [hd, this])
  · intro c hc
    have hshape : linkText source target = (source ++ [' ', '-', '>', ' ']) ++ target := by simp [linkText]
    rw [hshape, List.getLast?_append_of_ne_nil _ (isIdentifier_ne_nil htarget)] at hc
    exact isBlank_of_mem_isIdentifier htarget (List.mem_of_getLast? hc)

theorem splitOn_linkText :
    (splitOn ['-', '>'] (linkText source target)).map strip = [source, target] := by
  have hshape : linkText source target = (source ++ [' ']) ++ '-' :: '>' :: (' ' :: target) := by
    simp [linkText]
  have hs : '-' ∉ source ++ [' '] := by simpa using not_mem_isIdentifier hsource (by decide)
  have ht : '-' ∉ ' ' :: target := by simpa using not_mem_isIdentifier htarget (by decide)
  have hsource' : strip (source ++ [' ']) = source :=
    strip_identifier (b := []) (by simp) isBlank_space hsource
  have htarget' : strip (' ' :: target) = target := by
    simpa using strip_identifier (e := []) isBlank_space (by simp) htarget
  rw [hshape, splitOn_append_pair (by decide) (occurs_pair_of_not_mem hs),
    splitOn_pair_of_not_occurs (occurs_pair_of_not_mem ht)]
  simp [hsource', htarget']

/-- The identifiers of a link statement, with or without attributes. -/
theorem ends_link {b t : List Char} (hb : ∀ c ∈ b, isBlank c = true)
    (ht : t = [] ∨ ∃ u, t = ' ' :: '[' :: u) :
    ends (b ++ (linkText source target ++ t)) = [source, target] := by
  have hbracket := bracket_not_mem_linkText hsource htarget
  have hsubject : subject (b ++ (linkText source target ++ t)) = linkText source target := by
    rw [subject_append_left hb]
    -- without attributes the statement ends with its target, else in front of the bracket
    rcases ht with rfl | ⟨u, rfl⟩
    · rw [List.append_nil, subject_of_not_mem hbracket]
      simpa using strip_linkText hsource htarget (e := []) (by simp)
    · have hshape : linkText source target ++ ' ' :: '[' :: u =
          (linkText source target ++ [' ']) ++ '[' :: u := by simp
      rw [hshape, subject_append_bracket (by simpa using hbracket),
        strip_linkText hsource htarget isBlank_space]
  unfold ends
  rw [hsubject, splitOn_linkText hsource htarget]

end LinkText

/-! ## Lines -/

/-- Lines that can stand one after the other in a block: what is outside of their strings is plain, holds
one statement a line, and opens no more braces than it closes. -/
def Tidy (ls : List (List Char)) : Prop :=
  ∃ ss, List.Forall₂ Frames ls ss ∧ (∀ s ∈ ss, LineSober s ∧ ∀ c ∈ s, isPlain c = true) ∧
    Level (ss.flatMap ('\n' :: ·))

theorem tidy_nil : Tidy [] := ⟨[], .nil, by simp, level_of_not_mem (by simp) (by simp)⟩

theorem Tidy.append {a b : List (List Char)} (ha : Tidy a) (hb : Tidy b) : Tidy (a ++ b) := by
  obtain ⟨s, hs, hsober, hlevel⟩ := ha
  obtain ⟨u, hu, husober, hulevel⟩ := hb
  refine ⟨s ++ u, List.rel_append hs hu, ?_, ?_⟩
  · intro l hl
    rcases List.mem_append.1 hl with hl | hl
    · exact hsober l hl
    · exact husober l hl
  · rw [List.flatMap_append]
    exact hlevel.append hulevel

theorem tidy_flatMap {α : Type} {f : α → List (List Char)} {xs : List α} (h : ∀ x ∈ xs, Tidy (f x)) :
    Tidy (xs.flatMap f) := by
  induction xs with
  | nil => exact tidy_nil
  | cons x xs ih =>
      rw [List.flatMap_cons]
      exact (h x List.mem_cons_self).append (ih fun y hy => h y (List.mem_cons_of_mem _ hy))

theorem tidy_blank : Tidy [[]] :=
  ⟨[[]], .cons rfl .nil, by simp [LineSober], level_of_not_mem (by decide) (by decide)⟩

/-- A line with a statement. -/
theorem tidy_statement {l s : List Char} (hframes : Frames l (s ++ [';'])) (hcalm : s.all isCalm = true)
    (hsober : Sober s) : Tidy [l] := by
  refine ⟨[s ++ [';']], .cons hframes .nil, ?_, ?_⟩
  · intro l hl
    rw [List.mem_singleton.1 hl]
    refine ⟨.inr ⟨s, ';', rfl, rfl, fun _ => isDivider_of_all_isCalm hcalm, hsober⟩, fun c hc => ?_⟩
    rcases List.mem_append.1 hc with hc | hc
    · exact isPlain_of_all_isCalm hcalm hc
    · rw [List.mem_singleton.1 hc]; rfl
  · have hopen := not_mem_of_all_isCalm hcalm (c := '\x7b') rfl
    have hclose := not_mem_of_all_isCalm hcalm (c := '\x7d') rfl
    exact level_of_not_mem (by simpa using hopen) (by simpa using hclose)

/-- The line that closes a block. -/
def closing : List Char := "    \x7d".toList

theorem lineSober_closing : LineSober closing :=
  .inr ⟨"    ".toList, '\x7d', rfl, rfl, by simp [isDivider], sober_blank (List.all_eq_true.1 rfl)⟩

/-- Lines in a block of their own. -/
theorem Tidy.braces {ls : List (List Char)} (h : Tidy ls) {s : List Char} (hs : '"' ∉ s)
    (hcalm : s.all isCalm = true) (hsober : Sober s) :
    Tidy ([s ++ ['\x7b']] ++ ls ++ [closing]) := by
  obtain ⟨ss, hss, hlines, hlevel⟩ := h
  refine ⟨[s ++ ['\x7b']] ++ ss ++ [closing], ?_, ?_, ?_⟩
  · have hopen : Frames (s ++ ['\x7b']) (s ++ ['\x7b']) := frames_self (by simpa using hs)
    have hclose : Frames closing closing := frames_self (by decide)
    exact List.rel_append (List.rel_append (.cons hopen .nil) hss) (.cons hclose .nil)
  · intro x hx
    simp only [List.mem_append, List.mem_singleton] at hx
    rcases hx with (rfl | hx) | rfl
    · refine ⟨.inr ⟨s, '\x7b', rfl, rfl, fun _ => isDivider_of_all_isCalm hcalm, hsober⟩, fun c hc => ?_⟩
      rcases List.mem_append.1 hc with hc | hc
      · exact isPlain_of_all_isCalm hcalm hc
      · rw [List.mem_singleton.1 hc]; rfl
    · exact hlines x hx
    · exact ⟨lineSober_closing, List.all_eq_true.1 rfl⟩
  · -- the brace at the end of the first line is the one that the last line closes
    have hflat : ([s ++ ['\x7b']] ++ ss ++ [closing]).flatMap ('\n' :: ·) =
        ('\n' :: s) ++ ('\x7b' :: (ss.flatMap ('\n' :: ·) ++ "\n    ".toList) ++ ['\x7d']) := by
      simp [closing]
    have hopen := not_mem_of_all_isCalm hcalm (c := '\x7b') rfl
    have hclose := not_mem_of_all_isCalm hcalm (c := '\x7d') rfl
    have hhead : Level ('\n' :: s) := level_of_not_mem (by simpa using hopen) (by simpa using hclose)
    have htail : Level "\n    ".toList := level_of_not_mem (by decide) (by decide)
    rw [hflat]
    exact hhead.append (hlevel.append htail).braces

/-! ## Statements as lines -/

/-- What is left of the attributes that fill a node. -/
def fillFrame : Option Fill → List Char
  | none => []
  | some _ => ", style=filled, fillcolor=\"\"".toList

theorem frames_fillAttributes (f : Option Fill) : Frames (fillAttributes f).toList (fillFrame f) := by
  cases f with
  | none => rfl
  | some fill => cases fill <;> rfl

theorem all_isCalm_fillFrame (f : Option Fill) : (fillFrame f).all isCalm = true := by
  cases f <;> rfl

theorem all_isCalm_word (s : Shape) : s.word.toList.all isCalm = true := by
  cases s <;> rfl

theorem quote_not_mem_word (s : Shape) : '"' ∉ s.word.toList := by
  cases s <;> simp [Shape.word]

/-- What is left of the attributes of a link. -/
def attributesFrame : LinkStyle → List Char
  | .plain => []
  | .yes | .no => " [label=\"\", color=\"\", fontcolor=\"\"]".toList
  | .otherwise => " [label=\"\"]".toList
  | .dotted => " [style=dotted]".toList

theorem frames_attributes (s : LinkStyle) : Frames s.attributes.toList (attributesFrame s) := by
  cases s <;> decide +kernel

theorem all_isCalm_attributesFrame (s : LinkStyle) : (attributesFrame s).all isCalm = true := by
  cases s <;> rfl

theorem attributesFrame_cases (s : LinkStyle) :
    attributesFrame s = [] ∨ ∃ u, attributesFrame s = ' ' :: '[' :: u := by
  cases s
  · exact .inl rfl
  all_goals exact .inr ⟨_, rfl⟩

/-- Blanks in front of a line. -/
def indent (k : Nat) : List Char := List.replicate k ' '

theorem isBlank_of_mem_indent {k : Nat} : ∀ c ∈ indent k, isBlank c = true := by
  intro c hc
  rw [(List.mem_replicate.1 hc).2]
  rfl

theorem all_isCalm_indent (k : Nat) : (indent k).all isCalm = true := by
  rw [List.all_eq_true]
  intro c hc
  rw [(List.mem_replicate.1 hc).2]
  rfl

theorem quote_not_mem_indent (k : Nat) : '"' ∉ indent k := fun hm =>
  absurd (isBlank_of_mem_indent _ hm) (by decide)

theorem indent_append (k : Nat) (t : List Char) :
    indent k ++ (' ' :: ' ' :: ' ' :: ' ' :: t) = indent (k + 4) ++ t := by
  have : indent (k + 4) = indent k ++ [' ', ' ', ' ', ' '] := by
    unfold indent
    rw [← List.replicate_append_replicate]
    rfl
  simp [this]

theorem quote_not_mem_identifier {t : List Char} (h : isIdentifier t = true) : '"' ∉ t :=
  not_mem_isIdentifier h (by decide)

/-- What is left of a node statement. -/
def nodeFrame (n : Node) : List Char :=
  n.id.toList ++ " [label=\"\", shape=".toList ++ n.shape.word.toList ++ fillFrame n.fill ++ [']']

theorem frames_node (k : Nat) {n : Node} (h : n.Sound) :
    Frames (indent k ++ n.render.toList) (indent (k + 4) ++ nodeFrame n ++ [';']) := by
  have hrender : indent k ++ n.render.toList = (indent (k + 4) ++ n.id.toList ++ " [label=".toList) ++
      ('"' :: n.label.toList ++ ['"']) ++ (", shape=".toList ++ n.shape.word.toList) ++
      (fillAttributes n.fill).toList ++ "];".toList := by
    simp [Node.render, indent_append]
  have hopen : '"' ∉ indent (k + 4) ++ n.id.toList ++ " [label=".toList := by
    simpa using ⟨quote_not_mem_indent _, quote_not_mem_identifier h.id⟩
  have hshape : '"' ∉ ", shape=".toList ++ n.shape.word.toList := by
    simpa using quote_not_mem_word n.shape
  -- only the label, and the colour among the attributes, stand in strings
  have hframes := ((((frames_self hopen).append (frames_string h.label)).append (frames_self hshape)).append
    (frames_fillAttributes n.fill)).append (frames_self (t := "];".toList) (by decide))
  rw [hrender]
  convert hframes using 1
  simp [nodeFrame]

theorem all_isCalm_nodeFrame {n : Node} (h : n.Sound) : (nodeFrame n).all isCalm = true := by
  have hlabel : (" [label=\"\", shape=".toList).all isCalm = true := rfl
  have hlast : [']'].all isCalm = true := rfl
  simp only [nodeFrame, List.all_append, all_isCalm_of_isIdentifier h.id, all_isCalm_word,
    all_isCalm_fillFrame, hlabel, hlast, Bool.and_true]

/-- The line of a node statement, with blanks in front. -/
theorem tidy_node (k : Nat) {n : Node} (h : n.Sound) : Tidy [indent k ++ n.render.toList] := by
  refine tidy_statement (frames_node k h) ?_ (sober_of_ends ?_)
  · rw [List.all_append, all_isCalm_indent, all_isCalm_nodeFrame h]
    rfl
  · have hshape : nodeFrame n = n.id.toList ++ ' ' :: '[' ::
        ("label=\"\", shape=".toList ++ n.shape.word.toList ++ fillFrame n.fill ++ [']']) := by
      simp [nodeFrame]
    rw [hshape, ends_node isBlank_of_mem_indent h.id]
    simpa using h.id

/-- What is left of a link statement. -/
def linkFrame (l : Link) : List Char :=
  linkText l.source.toList l.target.toList ++ attributesFrame l.style

theorem frames_link (k : Nat) {l : Link} (h : l.Sound) :
    Frames (indent k ++ l.render.toList) (indent (k + 4) ++ linkFrame l ++ [';']) := by
  have hrender : indent k ++ l.render.toList =
      (indent (k + 4) ++ linkText l.source.toList l.target.toList) ++ l.style.attributes.toList ++
        ";".toList := by
    simp [Link.render, linkText, indent_append]
  have hopen : '"' ∉ indent (k + 4) ++ linkText l.source.toList l.target.toList := by
    simpa [linkText] using
      ⟨quote_not_mem_indent _, quote_not_mem_identifier h.source, quote_not_mem_identifier h.target⟩
  have hframes := ((frames_self hopen).append (frames_attributes l.style)).append
    (frames_self (t := ";".toList) (by decide))
  rw [hrender]
  convert hframes using 1
  simp [linkFrame]

theorem all_isCalm_linkFrame {l : Link} (h : l.Sound) : (linkFrame l).all isCalm = true := by
  have harrow : [' ', '-', '>', ' '].all isCalm = true := rfl
  have hshape : linkFrame l =
      l.source.toList ++ [' ', '-', '>', ' '] ++ l.target.toList ++ attributesFrame l.style := by
    simp [linkFrame, linkText]
  simp only [hshape, List.all_append, all_isCalm_of_isIdentifier h.source,
    all_isCalm_of_isIdentifier h.target, all_isCalm_attributesFrame, harrow, Bool.and_true]

/-- The line of a link statement, with blanks in front. -/
theorem tidy_link (k : Nat) {l : Link} (h : l.Sound) : Tidy [indent k ++ l.render.toList] := by
  refine tidy_statement (frames_link k h) ?_ (sober_of_ends ?_)
  · rw [List.all_append, all_isCalm_indent, all_isCalm_linkFrame h]
    rfl
  · rw [linkFrame, ends_link h.source h.target isBlank_of_mem_indent (attributesFrame_cases l.style)]
    simpa using ⟨h.source, h.target⟩

/-- The lines of a graph, with blanks in front. -/
theorem tidy_graph (k : Nat) {g : Graph} (h : g.Sound) :
    Tidy (g.lines.map fun l => indent k ++ l.toList) := by
  have hshape : (g.lines.map fun l => indent k ++ l.toList) =
      g.nodes.flatMap (fun n => [indent k ++ n.render.toList]) ++
        g.links.flatMap (fun l => [indent k ++ l.render.toList]) := by
    simp [Graph.lines, ← List.map_eq_flatMap, Function.comp_def]
  rw [hshape]
  exact (tidy_flatMap fun n hn => tidy_node k (h.nodes n hn)).append
    (tidy_flatMap fun l hl => tidy_link k (h.links l hl))

/-! ## Documents -/

/-- The text before the brace of a block with a name. -/
def blockHead (name : List Char) : List Char := "    ".toList ++ ("subgraph ".toList ++ name) ++ [' ']

section BlockHead

variable {name : List Char} (hname : isIdentifier name = true)

include hname

theorem strip_subgraph {b e : List Char} (hb : ∀ c ∈ b, isBlank c = true)
    (he : ∀ c ∈ e, isBlank c = true) :
    strip (b ++ ("subgraph ".toList ++ name) ++ e) = "subgraph ".toList ++ name := by
  refine strip_padded hb he (by simp) ?_ ?_
  · intro c hc
    have : 's' = c := by simpa using hc
    exact this ▸ rfl
  · intro c hc
    rw [List.getLast?_append_of_ne_nil _ (isIdentifier_ne_nil hname)] at hc
    exact isBlank_of_mem_isIdentifier hname (List.mem_of_getLast? hc)

theorem sober_blockHead : Sober (blockHead name) := by
  have hbracket : '[' ∉ blockHead name := by
    simpa [blockHead] using not_mem_isIdentifier hname (by decide)
  have hdash : '-' ∉ "subgraph ".toList ++ name := by
    simpa using not_mem_isIdentifier hname (by decide)
  have hsubject : subject (blockHead name) = "subgraph ".toList ++ name := by
    rw [subject_of_not_mem hbracket]
    exact strip_subgraph hname (List.all_eq_true.1 rfl) isBlank_space
  have hends : ends (blockHead name) = ["subgraph ".toList ++ name] := by
    unfold ends
    rw [hsubject, splitOn_pair_of_not_occurs (occurs_pair_of_not_mem hdash)]
    simpa using strip_subgraph hname (b := []) (e := []) (by simp) (by simp)
  exact sober_of_isAside hbracket hends (by simp [isAside])

theorem all_isCalm_blockHead : (blockHead name).all isCalm = true := by
  have hfront : ("    ".toList).all isCalm = true := rfl
  have hword : ("subgraph ".toList).all isCalm = true := rfl
  have hlast : [' '].all isCalm = true := rfl
  simp only [blockHead, List.all_append, hfront, hword, hlast, all_isCalm_of_isIdentifier hname,
    Bool.and_true]

theorem quote_not_mem_blockHead : '"' ∉ blockHead name := by
  simpa [blockHead] using quote_not_mem_identifier hname

end BlockHead

/-- The name of a block, with the place of its file. -/
def blockName (digits : List Char) : List Char := "cluster_".toList ++ digits

theorem opening_block (digits : List Char) :
    "    subgraph cluster_".toList ++ digits ++ " \x7b".toList =
      blockHead (blockName digits) ++ ['\x7b'] := by
  unfold blockHead blockName
  simp

theorem isIdentifier_blockName (index : Nat) :
    isIdentifier (blockName (toString index).toList) = true := by
  have hdigits : (toString index).toList.all (fun d => d.isAlphanum || d == '_') = true := by
    rw [List.all_eq_true]
    intro c hc
    rw [← Ident.isIdentChar_eq]
    exact Ident.isIdentChar_of_mem_toString hc
  have hword : ("luster_".toList).all (fun d => d.isAlphanum || d == '_') = true := rfl
  change isIdentifier ('c' :: ("luster_".toList ++ (toString index).toList)) = true
  rw [isIdentifier, List.all_append, hword, hdigits]
  rfl

theorem tidy_label {label : String} (h : Quotable label.toList) :
    Tidy [("        label = \"" ++ label ++ "\";").toList] := by
  have hframes := ((frames_self (t := "        label = ".toList) (by decide)).append
    (frames_string h)).append (frames_self (t := ";".toList) (by decide))
  refine tidy_statement (s := "        label = \"\"".toList) ?_ rfl (by decide +kernel)
  convert hframes using 1 <;> simp

theorem tidy_settings : Tidy ["        style=filled;".toList, "        color=\"#F5F5F5\";".toList,
    "        fontsize=14;".toList] := by
  have hstyle : Tidy ["        style=filled;".toList] :=
    tidy_statement (s := "        style=filled".toList) (by decide +kernel) rfl (by decide +kernel)
  have hcolor : Tidy ["        color=\"#F5F5F5\";".toList] :=
    tidy_statement (s := "        color=\"\"".toList) (by decide +kernel) rfl (by decide +kernel)
  have hsize : Tidy ["        fontsize=14;".toList] :=
    tidy_statement (s := "        fontsize=14".toList) (by decide +kernel) rfl (by decide +kernel)
  exact (hstyle.append hcolor).append hsize

/-- The lines of a block. -/
theorem tidy_cluster {c : Cluster} (h : c.Sound) : Tidy (c.lines.map String.toList) := by
  have hname := isIdentifier_blockName c.index
  -- the first line with its brace, what is between, the line that closes, and an empty one
  have hlines : c.lines.map String.toList =
      [blockHead (blockName (toString c.index).toList) ++ ['\x7b']] ++
        ([("        label = \"" ++ c.label ++ "\";").toList] ++
          ["        style=filled;".toList, "        color=\"#F5F5F5\";".toList,
            "        fontsize=14;".toList] ++
          c.graph.lines.map fun l => indent 4 ++ l.toList) ++ [closing] ++ [[]] := by
    have hopen : ("    subgraph cluster_" ++ toString c.index ++ " \x7b").toList =
        blockHead (blockName (toString c.index).toList) ++ ['\x7b'] := by
      rw [String.toList_append, String.toList_append, opening_block]
    simp only [Cluster.lines, List.map_append, List.map_cons, List.map_nil, hopen]
    simp [closing, indent, Function.comp_def]
  rw [hlines]
  exact ((((tidy_label h.label).append tidy_settings).append (tidy_graph 4 h.graph)).braces
    (quote_not_mem_blockHead hname) (all_isCalm_blockHead hname) (sober_blockHead hname)).append tidy_blank

theorem Document.Sound.tidy_body {d : Document} (h : d.Sound) : Tidy (d.body.map String.toList) := by
  cases d with
  | single graph =>
      have := tidy_graph 0 (g := graph) h
      simpa [Document.body, indent] using this
  | clustered clusters =>
      have := tidy_flatMap (f := fun c : Cluster => c.lines.map String.toList) fun c hc =>
        tidy_cluster (h c hc)
      simpa [Document.body, List.map_flatMap] using this

/-- The settings in front of every document. -/
theorem tidy_opening : Tidy (Document.opening.tail.map String.toList) := by
  have hset : ∀ x ∈ ["rankdir=TB", "compound=true", "nodesep=0.5", "ranksep=0.7"],
      Tidy [("    " ++ x ++ ";").toList] := by
    intro x hx
    fin_cases hx
    · exact tidy_statement (s := "    rankdir=TB".toList) (by decide +kernel) rfl (by decide +kernel)
    · exact tidy_statement (s := "    compound=true".toList) (by decide +kernel) rfl (by decide +kernel)
    · exact tidy_statement (s := "    nodesep=0.5".toList) (by decide +kernel) rfl (by decide +kernel)
    · exact tidy_statement (s := "    ranksep=0.7".toList) (by decide +kernel) rfl (by decide +kernel)
  have hnode : Tidy ["    node [fontname=\"Arial\", fontsize=11, style=filled, fillcolor=white];".toList] :=
    tidy_statement (s := "    node [fontname=\"\", fontsize=11, style=filled, fillcolor=white]".toList)
      (by decide +kernel) rfl (by decide +kernel)
  have hedge : Tidy ["    edge [fontname=\"Arial\", fontsize=10];".toList] :=
    tidy_statement (s := "    edge [fontname=\"\", fontsize=10]".toList)
      (by decide +kernel) rfl (by decide +kernel)
  exact (tidy_flatMap hset).append ((hnode.append hedge).append tidy_blank)

/-! ## Documents as they are posted -/

theorem faithful_plain : Faithful fun c => if isPlain c then c else '?' := by
  have hspecial : ∀ d : Char, isPlain d = true → d ≠ '?' → ∀ c : Char,
      ((if isPlain c then c else '?') = d ↔ c = d) := by
    intro d hd hne c
    split_ifs with hc
    · rfl
    · -- a character that is not plain becomes a question mark, which is none of the special ones
      refine ⟨fun h => absurd h.symm hne, fun h => ?_⟩
      rw [h] at hc
      exact absurd hd hc
  exact fun c => ⟨hspecial '"' rfl (by decide) c, hspecial '\\' rfl (by decide) c,
    hspecial '\n' rfl (by decide) c⟩

theorem map_plain {t : List Char} (h : ∀ c ∈ t, isPlain c = true) :
    t.map (fun c => if isPlain c then c else '?') = t := by
  refine (List.map_congr_left fun c hc => ?_).trans (List.map_id t)
  simp [h c hc]

theorem frames_flatMap {ls ss : List (List Char)} (h : List.Forall₂ Frames ls ss) :
    Frames (ls.flatMap ('\n' :: ·)) (ss.flatMap ('\n' :: ·)) := by
  have hline : Frames ['\n'] ['\n'] := rfl
  induction h with
  | nil => rfl
  | cons hl _ ih => exact (hline.append hl).append ih

/-- Tidy lines between the braces of a document. -/
theorem Tidy.wellFormed {ls : List (List Char)} (h : Tidy ls) :
    WellFormed (plainBody (String.ofList (join ['\n'] (header :: (ls ++ [['\x7d']]))))).toList := by
  obtain ⟨ss, hss, hlines, hlevel⟩ := h
  have hshape : ∀ xs : List (List Char), join ['\n'] (header :: (xs ++ [['\x7d']])) =
      header ++ xs.flatMap ('\n' :: ·) ++ ['\n', '\x7d'] := by
    intro xs
    rw [join_newline_cons]
    simp
  have hlast : Frames ['\n', '\x7d'] ['\n', '\x7d'] := rfl
  have hframes := ((frames_self (t := header) (by decide)).append (frames_flatMap hss)).append hlast
  rw [← hshape, ← hshape] at hframes
  -- what is outside of strings is posted as it is
  have hplain : ∀ c ∈ join ['\n'] (header :: (ss ++ [['\x7d']])), isPlain c = true := by
    intro c hc
    simp only [hshape, List.mem_append, List.mem_flatMap, List.mem_cons] at hc
    rcases hc with (hc | ⟨s, hs, rfl | hc⟩) | rfl | rfl | hc
    · exact List.all_eq_true.1 (rfl : header.all isPlain = true) c hc
    · rfl
    · exact (hlines s hs).2 c hc
    · rfl
    · rfl
    · simp at hc
  refine ⟨join ['\n'] (header :: (ss ++ [['\x7d']])), ?_, ?_, ?_, ?_⟩
  · have := (hframes.map faithful_plain).skeleton?
    rw [map_plain hplain] at this
    simpa [plainBody] using this
  · rw [hshape, List.append_assoc]
    exact List.prefix_append _ _
  · have hheader : header = "digraph G ".toList ++ ['\x7b'] := rfl
    have := nested_of_level (h := "digraph G ".toList) (by decide) (by decide) hlevel
    rwa [hshape, hheader, List.append_assoc "digraph G ".toList, List.singleton_append]
  · refine sober_of_mem_lines ?_ [] (by simp)
    intro l hl
    simp only [List.mem_cons, List.mem_append, List.not_mem_nil, or_false] at hl
    rcases hl with rfl | hl | rfl
    · exact .inr ⟨"digraph G ".toList, '\x7b', rfl, rfl, by simp [isDivider], by decide +kernel⟩
    · exact (hlines l hl).1
    · exact .inr ⟨[], '\x7d', rfl, rfl, by simp, sober_blank (by simp)⟩

/-- **The text of a sound document is well-formed as it is posted.** -/
theorem wellFormed_plainBody {d : Document} (h : d.Sound) : WellFormed (plainBody d.render).toList := by
  have hrender : d.render = String.ofList (join ['\n'] (header ::
      (Document.opening.tail.map String.toList ++ d.body.map String.toList ++ [['\x7d']]))) := by
    have hlines : d.lines.map String.toList = header ::
        (Document.opening.tail ++ d.body ++ ["\x7d"]).map String.toList := rfl
    have hline : "\n".toList = ['\n'] := rfl
    rw [← String.toList_inj, Document.render, toList_joinStrings, hline, hlines, String.toList_ofList,
      List.map_append, List.map_append]
    rfl
  rw [hrender]
  exact (tidy_opening.append h.tidy_body).wellFormed

end CodeFlow.Dot
