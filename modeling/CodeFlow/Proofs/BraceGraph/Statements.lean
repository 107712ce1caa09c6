import Mathlib
import CodeFlow.Proofs.BraceGraph.Nested
import CodeFlow.Proofs.Label.Reading

/-!
# `CodeFlow.Proofs.BraceGraph.Statements` — statements that are taken for something else

A line that begins neither with a brace nor with the word of the other branch is a statement, and its label
should be in the diagram. Words and braces count wherever they stand in a line, so some statements are taken for
the begin of another branch or for the end of a block, and their labels are lost. This module says which.

What a line adds is told from the diagram before and behind it (`additions`). That a label is lost needs more
than that another one is drawn: it has to be seen that the two differ (`Row.lineLabel_ne_empty`,
`Row.else_prefix`).

## Contents
- `IsStatement`, `Mistaken`.
- `Row`: lines as they are drawn, and their labels.
- `additions`, `OwnNode`; `ownNode_iff` for a line, `forall₂_additions` for a run.
- `statements_drawn_iff`, and `arrayCode`, of which a statement is lost.
-/

namespace CodeFlow.BraceGraph

open Text Dot Label

/-! ## Statements -/

/-- The word of the other branch of a condition. -/
def elseWord : List Char := ['e', 'l', 's', 'e']

/-- A line that begins neither with a brace nor with the other branch of a condition. -/
def IsStatement (line : List Char) : Prop := ¬['\x7d'] <+: line ∧ ¬elseWord <+: line

/-- A line that does not begin as a condition does and has the word of the other branch in it without that of a
condition, or a brace without the word of the other branch. -/
def Mistaken (line : List Char) : Prop :=
  (∀ word ∈ conditionWords, ¬word <+: line) ∧
    (elseWord <:+: line ∧ ¬['i', 'f'] <:+: line ∨ ¬elseWord <:+: line ∧ '\x7d' ∈ line)

theorem mistaken_iff {line : List Char} :
    Mistaken line ↔ classify line = .other ∨ classify line = .closes := by
  by_cases hbegins : ∃ word ∈ conditionWords, word <+: line
  · have hclass : classify line = .opens := classify_condition ⟨line, hbegins⟩
    obtain ⟨word, hword, hprefix⟩ := hbegins
    simp only [hclass, reduceCtorEq, or_self, iff_false]
    exact fun h => h.1 word hword hprefix
  · have hfirst : beginsCondition line = false := by rwa [Bool.eq_false_iff, ne_eq, beginsCondition_iff]
    have hwords : ∀ word ∈ conditionWords, ¬word <+: line := fun word hword h => hbegins ⟨word, hword, h⟩
    rw [Mistaken, and_iff_right hwords, ← occurs_iff_infix, ← occurs_iff_infix, classify, elseWord, hfirst]
    cases occurs ['e', 'l', 's', 'e'] line <;> cases occurs ['i', 'f'] line <;> by_cases hbrace : '\x7d' ∈ line <;>
      simp [hbrace]

/-! ## Lines and their labels -/

/-- A line as it is drawn: it is not empty, does not begin with a blank, and does not break. -/
structure Row (line : List Char) : Prop where
  /-- It begins with a character that is no blank. -/
  head : ∃ c rest, line = c :: rest ∧ isBlank c = false
  /-- No line ends in it. -/
  unbroken : ∀ c ∈ line, isLineEnd c = false

theorem row_of_mem {t line : List Char} (h : line ∈ ((lines t).map strip).filter (!·.isEmpty)) : Row line := by
  obtain ⟨hmem, hne⟩ := List.mem_filter.1 h
  obtain ⟨l, hl, rfl⟩ := List.mem_map.1 hmem
  refine ⟨?_, fun c hc => isLineEnd_of_mem_lines hl (strip_subset l hc)⟩
  obtain ⟨c, rest, hstrip⟩ := List.exists_cons_of_ne_nil (show strip l ≠ [] by simpa using hne)
  exact ⟨c, rest, hstrip, isBlank_of_strip_eq_cons hstrip⟩

namespace Row

variable {line : List Char}

/-- The part of a line that its label is made from. -/
def shown (line : List Char) : List Char := strip (shorten 300 297 line)

theorem exists_shorten (h : Row line) : ∃ c rest, shorten 300 297 line = c :: rest ∧ isBlank c = false := by
  obtain ⟨c, rest, rfl, hc⟩ := h.head
  unfold shorten
  split_ifs
  · exact ⟨c, rest.take 296 ++ ellipsis, rfl, hc⟩
  · exact ⟨c, rest, rfl, hc⟩

theorem not_mem_shorten (h : Row line) {c : Char} (hc : isLineEnd c = true) : c ∉ shorten 300 297 line := by
  have hline : c ∉ line := fun hm => by simp [h.unbroken c hm] at hc
  unfold shorten
  split_ifs
  · rw [List.mem_append, not_or]
    refine ⟨fun hm => hline (List.mem_of_mem_take hm), fun hm => ?_⟩
    obtain rfl : c = '.' := by simpa [ellipsis] using hm
    exact absurd hc (by decide)
  · exact hline

/-- A line has one line to show. -/
theorem textLines_eq (h : Row line) : textLines line = [shown line] := by
  obtain ⟨c, rest, hshorten, hc⟩ := h.exists_shorten
  have hnewline : '\n' ∉ shorten 300 297 line := h.not_mem_shorten (by decide)
  have hreturn : '\r' ∉ shorten 300 297 line := h.not_mem_shorten (by decide)
  rw [textLines, List.filter_eq_self.2 (bne_of_not_mem hreturn), splitOnChar_of_not_mem hnewline]
  simp [shown, hshorten, strip_cons hc]

theorem shown_prefix (h : Row line) : shown line <+: shorten 300 297 line := by
  obtain ⟨c, rest, hshorten, hc⟩ := h.exists_shorten
  rw [shown, hshorten, strip_cons hc]
  exact List.cons_prefix_cons.2 ⟨rfl, dropEndWhile_prefix _ _⟩

/-- The label of a line: a fixed one, or its piece, with dots behind it if it is long. -/
theorem lineLabel_cases (h : Row line) : lineLabel line = picture ∨
    (lineLabel line).toList = piece (escapeAll (shown line)) ∨
      50 < (piece (escapeAll (shown line))).length ∧
        (lineLabel line).toList = piece (escapeAll (shown line)) ++ ['\\', 'n'] ++ ellipsis := by
  obtain ⟨c, rest, rfl, -⟩ := h.head
  have hne : String.ofList (c :: rest) ≠ "" := by simp
  cases hpicture : isPicture (c :: rest) with
  | true => exact .inl (by simp [lineLabel, escape, hpicture])
  | false =>
      refine .inr ?_
      rw [lineLabel, toList_escape hne (by simpa using hpicture), String.toList_ofList, linePieces, h.textLines_eq,
        List.map_singleton, fillUp]
      generalize piece (escapeAll (shown (c :: rest))) = p
      by_cases hlong : 50 < p.length
      · rw [if_pos (by omega)]
        exact .inr ⟨hlong, rfl⟩
      · rw [if_neg (by omega)]
        exact .inl rfl

theorem return_not_mem_shown (h : Row line) : '\r' ∉ shown line := fun hm =>
  h.not_mem_shorten (c := '\r') (by decide) (h.shown_prefix.subset hm)

/-- A line has a label. -/
theorem lineLabel_ne_empty (h : Row line) : lineLabel line ≠ "" := by
  have hpiece : piece (escapeAll (shown line)) ≠ [] := by
    obtain ⟨c, rest, hshorten, hc⟩ := h.exists_shorten
    have hescape : (escapeAll (shown line)).isEmpty = false := by
      rw [isEmpty_escapeAll h.return_not_mem_shown, shown, hshorten, strip_cons hc]
      rfl
    unfold piece shorten
    split_ifs <;> simp_all [ellipsis]
  intro hempty
  rcases h.lineLabel_cases with hlabel | hlabel | ⟨-, hlabel⟩
  · exact absurd (hlabel.symm.trans hempty) (by decide)
  · rw [hempty] at hlabel
    exact hpiece hlabel.symm
  · simp [hempty, ellipsis] at hlabel

/-- A line with the label of another branch begins as one. -/
theorem else_prefix (h : Row line) (hlabel : lineLabel line = "else") : elseWord <+: line := by
  have hpiece : piece (escapeAll (shown line)) = elseWord := by
    rcases h.lineLabel_cases with hcase | hcase | ⟨hlong, hcase⟩
    · exact absurd (hcase.symm.trans hlabel) (by decide)
    · rw [← hcase, hlabel]
      rfl
    · have hlength := congrArg List.length hcase
      rw [hlabel, List.append_assoc, List.length_append] at hlength
      have : "else".toList.length = 4 := rfl
      omega
  have hreads := (readsAs_piece h.return_not_mem_shown).1
  have hdecode : decode elseWord = elseWord := by decide
  have hshown : shown line = elseWord := by
    rw [hpiece, ReadsAs, hdecode] at hreads
    split_ifs at hreads
    · exact eq_of_map_toAscii (by decide) hreads.symm
    · obtain ⟨k, -, hk⟩ := hreads
      exact absurd (hk ▸ List.suffix_append _ ellipsis) (by decide)
  have hprefix : elseWord <+: shorten 300 297 line := hshown ▸ h.shown_prefix
  unfold shorten at hprefix
  split_ifs at hprefix with hlong
  · -- the cut is far behind the word
    refine (List.prefix_of_prefix_length_le hprefix (List.prefix_append _ _) ?_).trans (List.take_prefix 297 line)
    rw [List.length_take]
    have : elseWord.length = 4 := rfl
    omega
  · exact hprefix

end Row

/-! ## What lines add -/

/-- The nodes that each of some lines adds to a diagram. -/
def additions (pre : String) : State → List (List Char) → List (List Node)
  | _, [] => []
  | s, line :: rest =>
    (advance pre s line).graph.nodes.drop s.graph.nodes.length :: additions pre (advance pre s line) rest

/-- A line has one node, with its own label. -/
def OwnNode (line : List Char) (ns : List Node) : Prop := ∃ n, ns = [n] ∧ n.label = lineLabel line

section Additions

variable {pre : String} {s s' : State} {line : List Char}

theorem Step.prefix_nodes (h : Step pre line s s') : s.graph.nodes <+: s'.graph.nodes := by
  cases h with
  | skip hclass hs => exact List.prefix_refl _
  | _ => exact List.prefix_append _ _

theorem nodes_foldl (ls : List (List Char)) (s : State) :
    (ls.foldl (advance pre) s).graph.nodes = s.graph.nodes ++ (additions pre s ls).flatten := by
  induction ls generalizing s with
  | nil => simp [additions]
  | cons line ls ih =>
      obtain ⟨added, hadded⟩ := (step_advance pre line s).prefix_nodes
      rw [List.foldl_cons, ih, additions, ← hadded, List.drop_left, List.flatten_cons, List.append_assoc]

/-- **A statement has a node of its own iff it is not taken for something else.** -/
theorem ownNode_iff (h : Step pre line s s') (hrow : Row line) (hstatement : IsStatement line) :
    OwnNode line (s'.graph.nodes.drop s.graph.nodes.length) ↔ ¬Mistaken line := by
  rw [mistaken_iff]
  cases h with
  | plain hclass hid => simp [OwnNode, State.draw, hclass]
  | opens hclass hid hmeet => simp [OwnNode, State.draw, hclass]
  | other hclass hid hs =>
      have hlabel : "else" ≠ lineLabel line := fun heq => hstatement.2 (hrow.else_prefix heq.symm)
      simpa [OwnNode, State.draw, hclass] using hlabel
  | closes hclass hs => simpa [OwnNode, State.draw, hclass] using hrow.lineLabel_ne_empty.symm
  | skip hclass hs => simp [OwnNode, hclass]

theorem forall₂_additions {ls : List (List Char)} (hrows : ∀ line ∈ ls, Row line) (s : State) :
    List.Forall₂ (fun line ns => IsStatement line → (OwnNode line ns ↔ ¬Mistaken line)) ls (additions pre s ls) := by
  induction ls generalizing s with
  | nil => exact .nil
  | cons line ls ih =>
      obtain ⟨hrow, hrest⟩ := List.forall_mem_cons.1 hrows
      exact .cons (ownNode_iff (step_advance pre line s) hrow) (ih hrest _)

/-- What holds pair by pair of the first part alone holds of all of the first parts. -/
theorem forall₂_iff_forall {α β : Type} {R : α → β → Prop} {P : α → Prop} {l : List α} {m : List β}
    (h : List.Forall₂ (fun a b => R a b ↔ P a) l m) : List.Forall₂ R l m ↔ ∀ a ∈ l, P a := by
  induction h with
  | nil => simp
  | cons hab _ ih => rw [List.forall₂_cons, ih, hab, List.forall_mem_cons]

end Additions

/-! ## Code -/

/-- **Which statements are drawn**, in code without comments. The nodes of a diagram are those that its lines
add, in order, between its start and its end. A statement adds one node with its own label iff it is not taken
for something else, so no statement is lost iff that happens to none. -/
theorem statements_drawn_iff {code : String} (hline : ¬['/', '/'] <:+: code.toList)
    (hblock : ¬['/', '*'] <:+: code.toList) (file : String) :
    let pre := Ident.sanitize file
    let rows := ((lines code.toList).map strip).filter (!·.isEmpty)
    let added := additions pre (start pre file) rows
    (diagram code file).nodes =
        (start pre file).graph.nodes ++ added.flatten ++ [⟨pre ++ "_end", "FIN", .oval, some .finish⟩] ∧
      List.Forall₂ (fun line ns => IsStatement line → (OwnNode line ns ↔ ¬Mistaken line)) rows added ∧
      (List.Forall₂ (fun line ns => IsStatement line → OwnNode line ns) rows added ↔
        ∀ line ∈ rows, IsStatement line → ¬Mistaken line) := by
  intro pre rows added
  have hforall : List.Forall₂ (fun line ns => IsStatement line → (OwnNode line ns ↔ ¬Mistaken line)) rows added :=
    forall₂_additions (fun line hmem => row_of_mem hmem) _
  refine ⟨?_, hforall, ?_⟩
  · rw [diagram, codeLines_of_not_infix hline hblock, finish, Graph.append_nodes, nodes_foldl]
  · exact forall₂_iff_forall (hforall.imp fun line ns h => forall_congr' h)

/-- Code with the values of an array in a condition. -/
def arrayCode : String := "if (a) \x7b\n  v = \x7b1, 2\x7d;\n  f(v);\n\x7d\n"

theorem arrayCode_statement_lost :
    let rows := ((lines arrayCode.toList).map strip).filter (!·.isEmpty)
    (¬['/', '/'] <:+: arrayCode.toList ∧ ¬['/', '*'] <:+: arrayCode.toList) ∧
      ¬List.Forall₂ (fun line ns => IsStatement line → OwnNode line ns) rows
        (additions "main" (start "main" "main") rows) := by
  intro rows
  have hline : ¬['/', '/'] <:+: arrayCode.toList := by decide +kernel
  have hblock : ¬['/', '*'] <:+: arrayCode.toList := by decide +kernel
  have hpre : Ident.sanitize "main" = "main" := by decide +kernel
  refine ⟨⟨hline, hblock⟩, fun hall => ?_⟩
  have hnone := (statements_drawn_iff hline hblock "main").2.2.1 (by rwa [hpre])
  refine hnone "v = \x7b1, 2\x7d;".toList (by decide +kernel) ⟨by decide, by decide⟩ ⟨by decide, .inr ?_⟩
  exact ⟨by decide, by decide⟩

/-- A statement with the word of another branch in a name is not drawn. -/
theorem elsewhere_lost :
    let code := "int elsewhere = 1;\n"
    ((¬['/', '/'] <:+: code.toList ∧ ¬['/', '*'] <:+: code.toList) ∧
      ((lines code.toList).map strip).filter (!·.isEmpty) = ["int elsewhere = 1;".toList] ∧
      IsStatement "int elsewhere = 1;".toList) ∧
    Label.escape "int elsewhere = 1;" 50 ∉ (diagram code "main").nodes.map (·.label) := by
  refine ⟨⟨by decide +kernel, by decide +kernel, by decide, by decide⟩, by decide +kernel⟩

end CodeFlow.BraceGraph
