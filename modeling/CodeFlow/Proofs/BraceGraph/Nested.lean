import Mathlib
import CodeFlow.Proofs.BraceGraph
import CodeFlow.Proofs.Text.Search

/-!
# `CodeFlow.Proofs.BraceGraph.Nested` — nested blocks are drawn by recursion

The diagram is drawn line by line, with a stack of open conditions and a text search that decides what a line
does. Where the lines are those of nested blocks, the same diagram comes from a recursion over the blocks that
knows nothing of a stack (`Block.draw`): every condition draws its own branches and the node at which they meet.

The lines of a block are read from any state, so with any conditions open around it, and leave them as they were
(`foldl_lines`). That carries the induction over the block, and says which condition a brace closes.

## Contents
- `PlainLine`, `ConditionLine`, `Block`: nested blocks and their lines.
- `Part`, `Block.draw`: the diagram of a block.
- `advance_plain`, `advance_condition`, `advance_otherwise`, `advance_closing`: one line.
- `foldl_lines`: the lines of a block; `Matched`, `matched_of_lines_eq`: the brace of a condition.
- `codeLines_of_no_comment`, `diagram_of_nested_blocks`.
-/

namespace CodeFlow.BraceGraph

open Text Dot

/-! ## Blocks -/

/-- The words with which a condition begins. -/
def conditionWords : List (List Char) := [['i', 'f'], ['w', 'h', 'i', 'l', 'e'], ['f', 'o', 'r']]

/-- A line that is a plain statement. -/
structure PlainLine where
  /-- The line. -/
  text : List Char
  /-- It does not begin as a condition does. -/
  begins : ∀ word ∈ conditionWords, ¬word <+: text
  /-- It has no other branch. -/
  other : ¬['e', 'l', 's', 'e'] <:+: text
  /-- It closes nothing. -/
  closes : '\x7d' ∉ text

/-- A line that opens a condition. -/
structure ConditionLine where
  /-- The line. -/
  text : List Char
  /-- It begins with one of the words. -/
  begins : ∃ word ∈ conditionWords, word <+: text

/-- The line that closes a condition. -/
def closing : List Char := ['\x7d']

/-- The line between the branches of a condition. -/
def otherwise : List Char := ['\x7d', ' ', 'e', 'l', 's', 'e', ' ', '\x7b']

/-- Nested blocks: items one behind the other. -/
inductive Block where
  | nil
  | plain (line : PlainLine) (rest : Block)
  /-- A condition with one branch. -/
  | guarded (cond : ConditionLine) (body rest : Block)
  /-- A condition with two branches. -/
  | branched (cond : ConditionLine) (body other rest : Block)

/-- The lines of a block. -/
def Block.lines : Block → List (List Char)
  | .nil => []
  | .plain line rest => line.text :: rest.lines
  | .guarded cond body rest => cond.text :: (body.lines ++ closing :: rest.lines)
  | .branched cond body other rest =>
    cond.text :: (body.lines ++ otherwise :: (other.lines ++ closing :: rest.lines))

/-- The braces that close conditions in a block behind `k` lines: the line of the condition and that of the brace. -/
def Block.braces : Block → Nat → List (Nat × Nat)
  | .nil, _ => []
  | .plain _ rest, k => rest.braces (k + 1)
  | .guarded _ body rest, k =>
    let brace := k + 1 + body.lines.length + 1
    body.braces (k + 1) ++ (k + 1, brace) :: rest.braces brace
  | .branched _ body other rest, k =>
    let between := k + 1 + body.lines.length + 1
    let brace := between + other.lines.length + 1
    body.braces (k + 1) ++ (other.braces between ++ (k + 1, brace) :: rest.braces brace)

/-! ## Drawing blocks -/

/-- A part of a diagram. -/
structure Part where
  /-- Its statements. -/
  graph : Graph
  /-- The node from which the diagram goes on. -/
  exit : String

namespace Part

/-- A node with links to it. -/
def single (n : Node) (links : List Link) : Part := ⟨⟨[n], links⟩, n.id⟩

/-- A part, and behind it the one that goes on from its exit. -/
def andThen (p : Part) (next : String → Part) : Part :=
  ⟨p.graph ++ (next p.exit).graph, (next p.exit).exit⟩

variable (pre : String) (k : Nat)

/-- A plain line. -/
def plain (text : List Char) (exit : String) : Part :=
  let id := (Mark.line k).ident pre
  single ⟨id, lineLabel text, .rectangle, none⟩ [⟨exit, id, .plain⟩]

/-- A condition. -/
def condition (text : List Char) (exit : String) : Part :=
  let id := (Mark.line k).ident pre
  single ⟨id, lineLabel text, .diamond, some .condition⟩ [⟨exit, id, .plain⟩]

/-- The begin of the other branch of a condition. -/
def otherwise (diamond : String) : Part :=
  let id := (Mark.line k).ident pre
  single ⟨id, "else", .rectangle, some .otherwise⟩ [⟨diamond, id, .otherwise⟩]

/-- Where the branches of the condition of line `k` meet. -/
def meet (diamond exit : String) : Part :=
  let id := (Mark.meet k).ident pre
  single ⟨id, "", .point, none⟩ [⟨exit, id, .plain⟩, ⟨diamond, id, .otherwise⟩]

end Part

/-- The diagram of a block behind `k` lines that goes on from a node. -/
def Block.draw (pre : String) : Block → Nat → String → Part
  | .nil, _, exit => ⟨⟨[], []⟩, exit⟩
  | .plain line rest, k, exit =>
    (Part.plain pre (k + 1) line.text exit).andThen fun exit => rest.draw pre (k + 1) exit
  | .guarded cond body rest, k, exit =>
    let brace := k + 1 + body.lines.length + 1
    (Part.condition pre (k + 1) cond.text exit).andThen fun diamond =>
      (body.draw pre (k + 1) diamond).andThen fun exit =>
        (Part.meet pre (k + 1) diamond exit).andThen fun exit => rest.draw pre brace exit
  | .branched cond body other rest, k, exit =>
    let between := k + 1 + body.lines.length + 1
    let brace := between + other.lines.length + 1
    (Part.condition pre (k + 1) cond.text exit).andThen fun diamond =>
      (body.draw pre (k + 1) diamond).andThen fun _ =>
        (Part.otherwise pre between diamond).andThen fun exit =>
          (other.draw pre between exit).andThen fun exit =>
            (Part.meet pre (k + 1) diamond exit).andThen fun exit => rest.draw pre brace exit

/-- The diagram of nested blocks: a start that names the file, the blocks and an end. -/
def Block.diagram (pre file : String) (b : Block) : Graph :=
  let begins := Part.single ⟨pre ++ "_start", "INICIO: " ++ file, .oval, some .start⟩ []
  let ends := fun exit =>
    Part.single ⟨pre ++ "_end", "FIN", .oval, some .finish⟩ [⟨exit, pre ++ "_end", .plain⟩]
  (begins.andThen fun exit => (b.draw pre 0 exit).andThen ends).graph

/-! ## Lines -/

theorem beginsCondition_iff {line : List Char} :
    beginsCondition line = true ↔ ∃ word ∈ conditionWords, word <+: line := by
  simp [beginsCondition, conditionWords, or_assoc]

theorem classify_plain (line : PlainLine) : classify line.text = .plain := by
  have hbegins : beginsCondition line.text = false := by
    rw [Bool.eq_false_iff, ne_eq, beginsCondition_iff]
    rintro ⟨word, hword, h⟩
    exact line.begins word hword h
  have helse : occurs ['e', 'l', 's', 'e'] line.text = false := by
    rw [Bool.eq_false_iff, ne_eq, occurs_iff_infix]
    exact line.other
  simp [classify, hbegins, helse, line.closes]

theorem classify_condition (cond : ConditionLine) : classify cond.text = .opens := by
  simp [classify, beginsCondition_iff.2 cond.begins]

/-- A plain line is not the brace that closes a condition. -/
theorem PlainLine.ne_closing (line : PlainLine) : line.text ≠ closing := fun h =>
  line.closes (by simp [h, closing])

theorem ConditionLine.ne_closing (cond : ConditionLine) : cond.text ≠ closing := by
  intro h
  have hopens := classify_condition cond
  rw [h] at hopens
  exact absurd hopens (by decide)

/-! ## One line -/

namespace State

/-- A state with other conditions open. -/
def under (s : State) (conditions : List Condition) : State := { s with conditions := conditions }

/-- A state after a part of so many lines. -/
def grow (s : State) (p : Part) (n : Nat) : State :=
  { s with graph := s.graph ++ p.graph, last := p.exit, count := s.count + n }

variable (s : State) (p : Part) (n : Nat)

/-- A part and the one behind it are one part. -/
theorem grow_andThen (next : String → Part) (m : Nat) :
    s.grow (p.andThen next) (n + m) = (s.grow p n).grow (next p.exit) m := by
  simp [grow, Part.andThen, Graph.append_assoc, Nat.add_assoc]

end State

/-- The condition of a line. -/
def conditionAt (pre : String) (k : Nat) : Condition := ⟨(Mark.line k).ident pre, (Mark.meet k).ident pre⟩

section Advance

variable {pre : String} (s : State)

theorem advance_plain (line : PlainLine) :
    advance pre s line.text = s.grow (Part.plain pre (s.count + 1) line.text s.last) 1 := by
  rw [advance, classify_plain]
  simp [State.add, State.grow, Part.plain, Part.single, Mark.ident, Mark.word, String.append_assoc]

theorem advance_condition (cond : ConditionLine) : advance pre s cond.text =
    (s.grow (Part.condition pre (s.count + 1) cond.text s.last) 1).under
      (conditionAt pre (s.count + 1) :: s.conditions) := by
  rw [advance, classify_condition]
  simp [State.add, State.grow, State.under, Part.condition, Part.single, conditionAt, Mark.ident, Mark.word,
    String.append_assoc]

variable {s} {k : Nat} {below : List Condition}

theorem advance_otherwise (h : s.conditions = conditionAt pre k :: below) : advance pre s otherwise =
    s.grow (Part.otherwise pre (s.count + 1) ((Mark.line k).ident pre)) 1 := by
  have hclass : classify otherwise = .other := by decide
  rw [advance, hclass]
  simp [h, State.add, State.grow, Part.otherwise, Part.single, conditionAt, Mark.ident, Mark.word,
    String.append_assoc]

theorem advance_closing (h : s.conditions = conditionAt pre k :: below) : advance pre s closing =
    (s.grow (Part.meet pre k ((Mark.line k).ident pre) s.last) 1).under below := by
  have hclass : classify closing = .closes := by decide
  rw [advance, hclass]
  simp [h, State.add, State.grow, State.under, Part.meet, Part.single, conditionAt, Mark.ident, Mark.word]

end Advance

/-! ## The lines of a block -/

/-- **The lines of a block draw the block**, with any conditions open around it, and leave those as they were. -/
theorem foldl_lines {pre : String} (b : Block) (s : State) :
    b.lines.foldl (advance pre) s = s.grow (b.draw pre s.count s.last) b.lines.length := by
  induction b generalizing s with
  | nil => simp [Block.lines, Block.draw, State.grow, Graph.append_empty]
  | plain line rest ih =>
      have hlength : (Block.plain line rest).lines.length = 1 + rest.lines.length := by
        simp [Block.lines, Nat.add_comm]
      rw [hlength, Block.draw, State.grow_andThen, Block.lines, List.foldl_cons, advance_plain, ih]
      rfl
  | guarded cond body rest ihbody ihrest =>
      have hlength : (Block.guarded cond body rest).lines.length =
          1 + (body.lines.length + (1 + rest.lines.length)) := by
        simp only [Block.lines, List.length_cons, List.length_append]
        omega
      rw [hlength, Block.draw]
      simp only [State.grow_andThen]
      -- the brace finds the condition that was opened before the body
      rw [Block.lines, List.foldl_cons, advance_condition, List.foldl_append, ihbody, List.foldl_cons,
        advance_closing rfl, ihrest]
      rfl
  | branched cond body other rest ihbody ihother ihrest =>
      have hlength : (Block.branched cond body other rest).lines.length =
          1 + (body.lines.length + (1 + (other.lines.length + (1 + rest.lines.length)))) := by
        simp only [Block.lines, List.length_cons, List.length_append]
        omega
      rw [hlength, Block.draw]
      simp only [State.grow_andThen]
      rw [Block.lines, List.foldl_cons, advance_condition, List.foldl_append, ihbody, List.foldl_cons,
        advance_otherwise rfl, List.foldl_append, ihother, List.foldl_cons, advance_closing rfl, ihrest]
      rfl

/-! ## Braces -/

section Braces

variable {pre : String} {s : State}

/-- Every line counts. -/
theorem count_foldl (ls : List (List Char)) (s : State) :
    (ls.foldl (advance pre) s).count = s.count + ls.length := by
  induction ls generalizing s with
  | nil => rfl
  | cons line ls ih =>
      have hline : (advance pre s line).count = s.count + 1 := by
        unfold advance
        cases classify line <;> cases s.conditions <;> rfl
      rw [List.foldl_cons, ih, hline, List.length_cons, Nat.add_right_comm, Nat.add_assoc]

/-- The brace behind some lines is among `braces`, with the line of the condition that is open there. -/
def Matched (pre : String) (braces : List (Nat × Nat)) (s : State) (before : List (List Char)) : Prop :=
  ∃ k, (k, s.count + before.length + 1) ∈ braces ∧
    (before.foldl (advance pre) s).conditions.head? = some (conditionAt pre k)

theorem Matched.of_conditions {braces : List (Nat × Nat)} {before : List (List Char)} {below : List Condition}
    {k n : Nat} (h : (before.foldl (advance pre) s).conditions = conditionAt pre k :: below)
    (hn : n = s.count + before.length + 1) (hmem : (k, n) ∈ braces) : Matched pre braces s before :=
  ⟨k, hn ▸ hmem, by rw [h]; rfl⟩

theorem Matched.mono {braces braces' : List (Nat × Nat)} {before : List (List Char)}
    (h : Matched pre braces s before) (hsub : braces ⊆ braces') : Matched pre braces' s before := by
  obtain ⟨k, hk, hhead⟩ := h
  exact ⟨k, hsub hk, hhead⟩

/-- What is matched behind some lines is matched from their begin. -/
theorem Matched.shift {braces : Nat → List (Nat × Nat)} {front before ls : List (List Char)} {n : Nat}
    (h : Matched pre (braces (front.foldl (advance pre) s).count) (front.foldl (advance pre) s) before)
    (hn : n = s.count + front.length) (hls : ls = front ++ before) : Matched pre (braces n) s ls := by
  obtain ⟨k, hk, hhead⟩ := h
  rw [count_foldl, ← hn] at hk
  refine ⟨k, ?_, by rwa [hls, List.foldl_append]⟩
  rwa [hls, List.length_append, ← Nat.add_assoc, ← hn]

/-- Where a line may stand in a text with a line in its middle. -/
theorem append_cons_cases {α : Type} {xs ys before after : List α} {x y : α}
    (h : xs ++ x :: ys = before ++ y :: after) : (∃ w, xs = before ++ y :: w) ∨ (before = xs ∧ x = y) ∨
      ∃ w, before = xs ++ x :: w ∧ ys = w ++ y :: after := by
  rcases List.append_eq_append_iff.1 h with ⟨w, rfl, hw⟩ | ⟨w, rfl, hw⟩
  · cases w with
    | nil => exact .inr (.inl ⟨by simp, (List.cons.inj hw).1⟩)
    | cons z w =>
        obtain ⟨rfl, rfl⟩ := List.cons.inj hw
        exact .inr (.inr ⟨w, rfl, rfl⟩)
  · cases w with
    | nil => exact .inr (.inl ⟨by simp, (List.cons.inj hw).1.symm⟩)
    | cons z w =>
        obtain ⟨rfl, -⟩ := List.cons.inj hw
        exact .inl ⟨w, rfl⟩

/-- Behind the first branch of a condition, the condition is open. -/
theorem conditions_foldl_body (cond : ConditionLine) (body : Block) (s : State) :
    ((cond.text :: body.lines).foldl (advance pre) s).conditions =
      conditionAt pre (s.count + 1) :: s.conditions := by
  rw [List.foldl_cons, advance_condition, foldl_lines]
  rfl

/-- So it is behind the second. -/
theorem conditions_foldl_other (cond : ConditionLine) (body other : Block) (s : State) :
    ((cond.text :: (body.lines ++ otherwise :: other.lines)).foldl (advance pre) s).conditions =
      conditionAt pre (s.count + 1) :: s.conditions := by
  rw [List.foldl_cons, advance_condition, List.foldl_append, foldl_lines, List.foldl_cons,
    advance_otherwise rfl, foldl_lines]
  rfl

/-- **A brace in a block closes the condition it belongs to.** -/
theorem matched_of_lines_eq (b : Block) (s : State) {before after : List (List Char)}
    (h : b.lines = before ++ closing :: after) : Matched pre (b.braces s.count) s before := by
  induction b generalizing s before after with
  | nil => simp [Block.lines] at h
  | plain line rest ih =>
      cases before with
      | nil => exact absurd (List.cons.inj h).1 line.ne_closing
      | cons first before =>
          obtain ⟨rfl, htail⟩ := List.cons.inj h
          exact (ih ([line.text].foldl (advance pre) s) htail).shift rfl rfl
  | guarded cond body rest ihbody ihrest =>
      cases before with
      | nil => exact absurd (List.cons.inj h).1 cond.ne_closing
      | cons first before =>
          obtain ⟨rfl, htail⟩ := List.cons.inj h
          rw [Block.braces]
          -- the brace stands in the body, behind it or in the rest
          rcases append_cons_cases htail with ⟨w, hw⟩ | ⟨rfl, -⟩ | ⟨w, rfl, hw⟩
          · have hbody := ihbody ([cond.text].foldl (advance pre) s) hw
            exact (hbody.shift rfl rfl).mono (by simp)
          · refine .of_conditions (conditions_foldl_body cond body s) ?_ (List.mem_append_right _ List.mem_cons_self)
            rw [List.length_cons]
            omega
          · have hrest := ihrest ((cond.text :: (body.lines ++ [closing])).foldl (advance pre) s) hw
            refine (hrest.shift ?_ (by simp)).mono (List.subset_append_of_subset_right _ (List.subset_cons_self _ _))
            simp only [List.length_cons, List.length_append, List.length_nil]
            omega
  | branched cond body other rest ihbody ihother ihrest =>
      cases before with
      | nil => exact absurd (List.cons.inj h).1 cond.ne_closing
      | cons first before =>
          obtain ⟨rfl, htail⟩ := List.cons.inj h
          rw [Block.braces]
          rcases append_cons_cases htail with ⟨w, hw⟩ | ⟨-, heq⟩ | ⟨w, rfl, hbehind⟩
          · have hbody := ihbody ([cond.text].foldl (advance pre) s) hw
            exact (hbody.shift rfl rfl).mono (by simp)
          · exact absurd heq (by decide)
          rcases append_cons_cases hbehind with ⟨v, hv⟩ | ⟨rfl, -⟩ | ⟨v, rfl, hv⟩
          · have hother := ihother ((cond.text :: (body.lines ++ [otherwise])).foldl (advance pre) s) hv
            refine (hother.shift ?_ (by simp)).mono
              (List.subset_append_of_subset_right _ (List.subset_append_left _ _))
            simp only [List.length_cons, List.length_append, List.length_nil]
            omega
          · refine .of_conditions (conditions_foldl_other cond body other s) ?_
              (List.mem_append_right _ (List.mem_append_right _ List.mem_cons_self))
            simp only [List.length_cons, List.length_append]
            omega
          · have hrest := ihrest ((cond.text :: (body.lines ++ otherwise :: (other.lines ++ [closing]))).foldl
              (advance pre) s) hv
            refine (hrest.shift ?_ (by simp)).mono (List.subset_append_of_subset_right _
              (List.subset_append_of_subset_right _ (List.subset_cons_self _ _)))
            simp only [List.length_cons, List.length_append, List.length_nil]
            omega

end Braces

/-! ## Code -/

theorem dropLineComments_of_not_infix {t : List Char} (h : ¬['/', '/'] <:+: t) : dropLineComments false t = t := by
  induction t with
  | nil => rfl
  | cons c t ih =>
      rw [List.infix_cons_iff, not_or] at h
      have hbegin : ¬(c = '/' ∧ t.head? = some '/') := by
        rintro ⟨rfl, hhead⟩
        obtain ⟨rest, rfl⟩ := List.head?_eq_some_iff.1 hhead
        exact h.1 ⟨rest, rfl⟩
      rw [dropLineComments, if_neg Bool.false_ne_true, if_neg hbegin, ih h.2]

theorem dropBlockComments_of_not_infix {t : List Char} (h : ¬['/', '*'] <:+: t) :
    dropBlockComments false t = t := by
  induction t with
  | nil => rfl
  | cons c t ih =>
      rw [List.infix_cons_iff, not_or] at h
      rw [dropBlockComments, ih h.2]
      rintro rest rfl rfl
      exact h.1 ⟨rest, rfl⟩

/-- Where no comment begins, all lines count. -/
theorem codeLines_of_not_infix {code : List Char} (hline : ¬['/', '/'] <:+: code)
    (hblock : ¬['/', '*'] <:+: code) : codeLines code = ((lines code).map strip).filter (!·.isEmpty) := by
  rw [codeLines, dropLineComments_of_not_infix hline, dropBlockComments_of_not_infix hblock]

/-- The same where none begins in a line. -/
theorem codeLines_of_no_comment {code : List Char}
    (h : ∀ line ∈ lines code, ¬['/', '/'] <:+: line ∧ ¬['/', '*'] <:+: line) :
    codeLines code = ((lines code).map strip).filter (!·.isEmpty) := by
  have hline : ¬['/', '/'] <:+: code := by
    intro hcode
    obtain ⟨line, hmem, hinfix⟩ := exists_line_of_infix (by simp [isLineEnd]) (by simp) hcode
    exact (h line hmem).1 hinfix
  have hblock : ¬['/', '*'] <:+: code := by
    intro hcode
    obtain ⟨line, hmem, hinfix⟩ := exists_line_of_infix (by simp [isLineEnd]) (by simp) hcode
    exact (h line hmem).2 hinfix
  exact codeLines_of_not_infix hline hblock

/-- The lines of a block give its diagram. -/
theorem finish_foldl_lines (pre file : String) (b : Block) :
    finish pre (b.lines.foldl (advance pre) (start pre file)) = b.diagram pre file := by
  rw [foldl_lines, finish]
  exact Graph.append_assoc ..

/-- **Code in nested blocks is drawn by recursion over its blocks.** Every brace closes the condition it belongs
to, and at the end none is open. -/
theorem diagram_of_nested_blocks {code file : String} {b : Block}
    (hcomment : ∀ line ∈ lines code.toList, ¬['/', '/'] <:+: line ∧ ¬['/', '*'] <:+: line)
    (hlines : ((lines code.toList).map strip).filter (!·.isEmpty) = b.lines) :
    let pre := Ident.sanitize file
    let after := fun ls : List (List Char) => ls.foldl (advance pre) (start pre file)
    diagram code file = b.diagram pre file ∧
      (∀ front rest, b.lines = front ++ closing :: rest → ∃ k below, (k, front.length + 1) ∈ b.braces 0 ∧
        (after front).conditions = conditionAt pre k :: below ∧
        (after (front ++ [closing])).conditions = below) ∧
      (after (codeLines code.toList)).conditions = [] := by
  intro pre after
  have hcode : codeLines code.toList = b.lines := (codeLines_of_no_comment hcomment).trans hlines
  refine ⟨?_, ?_, ?_⟩
  · rw [diagram, hcode]
    exact finish_foldl_lines pre file b
  · intro front rest hfront
    obtain ⟨k, hk, hhead⟩ := matched_of_lines_eq b (start pre file) hfront
    obtain ⟨below, hbelow⟩ := List.head?_eq_some_iff.1 hhead
    refine ⟨k, below, ?_, hbelow, ?_⟩
    · rwa [show (start pre file).count = 0 from rfl, Nat.zero_add] at hk
    · show ((front ++ [closing]).foldl (advance pre) (start pre file)).conditions = below
      rw [List.foldl_append, List.foldl_cons, List.foldl_nil, advance_closing hbelow]
      rfl
  · show ((codeLines code.toList).foldl (advance pre) (start pre file)).conditions = []
    rw [hcode, foldl_lines]
    rfl

/-- Code with a condition in a loop. -/
def loopCode : String := "while (a) \x7b\n  if (b) \x7b\n    c;\n  \x7d else \x7b\n\n    d;\n  \x7d\n\x7d\ne;"

/-- Its blocks. -/
def loopBlock : Block :=
  .guarded ⟨"while (a) \x7b".toList, by decide⟩
    (.branched ⟨"if (b) \x7b".toList, by decide⟩
      (.plain ⟨"c;".toList, by decide, by decide, by decide⟩ .nil)
      (.plain ⟨"d;".toList, by decide, by decide, by decide⟩ .nil) .nil)
    (.plain ⟨"e;".toList, by decide, by decide, by decide⟩ .nil)

theorem diagram_loopCode :
    (∀ line ∈ lines loopCode.toList, ¬['/', '/'] <:+: line ∧ ¬['/', '*'] <:+: line) ∧
      ((lines loopCode.toList).map strip).filter (!·.isEmpty) = loopBlock.lines ∧
      loopBlock.braces 0 = [(2, 6), (1, 7)] ∧
      diagram loopCode "a.c" = loopBlock.diagram (Ident.sanitize "a.c") "a.c" := by
  have hcomment : ∀ line ∈ lines loopCode.toList, ¬['/', '/'] <:+: line ∧ ¬['/', '*'] <:+: line := by
    decide +kernel
  have hlines : ((lines loopCode.toList).map strip).filter (!·.isEmpty) = loopBlock.lines := by
    decide +kernel
  exact ⟨hcomment, hlines, by decide +kernel, (diagram_of_nested_blocks hcomment hlines).1⟩

end CodeFlow.BraceGraph
