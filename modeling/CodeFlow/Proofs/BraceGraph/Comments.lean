import Mathlib
import CodeFlow.Proofs.BraceGraph.Nested

/-!
# `CodeFlow.Proofs.BraceGraph.Comments` — what is left of code around a comment

Comments go in two passes, those of a line first. The first pass knows nothing of the second: two slashes in the
last line of a comment, or a slash just behind it, take away the end of the comment, and then the comment goes on
up to the next end, or stays if there is none. So what stands in a comment can show.

What is left behind the text in front of a comment is given by cases in one equation (`uncomment_around`), and
which comments are alike follows from there.

## Contents
- `lineOpen`, `lineOpen_iff`: whether a comment of a line is open behind a text; `dropLineComments_append`.
- `Ends`, `kept`, `remainder`, `uncomment_around`.
- `remainder_eq_iff`, `comment_bodies_hidden_iff`, and an address that shows.
-/

namespace CodeFlow.BraceGraph

open Text

/-! ## Comments of a line -/

/-- Whether a comment of a line is open behind a text; `inside` one at its begin. -/
def lineOpen (inside : Bool) : List Char → Bool
  | [] => inside
  | c :: rest =>
    if inside then lineOpen (c != '\n') rest
    else if c = '/' ∧ rest.head? = some '/' then lineOpen true rest
    else lineOpen false rest

/-- Two slashes with no line break behind them. -/
def SlashesLast (t : List Char) : Prop := ∃ u v, t = u ++ '/' :: '/' :: v ∧ '\n' ∉ v

theorem slashesLast_cons {c : Char} {t : List Char} :
    SlashesLast (c :: t) ↔ (c = '/' ∧ t.head? = some '/' ∧ '\n' ∉ t) ∨ SlashesLast t := by
  constructor
  · rintro ⟨u, v, heq, hv⟩
    cases u with
    | nil =>
        obtain ⟨rfl, rfl⟩ := List.cons.inj heq
        exact .inl ⟨rfl, rfl, by simpa using hv⟩
    | cons d u =>
        obtain ⟨rfl, rfl⟩ := List.cons.inj heq
        exact .inr ⟨u, v, rfl, hv⟩
  · rintro (⟨rfl, hhead, hbreak⟩ | ⟨u, v, rfl, hv⟩)
    · obtain ⟨v, rfl⟩ := List.head?_eq_some_iff.1 hhead
      exact ⟨[], v, rfl, fun hm => hbreak (List.mem_cons_of_mem _ hm)⟩
    · exact ⟨c :: u, v, rfl, hv⟩

/-- A comment of a line is open behind a text iff the text has two slashes with no line break behind them, or
begins in such a comment and does not break. -/
theorem lineOpen_iff (inside : Bool) (t : List Char) :
    lineOpen inside t = true ↔ (inside = true ∧ '\n' ∉ t) ∨ SlashesLast t := by
  induction t generalizing inside with
  | nil => simp [lineOpen, SlashesLast]
  | cons c t ih =>
      rw [lineOpen, slashesLast_cons]
      cases inside with
      | true =>
          rw [if_pos rfl, ih]
          by_cases hbreak : c = '\n'
          · simp [hbreak]
          · simp only [bne_iff_ne, ne_eq, hbreak, not_false_eq_true, true_and, List.mem_cons, not_or,
              Ne.symm hbreak]
            tauto
      | false =>
          rw [if_neg Bool.false_ne_true]
          by_cases hslashes : c = '/' ∧ t.head? = some '/'
          · rw [if_pos hslashes, ih]
            simp [hslashes]
          · rw [if_neg hslashes, ih]
            tauto

/-- Two texts are read one after the other, where no two slashes stand across them. -/
theorem dropLineComments_append {b : List Char} (hb : b.head? ≠ some '/') (inside : Bool) (a : List Char) :
    dropLineComments inside (a ++ b) = dropLineComments inside a ++ dropLineComments (lineOpen inside a) b := by
  induction a generalizing inside with
  | nil => simp [dropLineComments, lineOpen]
  | cons c a ih =>
      have hhead : (a ++ b).head? = some '/' ↔ a.head? = some '/' := by
        cases a with
        | nil => simpa using hb
        | cons d a => rfl
      rw [List.cons_append, dropLineComments, dropLineComments, lineOpen]
      simp only [hhead]
      cases inside with
      | true =>
          by_cases hbreak : c = '\n'
          · simp [hbreak, ih]
          · have hinside : (c != '\n') = true := bne_iff_ne.2 hbreak
            simp [hbreak, hinside, ih]
      | false =>
          by_cases hslashes : c = '/' ∧ a.head? = some '/'
          · simp [hslashes, ih]
          · simp [hslashes, ih]

/-- In front of the first slash there is nothing to drop. -/
theorem dropLineComments_append_of_not_mem {a : List Char} (ha : '/' ∉ a) (b : List Char) :
    dropLineComments false (a ++ b) = a ++ dropLineComments false b := by
  induction a with
  | nil => rfl
  | cons c a ih =>
      obtain ⟨hc, ha⟩ := not_or.1 (List.mem_cons.not.1 ha)
      have hslashes : ¬(c = '/' ∧ (a ++ b).head? = some '/') := fun h => hc h.1.symm
      rw [List.cons_append, dropLineComments, if_neg Bool.false_ne_true, if_neg hslashes, ih ha]
      rfl

/-- What follows a comment of a line begins with a line break. -/
theorem head?_dropLineComments_true (t : List Char) : (dropLineComments true t).head? ≠ some '/' := by
  induction t with
  | nil => simp [dropLineComments]
  | cons c t ih =>
      rw [dropLineComments, if_pos rfl]
      split_ifs with hbreak
      · simp [hbreak]
      · exact ih

theorem head?_dropLineComments_false {t : List Char} (h : (dropLineComments false t).head? = some '/') :
    t.head? = some '/' := by
  cases t with
  | nil => simp [dropLineComments] at h
  | cons c t =>
      rw [dropLineComments, if_neg Bool.false_ne_true] at h
      split_ifs at h with hslashes
      · exact absurd h (head?_dropLineComments_true t)
      · simpa using h

theorem pair_infix_cons {x y c : Char} {t : List Char} :
    [x, y] <:+: c :: t ↔ (c = x ∧ t.head? = some y) ∨ [x, y] <:+: t := by
  rw [List.infix_cons_iff]
  refine or_congr_left ?_
  cases t with
  | nil => simp
  | cons d t => simp [eq_comm]

/-- No pair stands across two texts if the second does not begin with its second part. -/
theorem not_pair_across {x y c : Char} {k t : List Char} (hk : ¬(c = x ∧ k.head? = some y))
    (ht : t.head? ≠ some y) : ¬(c = x ∧ (k ++ t).head? = some y) := by
  rintro ⟨hc, hhead⟩
  cases k with
  | nil => exact ht hhead
  | cons d k => exact hk ⟨hc, hhead⟩

/-- Dropping comments of a line makes no end of another comment. -/
theorem not_infix_dropLineComments {t : List Char} (inside : Bool) (h : ¬['*', '/'] <:+: t) :
    ¬['*', '/'] <:+: dropLineComments inside t := by
  induction t generalizing inside with
  | nil => simp [dropLineComments]
  | cons c t ih =>
      rw [pair_infix_cons, not_or] at h
      have hkeep : ¬['*', '/'] <:+: c :: dropLineComments false t := by
        rw [pair_infix_cons, not_or]
        exact ⟨fun hend => h.1 ⟨hend.1, head?_dropLineComments_false hend.2⟩, ih false h.2⟩
      rw [dropLineComments]
      split_ifs
      · exact hkeep
      · exact ih true h.2
      · exact ih true h.2
      · exact hkeep

/-! ## Comments between delimiters -/

/-- In front of the first slash no comment begins. -/
theorem dropBlockComments_append_of_not_mem {a : List Char} (ha : '/' ∉ a) (b : List Char) :
    dropBlockComments false (a ++ b) = a ++ dropBlockComments false b := by
  induction a with
  | nil => rfl
  | cons c a ih =>
      obtain ⟨hc, ha⟩ := not_or.1 (List.mem_cons.not.1 ha)
      rw [List.cons_append, dropBlockComments, ih ha]
      · rfl
      · intro rest hslash _
        exact hc hslash.symm

theorem dropBlockComments_true_cons {c : Char} {t : List Char} (h : ¬(c = '*' ∧ t.head? = some '/')) :
    dropBlockComments true (c :: t) = dropBlockComments true t := by
  rw [dropBlockComments]
  rintro rest rfl rfl
  exact h ⟨rfl, rfl⟩

/-- A comment goes on behind a text without its end. -/
theorem dropBlockComments_true_append {k t : List Char} (hk : ¬['*', '/'] <:+: k) (ht : t.head? ≠ some '/') :
    dropBlockComments true (k ++ t) = dropBlockComments true t := by
  induction k with
  | nil => rfl
  | cons c k ih =>
      rw [pair_infix_cons, not_or] at hk
      rw [List.cons_append, dropBlockComments_true_cons (not_pair_across hk.1 ht), ih hk.2]

theorem occurs_pair_append {x y : Char} {k t : List Char} (hk : ¬[x, y] <:+: k) (ht : t.head? ≠ some y) :
    occurs [x, y] (k ++ t) = occurs [x, y] t := by
  rw [Bool.eq_iff_iff, occurs_iff_infix, occurs_iff_infix]
  induction k with
  | nil => rfl
  | cons c k ih =>
      rw [pair_infix_cons, not_or] at hk
      rw [List.cons_append, pair_infix_cons, ih hk.2, or_iff_right (not_pair_across hk.1 ht)]

/-! ## Both passes -/

/-- A text without comments. -/
def uncomment (t : List Char) : List Char := dropBlockComments false (dropLineComments false t)

/-- A comment with the text `c` in it ends where it is written, in front of the text `b`. -/
structure Ends (c b : List Char) : Prop where
  /-- No comment of a line is open there. -/
  body : ¬SlashesLast c
  /-- None begins with its last slash. -/
  behind : b.head? ≠ some '/'

/-- Behind a comment that has lost its end, another end follows. -/
def EndsLater (b : List Char) : Prop := ['*', '/'] <:+: dropLineComments true b

instance : DecidablePred EndsLater := fun b =>
  inferInstanceAs (Decidable (['*', '/'] <:+: dropLineComments true b))

theorem endsLater_iff {b : List Char} : EndsLater b ↔ occurs ['*', '/'] (dropLineComments true b) = true :=
  occurs_iff_infix.symm

/-- What is left of the text behind a comment that has lost its end, if another end follows. -/
def resumed (b : List Char) : List Char := dropBlockComments true (dropLineComments true b)

/-- What is left of the text in a comment that has lost its end. The star stays if only the slash was lost. -/
def kept (c : List Char) : List Char :=
  dropLineComments false c ++ if lineOpen false c then [] else ['*']

theorem not_infix_kept {c : List Char} (h : ¬['*', '/'] <:+: c) : ¬['*', '/'] <:+: kept c := by
  have hdrop := not_infix_dropLineComments false h
  unfold kept
  split_ifs
  · rwa [List.append_nil]
  · rw [← occurs_iff_infix, occurs_pair_concat (by decide), occurs_iff_infix]
    exact hdrop

theorem ends_iff {c b : List Char} : Ends c b ↔ lineOpen false c = false ∧ b.head? ≠ some '/' := by
  have hbody : lineOpen false c = false ↔ ¬SlashesLast c := by
    rw [Bool.eq_false_iff, ne_eq, lineOpen_iff]
    simp
  rw [hbody]
  exact ⟨fun h => ⟨h.1, h.2⟩, fun h => ⟨h.1, h.2⟩⟩

instance (c b : List Char) : Decidable (Ends c b) := decidable_of_iff _ ends_iff.symm

/-- The first pass behind the begin of a comment. -/
theorem dropLineComments_comment (c b : List Char) : dropLineComments false (c ++ '*' :: '/' :: b) =
    dropLineComments false c ++ dropLineComments (lineOpen false c) ('*' :: '/' :: b) :=
  dropLineComments_append (by simp) false c

/-- A comment that ends where it is written still does so after the first pass. -/
theorem dropLineComments_of_ends {c b : List Char} (h : Ends c b) : dropLineComments false (c ++ '*' :: '/' :: b) =
    dropLineComments false c ++ '*' :: '/' :: dropLineComments false b := by
  obtain ⟨hopen, hhead⟩ := ends_iff.1 h
  rw [dropLineComments_comment, hopen]
  simp [dropLineComments, hhead]

/-- Any other comment has lost its end. -/
theorem dropLineComments_of_not_ends {c b : List Char} (h : ¬Ends c b) :
    dropLineComments false (c ++ '*' :: '/' :: b) = kept c ++ dropLineComments true b := by
  rw [dropLineComments_comment, kept]
  cases hopen : lineOpen false c with
  | true => simp [dropLineComments]
  | false =>
      have hhead : b.head? = some '/' := by
        by_contra hhead
        exact h (ends_iff.2 ⟨hopen, hhead⟩)
      simp [dropLineComments, hhead]

/-- What is left of a comment with the text `c` in it and the text `b` behind it. -/
def remainder (c b : List Char) : List Char :=
  if Ends c b then uncomment b
  else if EndsLater b then resumed b
  else '/' :: '*' :: (kept c ++ dropLineComments true b)

/-- **What is left of code around a comment**, by cases: the comment ends where it is written, or it goes on up to
a later end, or it stays. -/
theorem uncomment_around {a c : List Char} (b : List Char) (ha : '/' ∉ a) (hc : ¬['*', '/'] <:+: c) :
    uncomment (a ++ '/' :: '*' :: (c ++ '*' :: '/' :: b)) = a ++ remainder c b := by
  have hbegin : uncomment (a ++ '/' :: '*' :: (c ++ '*' :: '/' :: b)) =
      a ++ dropBlockComments false ('/' :: '*' :: dropLineComments false (c ++ '*' :: '/' :: b)) := by
    rw [uncomment, dropLineComments_append_of_not_mem ha, dropBlockComments_append_of_not_mem ha]
    simp [dropLineComments]
  rw [hbegin, remainder, dropBlockComments]
  congr 1
  have hstop := head?_dropLineComments_true b
  by_cases hends : Ends c b
  · have hbody := not_infix_dropLineComments false hc
    have hend : occurs ['*', '/'] (dropLineComments false c ++ '*' :: '/' :: dropLineComments false b) = true := by
      rw [occurs_pair_append hbody (by simp)]
      rfl
    rw [if_pos hends, dropLineComments_of_ends hends, if_pos hend,
      dropBlockComments_true_append hbody (by simp), dropBlockComments, uncomment]
  · rw [if_neg hends, dropLineComments_of_not_ends hends, dropBlockComments_true_append (not_infix_kept hc) hstop,
      occurs_pair_append (not_infix_kept hc) hstop]
    simp only [endsLater_iff]
    rfl

/-! ## Comments alike -/

/-- Text that does not begin with a slash does not do so without comments. -/
theorem head?_uncomment {b : List Char} (h : b.head? ≠ some '/') : (uncomment b).head? ≠ some '/' := by
  cases b with
  | nil => simp [uncomment, dropLineComments, dropBlockComments]
  | cons c b =>
      have hc : '/' ∉ [c] := by simpa [eq_comm] using h
      rw [uncomment, ← List.singleton_append, dropLineComments_append_of_not_mem hc,
        dropBlockComments_append_of_not_mem hc]
      simpa using h

/-- Of a comment that ends where it is written nothing stays; of one that does not, its begin does, unless
another end follows. -/
theorem remainder_ne {c₁ c₂ b : List Char} (h₁ : Ends c₁ b) (h₂ : ¬Ends c₂ b) (hlater : ¬EndsLater b) :
    remainder c₁ b ≠ remainder c₂ b := by
  rw [remainder, remainder, if_pos h₁, if_neg h₂, if_neg hlater]
  intro heq
  exact head?_uncomment h₁.behind (by rw [heq]; rfl)

/-- **Which comments leave the same.** -/
theorem remainder_eq_iff (c₁ c₂ b : List Char) : remainder c₁ b = remainder c₂ b ↔
    (Ends c₁ b ∧ Ends c₂ b) ∨
      (¬Ends c₁ b ∧ ¬Ends c₂ b ∧ (EndsLater b ∨ kept c₁ = kept c₂)) ∨
      (¬(Ends c₁ b ↔ Ends c₂ b) ∧ EndsLater b ∧ uncomment b = resumed b) := by
  by_cases h₁ : Ends c₁ b
  · by_cases h₂ : Ends c₂ b
    · simp [remainder, h₁, h₂]
    · by_cases hlater : EndsLater b
      · simp [remainder, h₁, h₂, hlater]
      · simpa [h₁, h₂, hlater] using remainder_ne h₁ h₂ hlater
  · by_cases h₂ : Ends c₂ b
    · by_cases hlater : EndsLater b
      · simp [remainder, h₁, h₂, hlater, eq_comm]
      · simpa [h₁, h₂, hlater] using (remainder_ne h₂ h₁ hlater).symm
    · by_cases hlater : EndsLater b
      · simp [remainder, h₁, h₂, hlater]
      · simp [remainder, h₁, h₂, hlater]

theorem diagram_congr {code code' : String} (h : uncomment code.toList = uncomment code'.toList) (file : String) :
    diagram code file = diagram code' file := by
  have hlines : ∀ t, codeLines t = ((lines (uncomment t)).map strip).filter (!·.isEmpty) := fun _ => rfl
  rw [diagram, diagram, hlines, hlines, h]

/-- **When what stands in a comment does not show.** Two comments at one place leave the same code, and so the same
diagram, if both end where they are written, or if neither does and another end follows or the same is left of
what stands in them. If only one of them ends where it is written, the same is left only by chance of what
follows. -/
theorem comment_bodies_hidden_iff {a b c₁ c₂ : String} (ha : '/' ∉ a.toList)
    (h₁ : ¬['*', '/'] <:+: c₁.toList) (h₂ : ¬['*', '/'] <:+: c₂.toList) :
    let code := fun c : String => a ++ "/*" ++ c ++ "*/" ++ b
    let left := fun c : String => uncomment (code c).toList
    let ends := fun c : String => Ends c.toList b.toList
    (∀ c ∈ [c₁, c₂], ends c → left c = a.toList ++ uncomment b.toList) ∧
      (left c₁ = left c₂ ↔ (ends c₁ ∧ ends c₂) ∨
        (¬ends c₁ ∧ ¬ends c₂ ∧ (EndsLater b.toList ∨ kept c₁.toList = kept c₂.toList)) ∨
        (¬(ends c₁ ↔ ends c₂) ∧ EndsLater b.toList ∧ uncomment b.toList = resumed b.toList)) ∧
      (left c₁ = left c₂ → ∀ file, diagram (code c₁) file = diagram (code c₂) file) := by
  intro code left ends
  have hleft : ∀ c ∈ [c₁, c₂], left c = a.toList ++ remainder c.toList b.toList := by
    intro c hc
    have hbody : ¬['*', '/'] <:+: c.toList := by
      rcases List.mem_pair.1 hc with rfl | rfl
      · exact h₁
      · exact h₂
    rw [← uncomment_around b.toList ha hbody]
    simp [left, code]
  refine ⟨fun c hc hends => ?_, ?_, diagram_congr⟩
  · rw [hleft c hc, remainder, if_pos hends]
  · rw [hleft c₁ (by simp), hleft c₂ (by simp), List.append_cancel_left_eq]
    exact remainder_eq_iff c₁.toList c₂.toList b.toList

/-- A comment over two lines with an address in the first of them. -/
def remark : String := "see http://a.b\nthere *"

theorem remark_hidden :
    let code := fun c : String => "x; " ++ "/*" ++ c ++ "*/" ++ " y;"
    ('/' ∉ "x; ".toList ∧ ¬['*', '/'] <:+: remark.toList ∧ ¬['*', '/'] <:+: "z".toList) ∧
      diagram (code remark) "main" = diagram (code "z") "main" := by
  intro code
  have ha : '/' ∉ "x; ".toList := by decide
  have h₁ : ¬['*', '/'] <:+: remark.toList := by decide
  have h₂ : ¬['*', '/'] <:+: "z".toList := by decide
  refine ⟨⟨ha, h₁, h₂⟩, ?_⟩
  obtain ⟨-, hiff, hsame⟩ := @comment_bodies_hidden_iff "x; " " y;" remark "z" ha h₁ h₂
  exact hsame (hiff.2 (.inl ⟨by decide, by decide⟩)) "main"

/-- An address in the last line of a comment takes its end away. -/
theorem address_shows :
    let code := fun c : String => "int n = 0; " ++ "/*" ++ c ++ "*/" ++ "\nn = n + 1;\n"
    ('/' ∉ "int n = 0; ".toList ∧ ¬['*', '/'] <:+: " see http://example.com ".toList ∧
        ¬['*', '/'] <:+: " see the manual ".toList) ∧
      diagram (code " see http://example.com ") "main" ≠ diagram (code " see the manual ") "main" := by
  decide +kernel

end CodeFlow.BraceGraph
