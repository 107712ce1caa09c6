import Mathlib
import CodeFlow.Text.Search

/-!
# `CodeFlow.Proofs.Text.Search` — laws of stripping, splitting, lines and joining

The definitions of `Text` run on lists of characters. The laws here are the ones by which other modules
use them: what stripping leaves of a text with blanks around it, and how a text falls apart at an arrow.
-/

namespace CodeFlow.Text

theorem bne_of_not_mem {x : Char} {t : List Char} (h : x ∉ t) : ∀ c ∈ t, (c != x) = true := by
  intro c hc
  rw [bne_iff_ne]
  rintro rfl
  exact h hc

/-- What finds nothing in some elements may leave them out. -/
theorem flatMap_filter_of_nil {α β : Type} {p : α → Bool} {f : α → List β}
    (hf : ∀ x, p x = false → f x = []) (xs : List α) : (xs.filter p).flatMap f = xs.flatMap f := by
  induction xs with
  | nil => rfl
  | cons x xs ih =>
      by_cases hx : p x = true
      · rw [List.filter_cons_of_pos hx, List.flatMap_cons, List.flatMap_cons, ih]
      · rw [List.filter_cons_of_neg hx, List.flatMap_cons, ih, hf x (by simpa using hx), List.nil_append]

/-! ## Stripping -/

theorem dropEndWhile_append_of_forall {α : Type} {p : α → Bool} {a b : List α}
    (hb : ∀ x ∈ b, p x = true) : dropEndWhile p (a ++ b) = dropEndWhile p a := by
  unfold dropEndWhile
  rw [List.reverse_append, List.dropWhile_append_of_pos (by simpa using hb)]

theorem dropEndWhile_of_getLast {α : Type} {p : α → Bool} {a : List α}
    (h : ∀ x, a.getLast? = some x → p x = false) : dropEndWhile p a = a := by
  unfold dropEndWhile
  rcases List.eq_nil_or_concat a with rfl | ⟨t, x, rfl⟩
  · rfl
  · have hx : p x = false := h x (by simp)
    simp [hx]

theorem dropEndWhile_append_cons {α : Type} {p : α → Bool} {x : α} (hx : p x = false) (a b : List α) :
    dropEndWhile p (a ++ x :: b) = a ++ x :: dropEndWhile p b := by
  unfold dropEndWhile
  rw [List.reverse_append, List.reverse_cons, List.dropWhile_append, List.dropWhile_append]
  by_cases hb : (b.reverse.dropWhile p).isEmpty = true
  · simp [hx, List.isEmpty_iff.1 hb]
  · simp [hb]

theorem dropEndWhile_cons {α : Type} {p : α → Bool} {x : α} (hx : p x = false) (a : List α) :
    dropEndWhile p (x :: a) = x :: dropEndWhile p a :=
  dropEndWhile_append_cons hx [] a

/-- What a text begins with stays there if it is no blank. -/
theorem strip_cons {c : Char} (hc : isBlank c = false) (t : List Char) :
    strip (c :: t) = c :: stripEnd t := by
  unfold strip stripStart
  rw [List.dropWhile_cons_of_neg (by simp [hc])]
  exact dropEndWhile_cons hc t

/-- Blanks in front of a text do not show after stripping. -/
theorem strip_append_left {b t : List Char} (hb : ∀ c ∈ b, isBlank c = true) :
    strip (b ++ t) = strip t := by
  unfold strip stripStart
  rw [List.dropWhile_append_of_pos hb]

theorem stripStart_of_head {t : List Char} (h : ∀ c, t.head? = some c → isBlank c = false) :
    stripStart t = t := by
  cases t with
  | nil => rfl
  | cons c t => simp [stripStart, h c rfl]

/-- A text with blanks around it is stripped to itself. -/
theorem strip_padded {b t e : List Char} (hb : ∀ c ∈ b, isBlank c = true)
    (he : ∀ c ∈ e, isBlank c = true) (hne : t ≠ [])
    (hhead : ∀ c, t.head? = some c → isBlank c = false)
    (hlast : ∀ c, t.getLast? = some c → isBlank c = false) : strip (b ++ t ++ e) = t := by
  rw [List.append_assoc, strip_append_left hb]
  unfold strip
  have hstart : stripStart (t ++ e) = t ++ e := by
    apply stripStart_of_head
    intro c hc
    cases t with
    | nil => exact absurd rfl hne
    | cons d t => exact hhead c (by simpa using hc)
  rw [hstart]
  unfold stripEnd
  rw [dropEndWhile_append_of_forall he, dropEndWhile_of_getLast hlast]

/-- A text without blanks is stripped to itself. -/
theorem strip_of_forall {t : List Char} (h : ∀ c ∈ t, isBlank c = false) : strip t = t := by
  rcases t with _ | ⟨c, t⟩
  · rfl
  · have := @strip_padded [] (c :: t) [] (by simp) (by simp) (by simp)
      (fun d hd => h d (List.mem_of_mem_head? hd))
      (fun d hd => h d (List.mem_of_getLast? hd))
    simpa using this

theorem dropEndWhile_subset {α : Type} (p : α → Bool) (t : List α) : dropEndWhile p t ⊆ t := by
  intro x hx
  have : x ∈ t.reverse := List.dropWhile_subset _ (by simpa [dropEndWhile] using hx)
  simpa using this

theorem dropEndWhile_prefix {α : Type} (p : α → Bool) (t : List α) : dropEndWhile p t <+: t := by
  simpa [dropEndWhile] using List.reverse_prefix.2 (List.dropWhile_suffix p : t.reverse.dropWhile p <:+ t.reverse)

/-- A text of which stripping leaves nothing is blank. -/
theorem isBlank_of_strip_eq_nil {t : List Char} (h : strip t = []) : ∀ c ∈ t, isBlank c = true := by
  have hend : ∀ c ∈ t.dropWhile isBlank, isBlank c = true := by
    have : (t.dropWhile isBlank).reverse.dropWhile isBlank = [] := by
      simpa [strip, stripEnd, stripStart, dropEndWhile] using h
    simpa using List.dropWhile_eq_nil_iff.1 this
  intro c hc
  rw [← List.takeWhile_append_dropWhile (p := isBlank) (l := t), List.mem_append] at hc
  exact hc.elim List.mem_takeWhile_imp (hend c)

theorem strip_subset (t : List Char) : strip t ⊆ t := fun _ hx =>
  List.dropWhile_subset _ (dropEndWhile_subset _ _ hx)

/-- What is left of a stripped text begins with no blank. -/
theorem isBlank_of_strip_eq_cons {t rest : List Char} {c : Char} (h : strip t = c :: rest) : isBlank c = false := by
  have hprefix : c :: rest <+: stripStart t := h ▸ dropEndWhile_prefix isBlank (stripStart t)
  obtain ⟨behind, hbehind⟩ := hprefix
  have hhead := List.head?_dropWhile_not isBlank t
  rw [show t.dropWhile isBlank = stripStart t from rfl, ← hbehind] at hhead
  simpa using hhead

/-! ## Splitting -/

section Split

variable {x y : Char} {t u : List Char}

/-- A piece occurs where it is a part of the text. -/
theorem occurs_iff_infix {piece : List Char} : occurs piece t = true ↔ piece <:+: t := by
  induction t with
  | nil => simp [occurs]
  | cons c t ih => rw [occurs, Bool.or_eq_true, List.isPrefixOf_iff_prefix, ih, List.infix_cons_iff]

/-- A piece does not begin where its first character is missing. -/
theorem occurs_append_of_not_mem (ht : x ∉ t) (piece u : List Char) :
    occurs (x :: piece) (t ++ u) = occurs (x :: piece) u := by
  induction t with
  | nil => rfl
  | cons c t ih =>
      have hc : x ≠ c := fun e => ht (by simp [e])
      have hrest := ih fun hm => ht (List.mem_cons_of_mem _ hm)
      simp [occurs, List.isPrefixOf, hc, hrest]

theorem occurs_pair_of_not_mem (ht : x ∉ t) : occurs [x, y] t = false := by
  have := occurs_append_of_not_mem ht [y] []
  rwa [List.append_nil] at this

/-- A piece does not end where its last character is missing. -/
theorem occurs_pair_concat {z : Char} (hz : z ≠ y) (t : List Char) :
    occurs [x, y] (t ++ [z]) = occurs [x, y] t := by
  induction t with
  | nil => simp [occurs, List.isPrefixOf]
  | cons c t ih =>
      rw [List.cons_append, occurs, occurs, ih]
      cases t <;> simp [List.isPrefixOf, hz.symm]

/-- A text falls apart at the first occurrence of a piece of two different characters. -/
theorem splitOn_append_pair (hxy : x ≠ y) (ht : occurs [x, y] t = false) :
    splitOn [x, y] (t ++ x :: y :: u) = t :: splitOn [x, y] u := by
  unfold splitOn
  induction t with
  | nil => simp [splitFrom]
  | cons c t ih =>
      simp only [occurs, Bool.or_eq_false_iff] at ht
      -- the piece does not begin in the text and end in the occurrence behind it either
      have hhead : [x, y].isPrefixOf (c :: (t ++ x :: y :: u)) = false := by
        cases t with
        | nil => simp [List.isPrefixOf, hxy.symm]
        | cons d t => simpa [List.isPrefixOf] using ht.1
      simp [splitFrom, hhead, ih ht.2, consHead]

/-- A text in which a piece does not occur stays whole. -/
theorem splitOn_pair_of_not_occurs (ht : occurs [x, y] t = false) : splitOn [x, y] t = [t] := by
  unfold splitOn
  induction t with
  | nil => simp [splitFrom]
  | cons c t ih =>
      simp only [occurs, Bool.or_eq_false_iff] at ht
      simp [splitFrom, ht.1, ih ht.2, consHead]

/-- A text in which a piece occurs has a part before its first occurrence. -/
theorem exists_first_occurrence (ht : occurs [x, y] t = true) :
    ∃ a b, t = a ++ x :: y :: b ∧ occurs [x, y] a = false := by
  induction t with
  | nil => simp [occurs] at ht
  | cons c t ih =>
      by_cases hhead : [x, y].isPrefixOf (c :: t) = true
      · obtain ⟨b, hb⟩ := List.isPrefixOf_iff_prefix.1 hhead
        exact ⟨[], b, by rw [← hb]; rfl, rfl⟩
      · rw [occurs, Bool.or_eq_true] at ht
        obtain ⟨a, b, rfl, ha⟩ := ih (ht.resolve_left hhead)
        refine ⟨c :: a, b, rfl, ?_⟩
        -- what begins the part begins the text
        rw [occurs, ha, Bool.or_false, Bool.eq_false_iff]
        intro hpart
        apply hhead
        rw [List.isPrefixOf_iff_prefix] at hpart ⊢
        rw [← List.cons_append]
        exact hpart.trans (List.prefix_append _ _)

/-- Parts in which a piece of two different characters does not occur are found again between its
occurrences. -/
theorem splitOn_join_pair (hxy : x ≠ y) {parts : List (List Char)} (hne : parts ≠ [])
    (hparts : ∀ p ∈ parts, occurs [x, y] p = false) : splitOn [x, y] (join [x, y] parts) = parts := by
  induction parts with
  | nil => exact absurd rfl hne
  | cons p parts ih =>
      obtain ⟨hp, hrest⟩ := List.forall_mem_cons.1 hparts
      cases parts with
      | nil => exact splitOn_pair_of_not_occurs hp
      | cons q parts =>
          have hjoin : join [x, y] (p :: q :: parts) = p ++ x :: y :: join [x, y] (q :: parts) := by
            simp [join]
          rw [hjoin, splitOn_append_pair hxy hp, ih (by simp) hrest]

/-- Every text is made of such parts. -/
theorem exists_parts (x y : Char) (t : List Char) : ∃ parts : List (List Char), parts ≠ [] ∧
    t = join [x, y] parts ∧ ∀ p ∈ parts, occurs [x, y] p = false := by
  induction hn : t.length using Nat.strong_induction_on generalizing t with
  | _ n ih =>
      cases ht : occurs [x, y] t with
      | false => exact ⟨[t], by simp, rfl, by simpa using ht⟩
      | true =>
          obtain ⟨a, b, rfl, ha⟩ := exists_first_occurrence ht
          obtain ⟨parts, hne, rfl, hparts⟩ := ih b.length (by simp at hn; omega) b rfl
          obtain ⟨q, parts, rfl⟩ := List.exists_cons_of_ne_nil hne
          exact ⟨a :: q :: parts, by simp, by simp [join], List.forall_mem_cons.2 ⟨ha, hparts⟩⟩

end Split

/-! ## Splitting at a character -/

/-- Characters that do not split a text go to the front of its first part. -/
theorem splitOnChar_append {sep : Char} {a : List Char} (ha : sep ∉ a) (t : List Char) :
    splitOnChar sep (a ++ t) = a.foldr consHead (splitOnChar sep t) := by
  induction a with
  | nil => rfl
  | cons c a ih =>
      have hc : c ≠ sep := fun e => ha (by simp [e])
      have hrest := ih fun hm => ha (List.mem_cons_of_mem _ hm)
      simp [splitOnChar, hc, hrest]

theorem foldr_consHead (a p : List Char) (ps : List (List Char)) :
    a.foldr consHead (p :: ps) = (a ++ p) :: ps := by
  induction a with
  | nil => rfl
  | cons c a ih => simp [ih, consHead]

theorem splitOnChar_ne_nil (sep : Char) (t : List Char) : splitOnChar sep t ≠ [] := by
  induction t with
  | nil => simp [splitOnChar]
  | cons c t ih =>
      simp only [splitOnChar]
      split_ifs
      · simp
      · cases h : splitOnChar sep t with
        | nil => exact absurd h ih
        | cons p ps => simp [consHead]

/-- A separator ends a part. -/
theorem splitOnChar_append_cons (sep : Char) (a t : List Char) :
    splitOnChar sep (a ++ sep :: t) = splitOnChar sep a ++ splitOnChar sep t := by
  induction a with
  | nil => simp [splitOnChar]
  | cons c a ih =>
      simp only [List.cons_append, splitOnChar, ih]
      split_ifs
      · rfl
      · obtain ⟨p, ps, hp⟩ := List.exists_cons_of_ne_nil (splitOnChar_ne_nil sep a)
        simp [hp, consHead]

theorem splitOnChar_of_not_mem {sep : Char} {t : List Char} (h : sep ∉ t) : splitOnChar sep t = [t] := by
  have := splitOnChar_append h []
  rw [List.append_nil, splitOnChar, foldr_consHead] at this
  simpa using this

theorem not_mem_of_mem_splitOnChar {sep : Char} {t p : List Char}
    (h : p ∈ splitOnChar sep t) : sep ∉ p := by
  induction t generalizing p with
  | nil =>
      rw [splitOnChar, List.mem_singleton] at h
      simp [h]
  | cons c t ih =>
      simp only [splitOnChar] at h
      split_ifs at h with hc
      · rcases List.mem_cons.1 h with rfl | h
        · simp
        · exact ih h
      · obtain ⟨q, qs, hq⟩ := List.exists_cons_of_ne_nil (splitOnChar_ne_nil sep t)
        rw [hq, consHead] at h
        have hcs : sep ≠ c := fun e => hc (by simp [e])
        rcases List.mem_cons.1 h with rfl | h
        · simp [hcs, ih (p := q) (by simp [hq])]
        · exact ih (by simp [hq, h])

/-! ## Lines -/

@[simp] theorem consHead_ne_nil (c : Char) (ls : List (List Char)) : consHead c ls ≠ [] := by
  cases ls <;> simp [consHead]

theorem consHead_append {c : Char} {ls : List (List Char)} (h : ls ≠ []) (rest : List (List Char)) :
    consHead c (ls ++ rest) = consHead c ls ++ rest := by
  obtain ⟨l, ls, rfl⟩ := List.exists_cons_of_ne_nil h
  rfl

theorem lines_ne_nil {t : List Char} (h : t ≠ []) : lines t ≠ [] := by
  fun_cases lines t with
  | case1 => exact absurd rfl h
  | case2 rest => simp
  | case3 c rest _ hc => simp
  | case4 c rest _ hc => simp

theorem lines_cons {c : Char} {t : List Char} (h : c = '\r' → t.head? ≠ some '\n') :
    lines (c :: t) = if isLineEnd c then [] :: lines t else consHead c (lines t) := by
  rw [lines]
  rintro rest rfl rfl
  exact h rfl rfl

/-- A line end parts the lines before it from those after it; it may add an empty line of its own. -/
theorem lines_append_newline (a b : List Char) :
    ∃ e, (e = [] ∨ e = [[]]) ∧ lines (a ++ '\n' :: b) = lines a ++ e ++ lines b := by
  fun_induction lines a with
  | case1 =>
      -- nothing before the line end: it ends an empty line
      exact ⟨[[]], .inr rfl, rfl⟩
  | case2 rest ih =>
      obtain ⟨e, he, ih⟩ := ih
      exact ⟨e, he, by simp [lines, ih]⟩
  | case3 c rest hrn hc ih =>
      by_cases hlast : c = '\r' ∧ rest = []
      · -- the line end becomes part of the one that was there
        obtain ⟨rfl, rfl⟩ := hlast
        exact ⟨[], .inl rfl, rfl⟩
      · obtain ⟨e, he, ih⟩ := ih
        refine ⟨e, he, ?_⟩
        rw [List.cons_append, lines_cons, if_pos hc, ih]
        · simp
        · cases rest with
          | nil => exact fun h => absurd ⟨h, rfl⟩ hlast
          | cons d rest =>
              intro h hd
              exact hrn rest h (by simpa using hd)
  | case4 c rest hrn hc ih =>
      have hcr : c ≠ '\r' := by
        rintro rfl
        exact hc rfl
      rw [List.cons_append, lines_cons fun h => absurd h hcr, if_neg hc]
      cases rest with
      | nil => exact ⟨[], .inl rfl, rfl⟩
      | cons d rest =>
          obtain ⟨e, he, ih⟩ := ih
          refine ⟨e, he, ?_⟩
          rw [ih, List.append_assoc, consHead_append (lines_ne_nil (by simp)), List.append_assoc]

/-- Characters that end no line stand in front of the first line. -/
theorem lines_append_of_forall {a : List Char} (ha : ∀ c ∈ a, isLineEnd c = false) (hne : a ≠ [])
    (t : List Char) : lines (a ++ t) = (a ++ (lines t).headD []) :: (lines t).tail := by
  induction a with
  | nil => exact absurd rfl hne
  | cons c a ih =>
      have hc := ha c List.mem_cons_self
      have hcr : c ≠ '\r' := by
        rintro rfl
        exact absurd hc (by decide)
      rw [List.cons_append, lines_cons fun h => absurd h hcr, if_neg (by simp [hc])]
      by_cases hnil : a = []
      · subst hnil
        cases h : lines t <;> simp [h, consHead]
      · rw [ih (fun d hd => ha d (List.mem_cons_of_mem _ hd)) hnil]
        simp [consHead]

/-- No line end stands in a line. -/
theorem isLineEnd_of_mem_lines {t line : List Char} (hline : line ∈ lines t) {c : Char} (hc : c ∈ line) :
    isLineEnd c = false := by
  fun_induction lines t generalizing line with
  | case1 => simp at hline
  | case2 rest ih =>
      rcases List.mem_cons.1 hline with rfl | hline
      · simp at hc
      · exact ih hline hc
  | case3 d rest _ hd ih =>
      rcases List.mem_cons.1 hline with rfl | hline
      · simp at hc
      · exact ih hline hc
  | case4 d rest _ hd ih =>
      cases hls : lines rest with
      | nil =>
          rw [hls] at hline
          obtain rfl : line = [d] := List.mem_singleton.1 hline
          obtain rfl : c = d := List.mem_singleton.1 hc
          simpa using hd
      | cons first ls =>
          rw [hls] at ih hline
          rcases List.mem_cons.1 hline with rfl | hline
          · rcases List.mem_cons.1 hc with rfl | hc
            · simpa using hd
            · exact ih List.mem_cons_self hc
          · exact ih (List.mem_cons_of_mem _ hline) hc

/-- A piece without line ends stands on one line. -/
theorem exists_line_of_infix {piece t : List Char} (hp : ∀ c ∈ piece, isLineEnd c = false) (hne : piece ≠ [])
    (h : piece <:+: t) : ∃ line ∈ lines t, piece <:+: line := by
  obtain ⟨x, rest, rfl⟩ := List.exists_cons_of_ne_nil hne
  have hx : isLineEnd x = false := hp x List.mem_cons_self
  fun_induction lines t with
  | case1 => simp at h
  | case2 t ih =>
      -- the piece does not begin with a line end
      rcases List.infix_cons_iff.1 h with h | h
      · rw [(List.cons_prefix_cons.1 h).1] at hx
        exact absurd hx (by decide)
      rcases List.infix_cons_iff.1 h with h | h
      · rw [(List.cons_prefix_cons.1 h).1] at hx
        exact absurd hx (by decide)
      obtain ⟨line, hline, hpiece⟩ := ih h
      exact ⟨line, List.mem_cons_of_mem _ hline, hpiece⟩
  | case3 c t _ hc ih =>
      rcases List.infix_cons_iff.1 h with h | h
      · rw [(List.cons_prefix_cons.1 h).1, hc] at hx
        exact absurd hx (by simp)
      obtain ⟨line, hline, hpiece⟩ := ih h
      exact ⟨line, List.mem_cons_of_mem _ hline, hpiece⟩
  | case4 c t hrn hc ih =>
      have hlines : lines (c :: t) = consHead c (lines t) := by
        rw [lines, if_neg hc]
        exact hrn
      rw [← hlines]
      rcases List.infix_cons_iff.1 h with h | h
      · obtain ⟨behind, hbehind⟩ := h
        rw [← hbehind, lines_append_of_forall hp hne]
        exact ⟨_, List.mem_cons_self, (List.prefix_append _ _).isInfix⟩
      · obtain ⟨line, hline, hpiece⟩ := ih h
        rw [hlines]
        cases hls : lines t with
        | nil => simp [hls] at hline
        | cons first ls =>
            rw [hls] at hline
            rcases List.mem_cons.1 hline with rfl | hline
            · exact ⟨c :: line, List.mem_cons_self, List.infix_cons_iff.2 (.inr hpiece)⟩
            · exact ⟨line, List.mem_cons_of_mem _ hline, hpiece⟩

/-- To what reads lines one by one and finds nothing in an empty one, a line end only parts a text. -/
theorem flatMap_lines_append {β : Type} {f : List Char → List β} (hf : f [] = []) (a b : List Char) :
    (lines (a ++ '\n' :: b)).flatMap f = (lines a).flatMap f ++ (lines b).flatMap f := by
  obtain ⟨e, rfl | rfl, h⟩ := lines_append_newline a b <;> simp [h, hf]

/-! ## Joining -/

/-- Lines one after the other, each with its line end in front. -/
theorem join_newline_cons (a : List Char) (rest : List (List Char)) :
    join ['\n'] (a :: rest) = a ++ rest.flatMap ('\n' :: ·) := by
  induction rest generalizing a with
  | nil => simp [join]
  | cons b rest ih => simp [join, ih]

theorem join_cons_cons (sep a b : List Char) (rest : List (List Char)) :
    join sep (a :: b :: rest) = a ++ sep ++ join sep (b :: rest) := rfl

/-- What is joined begins as its first piece does. -/
theorem prefix_join (sep a : List Char) (rest : List (List Char)) : a <+: join sep (a :: rest) := by
  cases rest with
  | nil => exact List.prefix_refl a
  | cons b rest =>
      rw [join_cons_cons, List.append_assoc]
      exact List.prefix_append _ _

/-- What is joined ends as its last piece does. -/
theorem suffix_join_concat (sep a : List Char) (front : List (List Char)) : a <:+ join sep (front ++ [a]) := by
  induction front with
  | nil => exact List.suffix_refl a
  | cons b front ih =>
      obtain ⟨c, rest, hc⟩ := List.exists_cons_of_ne_nil (List.concat_ne_nil a front)
      rw [List.cons_append, hc, join_cons_cons, ← hc]
      exact ih.trans (List.suffix_append _ _)

theorem toList_joinStrings (sep : String) (ls : List String) :
    (joinStrings sep ls).toList = join sep.toList (ls.map String.toList) := by
  induction ls with
  | nil => rfl
  | cons a rest ih =>
      cases rest with
      | nil => rfl
      | cons b rest => simpa [joinStrings, join] using ih

end CodeFlow.Text
