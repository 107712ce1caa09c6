import Mathlib
import CodeFlow.Label
import CodeFlow.Proofs.Dot.Scan

/-!
# `CodeFlow.Proofs.Label` — a label stays between its quotes

A label is escaped first and cut afterwards, so a cut can fall between a backslash and the character it
belongs to. The dots that follow every cut take the place of that character, which is why the label stays
inside its string all the same.

## Contents
- **Escaping and lines.** Escaping goes through splitting into lines and through stripping
  (`splitOnChar_escape`, `strip_escape`).
- **Cuts.** `quotable_take_escape`: a cut at any place, with dots behind it.
- `quotable_escape`: the label of any text under any limit.
-/

namespace CodeFlow.Label

open Text Dot

/-! ## Escaping and lines -/

/-- The characters of a text as they stand between quotes. -/
def escapeAll (t : List Char) : List Char := t.flatMap escapeChar

@[simp] theorem escapeAll_nil : escapeAll [] = [] := rfl

@[simp] theorem escapeAll_cons (c : Char) (t : List Char) :
    escapeAll (c :: t) = escapeChar c ++ escapeAll t := List.flatMap_cons

theorem escapeAll_append (a b : List Char) : escapeAll (a ++ b) = escapeAll a ++ escapeAll b :=
  List.flatMap_append

theorem escapeChar_newline : escapeChar '\n' = ['\n'] := by decide

/-- No other character makes a line end. -/
theorem newline_not_mem_escapeChar {c : Char} (hc : c ≠ '\n') : '\n' ∉ escapeChar c := by
  unfold escapeChar
  split_ifs with hslash hquote hreturn
  · decide
  · decide
  · simp
  · simpa using Ne.symm hc

/-- Escaping goes through splitting into lines. -/
theorem splitOnChar_escape (t : List Char) :
    splitOnChar '\n' (escapeAll t) = (splitOnChar '\n' t).map escapeAll := by
  induction t with
  | nil => rfl
  | cons c t ih =>
      by_cases hc : c = '\n'
      · subst hc
        simp [escapeChar_newline, splitOnChar, ih]
      · rw [escapeAll_cons, splitOnChar_append (newline_not_mem_escapeChar hc), ih]
        obtain ⟨p, ps, hp⟩ := List.exists_cons_of_ne_nil (splitOnChar_ne_nil '\n' t)
        simp [splitOnChar, hc, hp, foldr_consHead, consHead]

/-- Carriage returns do not show in what is escaped. -/
theorem escapeAll_filter (t : List Char) : escapeAll (t.filter (· != '\r')) = escapeAll t := by
  induction t with
  | nil => rfl
  | cons c t ih =>
      by_cases hc : c = '\r'
      · subst hc
        simpa [escapeChar] using ih
      · simp [hc, ih]

theorem escapeChar_of_isBlank {c : Char} (hb : isBlank c = true) (hr : c ≠ '\r') : escapeChar c = [c] := by
  have hslash : c ≠ '\\' := by rintro rfl; exact absurd hb (by decide)
  have hquote : c ≠ '"' := by rintro rfl; exact absurd hb (by decide)
  simp [escapeChar, hslash, hquote, hr]

/-- What is not blank is escaped to characters that are not blank. -/
theorem isBlank_of_mem_escapeChar {c d : Char} (hb : isBlank c = false) (hd : d ∈ escapeChar c) :
    isBlank d = false := by
  unfold escapeChar at hd
  split_ifs at hd with hslash hquote hreturn
  · have : d = '\\' := by simpa using hd
    subst this; decide
  · have : d = '\\' ∨ d = '"' := by simpa using hd
    rcases this with rfl | rfl <;> decide
  · simp at hd
  · rw [List.mem_singleton.1 hd]; exact hb

theorem escapeChar_ne_nil {c : Char} (hr : c ≠ '\r') : escapeChar c ≠ [] := by
  unfold escapeChar
  split_ifs <;> simp

theorem stripStart_escape {t : List Char} (ht : '\r' ∉ t) :
    stripStart (escapeAll t) = escapeAll (stripStart t) := by
  induction t with
  | nil => rfl
  | cons c t ih =>
      have hr : c ≠ '\r' := fun e => ht (by simp [e])
      have hrest := ih fun hm => ht (List.mem_cons_of_mem _ hm)
      cases hb : isBlank c with
      | true =>
          have hdrop : stripStart (c :: t) = stripStart t := by simp [stripStart, hb]
          rw [hdrop, escapeAll_cons, escapeChar_of_isBlank hb hr, ← hrest]
          simp [stripStart, hb]
      | false =>
          have hkeep : stripStart (c :: t) = c :: t := by simp [stripStart, hb]
          rw [hkeep, escapeAll_cons]
          apply stripStart_of_head
          intro d hd
          obtain ⟨e, es, he⟩ := List.exists_cons_of_ne_nil (escapeChar_ne_nil hr)
          have : d = e := by simpa [he] using hd.symm
          exact isBlank_of_mem_escapeChar hb (by simp [he, this])

theorem stripEnd_escape {t : List Char} (ht : '\r' ∉ t) :
    stripEnd (escapeAll t) = escapeAll (stripEnd t) := by
  -- from the end: what is stripped off is the last character, never the middle of its escape
  induction t using List.reverseRecOn with
  | nil => rfl
  | append_singleton t c ih =>
      have hr : c ≠ '\r' := fun e => ht (by simp [e])
      have hrest := ih fun hm => ht (List.mem_append_left _ hm)
      unfold stripEnd at *
      rw [escapeAll_append, escapeAll_cons, escapeAll_nil, List.append_nil]
      cases hb : isBlank c with
      | true =>
          rw [escapeChar_of_isBlank hb hr, dropEndWhile_append_of_forall (by simpa using hb),
            dropEndWhile_append_of_forall (by simpa using hb), hrest]
      | false =>
          have hkeep : dropEndWhile isBlank (t ++ [c]) = t ++ [c] :=
            dropEndWhile_of_getLast fun d hd => by
              have : c = d := by simpa using hd
              exact this ▸ hb
          rw [hkeep, escapeAll_append, escapeAll_cons, escapeAll_nil, List.append_nil]
          apply dropEndWhile_of_getLast
          intro d hd
          rw [List.getLast?_append_of_ne_nil _ (escapeChar_ne_nil hr)] at hd
          exact isBlank_of_mem_escapeChar hb (List.mem_of_getLast? hd)

/-- Escaping goes through stripping, carriage returns apart. -/
theorem strip_escape (t : List Char) :
    strip (escapeAll t) = escapeAll (strip (t.filter (· != '\r'))) := by
  have hr : '\r' ∉ t.filter (· != '\r') := by simp
  have hstart : '\r' ∉ stripStart (t.filter (· != '\r')) := fun hm =>
    hr (List.dropWhile_subset _ hm)
  unfold strip
  rw [← escapeAll_filter t, stripStart_escape hr, stripEnd_escape hstart]

/-! ## Cuts -/

theorem quotable_escapeChar {c : Char} (hc : c ≠ '\n') : Quotable (escapeChar c) := by
  unfold escapeChar
  split_ifs with hslash hquote hreturn
  · exact quotable_escaped (by decide)
  · exact quotable_escaped (by decide)
  · exact quotable_nil
  · exact quotable_single hquote hslash hc

theorem quotable_escapeAll {t : List Char} (ht : '\n' ∉ t) : Quotable (escapeAll t) := by
  induction t with
  | nil => exact quotable_nil
  | cons c t ih =>
      simp only [List.mem_cons, not_or] at ht
      exact (quotable_escapeChar (Ne.symm ht.1)).append (ih ht.2)

theorem quotable_ellipsis : Quotable ellipsis := rfl

/-- A cut inside the escape of a character leaves a backslash at most, which takes the first dot. -/
theorem quotable_take_escapeChar {c : Char} {n : Nat} (hn : n < (escapeChar c).length) :
    Quotable ((escapeChar c).take n ++ ellipsis) := by
  unfold escapeChar at *
  split_ifs at * with hslash hquote hreturn
  · have : n = 0 ∨ n = 1 := by simp at hn; omega
    rcases this with rfl | rfl <;> rfl
  · have : n = 0 ∨ n = 1 := by simp at hn; omega
    rcases this with rfl | rfl <;> rfl
  · simp at hn
  · have : n = 0 := by simpa using hn
    subst this; rfl

/-- A cut at any place, with dots behind it. -/
theorem quotable_take_escape {t : List Char} (ht : '\n' ∉ t) (n : Nat) :
    Quotable ((escapeAll t).take n ++ ellipsis) := by
  induction t generalizing n with
  | nil => simpa using quotable_ellipsis
  | cons c t ih =>
      simp only [List.mem_cons, not_or] at ht
      rw [escapeAll_cons]
      rcases Nat.lt_or_ge n (escapeChar c).length with hn | hn
      · -- the cut falls into the escape of the first character
        rw [List.take_append_of_le_length hn.le]
        exact quotable_take_escapeChar hn
      · rw [List.take_append, List.take_of_length_le hn, List.append_assoc]
        exact (quotable_escapeChar (Ne.symm ht.1)).append (ih ht.2 _)

theorem faithful_toAscii : Faithful toAscii := by
  intro c
  unfold toAscii
  split_ifs with h
  · simp
  · -- the special characters are ASCII themselves
    have hne : ∀ d : Char, d.toNat < 128 → ¬ (c = d) := by
      rintro d hd rfl
      exact h hd
    have hquote := hne '"' (by decide)
    have hslash := hne '\\' (by decide)
    have hline := hne '\n' (by decide)
    simp [hquote, hslash, hline]

theorem quotable_piece {t : List Char} (ht : '\n' ∉ t) : Quotable (piece (escapeAll t)) := by
  unfold piece shorten
  apply Quotable.map faithful_toAscii
  split_ifs
  · exact quotable_take_escape ht 57
  · exact quotable_escapeAll ht

/-! ## Labels -/

/-- Every piece of a label is cut from one escaped line. -/
theorem quotable_of_mem_pieces {limit : Int} {used : Nat} {ls : List (List Char)}
    (hls : ∀ l ∈ ls, '\n' ∉ l) {p : List Char} (hp : p ∈ pieces limit used (ls.map escapeAll)) :
    Quotable p := by
  induction ls generalizing used with
  | nil => simp [pieces] at hp
  | cons l ls ih =>
      have hl : '\n' ∉ strip (l.filter (· != '\r')) := fun hm =>
        hls l List.mem_cons_self (List.mem_of_mem_filter (strip_subset _ hm))
      have hrest := fun {used} => @ih used fun l' hl' => hls l' (List.mem_cons_of_mem _ hl')
      simp only [List.map_cons, pieces, strip_escape] at hp
      split_ifs at hp with hempty hlimit
      · exact hrest hp
      · have : p = piece (escapeAll (strip (l.filter (· != '\r')))) ∨ p = ellipsis := by simpa using hp
        rcases this with rfl | rfl
        · exact quotable_piece hl
        · exact quotable_ellipsis
      · rcases List.mem_cons.1 hp with rfl | hp
        · exact quotable_piece hl
        · exact hrest hp

theorem quotable_join {sep : List Char} (hsep : Quotable sep) {ps : List (List Char)}
    (hps : ∀ p ∈ ps, Quotable p) : Quotable (join sep ps) := by
  induction ps with
  | nil => exact quotable_nil
  | cons p ps ih =>
      have hrest := ih fun q hq => hps q (List.mem_cons_of_mem _ hq)
      cases ps with
      | nil => exact hps p List.mem_cons_self
      | cons q ps =>
          rw [join_cons_cons]
          exact ((hps p List.mem_cons_self).append hsep).append hrest

theorem quotable_escapeChars (limit : Int) (t : List Char) : Quotable (escapeChars limit t) := by
  have hsep : Quotable ['\\', 'n'] := quotable_escaped (by decide)
  have hsplit := splitOnChar_escape (shorten 300 297 t)
  unfold escapeChars
  apply quotable_join hsep
  intro p hp
  rw [show (shorten 300 297 t).flatMap escapeChar = escapeAll (shorten 300 297 t) from rfl, hsplit] at hp
  exact quotable_of_mem_pieces (fun l hl => not_mem_of_mem_splitOnChar hl) hp

/-- **The label of a text stays between its quotes**, whatever the text and the limit. -/
theorem quotable_escape (text : String) (limit : Int) : Quotable (escape text limit).toList := by
  simp only [escape]
  split_ifs
  · exact quotable_nil
  · rfl
  · simpa using quotable_escapeChars limit text.toList

end CodeFlow.Label
