import Mathlib
import CodeFlow.Proofs.Label

/-!
# `CodeFlow.Proofs.Label.Reading` — a label read back

A label is read by taking every backslash together with the character behind it. What is read are the lines
of the text, in order, each whole or cut: a cut may fall between a backslash and its character, and a text may
hold a backslash in front of an `n` itself, but neither is ever read as a line end.

Reading is stated over every continuation (`Spells`), so that what holds of the pieces of a label holds of
the label.

## Contents
- `decode`, `Spells`: reading a label; `spells_escape`, `exists_spells_take`.
- `textLines`: the lines of a text that a label can show.
- `fillUp`: pieces up to a limit; `fillUp_cases`, `pieces_eq`.
- `Reading`: how a label is read; `escape_reads_back`.
-/

namespace CodeFlow.Label

open Text

/-! ## Reading -/

/-- Reads a label: a backslash stands for the character behind it, and in front of an `n` for a line end. -/
def decode : List Char → List Char
  | '\\' :: c :: rest => (if c = 'n' then '\n' else c) :: decode rest
  | c :: rest => c :: decode rest
  | [] => []

theorem decode_escaped (c : Char) (rest : List Char) :
    decode ('\\' :: c :: rest) = (if c = 'n' then '\n' else c) :: decode rest := rfl

theorem decode_cons {c : Char} (hc : c ≠ '\\') (rest : List Char) :
    decode (c :: rest) = c :: decode rest := by
  rw [decode]
  rintro d ds rfl
  exact absurd rfl hc

/-- A text is read in the same way whatever follows it. -/
def Spells (t meaning : List Char) : Prop := ∀ rest, decode (t ++ rest) = meaning ++ decode rest

namespace Spells

variable {t u m n : List Char}

theorem nil : Spells [] [] := fun _ => rfl

theorem append (ht : Spells t m) (hu : Spells u n) : Spells (t ++ u) (m ++ n) := by
  intro rest
  rw [List.append_assoc, ht, hu, List.append_assoc]

theorem decode_eq (h : Spells t m) : decode t = m := by
  have := h []
  rwa [List.append_nil, show decode [] = [] from rfl, List.append_nil] at this

theorem self (h : Spells t m) : Spells t (decode t) := by
  rwa [h.decode_eq]

end Spells

theorem spells_single {c : Char} (hc : c ≠ '\\') : Spells [c] [c] := fun rest => decode_cons hc rest

theorem spells_newline : Spells ['\\', 'n'] ['\n'] := fun rest => decode_escaped 'n' rest

theorem spells_ellipsis : Spells ellipsis ellipsis := fun _ => rfl

theorem toAscii_ne_backslash {c : Char} (hc : c ≠ '\\') : toAscii c ≠ '\\' := by
  unfold toAscii
  split_ifs
  · exact hc
  · decide

/-- What is shown without a question mark is shown as it is. -/
theorem eq_of_map_toAscii {t word : List Char} (hword : '?' ∉ word) (h : t.map toAscii = word) : t = word := by
  have hsame : ∀ c ∈ t, toAscii c = c := by
    intro c hc
    have hmark : toAscii c ≠ '?' := fun heq => hword (h ▸ heq ▸ List.mem_map_of_mem hc)
    unfold toAscii at *
    split_ifs at *
    · rfl
    · exact absurd rfl hmark
  calc t = t.map id := (List.map_id t).symm
    _ = t.map toAscii := List.map_congr_left fun c hc => (hsame c hc).symm
    _ = word := h

/-- A character is read back from its escape. -/
theorem spells_escapeChar {c : Char} (hr : c ≠ '\r') :
    Spells ((escapeChar c).map toAscii) [toAscii c] := by
  unfold escapeChar
  split_ifs with hslash hquote
  · subst hslash
    exact fun rest => rfl
  · subst hquote
    exact fun rest => rfl
  · exact spells_single (toAscii_ne_backslash hslash)

/-- **A text is read back from its escape**, with question marks for what is not ASCII. -/
theorem spells_escape {t : List Char} (ht : '\r' ∉ t) :
    Spells ((escapeAll t).map toAscii) (t.map toAscii) := by
  induction t with
  | nil => exact Spells.nil
  | cons c t ih =>
      simp only [List.mem_cons, not_or] at ht
      rw [escapeAll_cons, List.map_append]
      exact (spells_escapeChar (Ne.symm ht.1)).append (ih ht.2)

/-- A cut inside the escape of a character leaves a backslash at most, which is read as the first dot. -/
theorem spells_take_escapeChar {c : Char} {n : Nat} (hn : n < (escapeChar c).length) :
    Spells (((escapeChar c).take n ++ ellipsis).map toAscii) ellipsis := by
  unfold escapeChar at *
  split_ifs at * with hslash hquote hreturn
  · have : n = 0 ∨ n = 1 := by simp at hn; omega
    rcases this with rfl | rfl <;> exact fun rest => rfl
  · have : n = 0 ∨ n = 1 := by simp at hn; omega
    rcases this with rfl | rfl <;> exact fun rest => rfl
  · simp at hn
  · have : n = 0 := by simpa using hn
    subst this
    exact fun rest => rfl

/-- **From a cut escape a part of the text is read**, and dots behind it. -/
theorem exists_spells_take {t : List Char} (ht : '\r' ∉ t) (n : Nat) (hn : n < (escapeAll t).length) :
    ∃ k ≤ n, Spells (((escapeAll t).take n ++ ellipsis).map toAscii) ((t.map toAscii).take k ++ ellipsis) := by
  induction t generalizing n with
  | nil => exact absurd hn (Nat.not_lt_zero n)
  | cons c t ih =>
      simp only [List.mem_cons, not_or] at ht
      rw [escapeAll_cons] at hn ⊢
      rcases Nat.lt_or_ge n (escapeChar c).length with hcut | hcut
      · -- the cut falls into the escape of the first character
        refine ⟨0, Nat.zero_le n, ?_⟩
        rw [List.take_append_of_le_length hcut.le]
        exact spells_take_escapeChar hcut
      · have hpos : 0 < (escapeChar c).length := List.length_pos_iff.2 (escapeChar_ne_nil (Ne.symm ht.1))
        rw [List.length_append] at hn
        obtain ⟨k, hk, hspells⟩ := ih ht.2 (n - (escapeChar c).length) (by omega)
        refine ⟨k + 1, by omega, ?_⟩
        rw [List.take_append, List.take_of_length_le hcut, List.append_assoc, List.map_append]
        exact (spells_escapeChar (Ne.symm ht.1)).append hspells

/-- Pieces are read one by one. -/
theorem spells_join {ps : List (List Char)} (hps : ∀ p ∈ ps, Spells p (decode p)) :
    Spells (join ['\\', 'n'] ps) (join ['\n'] (ps.map decode)) := by
  induction ps with
  | nil => exact Spells.nil
  | cons p ps ih =>
      have hp := hps p List.mem_cons_self
      have hrest := ih fun q hq => hps q (List.mem_cons_of_mem _ hq)
      cases ps with
      | nil => exact hp
      | cons q ps => exact (hp.append spells_newline).append hrest

/-! ## Lines -/

/-- The lines of a text that a label can show: the text is cut after three hundred characters, carriage returns
are left out, and what is left of a line has no blanks at its ends. -/
def textLines (t : List Char) : List (List Char) :=
  ((splitOnChar '\n' ((shorten 300 297 t).filter (· != '\r'))).map strip).filter (!·.isEmpty)

/-- What a piece of a label is read as: a line whose escape has at most sixty characters is read whole, any
other up to a cut and dots behind it. -/
def ReadsAs (line piece : List Char) : Prop :=
  if (escapeAll line).length ≤ 60 then decode piece = line.map toAscii
  else ∃ k ≤ 57, decode piece = (line.map toAscii).take k ++ ellipsis

/-- Leaving characters out goes through splitting, unless they split. -/
theorem splitOnChar_filter {sep : Char} {p : Char → Bool} (hp : p sep = true) (t : List Char) :
    splitOnChar sep (t.filter p) = (splitOnChar sep t).map (·.filter p) := by
  induction t with
  | nil => rfl
  | cons c t ih =>
      obtain ⟨q, qs, hq⟩ := List.exists_cons_of_ne_nil (splitOnChar_ne_nil sep t)
      by_cases hc : c = sep
      · subst hc
        simp [splitOnChar, hp, ih]
      · by_cases hkeep : p c = true
        · simp [splitOnChar, hc, hkeep, ih, hq, consHead]
        · simp [splitOnChar, hc, hkeep, ih, hq, consHead]

theorem newline_not_mem_of_mem_textLines {t l : List Char} (hl : l ∈ textLines t) : '\n' ∉ l := by
  obtain ⟨l', hl', rfl⟩ := List.mem_map.1 (List.mem_of_mem_filter hl)
  intro hm
  exact not_mem_of_mem_splitOnChar hl' (strip_subset _ hm)

theorem return_not_mem_of_mem_strip {t l : List Char}
    (hl : l ∈ (splitOnChar '\n' (t.filter (· != '\r'))).map strip) : '\r' ∉ l := by
  rw [splitOnChar_filter (by decide), List.map_map] at hl
  obtain ⟨l', -, rfl⟩ := List.mem_map.1 hl
  intro hm
  simpa using strip_subset _ hm

theorem return_not_mem_of_mem_textLines {t l : List Char} (hl : l ∈ textLines t) : '\r' ∉ l :=
  return_not_mem_of_mem_strip (List.mem_of_mem_filter hl)

theorem isEmpty_escapeAll {t : List Char} (ht : '\r' ∉ t) : (escapeAll t).isEmpty = t.isEmpty := by
  cases t with
  | nil => rfl
  | cons c t =>
      simp only [List.mem_cons, not_or] at ht
      simp [escapeChar_ne_nil (Ne.symm ht.1)]

/-- The lines of the escaped text are those of the text, escaped: blank lines are blank before and after. -/
theorem filter_strip_escape (t : List Char) :
    ((splitOnChar '\n' (escapeAll (shorten 300 297 t))).map strip).filter (!·.isEmpty) =
      (textLines t).map escapeAll := by
  have hstrip : (splitOnChar '\n' (escapeAll (shorten 300 297 t))).map strip =
      ((splitOnChar '\n' ((shorten 300 297 t).filter (· != '\r'))).map strip).map escapeAll := by
    rw [splitOnChar_escape, splitOnChar_filter (by decide)]
    simp only [List.map_map]
    refine List.map_congr_left fun l _ => ?_
    simp only [Function.comp_apply]
    exact strip_escape l
  rw [hstrip, List.filter_map, textLines]
  congr 1
  refine List.filter_congr fun l hl => ?_
  simp only [Function.comp_apply]
  rw [isEmpty_escapeAll (return_not_mem_of_mem_strip hl)]

/-- A line is read off its piece, whatever follows. -/
theorem readsAs_piece {l : List Char} (hr : '\r' ∉ l) :
    ReadsAs l (piece (escapeAll l)) ∧ Spells (piece (escapeAll l)) (decode (piece (escapeAll l))) := by
  unfold ReadsAs piece shorten
  by_cases hlong : (escapeAll l).length > 60
  · obtain ⟨k, hk, hspells⟩ := exists_spells_take hr 57 (by omega)
    rw [if_pos hlong, if_neg (by omega)]
    exact ⟨⟨k, hk, hspells.decode_eq⟩, hspells.self⟩
  · have hspells := spells_escape hr
    rw [if_neg hlong, if_pos (by omega)]
    exact ⟨hspells.decode_eq, hspells.self⟩

theorem length_piece_le (l : List Char) : (piece l).length ≤ 60 := by
  unfold piece shorten
  rw [List.length_map]
  split_ifs with hlong
  · rw [List.length_append, List.length_take]
    have : ellipsis.length = 3 := rfl
    omega
  · omega

/-- What is read as a line is read as one line. -/
theorem newline_not_mem_decode {l p : List Char} (hn : '\n' ∉ l) (h : ReadsAs l p) : '\n' ∉ decode p := by
  have hmap : '\n' ∉ l.map toAscii := by
    intro hm
    obtain ⟨c, hc, hnew⟩ := List.mem_map.1 hm
    unfold toAscii at hnew
    split_ifs at hnew
    · exact hn (hnew ▸ hc)
    · exact absurd hnew (by decide)
  unfold ReadsAs at h
  split_ifs at h
  · rwa [h]
  · obtain ⟨k, -, hdecode⟩ := h
    rw [hdecode, List.mem_append, not_or]
    exact ⟨fun hm => hmap (List.mem_of_mem_take hm), by decide⟩

/-- A piece of a label. -/
structure IsPiece (p : List Char) : Prop where
  /-- It is read in the same way whatever follows it. -/
  spells : Spells p (decode p)
  /-- It is read as one line. -/
  unbroken : '\n' ∉ decode p
  /-- It has at most sixty characters. -/
  width : p.length ≤ 60

theorem isPiece_ellipsis : IsPiece ellipsis := ⟨spells_ellipsis.self, by decide, by decide⟩

theorem isPiece_of_mem_textLines {t l : List Char} (hl : l ∈ textLines t) : IsPiece (piece (escapeAll l)) := by
  obtain ⟨hreads, hspells⟩ := readsAs_piece (return_not_mem_of_mem_textLines hl)
  exact ⟨hspells, newline_not_mem_decode (newline_not_mem_of_mem_textLines hl) hreads, length_piece_le _⟩

/-! ## The limit -/

/-- The characters of some pieces. -/
def total (ps : List (List Char)) : Nat := (ps.map List.length).sum

/-- Pieces up to a limit: the piece with which the total passes the limit is the last one, and dots follow. -/
def fillUp (limit : Int) (used : Nat) : List (List Char) → List (List Char)
  | [] => []
  | p :: ps =>
    if ((used + p.length : Nat) : Int) > limit then [p, ellipsis] else p :: fillUp limit (used + p.length) ps

/-- The pieces of a label are those of the lines that are not blank, up to the limit. -/
theorem pieces_eq (limit : Int) (used : Nat) (ls : List (List Char)) :
    pieces limit used ls = fillUp limit used (((ls.map strip).filter (!·.isEmpty)).map piece) := by
  induction ls generalizing used with
  | nil => rfl
  | cons l ls ih =>
      rw [pieces]
      by_cases hblank : (strip l).isEmpty = true
      · simp [hblank, ih]
      · simp [hblank, ih, fillUp]

theorem isPiece_of_mem_fillUp {limit : Int} {used : Nat} {ps : List (List Char)}
    (hps : ∀ p ∈ ps, IsPiece p) : ∀ p ∈ fillUp limit used ps, IsPiece p := by
  induction ps generalizing used with
  | nil => simp [fillUp]
  | cons p ps ih =>
      obtain ⟨hp, hrest⟩ := List.forall_mem_cons.1 hps
      rw [fillUp]
      split_ifs
      · exact List.forall_mem_cons.2 ⟨hp, by simpa using isPiece_ellipsis⟩
      · exact List.forall_mem_cons.2 ⟨hp, ih hrest⟩

/-- What a limit leaves of some pieces: all of them, or those up to the first with which it is passed. -/
theorem fillUp_cases {limit : Int} (used : Nat) (hused : (used : Int) ≤ limit) (ps : List (List Char)) :
    ∃ shown closing, fillUp limit used ps = shown ++ closing ∧ shown <+: ps ∧
      (((used + total shown : Nat) : Int) ≤ limit ∧ shown = ps ∧ closing = [] ∨
        limit < ((used + total shown : Nat) : Int) ∧ ((used + total shown.dropLast : Nat) : Int) ≤ limit ∧
          closing = [ellipsis]) := by
  induction ps generalizing used with
  | nil => exact ⟨[], [], rfl, List.prefix_refl [], .inl ⟨by simpa [total] using hused, rfl, rfl⟩⟩
  | cons p ps ih =>
      rw [fillUp]
      split_ifs with hpass
      · refine ⟨[p], [ellipsis], rfl, by simp, .inr ⟨?_, by simpa [total] using hused, rfl⟩⟩
        simpa [total] using hpass
      · obtain ⟨shown, closing, hfill, hprefix, hcases⟩ := ih (used + p.length) (by omega)
        refine ⟨p :: shown, closing, by rw [hfill, List.cons_append], by simpa using hprefix, ?_⟩
        have htotal : total (p :: shown) = p.length + total shown := by simp [total]
        rw [htotal, ← Nat.add_assoc]
        refine hcases.imp ?_ ?_
        · rintro ⟨hle, rfl, rfl⟩
          exact ⟨hle, rfl, rfl⟩
        · rintro ⟨hlt, hle, rfl⟩
          refine ⟨hlt, ?_, rfl⟩
          cases shown with
          | nil => simpa [total] using hused
          | cons q shown =>
              have hfront : total (p :: q :: shown).dropLast = p.length + total (q :: shown).dropLast := by
                simp [total]
              rw [hfront, ← Nat.add_assoc]
              exact hle

/-! ## Labels -/

/-- How a label with a limit is read as lines: by pieces that are `shown`, and others `closing` the label. -/
structure Reading (limit : Int) (ls : List (List Char)) (label : List Char)
    (shown closing : List (List Char)) : Prop where
  /-- The label joins the pieces. -/
  joined : label = join ['\\', 'n'] (shown ++ closing)
  /-- The label is read piece by piece. -/
  decoded : decode label = join ['\n'] ((shown ++ closing).map decode)
  /-- No piece is read as several lines. -/
  unbroken : ∀ p ∈ shown ++ closing, '\n' ∉ decode p
  /-- The first lines are read off the pieces shown, one off each. -/
  segment : List.Forall₂ ReadsAs (ls.take shown.length) shown
  /-- All lines are shown, or those up to the one with which the limit is passed, and then dots. -/
  ending : (total shown : Int) ≤ limit ∧ shown.length = ls.length ∧ closing = [] ∨
    limit < (total shown : Int) ∧ (total shown.dropLast : Int) ≤ limit ∧ closing = [ellipsis]
  /-- No piece is wider than sixty characters. -/
  width : ∀ p ∈ shown ++ closing, p.length ≤ 60
  /-- Together they pass the limit by a piece and dots at most. -/
  size : (total (shown ++ closing) : Int) ≤ limit + 63

theorem total_append (ps qs : List (List Char)) : total (ps ++ qs) = total ps + total qs := by
  simp [total]

/-- A last piece adds its width. -/
theorem total_le_dropLast {ps : List (List Char)} (hwidth : ∀ p ∈ ps, p.length ≤ 60) :
    total ps ≤ total ps.dropLast + 60 := by
  rcases List.eq_nil_or_concat' ps with rfl | ⟨front, p, rfl⟩
  · simp [total]
  · have hp := hwidth p (by simp)
    rw [List.dropLast_concat, total_append]
    simpa [total] using hp

/-- The pieces that the lines of a text would have without a limit. -/
def linePieces (t : List Char) : List (List Char) := (textLines t).map fun l => piece (escapeAll l)

/-- The label of a text joins the pieces of its lines, up to the limit. -/
theorem toList_escape {text : String} (hne : text ≠ "") (hpicture : isPicture text.toList = false) (limit : Int) :
    (escape text limit).toList = join ['\\', 'n'] (fillUp limit 0 (linePieces text.toList)) := by
  have hnil : text.toList.isEmpty = false := by simpa using hne
  have hlines := filter_strip_escape text.toList
  simp only [escape, hnil, hpicture, Bool.false_eq_true, if_false, String.toList_ofList]
  rw [escapeChars, pieces_eq]
  rw [escapeAll] at hlines
  rw [hlines, linePieces, List.map_map]
  rfl

/-- The first lines of a text are read off the first pieces. -/
theorem forall₂_readsAs {t : List Char} {shown : List (List Char)} (h : shown <+: linePieces t) :
    List.Forall₂ ReadsAs ((textLines t).take shown.length) shown := by
  have hshown : shown = ((textLines t).take shown.length).map fun l => piece (escapeAll l) := by
    rw [List.map_take]
    exact List.prefix_iff_eq_take.1 h
  have hreads : List.Forall₂ ReadsAs ((textLines t).take shown.length)
      (((textLines t).take shown.length).map fun l => piece (escapeAll l)) := by
    rw [List.forall₂_map_right_iff, List.forall₂_same]
    intro l hl
    exact (readsAs_piece (return_not_mem_of_mem_textLines (List.mem_of_mem_take hl))).1
  rwa [← hshown] at hreads

/-- **A label is read back as the lines of its text**, whatever the text and the limit. -/
theorem escape_reads_back (text : String) (limit : Int) (hne : text ≠ "")
    (hpicture : isPicture text.toList = false) (hlimit : 0 ≤ limit) :
    ∃ shown closing, Reading limit (textLines text.toList) (escape text limit).toList shown closing := by
  have hpieces : ∀ p ∈ fillUp limit 0 (linePieces text.toList), IsPiece p := by
    apply isPiece_of_mem_fillUp
    intro p hp
    obtain ⟨l, hl, rfl⟩ := List.mem_map.1 hp
    exact isPiece_of_mem_textLines hl
  obtain ⟨shown, closing, hfill, hprefix, hcases⟩ := fillUp_cases 0 hlimit (linePieces text.toList)
  have hlabel := toList_escape hne hpicture limit
  rw [hfill] at hlabel hpieces
  simp only [Nat.zero_add] at hcases
  refine ⟨shown, closing, hlabel, ?_, fun p hp => (hpieces p hp).unbroken, forall₂_readsAs hprefix, ?_,
    fun p hp => (hpieces p hp).width, ?_⟩
  · rw [hlabel]
    exact (spells_join fun p hp => (hpieces p hp).spells).decode_eq
  · refine hcases.imp ?_ id
    rintro ⟨hle, hall, hnil⟩
    exact ⟨hle, by rw [hall, linePieces, List.length_map], hnil⟩
  · have hlast := total_le_dropLast fun p hp => (hpieces p (List.mem_append_left _ hp)).width
    rw [total_append]
    rcases hcases with ⟨hle, -, rfl⟩ | ⟨-, hle, rfl⟩
    · have : total [] = 0 := rfl
      omega
    · have : total [ellipsis] = 3 := rfl
      omega

/-- A text with a backslash in front of an `n`, quotes and a carriage return, under a limit that is passed. -/
theorem quoted_reads_back :
    ∃ shown closing, Reading 4 (textLines "a\\n\r\n\n  \"é\"\nb".toList)
      (escape "a\\n\r\n\n  \"é\"\nb" 4).toList shown closing :=
  escape_reads_back "a\\n\r\n\n  \"é\"\nb" 4 (by decide) (by decide) (by decide)

end CodeFlow.Label
