import Mathlib
import CodeFlow.Proofs.Selection
import CodeFlow.Proofs.Text.Digit
import CodeFlow.Proofs.Text.Lower
import CodeFlow.Window.Detect
import CodeFlow.Window.Run

/-!
# `CodeFlow.Proofs.Window.Fields` — fields that are read as they were written

When a folder is chosen, the extensions of its source files and the range of their numbers are put into fields, as
texts. A run reads the texts: it gets the same extensions, which are those of the same names, and the same numbers.

## Contents
- `isSuffixOf_lower_iff`: names by their extensions, both ways to look for them.
- `extensions_joinStrings`, `boundOf?_toString`: what is read of a field.
- `range?_eq_some`, `numbers_map_name`: what is written.
-/

namespace CodeFlow.Window

open Files Selection
open Text hiding join

/-! ## Extensions -/

/-- Extensions of source files are made of small letters. -/
theorem letters_of_mem_knownExtensions :
    ∀ e ∈ knownExtensions, e.toList ≠ [] ∧ ∀ c ∈ e.toList, 97 ≤ c.toNat ∧ c.toNat ≤ 122 := by
  simp [knownExtensions]

theorem ne_of_letter {c d : Char} (h : 97 ≤ c.toNat ∧ c.toNat ≤ 122) (hd : d.toNat < 97) : c ≠ d := by
  rintro rfl
  omega

/-- What is printed in ASCII is not blank. -/
theorem isBlank_of_printed {c : Char} (h : 33 ≤ c.toNat ∧ c.toNat ≤ 126) : isBlank c = false := by
  simp only [isBlank, Bool.or_eq_false_iff, Bool.and_eq_false_iff, decide_eq_false_iff_not, beq_eq_false_iff_ne]
  omega

theorem sourceExtension?_eq_some {n e : String} :
    sourceExtension? n = some e ↔
      e ∈ knownExtensions ∧ '.' ∈ n.toList ∧ lower (afterPoint n.toList) = e.toList := by
  have hext : ∀ t : List Char, String.ofList t = e ↔ t = e.toList := fun t => by
    rw [← String.toList_inj, String.toList_ofList]
  unfold sourceExtension?
  rw [← afterPoint]
  simp only [List.contains_iff_mem]
  split_ifs with hpoint hknown
  · rw [Option.some_inj, hext]
    constructor
    · intro h
      rw [h, String.ofList_toList] at hknown
      exact ⟨hknown, hpoint, h⟩
    · exact fun h => h.2.2
  · refine ⟨fun h => by simp at h, fun h => absurd ?_ hknown⟩
    rw [h.2.2, String.ofList_toList]
    exact h.1
  · exact ⟨fun h => by simp at h, fun h => absurd h.2.1 hpoint⟩

/-- **A name ends in an extension of source files** in lower case just if that is its extension. -/
theorem isSuffixOf_lower_iff {n e : String} (he : e ∈ knownExtensions) :
    ('.' :: e.toList).isSuffixOf (lower n.toList) = true ↔ sourceExtension? n = some e := by
  obtain ⟨-, hletters⟩ := letters_of_mem_knownExtensions e he
  have hascii : ∀ c ∈ e.toList, c.toNat < 128 := fun c hc => (hletters c hc).2.trans_lt (by decide)
  have hpoint : '.' ∉ e.toList := fun hm => ne_of_letter (hletters _ hm) (by decide) rfl
  rw [List.isSuffixOf_iff_suffix, suffix_lower_iff hascii hpoint, sourceExtension?_eq_some, and_iff_right he]

/-- Words with commas and blanks between them are split and stripped to the words. -/
theorem map_strip_splitOnChar_join {ws : List (List Char)} (hne : ws ≠ [])
    (h : ∀ w ∈ ws, ',' ∉ w ∧ strip w = w) : (splitOnChar ',' (Text.join [',', ' '] ws)).map strip = ws := by
  induction ws with
  | nil => exact absurd rfl hne
  | cons w rest ih =>
      obtain ⟨hcomma, hstrip⟩ := h w List.mem_cons_self
      cases rest with
      | nil =>
          rw [Text.join, splitOnChar_of_not_mem hcomma]
          simp [hstrip]
      | cons b rest =>
          have hrest := ih (by simp) fun v hv => h v (List.mem_cons_of_mem _ hv)
          -- a blank in front of a part does not show after stripping
          obtain ⟨p, ps, hp⟩ := List.exists_cons_of_ne_nil
            (splitOnChar_ne_nil ',' (Text.join [',', ' '] (b :: rest)))
          have hblank : (splitOnChar ',' (' ' :: Text.join [',', ' '] (b :: rest))).map strip =
              (splitOnChar ',' (Text.join [',', ' '] (b :: rest))).map strip := by
            have hskip : strip (' ' :: p) = strip p := strip_append_left (b := [' ']) (by simp [isBlank])
            rw [splitOnChar, hp]
            simp [consHead, hskip]
          rw [join_cons_cons, List.append_assoc, List.cons_append, splitOnChar_append_cons, List.map_append]
          rw [splitOnChar_of_not_mem hcomma, List.singleton_append, hblank, hrest]
          simp [hstrip]

/-- What is joined of words that are not blank has no blanks around it. -/
theorem strip_join {ws : List (List Char)} (hne : ws ≠ []) (sep : List Char)
    (hblank : ∀ w ∈ ws, ∀ c ∈ w, isBlank c = false) (hwords : ∀ w ∈ ws, w ≠ []) :
    strip (Text.join sep ws) = Text.join sep ws := by
  have hhead : ∀ c, (Text.join sep ws).head? = some c → isBlank c = false := by
    obtain ⟨w, rest, rfl⟩ := List.exists_cons_of_ne_nil hne
    obtain ⟨tail, htail⟩ := prefix_join sep w rest
    intro c hc
    rw [← htail, List.head?_append_of_ne_nil _ (hwords w List.mem_cons_self)] at hc
    exact hblank w List.mem_cons_self c (List.mem_of_mem_head? hc)
  have hlast : ∀ c, (Text.join sep ws).getLast? = some c → isBlank c = false := by
    obtain ⟨front, w, rfl⟩ := (List.eq_nil_or_concat ws).resolve_left hne
    have hw : w ∈ front.concat w := by simp
    obtain ⟨head, hhead⟩ := suffix_join_concat sep w front
    intro c hc
    rw [List.concat_eq_append, ← hhead, List.getLast?_append_of_ne_nil _ (hwords w hw)] at hc
    exact hblank w hw c (List.mem_of_getLast? hc)
  by_cases hempty : Text.join sep ws = []
  · rw [hempty]
    rfl
  · simpa using strip_padded (b := []) (e := []) (by simp) (by simp) hempty hhead hlast

/-- **Extensions are read as they were written**, each with a point. -/
theorem extensions_joinStrings {es : List String} (hne : es ≠ []) (h : ∀ e ∈ es, e ∈ knownExtensions) :
    extensions (joinStrings ", " es) = es.map fun e => '.' :: e.toList := by
  have hwords : ∀ w ∈ es.map String.toList, w ≠ [] ∧ ∀ c ∈ w, 97 ≤ c.toNat ∧ c.toNat ≤ 122 := by
    intro w hw
    obtain ⟨e, he, rfl⟩ := List.mem_map.1 hw
    exact letters_of_mem_knownExtensions e (h e he)
  have hblank : ∀ w ∈ es.map String.toList, ∀ c ∈ w, isBlank c = false := by
    intro w hw c hc
    have := (hwords w hw).2 c hc
    exact isBlank_of_printed (by omega)
  have hparts : ∀ w ∈ es.map String.toList, ',' ∉ w ∧ strip w = w := fun w hw =>
    ⟨fun hm => ne_of_letter ((hwords w hw).2 _ hm) (by decide) rfl, strip_of_forall (hblank w hw)⟩
  have hmap : es.map String.toList ≠ [] := by simpa using hne
  -- the text begins and ends with a word
  have hstrip : strip (joinStrings ", " es).toList = Text.join [',', ' '] (es.map String.toList) := by
    rw [toList_joinStrings]
    exact strip_join hmap _ hblank fun w hw => (hwords w hw).1
  have hwithPoint : ∀ w ∈ es.map String.toList, withPoint w = '.' :: w := by
    intro w hw
    rw [withPoint, List.filter_eq_self.2]
    exact fun c hc => by simpa using ne_of_letter ((hwords w hw).2 c hc) (by decide)
  have hfilter : (es.map String.toList).filter (!·.isEmpty) = es.map String.toList :=
    List.filter_eq_self.2 fun w hw => by simpa using (hwords w hw).1
  unfold extensions
  rw [hstrip, map_strip_splitOnChar_join hmap hparts]
  simp only [hfilter, List.isEmpty_iff]
  rw [if_neg hmap, List.map_congr_left hwithPoint, List.map_map]
  rfl

/-! ## Numbers -/

/-- A bound that is written is read as it was. -/
theorem boundOf?_toString {n : Nat} (h : n < 10 ^ maxDigits) : boundOf? (toString n) = some (some (n : Int)) := by
  have hblank : ∀ c ∈ (toString n).toList, isBlank c = false := by
    intro c hc
    rw [toList_toString] at hc
    have := toNat_of_isDigit (Nat.isDigit_of_mem_toDigits (by decide) (by decide) hc)
    exact isBlank_of_printed (by omega)
  have hne : (toString n).toList ≠ [] := by
    rw [toList_toString]
    exact Nat.toDigits_ne_nil
  simp only [boundOf?, strip_of_forall hblank, List.isEmpty_iff, if_neg hne, readInt?_toString h]
  rfl

/-- The least and the greatest number. -/
theorem range?_eq_some {ns : List Nat} {a b : Nat} (h : range? ns = some (a, b)) :
    (a ∈ ns ∧ ∀ n ∈ ns, a ≤ n) ∧ b ∈ ns ∧ ∀ n ∈ ns, n ≤ b := by
  cases ns with
  | nil => simp [range?] at h
  | cons n rest =>
      obtain ⟨rfl, rfl⟩ := Prod.mk.inj (Option.some.inj h)
      exact ⟨List.min?_eq_some_iff.1 rfl, List.max?_eq_some_iff.1 rfl⟩

theorem lt_of_number? {p : String} {n : Nat} (h : number? p = some n) : n < 10 ^ maxDigits := by
  unfold number? at h
  split at h
  · rename_i m hm
    exact lt_of_firstNumber (h ▸ hm)
  · simp at h

theorem exists_range? {ns : List Nat} (h : ns ≠ []) : ∃ r, range? ns = some r := by
  obtain ⟨n, rest, rfl⟩ := List.exists_cons_of_ne_nil h
  exact ⟨_, rfl⟩

theorem firstNumber_name {p : String} (h : (name p).utf8ByteSize ≤ 255) :
    firstNumber (name p).toList = .ok (number? p) := by
  have hlength : (name p).toList.length ≤ maxDigits :=
    (length_toList_le_utf8ByteSize _).trans (h.trans (by decide))
  obtain ⟨m, hm⟩ := exists_firstNumber hlength
  rw [number?, hm]

/-- The numbers in names that are not too long. -/
theorem numbers_map_name {paths : List String} (h : ∀ p ∈ paths, (name p).utf8ByteSize ≤ 255) :
    numbers (paths.map name) = .ok (paths.filterMap number?) := by
  induction paths with
  | nil => rfl
  | cons p rest ih =>
      rw [List.map_cons, numbers, firstNumber_name (h p List.mem_cons_self),
        ih fun q hq => h q (List.mem_cons_of_mem _ hq)]
      cases hnumber : number? p with
      | none =>
          rw [List.filterMap_cons_none hnumber]
          rfl
      | some n =>
          rw [List.filterMap_cons_some hnumber]
          rfl

end CodeFlow.Window
