import Mathlib
import CodeFlow.Ident
import CodeFlow.Proofs.Dot.Scan

/-!
# `CodeFlow.Proofs.Ident` — sanitised texts as identifiers

A sanitised text has only letters, digits and underscores. It is an identifier of a document if it does not
begin with a digit, which the prefix in front of it takes care of.
-/

namespace CodeFlow.Ident

open Text Dot

/-- The characters of identifiers by number. -/
theorem toNat_of_isAlphanum {c : Char} (h : c.isAlphanum = true ∨ c = '_') :
    (97 ≤ c.toNat ∧ c.toNat ≤ 122) ∨ (65 ≤ c.toNat ∧ c.toNat ≤ 90) ∨ (48 ≤ c.toNat ∧ c.toNat ≤ 57) ∨
      c.toNat = 95 := by
  rcases h with h | rfl
  · simp only [Char.isAlphanum, Char.isAlpha, Char.isUpper, Char.isLower, Char.isDigit, Bool.or_eq_true,
      Bool.and_eq_true, decide_eq_true_eq, UInt32.le_iff_toNat_le, ge_iff_le] at h
    change ((65 ≤ c.toNat ∧ c.toNat ≤ 90) ∨ (97 ≤ c.toNat ∧ c.toNat ≤ 122)) ∨
      (48 ≤ c.toNat ∧ c.toNat ≤ 57) at h
    omega
  · decide

/-- They are no blanks. -/
theorem isBlank_of_isAlphanum {c : Char} (h : c.isAlphanum = true ∨ c = '_') : isBlank c = false := by
  have hn := toNat_of_isAlphanum h
  simp only [isBlank, Bool.or_eq_false_iff, Bool.and_eq_false_iff, decide_eq_false_iff_not,
    beq_eq_false_iff_ne]
  omega

theorem isAsciiAlnum_eq (c : Char) : isAsciiAlnum c = c.isAlphanum := by
  simp [isAsciiAlnum, Char.isAlphanum, Char.isAlpha, Char.isUpper, Char.isLower, Char.isDigit,
    Char.le_def, Bool.or_comm]

theorem isIdentChar_eq (c : Char) : isIdentChar c = (c.isAlphanum || c == '_') := by
  rw [isIdentChar, isAsciiAlnum_eq]

theorem isIdentChar_sanitizeChar (c : Char) : isIdentChar (sanitizeChar c) = true := by
  unfold sanitizeChar
  split_ifs with h
  · exact h
  · decide

theorem sanitizeChar_of_isIdentChar {c : Char} (h : isIdentChar c = true) : sanitizeChar c = c := by
  simp [sanitizeChar, h]

/-- A sanitised text consists of characters of identifiers. -/
theorem isIdentChar_of_mem_sanitize {text : String} {c : Char} (hc : c ∈ (sanitize text).toList) :
    isIdentChar c = true := by
  unfold sanitize at hc
  split_ifs at hc with hempty
  · have hnull : null.toList.all isIdentChar = true := rfl
    exact List.all_eq_true.1 hnull c hc
  · have : c ∈ text.toList.map sanitizeChar := by simpa using hc
    obtain ⟨d, -, rfl⟩ := List.mem_map.1 this
    exact isIdentChar_sanitizeChar d

theorem isDigit_of_mem_toString {n : Nat} {c : Char} (hc : c ∈ (toString n).toList) :
    c.isDigit = true := by
  have hdigit : c ∈ Nat.toDigits 10 n := by simpa using hc
  exact Nat.isDigit_of_mem_toDigits (by decide) (by decide) hdigit

theorem isIdentChar_of_mem_toString {n : Nat} {c : Char} (hc : c ∈ (toString n).toList) :
    isIdentChar c = true := by
  simp [isIdentChar_eq, Char.isAlphanum, isDigit_of_mem_toString hc]

/-- A text that begins with a letter. -/
def Begins (text : String) : Prop := ∃ c t, text.toList = c :: t ∧ c.isAlpha = true

theorem Begins.append {a : String} (h : Begins a) (b : String) : Begins (a ++ b) := by
  obtain ⟨c, t, ht, hc⟩ := h
  exact ⟨c, t ++ b.toList, by simp [ht], hc⟩

theorem isIdentChar_of_isAlpha {c : Char} (h : c.isAlpha = true) : isIdentChar c = true := by
  simp [isIdentChar_eq, Char.isAlphanum, h]

theorem toList_sanitize {text : String} (h : text.toList ≠ []) :
    (sanitize text).toList = text.toList.map sanitizeChar := by
  simp [sanitize, h]

theorem toList_sanitize_ne_nil (text : String) : (sanitize text).toList ≠ [] := by
  by_cases h : text.toList = []
  · simp [sanitize, h, null]
  · simpa [toList_sanitize h] using h

theorem map_sanitizeChar {t : List Char} (h : ∀ c ∈ t, isIdentChar c = true) : t.map sanitizeChar = t := by
  rw [List.map_congr_left fun c hc => sanitizeChar_of_isIdentChar (h c hc), List.map_id']

theorem Begins.sanitize {text : String} (h : Begins text) : Begins (Ident.sanitize text) := by
  obtain ⟨c, t, ht, hc⟩ := h
  refine ⟨sanitizeChar c, t.map sanitizeChar, by rw [toList_sanitize (by simp [ht]), ht]; rfl, ?_⟩
  rwa [sanitizeChar_of_isIdentChar (isIdentChar_of_isAlpha hc)]

/-- A text of the characters of identifiers that begins with a letter is an identifier. -/
theorem isIdentifier_of_forall {text : String} (hbegins : Begins text)
    (hall : ∀ c ∈ text.toList, isIdentChar c = true) : isIdentifier text.toList = true := by
  obtain ⟨c, t, ht, hc⟩ := hbegins
  rw [ht] at hall ⊢
  have htail : ∀ d ∈ t, (d.isAlphanum || d == '_') = true := by
    intro d hd
    rw [← isIdentChar_eq]
    exact hall d (List.mem_cons_of_mem _ hd)
  simp only [isIdentifier, hc, Bool.true_or, Bool.true_and, List.all_eq_true]
  exact htail

theorem isIdentifier_sanitize {text : String} (h : Begins text) :
    isIdentifier (sanitize text).toList = true :=
  isIdentifier_of_forall h.sanitize fun _ hc => isIdentChar_of_mem_sanitize hc

theorem Begins.toList_ne_nil {text : String} (h : Begins text) : text.toList ≠ [] := by
  obtain ⟨c, t, ht, -⟩ := h
  simp [ht]

theorem qualify_of_begins {pre : String} (h : Begins pre) (name : String) :
    qualify pre name = sanitize (pre ++ "_" ++ name) := by
  simp [qualify, h.toList_ne_nil]

/-- Whatever stands behind a prefix that begins with a letter. -/
theorem isIdentifier_qualify {pre : String} (h : Begins pre) (name : String) :
    isIdentifier (qualify pre name).toList = true := by
  rw [qualify_of_begins h]
  exact isIdentifier_sanitize ((h.append _).append _)

end CodeFlow.Ident
