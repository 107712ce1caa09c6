import Mathlib
import CodeFlow.Text.Lower

/-!
# `CodeFlow.Proofs.Text.Lower` — extensions and lower case

What stands behind the last point of a name can be put in lower case alone or with the name. It is the same either
way, unless it has a sigma, and then it is not ASCII.

## Contents
- `IsLow`: texts that lower case does not change; `suffix_lowerFrom`.
- `point_mem_lowerFrom`: points come from points; `isUpper_of_mem_lowerFrom`: no capitals are left.
- `IsExtension`: what stands behind the last point; `IsExtension.unique`.
- `suffix_lower_iff`: an extension of a name in lower case.
-/

namespace CodeFlow.Text

/-! ## Characters -/

/-- An ASCII character that is not a capital letter. -/
def IsLow (c : Char) : Prop := c.toNat < 128 ∧ ¬(65 ≤ c.toNat ∧ c.toNat ≤ 90)

theorem lowerChar_of_isLow {c : Char} (h : IsLow c) : lowerChar c = [c] := by
  simp only [lowerChar, if_pos h.1, if_neg h.2]

/-- Whether the forms that a table of runs leads to are not below a bound. -/
def formsFrom (bound : Nat) : List Nat → Bool
  | _ :: _ :: _ :: form :: rest => bound ≤ form && formsFrom bound rest
  | _ => true

theorem le_lookupLower {bound n : Nat} {table : List Nat} (h : formsFrom bound table = true) (hn : bound ≤ n) :
    bound ≤ lookupLower n table := by
  fun_induction lookupLower n table with
  | case1 first last step form rest hrun =>
      have hform : bound ≤ form := by simpa using (Bool.and_eq_true_iff.1 h).1
      omega
  | case2 first last step form rest hrun ih => exact ih (Bool.and_eq_true_iff.1 h).2
  | case3 table htable => exact hn

theorem numbers_ofList (t : List Char) : Table.numbers (String.ofList t) = Table.numbersFrom none t := by
  rw [Table.numbers, String.toList_ofList]

/-- No capital letter beyond ASCII has a form below the letters. -/
theorem formsFrom_lowerRuns : formsFrom 107 lowerRuns = true := by
  -- the table is read as a list of characters
  rw [lowerRuns, numbers_ofList]
  decide +kernel

theorem eq_of_point_eq_ofNat {n : Nat} (h : '.' = Char.ofNat n) : n = 46 := by
  have hvalue : (Char.ofNat n).toNat = 46 := by rw [← h]; rfl
  rw [Char.toNat_ofNat] at hvalue
  split_ifs at hvalue
  exact hvalue

/-- Only a point has a point for its form. -/
theorem point_mem_lowerChar {c : Char} : '.' ∈ lowerChar c ↔ c = '.' := by
  unfold lowerChar
  simp only
  split_ifs with hascii hcapital hdotted
  · constructor
    · intro h
      have := eq_of_point_eq_ofNat (List.mem_singleton.1 h)
      omega
    · rintro rfl
      exact absurd hcapital (by decide)
  · rw [List.mem_singleton, eq_comm]
  · constructor
    · intro h
      exact absurd h (by decide)
    · rintro rfl
      exact absurd hdotted (by decide)
  · constructor
    · intro h
      have hle := le_lookupLower formsFrom_lowerRuns (n := c.toNat) (by omega)
      rw [eq_of_point_eq_ofNat (List.mem_singleton.1 h)] at hle
      exact absurd hle (by decide)
    · rintro rfl
      exact absurd hascii (by decide)

/-! ## Texts -/

theorem lowerFrom_of_isLow {t : List Char} (h : ∀ c ∈ t, IsLow c) (before : List Char) :
    lowerFrom before t = t := by
  induction t generalizing before with
  | nil => rfl
  | cons c t ih =>
      have hc := h c List.mem_cons_self
      have hsigma : c.toNat ≠ 0x3A3 := by
        have := hc.1
        omega
      rw [lowerFrom, ih fun d hd => h d (List.mem_cons_of_mem _ hd)]
      simp [lowerChar_of_isLow hc, hsigma]

/-- What comes last is put in lower case behind the rest. -/
theorem exists_lowerFrom_append (before front t : List Char) :
    ∃ head, lowerFrom before (front ++ t) = head ++ lowerFrom (front.reverse ++ before) t := by
  induction front generalizing before with
  | nil => exact ⟨[], rfl⟩
  | cons c front ih =>
      obtain ⟨head, hhead⟩ := ih (c :: before)
      rw [List.cons_append, lowerFrom, hhead, List.reverse_cons, List.append_assoc]
      exact ⟨_, (List.append_assoc _ _ _).symm⟩

/-- What is in lower case at the end of a text stays there. -/
theorem suffix_lowerFrom {t : List Char} (h : ∀ c ∈ t, IsLow c) (front before : List Char) :
    t <:+ lowerFrom before (front ++ t) := by
  obtain ⟨head, hhead⟩ := exists_lowerFrom_append before front t
  rw [lowerFrom_of_isLow h] at hhead
  exact ⟨head, hhead.symm⟩

/-- How a text begins in lower case. -/
theorem lowerFrom_cons_cases (before : List Char) (c : Char) (t : List Char) :
    (∃ d, lowerFrom before (c :: t) = d :: lowerFrom (c :: before) t ∧ c.toNat = 0x3A3 ∧ 128 ≤ d.toNat) ∨
      lowerFrom before (c :: t) = lowerChar c ++ lowerFrom (c :: before) t ∧ c.toNat ≠ 0x3A3 := by
  rw [lowerFrom]
  by_cases hsigma : c.toNat = 0x3A3
  · refine .inl ⟨_, by rw [if_pos hsigma]; rfl, hsigma, ?_⟩
    split_ifs <;> decide
  · exact .inr ⟨by rw [if_neg hsigma], hsigma⟩

/-- Points come from points. -/
theorem point_mem_lowerFrom {before t : List Char} : '.' ∈ lowerFrom before t ↔ '.' ∈ t := by
  induction t generalizing before with
  | nil => exact Iff.rfl
  | cons c t ih =>
      rcases lowerFrom_cons_cases before c t with ⟨d, hlower, hsigma, hd⟩ | ⟨hlower, -⟩
      · have hne : '.' ≠ d := by
          rintro rfl
          exact absurd hd (by decide)
        have hc : '.' ≠ c := by
          rintro rfl
          exact absurd hsigma (by decide)
        rw [hlower, List.mem_cons, List.mem_cons, ih, or_iff_right hne, or_iff_right hc]
      · rw [hlower, List.mem_append, List.mem_cons, ih, point_mem_lowerChar, eq_comm]

theorem isUpper_eq_false {c : Char} (h : ¬(65 ≤ c.toNat ∧ c.toNat ≤ 90)) : c.isUpper = false := by
  rw [← Bool.not_eq_true]
  intro hupper
  simp only [Char.isUpper, decide_eq_true_eq, ge_iff_le, UInt32.le_iff_toNat_le] at hupper
  exact h hupper

theorem isUpper_of_mem_lowerChar {c d : Char} (h : d ∈ lowerChar c) : d.isUpper = false := by
  apply isUpper_eq_false
  unfold lowerChar at h
  simp only at h
  split_ifs at h with hascii hcapital hdotted
  · rw [List.mem_singleton.1 h, Char.toNat_ofNat]
    split_ifs <;> omega
  · rwa [List.mem_singleton.1 h]
  · rcases List.mem_cons.1 h with rfl | h
    · decide
    · rw [List.mem_singleton.1 h]
      decide
  · have hle := le_lookupLower formsFrom_lowerRuns (n := c.toNat) (by omega)
    rw [List.mem_singleton.1 h, Char.toNat_ofNat]
    split_ifs <;> omega

/-- In lower case there are no capitals. -/
theorem isUpper_of_mem_lowerFrom {before t : List Char} {d : Char} (h : d ∈ lowerFrom before t) :
    d.isUpper = false := by
  induction t generalizing before with
  | nil => exact absurd h List.not_mem_nil
  | cons c t ih =>
      rcases lowerFrom_cons_cases before c t with ⟨x, hlower, -, hx⟩ | ⟨hlower, -⟩
      · rw [hlower] at h
        rcases List.mem_cons.1 h with rfl | h
        · exact isUpper_eq_false (by omega)
        · exact ih h
      · rw [hlower] at h
        rcases List.mem_append.1 h with h | h
        · exact isUpper_of_mem_lowerChar h
        · exact ih h

/-- What is ASCII in lower case is so wherever it stands: it has no sigma. -/
theorem lowerFrom_eq_of_ascii {before t e : List Char} (he : ∀ c ∈ e, c.toNat < 128)
    (h : lowerFrom before t = e) (before' : List Char) : lowerFrom before' t = e := by
  induction t generalizing before before' e with
  | nil => exact h
  | cons c t ih =>
      rcases lowerFrom_cons_cases before c t with ⟨d, hlower, -, hd⟩ | ⟨hlower, hsigma⟩
      · have := he d (by rw [← h, hlower]; exact List.mem_cons_self)
        omega
      · rcases lowerFrom_cons_cases before' c t with ⟨d, -, hsigma', -⟩ | ⟨hlower', -⟩
        · exact absurd hsigma' hsigma
        · have hrest : ∀ x ∈ lowerFrom (c :: before) t, x.toNat < 128 := fun x hx =>
            he x (by rw [← h, hlower]; exact List.mem_append_right _ hx)
          rw [hlower', ih hrest rfl, ← hlower, h]

/-! ## Extensions -/

/-- A point and what stands behind the last point of a name. -/
def IsExtension (e : List Char) : Prop := ∃ rest, e = '.' :: rest ∧ '.' ∉ rest

/-- A name has one extension only. -/
theorem IsExtension.unique {e e' t : List Char} (he : IsExtension e) (he' : IsExtension e')
    (h : e <:+ t) (h' : e' <:+ t) : e = e' := by
  have hone : ∀ {a b : List Char}, IsExtension a → IsExtension b → a <:+ b → a = b := by
    rintro a b ⟨r, rfl, -⟩ ⟨u, rfl, hu⟩ hab
    rcases List.suffix_cons_iff.1 hab with heq | hsuffix
    · exact heq
    · exact absurd (hsuffix.subset List.mem_cons_self) hu
  rcases List.suffix_or_suffix_of_suffix h h' with hab | hba
  · exact hone he he' hab
  · exact (hone he' he hba).symm

/-- What stands behind the last point. -/
def afterPoint (t : List Char) : List Char := (t.reverse.takeWhile (· != '.')).reverse

theorem point_not_mem_afterPoint (t : List Char) : '.' ∉ afterPoint t := by
  intro hm
  have := List.mem_takeWhile_imp (List.mem_reverse.1 hm)
  simp at this

theorem exists_append_afterPoint {t : List Char} (h : '.' ∈ t) : ∃ front, t = front ++ '.' :: afterPoint t := by
  have hcut := List.takeWhile_append_dropWhile (p := (· != '.')) (l := t.reverse)
  have hmem : '.' ∈ t.reverse.dropWhile (· != '.') := by
    rcases List.mem_append.1 (hcut ▸ List.mem_reverse.2 h) with hin | hin
    · simpa using List.mem_takeWhile_imp hin
    · exact hin
  obtain ⟨c, rest, hrest⟩ := List.exists_cons_of_ne_nil (List.ne_nil_of_mem hmem)
  -- the point is the first character from the end that was not passed over
  have hc : c = '.' := by
    have := List.head?_dropWhile_not (· != '.') t.reverse
    simpa [hrest] using this
  refine ⟨rest.reverse, ?_⟩
  rw [hrest, hc] at hcut
  calc t = (t.reverse.takeWhile (· != '.') ++ '.' :: rest).reverse := by rw [hcut, List.reverse_reverse]
    _ = rest.reverse ++ '.' :: afterPoint t := by
      rw [List.reverse_append, List.reverse_cons, List.append_assoc, List.singleton_append, afterPoint]

/-- **The extension of a name in lower case** is what stands behind its last point, put in lower case alone. -/
theorem suffix_lower_iff {e t : List Char} (he : ∀ c ∈ e, c.toNat < 128) (hpoint : '.' ∉ e) :
    ('.' :: e) <:+ lower t ↔ '.' ∈ t ∧ lower (afterPoint t) = e := by
  by_cases ht : '.' ∈ t
  · obtain ⟨front, hfront⟩ := exists_append_afterPoint ht
    obtain ⟨head, hhead⟩ := exists_lowerFrom_append [] front ('.' :: afterPoint t)
    have hlow : lowerChar '.' = ['.'] := lowerChar_of_isLow ⟨by decide, by decide⟩
    rcases lowerFrom_cons_cases (front.reverse ++ []) '.' (afterPoint t) with ⟨d, -, hsigma, -⟩ | ⟨hlower, -⟩
    · exact absurd hsigma (by decide)
    rw [← hfront, hlower, hlow, List.singleton_append] at hhead
    set u := lowerFrom ('.' :: (front.reverse ++ [])) (afterPoint t) with hu
    have hupoint : '.' ∉ u := mt point_mem_lowerFrom.1 (point_not_mem_afterPoint t)
    have hend : ('.' :: u) <:+ lower t := ⟨head, hhead.symm⟩
    constructor
    · intro h
      have heq := IsExtension.unique ⟨e, rfl, hpoint⟩ ⟨u, rfl, hupoint⟩ h hend
      exact ⟨ht, lowerFrom_eq_of_ascii he (List.cons.inj heq).2.symm []⟩
    · rintro ⟨-, h⟩
      rwa [hu, lowerFrom_eq_of_ascii he h] at hend
  · have hlower : '.' ∉ lower t := mt point_mem_lowerFrom.1 ht
    exact ⟨fun h => absurd (h.subset List.mem_cons_self) hlower, fun h => absurd h.1 ht⟩

end CodeFlow.Text
