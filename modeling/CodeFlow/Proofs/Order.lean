import Mathlib
import CodeFlow.Order

/-!
# `CodeFlow.Proofs.Order` — what sorting keeps

Sorting is insertion sort, so it keeps the entries. Texts are linearly ordered, and what is taken from a
sorted list of texts is what sorting gives of the texts taken.

## Contents
- `sortBy_eq_insertionSort`, `mem_sortBy`.
- `charsLe_antisymm`, `charsLe_trans`, `charsLe_total`: the order of texts.
- `filter_sortBy_textLe`: sorting and filtering commute.
-/

namespace CodeFlow

/-! ## Entries -/

section
variable {α : Type} (le : α → α → Bool)

theorem insertBy_eq_orderedInsert (x : α) (xs : List α) :
    insertBy le x xs = xs.orderedInsert (le · · = true) x := by
  induction xs with
  | nil => rfl
  | cons y ys ih =>
      rw [insertBy, List.orderedInsert_cons, ih]

theorem sortBy_eq_insertionSort (xs : List α) : sortBy le xs = xs.insertionSort (le · · = true) := by
  induction xs with
  | nil => rfl
  | cons x xs ih =>
      rw [sortBy, ih, insertBy_eq_orderedInsert]
      rfl

@[simp]
theorem mem_sortBy {x : α} {xs : List α} : x ∈ sortBy le xs ↔ x ∈ xs := by
  rw [sortBy_eq_insertionSort, List.mem_insertionSort]

end

/-! ## The order of texts -/

theorem charsLe_antisymm {s t : List Char} (hst : charsLe s t = true) (hts : charsLe t s = true) :
    s = t := by
  induction s generalizing t with
  | nil =>
      cases t with
      | nil => rfl
      | cons b bs => simp [charsLe] at hts
  | cons a as ih =>
      cases t with
      | nil => simp [charsLe] at hst
      | cons b bs =>
          by_cases hab : a = b
          · subst hab
            rw [ih (by simpa [charsLe] using hst) (by simpa [charsLe] using hts)]
          · -- the first characters differ, and each would be the smaller one
            simp only [charsLe, hab, Ne.symm hab, if_false, decide_eq_true_eq] at hst hts
            omega

theorem charsLe_trans {s t u : List Char} (hst : charsLe s t = true) (htu : charsLe t u = true) :
    charsLe s u = true := by
  induction s generalizing t u with
  | nil => rfl
  | cons a as ih =>
      cases t with
      | nil => simp [charsLe] at hst
      | cons b bs =>
          cases u with
          | nil => simp [charsLe] at htu
          | cons c cs =>
              by_cases hab : a = b
              · subst hab
                by_cases hac : a = c
                · subst hac
                  have hrest : charsLe as cs = true :=
                    ih (by simpa [charsLe] using hst) (by simpa [charsLe] using htu)
                  simpa [charsLe] using hrest
                · simpa [charsLe, hac] using htu
              · by_cases hbc : b = c
                · subst hbc
                  simpa [charsLe, hab] using hst
                · simp only [charsLe, hab, hbc, if_false, decide_eq_true_eq] at hst htu
                  have hac : a ≠ c := by
                    rintro rfl
                    omega
                  simp only [charsLe, hac, if_false, decide_eq_true_eq]
                  omega

theorem charsLe_total (s t : List Char) : charsLe s t = true ∨ charsLe t s = true := by
  induction s generalizing t with
  | nil => exact .inl rfl
  | cons a as ih =>
      cases t with
      | nil => exact .inr rfl
      | cons b bs =>
          by_cases hab : a = b
          · subst hab
            simpa [charsLe] using ih bs
          · have hne : a.toNat ≠ b.toNat := fun h => hab (Char.toNat_inj.1 h)
            simp only [charsLe, hab, Ne.symm hab, if_false, decide_eq_true_eq]
            omega

instance : Std.Antisymm (textLe · · = true) :=
  ⟨fun _ _ hst hts => String.toList_inj.1 (charsLe_antisymm hst hts)⟩

instance : IsTrans String (textLe · · = true) := ⟨fun _ _ _ hst htu => charsLe_trans hst htu⟩

instance : Std.Total (textLe · · = true) := ⟨fun s t => charsLe_total s.toList t.toList⟩

/-- **Sorting texts and taking some of them commute.** -/
theorem filter_sortBy_textLe (p : String → Bool) (xs : List String) :
    (sortBy textLe xs).filter p = sortBy textLe (xs.filter p) := by
  rw [sortBy_eq_insertionSort, sortBy_eq_insertionSort]
  -- both lists are sorted and have the same entries
  refine List.Perm.eq_of_pairwise' ?_ (List.pairwise_insertionSort _ _) ?_
  · exact (List.pairwise_insertionSort _ _).filter p
  · exact ((List.perm_insertionSort _ _).filter p).trans (List.perm_insertionSort _ _).symm

end CodeFlow
