import Mathlib
import CodeFlow.Text.Digit

/-!
# `CodeFlow.Proofs.Text.Digit` — numbers that are written and read again

A number that was read, in the digits of any script, is not too long to be written and read once more.

## Contents
- `decimalValue_lt`, `lt_of_firstNumber`: how large a number can be that is read.
- `readInt?_toString`: what is written is read as it was.
-/

namespace CodeFlow.Text

/-! ## Digits -/

theorem digitValue?_lt {c : Char} {d : Nat} (h : digitValue? c = some d) : d < 10 := by
  unfold digitValue? at h
  simp only at h
  split_ifs at h with hascii hdigit
  · have := Option.some.inj h
    omega
  · obtain ⟨z, hz, hd⟩ := Option.map_eq_some_iff.1 h
    have hrange := List.find?_some hz
    simp only [Bool.and_eq_true, decide_eq_true_eq] at hrange
    omega

theorem toNat_of_isDigit {c : Char} (h : c.isDigit = true) : 48 ≤ c.toNat ∧ c.toNat ≤ 57 := by
  simpa [Char.isDigit, UInt32.le_iff_toNat_le] using h

/-- The digits of the decimal notation are digits. -/
theorem digitValue?_of_isDigit {c : Char} (h : c.isDigit = true) : digitValue? c = some (c.toNat - 48) := by
  have hrange := toNat_of_isDigit h
  unfold digitValue?
  simp only
  rw [if_pos (by omega), if_pos hrange]

/-! ## Numbers -/

/-- A number has no more digits than it is written with. -/
theorem decimalValue_lt (digits : List Char) : decimalValue digits < 10 ^ digits.length := by
  induction digits using List.reverseRecOn with
  | nil => exact Nat.one_pos
  | append_singleton digits c ih =>
      have hdigit : (digitValue? c).getD 0 < 10 := by
        cases hc : digitValue? c with
        | none => exact Nat.succ_pos 9
        | some d => exact digitValue?_lt hc
      have hconcat : decimalValue (digits ++ [c]) = decimalValue digits * 10 + (digitValue? c).getD 0 := by
        rw [decimalValue, List.foldl_append]
        rfl
      rw [hconcat, List.length_append, List.length_singleton, Nat.pow_succ]
      omega

/-- A number that is read is not too long. -/
theorem lt_of_firstNumber {t : List Char} {n : Nat} (h : firstNumber t = .ok (some n)) : n < 10 ^ maxDigits := by
  unfold firstNumber at h
  generalize (t.dropWhile (!isDigit ·)).takeWhile isDigit = digits at h
  cases digits with
  | nil => simp at h
  | cons c rest =>
      simp only [readDigits] at h
      split_ifs at h with hlong
      · simp [Except.map] at h
      · obtain rfl : decimalValue (c :: rest) = n := by simpa [Except.map] using h
        exact (decimalValue_lt (c :: rest)).trans_le (Nat.pow_le_pow_right (by decide) (by omega))

theorem toList_toString (n : Nat) : (toString n).toList = Nat.toDigits 10 n := Nat.toList_repr

theorem decimalValue_toDigits (n : Nat) : decimalValue (Nat.toDigits 10 n) = n := by
  have hfold : ∀ (t : List Char) (k : Nat), (∀ c ∈ t, c.isDigit = true) →
      t.foldl (fun n c => n * 10 + (digitValue? c).getD 0) k = Nat.ofDigitChars 10 t k := by
    intro t
    induction t with
    | nil => exact fun _ _ => rfl
    | cons c t ih =>
        intro k ht
        rw [List.foldl_cons, Nat.ofDigitChars_cons, ih _ fun d hd => ht d (List.mem_cons_of_mem _ hd),
          digitValue?_of_isDigit (ht c List.mem_cons_self), Nat.mul_comm]
        rfl
  rw [decimalValue, hfold _ 0 fun c hc => Nat.isDigit_of_mem_toDigits (by decide) (by decide) hc]
  exact Nat.ofDigitChars_toDigits (by decide) (by decide)

/-- Digits without underscores between them. -/
theorem ungroup?_of_forall {t : List Char} (hne : t ≠ []) (h : ∀ c ∈ t, isDigit c = true) :
    ungroup? t = some t := by
  fun_induction ungroup? t with
  | case1 => exact absurd rfl hne
  | case2 c hc => rfl
  | case3 c hc => exact absurd (h c List.mem_cons_self) hc
  | case4 c rest hc ih => exact absurd (h '_' (by simp)) (by decide)
  | case5 c rest hc => exact absurd (h c List.mem_cons_self) hc
  | case6 c rest hrest hunder hc ih =>
      rw [ih (by simpa using hrest) fun d hd => h d (List.mem_cons_of_mem _ hd)]
      rfl
  | case7 c rest hrest hunder hc => exact absurd (h c List.mem_cons_self) hc

/-- Digits alone have no sign in front of them. -/
theorem readInt?_of_forall {t : List Char} (hne : t ≠ []) (h : ∀ c ∈ t, isDigit c = true)
    (hshort : t.length ≤ maxDigits) : readInt? t = some (decimalValue t : Int) := by
  have hunsigned : (ungroup? t).bind (fun ds => (readDigits ds).toOption) = some (decimalValue t) := by
    rw [ungroup?_of_forall hne h, Option.bind_some, readDigits, if_neg (by omega)]
    rfl
  unfold readInt?
  split
  · exact absurd (h '-' List.mem_cons_self) (by decide)
  · exact absurd (h '+' List.mem_cons_self) (by decide)
  · simp only [hunsigned]
    rfl

/-- **A number that is written is read as it was**, unless it is too long. -/
theorem readInt?_toString {n : Nat} (h : n < 10 ^ maxDigits) : readInt? (toString n).toList = some (n : Int) := by
  have hisDigit : ∀ c ∈ Nat.toDigits 10 n, isDigit c = true := by
    intro c hc
    rw [isDigit, digitValue?_of_isDigit (Nat.isDigit_of_mem_toDigits (by decide) (by decide) hc)]
    rfl
  have hshort : (Nat.toDigits 10 n).length ≤ maxDigits :=
    (Nat.length_toDigits_le_iff (by decide) (by decide)).2 h
  rw [toList_toString, readInt?_of_forall Nat.toDigits_ne_nil hisDigit hshort, decimalValue_toDigits]

end CodeFlow.Text
