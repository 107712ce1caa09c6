import Mathlib
import CodeFlow.Proofs.Ident
import CodeFlow.Proofs.Text.Lower
import CodeFlow.Text.Blank
import CodeFlow.Text.Word

/-!
# `CodeFlow.Proofs.Text.Word` — no blank is a word character

Blanks and word characters are told apart by two rules that were written down apart from each other: a list of
code points for the one, ASCII and a table of ranges for the other. The table is gone through once, range by
range, for all blanks together (`areApart`).
-/

namespace CodeFlow.Text

/-- Whether some numbers lie in none of some ranges. -/
def areApart (ns : List Nat) (ranges : List (Nat × Nat)) : Bool :=
  ranges.all fun r => ns.all fun n => !(r.1 ≤ n && n ≤ r.2)

theorem holds_of_areApart {ns : List Nat} {ranges : List (Nat × Nat)} (h : areApart ns ranges = true) {n : Nat}
    (hn : n ∈ ns) : Table.holds ranges.toArray n = false := by
  rw [Table.holds, List.any_toArray, List.any_eq_false]
  intro r hr
  have hrange := List.all_eq_true.1 (List.all_eq_true.1 h r hr) n hn
  rwa [Bool.not_eq_eq_eq_not, Bool.not_true, ← Bool.not_eq_true] at hrange

/-- The blank characters beyond ASCII. -/
def farBlanks : List Nat :=
  [0x85, 0xA0, 0x1680, 0x2000, 0x2001, 0x2002, 0x2003, 0x2004, 0x2005, 0x2006, 0x2007, 0x2008, 0x2009,
    0x200A, 0x2028, 0x2029, 0x202F, 0x205F, 0x3000]

theorem holds_wordRanges_of_mem {n : Nat} (hn : n ∈ farBlanks) : Table.holds wordRanges n = false := by
  -- the table is read as a list of characters
  rw [wordRanges, Table.ranges, numbers_ofList]
  refine holds_of_areApart ?_ hn
  decide +kernel

theorem toNat_of_isBlank {c : Char} (h : isBlank c = true) :
    (9 ≤ c.toNat ∧ c.toNat ≤ 13) ∨ (28 ≤ c.toNat ∧ c.toNat ≤ 32) ∨ c.toNat ∈ farBlanks := by
  simp only [isBlank, Bool.or_eq_true, Bool.and_eq_true, decide_eq_true_eq, beq_iff_eq] at h
  simp only [farBlanks, List.mem_cons, List.not_mem_nil, or_false]
  omega

/-- **No blank is a word character.** -/
theorem isWord_of_isBlank {c : Char} (h : isBlank c = true) : isWord c = false := by
  have hn := toNat_of_isBlank h
  unfold isWord
  split_ifs with hascii
  · have hfar : ∀ n ∈ farBlanks, 128 ≤ n := by decide
    have hblank := hn.imp_right (Or.imp_right (hfar c.toNat))
    rw [Bool.eq_false_iff]
    intro hword
    rw [Ident.isAsciiAlnum_eq] at hword
    have hletter := Ident.toNat_of_isAlphanum (c := c) (by simpa using hword)
    omega
  · refine holds_wordRanges_of_mem ((hn.resolve_left ?_).resolve_left ?_) <;> omega

end CodeFlow.Text
