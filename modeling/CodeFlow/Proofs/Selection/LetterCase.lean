import Mathlib
import CodeFlow.Proofs.Ident
import CodeFlow.Proofs.Job.Sources
import CodeFlow.Proofs.Selection.Scan
import CodeFlow.Proofs.Text.Search

/-!
# `CodeFlow.Proofs.Selection.LetterCase` — capitals in extensions

Names are put in lower case before their ends are compared, and extensions are taken as they were entered. So an
extension with a capital is that of no name. Two texts that differ in capitals alone give the same extensions but for
the capitals, and yet they may take different names.

## Contents
- `folded`: ASCII letters in lower case; `extensions_folded`.
- `Fits`: extensions that a file can have; `isUpper_of_fits`.
- `SameNames`: extensions that take the same names; `sameNames_extensions_iff`, `candidates_congr`.
-/

namespace CodeFlow.Selection

open Files
open Text hiding join

/-! ## Letters -/

/-- A text with ASCII letters in lower case. -/
def folded (t : List Char) : List Char := t.map Char.toLower

theorem isAlpha_of_isUpper {c : Char} (h : c.isUpper = true) : c.isAlpha = true := by simp [Char.isAlpha, h]

/-- What no letter is does not depend on capitals. -/
theorem comp_toLower {q : Char → Bool} (h : ∀ c, c.isAlpha = true → q c = false) : q ∘ Char.toLower = q := by
  funext c
  by_cases hupper : c.isUpper = true
  · have halpha : c.toLower.isAlpha = true := by simp [isAlpha_of_isUpper hupper]
    rw [Function.comp_apply, h _ halpha, h c (isAlpha_of_isUpper hupper)]
  · rw [Function.comp_apply, Char.toLower_eq_of_not_isUpper hupper]

theorem folded_strip (t : List Char) : strip (folded t) = folded (strip t) := by
  have hblank : isBlank ∘ Char.toLower = isBlank :=
    comp_toLower fun c hc => Ident.isBlank_of_isAlphanum (.inl (by simp [Char.isAlphanum, hc]))
  simp only [strip, stripStart, stripEnd, dropEndWhile, folded, List.dropWhile_map, hblank, ← List.map_reverse]

theorem folded_splitOnChar {sep : Char} (h : sep.isAlpha = false) (t : List Char) :
    splitOnChar sep (folded t) = (splitOnChar sep t).map folded := by
  have hsep : ∀ c, c.isAlpha = true → (c == sep) = false := by
    intro c hc
    rw [beq_eq_false_iff_ne]
    rintro rfl
    rw [h] at hc
    exact Bool.false_ne_true hc
  induction t with
  | nil => rfl
  | cons c t ih =>
      have hc : (c.toLower == sep) = (c == sep) := congrFun (comp_toLower hsep) c
      change splitOnChar sep (c.toLower :: folded t) = _
      rw [splitOnChar, splitOnChar, hc, ih]
      split_ifs
      · rfl
      · obtain ⟨x, xs, hx⟩ := List.exists_cons_of_ne_nil (splitOnChar_ne_nil sep t)
        rw [hx]
        rfl

theorem folded_withPoint (t : List Char) : withPoint (folded t) = folded (withPoint t) := by
  have hpoint : ∀ c : Char, c.isAlpha = true → (c == '.') = false := by
    intro c hc
    rw [beq_eq_false_iff_ne]
    rintro rfl
    exact absurd hc (by decide)
  have hcomp : ((· != '.') ∘ Char.toLower : Char → Bool) = (· != '.') := by
    funext c
    exact congrArg (! ·) (congrFun (comp_toLower hpoint) c)
  rw [withPoint, withPoint, folded, folded, List.filter_map, hcomp]
  rfl

/-- **The extensions of a text depend on capitals only in their own.** -/
theorem extensions_folded (entry : String) :
    extensions (String.ofList (folded entry.toList)) = (extensions entry).map folded := by
  have hempty : ((!·.isEmpty) ∘ folded : List Char → Bool) = (!·.isEmpty) := by
    funext t
    simp [folded]
  have hparts : ((splitOnChar ',' (strip (folded entry.toList))).map strip).filter (!·.isEmpty) =
      (((splitOnChar ',' (strip entry.toList)).map strip).filter (!·.isEmpty)).map folded := by
    rw [folded_strip, folded_splitOnChar (by decide), List.map_map]
    have hstrip : strip ∘ folded = folded ∘ strip := funext folded_strip
    rw [hstrip, ← List.map_map, List.filter_map, hempty]
  unfold extensions
  simp only [String.toList_ofList, hparts, List.isEmpty_map]
  split_ifs
  · rfl
  · rw [List.map_map, List.map_map]
    exact List.map_congr_left fun t _ => folded_withPoint t

theorem folded_eq_self {t : List Char} (h : ∀ c ∈ t, c.isUpper = false) : folded t = t := by
  have hlow : ∀ c ∈ t, c.toLower = c := fun c hc => Char.toLower_eq_of_not_isUpper (by simp [h c hc])
  rw [folded, List.map_congr_left hlow, List.map_id']

/-! ## Extensions of files -/

/-- A file can have an extension: some name ends in it, in lower case. -/
def Fits (e : List Char) : Prop := ∃ n, IsFileName n ∧ e <:+ lower n.toList

/-- **An extension with a capital is that of no file.** -/
theorem isUpper_of_fits {e : List Char} (h : Fits e) : ∀ c ∈ e, c.isUpper = false := by
  obtain ⟨n, -, hsuffix⟩ := h
  exact fun c hc => isUpper_of_mem_lowerFrom (hsuffix.subset hc)

theorem hasExtension_iff {exts : List (List Char)} {n : String} :
    hasExtension exts n = true ↔ ∃ e ∈ exts, e <:+ lower n.toList := by
  rw [hasExtension, List.any_eq_true]
  simp only [List.isSuffixOf_iff_suffix]

/-- Extensions by which the same names are taken. -/
def SameNames (exts exts' : List (List Char)) : Prop :=
  ∀ n, IsFileName n → hasExtension exts n = hasExtension exts' n

theorem subset_of_sameNames {a b : String} (h : SameNames (extensions a) (extensions b)) {e : List Char}
    (hfits : Fits e) (he : e ∈ extensions a) : e ∈ extensions b := by
  obtain ⟨n, hn, hsuffix⟩ := hfits
  have hb : hasExtension (extensions b) n = true := by
    rw [← h n hn]
    exact hasExtension_iff.2 ⟨e, he, hsuffix⟩
  obtain ⟨e', he', hsuffix'⟩ := hasExtension_iff.1 hb
  -- a name has one extension
  rwa [(Job.isExtension_extensions he).unique (Job.isExtension_extensions he') hsuffix hsuffix']

/-- **The same names are taken if the extensions that files can have are the same.** -/
theorem sameNames_extensions_iff {a b : String} :
    SameNames (extensions a) (extensions b) ↔ ∀ e, Fits e → (e ∈ extensions a ↔ e ∈ extensions b) := by
  constructor
  · intro h e hfits
    exact ⟨subset_of_sameNames h hfits, subset_of_sameNames (fun n hn => (h n hn).symm) hfits⟩
  · intro h n hn
    rw [Bool.eq_iff_iff, hasExtension_iff, hasExtension_iff]
    refine exists_congr fun e => and_congr_left fun hsuffix => h e ⟨n, hn, hsuffix⟩

/-! ## Searches -/

/-- A search comes by the same candidates. -/
theorem candidates_congr {t : FileTree} {exts exts' : List (List Char)} (h : SameNames exts exts')
    (recursive : Bool) (folder : String) :
    candidates t exts recursive folder = candidates t exts' recursive folder := by
  rw [candidates_eq, candidates_eq]
  cases hscanned : scanned t recursive folder with
  | error e => rfl
  | ok paths =>
      refine congrArg Except.ok (List.filter_congr fun p hp => ?_)
      obtain ⟨root, n, rfl, hn⟩ := exists_of_mem_scanned hscanned hp
      rw [name_join root hn.1.slash]
      exact h n hn

end CodeFlow.Selection
