import Mathlib
import CodeFlow.Source.Printer

/-!
# `CodeFlow.Proofs.Source.Printer` — which statements have a text

Printing fails at a piece that cannot be printed, wherever it stands. So a statement has a text only if all
statements in it have one, and the depth that it is printed at does not matter.

## Contents
- `Piece.arePrintable_append`: pieces one after the other.
- `arePrintable_depth`: the depth does not matter.
- `Stmt.HasText`; `hasText_iff`, `isSome_program?_iff`: statements and programs with a text.
- `Stmt.inside`, `Stmt.HasText.inside`: the statements in a statement.
-/

namespace CodeFlow.Source

namespace Piece

@[simp]
theorem arePrintable_nil : arePrintable [] = true := by rw [arePrintable]

@[simp]
theorem arePrintable_cons (p : Piece) (ps : List Piece) :
    arePrintable (p :: ps) = (isPrintable p && arePrintable ps) := by
  rw [arePrintable]

@[simp]
theorem arePrintable_append (ps qs : List Piece) :
    arePrintable (ps ++ qs) = (arePrintable ps && arePrintable qs) := by
  induction ps with
  | nil => simp
  | cons p ps ih => simp [ih, Bool.and_assoc]

@[simp]
theorem isPrintable_text (s : String) : isPrintable (text s) = true := by rw [isPrintable]

end Piece

open Piece

/-- A line has a text at any depth. -/
@[simp]
theorem isPrintable_fill (depth : Nat) (s : String) : isPrintable (fill depth s) = true := by rw [fill, isPrintable]

theorem arePrintable_decoratorPieces (d d' : Nat) (decorators : List Expr) :
    arePrintable (decoratorPieces d decorators) = arePrintable (decoratorPieces d' decorators) := by
  unfold decoratorPieces
  induction decorators with
  | nil => rfl
  | cons e es ih => simp [ih]

/-! ## Depths -/

/-- Statements, and what statements are made of, can be printed at any depth if they can be at one. -/
theorem arePrintable_depth :
    (∀ d (s : Stmt) d', arePrintable (s.pieces d) = arePrintable (s.pieces d')) ∧
      (∀ d cases d', arePrintable (casePieces d cases) = arePrintable (casePieces d' cases)) ∧
      (∀ d body d', arePrintable (blockPieces d body) = arePrintable (blockPieces d' body)) ∧
      (∀ d handlers d', arePrintable (handlerPieces d handlers) = arePrintable (handlerPieces d' handlers)) ∧
      (∀ d line body d', arePrintable (elsePieces d line body) = arePrintable (elsePieces d' line body)) ∧
      ∀ d body d', arePrintable (elifPieces d body) = arePrintable (elifPieces d' body) := by
  refine Stmt.pieces.mutual_induct _ _ _ _ _ _ ?expr ?assign ?augAssign ?declare ?ret ?pass ?breakLoop ?continueLoop
    ?delete ?check ?globals ?nonlocals ?raise ?importModules ?importFrom ?cond ?whileLoop ?forLoop ?withContexts
    ?tryBlock ?function ?classDef ?matchCases ?nil ?cons ?elseNil ?elseCons ?elifNil ?elif ?elifElse ?handlersNil
    ?handler ?casesNil ?matchCase
  case cond =>
    intro d test body orElse hbody helse d'
    simp [Stmt.pieces, hbody (d' + 1), helse d']
  case whileLoop =>
    intro d test body orElse hbody helse d'
    simp [Stmt.pieces, hbody (d' + 1), helse d']
  case forLoop =>
    intro d isAsync target iterable body orElse hbody helse d'
    simp [Stmt.pieces, hbody (d' + 1), helse d']
  case withContexts =>
    intro d isAsync items body hbody d'
    simp [Stmt.pieces, hbody (d' + 1)]
  case tryBlock =>
    intro d isGroup body handlers orElse atEnd hbody hhandlers helse hend d'
    simp [Stmt.pieces, hbody (d' + 1), hhandlers d', helse d', hend d']
  case function =>
    intro d isAsync name params returns decorators body hbody d'
    simp [Stmt.pieces, hbody (d' + 1), arePrintable_decoratorPieces d d']
  case classDef =>
    intro d name bases keywords decorators body hbody d'
    simp [Stmt.pieces, hbody (d' + 1), arePrintable_decoratorPieces d d']
  case matchCases =>
    intro d subject cases hcases d'
    simp [Stmt.pieces, hcases d']
  case cons =>
    intro d s rest hs hrest d'
    simp [blockPieces, hs d', hrest d']
  case elseCons =>
    intro d line s rest hs hrest d'
    simp [elsePieces, hs (d' + 1), hrest (d' + 1)]
  case elif =>
    intro d test body orElse hbody helse d'
    simp [elifPieces, hbody (d' + 1), helse d']
  case elifElse =>
    intro d s rest hother hs hrest d'
    rw [elifPieces, elifPieces]
    · simp [hs (d' + 1), hrest (d' + 1)]
    all_goals exact hother
  case handler =>
    intro d type name body rest hbody hrest d'
    simp [handlerPieces, hbody (d' + 1), hrest d']
  case matchCase =>
    intro d p guard body rest hbody hrest d'
    simp [casePieces, hbody d', hrest d']
  case nil | elseNil | elifNil | handlersNil | casesNil =>
    intros
    simp [blockPieces, elsePieces, elifPieces, handlerPieces, casePieces]
  -- the other forms have no statements in them
  all_goals
    intros
    simp [Stmt.pieces]

/-! ## Texts -/

/-- A statement has a text. -/
def Stmt.HasText (s : Stmt) : Prop := s.source?.isSome = true

theorem isSome_strippedText? (ps : List Piece) : (strippedText? ps).isSome = arePrintable ps := by
  rw [strippedText?, print?]
  by_cases h : arePrintable ps = true
  · simp [h]
  · simp [h]

theorem hasText_iff {s : Stmt} (d : Nat) : s.HasText ↔ arePrintable (s.pieces d) = true := by
  rw [Stmt.HasText, Stmt.source?, isSome_strippedText?, arePrintable_depth.1 0 s d]

theorem arePrintable_blockPieces_iff {d : Nat} {body : List Stmt} :
    arePrintable (blockPieces d body) = true ↔ ∀ s ∈ body, s.HasText := by
  induction body with
  | nil => simp [blockPieces]
  | cons s rest ih => simp [blockPieces, ih, hasText_iff d]

/-- What follows the body of a condition is printed if it can be as a block. -/
theorem arePrintable_elifPieces (d : Nat) (body : List Stmt) :
    arePrintable (elifPieces d body) = arePrintable (blockPieces d body) := by
  fun_cases elifPieces d body with
  | case1 => simp [blockPieces]
  | case2 test body orElse => simp [blockPieces, Stmt.pieces]
  | case3 s rest hother =>
      simp [blockPieces, arePrintable_depth.1 (d + 1) s d, arePrintable_depth.2.2.1 (d + 1) rest d]

/-- The statements in the blocks that a chart goes into. -/
def Stmt.inside : Stmt → List Stmt
  | .cond _ body orElse => body ++ orElse
  | .whileLoop _ body _ => body
  | .forLoop _ _ _ body _ => body
  | .function _ _ _ _ _ body => body
  | _ => []

/-- Where a statement has a text, the statements in it have. -/
theorem Stmt.HasText.inside {s : Stmt} (h : s.HasText) : ∀ t ∈ s.inside, t.HasText := by
  rw [hasText_iff 0] at h
  cases s with
  | cond test body orElse =>
      simp only [Stmt.pieces, arePrintable_cons, arePrintable_append, arePrintable_elifPieces, Bool.and_eq_true] at h
      intro t ht
      rcases List.mem_append.1 ht with ht | ht
      · exact arePrintable_blockPieces_iff.1 h.1.2.2 t ht
      · exact arePrintable_blockPieces_iff.1 h.2 t ht
  | whileLoop test body orElse =>
      simp only [Stmt.pieces, arePrintable_cons, arePrintable_append, Bool.and_eq_true] at h
      exact arePrintable_blockPieces_iff.1 h.1.2.2
  | forLoop isAsync target iterable body orElse =>
      simp only [Stmt.pieces, arePrintable_cons, arePrintable_append, Bool.and_eq_true] at h
      exact arePrintable_blockPieces_iff.1 h.1.2.2
  | function isAsync name params returns decorators body =>
      simp only [Stmt.pieces, arePrintable_cons, arePrintable_append, Bool.and_eq_true] at h
      exact arePrintable_blockPieces_iff.1 h.2.2
  | _ => simp [Stmt.inside]

end CodeFlow.Source
