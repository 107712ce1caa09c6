import Mathlib
import CodeFlow.Proofs.Source.Parser
import CodeFlow.Source.Imports

/-!
# `CodeFlow.Proofs.Source.Imports` — the imports of a program are those of its statements

Imports are listed by depth, which is an order that no statement has. What is listed can be told without it: a
module is listed just if a statement names it, however deep that stands.

## Contents
- `Stmt.named`: the modules that a statement names.
- `mem_importLevels_iff`: a statement and its blocks.
- `mem_imports_iff`: imports at any depth of a program.
-/

namespace CodeFlow.Source

/-- The modules that a statement names, apart from those in its blocks. -/
def Stmt.named : Stmt → List Import
  | .importModules names => names.map fun a => ⟨0, a.name⟩
  | .importFrom level module _ => [⟨level, module.getD ""⟩]
  | _ => []

variable {body : List Stmt} {s : Stmt} {i : Import}

/-! ## Levels -/

theorem mem_mergeLevels {α : Type} {x : α} {xs ys : List (List α)} :
    x ∈ (mergeLevels xs ys).flatten ↔ x ∈ xs.flatten ∨ x ∈ ys.flatten := by
  fun_induction mergeLevels xs ys with
  | case1 ys => simp
  | case2 xs => simp
  | case3 a xs b ys ih =>
      simp only [List.flatten_cons, List.mem_append, ih]
      tauto

theorem mem_imports : i ∈ imports body ↔ ∃ s ∈ body, i ∈ s.importLevels.flatten := by
  unfold imports
  induction body with
  | nil => simp [listImportLevels]
  | cons s rest ih =>
      rw [listImportLevels, mem_mergeLevels, ih]
      simp

theorem mem_handlerImportLevels {handlers : List Handler} :
    i ∈ (handlerImportLevels handlers).flatten ↔ ∃ h ∈ handlers, i ∈ imports h.body := by
  induction handlers with
  | nil => simp [handlerImportLevels]
  | cons h rest ih =>
      obtain ⟨type, name, body⟩ := h
      rw [handlerImportLevels, mem_mergeLevels, ih]
      simp [imports, Handler.body]

theorem mem_caseImportLevels {cases : List MatchCase} :
    i ∈ (caseImportLevels cases).flatten ↔ ∃ c ∈ cases, i ∈ imports c.body := by
  induction cases with
  | nil => simp [caseImportLevels]
  | cons c rest ih =>
      obtain ⟨pattern, guard, body⟩ := c
      rw [caseImportLevels, mem_mergeLevels, ih]
      simp [imports, MatchCase.body]

/-- What a statement imports is what it names and what its blocks import. -/
theorem mem_importLevels_iff :
    i ∈ s.importLevels.flatten ↔ i ∈ s.named ∨ ∃ block ∈ s.blocks, i ∈ imports block := by
  -- a statement with blocks names nothing itself
  have hpair : ∀ a b : List Stmt, i ∈ ([] :: mergeLevels (listImportLevels a) (listImportLevels b)).flatten ↔
      ∃ block ∈ [a, b], i ∈ imports block := by
    intro a b
    rw [List.flatten_cons, List.nil_append, mem_mergeLevels]
    simp [imports]
  cases s with
  | importModules names => simp [Stmt.importLevels, Stmt.named, Stmt.blocks]
  | importFrom level module names => simp [Stmt.importLevels, Stmt.named, Stmt.blocks]
  | cond test body orElse => exact (hpair body orElse).trans (or_iff_right List.not_mem_nil).symm
  | whileLoop test body orElse => exact (hpair body orElse).trans (or_iff_right List.not_mem_nil).symm
  | forLoop async target iter body orElse => exact (hpair body orElse).trans (or_iff_right List.not_mem_nil).symm
  | withContexts => simp [Stmt.importLevels, Stmt.named, Stmt.blocks, imports]
  | function => simp [Stmt.importLevels, Stmt.named, Stmt.blocks, imports]
  | classDef => simp [Stmt.importLevels, Stmt.named, Stmt.blocks, imports]
  | tryBlock star body handlers orElse atEnd =>
      simp only [Stmt.importLevels, Stmt.named, Stmt.blocks, List.flatten_cons, List.nil_append, mem_mergeLevels,
        mem_handlerImportLevels, List.mem_cons, List.mem_map, List.not_mem_nil, false_or, exists_eq_or_imp]
      simp only [exists_exists_and_eq_and]
      -- the handlers stand in another place
      refine or_congr_right ?_
      rw [or_comm, or_assoc]
      rfl
  | matchCases subject cases =>
      simp only [Stmt.importLevels, Stmt.named, Stmt.blocks, List.flatten_cons, List.nil_append,
        mem_caseImportLevels, List.mem_map, List.not_mem_nil, false_or, exists_exists_and_eq_and]
  | _ => simp [Stmt.importLevels, Stmt.named, Stmt.blocks]

/-! ## Programs -/

/-- A block is smaller than a program that it stands in. -/
theorem sizeOf_block_lt (hs : s ∈ body) {block : List Stmt} (hblock : block ∈ s.blocks) :
    sizeOf block < sizeOf body := by
  have hbody : sizeOf s < sizeOf body := List.sizeOf_lt_of_mem hs
  have hinside : sizeOf block < sizeOf s := by
    cases s <;> simp only [Stmt.blocks, List.mem_cons, List.mem_map, List.not_mem_nil, or_false] at hblock
    case cond =>
      rcases hblock with rfl | rfl
      · simp
        omega
      · simp
    case whileLoop =>
      rcases hblock with rfl | rfl
      · simp
        omega
      · simp
    case forLoop =>
      rcases hblock with rfl | rfl
      · simp
        omega
      · simp
    case withContexts => simp [hblock]
    case function => simp [hblock]
    case classDef => simp [hblock]
    case tryBlock =>
      rcases hblock with rfl | rfl | rfl | ⟨⟨type, name, inner⟩, hh, rfl⟩
      · simp
        omega
      · simp
        omega
      · simp
      · have hhandler := List.sizeOf_lt_of_mem hh
        simp [Handler.body] at hhandler ⊢
        omega
    case matchCases =>
      obtain ⟨⟨pattern, guard, inner⟩, hc, rfl⟩ := hblock
      have hcase := List.sizeOf_lt_of_mem hc
      simp [MatchCase.body] at hcase ⊢
      omega
  exact Nat.lt_trans hinside hbody

theorem mem_imports_of_inside (h : Inside body s) (hi : i ∈ s.named) : i ∈ imports body := by
  induction h with
  | here hs => exact mem_imports.2 ⟨_, hs, mem_importLevels_iff.2 (.inl hi)⟩
  | deeper ht hblock _ ih => exact mem_imports.2 ⟨_, ht, mem_importLevels_iff.2 (.inr ⟨_, hblock, ih hi⟩)⟩

theorem exists_inside_of_mem_imports {body : List Stmt} (h : i ∈ imports body) :
    ∃ s, Inside body s ∧ i ∈ s.named := by
  obtain ⟨t, ht, hi⟩ := mem_imports.1 h
  rcases mem_importLevels_iff.1 hi with hnamed | ⟨block, hblock, hi⟩
  · exact ⟨t, .here ht, hnamed⟩
  · have hsmaller := sizeOf_block_lt ht hblock
    obtain ⟨s, hs, hnamed⟩ := exists_inside_of_mem_imports hi
    exact ⟨s, .deeper ht hblock hs, hnamed⟩
termination_by sizeOf body

/-- **Imports are found at any depth**, and nothing else is. -/
theorem mem_imports_iff : i ∈ imports body ↔ ∃ s, Inside body s ∧ i ∈ s.named :=
  ⟨exists_inside_of_mem_imports, fun ⟨_, hs, hi⟩ => mem_imports_of_inside hs hi⟩

end CodeFlow.Source
