import Mathlib

/-!
# `CodeFlow.Proofs.DepthFirst` — the order in which a search lists what it finds

A depth-first search goes through some elements from left to right. Into each one that was not met before it
goes at once, with all that lies behind it, and only then to the next: what it finds is listed in preorder.
`Lists` says so as a relation, so that nothing is said of how deep a search may go: a derivation of it *is* a
search that has come to its end.

Two things make the relation a specification. It fixes the list (`Lists.unique`), and what is listed is
what can be reached without passing through anything that was met before (`Lists.mem_iff`). For the second
no path has to be followed through the search: what is listed is closed (`Lists.closed`), and a path cannot
leave a closed set.

## Contents
- `Reaches`: paths on which nothing was met before.
- `Lists`: the order of a search; `Lists.cons`, `Lists.unique`.
- `Lists.fresh`, `Lists.nodup`, `Lists.closed`, `Lists.mem_iff`: what is listed.
-/

namespace CodeFlow.DepthFirst

variable {α : Type}

/-! ## Paths -/

/-- `y` is reached from `x` by a path on which nothing was met before, its two ends included. -/
def Reaches (joins : α → α → Prop) (met : List α) (x y : α) : Prop :=
  x ∉ met ∧ Relation.ReflTransGen (fun a b => joins a b ∧ b ∉ met) x y

namespace Reaches

variable {joins : α → α → Prop} {met met' : List α} {x y z : α}

theorem refl (hx : x ∉ met) : Reaches joins met x x := ⟨hx, .refl⟩

/-- A path that avoids more avoids less. -/
theorem mono (hsub : met ⊆ met') (h : Reaches joins met' x y) : Reaches joins met x y := by
  obtain ⟨hx, hpath⟩ := h
  refine ⟨fun hm => hx (hsub hm), ?_⟩
  apply Relation.ReflTransGen.mono _ _ _ hpath
  intro a b hab
  exact ⟨hab.1, fun hm => hab.2 (hsub hm)⟩

/-- A step in front of a path. -/
theorem head (hx : x ∉ met) (hjoin : joins x y) (h : Reaches joins met y z) : Reaches joins met x z :=
  ⟨hx, .head ⟨hjoin, h.1⟩ h.2⟩

/-- A path does not leave what is closed. -/
theorem mem_of_closed {s : Set α} (hs : ∀ a ∈ s, ∀ b, joins a b → b ∉ met → b ∈ s) (hx : x ∈ s)
    (h : Reaches joins met x y) : y ∈ s := by
  obtain ⟨-, hpath⟩ := h
  induction hpath with
  | refl => exact hx
  | tail _ hab ih => exact hs _ ih _ hab.1 hab.2

end Reaches

/-! ## The order of a search -/

/-- `Lists next met xs out`: a search that met `met` before, and goes through `xs` and all that lies behind
by `next`, lists `out`: each element in front of what was found behind it. -/
inductive Lists (next : α → List α) : List α → List α → List α → Prop where
  /-- There is nothing to go through. -/
  | nil {met : List α} : Lists next met [] []
  /-- What was met is passed over. -/
  | skip {met : List α} {x : α} {xs out : List α} (hx : x ∈ met) (rest : Lists next met xs out) :
      Lists next met (x :: xs) out
  /-- What was not met is listed, then what lies behind it, and then the rest. -/
  | enter {met : List α} {x : α} {xs below out : List α} (hx : x ∉ met)
      (inside : Lists next (met ++ [x]) (next x) below) (rest : Lists next (met ++ x :: below) xs out) :
      Lists next met (x :: xs) (x :: below ++ out)

namespace Lists

variable {next : α → List α} {met xs out : List α}

theorem single_of_mem {x : α} (hx : x ∈ met) : Lists next met [x] [] := skip hx nil

theorem single {x : α} {below : List α} (hx : x ∉ met)
    (inside : Lists next (met ++ [x]) (next x) below) : Lists next met [x] (x :: below) := by
  have h : Lists next met [x] (x :: below ++ []) := enter hx inside nil
  rwa [List.append_nil] at h

/-- A search goes through the first element and then, with what it met there, through the others. -/
theorem cons {x : α} {first rest : List α} (hfirst : Lists next met [x] first)
    (hrest : Lists next (met ++ first) xs rest) : Lists next met (x :: xs) (first ++ rest) := by
  cases hfirst with
  | skip hx hnil =>
      cases hnil
      rw [List.append_nil] at hrest
      exact skip hx hrest
  | enter hx inside hnil =>
      cases hnil
      rw [List.append_nil] at hrest ⊢
      exact enter hx inside hrest

/-- **The order is fixed**: two searches that met the same list the same. -/
theorem unique {out' : List α} (h : Lists next met xs out) (h' : Lists next met xs out') :
    out = out' := by
  induction h generalizing out' with
  | nil => cases h'; rfl
  | skip hx rest ih =>
      cases h' with
      | skip _ rest' => exact ih rest'
      | enter hx' _ _ => exact absurd hx hx'
  | enter hx inside rest ihInside ihRest =>
      cases h' with
      | skip hx' _ => exact absurd hx' hx
      | enter _ inside' rest' =>
          obtain rfl := ihInside inside'
          rw [ihRest rest']

/-! ## What is listed -/

/-- Nothing is listed that was met before. -/
theorem fresh (h : Lists next met xs out) : ∀ y ∈ out, y ∉ met := by
  induction h with
  | nil => simp
  | skip _ _ ih => exact ih
  | enter hx inside rest ihInside ihRest =>
      intro y hy hmet
      rw [List.cons_append, List.mem_cons, List.mem_append] at hy
      rcases hy with rfl | hbelow | hout
      · exact hx hmet
      · exact ihInside y hbelow (List.mem_append_left _ hmet)
      · exact ihRest y hout (List.mem_append_left _ hmet)

/-- **Nothing is listed twice.** -/
theorem nodup (h : Lists next met xs out) : out.Nodup := by
  induction h with
  | nil => exact List.nodup_nil
  | skip _ _ ih => exact ih
  | @enter met x xs below out hx inside rest ihInside ihRest =>
      -- what was listed counts as met for all that comes later
      have hinside : x ∉ below := fun hmem => inside.fresh x hmem (by simp)
      refine (List.nodup_cons.2 ⟨hinside, ihInside⟩).append ihRest ?_
      intro y hy hout
      exact rest.fresh y hout (List.mem_append_right _ hy)

/-- What a search goes through was met before or is listed. -/
theorem covers (h : Lists next met xs out) : xs ⊆ met ++ out := by
  induction h with
  | nil => simp
  | skip hx rest ih =>
      intro y hy
      rcases List.mem_cons.1 hy with rfl | hy
      · exact List.mem_append_left _ hx
      · exact ih hy
  | enter hx inside rest ihInside ihRest =>
      intro y hy
      rcases List.mem_cons.1 hy with rfl | hy
      · simp
      · have := ihRest hy
        rwa [List.append_assoc] at this

/-- **What is listed is closed**: what lies behind it was met before or is listed as well. -/
theorem closed (h : Lists next met xs out) : ∀ y ∈ out, next y ⊆ met ++ out := by
  induction h with
  | nil => simp
  | skip _ _ ih => exact ih
  | @enter met x xs below out hx inside rest ihInside ihRest =>
      have hgrow : met ++ [x] ++ below ⊆ met ++ (x :: below ++ out) := by
        intro z hz
        simp only [List.mem_append, List.mem_cons, List.not_mem_nil, or_false] at hz ⊢
        tauto
      intro y hy
      rw [List.cons_append, List.mem_cons, List.mem_append] at hy
      rcases hy with rfl | hbelow | hout
      · exact List.Subset.trans inside.covers hgrow
      · exact List.Subset.trans (ihInside y hbelow) hgrow
      · rw [← List.append_assoc]
        exact ihRest y hout

/-- Only what can be reached is listed. -/
theorem exists_reaches (h : Lists next met xs out) :
    ∀ y ∈ out, ∃ x ∈ xs, Reaches (fun a b => b ∈ next a) met x y := by
  induction h with
  | nil => simp
  | skip _ _ ih =>
      intro y hy
      obtain ⟨x, hx, hpath⟩ := ih y hy
      exact ⟨x, List.mem_cons_of_mem _ hx, hpath⟩
  | @enter met x xs below out hx inside rest ihInside ihRest =>
      intro y hy
      rw [List.cons_append, List.mem_cons, List.mem_append] at hy
      rcases hy with rfl | hbelow | hout
      · exact ⟨_, List.mem_cons_self, .refl hx⟩
      · obtain ⟨z, hz, hpath⟩ := ihInside y hbelow
        exact ⟨x, List.mem_cons_self, .head hx hz (hpath.mono (List.subset_append_left _ _))⟩
      · obtain ⟨z, hz, hpath⟩ := ihRest y hout
        exact ⟨z, List.mem_cons_of_mem _ hz, hpath.mono (List.subset_append_left _ _)⟩

/-- **What is listed is what can be reached** without passing through anything that was met before. -/
theorem mem_iff (h : Lists next met xs out) {y : α} :
    y ∈ out ↔ ∃ x ∈ xs, Reaches (fun a b => b ∈ next a) met x y := by
  constructor
  · exact h.exists_reaches y
  · rintro ⟨x, hx, hpath⟩
    have hlisted : ∀ z ∈ met ++ out, z ∉ met → z ∈ out := fun z hz hnew =>
      (List.mem_append.1 hz).resolve_left hnew
    refine hpath.mem_of_closed (s := {z | z ∈ out}) ?_ (hlisted x (h.covers hx) hpath.1)
    intro a ha b hjoin hnew
    exact hlisted b (h.closed a ha hjoin) hnew

end Lists

end CodeFlow.DepthFirst
