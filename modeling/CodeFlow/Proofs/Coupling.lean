import Mathlib

/-!
# `CodeFlow.Proofs.Coupling` — what computations do to their states

Two ways to speak of the states that stateful computations go through: a property that one computation keeps,
and two computations side by side that lead related states to related values and states.

## Contents
- `run_bind_of_eq`: one computation, step by step.
- `Preserves`: what one computation keeps.
- `Coupled`: two computations side by side; `Coupled.bind`.
- `Parallel`: two computations that give the same value and keep their states related.
-/

namespace CodeFlow

/-- What comes first has a known end. -/
theorem run_bind_of_eq {σ α β : Type} {a : StateM σ α} {f : α → StateM σ β} {s s' : σ} {x : α}
    (h : a.run s = (x, s')) : (a >>= f).run s = (f x).run s' := by
  rw [StateT.run_bind, h]
  rfl

/-- A property of the state is kept. -/
def Preserves {σ α : Type} (I : σ → Prop) (a : StateM σ α) : Prop := ∀ s, I s → I (a.run s).2

section Preserves
variable {σ α β : Type} {I : σ → Prop}

theorem preserves_pure (x : α) : Preserves I (pure x : StateM σ α) := fun _ h => h

theorem Preserves.bind {a : StateM σ α} {f : α → StateM σ β} (ha : Preserves I a)
    (hf : ∀ x, Preserves I (f x)) : Preserves I (a >>= f) := by
  intro s hs
  rw [StateT.run_bind]
  exact hf _ _ (ha s hs)

end Preserves

/-- Two computations side by side: if their states are related by `P`, then the values they give and the
states they end in are related by `Q`. -/
def Coupled {σ τ α β : Type} (P : σ → τ → Prop) (a : StateM σ α) (b : StateM τ β)
    (Q : α → β → σ → τ → Prop) : Prop :=
  ∀ s t, P s t → Q (a.run s).1 (b.run t).1 (a.run s).2 (b.run t).2

namespace Coupled
variable {σ τ α β γ δ : Type} {P : σ → τ → Prop} {a : StateM σ α} {b : StateM τ β}
  {Q : α → β → σ → τ → Prop} {R : γ → δ → σ → τ → Prop}

theorem pure {x : α} {y : β} (h : ∀ s t, P s t → Q x y s t) :
    Coupled P (Pure.pure x) (Pure.pure y) Q :=
  h

/-- One of them may go on alone. -/
theorem of_preserves {x : α} (h : ∀ s, Preserves (P s) b) : Coupled P (Pure.pure x) b fun _ _ => P :=
  fun s t hst => h s t hst

/-- It may be known more of the states before. -/
theorem pre {P' : σ → τ → Prop} (hab : Coupled P' a b Q) (h : ∀ s t, P s t → P' s t) : Coupled P a b Q :=
  fun s t hst => hab s t (h s t hst)

theorem bind {f : α → StateM σ γ} {g : β → StateM τ δ} (hab : Coupled P a b Q)
    (hfg : ∀ x y, Coupled (Q x y) (f x) (g y) R) : Coupled P (a >>= f) (b >>= g) R := by
  intro s t h
  rw [StateT.run_bind, StateT.run_bind]
  exact hfg _ _ _ _ (hab s t h)

/-- Where both give the same value, they go on from it. -/
theorem bind_eq {α : Type} {a : StateM σ α} {b : StateM τ α} {P' : σ → τ → Prop} {f : α → StateM σ γ}
    {g : α → StateM τ δ} (hab : Coupled P a b fun x y s t => x = y ∧ P' s t)
    (hfg : ∀ x, Coupled P' (f x) (g x) R) : Coupled P (a >>= f) (b >>= g) R := by
  refine hab.bind fun x y => ?_
  rintro s t ⟨rfl, h⟩
  exact hfg x s t h

/-- Where both read their states, these are related. -/
theorem get_bind {f : σ → StateM σ γ} {g : τ → StateM τ δ}
    (hfg : ∀ x y, P x y → Coupled P (f x) (g y) R) : Coupled P (get >>= f) (get >>= g) R :=
  fun s t h => hfg s t h s t h

end Coupled

/-- Two computations that give the same value and keep their states related. -/
def Parallel {σ τ α : Type} (P : σ → τ → Prop) (a : StateM σ α) (b : StateM τ α) : Prop :=
  Coupled P a b fun x y s t => x = y ∧ P s t

namespace Parallel
variable {σ τ α β : Type} {P : σ → τ → Prop} {a : StateM σ α} {b : StateM τ α}

theorem pure (x : α) : Parallel P (Pure.pure x) (Pure.pure x) := Coupled.pure fun _ _ h => ⟨rfl, h⟩

theorem bind {f : α → StateM σ β} {g : α → StateM τ β} (hab : Parallel P a b)
    (hfg : ∀ x, Parallel P (f x) (g x)) : Parallel P (a >>= f) (b >>= g) :=
  Coupled.bind_eq hab hfg

end Parallel

end CodeFlow
