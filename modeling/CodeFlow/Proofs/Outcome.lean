import Mathlib
import CodeFlow.Source.Parser.Basic

/-!
# `CodeFlow.Proofs.Outcome` — what computations give back

`SatisfiesM p a` says that whatever `a` gives back has the property `p`, from whatever state it starts.
This module adds what the library has not: readings of it for the two kinds of state that are used here,
and rules for parsers.

## Contents
- `satisfiesM_of_forall`, `satisfiesM_run`; `eq_ok_of_toOption`.
- `Source.Parser.satisfies_orElse`, `satisfies_many`, `satisfies_require`.
-/

namespace CodeFlow

/-- What comes first does not matter. -/
theorem satisfiesM_of_forall {m : Type → Type} [Monad m] [LawfulMonad m] {α β : Type} {p : β → Prop}
    {a : m α} {f : α → m β} (h : ∀ x, SatisfiesM p (f x)) : SatisfiesM p (a >>= f) :=
  SatisfiesM.bind_pre (SatisfiesM.of_true h)

theorem satisfiesM_run {σ α : Type} {p : α → Prop} {a : StateM σ α} :
    SatisfiesM p a ↔ ∀ s, p (a.run s).1 := by
  rw [SatisfiesM_StateT_eq]
  exact forall_congr' fun s => SatisfiesM_Id_eq

theorem eq_ok_of_toOption {ε α : Type} {x : Except ε α} {a : α} (h : x.toOption = some a) : x = .ok a := by
  cases x with
  | error e => simp [Except.toOption] at h
  | ok b => rw [Option.some.inj h]

namespace Source.Parser

variable {α : Type} {p : α → Prop}

theorem satisfies_iff {a : Parser α} :
    SatisfiesM p a ↔ ∀ ts r, a.run ts = some r → p r.1 := by
  rw [SatisfiesM_StateT_eq]
  exact forall_congr' fun ts => SatisfiesM_Option_eq

theorem satisfies_failure : SatisfiesM p (failure : Parser α) := by
  rw [satisfies_iff]
  intro ts r h
  simp at h

theorem satisfies_orElse {a b : Parser α} (ha : SatisfiesM p a) (hb : SatisfiesM p b) :
    SatisfiesM p (a <|> b) := by
  rw [satisfies_iff] at *
  intro ts r h
  rw [StateT.run_orElse] at h
  cases hrun : a.run ts with
  | none => exact hb ts r (by simpa [hrun] using h)
  | some x =>
      have : x = r := by simpa [hrun] using h
      exact this ▸ ha ts x hrun

theorem satisfies_opt {a : Parser α} (ha : SatisfiesM p a) : SatisfiesM (∀ x ∈ ·, p x) (opt a) := by
  refine satisfies_orElse (ha.map fun {x} hx y hy => ?_) (SatisfiesM.pure (by simp))
  rwa [← Option.some.inj hy]

theorem satisfies_manyUpTo {a : Parser α} (ha : SatisfiesM p a) (n : Nat) :
    SatisfiesM (∀ x ∈ ·, p x) (manyUpTo a n) := by
  induction n with
  | zero => exact SatisfiesM.pure (by simp)
  | succ n ih =>
      refine (satisfies_opt ha).bind fun x hx => ?_
      cases x with
      | none => exact SatisfiesM.pure (by simp)
      | some x =>
          refine ih.bind fun xs hxs => SatisfiesM.pure ?_
          exact List.forall_mem_cons.2 ⟨hx x rfl, hxs⟩

theorem satisfies_many {a : Parser α} (ha : SatisfiesM p a) : SatisfiesM (∀ x ∈ ·, p x) (many a) :=
  satisfiesM_of_forall fun _ => satisfies_manyUpTo ha _

theorem satisfies_many1 {a : Parser α} (ha : SatisfiesM p a) : SatisfiesM (∀ x ∈ ·, p x) (many1 a) :=
  ha.bind fun _ hx => (satisfies_many ha).bind fun _ hxs => SatisfiesM.pure (List.forall_mem_cons.2 ⟨hx, hxs⟩)

/-- What is required holds from there on. -/
theorem satisfies_require {b : Bool} {f : Unit → Parser α} (h : b = true → SatisfiesM p (f ())) :
    SatisfiesM p (require b >>= f) := by
  unfold require
  split_ifs with hb
  · exact satisfiesM_of_forall fun _ => h hb
  · rw [satisfies_iff]
    intro ts r hr
    simp at hr

end Source.Parser

end CodeFlow
