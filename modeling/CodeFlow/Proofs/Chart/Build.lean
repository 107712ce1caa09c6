import Mathlib
import CodeFlow.Chart.Build
import CodeFlow.Chart.Walk
import CodeFlow.Proofs.Ident
import CodeFlow.Proofs.Source.Parser

/-!
# `CodeFlow.Proofs.Chart.Build` — the steps of a chart are told apart by their numbers

Links name the steps that they join, so no two steps may share a name. Names end in the number that a step
took from the supply, and the supply only goes up: the names of a chart lie between the number that it
started with and the number that it left, and so do not meet those of the charts before and after.

## Contents
- `Named`, `Spread`: names and the numbers in them.
- `Flow.places`, `Flow.Filled`, `Laid`: what a chart has to be for a walk through it.
- `From`: reasoning about computations that take numbers.
- `from_build_and_buildList`, `from_ofProgram`.
-/

namespace CodeFlow.Chart

open Source Ident

/-! ## Names -/

/-- A name with a number in it. -/
def Named (n : Nat) (name : String) : Prop := ∃ k : Kind, name = k.letters ++ toString n

theorem isAlpha_of_mem_letters {k : Kind} {c : Char} (hc : c ∈ k.letters.toList) : c.isAlpha = true := by
  have hall : ∀ k : Kind, k.letters.toList.all Char.isAlpha = true := by
    intro k
    cases k <;> rfl
  exact List.all_eq_true.1 (hall k) c hc

theorem isDigit_of_isAlpha {c : Char} (h : c.isAlpha = true) : c.isDigit = false := by
  simp only [Char.isAlpha, Char.isUpper, Char.isLower, Char.isDigit, Bool.or_eq_true,
    decide_eq_true_eq, Bool.and_eq_true, Bool.and_eq_false_iff, decide_eq_false_iff_not] at *
  grind

namespace Named

variable {n m : Nat} {name : String}

theorem filter_isDigit (h : Named n name) : name.toList.filter Char.isDigit = (toString n).toList := by
  obtain ⟨k, rfl⟩ := h
  have hletters : k.letters.toList.filter Char.isDigit = [] := by
    simpa using fun c hc => isDigit_of_isAlpha (isAlpha_of_mem_letters hc)
  rw [String.toList_append, List.filter_append, hletters, List.nil_append]
  exact List.filter_eq_self.2 fun c hc => isDigit_of_mem_toString hc

/-- The number can be read off the name. -/
theorem inj (hn : Named n name) (hm : Named m name) : n = m :=
  Nat.repr_injective (String.toList_inj.1 (hn.filter_isDigit.symm.trans hm.filter_isDigit))

theorem isAlphanum (h : Named n name) {c : Char} (hc : c ∈ name.toList) : c.isAlphanum = true := by
  obtain ⟨k, rfl⟩ := h
  rw [String.toList_append, List.mem_append] at hc
  rcases hc with hc | hc
  · simp [Char.isAlphanum, isAlpha_of_mem_letters hc]
  · simp [Char.isAlphanum, isDigit_of_mem_toString hc]

end Named

/-- The names of some steps are distinct, and their numbers lie from `a` up to `b`. Only where conditions are
aligned is any of the steps kept apart. -/
structure Spread (align : Bool) (a b : Nat) (l : List Stop) : Prop where
  /-- The names are distinct. -/
  nodup : (l.map (·.step.name)).Nodup
  /-- They are numbered. -/
  named : ∀ s ∈ l, ∃ n, a ≤ n ∧ n < b ∧ Named n s.step.name
  /-- The steps that are kept apart. -/
  aligned : ∀ s ∈ l, s.apart = true → align = true

namespace Spread

variable {align : Bool} {a b c : Nat} {l l' : List Stop}

theorem nil : Spread align a b [] := ⟨by simp, by simp, by simp⟩

theorem mono (h : Spread align a b l) {a' b' : Nat} (ha : a' ≤ a) (hb : b ≤ b') : Spread align a' b' l := by
  refine ⟨h.nodup, fun s hs => ?_, h.aligned⟩
  obtain ⟨n, hn, hn', hname⟩ := h.named s hs
  exact ⟨n, by omega, by omega, hname⟩

theorem sublist (h : Spread align a b l) (hsub : l'.Sublist l) : Spread align a b l' :=
  ⟨h.nodup.sublist (hsub.map _), fun s hs => h.named s (hsub.subset hs),
    fun s hs => h.aligned s (hsub.subset hs)⟩

/-- Steps that were numbered later have other names. -/
theorem append (h : Spread align a b l) (h' : Spread align b c l') (hab : a ≤ b) (hbc : b ≤ c) :
    Spread align a c (l ++ l') := by
  constructor
  · rw [List.map_append]
    refine h.nodup.append h'.nodup fun name hname hname' => ?_
    obtain ⟨s, hs, rfl⟩ := List.mem_map.1 hname
    obtain ⟨s', hs', heq⟩ := List.mem_map.1 hname'
    obtain ⟨n, -, hn, hs⟩ := h.named s hs
    obtain ⟨m, hm, -, hs'⟩ := h'.named s' hs'
    have : n = m := hs.inj (heq ▸ hs')
    omega
  · intro s hs
    rcases List.mem_append.1 hs with hs | hs
    · exact (h.mono le_rfl hbc).named s hs
    · exact (h'.mono hab le_rfl).named s hs
  · exact fun s hs => (List.mem_append.1 hs).elim (h.aligned s) (h'.aligned s)

/-- Two steps of one name are one step. -/
theorem eq_of_name (h : Spread align a b l) {s t : Stop} (hs : s ∈ l) (ht : t ∈ l)
    (hname : s.step.name = t.step.name) : s = t :=
  List.inj_on_of_nodup_map h.nodup hs ht hname

end Spread

/-! ## Charts -/

mutual

/-- The steps of a part of a chart, in the order of their numbers. -/
def Flow.places : Flow → List Stop
  | .step s | .merged s | .jump s => [⟨s, false⟩]
  | .ret output finish => ⟨finish, false⟩ :: output.toList.map (⟨·, false⟩)
  | .branch cond apart _ yes no => ⟨cond, apart⟩ :: (allPlaces yes ++ allPlaces no)
  | .loop cond body => ⟨cond, false⟩ :: allPlaces body
  | .function start input body finish =>
    ⟨start, false⟩ :: ⟨input, false⟩ :: (allPlaces body ++ [⟨finish, false⟩])

/-- The steps of some parts. -/
def allPlaces : List Flow → List Stop
  | [] => []
  | f :: fs => f.places ++ allPlaces fs

end

mutual

/-- Wherever a part leads inside, there is something. -/
def Flow.Filled : Flow → Prop
  | .branch _ _ _ yes no => yes ≠ [] ∧ Flow.AllFilled yes ∧ Flow.AllFilled no
  | .loop _ body => body ≠ [] ∧ Flow.AllFilled body
  | .function _ _ body _ => body ≠ [] ∧ Flow.AllFilled body
  | _ => True

/-- All of some parts are filled. -/
def Flow.AllFilled : List Flow → Prop
  | [] => True
  | f :: fs => f.Filled ∧ Flow.AllFilled fs

end

/-- Parts that are filled, with names between two numbers. -/
structure Laid (align : Bool) (a b : Nat) (fs : List Flow) : Prop where
  /-- Their names lie between the numbers. -/
  spread : Spread align a b (allPlaces fs)
  /-- They are filled. -/
  filled : Flow.AllFilled fs

namespace Laid

variable {align : Bool} {a b c : Nat} {f : Flow} {fs : List Flow}

theorem single (hspread : Spread align a b f.places) (hfilled : f.Filled) : Laid align a b [f] :=
  ⟨by simpa [allPlaces] using hspread, hfilled, trivial⟩

theorem mono (h : Laid align a b fs) {a' b' : Nat} (ha : a' ≤ a) (hb : b ≤ b') : Laid align a' b' fs :=
  ⟨h.spread.mono ha hb, h.filled⟩

theorem cons (h : Laid align a b [f]) (h' : Laid align b c fs) (hab : a ≤ b) (hbc : b ≤ c) :
    Laid align a c (f :: fs) := by
  refine ⟨?_, h.filled.1, h'.filled⟩
  have := h.spread.append h'.spread hab hbc
  simpa [allPlaces] using this

end Laid

/-! ## Numbers -/

/-- From the number `a` on: numbers only go up, and what is given back has the property together with the
next number. -/
def From {α : Type} (a : Nat) (m : Numbered α) (P : α → Nat → Prop) : Prop :=
  a ≤ (m.run.run a).2 ∧ ∀ x, (m.run.run a).1 = some x → P x (m.run.run a).2

namespace From

variable {α β : Type} {a : Nat} {P : α → Nat → Prop} {Q : β → Nat → Prop} {m : Numbered α}

theorem pure {x : α} (h : P x a) : From a (pure x) P :=
  ⟨le_rfl, fun _ hy => Option.some.inj hy ▸ h⟩

theorem failure : From a failure P := ⟨le_rfl, fun _ hx => nomatch hx⟩

theorem bind {f : α → Numbered β} (hm : From a m P)
    (hf : ∀ x b, a ≤ b → P x b → From b (f x) Q) : From a (m >>= f) Q := by
  obtain ⟨hle, hP⟩ := hm
  unfold From
  rw [OptionT.run_bind, Option.elimM, StateT.run_bind]
  generalize m.run.run a = r at hle hP
  obtain ⟨x, b⟩ := r
  cases x with
  | none =>
      -- what was taken before a failure stays taken
      exact ⟨hle, fun _ hy => nomatch hy⟩
  | some x =>
      obtain ⟨hle', hQ⟩ := hf x b hle (hP x rfl)
      exact ⟨hle.trans hle', hQ⟩

theorem imp {Q : α → Nat → Prop} (hm : From a m P) (h : ∀ x b, a ≤ b → P x b → Q x b) : From a m Q :=
  ⟨hm.1, fun x hx => h x _ hm.1 (hm.2 x hx)⟩

theorem take {P : Nat → Nat → Prop} (h : P a (a + 1)) : From a take P :=
  ⟨Nat.le_succ a, fun _ hx => Option.some.inj hx ▸ h⟩

/-- A number is taken that is not used. -/
theorem skip (h : From (a + 1) m P) : From a (Chart.take >>= fun _ => m) P := by
  refine (take (P := fun _ b => b = a + 1) rfl).bind ?_
  rintro x b - rfl
  exact h

end From

/-! ## Steps -/

/-- The name of a step has a number in it from `a` up to `b`. -/
def Step.Within (a b : Nat) (s : Step) : Prop := ∃ n, a ≤ n ∧ n < b ∧ Named n s.name

theorem Step.Within.mono {a b a' b' : Nat} {s : Step} (h : s.Within a b) (ha : a' ≤ a) (hb : b ≤ b') :
    s.Within a' b' := by
  obtain ⟨n, hn, hn', hname⟩ := h
  exact ⟨n, by omega, by omega, hname⟩

theorem Step.Within.spread {align : Bool} {a b : Nat} {s : Step} (h : s.Within a b) {apart : Bool}
    (hapart : apart = true → align = true) : Spread align a b [⟨s, apart⟩] :=
  ⟨by simp, fun _ ht => List.mem_singleton.1 ht ▸ h, fun _ ht => List.mem_singleton.1 ht ▸ hapart⟩

theorem Step.Within.joined (align : Bool) {a b : Nat} {s : Step} (h : s.Within a b) :
    Spread align a b [⟨s, false⟩] := h.spread (by simp)

theorem from_newStep {a : Nat} (k : Kind) (text : Option String) :
    From a (newStep k text) fun s b => s.Within a b := by
  refine From.skip ?_
  cases text with
  | none => exact From.failure
  | some t =>
      refine (From.take (P := fun n b => n = a + 1 ∧ b = a + 2) ⟨rfl, rfl⟩).bind ?_
      rintro n b - ⟨rfl, rfl⟩
      -- the first number went to waste, the second is in the name
      exact From.pure ⟨a + 1, by omega, by omega, k, rfl⟩

theorem from_step {align : Bool} {a : Nat} {k : Kind} {text : Option String} {f : Step → Flow}
    (hf : ∀ s, (f s).places = [⟨s, false⟩] ∧ (f s).Filled) :
    From a (do return f (← newStep k text)) fun x b => Laid align a b [x] := by
  refine (from_newStep k text).bind fun s b _ hs => From.pure (Laid.single ?_ (hf s).2)
  rw [(hf s).1]
  exact hs.joined align

theorem from_buildSimple {align : Bool} {a : Nat} (s : Stmt) :
    From a (buildSimple s) fun f b => Laid align a b [f] := by
  unfold buildSimple
  split
  · exact from_step fun _ => ⟨rfl, trivial⟩
  · exact from_step fun _ => ⟨rfl, trivial⟩
  · exact from_step fun _ => ⟨rfl, trivial⟩
  · exact from_step fun _ => ⟨rfl, trivial⟩
  · exact from_step fun _ => ⟨rfl, trivial⟩

theorem from_buildReturn {align : Bool} {a : Nat} (s : Stmt) (value : Option Expr) :
    From a (buildReturn s value) fun f b => Laid align a b [f] := by
  refine From.skip ((from_newStep .finish _).bind fun finish b hab hfinish => ?_)
  -- what is returned comes first in the chart and second in number
  have hend : ∀ (output : Option Step) (c : Nat), b ≤ c → (∀ s ∈ output, s.Within b c) →
      From c (do let _ ← take; return Flow.ret output finish) fun f d => Laid align a d [f] := by
    intro output c hbc houtput
    refine From.skip (From.pure (Laid.single ?_ trivial))
    have houtput : Spread align b (c + 1) (output.toList.map (⟨·, false⟩)) := by
      cases output with
      | none => exact Spread.nil
      | some s => exact ((houtput s rfl).joined align).mono le_rfl (by omega)
    exact ((hfinish.joined align).mono (by omega) le_rfl).append houtput (by omega) (by omega)
  cases value with
  | none => exact From.bind (P := fun x c => ∀ s ∈ x, s.Within b c) (From.pure (by simp)) hend
  | some e =>
      refine From.bind (P := fun x c => ∀ s ∈ x, s.Within b c) ?_ hend
      exact (from_newStep .transfer _).bind fun s c _ hs => From.pure fun t ht => Option.some.inj ht ▸ hs

/-! ## Blocks -/

theorem from_inBlock {α : Type} {a : Nat} {P : α → Nat → Prop} {body : Numbered α}
    (h : From (a + 1) body P) : From a (inBlock body) P := From.skip h

/-- A part that may be drawn as one step under the name of its condition. -/
theorem from_simplified {align : Bool} {a b : Nat} (o : Options) {cond : Step} (hcond : cond.Within a b)
    (text : Option String) {flow : Flow} (hflow : Laid align a b [flow]) :
    From b (simplified o cond text flow) fun f c => Laid align a c [f] := by
  unfold simplified
  split
  · refine From.skip (From.pure (Laid.single (Spread.mono ?_ le_rfl (Nat.le_succ b)) trivial))
    exact hcond.joined align (s := ⟨cond.name, .operation, _⟩)
  · exact From.pure hflow

/-- The parts of a block: there are some if there are statements. -/
def LaidBlock (align : Bool) (body : List Stmt) (a b : Nat) (fs : List Flow) : Prop :=
  Laid align a b fs ∧ (body ≠ [] → fs ≠ [])

theorem from_buildLoop {align : Bool} {a : Nat} (o : Options) (text : Option String) {body : List Stmt}
    (hne : body ≠ []) {inner : Numbered (List Flow)}
    (hinner : ∀ a, From a inner fun fs b => LaidBlock align body a b fs) :
    From a (buildLoop o text inner) fun f b => Laid align a b [f] := by
  refine From.skip ((from_newStep .condition text).bind fun cond b hab hcond => From.skip ?_)
  -- nothing is kept of the first body but the numbers that it took
  refine (from_inBlock (hinner _)).bind fun _ c hbc _ => ?_
  refine (from_inBlock (hinner _)).bind fun fs d hcd hfs => From.skip (From.skip ?_)
  refine from_simplified o (hcond.mono (by omega) (by omega)) _ (Laid.single ?_ ⟨hfs.2 hne, hfs.1.filled⟩)
  have hcond := (hcond.joined align).mono (Nat.le_succ a) le_rfl
  exact hcond.append (hfs.1.spread.mono (by omega) (by omega)) (by omega) (by omega)

/-! ## Statements and programs -/

/-- What is built of a statement, and of statements one after the other. -/
theorem from_build_and_buildList (o : Options) :
    (∀ apart (s : Stmt), s.Filled → (apart = true → o.align = true) →
        ∀ a, From a (build o apart s) fun f b => Laid o.align a b [f]) ∧
      ∀ body, AllFilled body → ∀ a, From a (buildList o body) fun fs b => LaidBlock o.align body a b fs := by
  refine build.mutual_induct o _ _ ?cond ?whileLoop ?forLoop ?function ?ret ?simple ?nil ?cons
  case cond =>
    intro apart test body orElse ihbody ihelse hfilled hapart a
    obtain ⟨hne, hbody, helse⟩ := hfilled
    rw [build]
    -- the condition, the branch for yes and the branch for no, each from where the last one left off
    refine From.skip ((from_newStep .condition _).bind fun cond b hab hcond => From.skip ?_)
    refine (from_inBlock (ihbody hbody _)).bind fun yes c hbc hyes => From.skip ?_
    refine (from_inBlock (ihelse helse _)).bind fun no d hcd hno => From.skip ?_
    refine from_simplified o (hcond.mono (by omega) (by omega)) _
      (Laid.single ?_ ⟨hyes.2 hne, hyes.1.filled, hno.1.filled⟩)
    have hcond := (hcond.spread hapart).mono (Nat.le_succ a) le_rfl
    have hbranches := (hyes.1.spread.mono (by omega) le_rfl).append
      (hno.1.spread.mono (by omega) le_rfl) hbc (by omega)
    exact hcond.append (hbranches.mono (Nat.le_succ b) (by omega)) (by omega) (by omega)
  case whileLoop =>
    intro apart test body orElse ih hfilled _ a
    rw [build]
    exact from_buildLoop o _ hfilled.1 (ih hfilled.2)
  case forLoop =>
    intro apart target iterable body orElse ih hfilled _ a
    rw [build]
    exact from_buildLoop o _ hfilled.1 (ih hfilled.2)
  case function =>
    intro apart name params returns decorators body ih hfilled _ a
    rw [build]
    refine From.skip ((from_newStep .start _).bind fun start b hab hstart => ?_)
    refine (from_newStep .transfer _).bind fun input c hbc hinput => ?_
    refine (from_inBlock (ih hfilled.2 _)).bind fun inner d hcd hinner => ?_
    refine (from_newStep .finish _).bind fun finish e hde hfinish => From.skip (From.pure ?_)
    refine Laid.single ?_ ⟨hinner.2 hfilled.1, hinner.1.filled⟩
    have hopen := ((hstart.joined o.align).mono (Nat.le_succ a) le_rfl).append (hinput.joined _)
      (by omega) hbc
    have hrest := (hinner.1.spread.mono (by omega) le_rfl).append (hfinish.joined _) hcd hde
    exact (hopen.append hrest (by omega) (by omega)).mono le_rfl (by omega)
  case ret =>
    intro apart value _ _ a
    rw [build]
    exact from_buildReturn _ value
  case simple =>
    intro apart s hcond hwhile hfor hfunction hret _ _ a
    -- every other form of statement is one step
    rw [build]
    · exact from_buildSimple s
    all_goals assumption
  case nil =>
    intro _ a
    rw [buildList]
    exact From.pure ⟨⟨Spread.nil, trivial⟩, by simp⟩
  case cons =>
    intro s rest ihs ihrest hfilled a
    rw [buildList]
    refine (ihs hfilled.1 (by simp +contextual) a).bind fun f b hab hf => ?_
    refine (ihrest hfilled.2 b).bind fun fs c hbc hfs => From.pure ?_
    exact ⟨hf.cons hfs.1 hab hbc, by simp⟩

/-- **The steps of a chart have names of their own**, by numbers that no other chart has. -/
theorem from_ofProgram (o : Options) (inner : Bool) {body : List Stmt} (h : AllFilled body) (a : Nat) :
    From a (ofProgram o inner body) fun fs b => Laid o.align a b fs := by
  have hend : ∀ {m : Numbered (List Flow)}, (From a m fun fs b => Laid o.align a b fs) →
      From a (do let fs ← m; let _ ← take; return fs) fun fs b => Laid o.align a b fs := fun hm =>
    hm.bind fun fs b _ hfs => From.skip (From.pure (hfs.mono le_rfl (Nat.le_succ b)))
  unfold ofProgram
  cases body.isEmpty with
  | true => exact From.bind (P := fun _ _ => False) From.failure fun _ _ _ h => h.elim
  | false =>
      cases inner with
      | true =>
          have hblock := from_inBlock ((from_build_and_buildList o).2 body h (a + 1))
          exact hend (hblock.imp fun fs b _ hfs => hfs.1.mono (Nat.le_succ a) le_rfl)
      | false =>
          have hwhole : From a (buildWhole body) fun fs b => Laid o.align a b fs := by
            refine From.skip ((from_newStep .operation _).bind fun s b _ hs => From.pure ?_)
            exact Laid.single ((hs.joined _).mono (Nat.le_succ a) le_rfl) trivial
          exact hend hwhole

end CodeFlow.Chart
