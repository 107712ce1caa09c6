import Mathlib
import CodeFlow.Proofs.Chart.Build

/-!
# `CodeFlow.Proofs.Chart.Walk` — a walk leaves no link open

A walk links a step to the next one before it goes there, so on the way there are links to steps that were
not reached yet. When it is over, every link joins two steps that were reached, and if there are links at
all then every step that was reached is at the end of one.

## Contents
- `Trace.Sane`: what holds on the way.
- `Reached`: what a walk adds.
- `Next.Good`: where it is safe to go on; `good_define_goOn`, `good_fork`.
- `good_walk`, `good_walkList`: every part of a chart is such a place.
- `reached_trace`.
-/

namespace CodeFlow.Chart

/-! ## On the way -/

/-- What is said of links. -/
def specifications : List String := ["", "left", "yes", "no", "yes, right"]

namespace Trace

/-- What holds of a walk through some steps at any time. -/
structure Sane (places : List Stop) (t : Trace) : Prop where
  /-- It comes by those steps only. -/
  stops : t.stops ⊆ places
  /-- Links start at steps that it came by. -/
  sources : ∀ a ∈ t.arrows, a.source ∈ t.names
  /-- What is said of links. -/
  specified : ∀ a ∈ t.arrows, a.specification ∈ specifications
  /-- Before the first link there is one step. -/
  alone : t.arrows = [] → t.stops.length ≤ 1
  /-- After it, every step is at the end of a link. -/
  linked : t.arrows ≠ [] →
    ∀ s ∈ t.stops, ∃ a ∈ t.arrows, s.step.name = a.source ∨ s.step.name = a.target

/-- A walk may come by a step if it starts there or a link leads there. -/
def Due (t : Trace) (name : String) : Prop := t.stops = [] ∨ ∃ a ∈ t.arrows, a.target = name

variable {places : List Stop} {t : Trace} {s : Step} {apart : Bool}
  {source specification target : String}

@[simp] theorem names_define : (t.define s apart).names = t.names ++ [s.name] := by
  simp [names, define]

@[simp] theorem arrows_define : (t.define s apart).arrows = t.arrows := rfl

@[simp] theorem arrows_link :
    (t.link source specification target).arrows = t.arrows ++ [⟨source, specification, target⟩] := rfl

theorem due_link : (t.link source specification target).Due target :=
  .inr ⟨_, List.mem_append_right _ (List.mem_singleton_self _), rfl⟩

theorem sane_empty : Sane places {} :=
  ⟨by simp, by simp, by simp, by simp, by simp⟩

theorem Sane.define (h : t.Sane places) (hdue : t.Due s.name) (hs : ⟨s, apart⟩ ∈ places) :
    (t.define s apart).Sane places where
  stops := List.append_subset.2 ⟨h.stops, by simpa using hs⟩
  sources a ha := by
    rw [names_define]
    exact List.mem_append_left _ (h.sources a ha)
  specified := h.specified
  alone hnone := by
    rcases hdue with hstops | ⟨a, ha, -⟩
    · simp [Trace.define, hstops]
    · exact absurd ha (by simp_all)
  linked hsome := by
    intro stop hstop
    rcases List.mem_append.1 hstop with hstop | hstop
    · exact h.linked hsome stop hstop
    · -- the new step is where a link leads: links start somewhere, so the walk has started
      obtain ⟨a, ha⟩ := List.exists_mem_of_ne_nil _ hsome
      rcases hdue with hstops | ⟨b, hb, htarget⟩
      · exact absurd (h.sources a ha) (by simp [names, hstops])
      · exact ⟨b, hb, .inr (by simp [List.mem_singleton.1 hstop, htarget])⟩

theorem Sane.link (h : t.Sane places) (hsource : source ∈ t.names)
    (hspec : specification ∈ specifications) : (t.link source specification target).Sane places where
  stops := h.stops
  sources a ha := by
    rcases List.mem_append.1 ha with ha | ha
    · exact h.sources a ha
    · rwa [List.mem_singleton.1 ha]
  specified a ha := by
    rcases List.mem_append.1 ha with ha | ha
    · exact h.specified a ha
    · rwa [List.mem_singleton.1 ha]
  alone hnone := by simp at hnone
  linked _ := by
    intro stop hstop
    by_cases hnone : t.arrows = []
    · -- the only step so far is where the new link starts
      have hlen := h.alone hnone
      obtain ⟨other, hother, rfl⟩ := List.mem_map.1 hsource
      have : stop = other := by
        match hstops : t.stops, hstop, hother, hlen with
        | [x], hstop, hother, _ => rw [List.mem_singleton.1 hstop, List.mem_singleton.1 hother]
      exact ⟨_, List.mem_append_right _ (List.mem_singleton_self _), .inl (by rw [this])⟩
    · obtain ⟨a, ha, hends⟩ := h.linked hnone stop hstop
      exact ⟨a, List.mem_append_left _ ha, hends⟩

end Trace

/-! ## What a walk adds -/

/-- A walk that goes on from `t` up to `t'` and comes by `name`: every link that it adds leads to a step
that it comes by. -/
structure Reached (places : List Stop) (t t' : Trace) (name : String) : Prop where
  /-- All is well at the end. -/
  sane : t'.Sane places
  /-- Steps stay. -/
  names : t.names ⊆ t'.names
  /-- New links lead to steps. -/
  targets : ∀ a ∈ t'.arrows, a ∈ t.arrows ∨ a.target ∈ t'.names
  /-- The step was come by. -/
  mem : name ∈ t'.names

namespace Reached

variable {places : List Stop} {t t' t'' : Trace} {name other : String}

theorem refl (h : t.Sane places) (hname : name ∈ t.names) : Reached places t t name :=
  ⟨h, List.Subset.refl _, fun _ ha => .inl ha, hname⟩

theorem trans (h : Reached places t t' name) (h' : Reached places t' t'' other) :
    Reached places t t'' name := by
  refine ⟨h'.sane, List.Subset.trans h.names h'.names, fun a ha => ?_, h'.names h.mem⟩
  rcases h'.targets a ha with ha | ha
  · exact (h.targets a ha).imp id fun hmem => h'.names hmem
  · exact .inr ha

theorem define {s : Step} {apart : Bool} (h : t.Sane places) (hdue : t.Due s.name)
    (hs : ⟨s, apart⟩ ∈ places) : Reached places t (t.define s apart) s.name :=
  ⟨h.define hdue hs, by simp, fun _ ha => .inl ha, by simp⟩

/-- A link to a step that the walk then comes by. -/
theorem of_link {source specification : String}
    (h : Reached places (t.link source specification name) t' name) : Reached places t t' name := by
  refine ⟨h.sane, h.names, fun a ha => ?_, h.mem⟩
  rcases h.targets a ha with ha | ha
  · rcases List.mem_append.1 ha with ha | ha
    · exact .inl ha
    · exact .inr (by rw [List.mem_singleton.1 ha]; exact h.mem)
  · exact .inr ha

end Reached

/-! ## Where to go on -/

/-- Wherever a walk is that has come by the steps of `base`, it can go on here. -/
def Next.Good (places : List Stop) (base : List String) (n : Next) : Prop :=
  ∀ t : Trace, base ⊆ t.names → t.Sane places → t.Due n.name → Reached places t (n.visit t) n.name

section Good

variable {places : List Stop} {base : List String} {next : Option Next}

theorem Next.Good.mono {n : Next} {base' : List String} (h : n.Good places base) (hbase : base ⊆ base') :
    n.Good places base' := fun t ht => h t (List.Subset.trans hbase ht)

/-- A step that was come by before. -/
theorem good_return {name : String} (h : name ∈ base) : Next.Good places base ⟨name, id⟩ :=
  fun _ ht hsane _ => Reached.refl hsane (ht h)

theorem reached_goOn {t : Trace} {source specification : String} (hsane : t.Sane places)
    (hbase : base ⊆ t.names) (hsource : source ∈ t.names) (hspec : specification ∈ specifications)
    (hnext : ∀ n ∈ next, n.Good places base) :
    Reached places t (goOn source specification next t) source := by
  cases next with
  | none => exact Reached.refl hsane hsource
  | some n =>
      have hlink := hnext n rfl (t.link source specification n.name) hbase (hsane.link hsource hspec)
        Trace.due_link
      exact (Reached.refl hsane hsource).trans hlink.of_link

/-- A step, after which the walk goes on. -/
theorem good_define_goOn {s : Step} {apart : Bool} {specification : String} (hs : ⟨s, apart⟩ ∈ places)
    (hspec : specification ∈ specifications) (hnext : ∀ n ∈ next, n.Good places base) :
    Next.Good places base ⟨s.name, fun t => goOn s.name specification next (t.define s apart)⟩ := by
  intro t hbase hsane hdue
  have hdefine := Reached.define hsane hdue hs
  exact hdefine.trans
    (reached_goOn hdefine.sane (List.Subset.trans hbase hdefine.names) hdefine.mem hspec hnext)

/-- A step from which the walk goes on two ways. -/
theorem good_fork {s : Step} {apart : Bool} {first second : String} {other : Option Next}
    (hs : ⟨s, apart⟩ ∈ places) (hfirst : first ∈ specifications) (hsecond : second ∈ specifications)
    (hnext : ∀ n ∈ next, n.Good places (s.name :: base)) (hother : ∀ n ∈ other, n.Good places base) :
    Next.Good places base
      ⟨s.name, fun t => goOn s.name second other (goOn s.name first next (t.define s apart))⟩ := by
  intro t hbase hsane hdue
  have hdefine := Reached.define hsane hdue hs
  have hdown := List.Subset.trans hbase hdefine.names
  have hgo := reached_goOn hdefine.sane (List.cons_subset.2 ⟨hdefine.mem, hdown⟩) hdefine.mem hfirst hnext
  have hback := reached_goOn hgo.sane (List.Subset.trans hdown hgo.names) hgo.mem hsecond hother
  exact (hdefine.trans hgo).trans hback

theorem Next.Good.congr {name : String} {visit visit' : Trace → Trace}
    (h : Next.Good places base ⟨name, visit⟩) (heq : ∀ t, visit' t = visit t) :
    Next.Good places base ⟨name, visit'⟩ :=
  (funext heq : visit' = visit) ▸ h

/-- The end of a function, which may be come by on several ways. -/
theorem good_leave {finish : Step} (hs : ⟨finish, false⟩ ∈ places)
    (hnext : ∀ n ∈ next, n.Good places base) :
    Next.Good places base ⟨finish.name, fun t => if t.names.contains finish.name then t
      else goOn finish.name "" next (t.define finish false)⟩ := by
  intro t hbase hsane hdue
  dsimp only
  split_ifs with hmem
  · exact Reached.refl hsane (by simpa using hmem)
  · exact good_define_goOn hs (by simp [specifications]) hnext t hbase hsane hdue

end Good

/-! ## The walk -/

section Walk

variable {places : List Stop}

theorem good_none {base : List String} : ∀ n ∈ (none : Option Next), n.Good places base := by
  simp

theorem good_some {base : List String} {n : Next} (h : n.Good places base) :
    ∀ m ∈ some n, m.Good places base := by
  simpa using h

theorem plain_mem : "" ∈ specifications := by simp [specifications]

theorem yes_mem : "yes" ∈ specifications := by simp [specifications]

theorem no_mem : "no" ∈ specifications := by simp [specifications]

mutual

/-- A part can be walked, one case for each of its forms. -/
theorem good_walk {base : List String} {next : Option Next} (back : Bool) (f : Flow)
    (hfilled : f.Filled) (hplaces : f.places ⊆ places) (hnext : ∀ n ∈ next, n.Good places base) :
    Next.Good places base ⟨f.entry.name, walk next back f⟩ := by
  match f with
  | .step s =>
      have hs : ⟨s, false⟩ ∈ places := hplaces (by simp [Flow.places])
      have hspec : (if back then "left" else "") ∈ specifications := by
        cases back <;> simp [specifications]
      exact (good_define_goOn hs hspec hnext).congr fun t => by rw [walk]
  | .merged s =>
      have hs : ⟨s, false⟩ ∈ places := hplaces (by simp [Flow.places])
      exact (good_define_goOn hs plain_mem hnext).congr fun t => by rw [walk]
  | .jump s =>
      have hs : ⟨s, false⟩ ∈ places := hplaces (by simp [Flow.places])
      exact (good_define_goOn hs plain_mem good_none).congr fun t => by rw [walk, goOn]
  | .ret none finish =>
      have hs : ⟨finish, false⟩ ∈ places := hplaces (by simp [Flow.places])
      exact (good_define_goOn hs plain_mem good_none).congr fun t => by rw [walk, goOn]
  | .ret (some output) finish =>
      -- the end goes nowhere, and what is returned goes to the end
      have hfinish : ⟨finish, false⟩ ∈ places := hplaces (by simp [Flow.places])
      have houtput : ⟨output, false⟩ ∈ places := hplaces (by simp [Flow.places])
      have hend : Next.Good places base ⟨finish.name, fun t => t.define finish false⟩ :=
        good_define_goOn hfinish plain_mem good_none
      exact (good_define_goOn houtput plain_mem (good_some hend)).congr fun t => by rw [walk, goOn]
  | .branch cond apart right yes no =>
      -- both branches go on behind the condition; without a branch for no the condition itself does
      obtain ⟨hne, hyes, hno⟩ := hfilled
      have hcond : ⟨cond, apart⟩ ∈ places := hplaces (by simp [Flow.places])
      have hspec : (if right then "yes, right" else "yes") ∈ specifications := by
        cases right <;> simp [specifications]
      have hplaces : allPlaces yes ++ allPlaces no ⊆ places :=
        List.Subset.trans (by simp [Flow.places]) hplaces
      have hgo := good_walkList false yes hne hyes (List.append_subset.1 hplaces).1
        fun n hn => (hnext n hn).mono (List.subset_cons_self cond.name base)
      match no with
      | [] =>
          exact (good_fork hcond hspec no_mem (good_some hgo) hnext).congr fun t => by
            rw [walk]
            rfl
      | f :: fs =>
          have helse := good_walkList false (f :: fs) (by simp) hno (List.append_subset.1 hplaces).2 hnext
          exact (good_fork hcond hspec no_mem (good_some hgo) (good_some helse)).congr fun t => by
            rw [walk]
            · rfl
            · simp
  | .loop cond body =>
      -- the body leads back to the condition, which the walk has come by
      obtain ⟨hne, hbody⟩ := hfilled
      have hcond : ⟨cond, false⟩ ∈ places := hplaces (by simp [Flow.places])
      have hplaces : allPlaces body ⊆ places := List.Subset.trans (by simp [Flow.places]) hplaces
      have hback : Next.Good places (cond.name :: base) ⟨cond.name, id⟩ := good_return List.mem_cons_self
      have hgo := good_walkList true body hne hbody hplaces (good_some hback)
      exact (good_fork hcond yes_mem no_mem (good_some hgo) hnext).congr fun t => by
        rw [walk]
        rfl
  | .function start input body finish =>
      -- from the start to the input, from there into the body, and out of it by the end
      obtain ⟨hne, hbody⟩ := hfilled
      have hstart : ⟨start, false⟩ ∈ places := hplaces (by simp [Flow.places])
      have hinput : ⟨input, false⟩ ∈ places := hplaces (by simp [Flow.places])
      have hfinish : ⟨finish, false⟩ ∈ places := hplaces (by simp [Flow.places])
      have hplaces : allPlaces body ⊆ places := fun s hs => hplaces (by simp [Flow.places, hs])
      have hgo := good_walkList false body hne hbody hplaces (good_some (good_leave hfinish hnext))
      have henter := good_define_goOn hinput plain_mem (good_some hgo)
      exact (good_define_goOn hstart plain_mem (good_some henter)).congr fun t => by
        rw [walk]
        rfl

/-- Parts one after the other can be walked. -/
theorem good_walkList {base : List String} {next : Option Next} (back : Bool) (fs : List Flow)
    (hne : fs ≠ []) (hfilled : Flow.AllFilled fs) (hplaces : allPlaces fs ⊆ places)
    (hnext : ∀ n ∈ next, n.Good places base) :
    Next.Good places base ⟨entryName fs, walkList next back fs⟩ := by
  match fs with
  | [] => exact absurd rfl hne
  | f :: fs =>
      obtain ⟨hf, hfs⟩ := hfilled
      obtain ⟨hplace, hplaces⟩ := List.append_subset.1 hplaces
      intro t hbase hsane hdue
      dsimp only
      rw [walkList]
      split_ifs with hmem hlast
      · -- the walk was here before
        exact Reached.refl hsane (by simpa [entryName] using hmem)
      · exact good_walk _ f hf hplace hnext t hbase hsane hdue
      · -- the part goes on with the parts after it
        have hrest := good_walkList back fs (by simpa using hlast) hfs hplaces hnext
        exact good_walk _ f hf hplace (good_some hrest) t hbase hsane hdue

end

end Walk

/-- **At the end of a walk every link joins steps that it came by.** -/
theorem reached_trace {flow : List Flow} (h : Flow.AllFilled flow) :
    (trace flow).Sane (allPlaces flow) ∧ ∀ a ∈ (trace flow).arrows, a.target ∈ (trace flow).names := by
  by_cases hne : flow = []
  · subst hne
    simpa [trace, walkList] using Trace.sane_empty
  · have hend : ∀ n ∈ (none : Option Next), n.Good (allPlaces flow) [] := good_none
    have hwalk := good_walkList false flow hne h (List.Subset.refl _) hend {} (by simp) Trace.sane_empty
      (.inl rfl)
    exact ⟨hwalk.sane, fun a ha => (hwalk.targets a ha).resolve_left (by simp)⟩

end CodeFlow.Chart
