import Mathlib
import CodeFlow.Proofs.Chart.Walk
import CodeFlow.Proofs.Dot.Graph
import CodeFlow.Proofs.FlowText

/-!
# `CodeFlow.Proofs.Chart.Text` — what is read back from the text of a chart

The text of a chart has the definitions of its steps and then its links. What steps say is written out as
it is, over as many lines as it has, so a reader of lines may take it for something else: an arrow in it
makes a line a link, and a line that looks like a definition declares a name. A step that is kept apart
carries a mark between its name and the arrow, and no reader of definitions expects that.

## Contents
- `Stop.Declared`: whether the text of a step declares it.
- `Stop.strays`, `Stop.others`: links and names that its text yields besides.
- `mem_declared_text`, `forall_links_iff`: the names and the links of a whole chart.
-/

namespace CodeFlow.Chart

open FlowText Ident Dot

/-! ## Steps -/

namespace Stop

/-- The lines of the text that defines a step. -/
def lines (s : Stop) : List (List Char) := Text.lines s.text.toList

/-- The text of a step declares its name: no mark stands behind it, and there is no arrow in the first
line. -/
def Declared (s : Stop) : Prop := s.apart = false ∧ ∀ l ∈ s.lines.head?, isLink l = false

/-- The names that are declared by the other lines. -/
def others (s : Stop) : List String := s.lines.tail.flatMap declared

/-- The links that the lines draw. -/
def strays (pre : String) (s : Stop) : List Link := s.lines.flatMap (lineLinks pre)

theorem strays_eq_nil {pre : String} {s : Stop} (h : ∀ l ∈ s.lines, isLink l = false) :
    s.strays pre = [] :=
  List.flatMap_eq_nil_iff.2 fun l hl => by simp [lineLinks, h l hl]

/-- What stands in front of the text of a step. -/
def front (s : Stop) : List Char :=
  s.step.name.toList ++ (if s.apart then "(align-next=no)" else "").toList ++ ['=', '>'] ++
    s.step.kind.word.toList ++ [':', ' ']

end Stop

theorem isNameText_word (k : Kind) : IsNameText k.word.toList := by
  have hall : k.word.toList.all isIdentChar = true := by cases k <;> rfl
  exact ⟨List.all_eq_true.1 hall, by cases k <;> simp [Kind.word]⟩

theorem Named.isNameText {n : Nat} {name : String} (h : Named n name) : IsNameText name.toList := by
  refine ⟨fun c hc => by simp [isIdentChar_eq, h.isAlphanum hc], ?_⟩
  obtain ⟨k, rfl⟩ := h
  cases k <;> simp [Kind.letters]

theorem Named.underscore_not_mem {n : Nat} {name : String} (h : Named n name) : '_' ∉ name.toList :=
  fun hm => absurd (h.isAlphanum hm) (by decide)

namespace Stop

variable {s : Stop} {n : Nat} (hname : Named n s.step.name)

include hname

theorem lines_eq : s.lines = (s.front ++ (Text.lines s.step.text.toList).headD []) ::
    (Text.lines s.step.text.toList).tail := by
  have htext : s.text.toList = s.front ++ s.step.text.toList := by
    simp [Stop.text, front]
  have hfront : ∀ c ∈ s.front, Text.isLineEnd c = false := by
    have hall : ∀ t : List Char, (t.all fun c => !Text.isLineEnd c) = true →
        ∀ c ∈ t, Text.isLineEnd c = false := fun t ht c hc => by
      simpa using List.all_eq_true.1 ht c hc
    intro c hc
    simp only [front, List.mem_append] at hc
    rcases hc with (((hc | hc) | hc) | hc) | hc
    · exact isLineEnd_of_isIdentChar (hname.isNameText.ident c hc)
    · exact hall _ (by cases s.apart <;> rfl) c hc
    · exact hall _ rfl c hc
    · exact isLineEnd_of_isIdentChar ((isNameText_word _).ident c hc)
    · exact hall _ rfl c hc
  rw [lines, htext, Text.lines_append_of_forall hfront (by simp [front])]

/-- The first line declares the name of the step or nothing. -/
theorem declared_first {first : List Char} {rest : List (List Char)} (hlines : s.lines = first :: rest)
    {x : String} : x ∈ declared first ↔ s.Declared ∧ x = s.step.name := by
  have hnames := hname.isNameText
  have hfirst : first = s.front ++ (Text.lines s.step.text.toList).headD [] :=
    (List.cons.inj (hlines.symm.trans (lines_eq hname))).1
  have hdeclared : s.Declared ↔ s.apart = false ∧ isLink first = false := by
    simp [Declared, hlines]
  rw [hdeclared]
  by_cases hlink : isLink first = true
  · -- the whole line is taken for a link
    simp [declared_link hlink, hlink]
  rw [Bool.not_eq_true] at hlink
  cases hapart : s.apart with
  | true =>
      have : first = s.step.name.toList ++ '(' :: ("align-next=no)".toList ++ ['=', '>'] ++
          s.step.kind.word.toList ++ [':', ' '] ++ (Text.lines s.step.text.toList).headD []) := by
        rw [hfirst, front, hapart]
        simp
      rw [this, declared_marked hnames.isWordText rfl (by decide)]
      simp
  | false =>
      have : first = s.step.name.toList ++ '=' :: '>' :: (s.step.kind.word.toList ++ ':' ::
          (' ' :: (Text.lines s.step.text.toList).headD [])) := by
        rw [hfirst, front, hapart]
        simp
      rw [this] at hlink ⊢
      rw [declared_definition hnames (isNameText_word _).isWordText hlink, hlink]
      simp

/-- What the text of a step declares. -/
theorem mem_declared_lines {x : String} :
    x ∈ s.lines.flatMap declared ↔ (s.Declared ∧ x = s.step.name) ∨ x ∈ s.others := by
  rw [others, lines_eq hname, List.flatMap_cons, List.mem_append, declared_first hname (lines_eq hname)]
  rfl

end Stop

/-! ## Arrows -/

/-- The specification of an arrow; an empty one is none. -/
def Arrow.spec? (a : Arrow) : Option (List Char) :=
  if a.specification = "" then none else some a.specification.toList

theorem Arrow.isLink_spec? {a : Arrow} (h : a.specification ∈ specifications) :
    ∀ inner ∈ a.spec?, isLink inner = false := by
  have hall : specifications.all (fun spec => !isLink spec.toList) = true := rfl
  intro inner hinner
  rw [Arrow.spec?] at hinner
  split_ifs at hinner
  · simp at hinner
  · rw [← Option.some.inj hinner]
    simpa using List.all_eq_true.1 hall _ h

section Arrow

variable {a : Arrow} {n m : Nat} (hsource : Named n a.source) (htarget : Named m a.target)
  (hspec : a.specification ∈ specifications)

theorem Arrow.toList_text (a : Arrow) : a.text.toList =
    a.source.toList ++ specText a.spec? ++ '-' :: '>' :: a.target.toList := by
  unfold Arrow.text Arrow.spec?
  split_ifs <;> simp [specText]

theorem Arrow.declared_text (a : Arrow) : declared a.text.toList = [] :=
  declared_link (by rw [a.toList_text]; exact isLink_arrow)

include hsource htarget hspec

theorem Arrow.lines_text : Text.lines a.text.toList = [a.text.toList] := by
  have hspecs : specifications.all (fun spec => spec.toList.all fun c => !Text.isLineEnd c) = true := rfl
  have hinner : ∀ c ∈ specText a.spec?, Text.isLineEnd c = false := by
    intro c hc
    rw [Arrow.spec?] at hc
    split_ifs at hc
    · simp [specText] at hc
    · simp only [specText, List.mem_cons, List.mem_append, List.not_mem_nil, or_false] at hc
      rcases hc with rfl | hc | rfl
      · rfl
      · simpa using List.all_eq_true.1 (List.all_eq_true.1 hspecs _ hspec) c hc
      · rfl
  have hall : ∀ c ∈ a.text.toList, Text.isLineEnd c = false := by
    intro c hc
    rw [a.toList_text, List.mem_append, List.mem_append, List.mem_cons, List.mem_cons] at hc
    rcases hc with (hc | hc) | rfl | rfl | hc
    · exact isLineEnd_of_isIdentChar (hsource.isNameText.ident c hc)
    · exact hinner c hc
    · rfl
    · rfl
    · exact isLineEnd_of_isIdentChar (htarget.isNameText.ident c hc)
  have := Text.lines_append_of_forall hall (by simp [a.toList_text]) []
  simpa [Text.lines] using this

theorem Arrow.lineLinks_text (pre : String) : lineLinks pre a.text.toList =
    [⟨qualify pre a.source, qualify pre a.target, specStyle a.spec?⟩] := by
  have := lineLinks_arrow hsource.isNameText (Arrow.isLink_spec? hspec) htarget.isNameText pre
  rw [a.toList_text, this]
  simp

end Arrow

/-! ## Charts -/

theorem flatMap_lines_join {β : Type} {f : List Char → List β} (hf : f [] = []) (ts : List String)
    (rest : List Char) : (Text.lines ((String.join (ts.map (· ++ "\n"))).toList ++ rest)).flatMap f =
      ts.flatMap (fun t => (Text.lines t.toList).flatMap f) ++ (Text.lines rest).flatMap f := by
  induction ts with
  | nil => simp
  | cons t ts ih =>
      have htext : (String.join ((t :: ts).map (· ++ "\n"))).toList ++ rest =
          t.toList ++ '\n' :: ((String.join (ts.map (· ++ "\n"))).toList ++ rest) := by
        simp
      rw [htext, Text.flatMap_lines_append hf, ih, List.flatMap_cons, List.append_assoc]

namespace Trace

/-- Lines are read off a chart step by step and then link by link. -/
theorem flatMap_lines_text {β : Type} {f : List Char → List β} (hf : f [] = []) (t : Trace) :
    (Text.lines t.text.toList).flatMap f = t.stops.flatMap (fun s => s.lines.flatMap f) ++
      t.arrows.flatMap fun a => (Text.lines a.text.toList).flatMap f := by
  have htext : t.text.toList = (String.join ((t.stops.map Stop.text).map (· ++ "\n"))).toList ++
      ([] ++ '\n' :: ((String.join ((t.arrows.map Arrow.text).map (· ++ "\n"))).toList ++ [])) := by
    simp [Trace.text, Function.comp_def]
  rw [htext, flatMap_lines_join hf, Text.flatMap_lines_append hf, flatMap_lines_join hf]
  simp [Text.lines, List.flatMap_map, Stop.lines]

end Trace

namespace Laid

variable {align : Bool} {a b : Nat} {flow : List Flow} (h : Laid align a b flow)

include h

theorem named_stop {s : Stop} (hs : s ∈ (trace flow).stops) : ∃ n, Named n s.step.name := by
  obtain ⟨n, -, -, hn⟩ := h.spread.named s ((reached_trace h.filled).1.stops hs)
  exact ⟨n, hn⟩

theorem named_arrow {r : Arrow} (hr : r ∈ (trace flow).arrows) :
    (∃ n, Named n r.source) ∧ ∃ n, Named n r.target := by
  have hnames : ∀ x ∈ (trace flow).names, ∃ n, Named n x := fun x hx => by
    obtain ⟨s, hs, rfl⟩ := List.mem_map.1 hx
    exact h.named_stop hs
  obtain ⟨hsane, htargets⟩ := reached_trace h.filled
  exact ⟨hnames _ (hsane.sources r hr), hnames _ (htargets r hr)⟩

/-- The names that the text of a chart declares. -/
theorem mem_declared_text {x : String} : x ∈ (definitions (flowText flow).toList).map (·.id) ↔
    ∃ s ∈ (trace flow).stops, (s.Declared ∧ x = s.step.name) ∨ x ∈ s.others := by
  -- the lines of arrows declare nothing
  have harrows : ((trace flow).arrows.flatMap fun r => (Text.lines r.text.toList).flatMap declared) = [] := by
    refine List.flatMap_eq_nil_iff.2 fun r hr => ?_
    obtain ⟨⟨n, hn⟩, m, hm⟩ := h.named_arrow hr
    rw [Arrow.lines_text hn hm ((reached_trace h.filled).1.specified r hr)]
    simp [r.declared_text]
  rw [mem_ids_definitions, flowText, Trace.flatMap_lines_text rfl, harrows, List.append_nil,
    List.mem_flatMap]
  refine exists_congr fun s => and_congr_right fun hs => ?_
  obtain ⟨n, hn⟩ := h.named_stop hs
  exact Stop.mem_declared_lines hn

/-- The links that the text of a chart draws: some that its steps happen to have in their texts, and its
own. -/
theorem mem_links_text {pre : String} {l : Link} : l ∈ (graph (flowText flow) pre).links ↔
    (∃ s ∈ (trace flow).stops, l ∈ s.strays pre) ∨
      ∃ r ∈ (trace flow).arrows, l ∈ lineLinks pre r.text.toList := by
  have hlines : (graph (flowText flow) pre).links =
      (Text.lines (trace flow).text.toList).flatMap (lineLinks pre) := rfl
  rw [hlines, Trace.flatMap_lines_text rfl, List.mem_append, List.mem_flatMap, List.mem_flatMap]
  refine or_congr Iff.rfl (exists_congr fun r => and_congr_right fun hr => ?_)
  obtain ⟨⟨n, hn⟩, m, hm⟩ := h.named_arrow hr
  rw [Arrow.lines_text hn hm ((reached_trace h.filled).1.specified r hr)]
  simp

/-- **The links of a chart end in some identifiers** just if those do that its steps happen to have in
their texts, and, if the chart links anything, the identifiers of all its steps are among them. -/
theorem forall_links_iff (pre : String) (ids : List String) :
    (∀ l ∈ (graph (flowText flow) pre).links, l.source ∈ ids ∧ l.target ∈ ids) ↔
      (∀ s ∈ (trace flow).stops, ∀ l ∈ s.strays pre, l.source ∈ ids ∧ l.target ∈ ids) ∧
        ((trace flow).arrows ≠ [] → ∀ s ∈ (trace flow).stops, qualify pre s.step.name ∈ ids) := by
  obtain ⟨hsane, htargets⟩ := reached_trace h.filled
  have harrow : ∀ r ∈ (trace flow).arrows, ∃ style,
      lineLinks pre r.text.toList = [⟨qualify pre r.source, qualify pre r.target, style⟩] := by
    intro r hr
    obtain ⟨⟨n, hn⟩, m, hm⟩ := h.named_arrow hr
    exact ⟨_, Arrow.lineLinks_text hn hm (hsane.specified r hr) pre⟩
  constructor
  · intro hlinks
    refine ⟨fun s hs l hl => hlinks l (h.mem_links_text.2 (.inl ⟨s, hs, hl⟩)), fun hne s hs => ?_⟩
    -- some link ends at the step
    obtain ⟨r, hr, hends⟩ := hsane.linked hne s hs
    obtain ⟨style, hstyle⟩ := harrow r hr
    have hlink := hlinks _ (h.mem_links_text.2 (.inr ⟨r, hr, by rw [hstyle]; exact List.mem_singleton_self _⟩))
    exact hends.elim (fun e => e ▸ hlink.1) fun e => e ▸ hlink.2
  · rintro ⟨hstrays, hstops⟩ l hl
    rcases h.mem_links_text.1 hl with ⟨s, hs, hl⟩ | ⟨r, hr, hl⟩
    · exact hstrays s hs l hl
    · have hnames : ∀ x ∈ (trace flow).names, qualify pre x ∈ ids := fun x hx => by
        obtain ⟨s, hs, rfl⟩ := List.mem_map.1 hx
        exact hstops (List.ne_nil_of_mem hr) s hs
      obtain ⟨style, hstyle⟩ := harrow r hr
      rw [hstyle, List.mem_singleton] at hl
      subst hl
      exact ⟨hnames _ (hsane.sources r hr), hnames _ (htargets r hr)⟩

end Laid

end CodeFlow.Chart
