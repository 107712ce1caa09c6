import Mathlib
import CodeFlow.Proofs.Chart.Text
import CodeFlow.Proofs.Diagram
import CodeFlow.SourceGraph

/-!
# `CodeFlow.Proofs.SourceGraph` — when the graph of a source text is closed

A source text is charted, the charts are written down line by line, and the graph is read back from those
lines. Definitions and links are told apart by the look of a line, and what a step says is part of the
line, so a step can be linked that is never declared. This module says exactly when that happens.

The argument runs backwards along that way. Charting and writing down are taken apart, so that the charts
of a source text can be spoken of. The steps of all charts have names of their own, and an identifier
still tells the name, so only a step itself, or a line in the middle of a text, can declare it.

## Contents
- **Charts.** `sheets_flowTexts`: charts first, texts then. `Charted` follows step numbers from sheet to
  sheet, and `charted_sheets` arranges the charts of a source text.
- **Identifiers.** `lastPart` is what tells a name from an identifier: `name_eq_of_qualify` for steps, and
  `headerId_ne_qualify` for headers, which end in a number.
- **Graphs.** `Arranged.mem_ids_iff`: which steps are declared. `Arranged.closed_iff`: closed graphs.
- **Source texts.** `closed_analyse_iff`, and `adjacent`, of which the graph is not closed.
-/

namespace CodeFlow.SourceGraph

open Source Chart Dot Ident

/-! ## Charts before they are written down -/

/-- A sheet with its chart in another form. -/
def Sheet.map {α β : Type} (f : α → β) (s : Sheet α) : Sheet β := ⟨s.path, s.pre, f s.chart⟩

section Written

variable (o : Options) (file : String) (body : List Stmt)

theorem sheet?_flowTexts (o : Chart.Options) (inner : Bool) (subject : Subject)
    (path : Option FunctionPath) (pre : String) :
    sheet? flowTexts o inner subject path pre =
      Option.map (Sheet.map flowText) <$> sheet? flows o inner subject path pre := by
  funext supply
  have hleft : sheet? flowTexts o inner subject path pre supply =
      ((((flows o inner subject).run supply.number).1.map flowText).map (⟨path, pre, ·⟩),
        { supply with number := ((flows o inner subject).run supply.number).2 }) := rfl
  have hright : (Option.map (Sheet.map flowText) <$> sheet? flows o inner subject path pre) supply =
      ((((flows o inner subject).run supply.number).1.map (⟨path, pre, ·⟩)).map (Sheet.map flowText),
        { supply with number := ((flows o inner subject).run supply.number).2 }) := rfl
  rw [hleft, hright, Option.map_map, Option.map_map]
  rfl

theorem functionSheet?_flowTexts (p : FunctionPath) :
    functionSheet? flowTexts o file body p =
      Option.map (Sheet.map flowText) <$> functionSheet? flows o file body p := by
  simp [functionSheet?, sheet?_flowTexts]

theorem functionSheets_flowTexts (ps : List FunctionPath) :
    functionSheets flowTexts o file body ps =
      List.map (Sheet.map flowText) <$> functionSheets flows o file body ps := by
  induction ps with
  | nil => simp [functionSheets]
  | cons p ps ih => simp [functionSheets, functionSheet?_flowTexts, ih, Option.toList_map]

theorem rootSheets?_flowTexts :
    rootSheets? flowTexts o file body =
      Option.map (List.map (Sheet.map flowText)) <$> rootSheets? flows o file body := by
  simp only [rootSheets?]
  split_ifs
  · simp
  · simp
  · simp [sheet?_flowTexts, Function.comp_def]

theorem wholeSheets_flowTexts (subject : Subject) :
    wholeSheets flowTexts o file subject =
      List.map (Sheet.map flowText) <$> wholeSheets flows o file subject := by
  simp [wholeSheets, sheet?_flowTexts, Option.toList_map]

/-- The sheets of a source text are charted first and written down then. -/
theorem sheets_flowTexts (code : String) :
    sheets flowTexts o file code = List.map (Sheet.map flowText) <$> sheets flows o file code := by
  unfold sheets
  cases parse? code.toList with
  | none => exact wholeSheets_flowTexts o file _
  | some body =>
      simp only [rootSheets?_flowTexts, map_bind, bind_map_left]
      refine bind_congr fun root => ?_
      cases root with
      | none => exact wholeSheets_flowTexts o file _
      | some root => simp [functionSheets_flowTexts]

end Written

/-! ## Subjects -/

theorem filled_definition? {s : Stmt} (h : s.Filled) {name : String} {body : List Stmt}
    (hdef : s.definition? = some (name, body)) : AllFilled body := by
  unfold Stmt.definition? at hdef
  split at hdef
  · obtain ⟨-, rfl⟩ := Prod.mk.inj (Option.some.inj hdef)
    exact h.2
  · obtain ⟨-, rfl⟩ := Prod.mk.inj (Option.some.inj hdef)
    exact h
  · simp at hdef

theorem filled_enter {p : Place} (h : AllFilled p.body) (part : String) : AllFilled (p.enter part).body := by
  unfold Place.enter
  split
  · rename_i name body hfind
    obtain ⟨s, hs, hdef⟩ := List.mem_filterMap.1 (List.mem_reverse.1 (List.mem_of_find?_eq_some hfind))
    exact filled_definition? (allFilled_iff.1 h s hs) hdef
  · exact h

theorem filled_findBody? {body inside : List Stmt} (h : AllFilled body) {p : FunctionPath}
    (hfind : findBody? body p = some inside) : AllFilled inside := by
  have hall : ∀ (parts : List String) (place : Place), AllFilled place.body →
      AllFilled (parts.foldl Place.enter place).body := by
    intro parts
    induction parts with
    | nil => exact fun _ hplace => hplace
    | cons part parts ih => exact fun place hplace => ih _ (filled_enter hplace part)
  simp only [findBody?] at hfind
  split_ifs at hfind
  exact Option.some.inj hfind ▸ hall _ ⟨none, body⟩ h

/-- The statements of a subject have no empty bodies. -/
def Subject.Filled : Subject → Prop
  | .program body => AllFilled body
  | .function body _ => AllFilled body
  | .unread _ => True

theorem from_flows (o : Chart.Options) (inner : Bool) {subject : Subject} (h : subject.Filled) (a : Nat) :
    From a (OptionT.mk (flows o inner subject)) fun fs b => Laid o.align a b fs := by
  cases subject with
  | program body => exact from_ofProgram o inner h a
  | unread code => exact From.failure
  | function body path =>
      simp only [flows]
      cases hfind : findBody? body path with
      | none => exact From.failure
      | some inside => exact from_ofProgram o inner (filled_findBody? h hfind) a

/-! ## Numbers from sheet to sheet -/

/-- From the step number `a` on: numbers only go up, and what is given back has the property together with
the next number. -/
def Charted {α : Type} (a : Nat) (m : StateM Supply α) (P : α → Nat → Prop) : Prop :=
  ∀ s : Supply, s.number = a → a ≤ (m.run s).2.number ∧ P (m.run s).1 (m.run s).2.number

namespace Charted

variable {α β : Type} {a : Nat} {P : α → Nat → Prop} {Q : β → Nat → Prop} {m : StateM Supply α}

theorem pure {x : α} (h : P x a) : Charted a (pure x) P := by
  rintro s rfl
  exact ⟨le_rfl, h⟩

theorem bind {f : α → StateM Supply β} (hm : Charted a m P)
    (hf : ∀ x b, a ≤ b → P x b → Charted b (f x) Q) : Charted a (m >>= f) Q := by
  intro s hs
  obtain ⟨hle, hP⟩ := hm s hs
  obtain ⟨hle', hQ⟩ := hf _ _ hle hP (m.run s).2 rfl
  exact ⟨hle.trans hle', hQ⟩

theorem draw {f : Int → StateM Supply β} (hf : ∀ value, Charted a (f value) Q) :
    Charted a (Supply.draw >>= f) Q := by
  intro s hs
  exact hf s.draws.next.1 { s with draws := s.draws.next.2 } hs

theorem imp {Q : α → Nat → Prop} (hm : Charted a m P) (h : ∀ x b, a ≤ b → P x b → Q x b) :
    Charted a m Q := fun s hs =>
  have hrun := hm s hs
  ⟨hrun.1, h _ _ hrun.1 hrun.2⟩

end Charted

/-! ## Identifiers -/

/-- What stands behind the last underscore of an identifier. -/
def lastPart (id : String) : Option (List Char) := (Text.splitOnChar '_' id.toList).getLast?

theorem lastPart_of_toList {id : String} {front last : List Char} (h : id.toList = front ++ '_' :: last)
    (hlast : '_' ∉ last) : lastPart id = some last := by
  rw [lastPart, h, Text.splitOnChar_append_cons, Text.splitOnChar_of_not_mem hlast, List.getLast?_concat]

/-- The identifier of a step ends in its name. -/
theorem lastPart_qualify {pre name : String} {n : Nat} (hpre : pre.toList ≠ []) (hname : Named n name) :
    lastPart (qualify pre name) = some name.toList := by
  have hident : ∀ c ∈ name.toList, isIdentChar c = true := fun c hc => by
    simp [isIdentChar_eq, hname.isAlphanum hc]
  have hlist : (qualify pre name).toList = pre.toList.map sanitizeChar ++ '_' :: name.toList := by
    have hne : (pre ++ "_" ++ name).toList ≠ [] := by simp
    rw [qualify, if_neg (by simpa using hpre), toList_sanitize hne, String.toList_append,
      String.toList_append, List.map_append, List.map_append, map_sanitizeChar hident, List.append_assoc]
    rfl
  exact lastPart_of_toList hlist hname.underscore_not_mem

/-- Steps with one identifier have one name, whatever their prefixes. -/
theorem name_eq_of_qualify {pre pre' name name' : String} {n m : Nat} (hpre : pre.toList ≠ [])
    (hpre' : pre'.toList ≠ []) (hname : Named n name) (hname' : Named m name')
    (h : qualify pre name = qualify pre' name') : name = name' := by
  have hlast := congrArg lastPart h
  rw [lastPart_qualify hpre hname, lastPart_qualify hpre' hname'] at hlast
  exact String.toList_inj.1 (Option.some.inj hlast)

/-- The number behind a prefix: a sign is an underscore there. -/
theorem exists_digits (draw : Int) : ∃ (q : List Char) (n : Nat),
    '_' :: (toString draw).toList.map sanitizeChar = q ++ '_' :: (toString n).toList := by
  cases draw with
  | ofNat n =>
      refine ⟨[], n, ?_⟩
      have : (toString (Int.ofNat n)).toList = (toString n).toList := rfl
      rw [this, map_sanitizeChar fun c hc => isIdentChar_of_mem_toString hc, List.nil_append]
  | negSucc n =>
      -- the sign is sanitised to an underscore in front of the one that parts the number
      refine ⟨['_'], n + 1, ?_⟩
      have : (toString (Int.negSucc n)).toList = '-' :: (toString (n + 1)).toList := by
        rw [show toString (Int.negSucc n) = "-" ++ toString (n + 1) from rfl, String.toList_append]
        rfl
      rw [this, List.map_cons, map_sanitizeChar fun c hc => isIdentChar_of_mem_toString hc]
      rfl

/-- The header of a function ends in the number that was drawn for it. -/
theorem lastPart_headerId (file : String) (p : FunctionPath) (draw : Int) :
    ∃ n : Nat, lastPart (headerId (functionPrefix file p draw)) = some (toString n).toList := by
  obtain ⟨q, n, hq⟩ := exists_digits draw
  have hlist : (headerId (functionPrefix file p draw)).toList =
      "HEAD_".toList ++ (file ++ "_FN_" ++ p.text).toList.map sanitizeChar ++ q ++
        '_' :: (toString n).toList := by
    have hne : (file ++ "_FN_" ++ p.text ++ "_" ++ toString draw).toList ≠ [] := by simp
    have hunder : sanitizeChar '_' = '_' := rfl
    rw [headerId, functionPrefix, String.toList_append, toList_sanitize hne, List.append_assoc _ q, ← hq]
    simp [hunder]
  refine ⟨n, lastPart_of_toList hlist fun hm => ?_⟩
  exact absurd (isDigit_of_mem_toString hm) (by decide)

/-- No header has the identifier of a step. -/
theorem headerId_ne_qualify {file : String} {p : FunctionPath} {draw : Int} {pre name : String} {n : Nat}
    (hpre : pre.toList ≠ []) (hname : Named n name) :
    headerId (functionPrefix file p draw) ≠ qualify pre name := by
  intro h
  obtain ⟨m, hm⟩ := lastPart_headerId file p draw
  rw [h, lastPart_qualify hpre hname] at hm
  -- the name of a step begins with letters, and a number does not
  have hdigits : ∀ c ∈ name.toList, c.isDigit = true := fun c hc =>
    isDigit_of_mem_toString (Option.some.inj hm ▸ hc)
  obtain ⟨k, rfl⟩ := hname
  obtain ⟨c, hc⟩ : ∃ c, c ∈ k.letters.toList := by cases k <;> exact ⟨_, List.mem_cons_self⟩
  have := isDigit_of_isAlpha (isAlpha_of_mem_letters hc)
  exact absurd (hdigits c (by simp [hc])) (by simp [this])

/-! ## Sheets -/

/-- The prefix of a sheet: there is one, and that of a function ends in a drawn number. -/
structure Sheet.Prefixed {α : Type} (d : Sheet α) : Prop where
  /-- It is not empty. -/
  ne_nil : d.pre.toList ≠ []
  /-- The one of a function. -/
  ofFunction : d.path.isSome → ∃ file p draw, d.pre = functionPrefix file p draw

/-- Charts of which the steps have names of their own, by numbers from `a` up to `b`. -/
structure Arranged (align : Bool) (a b : Nat) (ds : List (Sheet (List Flow))) : Prop where
  /-- The steps of all charts. -/
  spread : Spread align a b (ds.flatMap fun d => allPlaces d.chart)
  /-- Wherever a chart leads, there is something. -/
  filled : ∀ d ∈ ds, Flow.AllFilled d.chart
  /-- The prefixes. -/
  prefixed : ∀ d ∈ ds, d.Prefixed

namespace Arranged

variable {align : Bool} {a b c : Nat} {ds ds' : List (Sheet (List Flow))}

theorem nil : Arranged align a b [] := ⟨Spread.nil, by simp, by simp⟩

theorem mono (h : Arranged align b c ds) (hab : a ≤ b) : Arranged align a c ds :=
  ⟨h.spread.mono hab le_rfl, h.filled, h.prefixed⟩

theorem append (h : Arranged align a b ds) (h' : Arranged align b c ds') (hab : a ≤ b) (hbc : b ≤ c) :
    Arranged align a c (ds ++ ds') where
  spread := by
    rw [List.flatMap_append]
    exact h.spread.append h'.spread hab hbc
  filled d hd := (List.mem_append.1 hd).elim (h.filled d) (h'.filled d)
  prefixed d hd := (List.mem_append.1 hd).elim (h.prefixed d) (h'.prefixed d)

theorem laid (h : Arranged align a b ds) {d : Sheet (List Flow)} (hd : d ∈ ds) : Laid align a b d.chart where
  spread := by
    obtain ⟨front, back, rfl⟩ := List.append_of_mem hd
    refine h.spread.sublist ?_
    rw [List.flatMap_append, List.flatMap_cons]
    exact (List.sublist_append_left _ _).trans (List.sublist_append_right _ _)
  filled := h.filled d hd

end Arranged

section Arrange

variable (o : Options) (file : String) {body : List Stmt}

theorem charted_sheet? (o : Chart.Options) (inner : Bool) (subject : Subject) (h : subject.Filled)
    (path : Option FunctionPath) {pre : String}
    (hpre : ∀ chart, Sheet.Prefixed (⟨path, pre, chart⟩ : Sheet (List Flow))) (a : Nat) :
    Charted a (sheet? flows o inner subject path pre) fun d b => Arranged o.align a b d.toList := by
  rintro s rfl
  obtain ⟨hle, hlaid⟩ := from_flows o inner h s.number
  refine ⟨hle, ?_⟩
  change Arranged o.align s.number ((flows o inner subject).run s.number).2
    (((flows o inner subject).run s.number).1.map (⟨path, pre, ·⟩)).toList
  cases hchart : ((flows o inner subject).run s.number).1 with
  | none => exact Arranged.nil
  | some chart =>
      have := hlaid chart hchart
      exact ⟨by simpa using this.spread, by simpa using this.filled, by simpa using hpre chart⟩

theorem charted_functionSheets (hbody : AllFilled body) (ps : List FunctionPath) (a : Nat) :
    Charted a (functionSheets flows o file body ps) fun ds b => Arranged o.align a b ds := by
  induction ps generalizing a with
  | nil => exact Charted.pure Arranged.nil
  | cons p ps ih =>
      have hsheet : Charted a (functionSheet? flows o file body p) fun d b => Arranged o.align a b d.toList := by
        refine Charted.draw fun draw => charted_sheet? _ _ (.function body p) hbody _
          (fun chart => ⟨?_, ?_⟩) a
        · exact toList_sanitize_ne_nil _
        · exact fun _ => ⟨file, p, draw, rfl⟩
      refine hsheet.bind fun d b hab hd => (ih b).bind fun ds c hbc hds => Charted.pure ?_
      exact hd.append hds hab hbc

theorem charted_wholeSheets (subject : Subject) (h : subject.Filled) (a : Nat) :
    Charted a (wholeSheets flows o file subject) fun ds b => Arranged o.align a b ds :=
  (charted_sheet? _ _ subject h none (fun _ => ⟨by simp, by simp⟩) a).bind fun _ _ _ hd => Charted.pure hd

theorem charted_rootSheets? (hbody : AllFilled body) (a : Nat) :
    Charted a (rootSheets? flows o file body) fun ds b => ∀ root ∈ ds, Arranged o.align a b root := by
  have hroot : AllFilled (rootBody body) :=
    allFilled_iff.2 fun s hs => allFilled_iff.1 hbody s (List.mem_of_mem_filter hs)
  simp only [rootSheets?]
  split_ifs
  · exact Charted.pure fun root h => Option.some.inj h ▸ Arranged.nil
  · exact Charted.pure (by simp)
  · refine (charted_sheet? _ _ (.program _) hroot none (fun _ => ⟨by simp, by simp⟩) a).bind fun d b _ hd =>
      Charted.pure fun root h => ?_
    obtain ⟨d, rfl, rfl⟩ := Option.map_eq_some_iff.1 h
    exact hd

/-- **The steps of all charts of a source text have names of their own.** -/
theorem charted_sheets (code : String) (a : Nat) :
    Charted a (sheets flows o file code) fun ds b => Arranged o.align a b ds := by
  unfold sheets
  cases hparse : parse? code.toList with
  | none => exact charted_wholeSheets o file (.unread code) trivial a
  | some body =>
      have hbody := filled_parse? hparse
      refine (charted_rootSheets? o file hbody a).bind fun root b hab hroot => ?_
      cases root with
      | none =>
          exact (charted_wholeSheets o file (.program body) hbody b).imp fun ds c _ hds =>
            hds.mono hab
      | some root =>
          refine (charted_functionSheets o file hbody _ b).bind fun ds c hbc hds => Charted.pure ?_
          exact (hroot root rfl).append hds hab hbc

end Arrange

/-! ## Graphs -/

theorem mem_ids_graph {flow pre id : String} : id ∈ (FlowText.graph flow pre).ids ↔
    ∃ x ∈ (FlowText.definitions flow.toList).map (·.id), qualify pre x = id := by
  simp [Graph.ids, FlowText.graph, FlowText.node]

theorem mem_ids_sheet {s : Sheet String} {id : String} : id ∈ s.graph.ids ↔
    (s.path.isSome ∧ id = headerId s.pre) ∨ id ∈ (FlowText.graph s.chart s.pre).ids := by
  unfold Sheet.graph
  cases s.path with
  | none => simp
  | some p => simp [block, header, Graph.ids]

/-- The link under a header always ends well. -/
theorem forall_links_sheet {s : Sheet String} {ids : List String} (hids : s.graph.ids ⊆ ids) :
    (∀ l ∈ s.graph.links, l.source ∈ ids ∧ l.target ∈ ids) ↔
      ∀ l ∈ (FlowText.graph s.chart s.pre).links, l.source ∈ ids ∧ l.target ∈ ids := by
  unfold Sheet.graph at *
  cases hpath : s.path with
  | none => rfl
  | some p =>
      simp only [hpath] at hids
      refine ⟨fun h l hl => h l (List.mem_append_right _ hl), fun h l hl => ?_⟩
      rcases List.mem_append.1 hl with hl | hl
      · -- from the header to a node of the chart
        obtain ⟨n, hn, rfl⟩ := Option.map_eq_some_iff.1 (Option.mem_toList.1 hl)
        refine ⟨hids List.mem_cons_self, hids (List.mem_cons_of_mem _ ?_)⟩
        exact List.mem_map.2 ⟨n, mem_of_anchor? hn, rfl⟩
      · exact h l hl

/-- The graph of some charts. -/
def graphOf (ds : List (Sheet (List Flow))) : Graph :=
  (Diagram.ofSheets (ds.map (Sheet.map flowText))).graph

theorem mem_ids_graphOf {ds : List (Sheet (List Flow))} {id : String} :
    id ∈ (graphOf ds).ids ↔ ∃ d ∈ ds, id ∈ (d.map flowText).graph.ids := by
  simp [graphOf, Diagram.ofSheets, Graph.ids, List.map_flatMap]

theorem mem_links_graphOf {ds : List (Sheet (List Flow))} {l : Link} :
    l ∈ (graphOf ds).links ↔ ∃ d ∈ ds, l ∈ (d.map flowText).graph.links := by
  simp [graphOf, Diagram.ofSheets]

/-- An identifier is declared by a line in the middle of what a step says. -/
def Restated (ds : List (Sheet (List Flow))) (id : String) : Prop :=
  ∃ d ∈ ds, ∃ s ∈ (trace d.chart).stops, ∃ x ∈ s.others, qualify d.pre x = id

namespace Arranged

variable {align : Bool} {a b : Nat} {ds : List (Sheet (List Flow))} (h : Arranged align a b ds)

include h

theorem mem_ids_iff {d : Sheet (List Flow)} (hd : d ∈ ds) {s : Stop} (hs : s ∈ (trace d.chart).stops) :
    qualify d.pre s.step.name ∈ (graphOf ds).ids ↔
      s.Declared ∨ Restated ds (qualify d.pre s.step.name) := by
  obtain ⟨n, hn⟩ := (h.laid hd).named_stop hs
  constructor
  · intro hid
    obtain ⟨d', hd', hid⟩ := mem_ids_graphOf.1 hid
    rcases mem_ids_sheet.1 hid with ⟨hpath, hheader⟩ | hid
    · -- a header ends in a number
      obtain ⟨file, p, draw, hpre⟩ := (h.prefixed d' hd').ofFunction hpath
      exact absurd (hpre ▸ hheader.symm) (headerId_ne_qualify (h.prefixed d hd).ne_nil hn)
    · obtain ⟨x, hx, heq⟩ := mem_ids_graph.1 hid
      obtain ⟨s', hs', hx⟩ := (h.laid hd').mem_declared_text.1 hx
      rcases hx with ⟨hdeclared, rfl⟩ | hx
      · -- identifiers end in names, and a name tells its step
        obtain ⟨m, hm⟩ := (h.laid hd').named_stop hs'
        have hname : s'.step.name = s.step.name :=
          name_eq_of_qualify (h.prefixed d' hd').ne_nil (h.prefixed d hd).ne_nil hm hn heq
        have hmem : ∀ e ∈ ds, ∀ r ∈ (trace e.chart).stops, r ∈ ds.flatMap fun d => allPlaces d.chart :=
          fun e he r hr => List.mem_flatMap.2 ⟨e, he, (reached_trace (h.filled e he)).1.stops hr⟩
        have := h.spread.eq_of_name (hmem d' hd' s' hs') (hmem d hd s hs) hname
        exact .inl (this ▸ hdeclared)
      · exact .inr ⟨d', hd', s', hs', x, hx, heq⟩
  · intro hid
    have hmem : ∀ e ∈ ds, ∀ r ∈ (trace e.chart).stops, ∀ x,
        (r.Declared ∧ x = r.step.name) ∨ x ∈ r.others → qualify e.pre x ∈ (graphOf ds).ids := by
      intro e he r hr x hx
      refine mem_ids_graphOf.2 ⟨e, he, mem_ids_sheet.2 (.inr (mem_ids_graph.2 ⟨x, ?_, rfl⟩))⟩
      exact (h.laid he).mem_declared_text.2 ⟨r, hr, hx⟩
    rcases hid with hdeclared | ⟨d', hd', s', hs', x, hx, heq⟩
    · exact hmem d hd s hs _ (.inl ⟨hdeclared, rfl⟩)
    · exact heq ▸ hmem d' hd' s' hs' x (.inr hx)

/-- **When the graph of some charts is closed.** -/
theorem closed_iff : (graphOf ds).Closed ↔ ∀ d ∈ ds,
    (∀ s ∈ (trace d.chart).stops, ∀ l ∈ s.strays d.pre,
      l.source ∈ (graphOf ds).ids ∧ l.target ∈ (graphOf ds).ids) ∧
    ((trace d.chart).arrows ≠ [] → ∀ s ∈ (trace d.chart).stops,
      s.Declared ∨ Restated ds (qualify d.pre s.step.name)) := by
  have hsheets : (graphOf ds).Closed ↔ ∀ d ∈ ds, ∀ l ∈ (FlowText.graph (flowText d.chart) d.pre).links,
      l.source ∈ (graphOf ds).ids ∧ l.target ∈ (graphOf ds).ids := by
    have hids : ∀ d ∈ ds, (d.map flowText).graph.ids ⊆ (graphOf ds).ids := fun d hd id hid =>
      mem_ids_graphOf.2 ⟨d, hd, hid⟩
    -- the links under headers drop out
    constructor
    · exact fun hclosed d hd => (forall_links_sheet (hids d hd)).1 fun l hl =>
        hclosed l (mem_links_graphOf.2 ⟨d, hd, hl⟩)
    · intro hall l hl
      obtain ⟨d, hd, hl⟩ := mem_links_graphOf.1 hl
      exact (forall_links_sheet (hids d hd)).2 (hall d hd) l hl
  rw [hsheets]
  refine forall₂_congr fun d hd => ?_
  rw [(h.laid hd).forall_links_iff]
  refine and_congr_right fun _ => imp_congr_right fun _ => forall₂_congr fun s hs => ?_
  exact h.mem_ids_iff hd hs

end Arranged

/-! ## Source texts -/

/-- The charts of which the diagram of a source text is made. -/
theorem graph_analyse (o : Chart.Options) (inner : Bool) (file code : String) (supply : Supply) :
    ((analyse { toOptions := o, inner := inner } file code).run supply).1.graph =
      graphOf ((sheets flows { toOptions := o, inner := inner } file code).run supply).1 := by
  have hanalyse : analyse { toOptions := o, inner := inner } file code =
      (fun ds => Diagram.ofSheets (ds.map (Sheet.map flowText))) <$>
        sheets flows { toOptions := o, inner := inner } file code := by
    simp [analyse, sheets_flowTexts]
  rw [hanalyse]
  rfl

/-- **When the graph of a source text is closed.** Two things have to hold of every chart: the links that
its steps happen to have in their texts end at identifiers that are declared, and, if the chart links
anything, every step is declared, by the first line of its text or by a line in the middle of another.
Both hold if no step is kept apart and no arrow stands in a text, and steps are kept apart only where
conditions are aligned. -/
theorem closed_analyse_iff (o : Chart.Options) (inner : Bool) (file code : String) (supply : Supply) :
    let options : Options := { toOptions := o, inner := inner }
    let charts := ((sheets flows options file code).run supply).1
    let g := ((analyse options file code).run supply).1.graph
    (g.Closed ↔ ∀ d ∈ charts,
      (∀ s ∈ (trace d.chart).stops, ∀ l ∈ s.strays d.pre, l.source ∈ g.ids ∧ l.target ∈ g.ids) ∧
      ((trace d.chart).arrows ≠ [] → ∀ s ∈ (trace d.chart).stops,
        s.Declared ∨ Restated charts (qualify d.pre s.step.name))) ∧
    ((∀ d ∈ charts, ∀ s ∈ (trace d.chart).stops,
      s.apart = false ∧ ∀ l ∈ s.lines, FlowText.isLink l = false) → g.Closed) ∧
    ∀ d ∈ charts, ∀ s ∈ (trace d.chart).stops, s.apart = true → o.align = true := by
  intro options charts g
  have hcharts := (charted_sheets options file code supply.number supply rfl).2
  have hg : g = graphOf charts := graph_analyse o inner file code supply
  rw [hg]
  refine ⟨hcharts.closed_iff, fun hplain => hcharts.closed_iff.2 fun d hd => ?_, fun d hd s hs => ?_⟩
  · refine ⟨fun s hs l hl => ?_, fun _ s hs => .inl ⟨(hplain d hd s hs).1, fun l hl => ?_⟩⟩
    · rw [Stop.strays_eq_nil (hplain d hd s hs).2] at hl
      simp at hl
    · exact (hplain d hd s hs).2 l (List.mem_of_mem_head? hl)
  · exact (hcharts.laid hd).spread.aligned s ((reached_trace (hcharts.filled d hd)).1.stops hs)

/-- A program with two conditions one after the other. -/
def adjacent : String := "if a:\n    x = 1\n    z = 3\nif b:\n    y = 2\n    w = 4\n"

/-- The first of them is linked and never declared. -/
theorem adjacent_not_closed :
    let g := ((analyse {} "main" adjacent).run {}).1.graph
    "main_ROOT_cond3" ∈ g.links.map (·.source) ∧ "main_ROOT_cond3" ∉ g.ids ∧ ¬g.Closed := by
  decide +kernel

end CodeFlow.SourceGraph
