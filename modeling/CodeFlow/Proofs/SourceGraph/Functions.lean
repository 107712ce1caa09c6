import Mathlib
import CodeFlow.Proofs.Diagram

/-!
# `CodeFlow.Proofs.SourceGraph.Functions` — functions are drawn in blocks of their own

The functions of a source text are charted one after the other. Making a chart may fail, and what makes the charts
is a parameter, so any of them may. A function then leaves no trace but the number drawn for it: no statement, and
no name.

What was tried is written down as a list (`Tried`), by one rule that does not ask how it went. The diagram is read
off that list: statements in order, and for every name the last function that has it and was charted.

## Contents
- `Trial`, `Tried`: functions that were tried; `run_functionSheets`.
- `RootCharted`, `run_rootSheets?`: the chart of the statements outside.
- `IsBlock`, `isBlock_block`: what is drawn for a function.
- `lookup_headers`: the last function of a name.
- `InBlocks`; `run_analyse`, `functions_drawn_in_blocks`, and `mixed`, of which some functions fail.
-/

namespace CodeFlow.SourceGraph

open Source Dot

/-! ## Functions that are tried -/

/-- A function that was tried. -/
structure Trial where
  /-- The function. -/
  path : FunctionPath
  /-- The number drawn for it. -/
  draw : Int
  /-- Its chart, if there is one. -/
  chart : Option String

namespace Trial

/-- The prefix of its identifiers. -/
def pre (file : String) (t : Trial) : String := functionPrefix file t.path t.draw

/-- Its chart as a sheet. -/
def sheet? (file : String) (t : Trial) : Option (Sheet String) := t.chart.map (⟨some t.path, t.pre file, ·⟩)

/-- The statements drawn for it: none if there is no chart. -/
def graph (file : String) (t : Trial) : Graph :=
  t.chart.elim {} fun flow => block t.path (t.pre file) (FlowText.graph flow (t.pre file))

/-- Whether it was charted and is known under a name. -/
def defines (key : String) (t : Trial) : Bool := t.chart.isSome && t.path.keys.contains key

end Trial

/-- Functions that are tried one after the other. For every one a number is drawn, whether it can be charted or
not. -/
inductive Tried (o : Options) (body : List Stmt) : Supply → List FunctionPath → List Trial → Supply → Prop where
  | nil (s : Supply) : Tried o body s [] [] s
  | cons {s s' : Supply} {p : FunctionPath} {ps : List FunctionPath} {ts : List Trial} {chart : Option String}
      {number : Nat}
      (hchart : (o.charter { o.toOptions with simplify := false } true (.function body p)).run s.number =
        (chart, number))
      (hrest : Tried o body ⟨number, s.draws.next.2⟩ ps ts s') :
      Tried o body s (p :: ps) (⟨p, s.draws.next.1, chart⟩ :: ts) s'

namespace Tried

variable {o : Options} {body : List Stmt} {s s' : Supply} {ps : List FunctionPath} {ts : List Trial}

theorem paths (h : Tried o body s ps ts s') : ts.map (·.path) = ps := by
  induction h with
  | nil => rfl
  | cons _ _ ih => rw [List.map_cons, ih]

/-- One number is drawn for each. -/
theorem draws_eq (h : Tried o body s ps ts s') :
    s'.draws = { s.draws with drawn := s.draws.drawn + ts.length } := by
  induction h with
  | nil => rfl
  | cons _ _ ih =>
      rw [ih]
      simp only [Draws.next, List.length_cons, Draws.mk.injEq, true_and]
      omega

/-- The numbers are those of the row, from where it stands. -/
theorem map_draw (h : Tried o body s ps ts s') : ts.map (·.draw) = (List.range ts.length).map fun i =>
    s.draws.values.getD ((s.draws.drawn + i) % s.draws.values.length) 0 := by
  induction h with
  | nil => rfl
  | cons _ _ ih =>
      rw [List.map_cons, ih, List.length_cons, List.range_succ_eq_map, List.map_cons, List.map_map]
      congr 1
      refine List.map_congr_left fun i _ => ?_
      simp only [Draws.next, Function.comp_apply]
      congr 2
      omega

end Tried

section Charting

variable {o : Options} {body : List Stmt} {s : Supply} {p : FunctionPath} {chart : Option String} {number : Nat}
  (file : String)

theorem run_functionSheet? (hrun : (o.charter { o.toOptions with simplify := false } true (.function body p)).run
    s.number = (chart, number)) : (functionSheet? o.charter o file body p).run s =
      (Trial.sheet? file ⟨p, s.draws.next.1, chart⟩, ⟨number, s.draws.next.2⟩) := by
  change (((o.charter _ true (.function body p)).run s.number).1.map _,
    (⟨((o.charter _ true (.function body p)).run s.number).2, s.draws.next.2⟩ : Supply)) = _
  rw [hrun]
  rfl

theorem run_functionSheets_cons (hrun : (o.charter { o.toOptions with simplify := false } true (.function body p)).run
    s.number = (chart, number)) (ps : List FunctionPath) :
    let rest := (functionSheets o.charter o file body ps).run ⟨number, s.draws.next.2⟩
    (functionSheets o.charter o file body (p :: ps)).run s =
      ((Trial.sheet? file ⟨p, s.draws.next.1, chart⟩).toList ++ rest.1, rest.2) := by
  intro rest
  rw [functionSheets, StateT.run_bind, run_functionSheet? file hrun]
  rfl

/-- Charting functions tries them all and keeps the charts there are. -/
theorem run_functionSheets (ps : List FunctionPath) (s : Supply) :
    ∃ ts, Tried o body s ps ts ((functionSheets o.charter o file body ps).run s).2 ∧
      ((functionSheets o.charter o file body ps).run s).1 = ts.filterMap (·.sheet? file) := by
  induction ps generalizing s with
  | nil => exact ⟨[], .nil s, rfl⟩
  | cons p ps ih =>
      obtain ⟨⟨chart, number⟩, hrun⟩ : ∃ r,
          (o.charter { o.toOptions with simplify := false } true (.function body p)).run s.number = r := ⟨_, rfl⟩
      obtain ⟨ts, htried, hsheets⟩ := ih ⟨number, s.draws.next.2⟩
      refine ⟨⟨p, s.draws.next.1, chart⟩ :: ts, ?_, ?_⟩
      · rw [run_functionSheets_cons file hrun]
        exact .cons hrun htried
      · rw [run_functionSheets_cons file hrun, hsheets, List.filterMap_cons]
        cases Trial.sheet? file ⟨p, s.draws.next.1, chart⟩ <;> rfl

end Charting

/-! ## Statements outside -/

/-- One chart takes numbers, whatever becomes of it. -/
theorem run_sheet? {α : Type} (charter : Charter α) (o : Chart.Options) (inner : Bool) (subject : Subject)
    (path : Option FunctionPath) (pre : String) (s : Supply) :
    (sheet? charter o inner subject path pre).run s =
      (((charter o inner subject).run s.number).1.map (⟨path, pre, ·⟩),
        { s with number := ((charter o inner subject).run s.number).2 }) := rfl

/-- The chart of the statements outside of functions and classes, where there are any. -/
inductive RootCharted (o : Options) (file : String) (body : List Stmt) (s : Supply) : Graph → Supply → Prop where
  | nothing (hnil : rootBody body = []) : RootCharted o file body s {} s
  | charted {flow : String} {number : Nat} (hne : rootBody body ≠ [])
      (hplain : isPlainProgram (rootBody body) = true)
      (hchart : (o.charter o.toOptions o.inner (.program (rootBody body))).run s.number = (some flow, number)) :
      RootCharted o file body s (FlowText.graph flow (file ++ "_ROOT")) { s with number := number }

theorem run_rootSheets? {o : Options} {file : String} {body : List Stmt} {s s' : Supply} {root : Graph}
    (h : RootCharted o file body s root s') :
    ∃ sheets, (rootSheets? o.charter o file body).run s = (some sheets, s') ∧
      sheets.flatMap (·.graph.nodes) = root.nodes ∧ sheets.flatMap (·.graph.links) = root.links ∧
      sheets.flatMap (·.headers) = [] := by
  cases h with
  | nothing hnil =>
      refine ⟨[], ?_, rfl, rfl, rfl⟩
      simp [rootSheets?, hnil]
      rfl
  | @charted flow number hne hplain hchart =>
      refine ⟨[⟨none, file ++ "_ROOT", flow⟩], ?_, by simp [Sheet.graph], by simp [Sheet.graph],
        by simp [Sheet.headers]⟩
      have hempty : (rootBody body).isEmpty = false := by simpa using hne
      have hsheet : (sheet? o.charter o.toOptions o.inner (.program (rootBody body)) none (file ++ "_ROOT")).run s =
          (some ⟨none, file ++ "_ROOT", flow⟩, { s with number := number }) := by
        rw [run_sheet?, hchart]
        rfl
      rw [rootSheets?]
      simp only [hempty, hplain, Bool.false_eq_true, if_false, Bool.not_true]
      rw [StateT.run_bind, hsheet]
      rfl

/-- Where there is no such chart, the statements outside are given up. -/
theorem run_rootSheets?_of_not {o : Options} {file : String} {body : List Stmt} {s : Supply}
    (h : ∀ root s', ¬RootCharted o file body s root s') :
    ∃ s', (rootSheets? o.charter o file body).run s = (none, s') := by
  have hne : rootBody body ≠ [] := fun hnil => h _ _ (.nothing hnil)
  have hempty : (rootBody body).isEmpty = false := by simpa using hne
  rw [rootSheets?]
  simp only [hempty, Bool.false_eq_true, if_false]
  by_cases hplain : isPlainProgram (rootBody body) = true
  · have hnone : ((o.charter o.toOptions o.inner (.program (rootBody body))).run s.number).1 = none := by
      rw [Option.eq_none_iff_forall_ne_some]
      exact fun flow hflow => h _ _ (.charted hne hplain (Prod.ext hflow rfl))
    rw [hplain, Bool.not_true, if_neg Bool.false_ne_true, run_bind_of_eq (run_sheet? ..), hnone]
    exact ⟨_, rfl⟩
  · rw [Bool.not_eq_true] at hplain
    rw [hplain, Bool.not_false, if_pos rfl]
    exact ⟨s, rfl⟩

/-- The chart of the statements outside draws no number. -/
theorem RootCharted.draws_eq {o : Options} {file : String} {body : List Stmt} {s s' : Supply} {root : Graph}
    (h : RootCharted o file body s root s') : s'.draws = s.draws := by
  cases h with
  | nothing _ => rfl
  | charted _ _ _ => rfl

/-! ## Blocks -/

theorem style_link (pre : String) (ends : List Char × List Char) : (FlowText.link pre ends).style ≠ .dotted := by
  have hstyle : ∀ spec, FlowText.styleOf spec ≠ .dotted := by
    intro spec
    simp only [FlowText.styleOf]
    split_ifs <;> simp
  simp only [FlowText.link]
  split_ifs
  · exact hstyle _
  · simp

theorem style_of_mem_graph {flow pre : String} {l : Link} (hl : l ∈ (FlowText.graph flow pre).links) :
    l.style ≠ .dotted := by
  obtain ⟨line, -, hl⟩ := List.mem_flatMap.1 hl
  unfold FlowText.lineLinks at hl
  split_ifs at hl
  · obtain ⟨ends, -, rfl⟩ := List.mem_map.1 hl
    exact style_link pre ends
  · simp at hl

/-- What is drawn for a function with a chart. -/
structure IsBlock (p : FunctionPath) (pre : String) (chart drawn : Graph) : Prop where
  /-- The header stands above the nodes of the chart. -/
  nodes : drawn.nodes = header p pre :: chart.nodes
  /-- A chart with nodes has one dotted link, from the header to one of them; then come its own links. -/
  bridge : chart.nodes ≠ [] → ∃ n ∈ chart.nodes, drawn.links = ⟨headerId pre, n.id, .dotted⟩ :: chart.links
  /-- A chart without nodes has its own links only. -/
  bare : chart.nodes = [] → drawn.links = chart.links
  /-- None of those is dotted. -/
  undotted : ∀ l ∈ chart.links, l.style ≠ .dotted

theorem anchor?_eq_none_iff {nodes : List Node} : anchor? nodes = none ↔ nodes = [] := by
  unfold anchor?
  cases hfind : nodes.find? mentionsOval with
  | some n => simp [List.ne_nil_of_mem (List.mem_of_find?_eq_some hfind)]
  | none => simp

theorem isBlock_block (p : FunctionPath) (flow pre : String) :
    IsBlock p pre (FlowText.graph flow pre) (block p pre (FlowText.graph flow pre)) where
  nodes := rfl
  bridge hne := by
    obtain ⟨n, hn⟩ := Option.ne_none_iff_exists'.1 (anchor?_eq_none_iff.not.2 hne)
    exact ⟨n, mem_of_anchor? hn, by simp [block, hn]⟩
  bare hnil := by simp [block, anchor?_eq_none_iff.2 hnil]
  undotted _ hl := style_of_mem_graph hl

/-! ## Names -/

section Put

variable {name header key : String} {defs : List (String × String)}

theorem lookup_cons_pair :
    ((name, header) :: defs).lookup key = if key = name then some header else defs.lookup key := by
  rw [List.lookup_cons]
  by_cases hkey : key = name
  · simp [hkey]
  · rw [beq_eq_false_iff_ne.2 hkey, if_neg hkey]

/-- What is entered last is found. -/
theorem lookup_putHeader :
    (putHeader name header defs).lookup key = if key = name then some header else defs.lookup key := by
  induction defs with
  | nil => exact lookup_cons_pair
  | cons d defs ih =>
      obtain ⟨n, h⟩ := d
      rw [putHeader]
      by_cases hname : n = name
      · subst hname
        rw [if_pos rfl, lookup_cons_pair, lookup_cons_pair]
        split_ifs <;> rfl
      · rw [if_neg hname, lookup_cons_pair, lookup_cons_pair, ih]
        by_cases hkey : key = n
        · have hne : ¬key = name := fun h => hname (hkey.symm.trans h)
          rw [if_pos hkey, if_neg hne, if_pos hkey]
        · rw [if_neg hkey, if_neg hkey]

theorem map_fst_putHeader : (putHeader name header defs).map (·.1) =
    if name ∈ defs.map (·.1) then defs.map (·.1) else defs.map (·.1) ++ [name] := by
  induction defs with
  | nil => simp [putHeader]
  | cons d defs ih =>
      obtain ⟨n, h⟩ := d
      by_cases hname : n = name
      · simp [putHeader, hname]
      · have hne : ¬name = n := fun h => hname h.symm
        rw [putHeader, if_neg hname, List.map_cons, ih]
        simp only [List.map_cons, List.mem_cons, hne, false_or]
        split_ifs <;> rfl

theorem nodup_putHeader (h : (defs.map (·.1)).Nodup) : ((putHeader name header defs).map (·.1)).Nodup := by
  rw [map_fst_putHeader]
  split_ifs with hmem
  · exact h
  · exact h.append (List.nodup_singleton _) (List.disjoint_singleton.2 hmem)

theorem mem_of_mem_putHeader {d : String × String} (hd : d ∈ putHeader name header defs) :
    d ∈ defs ∨ d = (name, header) := by
  induction defs with
  | nil => exact .inr (List.mem_singleton.1 hd)
  | cons e defs ih =>
      obtain ⟨n, h⟩ := e
      rw [putHeader] at hd
      split_ifs at hd with hname
      · rcases List.mem_cons.1 hd with rfl | hd
        · exact .inr (by rw [hname])
        · exact .inl (List.mem_cons_of_mem _ hd)
      · rcases List.mem_cons.1 hd with rfl | hd
        · exact .inl List.mem_cons_self
        · exact (ih hd).imp_left (List.mem_cons_of_mem _)

end Put

/-- The names of functions, from entries in order. -/
def enter (defs entries : List (String × String)) : List (String × String) :=
  entries.foldl (fun defs entry => putHeader entry.1 entry.2 defs) defs

theorem nodup_enter {defs : List (String × String)} (h : (defs.map (·.1)).Nodup) (entries : List (String × String)) :
    ((enter defs entries).map (·.1)).Nodup := by
  induction entries generalizing defs with
  | nil => exact h
  | cons entry entries ih => exact ih (nodup_putHeader h)

theorem mem_of_mem_enter {defs entries : List (String × String)} {d : String × String} (hd : d ∈ enter defs entries) :
    d ∈ defs ∨ d ∈ entries := by
  induction entries generalizing defs with
  | nil => exact .inl hd
  | cons entry entries ih =>
      rcases ih hd with hd | hd
      · refine (mem_of_mem_putHeader hd).imp_right fun heq => ?_
        rw [heq]
        exact List.mem_cons_self
      · exact .inr (List.mem_cons_of_mem _ hd)

/-- One header entered under some names. -/
theorem lookup_enter_map (keys : List String) (header key : String) (defs : List (String × String)) :
    (enter defs (keys.map (·, header))).lookup key = if key ∈ keys then some header else defs.lookup key := by
  induction keys generalizing defs with
  | nil => simp [enter]
  | cons name keys ih =>
      have hcons : enter defs ((name :: keys).map (·, header)) =
          enter (putHeader name header defs) (keys.map (·, header)) := rfl
      rw [hcons, ih, lookup_putHeader]
      by_cases hmem : key ∈ keys
      · simp [hmem]
      · simp [hmem]

/-- The header of a function that was tried, under its names, if it was charted. -/
def Trial.headers (file : String) (t : Trial) : List (String × String) :=
  t.chart.elim [] fun _ => t.path.keys.map (·, headerId (t.pre file))

/-- **A name leads to the last function that has it and was charted.** -/
theorem lookup_headers (file key : String) (ts : List Trial) :
    (enter [] (ts.flatMap (·.headers file))).lookup key =
      (ts.reverse.find? (·.defines key)).map fun t => headerId (t.pre file) := by
  induction ts using List.reverseRecOn with
  | nil => rfl
  | append_singleton ts t ih =>
      have hlast : enter [] ((ts ++ [t]).flatMap (·.headers file)) =
          enter (enter [] (ts.flatMap (·.headers file))) (t.headers file) := by
        simp [enter, List.flatMap_append]
      rw [hlast, List.reverse_append, List.reverse_singleton, List.singleton_append, List.find?_cons]
      obtain ⟨p, draw, chart⟩ := t
      cases chart with
      | none => simpa [Trial.headers, Trial.defines, enter] using ih
      | some flow =>
          rw [show Trial.headers file ⟨p, draw, some flow⟩ = p.keys.map (·, headerId (functionPrefix file p draw)) from
            rfl, lookup_enter_map, ih]
          by_cases hkey : key ∈ p.keys
          · simp [Trial.defines, Trial.pre, hkey]
          · simp [Trial.defines, hkey]

/-! ## Source texts -/

/-- The diagram of a source text, with the chart of the statements outside and the functions that were tried. -/
structure InBlocks (o : Options) (file : String) (body : List Stmt) (root : Graph) (s s' : Supply)
    (r : Diagram × Supply) (ts : List Trial) : Prop where
  /-- All functions were tried, those at the top first and then those of classes. -/
  tried : Tried o body s' (functionPaths body) ts r.2
  paths : ts.map (·.path) = functionPaths body
  /-- For each the next number of the row was drawn, and no other. -/
  draws : ts.map (·.draw) = (List.range ts.length).map fun i =>
    s.draws.values.getD ((s.draws.drawn + i) % s.draws.values.length) 0
  supply : r.2.draws = { s.draws with drawn := s.draws.drawn + ts.length }
  /-- The statements are those outside and then those of the functions, in order. -/
  nodes : r.1.graph.nodes = root.nodes ++ ts.flatMap fun t => (t.graph file).nodes
  links : r.1.graph.links = root.links ++ ts.flatMap fun t => (t.graph file).links
  /-- A function that was charted is drawn in a block, -/
  blocks : ∀ t ∈ ts, ∀ flow, t.chart = some flow →
    IsBlock t.path (t.pre file) (FlowText.graph flow (t.pre file)) (t.graph file)
  /-- and nothing is drawn for any other. -/
  failed : ∀ t ∈ ts, t.chart = none → t.graph file = {}
  /-- Every name is entered once, with the header of the last function that has it and was charted. -/
  names : (r.1.definitions.map (·.1)).Nodup
  lookup : ∀ key, r.1.definitions.lookup key =
    (ts.reverse.find? (·.defines key)).map fun t => headerId (t.pre file)
  /-- Every header is declared. -/
  declared : ∀ d ∈ r.1.definitions, d.2 ∈ r.1.graph.ids

theorem flatMap_filterMap {α β γ : Type} (f : α → Option β) (g : β → List γ) (xs : List α) :
    (xs.filterMap f).flatMap g = xs.flatMap fun x => (f x).elim [] g := by
  induction xs with
  | nil => rfl
  | cons x xs ih => cases hx : f x <;> simp [hx, ih]

section Assembled

variable {file : String} {ts : List Trial}

/-- What the charts there are give, read off the functions that were tried. -/
theorem flatMap_sheet? {γ : Type} {g : Sheet String → List γ} {h : Trial → List γ}
    (hnone : ∀ p draw, h ⟨p, draw, none⟩ = [])
    (hsome : ∀ p draw flow, h ⟨p, draw, some flow⟩ = g ⟨some p, functionPrefix file p draw, flow⟩) :
    (ts.filterMap (·.sheet? file)).flatMap g = ts.flatMap h := by
  rw [flatMap_filterMap]
  refine List.flatMap_congr fun t _ => ?_
  obtain ⟨p, draw, chart⟩ := t
  cases chart with
  | none => exact (hnone p draw).symm
  | some flow => exact (hsome p draw flow).symm

/-- A header that is entered is drawn. -/
theorem exists_node_of_mem_headers {d : String × String} (hd : d ∈ ts.flatMap (·.headers file)) :
    ∃ n ∈ ts.flatMap fun t => (t.graph file).nodes, n.id = d.2 := by
  obtain ⟨t, ht, hd⟩ := List.mem_flatMap.1 hd
  obtain ⟨p, draw, chart⟩ := t
  cases chart with
  | none => simp [Trial.headers] at hd
  | some flow =>
      obtain ⟨key, -, rfl⟩ := List.mem_map.1 hd
      exact ⟨_, List.mem_flatMap.2 ⟨_, ht, List.mem_cons_self⟩, rfl⟩

end Assembled

/-- The diagram made of a chart of the statements outside and of functions that were tried. -/
def assembled (file : String) (root : Graph) (ts : List Trial) : Diagram where
  graph := ⟨root.nodes ++ ts.flatMap fun t => (t.graph file).nodes,
    root.links ++ ts.flatMap fun t => (t.graph file).links⟩
  definitions := enter [] (ts.flatMap (·.headers file))

theorem ofSheets_append {sheets : List (Sheet String)} {root : Graph}
    (hnodes : sheets.flatMap (·.graph.nodes) = root.nodes) (hlinks : sheets.flatMap (·.graph.links) = root.links)
    (hheaders : sheets.flatMap (·.headers) = []) (file : String) (ts : List Trial) :
    Diagram.ofSheets (sheets ++ ts.filterMap (·.sheet? file)) = assembled file root ts := by
  have hdefs : ∀ sheets, (Diagram.ofSheets sheets).definitions = enter [] (sheets.flatMap (·.headers)) := fun _ => rfl
  have hgraph : (Diagram.ofSheets (sheets ++ ts.filterMap (·.sheet? file))).graph = (assembled file root ts).graph := by
    rw [Diagram.ofSheets, List.flatMap_append, List.flatMap_append, hnodes, hlinks,
      flatMap_sheet? (h := fun t => (t.graph file).nodes) (fun _ _ => rfl) fun _ _ _ => rfl,
      flatMap_sheet? (h := fun t => (t.graph file).links) (fun _ _ => rfl) fun _ _ _ => rfl, assembled]
  rw [Diagram.mk.injEq]
  refine ⟨hgraph, ?_⟩
  rw [hdefs, List.flatMap_append, hheaders, List.nil_append,
    flatMap_sheet? (h := (·.headers file)) (fun _ _ => rfl) fun _ _ _ => rfl, assembled]

theorem declared_of_mem_assembled {file : String} {root : Graph} {ts : List Trial} {d : String × String}
    (hd : d ∈ (assembled file root ts).definitions) : d.2 ∈ (assembled file root ts).graph.ids := by
  obtain ⟨n, hn, hid⟩ := exists_node_of_mem_headers ((mem_of_mem_enter hd).resolve_left (by simp))
  exact List.mem_map.2 ⟨n, List.mem_append_right _ hn, hid⟩

section Analysis

variable {o : Options} {file code : String} {body : List Stmt} {root : Graph} {s s' : Supply}

/-- The diagram of a source text is that of the functions that were tried. -/
theorem run_analyse (hparse : parse? code.toList = some body) (hroot : RootCharted o file body s root s') :
    ∃ ts, Tried o body s' (functionPaths body) ts ((analyse o file code).run s).2 ∧
      ((analyse o file code).run s).1 = assembled file root ts := by
  obtain ⟨sheets, hrun, hnodes, hlinks, hheaders⟩ := run_rootSheets? hroot
  obtain ⟨ts, htried, hfunctions⟩ := @run_functionSheets o body file (functionPaths body) s'
  have hanalyse : (analyse o file code).run s = (Diagram.ofSheets (sheets ++ ts.filterMap (·.sheet? file)),
      ((functionSheets o.charter o file body (functionPaths body)).run s').2) := by
    rw [analyse, SourceGraph.sheets, hparse]
    simp only [StateT.run_bind, hrun]
    rw [← hfunctions]
    rfl
  rw [hanalyse]
  exact ⟨ts, htried, ofSheets_append hnodes hlinks hheaders file ts⟩

/-- **Functions are drawn in blocks**, whatever the charts are and whichever of them fail, if the statements outside
can be charted. -/
theorem functions_drawn_in_blocks (hparse : parse? code.toList = some body)
    (hroot : RootCharted o file body s root s') :
    ∃ ts, InBlocks o file body root s s' ((analyse o file code).run s) ts := by
  obtain ⟨ts, htried, hdiagram⟩ := run_analyse hparse hroot
  refine ⟨ts, ?_⟩
  generalize (analyse o file code).run s = r at *
  obtain ⟨d, s''⟩ := r
  obtain rfl : d = assembled file root ts := hdiagram
  refine
    { tried := htried
      paths := htried.paths
      draws := hroot.draws_eq ▸ htried.map_draw
      supply := hroot.draws_eq ▸ htried.draws_eq
      nodes := rfl
      links := rfl
      blocks := ?_
      failed := ?_
      names := @nodup_enter [] List.nodup_nil _
      lookup := fun key => lookup_headers file key ts
      declared := fun d => declared_of_mem_assembled }
  · rintro ⟨p, draw, chart⟩ - flow rfl
    exact isBlock_block p flow _
  · rintro ⟨p, draw, chart⟩ - rfl
    rfl

end Analysis

/-- Three functions, of which the first cannot be charted and the others share a name. -/
def mixed : String :=
  "x = 1\ndef f():\n match x:\n  case 1:\n   pass\ndef g():\n return 2\nclass C:\n def g(self):\n  return 3\n"

/-- A row of two numbers, of which none was drawn. -/
def twoDraws : Supply where
  draws := ⟨[7, 8], 0⟩

/-- A number is drawn for each function of `mixed`, also for the first, and both names of the last lead to it. -/
theorem mixed_drawn_in_blocks : ∃ body root s' ts, parse? mixed.toList = some body ∧
    RootCharted {} "main" body twoDraws root s' ∧
    InBlocks {} "main" body root twoDraws s' ((analyse {} "main" mixed).run twoDraws) ts ∧
    ((analyse {} "main" mixed).run twoDraws).1.graph.ids = ["main_ROOT_op2", "HEAD_main_FN_g_8", "main_FN_g_8_io11",
      "main_FN_g_8_e9", "HEAD_main_FN_C_g_7", "main_FN_C_g_7_io19", "main_FN_C_g_7_e17"] ∧
    ((analyse {} "main" mixed).run twoDraws).1.definitions =
      [("g", "HEAD_main_FN_C_g_7"), ("C.g", "HEAD_main_FN_C_g_7")] := by
  have houtside : (parse? mixed.toList).any (fun body =>
      (rootBody body).isEmpty = false ∧ isPlainProgram (rootBody body) = true ∧
        ((flowTexts {} true (.program (rootBody body))).run 0).1.isSome) = true := by
    decide +kernel
  obtain ⟨body, hparse, houtside⟩ := (Option.any_eq_true _ _).1 houtside
  obtain ⟨hempty, hplain, hchart⟩ := of_decide_eq_true houtside
  obtain ⟨flow, hflow⟩ := Option.isSome_iff_exists.1 hchart
  have hroot := @RootCharted.charted {} "main" body twoDraws flow _ (List.isEmpty_eq_false_iff.1 hempty) hplain
    (Prod.ext hflow rfl)
  obtain ⟨ts, h⟩ := functions_drawn_in_blocks hparse hroot
  refine ⟨body, _, _, ts, hparse, hroot, h, Prod.mk.inj ?_⟩
  decide +kernel

end CodeFlow.SourceGraph
