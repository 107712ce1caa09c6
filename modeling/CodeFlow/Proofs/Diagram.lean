import Mathlib
import CodeFlow.Job
import CodeFlow.Proofs.BraceGraph
import CodeFlow.Proofs.Dot.Document
import CodeFlow.Proofs.Label
import CodeFlow.Proofs.Outcome
import CodeFlow.Proofs.Work

/-!
# `CodeFlow.Proofs.Diagram` — diagrams are posted as documents

Texts of any kind reach the labels and identifiers of a diagram: names of files, lines of code, whatever a
charter makes of a program. Every way into a document is followed here, and each one ends in sound
statements, so what is posted is well-formed.

## Contents
- `FlowText.sound_graph`, `BraceGraph.sound_diagram`, `SourceGraph.sound_analyse`: the three readers.
- `Diagram.sound_document`: all values that can be drawn.
- `Diagram.posts_wellFormed`.
-/

namespace CodeFlow

open Dot Ident Work

theorem isIdentifier_append {a b : String} (ha : Begins a) (hall : ∀ c ∈ a.toList, isIdentChar c = true)
    (hb : ∀ c ∈ b.toList, isIdentChar c = true) : isIdentifier (a ++ b).toList = true := by
  refine isIdentifier_of_forall (ha.append b) fun c hc => ?_
  rw [String.toList_append, List.mem_append] at hc
  exact hc.elim (hall c) (hb c)

namespace Dot.Graph.Sound

theorem empty : Graph.Sound {} := ⟨by simp, by simp⟩

theorem flatMap {α : Type} {f : α → Graph} {xs : List α} (h : ∀ x ∈ xs, (f x).Sound) :
    Graph.Sound ⟨xs.flatMap fun x => (f x).nodes, xs.flatMap fun x => (f x).links⟩ := by
  constructor
  · intro n hn
    obtain ⟨x, hx, hn⟩ := List.mem_flatMap.1 hn
    exact (h x hx).nodes n hn
  · intro l hl
    obtain ⟨x, hx, hl⟩ := List.mem_flatMap.1 hl
    exact (h x hx).links l hl

end Dot.Graph.Sound

/-! ## Flow texts -/

namespace FlowText

theorem sound_node {pre : String} (hpre : Begins pre) (d : Definition) : (node pre d).Sound :=
  ⟨isIdentifier_qualify hpre d.id, Label.quotable_escape _ _⟩

theorem sound_link {pre : String} (hpre : Begins pre) (ends : List Char × List Char) :
    (link pre ends).Sound :=
  ⟨isIdentifier_qualify hpre _, isIdentifier_qualify hpre _⟩

/-- Any text may be read as a flow text. -/
theorem sound_graph {pre : String} (hpre : Begins pre) (flow : String) : (graph flow pre).Sound := by
  constructor
  · intro n hn
    obtain ⟨d, -, rfl⟩ := List.mem_map.1 hn
    exact sound_node hpre d
  · intro l hl
    obtain ⟨line, -, hl⟩ := List.mem_flatMap.1 hl
    unfold lineLinks at hl
    split_ifs at hl
    · obtain ⟨e, -, rfl⟩ := List.mem_map.1 hl
      exact sound_link hpre e
    · simp at hl

end FlowText

/-! ## Code with braces -/

namespace BraceGraph

theorem isIdentChar_of_mem_word {m : Mark} {c : Char} (hc : c ∈ m.word.toList) :
    isIdentChar c = true := by
  have hnumbered : ∀ (w : String) (k : Nat), w.toList.all isIdentChar = true →
      c ∈ (w ++ toString k).toList → isIdentChar c = true := by
    intro w k hw hmem
    rw [String.toList_append, List.mem_append] at hmem
    exact hmem.elim (List.all_eq_true.1 hw c) isIdentChar_of_mem_toString
  cases m with
  | start => exact List.all_eq_true.1 (rfl : "_start".toList.all isIdentChar = true) c hc
  | finish => exact List.all_eq_true.1 (rfl : "_end".toList.all isIdentChar = true) c hc
  | line k => exact hnumbered "_node_" k rfl hc
  | meet k => exact hnumbered "_out_" k rfl hc

/-- What a line adds has a label that stays between its quotes. -/
theorem quotable_advance {pre : String} {s : State} (h : ∀ n ∈ s.graph.nodes, Quotable n.label.toList)
    (line : List Char) : ∀ n ∈ (advance pre s line).graph.nodes, Quotable n.label.toList := by
  have hadd : ∀ (t : State) (n : Node) (ls : List Link), t.graph = s.graph → Quotable n.label.toList →
      ∀ m ∈ (t.add n ls).graph.nodes, Quotable m.label.toList := by
    intro t n ls ht hn m hm
    rw [State.add, Graph.append_nodes, ht, List.mem_append] at hm
    rcases hm with hm | hm
    · exact h m hm
    · rw [List.mem_singleton.1 hm]
      exact hn
  unfold advance
  cases classify line with
  | opens => exact hadd _ _ _ rfl (Label.quotable_escape _ _)
  | plain => exact hadd _ _ _ rfl (Label.quotable_escape _ _)
  | other =>
      have helse : Quotable "else".toList := by decide
      cases s.conditions with
      | nil => exact h
      | cons c rest => exact hadd _ _ _ rfl helse
  | closes =>
      cases s.conditions with
      | nil => exact h
      | cons c rest => exact hadd _ _ _ rfl quotable_nil

theorem quotable_foldl {pre : String} {s : State} (h : ∀ n ∈ s.graph.nodes, Quotable n.label.toList)
    (ls : List (List Char)) :
    ∀ n ∈ (ls.foldl (advance pre) s).graph.nodes, Quotable n.label.toList := by
  induction ls generalizing s with
  | nil => exact h
  | cons l ls ih => exact ih (quotable_advance h l)

theorem quotable_of_isIdentChar {t : List Char} (h : ∀ c ∈ t, isIdentChar c = true) : Quotable t := by
  induction t with
  | nil => exact quotable_nil
  | cons c t ih =>
      have hne : ∀ d : Char, isIdentChar d = false → c ≠ d := by
        rintro d hd rfl
        rw [h c List.mem_cons_self] at hd
        exact absurd hd (by simp)
      exact (quotable_single (hne '"' rfl) (hne '\\' rfl) (hne '\n' rfl)).append
        (ih fun d hd => h d (List.mem_cons_of_mem _ hd))

/-- The diagram of any code, under the name of a file that is an identifier. -/
theorem sound_diagram {file : String} (hfile : Begins file)
    (hall : ∀ c ∈ file.toList, isIdentChar c = true) (code : String) : (diagram code file).Sound := by
  have hids : ∀ id ∈ (diagram code file).ids, isIdentifier id.toList = true := by
    intro id hid
    obtain ⟨m, rfl⟩ := exists_mark_of_mem_diagram hid
    exact isIdentifier_append hfile.sanitize (fun _ => isIdentChar_of_mem_sanitize)
      fun _ => isIdentChar_of_mem_word
  have hstart : Quotable ("INICIO: " ++ file).toList := by
    rw [String.toList_append]
    exact Quotable.append (by decide +kernel) (quotable_of_isIdentChar hall)
  have hfinish : Quotable "FIN".toList := by decide
  have hlabels : ∀ n ∈ (diagram code file).nodes, Quotable n.label.toList := by
    intro n hn
    rw [diagram, finish, Graph.append_nodes, List.mem_append] at hn
    rcases hn with hn | hn
    · exact quotable_foldl (by simpa [start] using hstart) _ n hn
    · rw [List.mem_singleton.1 hn]
      exact hfinish
  constructor
  · intro n hn
    exact ⟨hids n.id (List.mem_map.2 ⟨n, hn, rfl⟩), hlabels n hn⟩
  · intro l hl
    have hclosed := (grown_diagram code file).closed l hl
    exact ⟨hids _ hclosed.1, hids _ hclosed.2⟩

end BraceGraph

/-! ## Source texts -/

namespace SourceGraph

variable {α : Type}

/-- The sheets of a file, by their prefixes. -/
inductive Sheet.Of (file : String) : Sheet α → Prop where
  /-- The statements outside of functions. -/
  | outside (chart : α) : Sheet.Of file ⟨none, file ++ "_ROOT", chart⟩
  /-- The text as a whole. -/
  | whole (chart : α) : Sheet.Of file ⟨none, file ++ "_FALLBACK", chart⟩
  /-- A function, under the number drawn for it. -/
  | function (p : FunctionPath) (draw : Int) (chart : α) :
      Sheet.Of file ⟨some p, functionPrefix file p draw, chart⟩

/-- Whatever the charter makes of a subject. -/
theorem satisfies_sheet? {charter : Charter α} {o : Chart.Options} {inner : Bool} {subject : Subject}
    {path : Option FunctionPath} {pre : String} {P : Sheet α → Prop} (h : ∀ chart, P ⟨path, pre, chart⟩) :
    SatisfiesM (∀ s ∈ ·, P s) (sheet? charter o inner subject path pre) := by
  rw [satisfiesM_run]
  intro supply s hs
  obtain ⟨chart, -, rfl⟩ := Option.map_eq_some_iff.1 hs
  exact h chart

section Sheets

variable (charter : Charter α) (o : Options) (file : String) (body : List Source.Stmt)

theorem of_functionSheets (ps : List FunctionPath) :
    SatisfiesM (∀ s ∈ ·, Sheet.Of file s) (functionSheets charter o file body ps) := by
  induction ps with
  | nil => exact SatisfiesM.pure (by simp)
  | cons p ps ih =>
      have hfunction : SatisfiesM (∀ s ∈ ·, Sheet.Of file s) (functionSheet? charter o file body p) :=
        satisfiesM_of_forall fun draw => satisfies_sheet? fun chart => .function p draw chart
      refine hfunction.bind fun s hs => ih.bind fun ss hss => ?_
      refine SatisfiesM.pure fun t ht => ?_
      rcases List.mem_append.1 ht with ht | ht
      · exact hs t (Option.mem_toList.1 ht)
      · exact hss t ht

theorem of_wholeSheets (subject : Subject) :
    SatisfiesM (∀ s ∈ ·, Sheet.Of file s) (wholeSheets charter o file subject) := by
  refine (satisfies_sheet? fun chart => Sheet.Of.whole chart).bind fun s hs => SatisfiesM.pure ?_
  exact fun t ht => hs t (Option.mem_toList.1 ht)

theorem of_rootSheets? :
    SatisfiesM (∀ ss ∈ ·, ∀ s ∈ ss, Sheet.Of file s) (rootSheets? charter o file body) := by
  simp only [rootSheets?]
  split_ifs
  · exact SatisfiesM.pure (by simp)
  · exact SatisfiesM.pure (by simp)
  · refine (satisfies_sheet? fun chart => Sheet.Of.outside chart).bind fun s hs => SatisfiesM.pure ?_
    intro ss hss t ht
    obtain ⟨u, hu, rfl⟩ := Option.map_eq_some_iff.1 hss
    exact List.mem_singleton.1 ht ▸ hs u hu

/-- Whatever the charter makes of a source text, its sheets are prefixed by the file. -/
theorem of_sheets (code : String) :
    SatisfiesM (∀ s ∈ ·, Sheet.Of file s) (sheets charter o file code) := by
  unfold sheets
  cases Source.parse? code.toList with
  | none => exact of_wholeSheets charter o file _
  | some body =>
      refine (of_rootSheets? charter o file body).bind fun root hroot => ?_
      cases root with
      | none => exact of_wholeSheets charter o file _
      | some root =>
          refine (of_functionSheets charter o file body _).bind fun fs hfs => SatisfiesM.pure ?_
          intro s hs
          exact (List.mem_append.1 hs).elim (hroot root rfl s) (hfs s)

end Sheets

theorem mem_of_anchor? {nodes : List Node} {n : Node} (h : anchor? nodes = some n) : n ∈ nodes := by
  unfold anchor? at h
  split at h
  · rename_i m hm
    exact Option.some.inj h ▸ List.mem_of_find?_eq_some hm
  · exact List.mem_of_mem_head? h

/-- A header above a sound chart. -/
theorem sound_block {pre : String} (hpre : ∀ c ∈ pre.toList, isIdentChar c = true) (p : FunctionPath)
    {g : Graph} (hg : g.Sound) : (block p pre g).Sound := by
  have hhead : isIdentifier (headerId pre).toList = true :=
    isIdentifier_append ⟨'H', "EAD_".toList, rfl, rfl⟩ (List.all_eq_true.1 rfl) hpre
  constructor
  · intro n hn
    rcases List.mem_cons.1 hn with rfl | hn
    · exact ⟨hhead, Label.quotable_escape _ _⟩
    · exact hg.nodes n hn
  · intro l hl
    rcases List.mem_append.1 hl with hl | hl
    · obtain ⟨n, hn, rfl⟩ := Option.map_eq_some_iff.1 (Option.mem_toList.1 hl)
      exact ⟨hhead, (hg.nodes n (mem_of_anchor? hn)).id⟩
    · exact hg.links l hl

theorem Sheet.Of.sound_graph {file : String} {s : Sheet String} (h : Sheet.Of file s)
    (hfile : Begins file) : s.graph.Sound := by
  cases h with
  | outside chart => exact FlowText.sound_graph (hfile.append _) chart
  | whole chart => exact FlowText.sound_graph (hfile.append _) chart
  | function p draw chart =>
      have hpre : Begins (functionPrefix file p draw) :=
        (((hfile.append _).append _).append _ |>.append _).sanitize
      exact sound_block (fun _ hc => isIdentChar_of_mem_sanitize hc) p (FlowText.sound_graph hpre chart)

/-- Whatever the charter makes of a source text. -/
theorem sound_analyse (o : Options) {file : String} (hfile : Begins file) (code : String) :
    SatisfiesM (fun d => d.graph.Sound) (analyse o file code) :=
  (of_sheets o.charter o file code).bind fun _ hss =>
    SatisfiesM.pure (Graph.Sound.flatMap fun s hs => (hss s hs).sound_graph hfile)

end SourceGraph

/-! ## Documents -/

namespace Diagram

theorem isIdentChar_of_mem_filePrefix {index : Nat} {name : String} {c : Char}
    (hc : c ∈ (filePrefix index name).toList) : isIdentChar c = true := by
  simp only [filePrefix, String.toList_append, List.mem_append] at hc
  rcases hc with ((hc | hc) | hc) | hc
  · exact List.all_eq_true.1 (rfl : "FILE_".toList.all isIdentChar = true) c hc
  · exact isIdentChar_of_mem_toString hc
  · exact List.all_eq_true.1 (rfl : "_".toList.all isIdentChar = true) c hc
  · exact isIdentChar_of_mem_sanitize hc

theorem begins_filePrefix (index : Nat) (name : String) : Begins (filePrefix index name) := by
  have hfile : Begins "FILE_" := ⟨'F', "ILE_".toList, rfl, rfl⟩
  exact ((hfile.append _).append _).append _

/-- A file of any kind. -/
theorem sound_fileGraph (o : SourceGraph.Options) (index : Nat) (name : String) (code : Value) :
    SatisfiesM Graph.Sound (fileGraph o index name code) := by
  have hbegins := begins_filePrefix index name
  unfold fileGraph
  split
  · split_ifs
    · exact (SourceGraph.sound_analyse o hbegins _).map fun h => h
    · exact SatisfiesM.pure
        (BraceGraph.sound_diagram hbegins (fun _ => isIdentChar_of_mem_filePrefix) _)
  · exact SatisfiesM.pure Graph.Sound.empty

theorem sound_cluster? {index : Nat} {name : String} {g : Graph} (hg : g.Sound) :
    ∀ c ∈ cluster? index name g, c.Sound := by
  intro c hc
  unfold cluster? at hc
  split_ifs at hc
  · simp at hc
  · rw [← Option.some.inj hc]
    exact ⟨Label.quotable_escape _ _, hg⟩

theorem sound_clusters (o : SourceGraph.Options) (index : Nat) (items : List Value) :
    SatisfiesM (fun r => ∀ cs, r = .ok cs → ∀ c ∈ cs, c.Sound) (clusters o index items) := by
  induction items generalizing index with
  | nil =>
      refine SatisfiesM.pure ?_
      rintro cs ⟨⟩
      simp
  | cons item rest ih =>
      unfold clusters
      split
      · exact SatisfiesM.pure (by simp)
      · split
        · exact SatisfiesM.pure (by simp)
        · refine (sound_fileGraph o index _ _).bind fun g hg => (ih (index + 1)).bind fun r hr => ?_
          cases r with
          | error e => exact SatisfiesM.pure (by simp)
          | ok others =>
              refine SatisfiesM.pure ?_
              rintro cs ⟨⟩ c hc
              rcases List.mem_append.1 hc with hc | hc
              · exact sound_cluster? hg c (Option.mem_toList.1 hc)
              · exact hr others rfl c hc

/-- **Every document that is drawn is sound.** -/
theorem sound_document (o : SourceGraph.Options) (input : Value) :
    SatisfiesM (fun r => ∀ d, r = .ok d → d.Sound) (document o input) := by
  have hmain : Begins "main" := ⟨'m', "ain".toList, rfl, rfl⟩
  unfold document
  split
  · refine (SourceGraph.sound_analyse o hmain _).bind fun d hd => SatisfiesM.pure ?_
    rintro _ ⟨⟩
    exact hd
  · refine (sound_clusters o 0 _).bind fun r hr => ?_
    cases r with
    | error e => exact SatisfiesM.pure (by simp)
    | ok cs =>
        refine SatisfiesM.pure ?_
        rintro _ ⟨⟩
        exact hr cs rfl
  · refine SatisfiesM.pure ?_
    rintro _ ⟨⟩
    exact fun c hc => absurd hc (by simp)

/-- What callers draw: a text, or names and codes of files. -/
inductive Drawable : Value → Prop where
  | text (code : String) : Drawable (.text code)
  | files (parts : List (String × String)) : Drawable (Job.payloadValue parts)

theorem isOk_clusters (o : SourceGraph.Options) (index : Nat) (parts : List (String × String)) :
    SatisfiesM (fun r => r.isOk = true)
      (clusters o index (parts.map fun (n, c) => .list [.text n, .text c])) := by
  induction parts generalizing index with
  | nil => exact SatisfiesM.pure rfl
  | cons part rest ih =>
      refine satisfiesM_of_forall fun g => (ih (index + 1)).bind fun r hr => ?_
      cases r with
      | error e => exact absurd hr (by simp [Except.isOk, Except.toBool])
      | ok others => exact SatisfiesM.pure rfl

/-- What callers draw can be drawn. -/
theorem isOk_document (o : SourceGraph.Options) {input : Value} (h : Drawable input) :
    SatisfiesM (fun r => r.isOk = true) (document o input) := by
  cases h with
  | text code => exact satisfiesM_of_forall fun d => SatisfiesM.pure rfl
  | files parts =>
      refine (isOk_clusters o 0 parts).bind fun r hr => ?_
      cases r with
      | error e => exact absurd hr (by simp [Except.isOk, Except.toBool])
      | ok cs => exact SatisfiesM.pure rfl

/-! ## Requests -/

/-- What drawing a document comes to, with the numbers of a workspace. -/
def drawn (o : Options) (input : Value) (w : Workspace) : Except Misfit Document :=
  ((document o.source input).run w.supply).1

/-- A document that is drawn is rendered; of a value that cannot be used nothing is handed over or posted. -/
theorem records_generateDocument (o : Options) (input : Value) (output : String) (w : Workspace) :
    records ((generateDocument o input output).run w).2 =
      match drawn o input w with
      | .error _ => records w
      | .ok d => (w.requests ++ (if o.simulate then [] else [Rendering.request o.engine d.render]),
          w.handovers ++ [⟨d.render, output⟩]) := by
  unfold generateDocument
  rw [StateT.run_bind]
  change records ((match drawn o input w with
    | .error e => _
    | .ok d => _ : Work Bool).run _).2 = _
  cases drawn o input w with
  | error e => rfl
  | ok d => exact Rendering.records_render _ _ _ _ _

theorem requests_generateDocument (o : Options) (input : Value) (output : String) (w : Workspace) :
    ((generateDocument o input output).run w).2.requests = w.requests ++
      match drawn o input w with
      | .error _ => []
      | .ok d => if o.simulate then [] else [Rendering.request o.engine d.render] := by
  have hrecords := congrArg Prod.fst (records_generateDocument o input output w)
  cases hd : drawn o input w with
  | error e =>
      rw [hd] at hrecords
      exact hrecords.trans (List.append_nil _).symm
  | ok d =>
      rw [hd] at hrecords
      exact hrecords

/-- **What is posted is a well-formed document**, whatever texts it was drawn from and whatever the charter
makes of them, and a text or files are posted once. -/
theorem posts_wellFormed (o : Options) (input : Value) (output : String) (w : Workspace)
    (hengine : o.engine ≠ chartEngine) :
    ∃ rs, ((generate o input output).run w).2.requests = w.requests ++ rs ∧
      (∀ r ∈ rs, WellFormed r.body.toList) ∧
      (Drawable input → rs.length = if o.simulate then 0 else 1) := by
  -- only the engine that takes charts goes another way
  have hgenerate : ((generate o input output).run w).2 = ((generateDocument o input output).run w).2 := by
    rw [generate, if_neg hengine]
    rfl
  rw [hgenerate, requests_generateDocument]
  refine ⟨_, rfl, ?_, ?_⟩
  · intro r hr
    have hsound := satisfiesM_run.1 (sound_document o.source input) w.supply
    cases hd : drawn o input w with
    | error e => simp [hd] at hr
    | ok d =>
        simp only [hd] at hr
        split_ifs at hr
        · simp at hr
        · rw [List.mem_singleton.1 hr]
          exact wellFormed_plainBody (hsound d hd)
  · intro hinput
    have hok : (drawn o input w).isOk = true :=
      satisfiesM_run.1 (isOk_document o.source hinput) w.supply
    cases hd : drawn o input w with
    | error e => exact absurd hok (by simp [hd, Except.isOk, Except.toBool])
    | ok d =>
        simp only
        split_ifs <;> rfl

/-- A file whose name and code hold quotes, line ends and a backslash at the end. -/
theorem posts_wellFormed_quotes :
    ({} : Options).engine ≠ chartEngine ∧
      ∃ r, ((generate {} (Job.payloadValue [("a\"\n.c", "if (\"\\")]) "out.pdf").run {}).2.requests = [r] ∧
        WellFormed r.body.toList := by
  have hengine : ({} : Options).engine ≠ chartEngine := by decide
  obtain ⟨rs, hrs, hall, hlength⟩ :=
    posts_wellFormed {} (Job.payloadValue [("a\"\n.c", "if (\"\\")]) "out.pdf" {} hengine
  obtain ⟨r, rfl⟩ := List.length_eq_one_iff.1 (hlength (.files _))
  exact ⟨hengine, r, hrs, hall r (by simp)⟩

end Diagram

end CodeFlow
