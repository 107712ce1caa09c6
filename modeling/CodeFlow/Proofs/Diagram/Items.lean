import Mathlib
import CodeFlow.Proofs.Diagram

/-!
# `CodeFlow.Proofs.Diagram.Items` — values of any kind as diagrams

What is to be drawn may be any value, and the items of a list may be of any shape. An item that is not a name with
code ends the drawing, and one message is printed. Code that cannot be read leaves its file without a block, and
the files around it are drawn as ever.

## Contents
- `Value.Names`, `Value.IsFile`, `Value.Unfit`: what an item has to be, and what it can be instead.
- `Readable`, `Drawn`: files one after the other, each with its fate; `run_clusters`.
- `DocumentOf`, `Usable`: whole values; `run_document`.
- `generate_hands_over_or_reports`.
-/

namespace CodeFlow

/-! ## Items -/

namespace Value

/-- A value names a file: a text does, and an empty list or record stands for an empty name. -/
inductive Names : Value → String → Prop where
  | text (t : String) : Names (.text t) t
  | list : Names (.list []) ""
  | record : Names (.record []) ""

/-- A value that falls into two parts, a name and code of any kind. -/
def IsFile (v : Value) (name : String) (code : Value) : Prop :=
  ∃ n, v.parts? = some [n, code] ∧ n.Names name

/-- A value that does not, and what is said of it. -/
inductive Unfit (v : Value) : Misfit → Prop where
  | whole (hparts : v.parts? = none) : Unfit v (.noPair v.kindWord)
  | few {parts : List Value} (hparts : v.parts? = some parts) (hlength : parts.length < 2) :
      Unfit v (.tooFew parts.length)
  | many {parts : List Value} (hparts : v.parts? = some parts) (hlength : 2 < parts.length) : Unfit v .tooMany
  | unnamed {n code : Value} (hparts : v.parts? = some [n, code]) (hname : ∀ name, ¬n.Names name) :
      Unfit v (if n.isNothing then .noSearch n.kindWord else .noName n.kindWord)

theorem fileName_cases (n : Value) :
    (∃ name, n.Names name ∧ n.fileName = .ok name) ∨
      (∀ name, ¬n.Names name) ∧
        n.fileName = .error (if n.isNothing then .noSearch n.kindWord else .noName n.kindWord) := by
  unfold fileName
  split
  · exact .inl ⟨_, .text _, rfl⟩
  · exact .inl ⟨_, .list, rfl⟩
  · exact .inl ⟨_, .record, rfl⟩
  · rename_i htext hlist hrecord
    refine .inr ⟨?_, rfl⟩
    rintro name ⟨⟩
    · exact htext _ rfl
    · exact hlist rfl
    · exact hrecord rfl

/-- Where the two parts of a value and its name are looked at, it is a file or the misfit is found. -/
theorem file_cases (v : Value) :
    (∃ n name code, v.IsFile name code ∧ v.pair = .ok (n, code) ∧ n.fileName = .ok name) ∨
      ∃ e, v.Unfit e ∧ (v.pair = .error e ∨ ∃ n code, v.pair = .ok (n, code) ∧ n.fileName = .error e) := by
  cases hparts : v.parts? with
  | none => exact .inr ⟨_, .whole hparts, .inl (by simp only [pair, hparts])⟩
  | some parts =>
      match parts, hparts with
      | [], hparts => exact .inr ⟨_, .few hparts (by simp), .inl (by simp [pair, hparts])⟩
      | [_], hparts => exact .inr ⟨_, .few hparts (by simp), .inl (by simp [pair, hparts])⟩
      | [n, code], hparts =>
          have hpair : v.pair = .ok (n, code) := by simp only [pair, hparts]
          rcases fileName_cases n with ⟨name, hname, hread⟩ | ⟨hname, hread⟩
          · exact .inl ⟨n, name, code, ⟨n, hparts, hname⟩, hpair, hread⟩
          · exact .inr ⟨_, .unnamed hparts hname, .inr ⟨n, code, hpair, hread⟩⟩
      | _ :: _ :: _ :: _, hparts => exact .inr ⟨_, .many hparts (by simp), .inl (by simp [pair, hparts])⟩

/-- No value is both. -/
theorem Unfit.not_isFile {v : Value} {e : Misfit} (h : v.Unfit e) {name : String} {code : Value} :
    ¬v.IsFile name code := by
  rintro ⟨n, hfile, hname⟩
  cases h with
  | whole hparts => simp [hparts] at hfile
  | few hparts hlength =>
      rw [hparts] at hfile
      cases hfile
      simp at hlength
  | many hparts hlength =>
      rw [hparts] at hfile
      cases hfile
      simp at hlength
  | unnamed hparts hunnamed =>
      rw [hparts] at hfile
      cases hfile
      exact hunnamed name hname

end Value

namespace Diagram

open Dot Work

/-! ## Files -/

/-- Code that can be read: a text, and in the language if its name is that of source code. -/
def Readable (name : String) (code : Value) : Prop :=
  ∃ t, code = .text t ∧ (extension name = "py" → ∃ body, Source.parse? t.toList = some body)

/-- Files drawn one after the other from a place on, with the numbers there are before and after: their blocks. -/
inductive Drawn (o : SourceGraph.Options) : Nat → List Value → Supply → List Cluster → Supply → Prop where
  | nil {i : Nat} {s : Supply} : Drawn o i [] s [] s
  /-- Code that can be read is analysed, and what is drawn of it stands in a block. -/
  | read {i : Nat} {item : Value} {rest : List Value} {name : String} {code : Value} {g : Graph}
      {s s₁ s' : Supply} {cs : List Cluster} (hfile : item.IsFile name code) (hread : Readable name code)
      (hgraph : (fileGraph o i name code).run s = (g, s₁)) (hrest : Drawn o (i + 1) rest s₁ cs s') :
      Drawn o i (item :: rest) s ((cluster? i name g).toList ++ cs) s'
  /-- Other code has no block and uses up no numbers. The file keeps its place. -/
  | skip {i : Nat} {item : Value} {rest : List Value} {name : String} {code : Value} {s s' : Supply}
      {cs : List Cluster} (hfile : item.IsFile name code) (hread : ¬Readable name code)
      (hrest : Drawn o (i + 1) rest s cs s') : Drawn o i (item :: rest) s cs s'

section Runs

variable {o : SourceGraph.Options} (hcharter : o.charter = SourceGraph.flowTexts)

include hcharter in
/-- Of code that cannot be read nothing is drawn. -/
theorem run_fileGraph_of_not_readable {name : String} {code : Value} (h : ¬Readable name code) (i : Nat)
    (s : Supply) : (fileGraph o i name code).run s = ({}, s) := by
  cases code with
  | text t =>
      have hpy : extension name = "py" := by
        by_contra hne
        exact h ⟨t, rfl, fun heq => absurd heq hne⟩
      have hparse : Source.parse? t.toList = none := by
        cases hparse : Source.parse? t.toList with
        | none => rfl
        | some body => exact absurd ⟨t, rfl, fun _ => ⟨body, hparse⟩⟩ h
      rw [fileGraph, if_pos hpy]
      simp only [SourceGraph.analyse, SourceGraph.sheets, hparse, hcharter]
      rfl
  | null | flag _ | number _ | float _ _ | list _ | record _ => rfl

/-- A file is drawn, and then the others. -/
theorem run_clusters_cons {i : Nat} {item n : Value} {rest : List Value} {name : String} {code : Value}
    (hpair : item.pair = .ok (n, code)) (hname : n.fileName = .ok name) {s s₁ s₂ : Supply} {g : Graph}
    {result : Except Misfit (List Cluster)} (hgraph : (fileGraph o i name code).run s = (g, s₁))
    (hrest : (clusters o (i + 1) rest).run s₁ = (result, s₂)) :
    (clusters o i (item :: rest)).run s = (result.map ((cluster? i name g).toList ++ ·), s₂) := by
  simp only [clusters, hpair, hname]
  rw [run_bind_of_eq hgraph, run_bind_of_eq hrest]
  cases result with
  | error e => rfl
  | ok others => rfl

theorem run_clusters_of_unfit {i : Nat} {item : Value} {rest : List Value} {e : Misfit}
    (h : item.pair = .error e ∨ ∃ n code, item.pair = .ok (n, code) ∧ n.fileName = .error e) (s : Supply) :
    (clusters o i (item :: rest)).run s = (.error e, s) := by
  rcases h with hpair | ⟨n, code, hpair, hname⟩
  · simp only [clusters, hpair]
    rfl
  · simp only [clusters, hpair, hname]
    rfl

include hcharter in
/-- **The blocks of items of any shape**: of all of them if each is a file, or else the first that is not. -/
theorem run_clusters (i : Nat) (items : List Value) (s : Supply) :
    (∃ cs s', Drawn o i items s cs s' ∧ (clusters o i items).run s = (.ok cs, s')) ∨
      ∃ before item rest e s', items = before ++ item :: rest ∧ (∀ v ∈ before, ∃ name code, v.IsFile name code) ∧
        item.Unfit e ∧ (clusters o i items).run s = (.error e, s') := by
  induction items generalizing i s with
  | nil => exact .inl ⟨[], s, .nil, rfl⟩
  | cons item rest ih =>
      rcases item.file_cases with ⟨n, name, code, hfile, hpair, hname⟩ | ⟨e, hunfit, hmisfit⟩
      · obtain ⟨g, s₁, hgraph⟩ : ∃ g s₁, (fileGraph o i name code).run s = (g, s₁) := ⟨_, _, rfl⟩
        rcases ih (i + 1) s₁ with
          ⟨cs, s', hdrawn, hrest⟩ | ⟨before, other, after, e, s', hitems, hbefore, hunfit, hrest⟩
        · have hrun := run_clusters_cons hpair hname hgraph hrest
          by_cases hread : Readable name code
          · exact .inl ⟨_, s', .read hfile hread hgraph hdrawn, hrun⟩
          · rw [run_fileGraph_of_not_readable hcharter hread] at hgraph
            cases hgraph
            exact .inl ⟨cs, s', .skip hfile hread hdrawn, hrun⟩
        · have hrun := run_clusters_cons hpair hname hgraph hrest
          refine .inr ⟨item :: before, other, after, e, s', by rw [hitems]; rfl, ?_, hunfit, hrun⟩
          intro v hv
          rcases List.mem_cons.1 hv with rfl | hv
          · exact ⟨name, code, hfile⟩
          · exact hbefore v hv
      · exact .inr ⟨[], item, rest, e, s, rfl, by simp, hunfit, run_clusters_of_unfit hmisfit s⟩

end Runs

/-! ## Values -/

/-- A value that can be drawn. Only the items of a list are looked at. -/
def Usable (input : Value) : Prop :=
  ∀ items, input = .list items → ∀ item ∈ items, ∃ name code, item.IsFile name code

/-- The document of a value, with the numbers there are before and after. -/
inductive DocumentOf (o : SourceGraph.Options) : Value → Supply → Document → Supply → Prop where
  /-- A text is drawn as one graph. -/
  | text (code : String) (s : Supply) :
      DocumentOf o (.text code) s (.single ((SourceGraph.analyse o "main" code).run s).1.graph)
        ((SourceGraph.analyse o "main" code).run s).2
  /-- A list is drawn in blocks. -/
  | files {items : List Value} {s s' : Supply} {cs : List Cluster} (hdrawn : Drawn o 0 items s cs s') :
      DocumentOf o (.list items) s (.clustered cs) s'
  /-- Anything else is drawn as nothing. -/
  | blank {input : Value} (s : Supply) (htext : ∀ code, input ≠ .text code) (hlist : ∀ items, input ≠ .list items) :
      DocumentOf o input s (.clustered []) s

/-- What is said of a list that cannot be drawn: the first item that is no file counts. -/
def FirstUnfit (input : Value) (e : Misfit) : Prop :=
  ∃ before item rest, input = .list (before ++ item :: rest) ∧ (∀ v ∈ before, ∃ name code, v.IsFile name code) ∧
    item.Unfit e

theorem FirstUnfit.not_usable {input : Value} {e : Misfit} (h : FirstUnfit input e) : ¬Usable input := by
  obtain ⟨before, item, rest, rfl, -, hunfit⟩ := h
  intro husable
  obtain ⟨name, code, hfile⟩ := husable _ rfl item (by simp)
  exact hunfit.not_isFile hfile

theorem Drawn.isFile {o : SourceGraph.Options} {i : Nat} {items : List Value} {s s' : Supply} {cs : List Cluster}
    (h : Drawn o i items s cs s') : ∀ item ∈ items, ∃ name code, item.IsFile name code := by
  induction h with
  | nil => simp
  | read hfile _ _ _ ih | skip hfile _ _ ih =>
      intro item hitem
      rcases List.mem_cons.1 hitem with rfl | hitem
      · exact ⟨_, _, hfile⟩
      · exact ih item hitem

theorem DocumentOf.usable {o : SourceGraph.Options} {input : Value} {s s' : Supply} {d : Document}
    (h : DocumentOf o input s d s') : Usable input := by
  intro items hinput
  cases h with
  | text code s => cases hinput
  | files hdrawn =>
      cases hinput
      exact hdrawn.isFile
  | blank s htext hlist => exact absurd hinput (hlist items)

/-- **The document of a value of any kind**, or why there is none. -/
theorem run_document {o : SourceGraph.Options} (hcharter : o.charter = SourceGraph.flowTexts) (input : Value)
    (s : Supply) :
    (∃ d s', DocumentOf o input s d s' ∧ (document o input).run s = (.ok d, s')) ∨
      ∃ e s', FirstUnfit input e ∧ (document o input).run s = (.error e, s') := by
  cases input with
  | text code => exact .inl ⟨_, _, .text code s, rfl⟩
  | list items =>
      rcases run_clusters hcharter 0 items s with
        ⟨cs, s', hdrawn, hrun⟩ | ⟨before, item, rest, e, s', rfl, hbefore, hunfit, hrun⟩
      · refine .inl ⟨.clustered cs, s', .files hdrawn, ?_⟩
        rw [document, run_bind_of_eq hrun]
        rfl
      · refine .inr ⟨e, s', ⟨before, item, rest, rfl, hbefore, hunfit⟩, ?_⟩
        rw [document, run_bind_of_eq hrun]
        rfl
  | null | flag _ | number _ | float _ _ | record _ =>
      exact .inl ⟨_, _, .blank s (by simp) (by simp), rfl⟩

/-- The line that tells why nothing was drawn. -/
def reportOf (e : Misfit) : String := "\n    Error procesando lógica del flowchart: " ++ e.message

theorem run_charting {α : Type} {a : StateM Supply α} {w : Workspace} {x : α} {s : Supply}
    (h : a.run w.supply = (x, s)) : (charting a).run w = (x, { w with supply := s }) := by
  change ((a.run w.supply).1, { w with supply := (a.run w.supply).2 }) = _
  rw [h]

/-- **A value of any kind is handed over or reported.** A value that is no list, or a list of files, becomes one
well-formed document, which is rendered: what that tells is told. For any other list one line is printed and
failure is told, with nothing handed over or posted and no file changed; it speaks of the first item that is no
file. A file whose code is not a text, or is named as source code and not in the language, has no block. -/
theorem generate_hands_over_or_reports (o : Options) (input : Value) (output : String) (w : Workspace)
    (hengine : o.engine ≠ chartEngine) (hcharter : o.source.charter = SourceGraph.flowTexts) :
    let r := (generate o input output).run w
    (Usable input → ∃ d s, DocumentOf o.source input w.supply d s ∧
      WellFormed (Rendering.plainBody d.render).toList ∧
      r.2.handovers = w.handovers ++ [⟨d.render, output⟩] ∧
      r = Prod.map .ok id
        ((Rendering.render o.simulate o.engine d.render output).run { w with supply := s })) ∧
    (¬Usable input → ∃ e s, FirstUnfit input e ∧
      r = (.ok false, { w with supply := s, terminal := w.terminal.print (reportOf e) })) := by
  intro r
  have hgenerate : r = Prod.map .ok id ((generateDocument o input output).run w) := by
    change (generate o input output).run w = _
    rw [generate, if_neg hengine]
    rfl
  rcases run_document hcharter input w.supply with ⟨d, s, hd, hrun⟩ | ⟨e, s, hunfit, hrun⟩
  · refine ⟨fun _ => ⟨d, s, hd, ?_, ?_, ?_⟩, fun hnot => absurd hd.usable hnot⟩
    · have hsound := satisfiesM_run.1 (sound_document o.source input) w.supply
      rw [hrun] at hsound
      exact wellFormed_plainBody (hsound d rfl)
    · rw [hgenerate, generateDocument, run_bind_of_eq (run_charting hrun)]
      exact congrArg Prod.snd (Rendering.records_render o.simulate o.engine d.render output _)
    · rw [hgenerate, generateDocument, run_bind_of_eq (run_charting hrun)]
  · refine ⟨fun husable => absurd husable hunfit.not_usable, fun _ => ⟨e, s, hunfit, ?_⟩⟩
    rw [hgenerate, generateDocument, run_bind_of_eq (run_charting hrun)]
    rfl

/-- Code that is not a text, a record for a file, and with them a number. -/
theorem number_among_files_reported :
    ({} : Options).engine ≠ chartEngine ∧ ({} : Options).source.charter = SourceGraph.flowTexts ∧
    Usable (.list [.list [.text "a.py", .null], .record [("b.c", .null), ("x;", .null)]]) ∧
    (∃ d s, DocumentOf {} (.list [.list [.text "a.py", .null], .record [("b.c", .null), ("x;", .null)]]) {} d s ∧
      ((generate {} (.list [.list [.text "a.py", .null], .record [("b.c", .null), ("x;", .null)]])
        "out.pdf").run {}).2.handovers = [⟨d.render, "out.pdf"⟩]) ∧
    ¬Usable (.list [.list [.text "a.py", .null], .number 7]) ∧
    ∃ e s, FirstUnfit (.list [.list [.text "a.py", .null], .number 7]) e ∧
      (generate {} (.list [.list [.text "a.py", .null], .number 7]) "out.pdf").run {} =
        (.ok false, { supply := s, terminal := ({} : Terminal).print (reportOf e) }) := by
  have hengine : ({} : Options).engine ≠ chartEngine := by decide
  have husable : Usable (.list [.list [.text "a.py", .null], .record [("b.c", .null), ("x;", .null)]]) := by
    rintro items ⟨⟩ item hitem
    simp only [List.mem_cons, List.not_mem_nil, or_false] at hitem
    rcases hitem with rfl | rfl
    · exact ⟨"a.py", .null, _, rfl, .text _⟩
    · exact ⟨"b.c", .text "x;", _, rfl, .text _⟩
  have hnot : ¬Usable (.list [.list [.text "a.py", .null], .number 7]) := by
    intro h
    obtain ⟨name, code, n, hparts, -⟩ := h _ rfl (.number 7) (by simp)
    exact absurd hparts (by simp [Value.parts?])
  obtain ⟨d, s, hd, -, hhandovers, -⟩ :=
    (generate_hands_over_or_reports {} _ "out.pdf" {} hengine rfl).1 husable
  exact ⟨hengine, rfl, husable, ⟨d, s, hd, hhandovers⟩, hnot,
    (generate_hands_over_or_reports {} _ "out.pdf" {} hengine rfl).2 hnot⟩

end Diagram

end CodeFlow
