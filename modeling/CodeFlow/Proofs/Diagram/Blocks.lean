import Mathlib
import CodeFlow.Proofs.Diagram

/-!
# `CodeFlow.Proofs.Diagram.Blocks` — one block for each file

Files are analysed one after the other, each under a prefix with its place. A document has a block for each
analysis with nodes, in that order, and no identifier occurs in the blocks of two files.

## Contents
- `Dot.Graph.mentioned`, `Diagram.Under`: identifiers and where they belong; `Under.unique`.
- `under_analyse`, `under_diagram`, `under_fileGraph`: the readers keep to the prefix of their file.
- `fileGraphs`, `BlocksOf`: the analyses and the blocks made of them; `clusters_eq`.
- `files_drawn_in_blocks`.
-/

namespace CodeFlow

open Dot Ident

/-- The identifiers that the statements of a graph declare or mention. -/
def Dot.Graph.mentioned (g : Graph) : List String :=
  g.ids ++ g.links.flatMap fun l => [l.source, l.target]

theorem Dot.Graph.mem_mentioned {g : Graph} {x : String} : x ∈ g.mentioned ↔
    (∃ n ∈ g.nodes, n.id = x) ∨ ∃ l ∈ g.links, x = l.source ∨ x = l.target := by
  simp [mentioned, ids]

/-! ## Prefixes -/

namespace Ident

variable {front : List Char} (hfront : ∀ c ∈ front, isIdentChar c = true)

include hfront

theorem prefix_sanitize {text : String} (h : front <+: text.toList) :
    front <+: (sanitize text).toList := by
  by_cases hempty : text.toList = []
  · rw [hempty, List.prefix_nil] at h
    simp [h]
  · obtain ⟨rest, hrest⟩ := h
    rw [toList_sanitize hempty, ← hrest, List.map_append, map_sanitizeChar hfront]
    exact List.prefix_append _ _

theorem prefix_qualify (hne : front ≠ []) {pre : String} (h : front <+: pre.toList) (name : String) :
    front <+: (qualify pre name).toList := by
  have hpre : pre.toList ≠ [] := by
    intro hnil
    rw [hnil, List.prefix_nil] at h
    exact hne h
  rw [qualify, if_neg (by simpa using hpre)]
  refine prefix_sanitize hfront (h.trans ?_)
  simp [String.toList_append]

end Ident

namespace Diagram

/-- What the identifiers of a file begin with, by its place. -/
def own (i : Nat) : List Char := "FILE_".toList ++ (toString i).toList ++ ['_']

/-- An identifier belongs to the file at a place: it begins as those of its statements or of its headers. -/
def Under (i : Nat) (x : String) : Prop := own i <+: x.toList ∨ "HEAD_".toList ++ own i <+: x.toList

theorem isIdentChar_of_mem_own {i : Nat} {c : Char} (hc : c ∈ own i) : isIdentChar c = true := by
  simp only [own, List.mem_append] at hc
  rcases hc with (hc | hc) | hc
  · exact List.all_eq_true.1 (rfl : "FILE_".toList.all isIdentChar = true) c hc
  · exact isIdentChar_of_mem_toString hc
  · exact List.all_eq_true.1 (rfl : ['_'].all isIdentChar = true) c hc

theorem own_ne_nil (i : Nat) : own i ≠ [] := by simp [own]

/-- The digits of the place end at the underscore behind them, so 1 is not taken for 11. -/
theorem own_unique {i j : Nat} {t : List Char} (hi : own i <+: t) (hj : own j <+: t) : i = j := by
  have hdigits : ∀ {k : Nat}, own k <+: t → (t.drop 5).takeWhile Char.isDigit = (toString k).toList := by
    intro k hk
    obtain ⟨rest, rfl⟩ := hk
    have hall : ∀ c ∈ (toString k).toList, c.isDigit = true := fun c hc => isDigit_of_mem_toString hc
    have hdrop : (own k ++ rest).drop 5 = (toString k).toList ++ '_' :: rest := by
      simp [own]
    rw [hdrop, List.takeWhile_append_of_pos hall]
    simp
  have := (hdigits hi).symm.trans (hdigits hj)
  exact Nat.repr_injective (String.toList_inj.1 this)

/-- **An identifier belongs to one file only.** -/
theorem Under.unique {i j : Nat} {x : String} (hi : Under i x) (hj : Under j x) : i = j := by
  -- a header begins with another letter than a statement
  have hmixed : ∀ {i j : Nat}, own i <+: x.toList → "HEAD_".toList ++ own j <+: x.toList → False := by
    intro i j hi hj
    obtain ⟨r, hr⟩ := hi
    obtain ⟨u, hu⟩ := hj
    have := hr.trans hu.symm
    simp [own] at this
  rcases hi with hi | hi <;> rcases hj with hj | hj
  · exact own_unique hi hj
  · exact (hmixed hi hj).elim
  · exact (hmixed hj hi).elim
  · obtain ⟨r, hr⟩ := hi
    rw [← hr, List.append_assoc, List.prefix_append_right_inj] at hj
    exact own_unique (List.prefix_append _ r) hj

end Diagram

/-! ## Readers -/

open Diagram

/-- The statements of a flow text keep to what its prefix begins with. -/
theorem FlowText.prefix_graph {front : List Char} (hfront : ∀ c ∈ front, isIdentChar c = true)
    (hne : front ≠ []) {pre : String} (h : front <+: pre.toList) (flow : String) :
    ∀ x ∈ (FlowText.graph flow pre).mentioned, front <+: x.toList := by
  intro x hx
  rcases Graph.mem_mentioned.1 hx with ⟨n, hn, rfl⟩ | ⟨l, hl, hx⟩
  · obtain ⟨d, -, rfl⟩ := List.mem_map.1 hn
    exact prefix_qualify hfront hne h d.id
  · obtain ⟨line, -, hl⟩ := List.mem_flatMap.1 hl
    unfold lineLinks at hl
    split_ifs at hl
    · obtain ⟨ends, -, rfl⟩ := List.mem_map.1 hl
      rcases hx with rfl | rfl
      · exact prefix_qualify hfront hne h _
      · exact prefix_qualify hfront hne h _
    · simp at hl

namespace SourceGraph

/-- The statements of a function keep to the file, and so does its header. -/
theorem under_block {i : Nat} {pre : String} (hpre : own i <+: pre.toList) (p : FunctionPath) {g : Graph}
    (hg : ∀ x ∈ g.mentioned, Under i x) : ∀ x ∈ (block p pre g).mentioned, Under i x := by
  have hhead : Under i (headerId pre) := by
    refine .inr ?_
    rw [headerId, String.toList_append, List.prefix_append_right_inj]
    exact hpre
  intro x hx
  rcases Graph.mem_mentioned.1 hx with ⟨n, hn, rfl⟩ | ⟨l, hl, hx⟩
  · rcases List.mem_cons.1 hn with rfl | hn
    · exact hhead
    · exact hg n.id (Graph.mem_mentioned.2 (.inl ⟨n, hn, rfl⟩))
  · rcases List.mem_append.1 hl with hl | hl
    · -- from the header to a node of the chart
      obtain ⟨n, hn, rfl⟩ := Option.map_eq_some_iff.1 (Option.mem_toList.1 hl)
      rcases hx with rfl | rfl
      · exact hhead
      · exact hg n.id (Graph.mem_mentioned.2 (.inl ⟨n, mem_of_anchor? hn, rfl⟩))
    · exact hg x (Graph.mem_mentioned.2 (.inr ⟨l, hl, hx⟩))

theorem Sheet.Of.under {file : String} {s : Sheet String} (h : Sheet.Of file s) {i : Nat}
    (hfile : own i <+: file.toList) : ∀ x ∈ s.graph.mentioned, Under i x := by
  have hown : ∀ c ∈ own i, isIdentChar c = true := fun c hc => isIdentChar_of_mem_own hc
  have hchart : ∀ {pre : String}, own i <+: pre.toList → ∀ flow : String,
      ∀ x ∈ (FlowText.graph flow pre).mentioned, Under i x := fun hpre flow x hx =>
    .inl (FlowText.prefix_graph hown (own_ne_nil i) hpre flow x hx)
  have happend : ∀ t : String, own i <+: (file ++ t).toList := fun t =>
    hfile.trans (by simp [String.toList_append])
  cases h with
  | outside chart => exact hchart (happend "_ROOT") chart
  | whole chart => exact hchart (happend "_FALLBACK") chart
  | function p draw chart =>
      have hpre : own i <+: (functionPrefix file p draw).toList := by
        refine prefix_sanitize hown ?_
        simp only [String.append_assoc]
        exact happend _
      exact under_block hpre p (hchart hpre chart)

theorem under_analyse (o : Options) {file : String} {i : Nat} (hfile : own i <+: file.toList)
    (code : String) :
    SatisfiesM (fun d => ∀ x ∈ d.graph.mentioned, Under i x) (analyse o file code) := by
  refine (of_sheets o.charter o file code).bind fun ss hss => SatisfiesM.pure ?_
  intro x hx
  rcases Graph.mem_mentioned.1 hx with ⟨n, hn, rfl⟩ | ⟨l, hl, hx⟩
  · obtain ⟨s, hs, hn⟩ := List.mem_flatMap.1 hn
    exact (hss s hs).under hfile n.id (Graph.mem_mentioned.2 (.inl ⟨n, hn, rfl⟩))
  · obtain ⟨s, hs, hl⟩ := List.mem_flatMap.1 hl
    exact (hss s hs).under hfile x (Graph.mem_mentioned.2 (.inr ⟨l, hl, hx⟩))

end SourceGraph

/-- Code with braces keeps to its file. -/
theorem BraceGraph.under_diagram {file : String} {i : Nat} (hfile : own i <+: file.toList) (code : String) :
    ∀ x ∈ (diagram code file).mentioned, Under i x := by
  have hids : ∀ x ∈ (diagram code file).ids, Under i x := by
    intro x hx
    obtain ⟨m, rfl⟩ := exists_mark_of_mem_diagram hx
    refine .inl ((prefix_sanitize (fun c hc => isIdentChar_of_mem_own hc) hfile).trans ?_)
    simp [Mark.ident, String.toList_append]
  intro x hx
  rcases Graph.mem_mentioned.1 hx with ⟨n, hn, rfl⟩ | ⟨l, hl, hx⟩
  · exact hids n.id (List.mem_map.2 ⟨n, hn, rfl⟩)
  · have hclosed := (grown_diagram code file).closed l hl
    rcases hx with rfl | rfl
    · exact hids _ hclosed.1
    · exact hids _ hclosed.2

namespace Diagram

theorem own_prefix_filePrefix (i : Nat) (name : String) : own i <+: (filePrefix i name).toList := by
  simp [own, filePrefix, String.toList_append]

/-- **The analysis of a file keeps to its place**, whatever its name, its code and the charter are. -/
theorem under_fileGraph (o : SourceGraph.Options) (i : Nat) (name : String) (code : Value) :
    SatisfiesM (fun g => ∀ x ∈ g.mentioned, Under i x) (fileGraph o i name code) := by
  unfold fileGraph
  split
  · split_ifs
    · exact (SourceGraph.under_analyse o (own_prefix_filePrefix i name) _).map fun h => h
    · exact SatisfiesM.pure (BraceGraph.under_diagram (own_prefix_filePrefix i name) _)
  · exact SatisfiesM.pure (by simp [Graph.mentioned, Graph.ids])

/-! ## Blocks -/

/-- The analyses of files one after the other, from a place on. -/
def fileGraphs (o : SourceGraph.Options) : Nat → List (String × String) → StateM Supply (List Graph)
  | _, [] => return []
  | i, (name, code) :: rest => do
    let g ← fileGraph o i name (.text code)
    let others ← fileGraphs o (i + 1) rest
    return g :: others

/-- The blocks of analysed files, from a place on. -/
def blocks : Nat → List (String × String) → List Graph → List Cluster
  | i, (name, _) :: parts, g :: gs => (cluster? i name g).toList ++ blocks (i + 1) parts gs
  | _, _, _ => []

theorem clusters_eq (o : SourceGraph.Options) (i : Nat) (parts : List (String × String)) :
    clusters o i (parts.map fun (n, c) => .list [.text n, .text c]) =
      (fun gs => .ok (blocks i parts gs)) <$> fileGraphs o i parts := by
  induction parts generalizing i with
  | nil => rfl
  | cons part rest ih =>
      obtain ⟨name, code⟩ := part
      have hstep : clusters o i (((name, code) :: rest).map fun (n, c) => .list [.text n, .text c]) =
          (fileGraph o i name (.text code) >>= fun g => Except.map ((cluster? i name g).toList ++ ·) <$>
            clusters o (i + 1) (rest.map fun (n, c) => .list [.text n, .text c])) := by
        change (fileGraph o i name (.text code) >>= fun g => clusters o (i + 1) _ >>= _) = _
        refine bind_congr fun g => ?_
        rw [map_eq_pure_bind]
        refine bind_congr fun r => ?_
        cases r <;> rfl
      rw [hstep, ih]
      simp [fileGraphs, blocks, Except.map]

/-- There is an analysis for each file, which keeps to its place. -/
theorem under_fileGraphs (o : SourceGraph.Options) (i : Nat) (parts : List (String × String)) :
    SatisfiesM (fun gs => gs.length = parts.length ∧
      ∀ k g, gs[k]? = some g → ∀ x ∈ g.mentioned, Under (i + k) x) (fileGraphs o i parts) := by
  induction parts generalizing i with
  | nil => exact SatisfiesM.pure (by simp)
  | cons part rest ih =>
      obtain ⟨name, code⟩ := part
      refine (under_fileGraph o i name (.text code)).bind fun g hg => (ih (i + 1)).bind fun gs hgs => ?_
      refine SatisfiesM.pure ⟨by simp [hgs.1], fun k h hk => ?_⟩
      cases k with
      | zero =>
          obtain rfl : g = h := by simpa using hk
          exact hg
      | succ k =>
          rw [show i + (k + 1) = i + 1 + k by omega]
          exact hgs.2 k h (by simpa using hk)

theorem mem_cluster? {i : Nat} {name : String} {g : Graph} {c : Cluster} :
    c ∈ cluster? i name g ↔ g.nodes ≠ [] ∧ c = ⟨i, Label.escape name 60, g⟩ := by
  by_cases h : g.nodes = []
  · simp [cluster?, h]
  · simp [cluster?, h, eq_comm (a := c)]

theorem mem_blocks {i : Nat} {parts : List (String × String)} {gs : List Graph} {c : Cluster} :
    c ∈ blocks i parts gs ↔ ∃ k name code g, parts[k]? = some (name, code) ∧ gs[k]? = some g ∧
      c ∈ cluster? (i + k) name g := by
  induction parts generalizing i gs with
  | nil => simp [blocks]
  | cons part parts ih =>
      obtain ⟨name, code⟩ := part
      cases gs with
      | nil => simp [blocks]
      | cons g gs =>
          rw [blocks, List.mem_append, Option.mem_toList, ih]
          constructor
          · rintro (hc | ⟨k, n, t, g', hpart, hg, hc⟩)
            · exact ⟨0, name, code, g, rfl, rfl, hc⟩
            · exact ⟨k + 1, n, t, g', hpart, hg, by rwa [show i + (k + 1) = i + 1 + k by omega]⟩
          · rintro ⟨k, n, t, g', hpart, hg, hc⟩
            cases k with
            | zero =>
                obtain ⟨rfl, rfl⟩ : name = n ∧ code = t := by simpa using hpart
                obtain rfl : g = g' := by simpa using hg
                exact .inl hc
            | succ k =>
                refine .inr ⟨k, n, t, g', by simpa using hpart, by simpa using hg, ?_⟩
                rwa [show i + 1 + k = i + (k + 1) by omega]

theorem index_blocks (i : Nat) (parts : List (String × String)) (gs : List Graph) :
    ((blocks i parts gs).map (·.index)).Pairwise (· < ·) := by
  induction parts generalizing i gs with
  | nil => simp [blocks]
  | cons part parts ih =>
      obtain ⟨name, code⟩ := part
      cases gs with
      | nil => simp [blocks]
      | cons g gs =>
          rw [blocks, List.map_append, List.pairwise_append]
          refine ⟨?_, ih (i + 1) gs, ?_⟩
          · cases cluster? i name g <;> simp
          · intro a ha b hb
            obtain ⟨c, hc, rfl⟩ := List.mem_map.1 ha
            obtain ⟨d, hd, rfl⟩ := List.mem_map.1 hb
            obtain ⟨k, n, t, h, -, -, hd⟩ := mem_blocks.1 hd
            rw [(mem_cluster?.1 (Option.mem_toList.1 hc)).2, (mem_cluster?.1 hd).2]
            change i < i + 1 + k
            omega

/-- What blocks are to the files and their analyses. -/
structure BlocksOf (parts : List (String × String)) (gs : List Graph) (cs : List Cluster) : Prop where
  /-- They stand in the order of the files, at most one for each. -/
  increasing : (cs.map (·.index)).Pairwise (· < ·)
  /-- A file has a block just if its analysis has nodes. The block has the place and the name of the file,
  and the statements of the analysis. -/
  mem_iff : ∀ c, c ∈ cs ↔ ∃ name code g, parts[c.index]? = some (name, code) ∧ gs[c.index]? = some g ∧
    g.nodes ≠ [] ∧ c = ⟨c.index, Label.escape name 60, g⟩

theorem blocksOf (parts : List (String × String)) (gs : List Graph) :
    BlocksOf parts gs (blocks 0 parts gs) where
  increasing := index_blocks 0 parts gs
  mem_iff c := by
    rw [mem_blocks]
    simp only [mem_cluster?, Nat.zero_add]
    constructor
    · rintro ⟨k, name, code, g, hpart, hg, hne, rfl⟩
      exact ⟨name, code, g, hpart, hg, hne, rfl⟩
    · rintro ⟨name, code, g, hpart, hg, hne, hc⟩
      exact ⟨c.index, name, code, g, hpart, hg, hne, hc⟩

/-! ## Documents -/

/-- The analyses of files, with the numbers of a workspace. -/
def analyses (o : Options) (parts : List (String × String)) (w : Workspace) : List Graph :=
  ((fileGraphs o.source 0 parts).run w.supply).1

theorem drawn_files (o : Options) (parts : List (String × String)) (w : Workspace) :
    drawn o (Job.payloadValue parts) w = .ok (.clustered (blocks 0 parts (analyses o parts w))) := by
  have hdocument : document o.source (Job.payloadValue parts) =
      (fun gs => .ok (.clustered (blocks 0 parts gs))) <$> fileGraphs o.source 0 parts := by
    have hstep : document o.source (Job.payloadValue parts) = Except.map Document.clustered <$>
        clusters o.source 0 (parts.map fun (n, c) => .list [.text n, .text c]) := by
      change (clusters o.source 0 _ >>= _) = _
      rw [map_eq_pure_bind]
      refine bind_congr fun r => ?_
      cases r <;> rfl
    rw [hstep, clusters_eq]
    simp [Except.map]
  rw [drawn, hdocument]
  rfl

theorem lines_cluster (c : Cluster) : c.lines =
    ["    subgraph cluster_" ++ toString c.index ++ " \x7b", "        label = \"" ++ c.label ++ "\";",
      "        style=filled;", "        color=\"#F5F5F5\";", "        fontsize=14;"] ++
      c.graph.nodes.map (fun n => "    " ++ n.render) ++ c.graph.links.map (fun l => "    " ++ l.render) ++
      ["    \x7d", ""] := by
  rw [Cluster.lines, Graph.lines, List.map_append, List.map_map, List.map_map, ← List.append_assoc]
  rfl

/-- **Files are drawn in blocks of their own.** There is an analysis for each file, and one document is handed
over: the opening, then in the order of the files a block for each analysis with nodes, then the closing brace. A
block says the place of its file and its name, and has the node statements of the analysis and then its links, line
by line and in their order. The identifiers in a block begin with the place of its file, so no two blocks share
one. -/
theorem files_drawn_in_blocks (o : Options) (parts : List (String × String)) (output : String)
    (w : Workspace) (hengine : o.engine ≠ chartEngine) :
    (analyses o parts w).length = parts.length ∧ ∃ cs, BlocksOf parts (analyses o parts w) cs ∧
      ((generate o (Job.payloadValue parts) output).run w).2.handovers = w.handovers ++
        [⟨Text.joinStrings "\n"
          (["digraph G \x7b", "    rankdir=TB;", "    compound=true;", "    nodesep=0.5;", "    ranksep=0.7;",
              "    node [fontname=\"Arial\", fontsize=11, style=filled, fillcolor=white];",
              "    edge [fontname=\"Arial\", fontsize=10];", ""] ++
            (cs.flatMap fun c =>
              ["    subgraph cluster_" ++ toString c.index ++ " \x7b", "        label = \"" ++ c.label ++ "\";",
                "        style=filled;", "        color=\"#F5F5F5\";", "        fontsize=14;"] ++
              c.graph.nodes.map (fun n => "    " ++ n.render) ++ c.graph.links.map (fun l => "    " ++ l.render) ++
              ["    \x7d", ""]) ++
            ["\x7d"]), output⟩] ∧
      (∀ c ∈ cs, ∀ x ∈ c.graph.mentioned, Under c.index x) ∧
      ∀ c ∈ cs, ∀ d ∈ cs, c.index ≠ d.index → c.graph.mentioned.Disjoint d.graph.mentioned := by
  have hblocks := blocksOf parts (analyses o parts w)
  obtain ⟨hlength, hplaces⟩ := satisfiesM_run.1 (under_fileGraphs o.source 0 parts) w.supply
  have hunder : ∀ c ∈ blocks 0 parts (analyses o parts w), ∀ x ∈ c.graph.mentioned, Under c.index x := by
    intro c hc x hx
    obtain ⟨name, code, g, -, hg, -, hcg⟩ := (hblocks.mem_iff c).1 hc
    rw [hcg] at hx
    simpa using hplaces c.index g hg x hx
  refine ⟨hlength, _, hblocks, ?_, hunder, ?_⟩
  · have hgenerate : ((generate o (Job.payloadValue parts) output).run w).2 =
        ((generateDocument o (Job.payloadValue parts) output).run w).2 := by
      rw [generate, if_neg hengine]
      rfl
    have hrecords := congrArg Prod.snd (records_generateDocument o (Job.payloadValue parts) output w)
    rw [drawn_files] at hrecords
    rw [hgenerate]
    refine hrecords.trans ?_
    rw [← funext lines_cluster]
    rfl
  · intro c hc d hd hne x hx hx'
    exact hne ((hunder c hc x hx).unique (hunder d hd x hx'))

/-- Two files with one name and the same code, and between them one in which there is nothing to draw. -/
def twinFiles : List (String × String) := [("a.c", "x;"), ("b.py", ""), ("a.c", "x;")]

/-- The text that is handed over for them has a block for the first and one for the last. -/
theorem twins_drawn_in_blocks :
    ({} : Options).engine ≠ chartEngine ∧
    ((generate {} (Job.payloadValue twinFiles) "out.pdf").run {}).2.handovers = [⟨Text.joinStrings "\n"
      ["digraph G \x7b", "    rankdir=TB;", "    compound=true;", "    nodesep=0.5;", "    ranksep=0.7;",
        "    node [fontname=\"Arial\", fontsize=11, style=filled, fillcolor=white];",
        "    edge [fontname=\"Arial\", fontsize=10];", "",
        "    subgraph cluster_0 \x7b", "        label = \"a.c\";", "        style=filled;",
        "        color=\"#F5F5F5\";", "        fontsize=14;",
        "        FILE_0_a_c_start [label=\"INICIO: FILE_0_a_c\", shape=oval, style=filled, fillcolor=\"#E3F2FD\"];",
        "        FILE_0_a_c_node_1 [label=\"x;\", shape=rectangle];",
        "        FILE_0_a_c_end [label=\"FIN\", shape=oval, style=filled, fillcolor=\"#FFEBEE\"];",
        "        FILE_0_a_c_start -> FILE_0_a_c_node_1;", "        FILE_0_a_c_node_1 -> FILE_0_a_c_end;",
        "    \x7d", "",
        "    subgraph cluster_2 \x7b", "        label = \"a.c\";", "        style=filled;",
        "        color=\"#F5F5F5\";", "        fontsize=14;",
        "        FILE_2_a_c_start [label=\"INICIO: FILE_2_a_c\", shape=oval, style=filled, fillcolor=\"#E3F2FD\"];",
        "        FILE_2_a_c_node_1 [label=\"x;\", shape=rectangle];",
        "        FILE_2_a_c_end [label=\"FIN\", shape=oval, style=filled, fillcolor=\"#FFEBEE\"];",
        "        FILE_2_a_c_start -> FILE_2_a_c_node_1;", "        FILE_2_a_c_node_1 -> FILE_2_a_c_end;",
        "    \x7d", "", "\x7d"], "out.pdf"⟩] ∧
    ∃ cs, BlocksOf twinFiles (analyses {} twinFiles {}) cs ∧
      ∀ c ∈ cs, ∀ d ∈ cs, c.index ≠ d.index → c.graph.mentioned.Disjoint d.graph.mentioned := by
  have hengine : ({} : Options).engine ≠ chartEngine := by decide
  obtain ⟨-, cs, hblocks, -, -, hdisjoint⟩ := files_drawn_in_blocks {} twinFiles "out.pdf" {} hengine
  exact ⟨hengine, by decide +kernel, cs, hblocks, hdisjoint⟩

end Diagram

end CodeFlow
