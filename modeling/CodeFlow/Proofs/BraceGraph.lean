import Mathlib
import CodeFlow.BraceGraph
import CodeFlow.Proofs.Dot.Graph

/-!
# `CodeFlow.Proofs.BraceGraph` — diagrams of code with braces are grown

Any text is taken for code, so braces need not match and the other branch of a condition may come without
it. What every line leaves behind is stated once, as `Valid`; all that is known of whole diagrams follows
from there.

## Contents
- `Mark`: the identifiers of a diagram, as data.
- `Valid`: what holds between lines; `Valid.advance`, `valid_foldl`.
- `Step`: what a line can do, one rule per kind of line; `drawn`: the diagram behind some lines.
- `grown_diagram`, `exists_mark_of_mem_diagram`.
-/

namespace CodeFlow.BraceGraph

open Dot

/-! ## Identifiers -/

/-- What an identifier of a diagram stands for. -/
inductive Mark where
  | start
  | finish
  /-- A line, by its number. -/
  | line (k : Nat)
  /-- The place where the branches of a condition meet, by the line of the condition. -/
  | meet (k : Nat)

namespace Mark

/-- The end of the identifier. -/
def word : Mark → String
  | .start => "_start"
  | .finish => "_end"
  | .line k => "_node_" ++ toString k
  | .meet k => "_out_" ++ toString k

theorem word_injective : Function.Injective word := by
  have hnum : ∀ w k l, w ++ toString k = w ++ toString l → k = l := fun w k l h =>
    Nat.repr_injective (String.append_right_inj w |>.1 h)
  intro a b h
  cases a <;> cases b
  case line.line k l => rw [hnum _ k l h]
  case meet.meet k l => rw [hnum _ k l h]
  case start.start => rfl
  case finish.finish => rfl
  -- the second characters differ
  all_goals
    have := congrArg String.toList h
    simp [word] at this

/-- The identifier under a prefix. -/
def ident (pre : String) (m : Mark) : String := pre ++ m.word

theorem ident_injective (pre : String) : Function.Injective (ident pre) := fun _ _ h =>
  word_injective (String.append_right_inj pre |>.1 h)

/-- What may stand in a diagram of so many lines before its end. -/
def Within (n : Nat) : Mark → Prop
  | .start => True
  | .finish => False
  | .line k => k ≤ n
  | .meet k => k ≤ n

theorem Within.mono {m : Mark} {n n' : Nat} (h : m.Within n) (hn : n ≤ n') : m.Within n' := by
  cases m with
  | start => trivial
  | finish => exact h
  | line k => exact Nat.le_trans h hn
  | meet k => exact Nat.le_trans h hn

end Mark

/-! ## Between lines -/

/-- What holds of a diagram between lines. -/
structure Valid (pre : String) (s : State) : Prop where
  /-- The diagram grew from its start. -/
  grown : s.graph.Grown (Mark.start.ident pre)
  /-- It goes on from a node. -/
  last : s.last ∈ s.graph.ids
  /-- Its identifiers are of lines that were read. -/
  marks : ∀ id ∈ s.graph.ids, ∃ m : Mark, m.Within s.count ∧ id = m.ident pre
  /-- The nodes of open conditions are there. -/
  nodes : ∀ c ∈ s.conditions, c.node ∈ s.graph.ids
  /-- The places where their branches meet are not. -/
  meets : ∀ c ∈ s.conditions, c.meet ∉ s.graph.ids ∧ ∃ k ≤ s.count, c.meet = (Mark.meet k).ident pre
  /-- No two conditions meet at one place. -/
  apart : (s.conditions.map (·.meet)).Nodup

namespace Valid

variable {pre : String} {s : State}

/-- An identifier of a line that was not read is new. -/
theorem fresh (h : Valid pre s) {m : Mark} (hm : ¬m.Within s.count) : m.ident pre ∉ s.graph.ids := by
  intro hmem
  obtain ⟨m', hm', heq⟩ := h.marks _ hmem
  exact hm (Mark.ident_injective pre heq ▸ hm')

/-- A line is read. -/
theorem next (h : Valid pre s) : Valid pre { s with count := s.count + 1 } where
  grown := h.grown
  last := h.last
  marks id hid := by
    obtain ⟨m, hm, heq⟩ := h.marks id hid
    exact ⟨m, hm.mono (Nat.le_succ _), heq⟩
  nodes := h.nodes
  meets c hc := by
    obtain ⟨hnew, k, hk, heq⟩ := h.meets c hc
    exact ⟨hnew, k, Nat.le_succ_of_le hk, heq⟩
  apart := h.apart

/-- A node is added, with its links. -/
theorem add (h : Valid pre s) {n : Node} {ls : List Link} (hfresh : n.id ∉ s.graph.ids)
    (hmark : ∃ m : Mark, m.Within s.count ∧ n.id = m.ident pre)
    (hmeet : ∀ c ∈ s.conditions, c.meet ≠ n.id)
    (hls : ∀ l ∈ ls, l.source ∈ s.graph.ids ∧ l.target = n.id)
    (hcount : ls.length = Graph.inDegree n) : Valid pre (s.add n ls) where
  grown := h.grown.add n ls hfresh hls hcount
  last := by simp [State.add, Graph.ids]
  marks id hid := by
    rw [State.add, Graph.ids_append, List.mem_append] at hid
    rcases hid with hid | hid
    · exact h.marks id hid
    · have : id = n.id := by simpa [Graph.ids] using hid
      exact this ▸ hmark
  nodes c hc := by
    rw [State.add, Graph.ids_append]
    exact List.mem_append_left _ (h.nodes c hc)
  meets c hc := by
    obtain ⟨hnew, hk⟩ := h.meets c hc
    refine ⟨?_, hk⟩
    rw [State.add, Graph.ids_append, List.mem_append, not_or]
    exact ⟨hnew, by simpa [Graph.ids] using hmeet c hc⟩
  apart := h.apart

/-- A condition is opened. -/
theorem push (h : Valid pre s) {c : Condition} {k : Nat} (hnode : c.node ∈ s.graph.ids)
    (hk : k ≤ s.count) (hmeet : c.meet = (Mark.meet k).ident pre) (hfresh : c.meet ∉ s.graph.ids)
    (hapart : c.meet ∉ s.conditions.map (·.meet)) :
    Valid pre { s with conditions := c :: s.conditions } where
  grown := h.grown
  last := h.last
  marks := h.marks
  nodes := List.forall_mem_cons.2 ⟨hnode, h.nodes⟩
  meets := List.forall_mem_cons.2 ⟨⟨hfresh, k, hk, hmeet⟩, h.meets⟩
  apart := List.nodup_cons.2 ⟨hapart, h.apart⟩

/-- A condition is closed. -/
theorem pop (h : Valid pre s) {c : Condition} {rest : List Condition} (hs : s.conditions = c :: rest) :
    Valid pre { s with conditions := rest } where
  grown := h.grown
  last := h.last
  marks := h.marks
  nodes d hd := h.nodes d (hs ▸ List.mem_cons_of_mem _ hd)
  meets d hd := h.meets d (hs ▸ List.mem_cons_of_mem _ hd)
  apart := (List.nodup_cons.1 (by simpa [hs] using h.apart)).2

/-- The node of a line, with a link from a node that is there. -/
theorem addLine (h : Valid pre s) (label : String) {shape : Shape} (hshape : shape ≠ .point)
    (fill : Option Fill) {source : String} (hsource : source ∈ s.graph.ids) (style : LinkStyle) :
    let id := (Mark.line (s.count + 1)).ident pre
    Valid pre (State.add { s with count := s.count + 1 } ⟨id, label, shape, fill⟩
      [⟨source, id, style⟩]) := by
  refine h.next.add ?_ ⟨.line (s.count + 1), Nat.le_refl _, rfl⟩ ?_ ?_ ?_
  · exact h.fresh (m := .line (s.count + 1)) (Nat.not_succ_le_self _)
  · -- where branches meet is never named as a line is
    intro c hc heq
    obtain ⟨-, k, -, hk⟩ := h.meets c hc
    exact absurd (Mark.ident_injective pre (hk.symm.trans heq)) (by simp)
  · intro l hl
    rw [List.mem_singleton.1 hl]
    exact ⟨hsource, rfl⟩
  · simp [Graph.inDegree, hshape]

/-- **A line keeps a diagram valid**, whatever it is. -/
theorem advance (h : Valid pre s) (line : List Char) : Valid pre (advance pre s line) := by
  have hident : pre ++ "_node_" ++ toString (s.count + 1) = (Mark.line (s.count + 1)).ident pre :=
    String.append_assoc ..
  have hmeet : pre ++ "_out_" ++ toString (s.count + 1) = (Mark.meet (s.count + 1)).ident pre :=
    String.append_assoc ..
  simp only [BraceGraph.advance, hident, hmeet]
  cases classify line with
  | plain => exact h.addLine _ (by simp) _ h.last _
  | opens =>
      have hshape : Shape.diamond ≠ .point := by simp
      have hadd := h.addLine (lineLabel line) hshape (some .condition) h.last .plain
      refine hadd.push (k := s.count + 1) (by simp [State.add, Graph.ids]) (Nat.le_refl _) rfl ?_ ?_
      · rw [State.add, Graph.ids_append, List.mem_append, not_or]
        refine ⟨h.fresh (m := .meet (s.count + 1)) (Nat.not_succ_le_self _), ?_⟩
        have : Mark.meet (s.count + 1) ≠ .line (s.count + 1) := by simp
        simpa [Graph.ids] using (Mark.ident_injective pre).ne this
      · -- the conditions that are open are of earlier lines
        intro hmem
        obtain ⟨c, hc, heq⟩ := List.mem_map.1 hmem
        obtain ⟨-, k, hk, hck⟩ := h.meets c hc
        have : Mark.meet k = .meet (s.count + 1) := Mark.ident_injective pre (hck.symm.trans heq)
        have : k = s.count + 1 := by simpa using this
        omega
  | other =>
      cases hs : s.conditions with
      | nil => simpa [hs] using h.next
      | cons c rest =>
          have hshape : Shape.rectangle ≠ .point := by simp
          have hnode := h.nodes c (by simp [hs])
          simpa [hs] using h.addLine "else" hshape (some .otherwise) hnode .otherwise
  | closes =>
      cases hs : s.conditions with
      | nil => simpa [hs] using h.next
      | cons c rest =>
          obtain ⟨hfresh, k, hk, hck⟩ := h.meets c (by simp [hs])
          have hnode := h.nodes c (by simp [hs])
          have hnext : ({ s with count := s.count + 1 } : State).conditions = c :: rest := hs
          refine (h.next.pop hnext).add hfresh ⟨.meet k, Nat.le_succ_of_le hk, hck⟩ ?_ ?_ rfl
          · -- the other conditions meet elsewhere
            intro d hd heq
            have hnodup : (c.meet :: rest.map (·.meet)).Nodup := by simpa [hs] using h.apart
            exact (List.nodup_cons.1 hnodup).1 (List.mem_map.2 ⟨d, hd, heq⟩)
          · intro l hl
            simp only [List.mem_cons, List.not_mem_nil, or_false] at hl
            rcases hl with rfl | rfl
            · exact ⟨h.last, rfl⟩
            · exact ⟨hnode, rfl⟩

end Valid

theorem valid_start (pre file : String) : Valid pre (start pre file) where
  grown := .root _ rfl (by simp)
  last := by simp [start, Graph.ids]
  marks id hid := by
    have : id = pre ++ "_start" := by simpa [start, Graph.ids] using hid
    exact ⟨.start, trivial, this⟩
  nodes := by simp [start]
  meets := by simp [start]
  apart := by simp [start]

theorem valid_foldl {pre : String} {s : State} (h : Valid pre s) (ls : List (List Char)) :
    Valid pre (ls.foldl (advance pre) s) := by
  induction ls generalizing s with
  | nil => exact h
  | cons l ls ih => exact ih (h.advance l)

/-! ## What a line can do -/

/-- The state behind a line that draws a node with links to it. -/
def State.draw (s : State) (n : Node) (ls : List Link) (conditions : List Condition) : State where
  graph := s.graph ++ ⟨[n], ls⟩
  conditions := conditions
  last := n.id
  count := s.count + 1

/-- What a line does to a diagram. Where no condition is open, the lines that need one draw nothing. -/
inductive Step (pre : String) (line : List Char) (s : State) : State → Prop where
  | plain {id : String} (hclass : classify line = .plain) (hid : id = (Mark.line (s.count + 1)).ident pre) :
      Step pre line s (s.draw ⟨id, lineLabel line, .rectangle, none⟩ [⟨s.last, id, .plain⟩] s.conditions)
  | opens {id meet : String} (hclass : classify line = .opens) (hid : id = (Mark.line (s.count + 1)).ident pre)
      (hmeet : meet = (Mark.meet (s.count + 1)).ident pre) :
      Step pre line s (s.draw ⟨id, lineLabel line, .diamond, some .condition⟩ [⟨s.last, id, .plain⟩]
        (⟨id, meet⟩ :: s.conditions))
  | other {id : String} {c : Condition} {below : List Condition} (hclass : classify line = .other)
      (hid : id = (Mark.line (s.count + 1)).ident pre) (hs : s.conditions = c :: below) :
      Step pre line s (s.draw ⟨id, "else", .rectangle, some .otherwise⟩ [⟨c.node, id, .otherwise⟩] s.conditions)
  | closes {c : Condition} {below : List Condition} (hclass : classify line = .closes)
      (hs : s.conditions = c :: below) :
      Step pre line s (s.draw ⟨c.meet, "", .point, none⟩
        [⟨s.last, c.meet, .plain⟩, ⟨c.node, c.meet, .otherwise⟩] below)
  | skip (hclass : classify line = .other ∨ classify line = .closes) (hs : s.conditions = []) :
      Step pre line s { s with count := s.count + 1 }

theorem step_advance (pre : String) (line : List Char) (s : State) : Step pre line s (advance pre s line) := by
  have hid : pre ++ "_node_" ++ toString (s.count + 1) = (Mark.line (s.count + 1)).ident pre :=
    String.append_assoc ..
  have hmeet : pre ++ "_out_" ++ toString (s.count + 1) = (Mark.meet (s.count + 1)).ident pre :=
    String.append_assoc ..
  rw [advance]
  cases hclass : classify line with
  | plain => exact .plain hclass hid
  | opens => exact .opens hclass hid hmeet
  | other =>
      cases hs : s.conditions with
      | nil => simpa [hs] using (Step.skip (.inl hclass) hs : Step pre line s _)
      | cons c below => simpa [hs, State.add, State.draw] using Step.other hclass hid hs
  | closes =>
      cases hs : s.conditions with
      | nil => simpa [hs] using (Step.skip (.inr hclass) hs : Step pre line s _)
      | cons c below => simpa [hs, State.add, State.draw] using (Step.closes hclass hs : Step pre line s _)

/-- The diagram behind some lines. -/
def drawn (pre file : String) (ls : List (List Char)) : State := ls.foldl (advance pre) (start pre file)

@[simp] theorem drawn_concat (pre file : String) (ls : List (List Char)) (line : List Char) :
    drawn pre file (ls ++ [line]) = advance pre (drawn pre file ls) line := by
  simp [drawn]

theorem valid_drawn (pre file : String) (ls : List (List Char)) : Valid pre (drawn pre file ls) :=
  valid_foldl (valid_start pre file) ls

/-! ## Whole diagrams -/

theorem grown_finish {pre : String} {s : State} (h : Valid pre s) :
    (finish pre s).Grown (Mark.start.ident pre) := by
  refine h.grown.add _ _ (h.fresh (m := .finish) id) ?_ rfl
  intro l hl
  rw [List.mem_singleton.1 hl]
  exact ⟨h.last, rfl⟩

/-- The start of the diagram of a file. -/
def startId (file : String) : String := Ident.sanitize file ++ "_start"

/-- The diagram of any code grows from its start. -/
theorem grown_diagram (code file : String) : (diagram code file).Grown (startId file) :=
  grown_finish (valid_foldl (valid_start _ file) _)

/-- Every identifier of a diagram has a mark. -/
theorem exists_mark_of_mem_diagram {code file id : String} (h : id ∈ (diagram code file).ids) :
    ∃ m : Mark, id = m.ident (Ident.sanitize file) := by
  have hvalid := valid_foldl (valid_start (Ident.sanitize file) file) (codeLines code.toList)
  unfold diagram finish at h
  rw [Graph.ids_append, List.mem_append] at h
  rcases h with h | h
  · obtain ⟨m, -, heq⟩ := hvalid.marks id h
    exact ⟨m, heq⟩
  · have : id = Ident.sanitize file ++ "_end" := by simpa [Graph.ids] using h
    exact ⟨.finish, this⟩

/-- **The diagram of code is a graph that flows from its start**, whatever the code is: identifiers are
distinct, links point from nodes to nodes declared after them, every node but the start has a link to it
and is reached from the start, and there is one link for every node but the start and one more for every
point where branches meet. -/
theorem diagram_flows_from_start (code file : String) :
    let g := diagram code file
    g.ids.head? = some (startId file) ∧ g.ids.Nodup ∧
      (∀ l ∈ g.links, [l.source, l.target].Sublist g.ids) ∧
      (∀ id ∈ g.ids, id ≠ startId file → ∃ l ∈ g.links, l.target = id) ∧
      (∀ id ∈ g.ids, Relation.ReflTransGen g.Joins (startId file) id) ∧
      g.links.length = g.nodes.length - 1 + g.meets := by
  have hg := grown_diagram code file
  have hcount := hg.length_links
  have hpos : 0 < (diagram code file).nodes.length := by
    have : (diagram code file).ids ≠ [] := fun hnil => by simpa [hnil] using hg.head
    exact List.length_pos_iff.2 fun hnil => this (by simp [Graph.ids, hnil])
  exact ⟨hg.head, hg.nodup, hg.forward, hg.exists_link, hg.reachable, by omega⟩

end CodeFlow.BraceGraph
