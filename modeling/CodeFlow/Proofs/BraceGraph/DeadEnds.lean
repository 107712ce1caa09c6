import Mathlib
import CodeFlow.Proofs.BraceGraph

/-!
# `CodeFlow.Proofs.BraceGraph.DeadEnds` — branches that are left behind

A diagram goes on from one node at a time. The line that begins the other branch of a condition goes on from
the condition instead, and nothing links the node where the first branch stood: that node is a dead end, unless
it is the condition itself. This module says that there is no other way to make one.

Which nodes are dead ends is known between any two lines (`Led`): the node from which the diagram goes on, and
those that were left behind. A node is drawn with its links by one rule, `Led.draw`, whatever the line is.

## Contents
- `depth`, `Leaves`: the lines that leave a branch behind, told from lines alone.
- `abandoned`: the nodes left behind by some lines; `leaves_iff`.
- `Led`, `Led.draw`, `led_drawn`.
- `diagram_dead_ends`, and `forkCode`, of which a branch does not reach the end.
-/

namespace CodeFlow.BraceGraph

open Dot Relation

/-! ## Lines -/

/-- The number of open conditions behind a line, from the number before it. -/
def LineClass.deepen : LineClass → Nat → Nat
  | .opens, d => d + 1
  | .closes, d => d - 1
  | .other, d => d
  | .plain, d => d

/-- The number of conditions that are open behind some lines. -/
def depth (ls : List (List Char)) : Nat := ls.foldl (fun d line => (classify line).deepen d) 0

/-- A line begins the other branch of a condition, and the first branch is not empty: the line before is not
the one that opens the condition. -/
structure Leaves (front : List (List Char)) (line : List Char) : Prop where
  /-- The line begins another branch. -/
  other : classify line = .other
  /-- A condition is open. -/
  inside : 0 < depth front
  /-- It was not opened just before. -/
  behind : ∀ l ∈ front.getLast?, classify l ≠ .opens

/-! ## Nodes left behind -/

section Drawn

variable {pre file : String} {ls : List (List Char)} {line : List Char}

/-- The nodes that some lines leave behind: those where the diagram stood before a line that leaves a branch. -/
def abandoned (pre file : String) (ls : List (List Char)) : Set String :=
  {id | ∃ front line rest, ls = front ++ line :: rest ∧ Leaves front line ∧ id = (drawn pre file front).last}

theorem abandoned_nil : abandoned pre file [] = ∅ := by
  simp [abandoned]

theorem mem_abandoned_concat {id : String} :
    id ∈ abandoned pre file (ls ++ [line]) ↔
      id ∈ abandoned pre file ls ∨ (Leaves ls line ∧ id = (drawn pre file ls).last) := by
  constructor
  · rintro ⟨front, l, rest, heq, hleaves, hid⟩
    rcases List.eq_nil_or_concat rest with rfl | ⟨rest, last, rfl⟩
    · obtain ⟨rfl, hl⟩ := List.append_inj' heq rfl
      obtain rfl := List.singleton_inj.1 hl
      exact .inr ⟨hleaves, hid⟩
    · rw [List.concat_eq_append, ← List.cons_append, ← List.append_assoc] at heq
      exact .inl ⟨front, l, rest, (List.append_inj' heq rfl).1, hleaves, hid⟩
  · rintro (⟨front, l, rest, rfl, hleaves, hid⟩ | ⟨hleaves, hid⟩)
    · exact ⟨front, l, rest ++ [line], by simp, hleaves, hid⟩
    · exact ⟨ls, line, [], rfl, hleaves, hid⟩

/-- Conditions are counted by the lines that open and close them. -/
theorem length_conditions (pre file : String) (ls : List (List Char)) :
    (drawn pre file ls).conditions.length = depth ls := by
  induction ls using List.reverseRecOn with
  | nil => rfl
  | append_singleton ls line ih =>
      have hdepth : depth (ls ++ [line]) = (classify line).deepen (depth ls) := by simp [depth]
      rw [drawn_concat, hdepth, ← ih, advance]
      cases classify line <;> cases (drawn pre file ls).conditions <;> rfl

/-- The diagram stands at its innermost condition just behind the line that opens it. -/
theorem last_eq_node_iff {c : Condition} {below : List Condition}
    (h : (drawn pre file ls).conditions = c :: below) :
    (drawn pre file ls).last = c.node ↔ ∃ l ∈ ls.getLast?, classify l = .opens := by
  rcases List.eq_nil_or_concat ls with rfl | ⟨ls, line, rfl⟩
  · simp [drawn, start] at h
  rw [List.concat_eq_append] at *
  have hvalid := valid_drawn pre file ls
  have hstep := step_advance pre line (drawn pre file ls)
  rw [drawn_concat] at *
  rw [List.getLast?_concat]
  have hline := hvalid.fresh (m := .line ((drawn pre file ls).count + 1)) (Nat.not_succ_le_self _)
  -- a node that is drawn now is not that of a condition that was open before
  have hne : ∀ id ∉ (drawn pre file ls).graph.ids, c ∈ (drawn pre file ls).conditions → id ≠ c.node :=
    fun id hid hc heq => hid (heq ▸ hvalid.nodes c hc)
  generalize drawn pre file ls = s at *
  generalize advance pre s line = s' at *
  cases hstep with
  | plain hclass hid =>
      have hs : s.conditions = c :: below := h
      simpa [State.draw, hclass] using hne _ (hid ▸ hline) (by simp [hs])
  | opens hclass hid hmeet =>
      obtain ⟨rfl, -⟩ := List.cons.inj h
      simp [State.draw, hclass]
  | other hclass hid hs =>
      have hs : s.conditions = c :: below := h
      simpa [State.draw, hclass] using hne _ (hid ▸ hline) (by simp [hs])
  | @closes d rest hclass hs =>
      obtain rfl : rest = c :: below := h
      simpa [State.draw, hclass] using hne _ (hvalid.meets d (by simp [hs])).1 (by simp [hs])
  | skip hclass hs =>
      have hnil : s.conditions = c :: below := h
      simp [hs] at hnil

/-- Which lines leave a branch behind, told from the state: the diagram stands elsewhere than at the innermost
condition. -/
theorem leaves_iff (pre file : String) : Leaves ls line ↔
    classify line = .other ∧ ∃ c below, (drawn pre file ls).conditions = c :: below ∧
      (drawn pre file ls).last ≠ c.node := by
  constructor
  · rintro ⟨hother, hinside, hbehind⟩
    rw [← length_conditions pre file] at hinside
    obtain ⟨c, below, hs⟩ := List.length_pos_iff_exists_cons.1 hinside
    refine ⟨hother, c, below, hs, fun hlast => ?_⟩
    obtain ⟨l, hl, hopens⟩ := (last_eq_node_iff hs).1 hlast
    exact hbehind l hl hopens
  · rintro ⟨hother, c, below, hs, hlast⟩
    refine ⟨hother, ?_, fun l hl hopens => hlast ((last_eq_node_iff hs).2 ⟨l, hl, hopens⟩)⟩
    rw [← length_conditions pre file, hs]
    exact Nat.succ_pos _

end Drawn

/-! ## Where a diagram leads -/

/-- What is known of a diagram between lines, with the nodes left behind. -/
structure Led (s : State) (left : Set String) : Prop where
  /-- The dead ends are the node from which the diagram goes on and those left behind. -/
  sink : ∀ id, s.graph.Sink id ↔ id = s.last ∨ id ∈ left
  /-- The diagram does not go on from a node left behind, -/
  last : s.last ∉ left
  /-- nor from an open condition around the innermost one. -/
  below : ∀ c ∈ s.conditions.tail, c.node ≠ s.last
  /-- No open condition is left behind. -/
  nodes : ∀ c ∈ s.conditions, c.node ∉ left
  /-- From everywhere the diagram leads on, or to a node left behind. -/
  leads : ∀ id ∈ s.graph.ids, ReflTransGen s.graph.Joins id s.last ∨
    ∃ d ∈ left, ReflTransGen s.graph.Joins id d

namespace Led

variable {pre : String} {s : State} {left left' : Set String}

theorem mem_ids (h : Led s left) {id : String} (hid : id = s.last ∨ id ∈ left) : id ∈ s.graph.ids :=
  ((h.sink id).2 hid).1

/-- A line that draws nothing. -/
theorem next (h : Led s left) : Led { s with count := s.count + 1 } left :=
  ⟨h.sink, h.last, h.below, h.nodes, h.leads⟩

/-- **A node is drawn.** The node where the diagram stood is left behind if no link starts there. -/
theorem draw (h : Led s left) (hvalid : Valid pre s) {n : Node} {ls : List Link} {conditions : List Condition}
    (hfresh : n.id ∉ s.graph.ids) (hls : ∀ l ∈ ls, l.source ∈ s.graph.ids ∧ l.target = n.id)
    (hsources : ∀ l ∈ ls, l.source ∉ left)
    (hleft : ∀ id, id ∈ left' ↔ id ∈ left ∨ (id = s.last ∧ ∀ l ∈ ls, l.source ≠ id))
    (hfree : (∀ l ∈ ls, l.source ≠ s.last) → ∀ c ∈ s.conditions, c.node ≠ s.last)
    (hconditions : ∀ c ∈ conditions, c ∈ s.conditions ∨ c.node = n.id)
    (htail : ∀ c ∈ conditions.tail, c ∈ s.conditions) : Led (s.draw n ls conditions) left' where
  sink id := by
    have hlinks : ∀ l ∈ s.graph.links, l.source ∈ s.graph.ids := fun l hl => (hvalid.grown.closed l hl).1
    rw [State.draw, Graph.sink_add hlinks hfresh fun l hl => (hls l hl).1, h.sink, hleft]
    constructor
    · rintro (hnew | ⟨hlast | hid, hnone⟩)
      · exact .inl hnew
      · exact .inr (.inr ⟨hlast, hnone⟩)
      · exact .inr (.inl hid)
    · rintro (hnew | hid | ⟨hlast, hnone⟩)
      · exact .inl hnew
      · exact .inr ⟨.inr hid, fun l hl heq => hsources l hl (heq ▸ hid)⟩
      · exact .inr ⟨.inl hlast, hnone⟩
  last hmem := by
    rcases (hleft _).1 hmem with hold | ⟨hlast, -⟩
    · exact hfresh (h.mem_ids (.inr hold))
    · exact hfresh (h.mem_ids (.inl hlast))
  below c hc heq := by
    have hnew : c.node = n.id := heq
    exact hfresh (hnew ▸ hvalid.nodes c (htail c hc))
  nodes c hc hmem := by
    rcases hconditions c hc with hold | hnew
    · rcases (hleft _).1 hmem with hleft | ⟨hlast, hnone⟩
      · exact h.nodes c hold hleft
      · exact hfree (fun l hl => hlast ▸ hnone l hl) c hold hlast
    · rcases (hleft _).1 hmem with hleft | ⟨hlast, -⟩
      · exact hfresh (hnew ▸ h.mem_ids (.inr hleft))
      · exact hfresh (hnew ▸ h.mem_ids (.inl hlast))
  leads id hid := by
    have hids : id ∈ s.graph.ids ∨ id = n.id := by simpa [State.draw, Graph.ids] using hid
    rcases hids with hold | rfl
    · rcases h.leads id hold with hlast | ⟨d, hd, hpath⟩
      · by_cases hfrom : ∃ l ∈ ls, l.source = s.last
        · obtain ⟨l, hl, hsource⟩ := hfrom
          refine .inl ((Graph.reaches_append hlast _).tail ⟨l, ?_, hsource, (hls l hl).2⟩)
          exact List.mem_append_right _ hl
        · -- nothing starts where the diagram stood
          have hnone : ∀ l ∈ ls, l.source ≠ s.last := fun l hl heq => hfrom ⟨l, hl, heq⟩
          exact .inr ⟨s.last, (hleft _).2 (.inr ⟨rfl, hnone⟩), Graph.reaches_append hlast _⟩
      · exact .inr ⟨d, (hleft d).2 (.inl hd), Graph.reaches_append hpath _⟩
    · exact .inl .refl

/-- A node that follows the one where the diagram stood. -/
theorem follow (h : Led s left) (hvalid : Valid pre s) {n : Node} {ls : List Link} {conditions : List Condition}
    (hfresh : n.id ∉ s.graph.ids) (hls : ∀ l ∈ ls, l.source ∈ s.graph.ids ∧ l.target = n.id)
    (hsources : ∀ l ∈ ls, l.source ∉ left) (hlast : ∃ l ∈ ls, l.source = s.last)
    (hconditions : ∀ c ∈ conditions, c ∈ s.conditions ∨ c.node = n.id)
    (htail : ∀ c ∈ conditions.tail, c ∈ s.conditions) : Led (s.draw n ls conditions) left := by
  obtain ⟨l, hl, hsource⟩ := hlast
  refine h.draw hvalid hfresh hls hsources (fun id => ⟨.inl, ?_⟩) (fun hnone => absurd hsource (hnone l hl))
    hconditions htail
  rintro (hid | ⟨rfl, hnone⟩)
  · exact hid
  · exact absurd hsource (hnone l hl)

end Led

theorem led_start (pre file : String) : Led (start pre file) ∅ where
  sink id := by simp [start, Graph.Sink, Graph.ids]
  last := by simp
  below := by simp [start]
  nodes := by simp
  leads id hid := by
    have : id = pre ++ "_start" := by simpa [start, Graph.ids] using hid
    exact .inl (this ▸ .refl)

/-- **What is known of a diagram behind some lines**, by induction over lines added at the end. -/
theorem led_drawn (pre file : String) (ls : List (List Char)) : Led (drawn pre file ls) (abandoned pre file ls) := by
  induction ls using List.reverseRecOn with
  | nil => exact abandoned_nil ▸ led_start pre file
  | append_singleton ls line ih =>
      have hvalid := valid_drawn pre file ls
      have hline := hvalid.fresh (m := .line ((drawn pre file ls).count + 1)) (Nat.not_succ_le_self _)
      have hstep := step_advance pre line (drawn pre file ls)
      have hleaves := @leaves_iff ls line pre file
      have hleft : ∀ id, id ∈ abandoned pre file (ls ++ [line]) ↔ id ∈ abandoned pre file ls ∨
          (Leaves ls line ∧ id = (drawn pre file ls).last) := fun id => mem_abandoned_concat
      -- only a line that begins another branch leaves something behind
      have hkeep : classify line ≠ .other → abandoned pre file (ls ++ [line]) = abandoned pre file ls := fun hclass =>
        Set.ext fun id => (hleft id).trans (or_iff_left fun hl => hclass hl.1.other)
      rw [drawn_concat]
      generalize drawn pre file ls = s at *
      generalize advance pre s line = s' at *
      cases hstep with
      | plain hclass hid =>
          rw [hkeep (by simp [hclass])]
          refine ih.follow hvalid (hid ▸ hline) ?_ ?_ ⟨_, List.mem_cons_self, rfl⟩ (fun c hc => .inl hc)
            (fun c hc => List.mem_of_mem_tail hc)
          · simpa using hvalid.last
          · simpa using ih.last
      | opens hclass hid hmeet =>
          rw [hkeep (by simp [hclass])]
          refine ih.follow hvalid (hid ▸ hline) ?_ ?_ ⟨_, List.mem_cons_self, rfl⟩ (fun c hc => ?_) (fun c hc => hc)
          · simpa using hvalid.last
          · simpa using ih.last
          · rcases List.mem_cons.1 hc with rfl | hc
            · exact .inr rfl
            · exact .inl hc
      | @other id c below hclass hid hs =>
          have hc : c ∈ s.conditions := by simp [hs]
          have htail : s.conditions.tail = below := by simp [hs]
          refine ih.draw hvalid (hid ▸ hline) ?_ ?_ (fun x => ?_) (fun hnone d hd => ?_) (fun d hd => .inl hd)
            (fun d hd => List.mem_of_mem_tail hd)
          · simpa using hvalid.nodes c hc
          · simpa using ih.nodes c hc
          · rw [hleft, hleaves]
            refine or_congr_right ⟨?_, ?_⟩
            · rintro ⟨⟨-, d, rest, hd, hlast⟩, rfl⟩
              obtain ⟨rfl, -⟩ := List.cons.inj (hs.symm.trans hd)
              exact ⟨rfl, by simpa using hlast.symm⟩
            · rintro ⟨rfl, hnone⟩
              exact ⟨⟨hclass, c, below, hs, by simpa using (hnone _ List.mem_cons_self).symm⟩, rfl⟩
          · rcases List.mem_cons.1 (hs ▸ hd) with rfl | hd
            · exact hnone _ List.mem_cons_self
            · exact ih.below d (htail ▸ hd)
      | @closes c below hclass hs =>
          have hc : c ∈ s.conditions := by simp [hs]
          have hsub : ∀ d ∈ below, d ∈ s.conditions := fun d hd => hs ▸ List.mem_cons_of_mem _ hd
          rw [hkeep (by simp [hclass])]
          refine ih.follow hvalid (hvalid.meets c hc).1 ?_ ?_ ⟨_, List.mem_cons_self, rfl⟩
            (fun d hd => .inl (hsub d hd)) (fun d hd => hsub d (List.mem_of_mem_tail hd))
          · simpa using ⟨hvalid.last, hvalid.nodes c hc⟩
          · simpa using ⟨ih.last, ih.nodes c hc⟩
      | skip hclass hs =>
          have : abandoned pre file (ls ++ [line]) = abandoned pre file ls := Set.ext fun id =>
            (hleft id).trans (or_iff_left fun hl => by simpa [hs] using (hleaves.1 hl.1).2)
          exact this ▸ ih.next

/-! ## Whole diagrams -/

/-- The end of the diagram of a file. -/
def endId (file : String) : String := Ident.sanitize file ++ "_end"

/-- **The dead ends of a diagram are its end and the branches left behind**, whatever the code is: every node
leads to one of these, and all nodes lead to the end iff no line begins another branch behind a branch in
which something was drawn. -/
theorem diagram_dead_ends (code file : String) :
    let g := diagram code file
    let ls := codeLines code.toList
    let left := abandoned (Ident.sanitize file) file ls
    (∀ id, g.Sink id ↔ id = endId file ∨ id ∈ left) ∧
      (∀ id ∈ g.ids, ReflTransGen g.Joins id (endId file) ∨ ∃ d ∈ left, ReflTransGen g.Joins id d) ∧
      ((∀ id ∈ g.ids, ReflTransGen g.Joins id (endId file)) ↔
        ∀ front line rest, ls = front ++ line :: rest → ¬Leaves front line) := by
  intro g ls left
  have hvalid := valid_drawn (Ident.sanitize file) file ls
  have hled : Led ((drawn (Ident.sanitize file) file ls).draw ⟨endId file, "FIN", .oval, some .finish⟩
      [⟨(drawn (Ident.sanitize file) file ls).last, endId file, .plain⟩] []) left := by
    have h := led_drawn (Ident.sanitize file) file ls
    refine h.follow hvalid (hvalid.fresh (m := .finish) id) ?_ ?_ ⟨_, List.mem_cons_self, rfl⟩ (by simp) (by simp)
    · simpa using hvalid.last
    · simpa using h.last
  refine ⟨hled.sink, hled.leads, fun hall front line rest heq hleaves => ?_, fun hnone id hid => ?_⟩
  · -- a dead end does not lead to the end
    have hleft : (drawn (Ident.sanitize file) file front).last ∈ left := ⟨front, line, rest, heq, hleaves, rfl⟩
    have hsink := (hled.sink _).2 (.inr hleft)
    have hend := hsink.eq_of_reaches (hall _ hsink.1)
    exact hled.last (hend ▸ hleft)
  · rcases hled.leads id hid with hend | ⟨d, ⟨front, line, rest, heq, hleaves, -⟩, -⟩
    · exact hend
    · exact absurd hleaves (hnone front line rest heq)

/-- Code with a condition of two branches. -/
def forkCode : String := "if (a) \x7b\n  x;\n\x7d else \x7b\n  y;\n\x7d\n"

/-- The first branch does not lead to the end. -/
theorem forkCode_branch_dangles :
    let g := diagram forkCode "main"
    "main_node_2" ∈ g.ids ∧ ¬ReflTransGen g.Joins "main_node_2" (endId "main") := by
  intro g
  have hsink : "main_node_2" ∈ g.ids ∧ ∀ l ∈ g.links, l.source ≠ "main_node_2" := by decide +kernel
  refine ⟨hsink.1, fun hpath => ?_⟩
  have hend : "main_node_2" = endId "main" := Graph.Sink.eq_of_reaches hsink hpath
  exact absurd hend (by decide +kernel)

end CodeFlow.BraceGraph
