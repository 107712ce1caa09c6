import Mathlib
import CodeFlow.Dot.Statement

/-!
# `CodeFlow.Proofs.Dot.Graph` — graphs whose links join declared nodes

A link to an identifier that no statement declares is drawn all the same, to a box of its own. A graph is
*closed* if that does not happen. A graph is *grown* if it was built node by node, each with links to it
from nodes that were there before; then much more holds than that it is closed.

## Contents
- `Graph.Closed`.
- `Graph.Grown`, and what follows: identifiers are distinct, links point forward, every node is reached
  from the root, and links are counted by nodes.
- `Graph.Sink`: the nodes from which nothing goes on; `sink_add`.
-/

namespace CodeFlow.Dot.Graph

variable {g h : Graph} {root : String}

@[simp] theorem append_nodes (g h : Graph) : (g ++ h).nodes = g.nodes ++ h.nodes := rfl

@[simp] theorem append_links (g h : Graph) : (g ++ h).links = g.links ++ h.links := rfl

theorem append_assoc (f g h : Graph) : f ++ g ++ h = f ++ (g ++ h) :=
  congrArg₂ Graph.mk (List.append_assoc ..) (List.append_assoc ..)

theorem append_empty (g : Graph) : g ++ (⟨[], []⟩ : Graph) = g :=
  congrArg₂ Graph.mk (List.append_nil _) (List.append_nil _)

@[simp] theorem ids_append (g h : Graph) : (g ++ h).ids = g.ids ++ h.ids := by
  simp [ids]

/-- Every end of every link is declared. -/
def Closed (g : Graph) : Prop := ∀ l ∈ g.links, l.source ∈ g.ids ∧ l.target ∈ g.ids

instance : DecidablePred Closed := fun g =>
  inferInstanceAs (Decidable (∀ l ∈ g.links, l.source ∈ g.ids ∧ l.target ∈ g.ids))

/-- There is a link from one identifier to another. -/
def Joins (g : Graph) (a b : String) : Prop := ∃ l ∈ g.links, l.source = a ∧ l.target = b

/-- The number of nodes at which branches meet. -/
def meets (g : Graph) : Nat := g.nodes.countP fun n => n.shape = .point

/-- How many links lead to a new node. -/
def inDegree (n : Node) : Nat := if n.shape = .point then 2 else 1

theorem exists_mem_of_inDegree {n : Node} {ls : List Link} (h : ls.length = inDegree n) :
    ∃ l, l ∈ ls := by
  apply List.exists_mem_of_length_pos
  rw [h, inDegree]
  split_ifs <;> simp

/-- Graphs that were built node by node from a root: each new node has an identifier of its own and comes
with the links to it, which start at nodes that are there. -/
inductive Grown (root : String) : Graph → Prop where
  | root (n : Node) (hid : n.id = root) (hshape : n.shape ≠ .point) : Grown root ⟨[n], []⟩
  | add {g : Graph} (n : Node) (ls : List Link) (hg : Grown root g) (hfresh : n.id ∉ g.ids)
      (hls : ∀ l ∈ ls, l.source ∈ g.ids ∧ l.target = n.id) (hcount : ls.length = inDegree n) :
      Grown root (g ++ ⟨[n], ls⟩)

namespace Grown

theorem head (hg : Grown root g) : g.ids.head? = some root := by
  induction hg with
  | root n hid _ => simp [ids, hid]
  | add n ls _ _ _ _ ih => simp [ih]

/-- **The identifiers are distinct.** -/
theorem nodup (hg : Grown root g) : g.ids.Nodup := by
  induction hg with
  | root n _ _ => simp [ids]
  | add n ls _ hfresh _ _ ih =>
      rw [ids_append]
      refine ih.append (by simp [ids]) ?_
      simpa [List.disjoint_right, ids] using hfresh

/-- **Links point forward**: the source is declared before the target. -/
theorem forward (hg : Grown root g) : ∀ l ∈ g.links, [l.source, l.target].Sublist g.ids := by
  induction hg with
  | root n _ _ => simp
  | add n ls _ _ hls _ ih =>
      intro l hl
      rw [ids_append]
      rcases List.mem_append.1 hl with hl | hl
      · exact (ih l hl).trans (List.sublist_append_left _ _)
      · obtain ⟨hsource, htarget⟩ := hls l hl
        have hnew : [l.target].Sublist (ids ⟨[n], ls⟩) := by simp [ids, htarget]
        exact (List.singleton_sublist.2 hsource).append hnew

theorem closed (hg : Grown root g) : g.Closed := fun l hl =>
  have hsub := (hg.forward l hl).subset
  ⟨hsub (by simp), hsub (by simp)⟩

theorem exists_link (hg : Grown root g) :
    ∀ id ∈ g.ids, id ≠ root → ∃ l ∈ g.links, l.target = id := by
  induction hg with
  | root n hid _ =>
      intro id hmem hne
      exact absurd (by simpa [ids, hid] using hmem) hne
  | add n ls _ _ hls hcount ih =>
      intro id hmem hne
      rw [ids_append] at hmem
      rcases List.mem_append.1 hmem with hold | hnew
      · obtain ⟨l, hl, htarget⟩ := ih id hold hne
        exact ⟨l, List.mem_append_left _ hl, htarget⟩
      · obtain ⟨l, hl⟩ := exists_mem_of_inDegree hcount
        have hid : id = n.id := by simpa [ids] using hnew
        exact ⟨l, List.mem_append_right _ hl, (hls l hl).2.trans hid.symm⟩

theorem joins_mono (hsub : g.links ⊆ h.links) : g.Joins ≤ h.Joins := by
  rintro a b ⟨l, hl, hends⟩
  exact ⟨l, hsub hl, hends⟩

/-- **Every node is reached from the root.** -/
theorem reachable (hg : Grown root g) : ∀ id ∈ g.ids, Relation.ReflTransGen g.Joins root id := by
  induction hg with
  | root n hid _ =>
      intro id hmem
      have : id = root := by simpa [ids, hid] using hmem
      exact this ▸ .refl
  | @add g n ls hg hfresh hls hcount ih =>
      intro id hmem
      have hlift : ∀ x ∈ g.ids, Relation.ReflTransGen (g ++ ⟨[n], ls⟩).Joins root x := fun x hx =>
        Relation.ReflTransGen.mono (joins_mono (by simp)) _ _ (ih x hx)
      rw [ids_append] at hmem
      rcases List.mem_append.1 hmem with hold | hnew
      · exact hlift id hold
      · -- a new node is one link away from an old one
        obtain ⟨l, hl⟩ := exists_mem_of_inDegree hcount
        obtain ⟨hsource, htarget⟩ := hls l hl
        have hid : id = n.id := by simpa [ids] using hnew
        exact (hlift l.source hsource).tail
          ⟨l, List.mem_append_right _ hl, rfl, htarget.trans hid.symm⟩

/-- **Links are counted by nodes**: one for every node but the root, and one more where branches meet. -/
theorem length_links (hg : Grown root g) : g.links.length + 1 = g.nodes.length + g.meets := by
  induction hg with
  | root n _ hshape => simp [meets, hshape]
  | @add g n ls _ _ _ hcount ih =>
      have hmeets : (g ++ ⟨[n], ls⟩).meets + 1 = g.meets + inDegree n := by
        by_cases hn : n.shape = .point <;> simp [meets, inDegree, hn]
      simp only [append_links, append_nodes, List.length_append, List.length_singleton, hcount]
      omega

end Grown

/-! ## Dead ends -/

/-- A node from which no link starts. -/
def Sink (g : Graph) (id : String) : Prop := id ∈ g.ids ∧ ∀ l ∈ g.links, l.source ≠ id

/-- From a dead end nothing else is reached. -/
theorem Sink.eq_of_reaches {a b : String} (ha : g.Sink a) (hab : Relation.ReflTransGen g.Joins a b) : a = b := by
  rcases hab.cases_head with heq | ⟨c, ⟨l, hl, hsource, -⟩, -⟩
  · exact heq
  · exact absurd hsource (ha.2 l hl)

/-- **A new node is a dead end, and it ends those at which its links start.** -/
theorem sink_add {n : Node} {ls : List Link} {id : String} (hg : ∀ l ∈ g.links, l.source ∈ g.ids)
    (hfresh : n.id ∉ g.ids) (hls : ∀ l ∈ ls, l.source ∈ g.ids) :
    (g ++ ⟨[n], ls⟩).Sink id ↔ id = n.id ∨ (g.Sink id ∧ ∀ l ∈ ls, l.source ≠ id) := by
  have hids : id ∈ (g ++ ⟨[n], ls⟩).ids ↔ id ∈ g.ids ∨ id = n.id := by simp [ids]
  have hlinks : (∀ l ∈ (g ++ ⟨[n], ls⟩).links, l.source ≠ id) ↔
      (∀ l ∈ g.links, l.source ≠ id) ∧ ∀ l ∈ ls, l.source ≠ id := by
    rw [append_links, List.forall_mem_append]
  rw [Sink, hids, hlinks]
  constructor
  · rintro ⟨hold | hnew, hboth⟩
    · exact .inr ⟨⟨hold, hboth.1⟩, hboth.2⟩
    · exact .inl hnew
  · rintro (rfl | ⟨⟨hold, hnone⟩, hnot⟩)
    · -- no link starts at an identifier that was not there
      exact ⟨.inr rfl, fun l hl heq => hfresh (heq ▸ hg l hl), fun l hl heq => hfresh (heq ▸ hls l hl)⟩
    · exact ⟨.inl hold, hnone, hnot⟩

/-- What is reached stays reached. -/
theorem reaches_append {a b : String} (hab : Relation.ReflTransGen g.Joins a b) (h : Graph) :
    Relation.ReflTransGen (g ++ h).Joins a b :=
  Relation.ReflTransGen.mono (Grown.joins_mono (by simp)) _ _ hab

end CodeFlow.Dot.Graph
