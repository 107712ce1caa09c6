import Mathlib
import CodeFlow.Proofs.FlowText.Reading

/-!
# `CodeFlow.Proofs.FlowText.Renaming` — a prefix renames and does nothing else

The same flow text is read under many prefixes. What the text says does not depend on them: the statements are
the same ones in the same order, and every identifier has the sanitised prefix and an underscore in front.

Texts are sanitised together with their prefix, and that is the same as sanitising both for themselves, unless
one of them is empty. The identifier of a node is never empty. The end of a link may be, where an arrow has
nothing on one side; it then stands for nothing without a prefix, and for the bare prefix with one.

## Contents
- `Ident.sanitize_append`, `Ident.under`: sanitising, piece by piece.
- `nodes_eq_rename`: nodes.
- `allEnds`, `link_eq`: links, as they are cut from the text, and where their prefix is.
- `Moved`, `LinkMoved`: what a prefix does to an identifier and to a link.
- `prefix_renames`, and `frayed`, which has links with nothing at one end.
-/

namespace CodeFlow

open Text Dot

/-! ## Identifiers -/

namespace Ident

/-- Sanitising goes piece by piece, where both pieces are there. -/
theorem sanitize_append {a b : String} (ha : a.toList ≠ []) (hb : b.toList ≠ []) :
    sanitize (a ++ b) = sanitize a ++ sanitize b := by
  have hab : (a ++ b).toList ≠ [] := by
    rw [String.toList_append]
    exact List.append_ne_nil_of_left_ne_nil ha _
  apply String.toList_inj.1
  rw [toList_sanitize hab, String.toList_append, String.toList_append, toList_sanitize ha, toList_sanitize hb,
    List.map_append]

/-- An identifier under a prefix. -/
def under (pre id : String) : String := sanitize pre ++ "_" ++ id

theorem under_injective (pre : String) : Function.Injective (under pre) := by
  intro x y hxy
  have hlists := congrArg String.toList hxy
  simp only [under, String.toList_append] at hlists
  exact String.toList_inj.1 (List.append_cancel_left hlists)

/-- A prefix with its underscore. -/
theorem sanitize_joint {pre : String} (hpre : pre.toList ≠ []) : sanitize (pre ++ "_") = sanitize pre ++ "_" := by
  have hunder : sanitize "_" = "_" := by decide
  rw [sanitize_append hpre (by decide), hunder]

theorem qualify_none (name : String) : qualify "" name = sanitize name := rfl

/-- The identifier of a name under a prefix is the one without, behind the prefix. -/
theorem qualify_eq_under {pre name : String} (hpre : pre.toList ≠ []) (hname : name.toList ≠ []) :
    qualify pre name = under pre (qualify "" name) := by
  have hjoint : (pre ++ "_").toList ≠ [] := by
    rw [String.toList_append]
    exact List.append_ne_nil_of_left_ne_nil hpre _
  have hpre' : ¬pre.toList.isEmpty = true := by simpa using hpre
  rw [qualify, if_neg hpre', sanitize_append hjoint hname, sanitize_joint hpre, qualify_none, under]

/-- The empty name under a prefix. -/
theorem qualify_empty {pre : String} (hpre : pre.toList ≠ []) : qualify pre "" = sanitize pre ++ "_" := by
  have hpre' : ¬pre.toList.isEmpty = true := by simpa using hpre
  rw [qualify, if_neg hpre', String.append_empty, sanitize_joint hpre]

end Ident

/-- A node with another identifier. -/
def Dot.Node.rename (f : String → String) (n : Node) : Node := { n with id := f n.id }

namespace FlowText

open Ident

/-! ## Nodes -/

/-- What is defined has a name. -/
theorem ne_nil_of_mem_definitions {flow : List Char} {d : Definition} (hd : d ∈ definitions flow) :
    d.id.toList ≠ [] := by
  obtain ⟨line, -, hline⟩ := List.mem_flatMap.1 (mem_ids_definitions.1 (List.mem_map.2 ⟨d, hd, rfl⟩))
  have hreads := reads_ofChars line
  rw [declared] at hline
  cases hkind : Line.ofChars line with
  | link => simp [hkind, Line.id?] at hline
  | text t => simp [hkind, Line.id?] at hline
  | definition e =>
      have hid : d.id = e.id := by simpa [hkind, Line.id?] using hline
      rw [hkind] at hreads
      cases hreads with
      | definition _ hdefines =>
          cases hdefines with
          | intro hname _ _ =>
              rw [hid, String.toList_ofList]
              exact hname.ne_nil

theorem node_eq_rename {pre : String} (hpre : pre.toList ≠ []) {d : Definition} (hd : d.id.toList ≠ []) :
    node pre d = (node "" d).rename (under pre) := by
  rw [Node.rename, node, node, qualify_eq_under hpre hd]

/-- Under a prefix, the nodes of a text are those without one, renamed. -/
theorem nodes_eq_rename {pre : String} (hpre : pre.toList ≠ []) (flow : String) :
    (graph flow pre).nodes = (graph flow "").nodes.map (Node.rename (under pre)) := by
  show (definitions flow.toList).map (node pre) =
    ((definitions flow.toList).map (node "")).map (Node.rename (under pre))
  rw [List.map_map]
  apply List.map_congr_left
  intro d hd
  exact node_eq_rename hpre (ne_nil_of_mem_definitions hd)

/-! ## Links -/

/-- The two ends of all links of a flow text, in order. -/
def allEnds (flow : String) : List (List Char × List Char) :=
  (lines flow.toList).flatMap fun line => if isLink line then linkParts line else []

/-- There is a link for every two ends. -/
theorem links_eq_map (flow pre : String) : (graph flow pre).links = (allEnds flow).map (link pre) := by
  show (lines flow.toList).flatMap (lineLinks pre) = _
  rw [allEnds, List.map_flatMap]
  apply List.flatMap_congr
  intro line _
  rw [lineLinks]
  by_cases hlink : isLink line = true
  · rw [if_pos hlink, if_pos hlink]
  · rw [if_neg hlink, if_neg hlink, List.map_nil]

/-- The name of the source of a link: what stands before its specification, if it has one. -/
def sourceName (source : List Char) : List Char :=
  if isSpecified source then strip (beforeParen source) else source

/-- The style of a link, by its source. -/
def sourceStyle (source : List Char) : LinkStyle :=
  if isSpecified source then styleOf (insideParens source) else .plain

/-- The prefix of a link is in its identifiers only. -/
theorem link_eq (pre : String) (ends : List Char × List Char) :
    link pre ends = ⟨qualify pre (String.ofList (sourceName ends.1)), qualify pre (String.ofList ends.2),
      sourceStyle ends.1⟩ := by
  unfold link sourceName sourceStyle
  by_cases hspec : isSpecified ends.1 = true
  · simp only [if_pos hspec]
  · simp only [if_neg hspec]

/-- What a prefix makes of the identifier of a name at the end of a link. -/
inductive Moved (pre : String) : List Char → String → String → Prop where
  | named {name : List Char} (hname : name ≠ []) (id : String) : Moved pre name id (under pre id)
  /-- Where there is no name, there is no identifier to rename. -/
  | empty : Moved pre [] null (sanitize pre ++ "_")

/-- What a prefix makes of the link between two ends. -/
structure LinkMoved (pre : String) (ends : List Char × List Char) (l l' : Link) : Prop where
  source : Moved pre (sourceName ends.1) l.source l'.source
  target : Moved pre ends.2 l.target l'.target
  style : l'.style = l.style

theorem moved_qualify {pre : String} (hpre : pre.toList ≠ []) (name : List Char) :
    Moved pre name (qualify "" (String.ofList name)) (qualify pre (String.ofList name)) := by
  by_cases hname : name = []
  · subst hname
    have hempty : String.ofList [] = "" := rfl
    rw [hempty, qualify_empty hpre]
    exact .empty
  · have hlist : (String.ofList name).toList ≠ [] := by rwa [String.toList_ofList]
    rw [qualify_eq_under hpre hlist]
    exact .named hname _

theorem linkMoved_link {pre : String} (hpre : pre.toList ≠ []) (ends : List Char × List Char) :
    LinkMoved pre ends (link "" ends) (link pre ends) := by
  rw [link_eq, link_eq]
  exact ⟨moved_qualify hpre _, moved_qualify hpre _, rfl⟩

/-! ## Texts -/

/-- An identifier is declared under a prefix as it is without one. -/
theorem under_mem_ids {pre : String} (hpre : pre.toList ≠ []) (flow id : String) :
    under pre id ∈ (graph flow pre).ids ↔ id ∈ (graph flow "").ids := by
  have hids : (graph flow pre).ids = (graph flow "").ids.map (under pre) := by
    rw [Graph.ids, nodes_eq_rename hpre, Graph.ids, List.map_map, List.map_map]
    rfl
  rw [hids]
  exact List.mem_map_of_injective (under_injective pre)

/-- **A prefix renames and does nothing else.** Node by node and link by link, the statements of a text are the
same under a prefix as without one, but for identifiers, which have the prefix in front. Only where a link has
no name at one end, it ends at the bare prefix, which no node has; without a prefix it ends at the identifier
that stands for nothing. All other ends are declared under a prefix just if they are without one. -/
theorem prefix_renames (flow pre : String) (hpre : pre ≠ "") :
    (graph flow pre).nodes = (graph flow "").nodes.map (Node.rename (under pre)) ∧
    (graph flow pre).links.length = (graph flow "").links.length ∧
    List.Forall₂ (fun ends ls => LinkMoved pre ends ls.1 ls.2) (allEnds flow)
      ((graph flow "").links.zip (graph flow pre).links) ∧
    (∀ id, under pre id ∈ (graph flow pre).ids ↔ id ∈ (graph flow "").ids) ∧
    sanitize pre ++ "_" ∉ (graph flow pre).ids := by
  have hne : pre.toList ≠ [] := fun hnil => hpre (String.toList_inj.1 hnil)
  refine ⟨nodes_eq_rename hne flow, ?_, ?_, under_mem_ids hne flow, ?_⟩
  · rw [links_eq_map, links_eq_map, List.length_map, List.length_map]
  · rw [links_eq_map, links_eq_map, List.zip_map', List.forall₂_map_right_iff, List.forall₂_same]
    intro ends _
    exact linkMoved_link hne ends
  · -- the bare prefix would be the identifier of an empty name
    intro hbare
    have hempty : "" ∈ (graph flow "").ids := by
      apply (under_mem_ids hne flow "").1
      rwa [under, String.append_empty]
    obtain ⟨n, hn, hid⟩ := List.mem_map.1 hempty
    obtain ⟨d, -, rfl⟩ := List.mem_map.1 hn
    exact toList_sanitize_ne_nil d.id (congrArg String.toList hid)

/-- A text with a chain of links that begins and ends at nothing, and a node with the identifier for nothing. -/
def frayed : String := "id_null=>operation: x\n-> id_null(yes) ->\n"

/-- Without a prefix, its links end at that node. Under one they do not, for the node is renamed and nothing is
not. -/
theorem frayed_renamed :
    "m 1" ≠ "" ∧
    (graph frayed "").ids = ["id_null"] ∧
    (graph frayed "").links = [⟨"id_null", "id_null_yes_", .plain⟩, ⟨"id_null", "id_null", .yes⟩] ∧
    (graph frayed "m 1").ids = ["m_1_id_null"] ∧
    (graph frayed "m 1").links = [⟨"m_1_", "m_1_id_null_yes_", .plain⟩, ⟨"m_1_id_null", "m_1_", .yes⟩] ∧
    List.Forall₂ (fun ends ls => LinkMoved "m 1" ends ls.1 ls.2) (allEnds frayed)
      ((graph frayed "").links.zip (graph frayed "m 1").links) := by
  have hpre : "m 1" ≠ "" := by decide
  obtain ⟨-, -, hlinks, -⟩ := prefix_renames frayed "m 1" hpre
  exact ⟨hpre, by decide +kernel, by decide +kernel, by decide +kernel, by decide +kernel, hlinks⟩

end FlowText

end CodeFlow
