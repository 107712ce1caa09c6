import Mathlib
import CodeFlow.Proofs.FlowText.Renaming
import CodeFlow.Proofs.Source.Parser
import CodeFlow.Proofs.SourceGraph
import CodeFlow.Proofs.SourceGraph.Outside
import CodeFlow.Proofs.Text.Digit

/-!
# `CodeFlow.Proofs.SourceGraph.Headers` — functions that share a header

The identifier of a header is the file, the path of the function and the number drawn for it, with underscores
between them and every other character replaced by an underscore. Underscores may stand anywhere in a path, so the
identifier is read from its end: digits hold none, so what comes after the last underscore is the number. With that
gone, and with what all functions of a file have in front, the path is left as it was sanitised.

## Contents
- `headerId_eq_iff`: one identifier, one number and one sanitised path.
- `toList_text_ne_nil`: functions of a source text have names.
- `FunctionsTried`, `run_analyse_tried`: the functions of a source text, however it is charted.
- `headers_shared_iff`, and `lookalikes`, a method and a function that share a header.
-/

namespace CodeFlow.SourceGraph

open Source Dot Ident

/-! ## Identifiers -/

/-- What the identifiers of all headers of a file begin with. -/
def headerFront (file : String) : List Char := "HEAD_".toList ++ (file ++ "_FN_").toList.map sanitizeChar

theorem toList_headerId (file : String) (p : FunctionPath) (n : Nat) :
    (headerId (functionPrefix file p n)).toList =
      headerFront file ++ p.text.toList.map sanitizeChar ++ '_' :: (toString n).toList := by
  have hne : (file ++ "_FN_" ++ p.text ++ "_" ++ toString (n : Int)).toList ≠ [] := by
    simp only [String.toList_append]
    simp
  have hdigits : (toString (n : Int)).toList.map sanitizeChar = (toString n).toList :=
    map_sanitizeChar fun c hc => isIdentChar_of_mem_toString hc
  have hbar : "_".toList.map sanitizeChar = ['_'] := rfl
  rw [headerId, functionPrefix, String.toList_append, toList_sanitize hne, String.toList_append, String.toList_append,
    String.toList_append, List.map_append, List.map_append, List.map_append, hdigits, hbar, headerFront]
  simp only [List.append_assoc, List.singleton_append]

theorem toString_inj {u v : Nat} (h : (toString u).toList = (toString v).toList) : u = v := by
  rw [Text.toList_toString, Text.toList_toString] at h
  rw [← Text.decimalValue_toDigits u, h, Text.decimalValue_toDigits]

/-- The number is what comes last. -/
theorem lastPart_headerId_natCast (file : String) (p : FunctionPath) (n : Nat) :
    lastPart (headerId (functionPrefix file p n)) = some (toString n).toList := by
  refine lastPart_of_toList (toList_headerId file p n) fun hbar => ?_
  exact absurd (isDigit_of_mem_toString hbar) (by decide)

/-- **Functions share a header if they have one number and one sanitised path**, and not otherwise. -/
theorem headerId_eq_iff (file : String) {p q : FunctionPath} (hp : p.text.toList ≠ []) (hq : q.text.toList ≠ [])
    (u v : Nat) : headerId (functionPrefix file p u) = headerId (functionPrefix file q v) ↔
      u = v ∧ sanitize p.text = sanitize q.text := by
  constructor
  · intro h
    have hlast := congrArg lastPart h
    rw [lastPart_headerId_natCast, lastPart_headerId_natCast] at hlast
    obtain rfl : u = v := toString_inj (Option.some.inj hlast)
    refine ⟨rfl, ?_⟩
    have hlist := congrArg String.toList h
    rw [toList_headerId, toList_headerId] at hlist
    -- the number goes, and then what stands in front
    have hpath := List.append_cancel_left (List.append_cancel_right hlist)
    apply String.toList_inj.1
    rw [toList_sanitize hp, toList_sanitize hq, hpath]
  · rintro ⟨rfl, h⟩
    have hpath := congrArg String.toList h
    rw [toList_sanitize hp, toList_sanitize hq] at hpath
    apply String.toList_inj.1
    rw [toList_headerId, toList_headerId, hpath]

/-- A method and a function whose name is that of the class and the method have one sanitised path. -/
theorem sanitize_method (className name : String) :
    sanitize (FunctionPath.text ⟨some className, name⟩) =
      sanitize (FunctionPath.text ⟨none, className ++ "_" ++ name⟩) := by
  have hmethod : FunctionPath.text ⟨some className, name⟩ = className ++ "." ++ name := rfl
  have hfunction : FunctionPath.text ⟨none, className ++ "_" ++ name⟩ = className ++ "_" ++ name := by
    simp [FunctionPath.text]
  have hpoint : ".".toList.map sanitizeChar = "_".toList.map sanitizeChar := rfl
  rw [hmethod, hfunction]
  apply String.toList_inj.1
  rw [toList_sanitize (by simp), toList_sanitize (by simp)]
  simp only [String.toList_append, List.map_append, hpoint]

/-! ## Functions of a source text -/

/-- Functions have names. -/
theorem toList_text_ne_nil {body : List Stmt} (h : AllFormed body) {p : FunctionPath} (hp : p ∈ functionPaths body) :
    p.text.toList ≠ [] := by
  rcases List.mem_append.1 hp with hp | hp
  · -- one at the top has the name that the grammar asks for
    obtain ⟨name, hname, rfl⟩ := List.mem_map.1 hp
    obtain ⟨s, hs, hname⟩ := List.mem_filterMap.1 hname
    have hformed := h s (.here hs)
    have htext : FunctionPath.text ⟨none, name⟩ = name := by simp [FunctionPath.text]
    rw [htext]
    cases s <;> simp only [Stmt.functionName?, Option.some.injEq, reduceCtorEq] at hname
    exact hname ▸ hformed.1
  · -- the path of a method has a point
    obtain ⟨s, -, hp⟩ := List.mem_flatMap.1 hp
    unfold methods at hp
    split at hp
    · exact absurd hp List.not_mem_nil
    · obtain ⟨name, -, rfl⟩ := List.mem_map.1 hp
      simp [FunctionPath.text]

/-- The functions that are tried when a source text is drawn: all there are, or none if the text cannot be parsed or the
statements outside cannot be charted. -/
inductive FunctionsTried (o : Options) (file code : String) (s : Supply) : List Trial → Supply → Prop where
  | all {body : List Stmt} {root : Graph} {s' s'' : Supply} {ts : List Trial}
      (hparse : parse? code.toList = some body) (hroot : RootCharted o file body s root s')
      (htried : Tried o body s' (functionPaths body) ts s'') : FunctionsTried o file code s ts s''
  | nothing {s'' : Supply} (h : ∀ body root s', parse? code.toList = some body → ¬RootCharted o file body s root s') :
      FunctionsTried o file code s [] s''

variable {o : Options} {file code : String} {s s' : Supply} {ts : List Trial}

theorem FunctionsTried.toList_text_ne_nil (h : FunctionsTried o file code s ts s') {t : Trial} (ht : t ∈ ts) :
    t.path.text.toList ≠ [] := by
  cases h with
  | all hparse _ htried =>
      refine SourceGraph.toList_text_ne_nil (formed_parse? hparse) ?_
      rw [← htried.paths]
      exact List.mem_map_of_mem ht
  | nothing _ => exact absurd ht List.not_mem_nil

/-- The nodes of a graph that are filled as headers are. -/
def headersOf (g : Graph) : List Node := g.nodes.filter (·.fill = some .header)

theorem headersOf_flowText (flow pre : String) : headersOf (FlowText.graph flow pre) = [] :=
  List.filter_eq_nil_iff.2 fun n hn => by simpa using fill_of_mem_graph hn

theorem headersOf_root {body : List Stmt} {root : Graph} (h : RootCharted o file body s root s') :
    headersOf root = [] := by
  cases h with
  | nothing _ => rfl
  | charted _ _ _ => exact headersOf_flowText _ _

/-- A text that is charted as a whole has no headers. -/
theorem headersOf_whole (subject : Subject) (s : Supply) :
    headersOf (Diagram.ofSheets ((wholeSheets o.charter o file subject).run s).1).graph = [] := by
  have hrun : ((wholeSheets o.charter o file subject).run s).1 =
      (((o.charter o.toOptions o.inner subject).run s.number).1.map (⟨none, file ++ "_FALLBACK", ·⟩)).toList := rfl
  have hnone := (ofSheets_fallback ((o.charter o.toOptions o.inner subject).run s.number).1 (file ++ "_FALLBACK")).2
  rw [hrun]
  exact List.filter_eq_nil_iff.2 fun n hn => by simpa using hnone n hn

/-- The functions among those tried that have charts. -/
def charted (ts : List Trial) : List Trial := ts.filter (·.chart.isSome)

theorem headersOf_trial (t : Trial) :
    headersOf (t.graph file) = if t.chart.isSome then [header t.path (t.pre file)] else [] := by
  obtain ⟨p, draw, chart⟩ := t
  cases chart with
  | none => rfl
  | some flow =>
      change headersOf (block p (functionPrefix file p draw) (FlowText.graph flow _)) = [header p _]
      unfold headersOf block
      rw [List.filter_cons_of_pos (by simp [header])]
      exact congrArg _ (headersOf_flowText flow _)

/-- The headers of a diagram are those of the functions that have charts. -/
theorem headersOf_assembled {root : Graph} (hroot : headersOf root = []) (ts : List Trial) :
    headersOf (assembled file root ts).graph = (charted ts).map fun t => header t.path (t.pre file) := by
  have hsplit : headersOf (assembled file root ts).graph = ts.flatMap fun t => headersOf (t.graph file) := by
    change (root.nodes ++ ts.flatMap fun t => (t.graph file).nodes).filter (·.fill = some .header) = _
    rw [List.filter_append, List.filter_flatMap]
    change headersOf root ++ _ = _
    rw [hroot]
    rfl
  rw [hsplit, charted]
  clear hsplit
  induction ts with
  | nil => rfl
  | cons t ts ih =>
      rw [List.flatMap_cons, ih, headersOf_trial, List.filter_cons]
      split_ifs <;> rfl

/-- The headers of a source text are those of the functions that were tried and have charts. -/
theorem run_analyse_tried (o : Options) (file code : String) (s : Supply) :
    ∃ ts, FunctionsTried o file code s ts ((analyse o file code).run s).2 ∧
      headersOf ((analyse o file code).run s).1.graph = (charted ts).map fun t => header t.path (t.pre file) := by
  cases hparse : parse? code.toList with
  | none =>
      have hanalyse : ((analyse o file code).run s).1 =
          Diagram.ofSheets ((wholeSheets o.charter o file (.unread code)).run s).1 := by
        rw [analyse, sheets, hparse]
        rfl
      refine ⟨[], .nothing fun body root s' h => absurd (hparse.symm.trans h) (by simp), ?_⟩
      rw [hanalyse, headersOf_whole]
      rfl
  | some body =>
      by_cases hcharted : ∃ root s', RootCharted o file body s root s'
      · obtain ⟨root, s', hroot⟩ := hcharted
        obtain ⟨ts, htried, hdiagram⟩ := run_analyse hparse hroot
        refine ⟨ts, .all hparse hroot htried, ?_⟩
        rw [hdiagram]
        exact headersOf_assembled (headersOf_root hroot) ts
      · have hnot : ∀ root s', ¬RootCharted o file body s root s' := fun root s' h => hcharted ⟨root, s', h⟩
        obtain ⟨s', hroot⟩ := run_rootSheets?_of_not hnot
        have hanalyse : ((analyse o file code).run s).1 =
            Diagram.ofSheets ((wholeSheets o.charter o file (.program body)).run s').1 := by
          rw [analyse, sheets, hparse, bind_assoc, run_bind_of_eq hroot]
          rfl
        refine ⟨[], .nothing fun body' root s' h => ?_, ?_⟩
        · obtain rfl := Option.some.inj (hparse.symm.trans h)
          exact hnot root s'
        · rw [hanalyse, headersOf_whole]
          rfl

/-! ## Shared headers -/

/-- **Functions share a header exactly if they have one number and one sanitised path.** The headers of a diagram are
those of the functions that have charts, one for each. So they are all different if the numbers drawn are; and if the
numbers are equal, two functions of one path share a header, and so do a method and the function whose name is that
of the class and the method. -/
theorem headers_shared_iff (o : Options) (file code : String) (s : Supply) :
    let d := ((analyse o file code).run s).1
    ∃ ts, FunctionsTried o file code s ts ((analyse o file code).run s).2 ∧
      headersOf d.graph = (charted ts).map (fun t => header t.path (t.pre file)) ∧
      (∀ a ∈ charted ts, ∀ b ∈ charted ts, ∀ u v : Nat, a.draw = u → b.draw = v →
        (headerId (a.pre file) = headerId (b.pre file) ↔ u = v ∧ sanitize a.path.text = sanitize b.path.text)) ∧
      ((∀ t ∈ charted ts, 0 ≤ t.draw) → ((charted ts).map (·.draw)).Nodup →
        ((headersOf d.graph).map (·.id)).Nodup) ∧
      (∀ a ∈ charted ts, ∀ b ∈ charted ts, ∀ n : Nat, a.draw = n → b.draw = n →
        (a.path = b.path ∨
          ∃ className name, a.path = ⟨some className, name⟩ ∧ b.path = ⟨none, className ++ "_" ++ name⟩) →
        headerId (a.pre file) = headerId (b.pre file)) := by
  intro d
  obtain ⟨ts, htried, hheaders⟩ := run_analyse_tried o file code s
  have hshared : ∀ a ∈ charted ts, ∀ b ∈ charted ts, ∀ u v : Nat, a.draw = u → b.draw = v →
      (headerId (a.pre file) = headerId (b.pre file) ↔ u = v ∧ sanitize a.path.text = sanitize b.path.text) := by
    intro a ha b hb u v hu hv
    have hapath := htried.toList_text_ne_nil (List.mem_of_mem_filter ha)
    have hbpath := htried.toList_text_ne_nil (List.mem_of_mem_filter hb)
    rw [Trial.pre, Trial.pre, hu, hv]
    exact headerId_eq_iff file hapath hbpath u v
  refine ⟨ts, htried, hheaders, hshared, ?_, ?_⟩
  · intro hnat hdraws
    change ((headersOf ((analyse o file code).run s).1.graph).map (·.id)).Nodup
    rw [hheaders, List.map_map]
    refine List.Nodup.map_on ?_ hdraws.of_map
    intro a ha b hb h
    obtain ⟨u, hu⟩ := Int.eq_ofNat_of_zero_le (hnat a ha)
    obtain ⟨v, hv⟩ := Int.eq_ofNat_of_zero_le (hnat b hb)
    have huv : u = v := ((hshared a ha b hb u v hu hv).1 h).1
    exact List.inj_on_of_nodup_map hdraws ha hb (by rw [hu, hv, huv])
  · intro a ha b hb n hadraw hbdraw hpaths
    refine (hshared a ha b hb n n hadraw hbdraw).2 ⟨rfl, ?_⟩
    rcases hpaths with hpath | ⟨className, name, hapath, hbpath⟩
    · rw [hpath]
    · rw [hapath, hbpath]
      exact sanitize_method className name

/-- A function, and a method that is sanitised to its name. -/
def lookalikes : String := "def A_b():\n return 2\nclass A:\n def b(self):\n  return 1\n"

/-- With one number for both, the two functions of `lookalikes` share a header. -/
theorem lookalikes_share_header : ∃ ts : List Trial, (charted ts).length = 2 ∧
    headersOf ((analyse {} "main" lookalikes).run {}).1.graph =
      (charted ts).map (fun t => header t.path (t.pre "main")) ∧
    (headersOf ((analyse {} "main" lookalikes).run {}).1.graph).map (·.id) =
      ["HEAD_main_FN_A_b_0", "HEAD_main_FN_A_b_0"] ∧
    ∀ a ∈ charted ts, ∀ b ∈ charted ts, ∀ u v : Nat, a.draw = u → b.draw = v →
      (headerId (a.pre "main") = headerId (b.pre "main") ↔ u = v ∧ sanitize a.path.text = sanitize b.path.text) := by
  have hids : (headersOf ((analyse {} "main" lookalikes).run {}).1.graph).map (·.id) =
      ["HEAD_main_FN_A_b_0", "HEAD_main_FN_A_b_0"] := by
    decide +kernel
  obtain ⟨ts, -, hheaders, hshared, -, -⟩ := headers_shared_iff {} "main" lookalikes {}
  refine ⟨ts, ?_, hheaders, hids, hshared⟩
  have hlength := congrArg List.length hids
  rw [hheaders, List.length_map, List.length_map] at hlength
  exact hlength

end CodeFlow.SourceGraph
