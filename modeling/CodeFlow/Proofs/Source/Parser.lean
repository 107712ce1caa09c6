import Mathlib
import CodeFlow.Proofs.Outcome
import CodeFlow.Proofs.Text.Search
import CodeFlow.Source.Parser

/-!
# `CodeFlow.Proofs.Source.Parser` — what the grammar asks of statements

A chart leads from a condition into its block, so something has to be there; a function is told by its name, and
what is imported is looked up along the parts of a module's name, so these have to be there too. The grammar sees to
it wherever a statement stands: what is parsed is *formed*, in all of its blocks.

## Contents
- `Stmt.blocks`, `Inside`: the statements of a program, at any depth.
- `Stmt.Formed`, `AllFormed`: what the grammar asks.
- `deep_simpleStmt`, `formed_statement`, `isBlock_block`: the rules of the grammar.
- `formed_parse?`.
- `Stmt.Filled`, `AllFilled`: blocks that are drawn are not empty; `filled_parse?`.
-/

namespace CodeFlow.Source

/-! ## Statements inside -/

/-- The statements of a handler. -/
def Handler.body : Handler → List Stmt
  | .mk _ _ body => body

/-- The statements of a case. -/
def MatchCase.body : MatchCase → List Stmt
  | .mk _ _ body => body

/-- The blocks of a statement. -/
def Stmt.blocks : Stmt → List (List Stmt)
  | .cond _ body orElse => [body, orElse]
  | .whileLoop _ body orElse => [body, orElse]
  | .forLoop _ _ _ body orElse => [body, orElse]
  | .withContexts _ _ body => [body]
  | .tryBlock _ body handlers orElse atEnd => body :: orElse :: atEnd :: handlers.map Handler.body
  | .function _ _ _ _ _ body => [body]
  | .classDef _ _ _ _ body => [body]
  | .matchCases _ cases => cases.map MatchCase.body
  | _ => []

/-- A statement stands in a program, at some depth. -/
inductive Inside : List Stmt → Stmt → Prop where
  | here {body : List Stmt} {s : Stmt} (h : s ∈ body) : Inside body s
  | deeper {body block : List Stmt} {s t : Stmt} (ht : t ∈ body) (hblock : block ∈ t.blocks)
      (h : Inside block s) : Inside body s

/-- What the grammar asks of a statement by itself: blocks that are drawn are not empty, functions have names, and so
have the modules that names are imported from, in all their parts. -/
def Stmt.Formed : Stmt → Prop
  | .cond _ body _ => body ≠ []
  | .whileLoop _ body _ => body ≠ []
  | .forLoop _ _ _ body _ => body ≠ []
  | .function _ name _ _ _ body => name.toList ≠ [] ∧ body ≠ []
  | .importFrom level module _ =>
    (level = 0 → module ≠ none) ∧ ∀ m ∈ module, ∀ part ∈ Text.splitOnChar '.' m.toList, part ≠ []
  | _ => True

/-- All statements of a program are formed, at any depth. -/
def AllFormed (body : List Stmt) : Prop := ∀ s, Inside body s → s.Formed

/-- A statement is formed, and so is all inside it. -/
structure Stmt.Deep (s : Stmt) : Prop where
  /-- It is formed itself. -/
  formed : s.Formed
  /-- All in its blocks is. -/
  blocks : ∀ block ∈ s.blocks, AllFormed block

theorem allFormed_iff {body : List Stmt} : AllFormed body ↔ ∀ s ∈ body, s.Deep := by
  constructor
  · intro h s hs
    exact ⟨h s (.here hs), fun block hblock t ht => h t (.deeper hs hblock ht)⟩
  · intro h s hs
    cases hs with
    | here hs => exact (h s hs).formed
    | deeper ht hblock hs => exact (h _ ht).blocks _ hblock s hs

theorem allFormed_nil : AllFormed [] := allFormed_iff.2 (by simp)

theorem allFormed_single {s : Stmt} (h : s.Deep) : AllFormed [s] := allFormed_iff.2 (by simpa using h)

/-- A statement without blocks. -/
theorem deep_of_blocks_eq_nil {s : Stmt} (hblocks : s.blocks = []) (h : s.Formed) : s.Deep where
  formed := h
  blocks block hblock := by
    rw [hblocks] at hblock
    exact absurd hblock List.not_mem_nil

/-- A block as the grammar has it. -/
structure IsBlock (body : List Stmt) : Prop where
  /-- It is not empty. -/
  ne_nil : body ≠ []
  /-- Its statements are formed. -/
  formed : AllFormed body

namespace Parser

variable (g : Grammar)

/-! ## Names -/

/-- A name is one that a token holds. -/
theorem spelled_name : SatisfiesM (fun id => id.toList ≠ [] ∧ '.' ∉ id.toList) name := by
  rw [satisfies_iff]
  intro ts r h
  change name ts = some r at h
  unfold name at h
  split at h
  · rename_i id rest
    obtain rfl := Option.some.inj h
    exact id.spelled
  · exact absurd h (by simp)

/-- Names with points between them are parted again by the points. -/
theorem splitOnChar_foldl_point {first : String} {rest : List String} (hfirst : '.' ∉ first.toList)
    (hrest : ∀ p ∈ rest, '.' ∉ p.toList) :
    Text.splitOnChar '.' (rest.foldl (fun s p => s ++ "." ++ p) first).toList =
      first.toList :: rest.map String.toList := by
  -- on the names that come last
  induction rest using List.reverseRecOn with
  | nil => exact Text.splitOnChar_of_not_mem hfirst
  | append_singleton rest p ih =>
      have hbefore := ih fun q hq => hrest q (List.mem_append_left _ hq)
      have hp : '.' ∉ p.toList := hrest p (by simp)
      have hpoint : ".".toList = ['.'] := rfl
      rw [List.foldl_append, List.foldl_cons, List.foldl_nil, String.toList_append, String.toList_append, hpoint,
        List.append_assoc, List.singleton_append, Text.splitOnChar_append_cons, hbefore,
        Text.splitOnChar_of_not_mem hp, List.map_append]
      rfl

/-- The parts of a module's name are names. -/
theorem parts_dottedName :
    SatisfiesM (fun m => ∀ part ∈ Text.splitOnChar '.' m.toList, part ≠ []) dottedName := by
  refine spelled_name.bind fun first hfirst => ?_
  refine (satisfies_many (satisfiesM_of_forall fun _ => spelled_name)).bind fun rest hrest => SatisfiesM.pure ?_
  rw [splitOnChar_foldl_point hfirst.2 fun p hp => (hrest p hp).2]
  intro part hpart
  rcases List.mem_cons.1 hpart with rfl | hpart
  · exact hfirst.1
  · obtain ⟨p, hp, rfl⟩ := List.mem_map.1 hpart
    exact (hrest p hp).1

/-! ## Simple statements -/

/-- What is left of a rule for a statement without blocks of which nothing is asked. -/
theorem deep_pure {s : Stmt} (hblocks : s.blocks = []) (h : s.Formed) :
    SatisfiesM Stmt.Deep (pure s : Parser Stmt) :=
  SatisfiesM.pure (deep_of_blocks_eq_nil hblocks h)

theorem deep_importFrom : SatisfiesM Stmt.Deep importFrom := by
  refine satisfiesM_of_forall fun _ => satisfiesM_of_forall fun _ => satisfiesM_of_forall fun level => ?_
  refine (satisfies_opt parts_dottedName).bind fun module hmodule => ?_
  refine satisfies_require fun hlevel => satisfiesM_of_forall fun _ => satisfiesM_of_forall fun names => ?_
  refine deep_pure rfl ⟨?_, hmodule⟩
  rintro rfl rfl
  exact absurd hlevel (by decide)

theorem deep_declaration (target : Expr) (simple : Bool) :
    SatisfiesM Stmt.Deep (declaration g target simple) := by
  refine satisfiesM_of_forall fun _ => satisfiesM_of_forall fun b => ?_
  -- with a value and without
  cases b <;> exact satisfiesM_of_forall fun _ => deep_pure rfl trivial

theorem deep_assignFrom (n : Nat) (targets : List Expr) :
    SatisfiesM Stmt.Deep (assignFrom g n targets) := by
  induction n generalizing targets with
  | zero => exact satisfies_failure
  | succ n ih =>
      refine satisfiesM_of_forall fun e => satisfiesM_of_forall fun b => ?_
      split_ifs
      · exact satisfiesM_of_forall fun _ => ih _
      · exact deep_pure rfl trivial

theorem deep_exprStmt : SatisfiesM Stmt.Deep (exprStmt g) := by
  refine satisfiesM_of_forall fun ts => ?_
  -- a name with a hint, a yield, or an expression and what comes after it
  split
  · exact satisfiesM_of_forall fun _ => deep_declaration g _ _
  · exact satisfiesM_of_forall fun _ => deep_pure rfl trivial
  · refine satisfiesM_of_forall fun e => satisfiesM_of_forall fun b => ?_
    split_ifs
    · exact satisfiesM_of_forall fun _ => satisfiesM_of_forall fun _ => deep_assignFrom g _ _
    · refine satisfiesM_of_forall fun b => ?_
      split_ifs
      · exact satisfiesM_of_forall fun _ => deep_declaration g _ _
      · refine satisfiesM_of_forall fun op => ?_
        split
        · exact satisfiesM_of_forall fun _ => satisfiesM_of_forall fun _ => deep_pure rfl trivial
        · exact deep_pure rfl trivial

theorem deep_raiseStmt : SatisfiesM Stmt.Deep (raiseStmt g) := by
  refine satisfiesM_of_forall fun _ => satisfiesM_of_forall fun e => ?_
  split
  · exact deep_pure rfl trivial
  · refine satisfiesM_of_forall fun b => ?_
    split_ifs
    · exact satisfiesM_of_forall fun _ => deep_pure rfl trivial
    · exact deep_pure rfl trivial

theorem deep_assertStmt : SatisfiesM Stmt.Deep (assertStmt g) := by
  refine satisfiesM_of_forall fun _ => satisfiesM_of_forall fun _ => satisfiesM_of_forall fun b => ?_
  split_ifs
  · exact satisfiesM_of_forall fun _ => deep_pure rfl trivial
  · exact deep_pure rfl trivial

theorem deep_simpleStmt : SatisfiesM Stmt.Deep (simpleStmt g) := by
  have hword : ∀ {α β : Type} {a : Parser α} {b : Parser β} {f : β → Stmt}, (∀ x, (f x).Deep) →
      SatisfiesM Stmt.Deep (do let _ ← a; return f (← b)) := fun h =>
    satisfiesM_of_forall fun _ => satisfiesM_of_forall fun x => SatisfiesM.pure (h x)
  refine satisfiesM_of_forall fun t => ?_
  -- one case for each keyword, and one for everything else
  split
  · exact satisfiesM_of_forall fun _ => deep_pure rfl trivial
  · exact satisfiesM_of_forall fun _ => deep_pure rfl trivial
  · exact satisfiesM_of_forall fun _ => deep_pure rfl trivial
  · exact hword fun _ => deep_of_blocks_eq_nil rfl trivial
  · exact deep_raiseStmt g
  · exact satisfiesM_of_forall fun _ => satisfiesM_of_forall fun _ => satisfiesM_of_forall fun _ =>
      deep_pure rfl trivial
  · exact deep_assertStmt g
  · exact hword fun _ => deep_of_blocks_eq_nil rfl trivial
  · exact hword fun _ => deep_of_blocks_eq_nil rfl trivial
  · exact hword fun _ => deep_of_blocks_eq_nil rfl trivial
  · exact deep_importFrom
  · exact deep_exprStmt g

theorem isBlock_simpleStmts : SatisfiesM IsBlock (simpleStmts g) := by
  refine (deep_simpleStmt g).bind fun first hfirst => ?_
  refine (satisfies_many (satisfiesM_of_forall fun _ => deep_simpleStmt g)).bind fun rest hrest => ?_
  refine satisfiesM_of_forall fun _ => satisfiesM_of_forall fun _ => SatisfiesM.pure ?_
  exact ⟨by simp, allFormed_iff.2 (List.forall_mem_cons.2 ⟨hfirst, hrest⟩)⟩

/-! ## Compound statements -/

section Compound

variable {g} (hg : SatisfiesM IsBlock g.block)

include hg

theorem isBlock_colonBlock : SatisfiesM IsBlock (colonBlock g) := satisfiesM_of_forall fun _ => hg

theorem formed_elseBlock : SatisfiesM AllFormed (elseBlock g) := by
  refine satisfiesM_of_forall fun b => ?_
  split_ifs
  · exact (isBlock_colonBlock hg).imp IsBlock.formed
  · exact SatisfiesM.pure allFormed_nil

theorem formed_elifs (n : Nat) : SatisfiesM AllFormed (elifs g n) := by
  induction n with
  | zero => exact satisfies_failure
  | succ n ih =>
      refine satisfiesM_of_forall fun b => ?_
      split_ifs
      · -- a condition alone in the block of the one before
        refine satisfiesM_of_forall fun _ => (isBlock_colonBlock hg).bind fun body hbody => ?_
        refine ih.bind fun rest hrest => SatisfiesM.pure (allFormed_single ⟨hbody.ne_nil, ?_⟩)
        simpa [Stmt.blocks] using ⟨hbody.formed, hrest⟩
      · exact formed_elseBlock hg

theorem deep_ifStmt : SatisfiesM Stmt.Deep (ifStmt g) := by
  refine satisfiesM_of_forall fun _ => satisfiesM_of_forall fun _ => ?_
  refine (isBlock_colonBlock hg).bind fun body hbody => satisfiesM_of_forall fun _ => ?_
  refine (formed_elifs hg _).bind fun rest hrest => SatisfiesM.pure ⟨hbody.ne_nil, ?_⟩
  simpa [Stmt.blocks] using ⟨hbody.formed, hrest⟩

theorem deep_whileStmt : SatisfiesM Stmt.Deep (whileStmt g) := by
  refine satisfiesM_of_forall fun _ => satisfiesM_of_forall fun _ => ?_
  refine (isBlock_colonBlock hg).bind fun body hbody => (formed_elseBlock hg).bind fun rest hrest => ?_
  refine SatisfiesM.pure ⟨hbody.ne_nil, ?_⟩
  simpa [Stmt.blocks] using ⟨hbody.formed, hrest⟩

theorem deep_forStmt (isAsync : Bool) : SatisfiesM Stmt.Deep (forStmt g isAsync) := by
  refine satisfiesM_of_forall fun _ => satisfiesM_of_forall fun _ => satisfiesM_of_forall fun _ =>
    satisfiesM_of_forall fun _ => ?_
  refine (isBlock_colonBlock hg).bind fun body hbody => (formed_elseBlock hg).bind fun rest hrest => ?_
  refine SatisfiesM.pure ⟨hbody.ne_nil, ?_⟩
  simpa [Stmt.blocks] using ⟨hbody.formed, hrest⟩

theorem deep_functionDef (isAsync : Bool) (decorators : List Expr) :
    SatisfiesM Stmt.Deep (functionDef g isAsync decorators) := by
  have hend : ∀ id ps returns, id.toList ≠ [] → SatisfiesM Stmt.Deep (do
      return .function isAsync id ps returns decorators (← colonBlock g)) := by
    intro id ps returns hid
    refine (isBlock_colonBlock hg).bind fun body hbody => SatisfiesM.pure ⟨⟨hid, hbody.ne_nil⟩, ?_⟩
    simpa [Stmt.blocks] using hbody.formed
  refine satisfiesM_of_forall fun _ => spelled_name.bind fun id hid => satisfiesM_of_forall fun _ =>
    satisfiesM_of_forall fun _ => satisfiesM_of_forall fun _ => satisfiesM_of_forall fun b => ?_
  cases b <;> exact satisfiesM_of_forall fun returns => hend _ _ returns hid.1

theorem deep_classDef (decorators : List Expr) : SatisfiesM Stmt.Deep (classDef g decorators) := by
  refine satisfiesM_of_forall fun _ => satisfiesM_of_forall fun _ => satisfiesM_of_forall fun b => ?_
  cases b <;> refine satisfiesM_of_forall fun _ => (isBlock_colonBlock hg).bind fun body hbody =>
    SatisfiesM.pure ⟨trivial, by simpa [Stmt.blocks] using hbody.formed⟩

theorem deep_decorated : SatisfiesM Stmt.Deep (decorated g) := by
  refine satisfiesM_of_forall fun _ => satisfiesM_of_forall fun b => ?_
  split_ifs
  · exact deep_functionDef hg _ _
  · refine satisfiesM_of_forall fun b => ?_
    split_ifs
    · exact deep_functionDef hg _ _
    · exact deep_classDef hg _

theorem deep_withStmt (isAsync : Bool) : SatisfiesM Stmt.Deep (withStmt g isAsync) := by
  refine satisfiesM_of_forall fun _ => satisfiesM_of_forall fun _ => hg.bind fun body hbody => ?_
  exact SatisfiesM.pure ⟨trivial, by simpa [Stmt.blocks] using hbody.formed⟩

theorem formed_handler (isGroup : Bool) : SatisfiesM (fun h => AllFormed h.body) (handler g isGroup) := by
  have hend : ∀ type id, SatisfiesM (fun h => AllFormed h.body) (do
      return Handler.mk type id (← colonBlock g)) := fun type id =>
    (isBlock_colonBlock hg).bind fun body hbody => SatisfiesM.pure hbody.formed
  -- what comes in front of a block is read, and tells which kind of handler it is
  have hkinds : SatisfiesM (fun h => AllFormed h.body) (do
      if !isGroup && (← atSymbol ":") then return Handler.mk none none (← colonBlock g)
      else
        let type ← g.expression
        let id ← asName
        return Handler.mk (some type) id (← colonBlock g)) := by
    refine satisfiesM_of_forall fun b => ?_
    split_ifs
    · exact hend none none
    · exact satisfiesM_of_forall fun type => satisfiesM_of_forall fun id => hend (some type) id
  refine satisfiesM_of_forall fun _ => ?_
  cases isGroup with
  | true => exact satisfiesM_of_forall fun _ => hkinds
  | false => exact hkinds

theorem deep_tryStmt : SatisfiesM Stmt.Deep (tryStmt g) := by
  have hend : ∀ isGroup body (handlers : List Handler) orElse, AllFormed body → (∀ h ∈ handlers, AllFormed h.body) →
      AllFormed orElse → SatisfiesM Stmt.Deep (do
        let atEnd ← if ← keyword? "finally" then colonBlock g else pure []
        require (!handlers.isEmpty || !atEnd.isEmpty)
        return .tryBlock isGroup body handlers orElse atEnd) := by
    intro isGroup body handlers orElse hbody hhandlers horElse
    have hlast : ∀ atEnd, AllFormed atEnd → SatisfiesM Stmt.Deep (do
        require (!handlers.isEmpty || !atEnd.isEmpty)
        return .tryBlock isGroup body handlers orElse atEnd) := by
      intro atEnd hatEnd
      refine satisfiesM_of_forall fun _ => SatisfiesM.pure ⟨trivial, ?_⟩
      simpa [Stmt.blocks] using ⟨hbody, horElse, hatEnd, hhandlers⟩
    refine satisfiesM_of_forall fun b => ?_
    cases b with
    | true => exact (isBlock_colonBlock hg).bind fun atEnd hatEnd => hlast atEnd hatEnd.formed
    | false => exact hlast [] allFormed_nil
  refine satisfiesM_of_forall fun _ => (isBlock_colonBlock hg).bind fun body hbody => ?_
  refine satisfiesM_of_forall fun isGroup => ?_
  refine (satisfies_many (formed_handler hg isGroup)).bind fun handlers hhandlers => ?_
  cases handlers with
  | nil => exact hend _ _ _ _ hbody.formed hhandlers allFormed_nil
  | cons first rest =>
      exact (formed_elseBlock hg).bind fun orElse horElse => hend _ _ _ _ hbody.formed hhandlers horElse

theorem formed_matchCase : SatisfiesM (fun c => AllFormed c.body) (matchCase g) := by
  refine satisfiesM_of_forall fun _ => satisfiesM_of_forall fun _ => satisfiesM_of_forall fun b => ?_
  cases b <;> exact satisfiesM_of_forall fun _ => (isBlock_colonBlock hg).bind fun body hbody =>
    SatisfiesM.pure hbody.formed

theorem deep_matchStmt : SatisfiesM Stmt.Deep (matchStmt g) := by
  refine satisfiesM_of_forall fun _ => satisfiesM_of_forall fun _ => satisfiesM_of_forall fun _ =>
    satisfiesM_of_forall fun _ => satisfiesM_of_forall fun _ => ?_
  refine (satisfies_many1 (formed_matchCase hg)).bind fun cases hcases => satisfiesM_of_forall fun _ => ?_
  exact SatisfiesM.pure ⟨trivial, by simpa [Stmt.blocks] using hcases⟩

/-! ## Blocks and programs -/

theorem deep_asyncStmt : SatisfiesM Stmt.Deep (asyncStmt g) := by
  refine satisfiesM_of_forall fun _ => satisfiesM_of_forall fun b => ?_
  split_ifs
  · exact deep_functionDef hg _ _
  · refine satisfiesM_of_forall fun b => ?_
    split_ifs
    · exact deep_forStmt hg _
    · exact deep_withStmt hg _

theorem formed_statement : SatisfiesM AllFormed (statement g) := by
  have hone : ∀ {p : Parser Stmt}, SatisfiesM Stmt.Deep p →
      SatisfiesM AllFormed (do return [← p]) := fun hp =>
    hp.bind fun s hs => SatisfiesM.pure (allFormed_single hs)
  have hline := (isBlock_simpleStmts g).imp IsBlock.formed
  refine satisfiesM_of_forall fun t => ?_
  dsimp only
  split
  · exact hone (deep_ifStmt hg)
  · exact hone (deep_whileStmt hg)
  · exact hone (deep_forStmt hg false)
  · exact hone (deep_withStmt hg false)
  · exact hone (deep_tryStmt hg)
  · exact hone (deep_functionDef hg false [])
  · exact hone (deep_classDef hg [])
  · exact hone (deep_asyncStmt hg)
  · exact hone (deep_decorated hg)
  · exact satisfies_orElse (hone (deep_matchStmt hg)) hline
  · exact hline

theorem formed_statements : SatisfiesM AllFormed (statements g) := by
  refine (satisfies_many (formed_statement hg)).bind fun bodies hbodies => SatisfiesM.pure ?_
  refine allFormed_iff.2 fun s hs => ?_
  obtain ⟨body, hbody, hs⟩ := List.mem_flatten.1 hs
  exact allFormed_iff.1 (hbodies body hbody) s hs

theorem isBlock_block : SatisfiesM IsBlock (block g) := by
  refine satisfiesM_of_forall fun t => ?_
  split
  · -- indented statements have to be there
    refine satisfiesM_of_forall fun _ => satisfiesM_of_forall fun _ => ?_
    refine (formed_statements hg).bind fun body hbody => satisfiesM_of_forall fun _ => ?_
    exact satisfies_require fun hne => SatisfiesM.pure ⟨by simpa using hne, hbody⟩
  · exact isBlock_simpleStmts g

end Compound

/-- However deep the nesting, a block has a statement in it. -/
theorem isBlock_upTo (n : Nat) : SatisfiesM IsBlock (Grammar.upTo n).block := by
  -- on the bound on nesting: at the bottom nothing is parsed
  induction n with
  | zero => exact satisfies_failure
  | succ n ih => exact isBlock_block ih

end Parser

/-- **All statements of a source text are formed**, wherever they stand. -/
theorem formed_parse? {text : List Char} {body : List Stmt} (h : parse? text = some body) :
    AllFormed body := by
  obtain ⟨ts, -, h⟩ := Option.bind_eq_some_iff.1 h
  obtain ⟨r, hr, h⟩ := Option.bind_eq_some_iff.1 h
  have hprogram : SatisfiesM AllFormed (Parser.program (Grammar.upTo (text.length + 8))) :=
    (Parser.formed_statements (Parser.isBlock_upTo _)).bind fun body hbody =>
      satisfiesM_of_forall fun _ => SatisfiesM.pure hbody
  exact Option.some.inj h ▸ Parser.satisfies_iff.1 hprogram ts r hr

/-! ## Filled statements -/

mutual

/-- The blocks of a statement that are drawn are not empty, and so on inside. -/
def Stmt.Filled : Stmt → Prop
  | .cond _ body orElse => body ≠ [] ∧ AllFilled body ∧ AllFilled orElse
  | .whileLoop _ body _ => body ≠ [] ∧ AllFilled body
  | .forLoop _ _ _ body _ => body ≠ [] ∧ AllFilled body
  | .function _ _ _ _ _ body => body ≠ [] ∧ AllFilled body
  | .classDef _ _ _ _ body => AllFilled body
  | _ => True

/-- All of some statements are filled. -/
def AllFilled : List Stmt → Prop
  | [] => True
  | s :: rest => s.Filled ∧ AllFilled rest

end

theorem allFilled_iff {body : List Stmt} : AllFilled body ↔ ∀ s ∈ body, s.Filled := by
  induction body with
  | nil => simp [AllFilled]
  | cons s rest ih => simp [AllFilled, ih]

/-- What is formed is filled: the blocks that are drawn are among those that are formed. -/
theorem filled_of_deep_and_all : (∀ s : Stmt, s.Deep → s.Filled) ∧ ∀ body, AllFormed body → AllFilled body := by
  refine Stmt.Filled.mutual_induct (fun s => s.Deep → s.Filled) (fun body => AllFormed body → AllFilled body)
    ?cond ?whileLoop ?forLoop ?function ?classDef ?other ?nil ?cons
  case cond =>
    intro test body orElse ihBody ihElse h
    exact ⟨h.formed, ihBody (h.blocks _ (by simp [Stmt.blocks])), ihElse (h.blocks _ (by simp [Stmt.blocks]))⟩
  case whileLoop =>
    intro test body orElse ih h
    exact ⟨h.formed, ih (h.blocks _ (by simp [Stmt.blocks]))⟩
  case forLoop =>
    intro isAsync target iterable body orElse ih h
    exact ⟨h.formed, ih (h.blocks _ (by simp [Stmt.blocks]))⟩
  case function =>
    intro isAsync name params returns decorators body ih h
    exact ⟨h.formed.2, ih (h.blocks _ (by simp [Stmt.blocks]))⟩
  case classDef =>
    intro name bases keywords decorators body ih h
    exact ih (h.blocks _ (by simp [Stmt.blocks]))
  case other =>
    intro s hcond hwhile hfor hfunction hclass _
    rw [Stmt.Filled.eq_6 s hcond hwhile hfor hfunction hclass]
    trivial
  case nil => exact fun _ => trivial
  case cons =>
    intro s rest ihFirst ihRest h
    obtain ⟨hfirst, hrest⟩ := List.forall_mem_cons.1 (allFormed_iff.1 h)
    exact ⟨ihFirst hfirst, ihRest (allFormed_iff.2 hrest)⟩

/-- **No statement of a source text has an empty body.** -/
theorem filled_parse? {text : List Char} {body : List Stmt} (h : parse? text = some body) :
    AllFilled body :=
  filled_of_deep_and_all.2 body (formed_parse? h)

end CodeFlow.Source
