import Mathlib
import CodeFlow.Proofs.Text.Search

/-!
# `CodeFlow.Proofs.Dot.Scan` — what a DOT document consists of, read from its text

The modules under `Dot` write documents. Nothing there says how a text is read, so nothing there can say
that a document is read as it was meant. This module reads: it scans a text with the rule for strings,
counts the braces outside of strings, and divides what is left into statements.

## Contents
- **Strings.** `run` walks a text and keeps what stands outside of strings; `skeleton?` is the whole
  walk. `Quotable` texts stay inside a string, `Frames` texts leave none open.
- **Braces.** `depth`, and `Level`: a text that never goes below where it began.
- **Statements.** `statements`, `ends`, `used`: the identifiers of node and link statements.
- `WellFormed`: all three together.
-/

namespace CodeFlow.Dot

open Text

/-! ## Strings -/

/-- Where a walk through a text stands. -/
inductive Mode where
  | outside
  | inside
  /-- Inside a string, after a backslash. -/
  | escaped
deriving Repr, DecidableEq

/-- Takes one character: where the walk stands then, and what is kept of the character. A line must not
end inside a string. -/
def Mode.take : Mode → Char → Option (Mode × List Char)
  | .outside, c => some (if c = '"' then .inside else .outside, [c])
  | .inside, c =>
    if c = '\n' then none
    else if c = '"' then some (.outside, [c])
    else some (if c = '\\' then .escaped else .inside, [])
  | .escaped, c => if c = '\n' then none else some (.inside, [])

/-- Takes the characters of a text one after the other. -/
def run : Mode → List Char → Option (Mode × List Char)
  | m, [] => some (m, [])
  | m, c :: t => (m.take c).bind fun a => (run a.1 t).map fun b => (b.1, a.2 ++ b.2)

/-- What stands outside of the strings of a text, with their quotes. None if a line ends inside a string or
the text does. -/
def skeleton? (t : List Char) : Option (List Char) :=
  match run .outside t with
  | some (.outside, s) => some s
  | _ => none

theorem run_append (m : Mode) (a b : List Char) :
    run m (a ++ b) = (run m a).bind fun x => (run x.1 b).map fun y => (y.1, x.2 ++ y.2) := by
  induction a generalizing m with
  | nil => simp [run]
  | cons c t ih =>
      simp only [List.cons_append, run]
      cases h : m.take c with
      | none => simp
      | some x =>
          simp only [Option.bind_some, ih]
          cases run x.1 t with
          | none => simp
          | some y => simp [Function.comp_def]

/-- Characters that are special to the walk stay what they are, and no other becomes one. -/
def Faithful (f : Char → Char) : Prop :=
  ∀ c, (f c = '"' ↔ c = '"') ∧ (f c = '\\' ↔ c = '\\') ∧ (f c = '\n' ↔ c = '\n')

theorem take_map {f : Char → Char} (hf : Faithful f) (m : Mode) (c : Char) :
    m.take (f c) = (m.take c).map fun x => (x.1, x.2.map f) := by
  obtain ⟨hquote, hslash, hline⟩ := hf c
  cases m with
  | outside => simp [Mode.take, hquote]
  | inside =>
      simp only [Mode.take, hquote, hslash, hline]
      split_ifs <;> simp
  | escaped =>
      simp only [Mode.take, hline]
      split_ifs <;> simp

/-- A faithful change of characters does not change how a text is walked. -/
theorem run_map {f : Char → Char} (hf : Faithful f) (m : Mode) (t : List Char) :
    run m (t.map f) = (run m t).map fun x => (x.1, x.2.map f) := by
  induction t generalizing m with
  | nil => simp [run]
  | cons c t ih =>
      simp only [List.map_cons, run, take_map hf]
      cases m.take c with
      | none => simp
      | some x => simp [ih, Function.comp_def]

/-- A text that stays inside the string it stands in. -/
def Quotable (t : List Char) : Prop := run .inside t = some (.inside, [])

instance (t : List Char) : Decidable (Quotable t) :=
  inferInstanceAs (Decidable (run .inside t = some (.inside, [])))

theorem quotable_nil : Quotable [] := rfl

theorem Quotable.append {a b : List Char} (ha : Quotable a) (hb : Quotable b) : Quotable (a ++ b) := by
  unfold Quotable at *
  rw [run_append, ha]
  simp [hb]

/-- Any character but a quote, a backslash and a line end. -/
theorem quotable_single {c : Char} (hquote : c ≠ '"') (hslash : c ≠ '\\') (hline : c ≠ '\n') :
    Quotable [c] := by
  simp [Quotable, run, Mode.take, hquote, hslash, hline]

/-- A backslash and the character it takes. -/
theorem quotable_escaped {c : Char} (hline : c ≠ '\n') : Quotable ['\\', c] := by
  simp [Quotable, run, Mode.take, hline]

theorem Quotable.map {f : Char → Char} (hf : Faithful f) {t : List Char} (h : Quotable t) :
    Quotable (t.map f) := by
  unfold Quotable at *
  rw [run_map hf, h]
  rfl

/-- A text begins and ends outside of strings, and `s` is what stands outside of them. -/
def Frames (t s : List Char) : Prop := run .outside t = some (.outside, s)

instance (t s : List Char) : Decidable (Frames t s) :=
  inferInstanceAs (Decidable (run .outside t = some (.outside, s)))

theorem Frames.append {a b s u : List Char} (ha : Frames a s) (hb : Frames b u) :
    Frames (a ++ b) (s ++ u) := by
  unfold Frames at *
  rw [run_append, ha]
  simp [hb]

/-- A text without quotes is all outside. -/
theorem frames_self {t : List Char} (h : '"' ∉ t) : Frames t t := by
  induction t with
  | nil => rfl
  | cons c t ih =>
      have hc : c ≠ '"' := fun e => h (by simp [e])
      have ht : Frames t t := ih (fun hm => h (List.mem_cons_of_mem _ hm))
      unfold Frames at *
      simp [run, Mode.take, hc, ht]

/-- Of a string the quotes are left. -/
theorem frames_string {t : List Char} (h : Quotable t) : Frames ('"' :: t ++ ['"']) ['"', '"'] := by
  have hopen : run .outside ['"'] = some (.inside, ['"']) := rfl
  have hclose : run .inside ['"'] = some (.outside, ['"']) := rfl
  unfold Frames Quotable at *
  rw [← List.singleton_append, run_append, run_append, hopen]
  simp [h, hclose]

theorem Frames.skeleton? {t s : List Char} (h : Frames t s) : skeleton? t = some s := by
  unfold Frames at h
  simp [Dot.skeleton?, h]

theorem Frames.map {f : Char → Char} (hf : Faithful f) {t s : List Char} (h : Frames t s) :
    Frames (t.map f) (s.map f) := by
  unfold Frames at *
  rw [run_map hf, h]
  rfl

/-! ## Braces -/

/-- How deep a text stands in braces at its end, if it begins at a given depth. None if it closes a brace
that is not open. -/
def depth : Nat → List Char → Option Nat
  | d, [] => some d
  | d, c :: t =>
    if c = '\x7b' then depth (d + 1) t
    else if c = '\x7d' then
      match d with
      | 0 => none
      | d + 1 => depth d t
    else depth d t

theorem depth_append (d : Nat) (a b : List Char) :
    depth d (a ++ b) = (depth d a).bind fun e => depth e b := by
  induction a generalizing d with
  | nil => rfl
  | cons c t ih =>
      simp only [List.cons_append, depth]
      split_ifs
      · exact ih _
      · cases d with
        | zero => rfl
        | succ d => exact ih _
      · exact ih _

theorem depth_of_not_mem {t : List Char} (hopen : '\x7b' ∉ t) (hclose : '\x7d' ∉ t) (d : Nat) :
    depth d t = some d := by
  induction t with
  | nil => rfl
  | cons c t ih =>
      simp only [List.mem_cons, not_or] at hopen hclose
      simp [depth, Ne.symm hopen.1, Ne.symm hclose.1, ih hopen.2 hclose.2]

/-- A text that closes the braces it opens and never goes below where it began. -/
def Level (t : List Char) : Prop :=
  ∀ d, depth d t = some d ∧ ∀ p, p <+: t → ∃ e, depth d p = some (d + e)

theorem level_of_not_mem {t : List Char} (hopen : '\x7b' ∉ t) (hclose : '\x7d' ∉ t) : Level t := by
  intro d
  refine ⟨depth_of_not_mem hopen hclose d, fun p hp => ⟨0, ?_⟩⟩
  exact depth_of_not_mem (fun h => hopen (hp.subset h)) (fun h => hclose (hp.subset h)) d

theorem Level.append {a b : List Char} (ha : Level a) (hb : Level b) : Level (a ++ b) := by
  intro d
  refine ⟨by rw [depth_append, (ha d).1]; exact (hb d).1, ?_⟩
  intro p hp
  rcases List.prefix_or_prefix_of_prefix hp (List.prefix_append a b) with h | h
  · exact (ha d).2 p h
  · obtain ⟨q, rfl⟩ := h
    obtain ⟨e, he⟩ := (hb d).2 q ((List.prefix_append_right_inj a).1 hp)
    exact ⟨e, by rw [depth_append, (ha d).1]; exact he⟩

/-- Braces around a level text. -/
theorem Level.braces {t : List Char} (h : Level t) : Level ('\x7b' :: t ++ ['\x7d']) := by
  have hinner : ∀ d, depth d ('\x7b' :: t) = some (d + 1) := by
    intro d
    simpa [depth] using (h (d + 1)).1
  intro d
  refine ⟨by rw [depth_append, hinner d]; simp [depth], ?_⟩
  intro p hp
  rcases List.prefix_or_prefix_of_prefix hp (List.prefix_append _ _) with hp' | ⟨q, rfl⟩
  · cases p with
    | nil => exact ⟨0, rfl⟩
    | cons c p =>
        obtain ⟨rfl, hp''⟩ := List.cons_prefix_cons.1 hp'
        obtain ⟨e, he⟩ := (h (d + 1)).2 p hp''
        exact ⟨1 + e, by simp [depth, he, Nat.add_assoc]⟩
  · have hq : q <+: ['\x7d'] := (List.prefix_append_right_inj _).1 hp
    rw [depth_append, hinner d]
    rcases List.prefix_cons_iff.1 hq with rfl | ⟨r, rfl, hr⟩
    · exact ⟨1, rfl⟩
    · rw [List.prefix_nil.1 hr]
      exact ⟨0, by simp [depth]⟩

/-- The braces of a text are balanced, and once the first is open it stays open as long as a line is to
come. -/
structure Nested (s : List Char) : Prop where
  /-- Every brace is closed at the end. -/
  balanced : depth 0 s = some 0
  /-- The outermost brace is closed on the last line. -/
  lasting : ∀ p q, s = p ++ q → '\x7b' ∈ p → '\n' ∈ q → ∃ d, depth 0 p = some (d + 1)

/-- A brace that is opened first and closed alone on the last line, around a level text. -/
theorem nested_of_level {h t : List Char} (hopen : '\x7b' ∉ h) (hclose : '\x7d' ∉ h) (ht : Level t) :
    Nested (h ++ '\x7b' :: t ++ ['\n', '\x7d']) := by
  have hhead : depth 0 (h ++ ['\x7b']) = some 1 := by
    rw [depth_append, depth_of_not_mem hopen hclose]
    simp [depth]
  have hsplit : h ++ '\x7b' :: t ++ ['\n', '\x7d'] = (h ++ ['\x7b']) ++ (t ++ ['\n', '\x7d']) := by simp
  rw [hsplit]
  constructor
  · rw [depth_append, hhead, Option.bind_some, depth_append, (ht 1).1]
    simp [depth]
  · intro p q hpq hp hq
    have hpre : p <+: (h ++ ['\x7b']) ++ (t ++ ['\n', '\x7d']) := ⟨q, hpq.symm⟩
    -- `p` has a brace, so it reaches over the first one
    have hover : (h ++ ['\x7b']) <+: p := by
      rcases List.prefix_or_prefix_of_prefix hpre (List.prefix_append _ _) with hp' | hp'
      · rcases List.prefix_concat_iff.1 hp' with rfl | hp''
        · exact List.prefix_rfl
        · exact absurd (hp''.subset hp) hopen
      · exact hp'
    obtain ⟨r, rfl⟩ := hover
    have hrq : t ++ ['\n', '\x7d'] = r ++ q := by
      rw [List.append_assoc (h ++ ['\x7b'])] at hpq
      exact List.append_cancel_left hpq
    -- a line is to come, so it ends before the last line end
    have hr : r <+: t := by
      have hr' : r <+: t ++ ['\n', '\x7d'] := ⟨q, hrq.symm⟩
      rcases List.prefix_or_prefix_of_prefix hr' (List.prefix_append _ _) with h' | ⟨u, rfl⟩
      · exact h'
      · rw [List.append_assoc] at hrq
        have hu := List.append_cancel_left hrq
        cases u with
        | nil => simp
        | cons c u =>
            obtain ⟨-, hu'⟩ := List.cons.inj hu
            have : '\n' ∈ ['\x7d'] := by rw [hu']; exact List.mem_append_right _ hq
            simp at this
    obtain ⟨e, he⟩ := (ht 1).2 r hr
    exact ⟨e, by rw [depth_append, hhead, Option.bind_some, he, Nat.add_comm]⟩

/-! ## Statements -/

/-- The characters that end a statement, and the braces. -/
def isDivider (c : Char) : Bool := c == ';' || c == '\x7b' || c == '\x7d'

/-- The statements of a text without strings. -/
def statements (t : List Char) : List (List Char) := t.splitOnP isDivider

/-- What stands before the attributes of a statement. -/
def subject (s : List Char) : List Char := strip (s.takeWhile (· != '['))

/-- The parts of what a statement is about, between arrows. -/
def ends (s : List Char) : List (List Char) := (splitOn ['-', '>'] (subject s)).map strip

/-- Whether a text without arrows is not about a node: it is empty, it sets something, or it opens a
block. -/
def isAside (t : List Char) : Bool :=
  t.isEmpty || t.contains '=' || "digraph ".toList.isPrefixOf t || "subgraph ".toList.isPrefixOf t

/-- The identifiers that a node or link statement uses. What has attributes is one of these. -/
def used (s : List Char) : List (List Char) :=
  match ends s with
  | [t] => if !s.contains '[' && isAside t then [] else [t]
  | ts => ts

/-- An identifier: letters, digits and underscores, and no digit in front. -/
def isIdentifier : List Char → Bool
  | [] => false
  | c :: t => (c.isAlpha || c == '_') && t.all fun d => d.isAlphanum || d == '_'

/-- A statement uses only identifiers. -/
def Sober (s : List Char) : Prop := ∀ x ∈ used s, isIdentifier x = true

instance (s : List Char) : Decidable (Sober s) :=
  inferInstanceAs (Decidable (∀ x ∈ used s, isIdentifier x = true))

theorem bracket_not_mem_blank {b : List Char} (hb : ∀ c ∈ b, isBlank c = true) : '[' ∉ b := fun hm =>
  absurd (hb '[' hm) (by decide)

theorem subject_append_left {b s : List Char} (hb : ∀ c ∈ b, isBlank c = true) :
    subject (b ++ s) = subject s := by
  have hkeep := bne_of_not_mem (bracket_not_mem_blank hb)
  unfold subject
  rw [List.takeWhile_append_of_pos hkeep, strip_append_left hb]

theorem Sober.append_left {b s : List Char} (hb : ∀ c ∈ b, isBlank c = true) (h : Sober s) :
    Sober (b ++ s) := by
  have hcontains : (b ++ s).contains '[' = s.contains '[' := by
    simp [List.contains_eq_mem, bracket_not_mem_blank hb]
  unfold Sober used ends at *
  rw [subject_append_left hb, hcontains]
  exact h

theorem sober_blank {b : List Char} (hb : ∀ c ∈ b, isBlank c = true) : Sober b := by
  have hnil : Sober [] := by
    intro x hx
    have : used [] = [] := rfl
    simp [this] at hx
  simpa using hnil.append_left hb

/-- A statement whose parts are all identifiers. -/
theorem sober_of_ends {s : List Char} (h : ∀ x ∈ ends s, isIdentifier x = true) : Sober s := by
  intro x hx
  unfold used at hx
  split at hx
  · rename_i t ht
    split_ifs at hx
    · simp at hx
    · exact h x (ht ▸ hx)
  · exact h x hx

/-- A statement that is not about a node or a link. -/
theorem sober_of_isAside {s t : List Char} (hs : '[' ∉ s) (h : ends s = [t]) (ht : isAside t = true) :
    Sober s := by
  intro x hx
  simp [used, h, hs, ht] at hx

/-- A line is empty, or it holds one statement that uses only identifiers. -/
def LineSober (l : List Char) : Prop :=
  l = [] ∨ ∃ s c, l = s ++ [c] ∧ isDivider c = true ∧ (∀ x ∈ s, isDivider x = false) ∧ Sober s

theorem isDivider_of_isBlank {c : Char} (h : isBlank c = true) : isDivider c = false := by
  by_contra hd
  have hc : c = ';' ∨ c = '\x7b' ∨ c = '\x7d' := by
    rw [Bool.not_eq_false] at hd
    simpa [isDivider, or_assoc] using hd
  rcases hc with rfl | rfl | rfl <;> exact absurd h (by decide)

/-- Blanks alone are one empty statement. -/
theorem statements_blank {b : List Char} (hb : ∀ c ∈ b, isBlank c = true) : statements b = [b] :=
  List.splitOnP_eq_singleton fun c hc => isDivider_of_isBlank (hb c hc)

/-- A statement ends at its divider. -/
theorem statements_append_cons {b s : List Char} {c : Char} (hb : ∀ c ∈ b, isBlank c = true)
    (hs : ∀ x ∈ s, isDivider x = false) (hc : isDivider c = true) (t : List Char) :
    statements (b ++ (s ++ c :: t)) = (b ++ s) :: statements t := by
  rw [← List.append_assoc]
  refine List.splitOnP_append_cons_of_forall_mem ?_ c hc t
  intro x hx
  rcases List.mem_append.1 hx with hx | hx
  · exact isDivider_of_isBlank (hb x hx)
  · exact hs x hx

theorem isBlank_append_newline {b : List Char} (hb : ∀ c ∈ b, isBlank c = true) :
    ∀ c ∈ b ++ ['\n'], isBlank c = true := by
  intro c hc
  rcases List.mem_append.1 hc with hc | hc
  · exact hb c hc
  · rw [List.mem_singleton.1 hc]; decide

/-- The statements of lines that hold at most one each. `b` is what is left of the line before. -/
theorem sober_of_mem_lines {ls : List (List Char)} (hls : ∀ l ∈ ls, LineSober l) (b : List Char)
    (hb : ∀ c ∈ b, isBlank c = true) : ∀ s ∈ statements (b ++ join ['\n'] ls), Sober s := by
  induction ls generalizing b with
  | nil =>
      intro s hs
      rw [join, List.append_nil, statements_blank hb, List.mem_singleton] at hs
      exact hs ▸ sober_blank hb
  | cons l rest ih =>
      intro st hst
      have hrest := ih fun l' hl' => hls l' (List.mem_cons_of_mem _ hl')
      rcases hls l List.mem_cons_self with rfl | ⟨s, c, rfl, hc, hs, hsober⟩
      · -- an empty line only adds to what is left
        cases rest with
        | nil => exact hrest b hb st hst
        | cons l' rest =>
            refine hrest (b ++ ['\n']) (isBlank_append_newline hb) st ?_
            simpa [join_cons_cons] using hst
      · cases rest with
        | nil =>
            rw [join, statements_append_cons hb hs hc, statements_blank (b := []) (by simp)] at hst
            rcases List.mem_cons.1 hst with rfl | hst
            · exact hsober.append_left hb
            · exact List.mem_singleton.1 hst ▸ sober_blank (by simp)
        | cons l' rest =>
            have hshape : join ['\n'] ((s ++ [c]) :: l' :: rest) =
                s ++ c :: (['\n'] ++ join ['\n'] (l' :: rest)) := by simp [join_cons_cons]
            rw [hshape, statements_append_cons hb hs hc] at hst
            rcases List.mem_cons.1 hst with rfl | hst
            · exact hsober.append_left hb
            · exact hrest ['\n'] (isBlank_append_newline (b := []) (by simp)) st hst

/-! ## Documents -/

/-- What a document begins with. -/
def header : List Char := "digraph G \x7b".toList

/-- A text reads as a DOT document: it opens a graph, its strings are closed on their lines, its braces are
nested, and its node and link statements use only identifiers. -/
def WellFormed (t : List Char) : Prop :=
  ∃ s, skeleton? t = some s ∧ header <+: s ∧ Nested s ∧ ∀ st ∈ statements s, Sober st

end CodeFlow.Dot
