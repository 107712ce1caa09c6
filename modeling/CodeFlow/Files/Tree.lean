import CodeFlow.Files.Error
import CodeFlow.Files.Path
import CodeFlow.Order

/-!
# `CodeFlow.Files.Tree` — files and folders

A tree says what there is at each location. The anchors are folders; nothing else exists unless it was
put there. A tree is one that a file system can hold: names are names that files can have, no place has two entries,
and everything lies in a folder. What changes a tree asks for a place that keeps it so.

## Contents
- `Content`, `Entry`, `FileTree`: what there is; `devices`.
- `FileTree.Slot`, `slotIn`, `put`: a place to put something, and what is put there.
- `FileTree.place`, `build`: trees by their paths.
- `FileTree.childNames`, `foldersBelow`: listings, ordered by name.
- `FileTree.changes`: what one tree has that another has not.
-/

namespace CodeFlow.Files

/-- What a file holds. -/
inductive Content where
  /-- Text in UTF-8. -/
  | text (t : String)
  /-- Bytes that are no text. -/
  | binary (bytes : List UInt8)
deriving DecidableEq

namespace Content

/-- What bytes hold. -/
def ofBytes (bytes : List UInt8) : Content :=
  match String.fromUTF8? ⟨bytes.toArray⟩ with
  | some t => .text t
  | none => .binary bytes

/-- The bytes of a file. -/
def bytes : Content → List UInt8
  | .text t => t.toUTF8.data.toList
  | .binary bytes => bytes

/-- What a file holds of which only so many bytes arrived. -/
def front (content : Content) (kept : Nat) : Content := .ofBytes (content.bytes.take kept)

end Content

/-- What there is at a location. -/
inductive Entry where
  | folder
  | file (content : Content)
deriving DecidableEq

/-- Whether an entry is a folder. -/
def Entry.isFolder : Entry → Bool
  | .folder => true
  | .file _ => false

/-! ## Entries -/

/-- What there is at a location, by the entries of a tree. -/
def entryAt? (es : List (Location × Entry)) (l : Location) : Option Entry :=
  if l.names.isEmpty then some .folder else es.lookup l

/-- Whether there is a folder at a location, by the entries of a tree. -/
def folderAt (es : List (Location × Entry)) (l : Location) : Bool := (entryAt? es l).any Entry.isFolder

/-- Replaces the entry of a location or adds one behind the others. -/
def putEntry (l : Location) (e : Entry) : List (Location × Entry) → List (Location × Entry)
  | [] => [(l, e)]
  | (k, old) :: rest => if k = l then (l, e) :: rest else (k, old) :: putEntry l e rest

theorem lookup_putEntry (l m : Location) (e : Entry) (es : List (Location × Entry)) :
    (putEntry l e es).lookup m = if m = l then some e else es.lookup m := by
  induction es with
  | nil =>
      by_cases hm : m = l
      · simp [putEntry, hm]
      · have hbeq : (m == l) = false := beq_eq_false_iff_ne.2 hm
        simp [putEntry, List.lookup_cons, hm, hbeq]
  | cons entry rest ih =>
      obtain ⟨k, old⟩ := entry
      by_cases hk : k = l
      · subst hk
        by_cases hm : m = k
        · simp [putEntry, hm]
        · have hbeq : (m == k) = false := beq_eq_false_iff_ne.2 hm
          simp [putEntry, List.lookup_cons, hm, hbeq]
      · rw [putEntry, if_neg hk, List.lookup_cons, List.lookup_cons, ih]
        by_cases hm : m = l
        · subst hm
          have hbeq : (m == k) = false := beq_eq_false_iff_ne.2 (Ne.symm hk)
          simp [hbeq]
        · simp [hm]

theorem entryAt?_putEntry {l : Location} (hl : l.names ≠ []) (e : Entry) (es : List (Location × Entry))
    (m : Location) : entryAt? (putEntry l e es) m = if m = l then some e else entryAt? es m := by
  by_cases hm : m.names.isEmpty = true
  · have hne : m ≠ l := by
      rintro rfl
      exact hl (List.isEmpty_iff.1 hm)
    rw [entryAt?, if_pos hm, if_neg hne, entryAt?, if_pos hm]
  · rw [entryAt?, if_neg hm, entryAt?, if_neg hm, lookup_putEntry]

/-- The places of entries, of which a new one goes behind the others. -/
theorem keys_putEntry (l : Location) (e : Entry) (es : List (Location × Entry)) :
    (putEntry l e es).map (·.1) = if l ∈ es.map (·.1) then es.map (·.1) else es.map (·.1) ++ [l] := by
  induction es with
  | nil => rfl
  | cons entry rest ih =>
      obtain ⟨k, old⟩ := entry
      by_cases hk : k = l
      · simp [putEntry, hk]
      · have hiff : l ∈ ((k, old) :: rest).map (·.1) ↔ l ∈ rest.map (·.1) := by
          rw [List.map_cons, List.mem_cons, or_iff_right (Ne.symm hk)]
        rw [putEntry, if_neg hk, List.map_cons, ih]
        by_cases hmem : l ∈ rest.map (·.1)
        · rw [if_pos hmem, if_pos (hiff.2 hmem), List.map_cons]
        · rw [if_neg hmem, if_neg (mt hiff.1 hmem), List.map_cons, List.cons_append]

theorem place_of_mem_putEntry {l : Location} {e : Entry} {es : List (Location × Entry)} {x : Location × Entry}
    (h : x ∈ putEntry l e es) : x.1 = l ∨ ∃ y ∈ es, y.1 = x.1 := by
  have hkey : x.1 ∈ (putEntry l e es).map (·.1) := List.mem_map_of_mem h
  rw [keys_putEntry] at hkey
  by_cases hmem : l ∈ es.map (·.1)
  · rw [if_pos hmem] at hkey
    exact .inr (List.mem_map.1 hkey)
  · rw [if_neg hmem] at hkey
    rcases List.mem_append.1 hkey with hold | hnew
    · exact .inr (List.mem_map.1 hold)
    · exact .inl (List.mem_singleton.1 hnew)

/-! ## Trees -/

/-- What there is before anything was put anywhere: the full device, a file that stays empty. -/
def devices : List (Location × Entry) := [(⟨.root, ["dev"]⟩, .folder), (fullDevice, .file (.text ""))]

theorem named_devices : ∀ e ∈ devices, ∀ n ∈ e.1.names, IsFileName n := by decide

theorem distinct_devices : (devices.map (·.1)).Nodup := by decide

theorem grounded_devices : ∀ e ∈ devices, folderAt devices e.1.up = true := by decide

/-- Files and folders by location. -/
structure FileTree where
  /-- The entries. -/
  entries : List (Location × Entry) := devices
  /-- Names are names that files can have. -/
  named : ∀ e ∈ entries, ∀ n ∈ e.1.names, IsFileName n := by exact named_devices
  /-- No place has two entries. -/
  distinct : (entries.map (·.1)).Nodup := by exact distinct_devices
  /-- Everything lies in a folder. -/
  grounded : ∀ e ∈ entries, folderAt entries e.1.up = true := by exact grounded_devices

namespace FileTree

/-- What there is at a location. -/
def get? (t : FileTree) (l : Location) : Option Entry := entryAt? t.entries l

/-- Whether there is a folder at a location. -/
def isFolderAt (t : FileTree) (l : Location) : Bool := folderAt t.entries l

/-- A place to put something: a name in a folder, and no folder is there. -/
structure Slot (t : FileTree) where
  /-- The folder. -/
  folder : Location
  /-- The name. -/
  name : String
  /-- The folder is there. -/
  inside : t.isFolderAt folder = true
  /-- The name is one that files can have. -/
  named : IsFileName name
  /-- No folder has it. -/
  free : t.isFolderAt (folder.child name) = false

/-- Where a slot is. -/
def Slot.location {t : FileTree} (s : t.Slot) : Location := s.folder.child s.name

theorem Slot.names_ne_nil {t : FileTree} (s : t.Slot) : s.location.names ≠ [] := by
  simp [Slot.location, Location.child]

/-- What leads to a folder is made of names that files can have. -/
theorem isFileName_of_isFolderAt {t : FileTree} {l : Location} (h : t.isFolderAt l = true) :
    ∀ n ∈ l.names, IsFileName n := by
  by_cases hempty : l.names.isEmpty = true
  · rw [List.isEmpty_iff.1 hempty]
    exact fun n hn => absurd hn List.not_mem_nil
  · rw [isFolderAt, folderAt, entryAt?, if_neg hempty] at h
    cases hlookup : t.entries.lookup l with
    | none => simp [hlookup] at h
    | some e =>
        obtain ⟨before, after, hentries, -⟩ := List.lookup_eq_some_iff.1 hlookup
        exact t.named (l, e) (by simp [hentries])

/-- Puts an entry into a slot. -/
def put (t : FileTree) (s : t.Slot) (e : Entry) : FileTree where
  entries := putEntry s.location e t.entries
  named x hx := by
    rcases place_of_mem_putEntry hx with hnew | ⟨y, hy, hold⟩
    · rw [hnew]
      intro n hn
      rcases List.mem_append.1 hn with hn | hn
      · exact isFileName_of_isFolderAt s.inside n hn
      · exact List.mem_singleton.1 hn ▸ s.named
    · exact hold ▸ t.named y hy
  distinct := by
    rw [keys_putEntry]
    by_cases hmem : s.location ∈ t.entries.map (·.1)
    · rw [if_pos hmem]
      exact t.distinct
    · rw [if_neg hmem]
      refine List.nodup_append.2 ⟨t.distinct, by simp, fun a ha b hb => ?_⟩
      rw [List.mem_singleton.1 hb]
      exact fun heq => hmem (heq ▸ ha)
  grounded x hx := by
    have hother : ∀ m : Location, m ≠ s.location →
        folderAt (putEntry s.location e t.entries) m = t.isFolderAt m := by
      intro m hm
      rw [folderAt, entryAt?_putEntry s.names_ne_nil, if_neg hm]
      rfl
    rcases place_of_mem_putEntry hx with hnew | ⟨y, hy, hold⟩
    · -- what is new lies in the folder of the slot
      have hup : x.1.up = s.folder := by rw [hnew, Slot.location, Location.up_child]
      have hne : s.folder ≠ s.location := by
        intro heq
        have hlength := congrArg (·.names.length) heq
        simp [Slot.location, Location.child] at hlength
      rw [hup, hother _ hne]
      exact s.inside
    · -- nothing else lies in the slot, for there was no folder
      have hfolder : t.isFolderAt x.1.up = true := hold ▸ t.grounded y hy
      have hne : x.1.up ≠ s.location := by
        intro heq
        rw [heq] at hfolder
        exact Bool.false_ne_true (s.free.symm.trans hfolder)
      rw [hother _ hne]
      exact hfolder

/-- The slot of a name at a location, or why there is none. -/
def slotIn (t : FileTree) (folder : Location) (name : String) : Except FileError t.Slot :=
  if hinside : t.isFolderAt folder = true then
    if hpart : IsPart name then
      if hsize : name.utf8ByteSize ≤ 255 then
        if hfree : t.isFolderAt (folder.child name) = false then
          .ok ⟨folder, name, hinside, ⟨hpart, hsize⟩, hfree⟩
        else .error .isFolder
      else .error .tooLong
    else .error .isFolder
  else .error .notFolder

/-- Puts an entry into a folder, if it has a slot of that name. -/
def putIn (t : FileTree) (folder : Location) (name : String) (e : Entry) : FileTree :=
  match t.slotIn folder name with
  | .ok s => t.put s e
  | .error _ => t

/-- Makes a folder in a folder unless there is something. -/
def ensureFolder (t : FileTree) (folder : Location) (name : String) : FileTree :=
  if (t.get? (folder.child name)).isSome then t else t.putIn folder name .folder

/-- Places an entry by the names that lead to it from a folder, with the folders it needs. -/
def placeBelow (t : FileTree) (e : Entry) (folder : Location) : List String → FileTree
  | [] => t
  | [name] => if e.isFolder then t.ensureFolder folder name else t.putIn folder name e
  | name :: rest => (t.ensureFolder folder name).placeBelow e (folder.child name) rest

/-- Places an entry at a location, with the folders it needs. -/
def place (t : FileTree) (l : Location) (e : Entry) : FileTree := t.placeBelow e { l with names := [] } l.names

/-- Places files and folders by their paths from the working folder. -/
def build (t : FileTree) (entries : List (String × Entry)) : FileTree :=
  entries.foldl (fun t (path, e) => t.place (placeOf path) e) t

/-! ## Listings -/

/-- The name of a location in a folder. -/
def nameIn? (folder l : Location) : Option String :=
  l.names.getLast?.bind fun name => if folder.child name = l then some name else none

/-- The names in a folder, ordered. -/
def childNames (t : FileTree) (folder : Location) : List String :=
  sortBy textLe (t.entries.filterMap fun (l, _) => nameIn? folder l)

/-- The names by which a location is reached from a folder. -/
def namesBelow? (folder l : Location) : Option (List String) :=
  if l.anchor = folder.anchor && folder.names.isPrefixOf l.names then
    some (l.names.drop folder.names.length)
  else none

/-- The folders below a folder and itself, by the names that lead there: each folder stands before what
is in it, and folders of one folder are ordered by name. -/
def foldersBelow (t : FileTree) (folder : Location) : List (List String) :=
  [] :: sortBy textsLe (t.entries.filterMap fun (l, e) =>
    (namesBelow? folder l).filter fun names => e.isFolder && !names.isEmpty)

/-! ## Changes -/

/-- The files that one tree has and another has not, or holds with another content: those below the
working folder, ordered by path. -/
def changes (before after : FileTree) : List (String × Content) :=
  sortBy (fun a b => textLe a.1 b.1) (after.entries.filterMap fun (l, e) =>
    match e with
    | .folder => none
    | .file content =>
      if l.anchor = .above 0 && before.get? l ≠ some e then some (l.text, content) else none)

end FileTree

end CodeFlow.Files
