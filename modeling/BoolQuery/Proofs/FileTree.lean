import BoolQuery.FileTree
import BoolQuery.Proofs.Outcomes

/-! What stands at each path of a tree, and that writing a text changes it at one path only. -/
namespace BoolQuery.FileTree

section Entries

/-- What stands at a path. A folder is told without its content, whose entries have paths of their
own. -/
inductive Entry
  | absent
  | folder
  | locked
  | file (content : ByteArray)

def entryOf : Except Fault FileTree → Entry
  | .error _ => .absent
  | .ok (.folder _) => .folder
  | .ok .locked => .locked
  | .ok (.file content) => .file content

def entryAt (tree : FileTree) (path : Path) : Entry := entryOf (tree.find path)

variable {tree first second : FileTree} {path : Path}

theorem has_iff : tree.has path ↔ tree.entryAt path ≠ .absent := by
  unfold has entryAt
  cases tree.find path with
  | error fault => simp [entryOf]
  | ok found => cases found <;> simp [entryOf]

theorem hasFile_iff :
    tree.hasFile path ↔ tree.entryAt path = .locked ∨ ∃ content, tree.entryAt path = .file content := by
  unfold hasFile entryAt
  cases tree.find path with
  | error fault => simp [entryOf]
  | ok found => cases found <;> simp [entryOf]

theorem hasFile_congr (same : first.entryAt path = second.entryAt path) :
    first.hasFile path = second.hasFile path := by
  rw [Bool.eq_iff_iff, hasFile_iff, hasFile_iff, same]

-- Where nothing stands, the reason that is told may still differ.
theorem readText_congr (same : first.entryAt path = second.entryAt path) (file : first.hasFile path) :
    first.readText path = second.readText path := by
  rw [hasFile_iff] at file
  unfold readText
  unfold entryAt at same file
  cases found : first.find path with
  | error fault => simp [found, entryOf] at file
  | ok here =>
    cases other : second.find path with
    | error fault =>
      rw [found, other] at same
      cases here <;> cases same
    | ok there =>
      rw [found, other] at same
      cases here <;> cases there <;> simp_all [entryOf]

theorem fromUTF8_toUTF8 (text : String) : String.fromUTF8? text.toUTF8 = some text :=
  dif_pos text.isValidUTF8

theorem readText_eq_ok_iff {text : String} :
    tree.readText path = .ok text ↔
      ∃ content, tree.entryAt path = .file content ∧ String.fromUTF8? content = some text := by
  unfold readText entryAt
  cases tree.find path with
  | error fault => simp [entryOf, bind, Except.bind]
  | ok found =>
    cases found with
    | file content => cases spelled : String.fromUTF8? content <;> simp [entryOf, bind, Except.bind, spelled]
    | locked => simp [entryOf, bind, Except.bind]
    | folder entries => simp [entryOf, bind, Except.bind]

end Entries

section Writing

variable {content : ByteArray} {name : String} {tree after : FileTree} {way : List String}

theorem lookup_putEntry (name other : String) (placed : FileTree) (entries : List (String × FileTree)) :
    (putEntry name placed entries).lookup other =
      if other = name then some placed else entries.lookup other := by
  induction entries with
  | nil => rw [putEntry, lookup_entry]
  | cons entry rest ih =>
    obtain ⟨name', tree'⟩ := entry
    by_cases replaced : name' = name
    · subst replaced
      rw [putEntry, if_pos rfl, lookup_entry, lookup_entry]
      split <;> rfl
    · rw [putEntry, if_neg replaced, lookup_entry, lookup_entry, ih]
      by_cases first : other = name'
      · subst first
        simp [replaced]
      · simp [first]

theorem writeBelow_found {entries : List (String × FileTree)} {inner : FileTree}
    (found : entries.lookup name = some inner) (rest : List String) :
    (FileTree.folder entries).writeBelow content (name :: rest) =
      (fun placed => .folder (putEntry name placed entries)) <$> inner.writeBelow content rest := by
  rw [writeBelow.eq_def]
  simp only [found]
  rfl

theorem writes_found {entries : List (String × FileTree)} {inner : FileTree}
    (found : entries.lookup name = some inner) (rest : List String) :
    (∃ after, (FileTree.folder entries).writeBelow content (name :: rest) = .ok after) ↔
      ∃ placed, inner.writeBelow content rest = .ok placed := by
  rw [writeBelow_found found]
  constructor
  · rintro ⟨after, written⟩
    obtain ⟨placed, below, -⟩ := map_eq_ok_iff.mp written
    exact ⟨placed, below⟩
  · rintro ⟨placed, below⟩
    exact ⟨_, map_eq_ok_iff.mpr ⟨placed, below, rfl⟩⟩

theorem writeBelow_missing {entries : List (String × FileTree)} (missing : entries.lookup name = none)
    (rest : List String) : (FileTree.folder entries).writeBelow content (name :: rest) =
      if rest = [] then .ok (.folder (putEntry name (.file content) entries))
      else .error .notFound := by
  rw [writeBelow.eq_def]
  simp only [missing]
  cases rest <;> rfl

theorem writes_here (tree : FileTree) :
    (∃ after, tree.writeBelow content [] = .ok after) ↔ ∃ old, entryOf (tree.descend []) = .file old := by
  cases tree <;> simp [writeBelow, descend, entryOf]

/-- Writing replaces the content of a file, goes on in an entry of a folder, or makes a new file. -/
theorem writeBelow_cases (written : tree.writeBelow content way = .ok after) :
    (way = [] ∧ (∃ old, tree = .file old) ∧ after = .file content) ∨
    ∃ name rest entries placed, way = name :: rest ∧ tree = .folder entries ∧
      after = .folder (putEntry name placed entries) ∧
      ((∃ inner, entries.lookup name = some inner ∧ inner.writeBelow content rest = .ok placed) ∨
        entries.lookup name = none ∧ rest = [] ∧ placed = .file content) := by
  cases way with
  | nil =>
    cases tree with
    | file old =>
      cases written
      exact Or.inl ⟨rfl, ⟨old, rfl⟩, rfl⟩
    | locked => cases written
    | folder entries => cases written
  | cons name rest =>
    cases tree with
    | file old => cases written
    | locked => cases written
    | folder entries =>
      right
      cases found : entries.lookup name with
      | some inner =>
        rw [writeBelow_found found, map_eq_ok_iff] at written
        obtain ⟨placed, below, rfl⟩ := written
        exact ⟨name, rest, entries, placed, rfl, rfl, rfl, Or.inl ⟨inner, found, below⟩⟩
      | none =>
        rw [writeBelow_missing found] at written
        split at written
        · next last =>
          cases written
          exact ⟨name, rest, entries, .file content, rfl, rfl, rfl, Or.inr ⟨found, last, rfl⟩⟩
        · cases written

theorem entry_in_folder (entries : List (String × FileTree)) (name : String) (rest : List String) :
    entryOf ((FileTree.folder entries).descend (name :: rest)) =
      match entries.lookup name with
      | some inner => entryOf (inner.descend rest)
      | none => .absent := by
  rw [descend]
  cases entries.lookup name <;> rfl

theorem entry_below_file (old : ByteArray) (below : way ≠ []) :
    entryOf ((FileTree.file old).descend way) = .absent := by
  cases way with
  | nil => exact absurd rfl below
  | cons name rest => rfl

/-- After writing, all entries but the written file are what they were. -/
theorem entry_writeBelow (written : tree.writeBelow content way = .ok after) (other : List String) :
    entryOf (after.descend other) =
      if other = way then .file content else entryOf (tree.descend other) := by
  -- Induction on the way to the file; what is written below an entry keeps all that is beside it.
  induction way generalizing tree after other with
  | nil =>
    obtain ⟨-, ⟨old, rfl⟩, rfl⟩ | ⟨_, _, _, _, impossible, -⟩ := writeBelow_cases written
    · by_cases here : other = []
      · subst here
        rfl
      · rw [if_neg here, entry_below_file _ here, entry_below_file _ here]
    · cases impossible
  | cons name rest ih =>
    obtain ⟨impossible, -⟩ | ⟨_, _, entries, placed, same, rfl, rfl, below⟩ := writeBelow_cases written
    · cases impossible
    cases same
    cases other with
    | nil => rfl
    | cons name' rest' =>
      rw [entry_in_folder, entry_in_folder, lookup_putEntry]
      by_cases beside : name' = name
      · subst beside
        rw [if_pos rfl]
        obtain ⟨inner, found, inside⟩ | ⟨missing, rfl, rfl⟩ := below
        · simpa [found] using ih inside rest'
        · by_cases here : rest' = []
          · subst here
            simp [descend, entryOf]
          · simp [missing, here, entry_below_file _ here]
      · simp [beside]

theorem writeBelow_ok_iff (way : List String) (name : String) :
    (∃ after, tree.writeBelow content (way ++ [name]) = .ok after) ↔
      entryOf (tree.descend way) = .folder ∧
        (entryOf (tree.descend (way ++ [name])) = .absent ∨
          ∃ old, entryOf (tree.descend (way ++ [name])) = .file old) := by
  induction way generalizing tree with
  | nil =>
    cases tree with
    | file old => simp [writeBelow, descend, entryOf]
    | locked => simp [writeBelow, descend, entryOf]
    | folder entries =>
      rw [List.nil_append, entry_in_folder]
      cases found : entries.lookup name with
      | none => simp [writeBelow_missing found, descend, entryOf]
      | some inner =>
        rw [writes_found found, writes_here]
        cases inner <;> simp [descend, entryOf]
  | cons first rest ih =>
    cases tree with
    | file old => simp [writeBelow, descend, entryOf]
    | locked => simp [writeBelow, descend, entryOf]
    | folder entries =>
      rw [List.cons_append, entry_in_folder, entry_in_folder]
      cases found : entries.lookup first with
      | none => simp [writeBelow_missing found]
      | some inner =>
        rw [writes_found found]
        exact ih

/-- Writing a text changes the entry at its path and no other. -/
theorem entryAt_writeText {path : Path} {text : String} (written : tree.writeText path text = .ok after)
    (other : Path) :
    after.entryAt other = if other = path then .file text.toUTF8 else tree.entryAt other := by
  rw [entryAt, entryAt, find, find, entry_writeBelow written]
  simp only [List.reverse_inj]

/-- A text can be written where a folder has a file of that name or nothing. -/
theorem writeText_ok_iff (folder : Path) (name text : String) :
    (∃ after, tree.writeText (name :: folder) text = .ok after) ↔
      tree.entryAt folder = .folder ∧
        (tree.entryAt (name :: folder) = .absent ∨
          ∃ old, tree.entryAt (name :: folder) = .file old) := by
  simp only [writeText, entryAt, find, List.reverse_cons]
  exact writeBelow_ok_iff folder.reverse name

end Writing

end BoolQuery.FileTree
