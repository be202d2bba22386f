import Mathlib

/-!
# Directory trees

A directory lists entries under distinct names. A regular file of a tree is known by the
names on the way to it; where these are texts they join to one path, and the path split at
its separators leads back to the same file.
-/

namespace FileTrees

open List

/-- A name is a text where its bytes are one. -/
inductive Name where
  | text (name : String)
  | raw (bytes : List UInt8)
  deriving DecidableEq, Repr

/-- A link keeps only whether something stands behind it. -/
inductive Entry where
  | file (name : Name) (mode : Nat) (bytes : List UInt8)
  | directory (name : Name) (entries : List Entry)
  | symlink (name : Name) (resolves : Bool)
  | special (name : Name)
  deriving Repr

def Entry.name : Entry → Name
  | .file name _ _ | .directory name _ | .symlink name _ | .special name => name

def Name.text? : Name → Option String
  | .text name => some name
  | .raw _ => none

/-- What a file system lets a name be. -/
def Name.Valid : Name → Prop
  | .text name => name ≠ "" ∧ name ≠ "." ∧ '/' ∉ name.toList
  | .raw _ => True

instance : (name : Name) → Decidable name.Valid
  | .text name => inferInstanceAs (Decidable (name ≠ "" ∧ name ≠ "." ∧ '/' ∉ name.toList))
  | .raw _ => inferInstanceAs (Decidable True)

/-- The entries of a directory: valid names, no name twice, at every depth. -/
inductive Listing : List Entry → Prop
  | mk {entries : List Entry} (distinct : (entries.map Entry.name).Nodup)
      (valid : ∀ entry ∈ entries, entry.name.Valid)
      (below : ∀ name inner, .directory name inner ∈ entries → Listing inner) : Listing entries

/-- A place in a file system and what is found there. -/
structure Tree where
  root : Entry
  listed : ∀ name entries, root = .directory name entries → Listing entries

structure RegularFile where
  path : List Name
  mode : Nat
  bytes : List UInt8
  deriving DecidableEq, Repr

/-! ## The regular files of a tree -/

mutual
def Entry.files (above : List Name) : Entry → List RegularFile
  | .file name mode bytes => [⟨above ++ [name], mode, bytes⟩]
  | .directory name entries => filesOf (above ++ [name]) entries
  | .symlink _ _ | .special _ => []

def filesOf (above : List Name) : List Entry → List RegularFile
  | [] => []
  | entry :: rest => entry.files above ++ filesOf above rest
end

def Tree.files (tree : Tree) : List RegularFile :=
  match tree.root with
  | .directory _ entries => filesOf [] entries
  | _ => []

/-- A regular file stands under the entries, along these names. -/
inductive Holds : List Entry → List Name → Nat → List UInt8 → Prop
  | here {entries : List Entry} {name : Name} {mode : Nat} {bytes : List UInt8}
      (mem : .file name mode bytes ∈ entries) : Holds entries [name] mode bytes
  | within {entries inner : List Entry} {name : Name} {path : List Name} {mode : Nat}
      {bytes : List UInt8} (mem : .directory name inner ∈ entries)
      (inside : Holds inner path mode bytes) : Holds entries (name :: path) mode bytes

mutual
theorem Entry.holds_of_mem_files (entry : Entry) (mem : f ∈ entry.files above) :
    ∃ path, f.path = above ++ path ∧ Holds [entry] path f.mode f.bytes := by
  cases entry with
  | file name mode bytes =>
    obtain rfl := mem_singleton.mp mem
    exact ⟨[name], rfl, .here mem_cons_self⟩
  | directory name entries =>
    obtain ⟨path, same, holds⟩ := holds_of_mem_filesOf entries mem
    exact ⟨name :: path, by rw [same, append_assoc]; rfl, .within mem_cons_self holds⟩
  | symlink | special => exact absurd mem not_mem_nil

theorem holds_of_mem_filesOf (entries : List Entry) (mem : f ∈ filesOf above entries) :
    ∃ path, f.path = above ++ path ∧ Holds entries path f.mode f.bytes := by
  cases entries with
  | nil => exact absurd mem not_mem_nil
  | cons entry rest =>
    rcases mem_append.mp mem with mem | mem
    · obtain ⟨path, same, holds⟩ := entry.holds_of_mem_files mem
      refine ⟨path, same, ?_⟩
      cases holds with
      | here found => exact .here (mem_singleton.mp found ▸ mem_cons_self)
      | within found inside => exact .within (mem_singleton.mp found ▸ mem_cons_self) inside
    · obtain ⟨path, same, holds⟩ := holds_of_mem_filesOf rest mem
      refine ⟨path, same, ?_⟩
      cases holds with
      | here found => exact .here (mem_cons_of_mem _ found)
      | within found inside => exact .within (mem_cons_of_mem _ found) inside
end

/-! ## Paths -/

/-- The path written with separators. -/
def joined (names : List String) : String :=
  String.ofList (['/'].intercalate (names.map String.toList))

def pathText (path : List Name) : Option String := (path.mapM Name.text?).map joined

def pieces (value : String) : List String := (value.toList.splitOn '/').map String.ofList

variable {names : List String}

theorem pieces_joined (plain : ∀ name ∈ names, '/' ∉ name.toList)
    (present : names ≠ []) : pieces (joined names) = names := by
  have apart : ∀ letters ∈ names.map String.toList, '/' ∉ letters := by
    intro letters mem
    obtain ⟨name, found, rfl⟩ := mem_map.mp mem
    exact plain name found
  rw [pieces, joined, String.toList_ofList,
    splitOn_intercalate '/' apart (by simpa using present), map_map]
  exact map_id'' (fun name => String.ofList_toList) names

variable {path : List Name}

theorem mapM_text?_eq_some :
    path.mapM Name.text? = some names ↔ path = names.map .text := by
  induction path generalizing names with
  | nil => simp [eq_comm]
  | cons name rest ih =>
    cases name with
    | raw bytes => cases names <;> simp [mapM_cons, Name.text?]
    | text first =>
      cases names with
      | nil => simp [mapM_cons, Name.text?, Option.bind_eq_some_iff]
      | cons second names =>
        simp only [mapM_cons, Name.text?, Option.pure_def, Option.bind_eq_bind,
          Option.bind_some, Option.bind_eq_some_iff, Option.some.injEq, List.cons.injEq, ih,
          map_cons, Name.text.injEq]
        constructor
        · rintro ⟨others, tail, rfl, rfl⟩
          exact ⟨rfl, tail⟩
        · rintro ⟨rfl, tail⟩
          exact ⟨names, tail, rfl, rfl⟩

/-! ## Looking a path up -/

/-- What stands at the end of a path: an empty piece or a dot stays in its directory, and a
link on the way is not followed. -/
def Entry.resolve : List String → Entry → Option Entry
  | [], entry => some entry
  | piece :: rest, .directory name entries =>
    if piece = "" ∨ piece = "." then Entry.resolve rest (.directory name entries)
    else (entries.find? (·.name = .text piece)).bind (Entry.resolve rest)
  | _ :: _, _ => none

variable {entries : List Entry}

/-- A name finds the one entry that has it. -/
theorem find?_name_eq (distinct : (entries.map Entry.name).Nodup) (mem : entry ∈ entries) :
    entries.find? (·.name = entry.name) = some entry := by
  induction entries with
  | nil => exact absurd mem not_mem_nil
  | cons first rest ih =>
    obtain ⟨apart, others⟩ := nodup_cons.mp distinct
    rcases mem_cons.mp mem with rfl | later
    · exact find?_cons_of_pos (decide_eq_true rfl)
    · have differs : first.name ≠ entry.name := fun same =>
        apart (same ▸ mem_map_of_mem later)
      rw [find?_cons_of_neg (by simpa using differs)]
      exact ih others later

theorem Holds.valid (holds : Holds entries path mode bytes) (listing : Listing entries) :
    path ≠ [] ∧ ∀ name ∈ path, name.Valid := by
  induction holds with
  | here mem =>
    obtain ⟨-, valid, -⟩ := listing
    exact ⟨cons_ne_nil _ _, forall_mem_singleton.mpr (valid _ mem)⟩
  | within mem inside ih =>
    obtain ⟨-, valid, below⟩ := listing
    exact ⟨cons_ne_nil _ _,
      forall_mem_cons.mpr ⟨valid _ mem, (ih (below _ _ mem)).2⟩⟩

/-- A piece that names an entry leads into it. -/
theorem Listing.resolve_cons (listing : Listing entries) (mem : entry ∈ entries)
    (named : entry.name = .text piece) (outer : Name) (rest : List String) :
    (Entry.directory outer entries).resolve (piece :: rest) = entry.resolve rest := by
  obtain ⟨distinct, valid, -⟩ := listing
  have proper : piece ≠ "" ∧ piece ≠ "." ∧ '/' ∉ piece.toList := by
    simpa only [named, Name.Valid] using valid entry mem
  rw [Entry.resolve, if_neg (not_or.mpr ⟨proper.1, proper.2.1⟩), ← named,
    find?_name_eq distinct mem, Option.bind_some]

theorem Holds.resolve (holds : Holds entries path mode bytes) (listing : Listing entries)
    (texts : path = names.map .text) (outer : Name) :
    ∃ name, (Entry.directory outer entries).resolve names = some (.file name mode bytes) := by
  induction holds generalizing names outer with
  | here mem =>
    obtain ⟨piece, rest, rfl, named, done⟩ := map_eq_cons_iff.mp texts.symm
    obtain rfl := map_eq_nil_iff.mp done
    exact ⟨_, listing.resolve_cons mem named.symm outer []⟩
  | within mem inside ih =>
    obtain ⟨piece, rest, rfl, named, onward⟩ := map_eq_cons_iff.mp texts.symm
    rw [listing.resolve_cons mem named.symm outer rest]
    obtain ⟨-, -, below⟩ := listing
    exact ih (below _ _ mem) onward.symm _

/-! ## Files of a tree by their paths -/

/-- What stands at a path of a tree. -/
def Tree.entryAt (tree : Tree) (path : String) : Option Entry := tree.root.resolve (pieces path)

variable {f : RegularFile}

theorem Tree.holds_of_mem_files {tree : Tree} (mem : f ∈ tree.files) :
    ∃ outer entries, tree.root = .directory outer entries ∧ Listing entries ∧
      Holds entries f.path f.mode f.bytes := by
  unfold Tree.files at mem
  split at mem
  case h_1 outer entries root =>
    obtain ⟨path, same, holds⟩ := holds_of_mem_filesOf entries mem
    exact ⟨outer, entries, root, tree.listed outer entries root, same ▸ holds⟩
  case h_2 => exact absurd mem not_mem_nil

/-- The path of a file, split at its separators, is the names it stands along. -/
theorem Tree.pieces_of_mem_files {tree : Tree} (mem : f ∈ tree.files)
    {value : String} (written : pathText f.path = some value) :
    f.path = (pieces value).map .text := by
  obtain ⟨outer, entries, root, listing, holds⟩ := Tree.holds_of_mem_files mem
  obtain ⟨names, texts, rfl⟩ := Option.map_eq_some_iff.mp written
  have along := mapM_text?_eq_some.mp texts
  obtain ⟨present, valid⟩ := holds.valid listing
  have plain : ∀ name ∈ names, '/' ∉ name.toList := by
    intro name member
    exact (valid (.text name) (along ▸ mem_map_of_mem member)).2.2
  rw [pieces_joined plain (fun none => present (by rw [along, none]; rfl))]
  exact along

/-- A path found in the tree leads back to its file. -/
theorem Tree.entryAt_eq {tree : Tree} (mem : f ∈ tree.files) {value : String}
    (written : pathText f.path = some value) :
    ∃ name, tree.entryAt value = some (.file name f.mode f.bytes) := by
  have along := Tree.pieces_of_mem_files mem written
  obtain ⟨outer, entries, root, listing, holds⟩ := Tree.holds_of_mem_files mem
  rw [Tree.entryAt, root]
  exact holds.resolve listing along outer

end FileTrees
