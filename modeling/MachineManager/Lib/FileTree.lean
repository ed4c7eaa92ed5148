import Mathlib.Tactic.Common

/-!
# File trees

A directory is a row of entries: directories, and leaves, which are regular files, links or special
entries. A path is a list of names; it is written with slashes between them.

`read` opens a path, through directories and links. `regular` walks the tree and lists the regular
files with their paths. In a well-formed tree every file that is listed is read under its path
(`read_of_mem_regular`), and every path that can be read is listed, unless it meets a link or a
special entry (`mem_regular_of_read`).
-/

namespace FileTree

open List

def Proper (name : String) : Prop :=
  name ≠ "" ∧ name ≠ "." ∧ name ≠ ".." ∧ '/' ∉ name.toList

instance : DecidablePred Proper :=
  fun _ => inferInstanceAs (Decidable (_ ∧ _))

def parts (text : String) : List String :=
  (text.toList.splitOn '/').map String.ofList

def text (path : List String) : String :=
  String.ofList (['/'].intercalate (path.map String.toList))

/-- A path below a directory. -/
def IsPath (path : List String) : Prop :=
  path ≠ [] ∧ ∀ name ∈ path, Proper name

instance : DecidablePred IsPath :=
  fun _ => inferInstanceAs (Decidable (_ ∧ _))

/-- A path is read off from its text. -/
theorem parts_text {path : List String} (isPath : IsPath path) :
  parts (text path) = path
  := by
  have split : (['/'].intercalate (path.map String.toList)).splitOn '/' =
    path.map String.toList := by
    apply splitOn_intercalate
    · intro chars mem
      obtain ⟨name, named, rfl⟩ := mem_map.mp mem
      exact (isPath.2 name named).2.2.2
    · simpa using isPath.1
  rw [parts, text, String.toList_ofList, split, map_map]
  simp

/-! ### Trees -/

/-- Why a path cannot be read. -/
inductive OpenError
  | notFound
  | other
deriving DecidableEq

/-- An entry that is not a directory. A link leads elsewhere: what is read there, under each of the
paths that begin there, is given with it. -/
inductive Leaf (β : Type)
  | file (content : β)
  | link (leads : List String → Except OpenError β)
  | special (content : Except OpenError β)

/-- The entries of a directory, in the order in which they are listed. -/
inductive Listing (β : Type)
  | nil
  | leaf (name : String) (entry : Leaf β) (rest : Listing β)
  | dir (name : String) (inside rest : Listing β)

variable {β : Type} {content : β} {name : String} {t : Listing β} {path : List String}

namespace Leaf

def isFile : Leaf β → Bool
  | file _ => true
  | _ => false

def read : Leaf β → List String → Except OpenError β
  | file content, [] => .ok content
  | file _, _ :: _ => .error .other
  | link leads, path => leads path
  | special content, [] => content
  | special _, _ :: _ => .error .other

end Leaf

namespace Listing

def names : Listing β → List String
  | nil => []
  | leaf name _ rest | dir name _ rest => name :: rest.names

/-- Every entry has a proper name of its own, also in the directories below. -/
def Wf : Listing β → Prop
  | nil => True
  | leaf name _ rest => Proper name ∧ name ∉ rest.names ∧ rest.Wf
  | dir name inside rest => Proper name ∧ name ∉ rest.names ∧ inside.Wf ∧ rest.Wf

def read : Listing β → List String → Except OpenError β
  | _, [] => .error .other
  | nil, _ :: _ => .error .notFound
  | leaf name entry rest, n :: path => if n = name then entry.read path else rest.read (n :: path)
  | dir name inside rest, n :: path => if n = name then inside.read path else rest.read (n :: path)

/-- The regular files with their paths, in the order of a walk. -/
def regular : Listing β → List (List String × β)
  | nil => []
  | leaf name (.file content) rest => ([name], content) :: rest.regular
  | leaf _ _ rest => rest.regular
  | dir name inside rest => inside.regular.map (fun f => (name :: f.1, f.2)) ++ rest.regular

def Strays : Listing β → List String → Prop
  | _, [] | nil, _ :: _ => False
  | leaf name entry rest, n :: path =>
    if n = name then entry.isFile = false else rest.Strays (n :: path)
  | dir name inside rest, n :: path => if n = name then inside.Strays path
      else rest.Strays (n :: path)

/-! ### What is listed and what is read -/

variable {rest : Listing β} {f : List String × β}

theorem mem_regular_leaf {entry : Leaf β} :
  f ∈ (leaf name entry rest).regular ↔
    (∃ content, entry = .file content ∧ f = ([name], content)) ∨ f ∈ rest.regular
  := by
  cases entry <;> simp [regular]

theorem mem_regular_dir {inside : Listing β} :
  f ∈ (dir name inside rest).regular ↔
    (∃ path, (path, f.2) ∈ inside.regular ∧ f.1 = name :: path) ∨ f ∈ rest.regular
  := by
  rw [regular, mem_append, mem_map]
  refine or_congr_left ?_
  constructor
  · rintro ⟨⟨path, content⟩, mem, rfl⟩
    exact ⟨path, mem, rfl⟩
  · obtain ⟨p, content⟩ := f
    rintro ⟨path, mem, rfl⟩
    exact ⟨(path, content), mem, rfl⟩

/-- The paths of the files that are listed begin with the names of the directory. -/
theorem head_of_mem_regular (mem : (path, content) ∈ t.regular) :
  ∃ name rest, path = name :: rest ∧ name ∈ t.names
  := by
  induction t with
  | nil => cases mem
  | leaf name _ _ ih =>
    rcases mem_regular_leaf.mp mem with ⟨_, -, same⟩ | later
    · cases same
      exact ⟨name, [], rfl, mem_cons_self⟩
    · obtain ⟨n, q, rfl, there⟩ := ih later
      exact ⟨n, q, rfl, mem_cons_of_mem _ there⟩
  | dir name _ _ _ ih =>
    rcases mem_regular_dir.mp mem with ⟨q, -, same⟩ | later
    · exact ⟨name, q, same, mem_cons_self⟩
    · obtain ⟨n, q, rfl, there⟩ := ih later
      exact ⟨n, q, rfl, mem_cons_of_mem _ there⟩

/-- The files that are listed have paths. -/
theorem isPath_of_mem_regular (wf : t.Wf) (mem : (path, content) ∈ t.regular) :
  IsPath path
  := by
  induction t generalizing path with
  | nil => cases mem
  | leaf _ _ _ ih =>
    rcases mem_regular_leaf.mp mem with ⟨_, -, same⟩ | later
    · cases same
      refine ⟨nofun, ?_⟩
      rintro n (_ | ⟨_, ⟨⟩⟩)
      exact wf.1
    · exact ih wf.2.2 later
  | dir _ _ _ inner outer =>
    rcases mem_regular_dir.mp mem with ⟨q, below, rfl⟩ | later
    · refine ⟨nofun, fun n => ?_⟩
      rintro (_ | ⟨_, there⟩)
      · exact wf.1
      · exact (inner wf.2.2.1 below).2 n there
    · exact outer wf.2.2.2 later

/-- A file that is listed is read under its path. -/
theorem read_of_mem_regular (wf : t.Wf) (mem : (path, content) ∈ t.regular) :
  t.read path = .ok content
  := by
  induction t generalizing path with
  | nil => cases mem
  | leaf name _ _ ih =>
    rcases mem_regular_leaf.mp mem with ⟨_, rfl, same⟩ | later
    · cases same
      exact if_pos rfl
    · obtain ⟨n, q, rfl, there⟩ := head_of_mem_regular later
      have other : n ≠ name := fun same => wf.2.1 (same ▸ there)
      rw [read, if_neg other]
      exact ih wf.2.2 later
  | dir name _ _ inner outer =>
    rcases mem_regular_dir.mp mem with ⟨q, below, rfl⟩ | later
    · rw [read, if_pos rfl]
      exact inner wf.2.2.1 below
    · obtain ⟨n, q, rfl, there⟩ := head_of_mem_regular later
      have other : n ≠ name := fun same => wf.2.1 (same ▸ there)
      rw [read, if_neg other]
      exact outer wf.2.2.2 later

/-- What can be read is listed, unless its path meets a link or a special entry. -/
theorem mem_regular_of_read (found : t.read path = .ok content) (straight : ¬ t.Strays path) :
  (path, content) ∈ t.regular
  := by
  induction t generalizing path with
  | nil =>
    cases path with
    | nil | cons => cases found
  | leaf _ entry _ ih =>
    cases path with
    | nil => cases found
    | cons _ q =>
      rw [read] at found
      rw [Strays] at straight
      apply mem_regular_leaf.mpr
      split_ifs at found straight with same
      · subst same
        cases entry with
        | file =>
          cases q with
          | nil =>
            cases found
            exact .inl ⟨content, rfl, rfl⟩
          | cons => cases found
        | link | special => exact absurd rfl straight
      · exact .inr (ih found straight)
  | dir _ _ _ inner outer =>
    cases path with
    | nil => cases found
    | cons _ q =>
      rw [read] at found
      rw [Strays] at straight
      apply mem_regular_dir.mpr
      split_ifs at found straight with same
      · subst same
        exact .inl ⟨q, inner found straight, rfl⟩
      · exact .inr (outer found straight)

end Listing

/-! ### The entries of one directory -/

/-- What stands under a name. -/
inductive Entry (β : Type)
  | leaf (entry : Leaf β)
  | dir (inside : Listing β)

def Entry.regular : Entry β → List (List String × β)
  | leaf (.file content) => [([], content)]
  | leaf _ => []
  | dir inside => inside.regular

namespace Listing

def find : Listing β → String → Option (Entry β)
  | nil, _ => none
  | leaf n entry rest, name => if name = n then some (.leaf entry) else rest.find name
  | dir n inside rest, name => if name = n then some (.dir inside) else rest.find name

def erase : Listing β → String → Listing β
  | nil, _ => nil
  | leaf n entry rest, name => if name = n then rest.erase name else leaf n entry (rest.erase name)
  | dir n inside rest, name => if name = n then rest.erase name else dir n inside (rest.erase name)

/-- The directory with a leaf under a name, in place of what stood there, or at the end. -/
def put : Listing β → String → Leaf β → Listing β
  | nil, name, entry => leaf name entry nil
  | leaf n entry' rest, name, entry =>
    if name = n then leaf n entry rest else leaf n entry' (rest.put name entry)
  | dir n inside rest, name, entry =>
    if name = n then leaf n entry rest else dir n inside (rest.put name entry)

theorem read_cons (t : Listing β) (name : String) (path : List String) :
  t.read (name :: path) =
    match t.find name with
    | none => .error .notFound
    | some (.leaf entry) => entry.read path
    | some (.dir inside) => inside.read path
  := by
  induction t with
  | nil => rfl
  | leaf _ _ _ ih | dir _ _ _ _ ih =>
    rw [read, find]
    split_ifs
    · rfl
    · exact ih

variable {other : String}

theorem not_mem_regular (absent : name ∉ t.names) :
  (name :: path, content) ∉ t.regular
  := by
  intro mem
  obtain ⟨_, _, same, there⟩ := head_of_mem_regular mem
  cases same
  exact absent there

/-- The regular files under a name. -/
theorem mem_regular_cons (wf : t.Wf) :
  (name :: path, content) ∈ t.regular ↔ ∃ entry, t.find name = some entry ∧
    (path, content) ∈ entry.regular
  := by
  induction t with
  | nil => exact ⟨nofun, nofun⟩
  | leaf _ e _ ih =>
    obtain ⟨-, once, later⟩ := wf
    rw [mem_regular_leaf, find]
    split_ifs with same
    · subst same
      cases e <;> simp [Entry.regular, not_mem_regular once, and_comm, eq_comm]
    · rw [← ih later]
      refine or_iff_right ?_
      rintro ⟨_, -, eq⟩
      cases eq
      exact same rfl
  | dir _ _ _ _ outer =>
    obtain ⟨-, once, _, later⟩ := wf
    rw [mem_regular_dir, find]
    split_ifs with same
    · subst same
      simp [Entry.regular, not_mem_regular once]
    · rw [← outer later]
      refine or_iff_right ?_
      rintro ⟨_, -, eq⟩
      cases eq
      exact same rfl

theorem find_put_self (t : Listing β) (name : String) (entry : Leaf β) :
  (t.put name entry).find name = some (.leaf entry)
  := by
  induction t with
  | nil => exact if_pos rfl
  | leaf _ _ _ ih | dir _ _ _ _ ih =>
    rw [put]
    split_ifs with same
    · exact if_pos same
    · exact (if_neg same).trans ih

theorem find_put_of_ne (t : Listing β) (ne : other ≠ name) (entry : Leaf β) :
  (t.put name entry).find other = t.find other
  := by
  induction t with
  | nil => exact if_neg ne
  | leaf _ _ _ ih | dir _ _ _ _ ih =>
    rw [put]
    split_ifs with same
    · subst same
      rw [find, find, if_neg ne, if_neg ne]
    · rw [find, find, ih]

theorem find_erase_of_ne (t : Listing β) (ne : other ≠ name) :
  (t.erase name).find other = t.find other
  := by
  induction t with
  | nil => rfl
  | leaf _ _ _ ih | dir _ _ _ _ ih =>
    rw [erase]
    split_ifs with same
    · subst same
      rw [ih, find, if_neg ne]
    · rw [find, find, ih]

theorem mem_names_put {entry : Leaf β} :
  other ∈ (t.put name entry).names ↔ other = name ∨ other ∈ t.names
  := by
  induction t with
  | nil => simp [put, names]
  | leaf _ _ _ ih | dir _ _ _ _ ih =>
    rw [put]
    split_ifs with same
    · simp [names, same]
    · simp only [names, mem_cons, ih]
      tauto

theorem mem_of_mem_names_erase (mem : other ∈ (t.erase name).names) :
  other ∈ t.names
  := by
  induction t with
  | nil => exact mem
  | leaf _ _ _ ih | dir _ _ _ _ ih =>
    rw [erase] at mem
    split_ifs at mem
    · exact mem_cons_of_mem _ (ih mem)
    · exact mem_cons.mpr ((mem_cons.mp mem).imp_right ih)

theorem Wf.put (wf : t.Wf) (proper : Proper name) (entry : Leaf β) :
  (t.put name entry).Wf
  := by
  induction t with
  | nil => exact ⟨proper, nofun, trivial⟩
  | leaf _ _ _ ih =>
    obtain ⟨named, once, later⟩ := wf
    rw [Listing.put]
    split_ifs with same
    · exact ⟨named, once, later⟩
    · refine ⟨named, ?_, ih later⟩
      rw [mem_names_put]
      exact not_or.mpr ⟨fun h => same h.symm, once⟩
  | dir _ _ _ _ ih =>
    obtain ⟨named, once, below, later⟩ := wf
    rw [Listing.put]
    split_ifs with same
    · exact ⟨named, once, later⟩
    · refine ⟨named, ?_, below, ih later⟩
      rw [mem_names_put]
      exact not_or.mpr ⟨fun h => same h.symm, once⟩

theorem Wf.erase (wf : t.Wf) (name : String) :
  (t.erase name).Wf
  := by
  induction t with
  | nil => trivial
  | leaf _ _ _ ih =>
    obtain ⟨named, once, later⟩ := wf
    rw [Listing.erase]
    split_ifs
    · exact ih later
    · exact ⟨named, fun mem => once (mem_of_mem_names_erase mem), ih later⟩
  | dir _ _ _ _ ih =>
    obtain ⟨named, once, below, later⟩ := wf
    rw [Listing.erase]
    split_ifs
    · exact ih later
    · exact ⟨named, fun mem => once (mem_of_mem_names_erase mem), below, ih later⟩

end Listing

end FileTree
