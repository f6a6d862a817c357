import Rustflow.Lib.Table

/-!
# File systems

A file system as a table from paths to what is there, with the calls that make, link and remove
entries. Each call is one atomic step. It fails exactly where the entries it needs are missing or
the ones it would make are there, and changes at most the entry it names.
-/

/-- A path from the root of the file system, one name for each component. -/
abbrev EntryPath (N : Type) : Type := List N

/-- What a path leads to. Two paths with one inode are one file under two names. -/
inductive Node where
  | dir
  | file (inode : Nat)
  /-- Neither a directory nor a regular file. -/
  | other
  deriving DecidableEq

abbrev FileSystem (N : Type) : Type := Table (EntryPath N) Node

/-- Why a call failed. -/
inductive Errno where
  | notFound | alreadyExists | notADirectory | isADirectory | notEmpty | other
  deriving DecidableEq

namespace FileSystem
variable {N : Type}

/-- The last component of `q`, if the rest of it is `p`. -/
def childName [DecidableEq N] (p q : EntryPath N) : Option N :=
  q.getLast?.filter fun _ => q.dropLast = p

/-- The entries of a directory, in the order of the table. -/
def children [DecidableEq N] (fs : FileSystem N) (p : EntryPath N) : List (N × Node) :=
  fs.entries.filterMap fun e => (childName p e.1).map fun name => (name, e.2)

variable [DecidableEq N] (fs : FileSystem N)

def readDir (p : EntryPath N) : Option (List (N × Node)) :=
  if fs.lookup p = some .dir then some (fs.children p) else none

/-- Makes an entry that is not there yet. -/
def make (p : EntryPath N) (node : Node) : Except Errno (FileSystem N) :=
  if fs.lookup p ≠ none then .error .alreadyExists
  else if fs.lookup p.dropLast = some .dir then .ok (fs.insert p node)
  else .error .notFound

def mkdir (p : EntryPath N) : Except Errno (FileSystem N) := fs.make p .dir

/-- Opens a file for writing, made with the inode where there is none, and cut to nothing. -/
def openTruncate (p : EntryPath N) (inode : Nat) : Except Errno (FileSystem N) :=
  match fs.lookup p with
  | some (.file _) => .ok fs
  | some .dir => .error .isADirectory
  | some .other => .error .other
  | none => fs.make p (.file inode)

/-- A second name for a file, which never takes the place of an entry. -/
def hardLink (source target : EntryPath N) : Except Errno (FileSystem N) :=
  match fs.lookup source with
  | some (.file inode) => fs.make target (.file inode)
  | some _ => .error .other
  | none => .error .notFound

def unlink (p : EntryPath N) : Except Errno (FileSystem N) :=
  match fs.lookup p with
  | some .dir => .error .isADirectory
  | some _ => .ok (fs.erase p)
  | none => .error .notFound

/-- Removes a directory with nothing in it. -/
def rmdir (p : EntryPath N) : Except Errno (FileSystem N) :=
  match fs.lookup p with
  | some .dir => if (fs.children p).isEmpty then .ok (fs.erase p) else .error .notEmpty
  | some _ => .error .notADirectory
  | none => .error .notFound

/-- Takes the place of a file that is there. -/
def rename (source target : EntryPath N) : Except Errno (FileSystem N) :=
  match fs.lookup source with
  | some (.file inode) =>
    if fs.lookup target = some .dir then .error .isADirectory
    else if fs.lookup target.dropLast = some .dir then
      .ok (if source = target then fs else (fs.erase source).insert target (.file inode))
    else .error .notFound
  | some _ => .error .other
  | none => .error .notFound

variable {fs} {fs' : FileSystem N} {p q : EntryPath N}

theorem childName_eq_some {name : N} : childName p q = some name ↔ q = p ++ [name] := by
  rw [childName, Option.filter_eq_some_iff]
  constructor
  · rintro ⟨last, front⟩
    obtain ⟨init, rfl⟩ := List.getLast?_eq_some_iff.mp last
    rw [List.dropLast_concat] at front
    rw [of_decide_eq_true front]
  · rintro rfl
    simp

theorem mem_children {name : N} {node : Node} :
    (name, node) ∈ fs.children p ↔ fs.lookup (p ++ [name]) = some node := by
  rw [children, List.mem_filterMap, Table.lookup_eq_some]
  constructor
  · rintro ⟨⟨q, kind⟩, inside, same⟩
    obtain ⟨last, child, pair⟩ := Option.map_eq_some_iff.mp same
    cases pair
    rw [childName_eq_some] at child
    subst child
    exact inside
  · intro inside
    exact ⟨⟨p ++ [name], node⟩, inside, by rw [childName_eq_some.mpr rfl]; rfl⟩

theorem children_eq_nil : fs.children p = [] ↔ ∀ name, fs.lookup (p ++ [name]) = none := by
  constructor
  · intro empty name
    rcases found : fs.lookup (p ++ [name]) with _ | node
    · rfl
    · rw [← mem_children, empty] at found
      cases found
  · intro absent
    apply List.eq_nil_iff_forall_not_mem.mpr
    rintro ⟨name, node⟩ inside
    rw [mem_children, absent name] at inside
    cases inside

theorem children_distinct : (fs.children p).Pairwise (·.1 ≠ ·.1) := by
  have distinct := fs.nodupKeys
  rw [List.NodupKeys, List.keys, List.nodup_iff_pairwise_ne, List.pairwise_map] at distinct
  refine distinct.filterMap _ fun a b ne x first y second same => ne ?_
  obtain ⟨name, child, rfl⟩ := Option.map_eq_some_iff.mp first
  obtain ⟨name', child', rfl⟩ := Option.map_eq_some_iff.mp second
  rw [childName_eq_some] at child child'
  rw [child, child', show name = name' from same]

/-! ### What a call changes -/

theorem make_eq_ok {node : Node} : fs.make p node = .ok fs' ↔
    fs.lookup p = none ∧ fs.lookup p.dropLast = some .dir ∧ fs' = fs.insert p node := by
  unfold make
  split
  · rename_i there
    simp only [reduceCtorEq, there, false_and]
  split
  · rename_i absent parent
    simp only [not_not] at absent
    simp only [Except.ok.injEq, absent, parent, true_and]
    exact eq_comm
  · rename_i parent
    simp only [reduceCtorEq, parent, false_and, and_false]

theorem make_cases (fs : FileSystem N) (path : EntryPath N) (node : Node) :
    (fs.lookup path = none ∧ fs.lookup path.dropLast = some .dir ∧
      fs.make path node = .ok (fs.insert path node)) ∨
    (fs.lookup path ≠ none ∧ fs.make path node = .error .alreadyExists) ∨
    (fs.lookup path.dropLast ≠ some .dir ∧ fs.make path node = .error .notFound) := by
  unfold make
  split
  · rename_i there
    exact .inr (.inl ⟨there, rfl⟩)
  split
  · rename_i absent parent
    exact .inl ⟨not_not.mp absent, parent, rfl⟩
  · rename_i missing
    exact .inr (.inr ⟨missing, rfl⟩)

theorem unlink_eq_ok : fs.unlink p = .ok fs' ↔
    (∃ node, fs.lookup p = some node ∧ node ≠ .dir) ∧ fs' = fs.erase p := by
  unfold unlink
  rcases fs.lookup p with _ | _ | _ | _ <;> simp [eq_comm]

theorem rmdir_eq_ok : fs.rmdir p = .ok fs' ↔
    fs.lookup p = some .dir ∧ (∀ name, fs.lookup (p ++ [name]) = none) ∧ fs' = fs.erase p := by
  rw [← children_eq_nil]
  unfold rmdir
  rcases fs.lookup p with _ | _ | _ | _
  · simp
  · by_cases empty : fs.children p = []
    · simp [empty, eq_comm]
    · simp [empty]
  · simp
  · simp

/-! ### Trees -/

/-- Every entry is in a directory. -/
def WellFormed (fs : FileSystem N) : Prop :=
  ∀ p, fs.lookup p ≠ none → fs.lookup p.dropLast = some .dir

theorem wellFormed_root : WellFormed (AList.insert [] .dir ∅ : FileSystem N) := by
  intro p present
  rw [Table.lookup_insert_eq] at present
  split at present
  · rename_i same
    rw [same]
    exact AList.lookup_insert _
  · exact absurd rfl present

theorem WellFormed.insert (whole : fs.WellFormed) {node : Node} (absent : fs.lookup p = none)
    (parent : fs.lookup p.dropLast = some .dir) : WellFormed (fs.insert p node) := by
  intro q present
  rw [Table.lookup_insert_eq] at present ⊢
  have inside : fs.lookup q.dropLast = some .dir := by
    split at present
    · rename_i same
      rw [same]
      exact parent
    · exact whole q present
  have other : q.dropLast ≠ p := by
    intro same
    rw [same, absent] at inside
    cases inside
  rw [if_neg other]
  exact inside

theorem WellFormed.erase (whole : fs.WellFormed) (leaf : ∀ name, fs.lookup (p ++ [name]) = none)
    (named : p ≠ []) :
    WellFormed (fs.erase p) := by
  intro q present
  rw [Table.lookup_erase_eq] at present ⊢
  split at present
  · exact absurd rfl present
  · rename_i other
    have front : q.dropLast ≠ p := by
      intro same
      rcases List.eq_nil_or_concat q with rfl | ⟨init, name, rfl⟩
      · exact named same.symm
      · rw [List.concat_eq_append, List.dropLast_concat] at same
        rw [List.concat_eq_append, same] at present
        exact present (leaf name)
    rw [if_neg front]
    exact whole q present

/-- With an empty directory goes every path through it. -/
theorem lookup_erase_parent (empty : ∀ name, fs.lookup (p.dropLast ++ [name]) = none)
    (named : p ≠ []) : (fs.erase p.dropLast).lookup p = none := by
  have absent := empty (p.getLast named)
  rw [List.dropLast_concat_getLast] at absent
  rw [Table.lookup_erase_eq, absent, ite_self]

theorem make_erase_parent (empty : ∀ name, fs.lookup (p.dropLast ++ [name]) = none)
    (named : p ≠ []) (node : Node) : make (fs.erase p.dropLast) p node = .error .notFound := by
  have gone : (fs.erase p.dropLast).lookup p.dropLast = none := AList.lookup_erase _ _
  rw [make, if_neg (by rw [lookup_erase_parent empty named]; simp), if_neg (by rw [gone]; simp)]

theorem openTruncate_erase_parent (empty : ∀ name, fs.lookup (p.dropLast ++ [name]) = none)
    (named : p ≠ []) (inode : Nat) :
    openTruncate (fs.erase p.dropLast) p inode = .error .notFound := by
  rw [openTruncate, lookup_erase_parent empty named]
  exact make_erase_parent empty named _

theorem WellFormed.leaf (whole : fs.WellFormed) {node : Node} (found : fs.lookup p = some node)
    (kind : node ≠ .dir) (name : N) : fs.lookup (p ++ [name]) = none := by
  by_contra present
  have parent := whole (p ++ [name]) present
  rw [List.dropLast_concat, found] at parent
  exact kind (Option.some.inj parent)

/-- All that is on the way to an entry is a directory. -/
theorem WellFormed.above (whole : fs.WellFormed) {rest : EntryPath N} (below : rest ≠ [])
    (present : fs.lookup (p ++ rest) ≠ none) :
    fs.lookup p = some .dir := by
  induction rest using List.reverseRecOn with
  | nil => exact absurd rfl below
  | append_singleton front name ih =>
    have parent := whole _ present
    rw [← List.append_assoc, List.dropLast_concat] at parent
    by_cases only : front = []
    · rwa [only, List.append_nil] at parent
    · exact ih only (by rw [parent]; exact Option.some_ne_none _)

theorem hardLink_file {inode : Nat} (found : fs.lookup p = some (.file inode)) :
    fs.hardLink p q = fs.make q (.file inode) := by
  rw [hardLink, found]

theorem unlink_file {inode : Nat} (found : fs.lookup p = some (.file inode)) :
    fs.unlink p = .ok (fs.erase p) := by
  rw [unlink, found]

end FileSystem
