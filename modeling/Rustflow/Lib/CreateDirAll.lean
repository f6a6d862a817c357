import Rustflow.Lib.FileSystem

/-!
# Making a directory and all above it

`create_dir_all` of the standard library, one call on the file system at a time: it tries the
directory itself, goes up to the first parent that can be made or is there, and comes down again.
It is not atomic, and each step down needs the directory of the step before.
-/

/-- `below` are the directories still to be made after `path`, each in the one before. -/
inductive CreateDirAll (N : Type) where
  | mkdir (path : EntryPath N) (below : List (EntryPath N))
  /-- Tried once more, in the parent that was made for it. -/
  | again (path : EntryPath N) (below : List (EntryPath N))
  /-- It could not be made: whether it is there after all. -/
  | check (path : EntryPath N) (below : List (EntryPath N)) (e : Errno)
  | done
  | failed (e : Errno)

namespace CreateDirAll
variable {N : Type}

def start (path : EntryPath N) : CreateDirAll N := .mkdir path []

/-- A directory is there. -/
def down : List (EntryPath N) → CreateDirAll N
  | [] => .done
  | path :: below => .again path below

variable [DecidableEq N]

def step (fs : FileSystem N) : CreateDirAll N → FileSystem N × CreateDirAll N
  | .mkdir path below =>
    match fs.mkdir path with
    | .ok fs => (fs, down below)
    | .error .notFound =>
      (fs, if path = [] then .failed .notFound else .mkdir path.dropLast (path :: below))
    | .error e => (fs, .check path below e)
  | .again path below =>
    match fs.mkdir path with
    | .ok fs => (fs, down below)
    | .error e => (fs, .check path below e)
  | .check path below e => (fs, if fs.lookup path = some .dir then down below else .failed e)
  | .done => (fs, .done)
  | .failed e => (fs, .failed e)

/-- The directory that the next call counts on. -/
def needs : CreateDirAll N → Option (EntryPath N)
  | .again path _ => some path.dropLast
  | .check path _ _ => some path
  | _ => none

/-- The directories after `path` lead to the target. -/
def Leads (target : EntryPath N) : EntryPath N → List (EntryPath N) → Prop
  | path, [] => path = target
  | path, next :: below => next ≠ [] ∧ next.dropLast = path ∧ Leads target next below

/-- What is needed on the way to the target is there. -/
def Sound (fs : FileSystem N) (target : EntryPath N) : CreateDirAll N → Prop
  | .mkdir path below => Leads target path below
  | .again path below => path ≠ [] ∧ Leads target path below ∧ fs.lookup path.dropLast = some .dir
  | .check path below _ => Leads target path below ∧ fs.lookup path = some .dir
  | .done => fs.lookup target = some .dir
  | .failed _ => False

variable {fs fs' : FileSystem N} {target path : EntryPath N} {below : List (EntryPath N)}
  {self : CreateDirAll N}

omit [DecidableEq N] in
theorem Leads.prefix (leads : Leads target path below) : path <+: target := by
  induction below generalizing path with
  | nil =>
    cases leads
    exact List.prefix_rfl
  | cons next below ih =>
    obtain ⟨-, rfl, rest⟩ := leads
    exact (List.dropLast_prefix next).trans (ih rest)

theorem down_sound (leads : Leads target path below) (there : fs.lookup path = some .dir) :
    Sound fs target (down below) := by
  cases below with
  | nil =>
    cases leads
    exact there
  | cons next below =>
    obtain ⟨named, rfl, rest⟩ := leads
    exact ⟨named, rest, there⟩

/-- Another tree will do as long as it has what is needed. -/
theorem Sound.keep (sound : Sound fs target self)
    (same : ∀ p, self.needs = some p → fs'.lookup p = fs.lookup p) (unfinished : self ≠ .done) :
    Sound fs' target self := by
  cases self with
  | mkdir path below => exact sound
  | again path below => exact ⟨sound.1, sound.2.1, (same _ rfl).trans sound.2.2⟩
  | check path below e => exact ⟨sound.1, (same _ rfl).trans sound.2⟩
  | done => exact absurd rfl unfinished
  | failed e => exact sound

/-- With nothing but directories on the way, each call comes closer and only makes directories. -/
theorem step_sound (whole : fs.WellFormed) (root : fs.lookup [] = some .dir)
    (clear : ∀ q, q <+: target → fs.lookup q = none ∨ fs.lookup q = some .dir)
    (sound : Sound fs target self) :
    (self.step fs).1.WellFormed ∧ Sound (self.step fs).1 target (self.step fs).2 ∧
      ∀ q, (self.step fs).1.lookup q = fs.lookup q ∨
        fs.lookup q = none ∧ q <+: target ∧ (self.step fs).1.lookup q = some .dir := by
  have makes : ∀ {path below}, Leads target path below → fs.lookup path = none →
      fs.lookup path.dropLast = some .dir →
      FileSystem.WellFormed (fs.insert path .dir) ∧
        Sound (fs.insert path .dir) target (down below) ∧
      ∀ q, AList.lookup q (fs.insert path .dir) = fs.lookup q ∨
        fs.lookup q = none ∧ q <+: target ∧ AList.lookup q (fs.insert path .dir) = some .dir := by
    intro path below leads absent parent
    refine ⟨whole.insert absent parent, down_sound leads (AList.lookup_insert _), fun q => ?_⟩
    rw [Table.lookup_insert_eq]
    split
    · rename_i same
      rw [same]
      exact .inr ⟨absent, leads.prefix, rfl⟩
    · exact .inl rfl
  have there : ∀ {path below}, Leads target path below → fs.lookup path ≠ none →
      fs.lookup path = some .dir :=
    fun leads present => (clear _ leads.prefix).resolve_left present
  cases self with
  | mkdir path below =>
    unfold step
    dsimp only
    rcases FileSystem.make_cases fs path .dir with ⟨absent,
      parent, made⟩ | ⟨present, refused⟩ | ⟨missing, refused⟩
    · rw [FileSystem.mkdir, made]
      exact makes sound absent parent
    · rw [FileSystem.mkdir, refused]
      exact ⟨whole, ⟨sound, there sound present⟩, fun _ => .inl rfl⟩
    · rw [FileSystem.mkdir, refused]
      dsimp only
      have named : path ≠ [] := by
        rintro rfl
        exact missing root
      rw [if_neg named]
      exact ⟨whole, ⟨named, rfl, sound⟩, fun _ => .inl rfl⟩
  | again path below =>
    obtain ⟨named, leads, parent⟩ := sound
    unfold step
    dsimp only
    rcases FileSystem.make_cases fs path .dir
      with ⟨absent, -, made⟩ | ⟨present, refused⟩ | ⟨missing, refused⟩
    · rw [FileSystem.mkdir, made]
      exact makes leads absent parent
    · rw [FileSystem.mkdir, refused]
      exact ⟨whole, ⟨leads, there leads present⟩, fun _ => .inl rfl⟩
    · exact absurd parent missing
  | check path below e =>
    obtain ⟨leads, isDir⟩ := sound
    unfold step
    dsimp only
    rw [if_pos isDir]
    exact ⟨whole, down_sound leads isDir, fun _ => .inl rfl⟩
  | done => exact ⟨whole, sound, fun _ => .inl rfl⟩
  | failed e => exact sound.elim

end CreateDirAll
