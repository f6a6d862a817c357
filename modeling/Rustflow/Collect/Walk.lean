import Rustflow.Collect.Layout
import Mathlib.Logic.Relation

/-!
# What a walk over the tree finds

A walk visits the files in the directories that it reaches, and leaves each partition directory
after everything in it.
-/

namespace Rustflow.Collect.Layout
open FileSystem Relation

variable (calendar : Calendar) (layout : Layout) (fs : FileSystem OsStr) (range : TimeRange)

/-- `p` is a partition directory in `dir` whose period overlaps the range. -/
def Enters (dir p : PathBuf) : Prop :=
  ∃ name period, p = dir ++ [name] ∧ fs.lookup p = some .dir ∧
    layout.period calendar dir name.text = some period ∧
    period.overlaps range = true

/-- The entry is a file of this collector in `dir`. -/
def OwnFile (dir : PathBuf) (entry : Entry) : Prop :=
  ∃ name inode, entry.path = dir ++ [name] ∧ fs.lookup entry.path = some (.file inode) ∧
    layout.name calendar name.text = some (entry.window, entry.temporary)

variable {calendar layout fs range} {dir p : PathBuf} {entry : Entry} {visit : Visit}

theorem period_depth {name : List Char} {period : Period}
    (named : layout.period calendar dir name = some period) :
    dir.length + 1 ≤ layout.root.length + layout.partitioning.maxDepth := by
  unfold Layout.period at named
  obtain ⟨relative, inside, rest⟩ := Option.bind_eq_some_iff.mp named
  rw [Text.stripPrefix_eq_some] at inside
  dsimp only at rest
  split at rest
  · cases rest
  · rename_i shallow
    rw [List.length_append, List.length_map, List.length_singleton] at shallow
    rw [inside, List.length_append]
    omega

theorem Enters.depth (enters : Enters calendar layout fs range dir p) :
    p.length ≤ layout.root.length + layout.partitioning.maxDepth := by
  obtain ⟨name, period, rfl, -, named, -⟩ := enters
  rw [List.length_append]
  exact period_depth named

theorem mem_entries (whole : fs.WellFormed) {name : OsStr} {node : Node} :
    (name, node) ∈ (fs.readDir dir).getD [] ↔ fs.lookup (dir ++ [name]) = some node := by
  unfold readDir
  split
  · rw [Option.getD_some, mem_children]
  · rename_i missing
    refine ⟨fun mem => (by cases mem), fun there => absurd ?_ missing⟩
    have parent := whole (dir ++ [name]) (by rw [there]; exact Option.some_ne_none _)
    rw [List.dropLast_concat] at parent
    exact parent

theorem mem_visitEntry {below : PathBuf → List Visit} {name : OsStr} {node : Node}
    (there : fs.lookup (dir ++ [name]) = some node) :
    visit ∈ layout.visitEntry calendar range below dir name node ↔
      Enters calendar layout fs range dir (dir ++ [name]) ∧
        (visit ∈ below (dir ++ [name]) ∨ visit = .leaveDir (dir ++ [name])) ∨
      ∃ entry, visit = .file entry ∧ entry.path = dir ++ [name] ∧
        OwnFile calendar layout fs dir entry := by
  have single : ∀ name', dir ++ [name] = dir ++ [name'] → name' = name := fun name' same =>
    (List.cons.inj (List.append_cancel_left same)).1.symm
  unfold visitEntry
  cases node with
  | dir =>
    have noFile : ∀ entry, entry.path = dir ++ [name] → ¬ OwnFile calendar layout fs dir entry := by
      rintro entry here ⟨name', inode, -, file, -⟩
      rw [here, there] at file
      cases file
    dsimp only
    rcases named : layout.period calendar dir name.text with _ | period
    · refine iff_of_false List.not_mem_nil ?_
      rintro (⟨⟨name', period, same, -, named', -⟩, -⟩ | ⟨entry, -, here, own⟩)
      · rw [single name' same, named] at named'
        cases named'
      · exact noFile entry here own
    · dsimp only
      split
      · rename_i overlaps
        have enters : Enters calendar layout fs range dir (dir ++ [name]) :=
          ⟨name, period, rfl, there, named, overlaps⟩
        rw [List.mem_append, List.mem_singleton]
        refine ⟨fun mem => .inl ⟨enters, mem⟩, ?_⟩
        rintro (⟨-, mem⟩ | ⟨entry, -, here, own⟩)
        · exact mem
        · exact absurd own (noFile entry here)
      · rename_i apart
        refine iff_of_false List.not_mem_nil ?_
        rintro (⟨⟨name', period', same, -, named', overlaps⟩, -⟩ | ⟨entry, -, here, own⟩)
        · rw [single name' same, named] at named'
          cases named'
          exact apart overlaps
        · exact noFile entry here own
  | file inode =>
    have noDir : ¬ Enters calendar layout fs range dir (dir ++ [name]) := by
      rintro ⟨name', period, same, isDir, -, -⟩
      rw [there] at isDir
      cases isDir
    dsimp only
    rcases named : layout.name calendar name.text with _ | ⟨window, temporary⟩
    · refine iff_of_false List.not_mem_nil ?_
      rintro (⟨enters, -⟩ | ⟨entry, -, here, name', inode', same, -, named'⟩)
      · exact noDir enters
      · rw [single name' (here.symm.trans same), named] at named'
        cases named'
    · dsimp only
      rw [List.mem_singleton]
      constructor
      · rintro rfl
        exact .inr ⟨_, rfl, rfl, name, inode, rfl, there, named⟩
      · rintro (⟨enters, -⟩ | ⟨⟨path, window', temporary'⟩, rfl, here, name', inode', same,
          -, named'⟩)
        · exact absurd enters noDir
        · dsimp only at here same named'
          rw [single name' (here.symm.trans same), named] at named'
          cases named'
          rw [here]
  | other =>
    refine iff_of_false List.not_mem_nil ?_
    rintro (⟨⟨name', period, same, isDir, -, -⟩, -⟩ | ⟨entry, -, here, name', inode, -, file, -⟩)
    · rw [there] at isDir
      cases isDir
    · rw [here, there] at file
      cases file

theorem mem_walk (whole : fs.WellFormed) {fuel : Nat} :
    visit ∈ layout.walk calendar fs range (fuel + 1) dir ↔
      (∃ p, Enters calendar layout fs range dir p ∧
        (visit ∈ layout.walk calendar fs range fuel p ∨ visit = .leaveDir p)) ∨
      ∃ entry, visit = .file entry ∧ OwnFile calendar layout fs dir entry := by
  rw [walk, List.mem_flatMap]
  constructor
  · rintro ⟨⟨name, node⟩, mem, visited⟩
    rcases (mem_visitEntry ((mem_entries whole).mp mem)).mp visited with ⟨enters, rest⟩ | ⟨entry,
      same, -, own⟩
    · exact .inl ⟨_, enters, rest⟩
    · exact .inr ⟨entry, same, own⟩
  · rintro (⟨p, enters, rest⟩ | ⟨entry, same, own⟩)
    · have enters' := enters
      obtain ⟨name, period, rfl, there, -, -⟩ := enters
      exact ⟨(name, .dir), (mem_entries whole).mpr there,
        (mem_visitEntry there).mpr (.inl ⟨enters', rest⟩)⟩
    · have own' := own
      obtain ⟨name, inode, here, file, -⟩ := own
      rw [here] at file
      exact ⟨(name, .file inode), (mem_entries whole).mpr file,
        (mem_visitEntry file).mpr (.inr ⟨entry, same, here, own'⟩)⟩

/-- The fuel is enough for all directories below `dir`. -/
theorem mem_walk_file (whole : fs.WellFormed) {fuel : Nat}
    (shallow : dir.length ≤ layout.root.length + layout.partitioning.maxDepth)
    (enough : layout.root.length + layout.partitioning.maxDepth < dir.length + fuel) :
    .file entry ∈ layout.walk calendar fs range fuel dir ↔
      ∃ sub, ReflTransGen (Enters calendar layout fs range) dir sub ∧
        OwnFile calendar layout fs sub entry := by
  induction fuel generalizing dir with
  | zero => omega
  | succ fuel ih =>
    have deeper : ∀ p, Enters calendar layout fs range dir p →
        (.file entry ∈ layout.walk calendar fs range fuel p ↔
        ∃ sub, ReflTransGen (Enters calendar layout fs range) p sub ∧
          OwnFile calendar layout fs sub entry) := by
      intro p enters
      refine ih enters.depth ?_
      obtain ⟨name, period, rfl, -, -, -⟩ := enters
      rw [List.length_append, List.length_singleton]
      omega
    rw [mem_walk whole]
    constructor
    · rintro (⟨p, enters, mem | leave⟩ | ⟨entry', same, own⟩)
      · obtain ⟨sub, below, own⟩ := (deeper p enters).mp mem
        exact ⟨sub, .head enters below, own⟩
      · cases leave
      · cases same
        exact ⟨dir, .refl, own⟩
    · rintro ⟨sub, below, own⟩
      rcases ReflTransGen.cases_head below with rfl | ⟨p, enters, below⟩
      · exact .inr ⟨entry, rfl, own⟩
      · exact .inl ⟨p, enters, .inl ((deeper p enters).mpr ⟨sub, below, own⟩)⟩

theorem mem_walk_leaveDir (whole : fs.WellFormed) {fuel : Nat}
    (shallow : dir.length ≤ layout.root.length + layout.partitioning.maxDepth)
    (enough : layout.root.length + layout.partitioning.maxDepth < dir.length + fuel) :
    .leaveDir p ∈ layout.walk calendar fs range fuel dir ↔
      TransGen (Enters calendar layout fs range) dir p := by
  induction fuel generalizing dir with
  | zero => omega
  | succ fuel ih =>
    have deeper : ∀ q, Enters calendar layout fs range dir q →
        (.leaveDir p ∈ layout.walk calendar fs range fuel q ↔
        TransGen (Enters calendar layout fs range) q p) := by
      intro q enters
      refine ih enters.depth ?_
      obtain ⟨name, period, rfl, -, -, -⟩ := enters
      rw [List.length_append, List.length_singleton]
      omega
    rw [mem_walk whole]
    constructor
    · rintro (⟨q, enters, mem | leave⟩ | ⟨entry, same, -⟩)
      · exact .head enters ((deeper q enters).mp mem)
      · cases leave
        exact .single enters
      · cases same
    · intro below
      obtain ⟨q, enters, rest⟩ := TransGen.head'_iff.mp below
      refine .inl ⟨q, enters, ?_⟩
      rcases reflTransGen_iff_eq_or_transGen.mp rest with rfl | rest
      · exact .inr rfl
      · exact .inl ((deeper q enters).mpr rest)

/-! ### The order of the visits -/

def Visit.path : Visit → PathBuf
  | .file entry => entry.path
  | .leaveDir path => path

/-- All that is visited for an entry of `dir` is at it or below it. -/
theorem visitEntry_below {below : PathBuf → List Visit} {name : OsStr} {node : Node}
    (inside : ∀ visit ∈ below (dir ++ [name]), ∃ rest, visit.path = (dir ++ [name]) ++ rest)
    (visited : visit ∈ layout.visitEntry calendar range below dir name node) :
    ∃ rest, visit.path = dir ++ name :: rest := by
  unfold visitEntry at visited
  cases node with
  | dir =>
    dsimp only at visited
    split at visited
    · split at visited
      · rcases List.mem_append.mp visited with deeper | leave
        · obtain ⟨rest, same⟩ := inside visit deeper
          exact ⟨rest, same.trans (List.append_cons _ _ _).symm⟩
        · rw [List.mem_singleton.mp leave]
          exact ⟨[], rfl⟩
      · cases visited
    · cases visited
  | file inode =>
    dsimp only at visited
    split at visited
    · rw [List.mem_singleton.mp visited]
      exact ⟨[], rfl⟩
    · cases visited
  | other => cases visited

theorem walk_below {fuel : Nat} (visited : visit ∈ layout.walk calendar fs range fuel dir) :
    ∃ name rest, visit.path = dir ++ name :: rest := by
  induction fuel generalizing dir visit with
  | zero => cases visited
  | succ fuel ih =>
    obtain ⟨⟨name, node⟩, -, mem⟩ := List.mem_flatMap.mp visited
    refine ⟨name, visitEntry_below (fun visit deeper => ?_) mem⟩
    obtain ⟨name', rest, same⟩ := ih deeper
    exact ⟨name' :: rest, same⟩

/-- No path is visited twice, and none after the directory that holds it. -/
theorem walk_order (fuel : Nat) (dir : PathBuf) :
    (layout.walk calendar fs range fuel dir).Pairwise fun a b => b.path ≠ a.path ∧
      ∀ name, b.path ≠ a.path ++ [name] := by
  induction fuel generalizing dir with
  | zero => exact .nil
  | succ fuel ih =>
    have inside : ∀ name : OsStr, ∀ visit ∈ layout.walk calendar fs range fuel (dir ++ [name]),
        ∃ rest, visit.path = (dir ++ [name]) ++ rest := by
      intro name visit deeper
      obtain ⟨name', rest, same⟩ := walk_below deeper
      exact ⟨name' :: rest, same⟩
    rw [walk, List.pairwise_flatMap]
    constructor
    · rintro ⟨name, node⟩ -
      unfold visitEntry
      cases node with
      | dir =>
        dsimp only
        split
        · split
          · refine List.pairwise_append.mpr ⟨ih _, List.pairwise_singleton _ _,
              fun a deeper b leave => ?_⟩
            -- The directory itself is left last, and its path is shorter than all below it.
            obtain ⟨name', rest, same⟩ := walk_below deeper
            rw [List.mem_singleton.mp leave, same]
            refine ⟨fun equal => ?_, fun name'' equal => ?_⟩
            all_goals
              have lengths := congrArg List.length equal
              simp [Visit.path] at lengths
          · exact .nil
        · exact .nil
      | file inode =>
        dsimp only
        split
        · exact List.pairwise_singleton _ _
        · exact .nil
      | other => exact .nil
    · have distinct : ((fs.readDir dir).getD []).Pairwise (·.1 ≠ ·.1) := by
        unfold readDir
        split
        · exact children_distinct
        · exact .nil
      refine distinct.imp fun {a b} ne x first y second => ?_
      obtain ⟨rest, same⟩ := visitEntry_below (inside a.1) first
      obtain ⟨rest', same'⟩ := visitEntry_below (inside b.1) second
      rw [same, same']
      refine ⟨fun equal => ne ?_, fun name equal => ne ?_⟩
      · exact (List.cons.inj (List.append_cancel_left equal)).1.symm
      · rw [List.append_assoc, List.cons_append] at equal
        exact (List.cons.inj (List.append_cancel_left equal)).1.symm

/-! ### The files and directories of a range -/

/-- A directory that a walk from the root looks into. -/
def Reached (calendar : Calendar) (layout : Layout) (fs : FileSystem OsStr) (range : TimeRange) :
    PathBuf → Prop :=
  ReflTransGen (Enters calendar layout fs range) layout.root

theorem mem_visits_file (whole : fs.WellFormed) :
    .file entry ∈ layout.visits calendar fs range ↔
      ∃ dir, Reached calendar layout fs range dir ∧ OwnFile calendar layout fs dir entry :=
  mem_walk_file whole (Nat.le_add_right _ _) (by omega)

theorem mem_files (whole : fs.WellFormed) :
    entry ∈ layout.files calendar fs range ↔
      range.contains entry.window.timestamp = true ∧
      ∃ dir, Reached calendar layout fs range dir ∧ OwnFile calendar layout fs dir entry := by
  rw [files, List.mem_filterMap, ← mem_visits_file whole]
  constructor
  · rintro ⟨visit, visited, kept⟩
    cases visit with
    | file found =>
      dsimp only at kept
      split at kept
      · rename_i inside
        cases kept
        exact ⟨inside, visited⟩
      · cases kept
    | leaveDir path => cases kept
  · rintro ⟨inside, visited⟩
    exact ⟨.file entry, visited, if_pos inside⟩

theorem mem_dirs (whole : fs.WellFormed) :
    p ∈ layout.dirs calendar fs range ↔
      TransGen (Enters calendar layout fs range) layout.root p := by
  have visited : .leaveDir p ∈ layout.visits calendar fs range ↔
      TransGen (Enters calendar layout fs range) layout.root p :=
    mem_walk_leaveDir whole (Nat.le_add_right _ _) (by omega)
  rw [dirs, List.mem_filterMap, ← visited]
  constructor
  · rintro ⟨visit, visited, kept⟩
    cases visit with
    | file found => cases kept
    | leaveDir path =>
      cases kept
      exact visited
  · intro visited
    exact ⟨.leaveDir p, visited, rfl⟩

theorem files_distinct : (layout.files calendar fs range).Pairwise (·.path ≠ ·.path) := by
  refine (walk_order _ _).filterMap _ fun a b apart x first y second => ?_
  cases a with
  | leaveDir path => cases first
  | file found =>
    cases b with
    | leaveDir path => cases second
    | file found' =>
      dsimp only at first second
      split at first <;> cases first
      split at second <;> cases second
      exact fun same => apart.1 same.symm

theorem dirs_bottomUp :
    (layout.dirs calendar fs range).Pairwise fun a b => ∀ name, b ≠ a ++ [name] := by
  refine (walk_order _ _).filterMap _ fun a b apart x first y second => ?_
  cases a with
  | file found => cases first
  | leaveDir path =>
    cases b with
    | file found => cases second
    | leaveDir path' =>
      cases first
      cases second
      exact apart.2

/-! ### Whatever the tree -/

theorem walk_named {fuel : Nat} (visited : .file entry ∈ layout.walk calendar fs range fuel dir) :
    ∃ (parent : PathBuf) (name : OsStr), entry.path = parent ++ [name] ∧
      layout.name calendar name.text = some (entry.window, entry.temporary) := by
  induction fuel generalizing dir with
  | zero => cases visited
  | succ fuel ih =>
    obtain ⟨⟨name, node⟩, -, mem⟩ := List.mem_flatMap.mp visited
    unfold visitEntry at mem
    cases node with
    | dir =>
      dsimp only at mem
      split at mem
      · split at mem
        · rcases List.mem_append.mp mem with deeper | leave
          · exact ih deeper
          · cases List.mem_singleton.mp leave
        · cases mem
      · cases mem
    | file inode =>
      dsimp only at mem
      split at mem
      · rename_i named
        cases List.mem_singleton.mp mem
        exact ⟨dir, name, rfl, named⟩
      · cases mem
    | other => cases mem

theorem mem_files_named (inside : entry ∈ layout.files calendar fs range) :
    range.contains entry.window.timestamp = true ∧ ∃ (parent : PathBuf) (name : OsStr), entry.path =
      parent ++ [name] ∧
      layout.name calendar name.text = some (entry.window, entry.temporary) := by
  obtain ⟨visit, visited, kept⟩ := List.mem_filterMap.mp inside
  cases visit with
  | leaveDir path => cases kept
  | file found =>
    dsimp only at kept
    split at kept
    · rename_i contained
      cases kept
      exact ⟨contained, walk_named visited⟩
    · cases kept

theorem mem_dirs_named (inside : p ∈ layout.dirs calendar fs range) : p ≠ [] := by
  obtain ⟨visit, visited, kept⟩ := List.mem_filterMap.mp inside
  cases visit with
  | file found => cases kept
  | leaveDir path =>
    cases kept
    obtain ⟨name, rest, same⟩ := walk_below visited
    dsimp only [Visit.path] at same
    rw [same]
    exact List.append_ne_nil_of_right_ne_nil _ (List.cons_ne_nil _ _)

end Rustflow.Collect.Layout
