import Rustflow.Collect.Expiry
import Rustflow.Collect.Gregorian
import Rustflow.Collect.OwnNames
import Rustflow.Lib.CreateDirAll

/-!
# A sweep while windows are opened

One sweep of the expiry thread and the sink that opens and closes windows in the same tree, in any
interleaving of their calls on the file system. The sweep keeps off what is not old by its name. It
may take away a directory that was just made, or found empty, before the file is in it.
-/

namespace Rustflow.Collect
open FileSystem Text

inductive SinkPhase where
  /-- No window is open. -/
  | idle
  /-- The directories of the window are being made. -/
  | making (pending : PendingRename) (dirs : CreateDirAll OsStr)
  | creating (pending : PendingRename)
  | writing (pending : PendingRename)
  /-- The window is closed and its file gets its final name. -/
  | claiming (pending : PendingRename) (claim : Claim)

inductive SweepPhase where
  | begun
  | unlinking (left : List Entry)
  | pruning (left : List PathBuf)

/-- `errors` and `finals` are records that nothing reads: why openings failed, and the final
names. -/
structure Race where
  fs : FileSystem OsStr
  sink : SinkPhase
  sweep : SweepPhase
  errors : List Errno
  finals : List PathBuf

/-- What does not change while the two run. -/
structure Setting where
  calendar : Calendar
  layout : Layout
  pid : Nat
  intervalSecs : Int
  cutoff : Int

def Setting.pending (self : Setting) (now : DateTime) : PendingRename :=
  Destination.pendingFor self.calendar self.pid self.layout
    (Destination.windowStamp self.intervalSecs now)

inductive RaceStep where
  /-- The sink has a record for a new window. -/
  | opens (now : DateTime)
  /-- The next call of the sink. A file that it creates gets the inode. -/
  | sinks (inode : Nat)
  /-- The sweep has read all directories of a walk, each as it was when it was read. -/
  | lists (seen : FileSystem OsStr)
  /-- The next removal of the sweep. -/
  | sweeps

namespace Race

def sinkStep (self : Race) (inode : Nat) : Option Race :=
  match self.sink with
  | .idle => none
  | .making pending dirs =>
    let (fs, dirs) := dirs.step self.fs
    match dirs with
    | .done => some { self with fs, sink := .creating pending }
    | .failed e => some { self with fs, sink := .idle, errors := self.errors ++ [e] }
    | dirs => some { self with fs, sink := .making pending dirs }
  | .creating pending =>
    match self.fs.openTruncate pending.tmp inode with
    | .ok fs => some { self with fs, sink := .writing pending }
    | .error e => some { self with sink := .idle, errors := self.errors ++ [e] }
  | .writing pending => some { self with sink := .claiming pending (.start pending.finalPath) }
  | .claiming pending claim =>
    let (fs, claim) := claim.step pending.tmp pending.finalPath false self.fs
    match claim with
    | .done (.ok path) => some { self with fs, sink := .idle, finals := self.finals ++ [path] }
    | .done (.error _) => some { self with fs, sink := .idle }
    | claim => some { self with fs, sink := .claiming pending claim }

/-- `none` where the step cannot be taken. -/
def step (setting : Setting) (self : Race) : RaceStep → Option Race
  | .opens now =>
    match self.sink with
    | .idle =>
      let pending := setting.pending now
      some { self with sink := .making pending (.start pending.tmp.dropLast) }
    | _ => none
  | .sinks inode => self.sinkStep inode
  | .lists seen =>
    match self.sweep with
    | .begun =>
      some { self with sweep := .unlinking (setting.layout.files setting.calendar seen
        (.before setting.cutoff)) }
    | .unlinking [] =>
      some { self with sweep := .pruning (setting.layout.dirs setting.calendar seen
        (.before setting.cutoff)) }
    | _ => none
  | .sweeps =>
    match self.sweep with
    | .unlinking (entry :: left) =>
      some { self with fs := (removeFile self.fs entry.path).1, sweep := .unlinking left }
    | .pruning (dir :: left) => some { self with fs := self.fs.prune dir, sweep := .pruning left }
    | _ => none

def run (setting : Setting) (self : Race) (steps : List RaceStep) : Option Race :=
  steps.foldlM (step setting) self

def start (fs : FileSystem OsStr) : Race :=
  { fs, sink := .idle, sweep := .begun, errors := [], finals := [] }

end Race

/-! ### What the two count on -/

/-- The temporary file that is there. -/
def SinkPhase.written : SinkPhase → Option PathBuf
  | .writing pending => some pending.tmp
  | .claiming pending _ => some pending.tmp
  | _ => none

/-- The directory that the next call of the sink counts on. -/
def SinkPhase.needs : SinkPhase → Option PathBuf
  | .making _ dirs => dirs.needs
  | .creating pending => some pending.tmp.dropLast
  | _ => none

/-- Every window could be opened, and the files of the sink are there. -/
structure Race.Unbroken (s : Race) : Prop where
  opened : s.errors = []
  temporary : ∀ path, s.sink.written = some path → ∃ inode, s.fs.lookup path = some (.file inode)
  final : ∀ path ∈ s.finals, ∃ inode, s.fs.lookup path = some (.file inode)

/-- Nothing but directories is where the directories of a file go, and nothing but a file where it
goes. -/
def Clear (fs : FileSystem OsStr) (path : PathBuf) : Prop :=
  (∀ q, q <+: path.dropLast → fs.lookup q = none ∨ fs.lookup q = some .dir) ∧
  (fs.lookup path = none ∨ ∃ inode, fs.lookup path = some (.file inode))

/-- A window starts at or after the cutoff where nothing is in its way, and the sweep does not take
the directory from the sink that it counts on. -/
def Race.Fits (setting : Setting) (s : Race) : RaceStep → Prop
  | .opens now =>
    let stamp := Destination.windowStamp setting.intervalSecs now
    setting.cutoff ≤ stamp.timestamp ∧ setting.calendar.ReadsBack stamp ∧
      Clear s.fs (setting.pending now).tmp
  | .sweeps => ∀ dir left, s.sweep = .pruning (dir :: left) → s.sink.needs = some dir →
    ∃ name, s.fs.lookup (dir ++ [name]) ≠ none
  | _ => True

def Race.FitsRun (setting : Setting) (s : Race) : List RaceStep → Prop
  | [] => True
  | step :: steps =>
    s.Fits setting step ∧ ∀ s', s.step setting step = some s' → s'.FitsRun setting steps

/-- The path is not of a window before the cutoff. -/
def Setting.Current (setting : Setting) (path : PathBuf) : Prop :=
  ∃ stamp, setting.cutoff ≤ stamp.timestamp ∧ Carries setting.calendar setting.layout stamp path

def Setting.Own (setting : Setting) (pending : PendingRename) : Prop :=
  ∃ stamp, setting.cutoff ≤ stamp.timestamp ∧ setting.calendar.ReadsBack stamp ∧
    pending = Destination.pendingFor setting.calendar setting.pid setting.layout stamp

def Setting.Final (setting : Setting) (path : PathBuf) : Prop :=
  ∃ pending, setting.Own pending ∧ path ∈ candidates pending.finalPath

def Setting.Old (setting : Setting) (entry : Entry) : Prop :=
  ∃ (dir : PathBuf) (name : OsStr), entry.path = dir ++ [name] ∧
    setting.layout.name setting.calendar name.text = some (entry.window, entry.temporary) ∧
    entry.window.timestamp < setting.cutoff

section
variable {setting : Setting} {fs fs' : FileSystem OsStr} {path : PathBuf} {pending : PendingRename}
  {entry : Entry}

theorem Setting.Own.current (own : setting.Own pending) : setting.Current pending.tmp := by
  obtain ⟨stamp, late, reads, rfl⟩ := own
  exact ⟨stamp, late, carries_tempPath reads setting.pid⟩

theorem Setting.Final.current (final : setting.Final path) : setting.Current path := by
  obtain ⟨_, ⟨stamp, late, reads, rfl⟩, inside⟩ := final
  exact ⟨stamp, late, carries_candidate reads inside⟩

theorem Setting.Final.ne_tmp (final : setting.Final path) (own : setting.Own pending) :
    path ≠ pending.tmp := by
  obtain ⟨_, ⟨stamp, -, -, rfl⟩, inside⟩ := final
  obtain ⟨other, -, -, rfl⟩ := own
  exact candidate_ne_tempPath inside setting.pid other

theorem Setting.Own.dropLast (own : setting.Own pending) :
    pending.tmp.dropLast = pending.finalPath.dropLast := by
  obtain ⟨stamp, -, -, rfl⟩ := own
  exact tempPath_dropLast setting.pid _

theorem Setting.Own.named (own : setting.Own pending) : pending.tmp ≠ [] := by
  obtain ⟨stamp, -, -, rfl⟩ := own
  exact List.append_ne_nil_of_right_ne_nil _ (List.cons_ne_nil _ _)

theorem Setting.Old.ne_current (old : setting.Old entry) (current : setting.Current path) :
    entry.path ≠ path := by
  rintro rfl
  obtain ⟨dir, name, same, named, early⟩ := old
  obtain ⟨stamp, late, carries⟩ := current
  rw [carries dir name _ _ same named] at early
  omega

def Claim.InPlace (fs : FileSystem OsStr) (finalPath : PathBuf) (inode : Nat) : Claim → Prop
  | .link left => left ⊆ candidates finalPath
  | .unlink path => path ∈ candidates finalPath ∧ fs.lookup path = some (.file inode)
  | _ => False

def SinkPhase.Sound (setting : Setting) (fs : FileSystem OsStr) : SinkPhase → Prop
  | .idle => True
  | .making pending dirs =>
    setting.Own pending ∧ Clear fs pending.tmp ∧ CreateDirAll.Sound fs pending.tmp.dropLast dirs ∧
      dirs ≠ .done
  | .creating pending =>
    setting.Own pending ∧ fs.lookup pending.tmp.dropLast = some .dir ∧
      (fs.lookup pending.tmp = none ∨ ∃ inode, fs.lookup pending.tmp = some (.file inode))
  | .writing pending => setting.Own pending ∧ ∃ inode, fs.lookup pending.tmp = some (.file inode)
  | .claiming pending claim =>
    setting.Own pending ∧ ∃ inode, fs.lookup pending.tmp = some (.file inode) ∧
      claim.InPlace fs pending.finalPath inode

structure Race.Sound (setting : Setting) (s : Race) : Prop where
  whole : s.fs.WellFormed
  root : s.fs.lookup [] = some .dir
  errors : s.errors = []
  sink : s.sink.Sound setting s.fs
  finals : ∀ path ∈ s.finals, setting.Final path ∧ ∃ inode, s.fs.lookup path = some (.file inode)
  unlinking : ∀ left, s.sweep = .unlinking left → ∀ entry ∈ left, setting.Old entry
  pruning : ∀ left, s.sweep = .pruning left → ∀ dir ∈ left, dir ≠ []

/-- Removals leave the sink sound that keep off what is current and what it counts on. -/
theorem SinkPhase.Sound.keep {phase : SinkPhase} (sound : phase.Sound setting fs)
    (less : ∀ q, fs'.lookup q = fs.lookup q ∨ fs'.lookup q = none)
    (needed : ∀ q, phase.needs = some q → fs'.lookup q = fs.lookup q)
    (files : ∀ q inode, setting.Current q → fs.lookup q = some (.file inode) →
      fs'.lookup q = some (.file inode)) :
    phase.Sound setting fs' := by
  have free : ∀ q, fs.lookup q = none ∨ (∃ inode, fs.lookup q = some (.file inode)) →
      fs'.lookup q = none ∨ ∃ inode, fs'.lookup q = some (.file inode) := by
    intro q before
    rcases less q with same | gone
    · rw [same]
      exact before
    · exact .inl gone
  cases phase with
  | idle => trivial
  | making pending dirs =>
    obtain ⟨own, ⟨dirsClear, fileClear⟩, dirsSound, unfinished⟩ := sound
    refine ⟨own, ⟨fun q leads => ?_, free _ fileClear⟩, dirsSound.keep needed unfinished,
      unfinished⟩
    rcases less q with same | gone
    · rw [same]
      exact dirsClear q leads
    · exact .inl gone
  | creating pending =>
    obtain ⟨own, parent, fileClear⟩ := sound
    exact ⟨own, (needed _ rfl).trans parent, free _ fileClear⟩
  | writing pending =>
    obtain ⟨own, inode, there⟩ := sound
    exact ⟨own, inode, files _ inode own.current there⟩
  | claiming pending claim =>
    obtain ⟨own, inode, there, place⟩ := sound
    refine ⟨own, inode, files _ inode own.current there, ?_⟩
    cases claim with
    | link left => exact place
    | unlink path =>
      have final : setting.Final path := ⟨pending, own, place.1⟩
      exact ⟨place.1, files _ inode final.current place.2⟩
    | look left => exact place
    | rename target => exact place
    | done result => exact place

variable {s s' : Race}

theorem opens_sound (sound : s.Sound setting) {now : DateTime} (fits : s.Fits setting (.opens now))
    (taken : s.step setting (.opens now) = some s') : s'.Sound setting := by
  obtain ⟨late, reads, clear⟩ := fits
  unfold Race.step at taken
  dsimp only at taken
  split at taken
  · cases taken
    have own : setting.Own (setting.pending now) := ⟨_, late, reads, rfl⟩
    exact { sound with sink := ⟨own, clear, rfl, by simp [CreateDirAll.start]⟩ }
  · cases taken

theorem lists_sound (sound : s.Sound setting) {seen : FileSystem OsStr}
    (taken : s.step setting (.lists seen) = some s') :
    s'.Sound setting := by
  unfold Race.step at taken
  dsimp only at taken
  split at taken
  · cases taken
    refine { sound with unlinking := ?_, pruning := fun left same => (by cases same) }
    rintro _ ⟨⟩ entry inside
    obtain ⟨early, parent, name, same, named⟩ := Layout.mem_files_named inside
    refine ⟨parent, name, same, named, ?_⟩
    simpa [TimeRange.before, TimeRange.contains] using early
  · cases taken
    refine { sound with unlinking := fun left same => (by cases same), pruning := ?_ }
    rintro _ ⟨⟩ dir inside
    exact Layout.mem_dirs_named inside
  · cases taken

theorem removeFile_cases (fs : FileSystem OsStr) (path : PathBuf) :
    (removeFile fs path).1 = fs ∨ (removeFile fs path).1 = fs.erase path ∧ ∃ node, fs.lookup path =
      some node ∧ node ≠ .dir := by
  unfold removeFile
  split
  · rename_i fs' removed
    obtain ⟨there, rfl⟩ := unlink_eq_ok.mp removed
    exact .inr ⟨rfl, there⟩
  · exact .inl rfl
  · exact .inl rfl

theorem SinkPhase.Sound.needs_dir {phase : SinkPhase} (sound : phase.Sound setting fs)
    (needed : phase.needs = some path) :
    fs.lookup path = some .dir := by
  cases phase with
  | idle => cases needed
  | making pending dirs =>
    obtain ⟨-, -, dirsSound, -⟩ := sound
    cases dirs with
    | mkdir path below => cases needed
    | again path below =>
      cases needed
      exact dirsSound.2.2
    | check path below e =>
      cases needed
      exact dirsSound.2
    | done => cases needed
    | failed e => cases needed
  | creating pending =>
    cases needed
    exact sound.2.1
  | writing pending => cases needed
  | claiming pending claim => cases needed

/-- One entry less, which is not current and which the sink does not count on. -/
theorem Race.Sound.erase (sound : s.Sound setting) {p : PathBuf} {sweep : SweepPhase}
    (named : p ≠ []) (leaf : ∀ name, s.fs.lookup (p ++ [name]) = none)
    (unneeded : s.sink.needs ≠ some p)
    (stale : ∀ q inode, setting.Current q → s.fs.lookup q = some (.file inode) → q ≠ p)
    (unlinking : ∀ left, sweep = .unlinking left → ∀ entry ∈ left, setting.Old entry)
    (pruning : ∀ left, sweep = .pruning left → ∀ dir ∈ left, dir ≠ []) :
    Race.Sound setting { s with fs := s.fs.erase p, sweep } := by
  have files : ∀ q inode, setting.Current q → s.fs.lookup q = some (.file inode) →
      AList.lookup q (s.fs.erase p) = some (.file inode) := by
    intro q inode current found
    rw [Table.lookup_erase_eq, if_neg (stale q inode current found), found]
  refine ⟨sound.whole.erase leaf named, (AList.lookup_erase_ne (Ne.symm named)).trans sound.root,
    sound.errors, ?_, ?_, unlinking, pruning⟩
  · refine sound.sink.keep (fun q => ?_) (fun q needed => ?_) files
    · rw [Table.lookup_erase_eq]
      split
      · exact .inr rfl
      · exact .inl rfl
    · rw [Table.lookup_erase_eq, if_neg]
      rintro rfl
      exact unneeded needed
  · intro path inside
    obtain ⟨final, inode, there⟩ := sound.finals path inside
    exact ⟨final, inode, files path inode final.current there⟩

/-- A removal of the sweep, other than of a directory that the sink counts on. -/
theorem sweeps_sound (sound : s.Sound setting) (fits : s.Fits setting .sweeps)
    (taken : s.step setting .sweeps = some s') : s'.Sound setting := by
  unfold Race.step at taken
  dsimp only at taken
  split at taken
  · rename_i entry left removing
    cases taken
    have old := sound.unlinking _ removing entry List.mem_cons_self
    have rest : ∀ later, SweepPhase.unlinking left = .unlinking later →
        ∀ entry ∈ later, setting.Old entry := by
      rintro _ ⟨⟩ entry inside
      exact sound.unlinking _ removing entry (List.mem_cons_of_mem _ inside)
    rcases removeFile_cases s.fs entry.path with same | ⟨erased, node, there, kind⟩
    · rw [same]
      exact { sound with unlinking := rest, pruning := fun left same => (by cases same) }
    · rw [erased]
      refine sound.erase ?_ (sound.whole.leaf there kind) ?_ ?_ rest
        fun left same => (by cases same)
      · intro root
        rw [root, sound.root] at there
        exact kind (Option.some.inj there).symm
      · intro needed
        rw [sound.sink.needs_dir needed] at there
        exact kind (Option.some.inj there).symm
      · intro q inode current _ same
        exact old.ne_current current same.symm
  · rename_i dir left removing
    cases taken
    have rest : ∀ later, SweepPhase.pruning left = .pruning later → ∀ dir ∈ later, dir ≠ [] := by
      rintro _ ⟨⟩ dir inside
      exact sound.pruning _ removing dir (List.mem_cons_of_mem _ inside)
    by_cases empty : s.fs.lookup dir = some .dir ∧ ∀ name, s.fs.lookup (dir ++ [name]) = none
    · rw [prune_of_empty empty.1 empty.2]
      refine sound.erase (sound.pruning _ removing dir List.mem_cons_self) empty.2 ?_ ?_
        (fun left same => (by cases same)) rest
      · intro needed
        obtain ⟨name, present⟩ := fits dir left removing needed
        exact present (empty.2 name)
      · rintro q inode _ found rfl
        rw [empty.1] at found
        cases found
    · rw [prune_of_not empty]
      exact { sound with unlinking := fun left same => (by cases same), pruning := rest }
  · cases taken

/-- More entries, and a sink that is sound with them. -/
theorem Race.Sound.grow (sound : s.Sound setting) {sink : SinkPhase} (whole : fs.WellFormed)
    (kept : ∀ q, s.fs.lookup q ≠ none → fs.lookup q = s.fs.lookup q)
    (next : sink.Sound setting fs) :
    Race.Sound setting { s with fs, sink } where
  whole := whole
  root := (kept [] (by rw [sound.root]; exact Option.some_ne_none _)).trans sound.root
  errors := sound.errors
  sink := next
  finals path inside := by
    obtain ⟨final, inode, there⟩ := sound.finals path inside
    exact ⟨final, inode, by rw [kept path (by rw [there]; exact Option.some_ne_none _), there]⟩
  unlinking := sound.unlinking
  pruning := sound.pruning

theorem making_sound (sound : s.Sound setting) {dirs : CreateDirAll OsStr}
    (phase : s.sink = .making pending dirs) {inode : Nat} (taken : s.sinkStep inode = some s') :
    s'.Sound setting := by
  have sinkSound := sound.sink
  rw [phase] at sinkSound
  obtain ⟨own, ⟨dirsClear, fileClear⟩, dirsSound, -⟩ := sinkSound
  obtain ⟨whole, next, change⟩ := CreateDirAll.step_sound sound.whole sound.root dirsClear dirsSound
  unfold Race.sinkStep at taken
  rw [phase] at taken
  dsimp only at taken
  generalize dirs.step s.fs = result at taken whole next change
  obtain ⟨fs, after⟩ := result
  have kept : ∀ q, s.fs.lookup q ≠ none → fs.lookup q = s.fs.lookup q := fun q there =>
    (change q).resolve_right fun made => there made.1
  -- The file itself is not one of the directories on the way to it.
  have fileClear' : fs.lookup pending.tmp = none ∨ ∃ inode, fs.lookup pending.tmp =
      some (.file inode) := by
    rcases change pending.tmp with same | ⟨-, inside, -⟩
    · dsimp only at same
      rw [same]
      exact fileClear
    · have shorter := inside.length_le
      have longer := List.length_pos_of_ne_nil own.named
      rw [List.length_dropLast] at shorter
      omega
  have dirsClear' : ∀ q, q <+: pending.tmp.dropLast → fs.lookup q = none ∨
      fs.lookup q = some .dir := by
    intro q leads
    rcases change q with same | ⟨-, -, made⟩
    · dsimp only at same
      rw [same]
      exact dirsClear q leads
    · exact .inr made
  cases after with
  | done =>
    cases taken
    exact sound.grow whole kept ⟨own, next, fileClear'⟩
  | failed e => exact next.elim
  | mkdir path below =>
    cases taken
    exact sound.grow whole kept ⟨own, ⟨dirsClear', fileClear'⟩, next, by simp⟩
  | again path below =>
    cases taken
    exact sound.grow whole kept ⟨own, ⟨dirsClear', fileClear'⟩, next, by simp⟩
  | check path below e =>
    cases taken
    exact sound.grow whole kept ⟨own, ⟨dirsClear', fileClear'⟩, next, by simp⟩

theorem insert_kept {node : Node} (absent : fs.lookup path = none) (q : PathBuf)
    (there : fs.lookup q ≠ none) :
    AList.lookup q (fs.insert path node) = fs.lookup q := by
  rw [Table.lookup_insert_eq, if_neg]
  rintro rfl
  exact there absent

theorem creating_sound (sound : s.Sound setting) (phase : s.sink = .creating pending) {inode : Nat}
    (taken : s.sinkStep inode = some s') : s'.Sound setting := by
  have sinkSound := sound.sink
  rw [phase] at sinkSound
  obtain ⟨own, parent, absent | ⟨old, there⟩⟩ := sinkSound
  · have opened :
        s.fs.openTruncate pending.tmp inode = .ok (s.fs.insert pending.tmp (.file inode)) := by
      rw [openTruncate, absent]
      exact make_eq_ok.mpr ⟨absent, parent, rfl⟩
    rw [Race.sinkStep, phase] at taken
    dsimp only at taken
    rw [opened] at taken
    cases taken
    exact sound.grow (sound.whole.insert absent parent) (insert_kept absent) ⟨own, inode,
      AList.lookup_insert _⟩
  · have opened : s.fs.openTruncate pending.tmp inode = .ok s.fs := by
      rw [openTruncate, there]
    rw [Race.sinkStep, phase] at taken
    dsimp only at taken
    rw [opened] at taken
    cases taken
    exact sound.grow sound.whole (fun _ _ => rfl) ⟨own, old, there⟩

theorem claiming_sound (sound : s.Sound setting) {claim : Claim}
    (phase : s.sink = .claiming pending claim) {inode : Nat} (taken : s.sinkStep inode = some s') :
    s'.Sound setting := by
  have sinkSound := sound.sink
  rw [phase] at sinkSound
  obtain ⟨own, content, there, place⟩ := sinkSound
  unfold Race.sinkStep at taken
  rw [phase] at taken
  dsimp only at taken
  cases claim with
  | link left =>
    cases left with
    | nil =>
      cases taken
      exact sound.grow sound.whole (fun _ _ => rfl) trivial
    | cons candidate left =>
      obtain ⟨inside, rest⟩ := List.cons_subset.mp place
      have parent : s.fs.lookup candidate.dropLast = some .dir := by
        rw [candidates_dropLast inside, ← own.dropLast]
        exact sound.whole _ (by rw [there]; exact Option.some_ne_none _)
      unfold Claim.step at taken
      dsimp only at taken
      rw [hardLink_file there] at taken
      rcases make_cases s.fs candidate (.file content)
        with ⟨absent, -, made⟩ | ⟨present, refused⟩ | ⟨missing, -⟩
      · rw [made] at taken
        cases taken
        refine sound.grow (sound.whole.insert absent parent) (insert_kept absent) ⟨own, content, ?_,
          inside, AList.lookup_insert _⟩
        rw [insert_kept absent _ (by rw [there]; exact Option.some_ne_none _), there]
      · rw [refused] at taken
        cases taken
        exact sound.grow sound.whole (fun _ _ => rfl) ⟨own, content, there, rest⟩
      · exact absurd parent missing
  | unlink path =>
    obtain ⟨inside, linked⟩ := place
    have step : (Claim.unlink path).step pending.tmp pending.finalPath false s.fs =
        (s.fs.erase pending.tmp, .done (.ok path)) := by
      rw [Claim.step, unlink_file there]
      rfl
    rw [step] at taken
    cases taken
    have final : setting.Final path := ⟨pending, own, inside⟩
    refine ⟨sound.whole.erase (sound.whole.leaf there (by simp)) own.named,
      (AList.lookup_erase_ne (Ne.symm own.named)).trans sound.root, sound.errors, trivial, ?_,
      sound.unlinking, sound.pruning⟩
    intro q mem
    rcases List.mem_append.mp mem with before | new
    · obtain ⟨final, inode, there⟩ := sound.finals q before
      exact ⟨final, inode, (AList.lookup_erase_ne (final.ne_tmp own)).trans there⟩
    · cases List.mem_singleton.mp new
      exact ⟨final, content, (AList.lookup_erase_ne (final.ne_tmp own)).trans linked⟩
  | look left => exact place.elim
  | rename target => exact place.elim
  | done result => exact place.elim

theorem sinkStep_sound (sound : s.Sound setting) {inode : Nat}
    (taken : s.sinkStep inode = some s') : s'.Sound setting := by
  cases phase : s.sink with
  | idle =>
    rw [Race.sinkStep, phase] at taken
    cases taken
  | making pending dirs => exact making_sound sound phase taken
  | creating pending => exact creating_sound sound phase taken
  | writing pending =>
    have sinkSound := sound.sink
    rw [phase] at sinkSound
    obtain ⟨own, content, there⟩ := sinkSound
    rw [Race.sinkStep, phase] at taken
    cases taken
    exact sound.grow sound.whole (fun _ _ => rfl) ⟨own, content, there, List.Subset.refl _⟩
  | claiming pending claim => exact claiming_sound sound phase taken

theorem run_sound {steps : List RaceStep} (sound : s.Sound setting) (fits : s.FitsRun setting steps)
    (ran : s.run setting steps = some s') : s'.Sound setting := by
  induction steps generalizing s with
  | nil =>
    cases ran
    exact sound
  | cons step steps ih =>
    obtain ⟨mid, taken, rest⟩ := Option.bind_eq_some_iff.mp ran
    refine ih ?_ (fits.2 mid taken) rest
    cases step with
    | opens now => exact opens_sound sound fits.1 taken
    | sinks inode => exact sinkStep_sound sound taken
    | lists seen => exact lists_sound sound taken
    | sweeps => exact sweeps_sound sound fits.1 taken

theorem Race.Sound.unbroken (sound : s.Sound setting) : s.Unbroken where
  opened := sound.errors
  temporary path written := by
    have sinkSound := sound.sink
    cases phase : s.sink with
    | idle =>
      rw [phase] at written
      cases written
    | making pending dirs =>
      rw [phase] at written
      cases written
    | creating pending =>
      rw [phase] at written
      cases written
    | writing pending =>
      rw [phase] at written sinkSound
      cases written
      exact sinkSound.2
    | claiming pending claim =>
      rw [phase] at written sinkSound
      cases written
      obtain ⟨-, inode, there, -⟩ := sinkSound
      exact ⟨inode, there⟩
  final path inside := (sound.finals path inside).2

/-! ### A directory taken from the sink -/

/-- A directory that is empty is removed, whatever the sink is about. -/
theorem step_sweeps_empty {dir : PathBuf} {left : List PathBuf}
    (removing : s.sweep = .pruning (dir :: left)) (isDir : s.fs.lookup dir = some .dir)
    (empty : ∀ name, s.fs.lookup (dir ++ [name]) = none) :
    ∃ taken : Race, s.step setting .sweeps = some taken ∧ taken.fs = s.fs.erase dir ∧
      taken.sink = s.sink := by
  refine ⟨{ s with fs := s.fs.erase dir, sweep := .pruning left }, ?_, rfl, rfl⟩
  rw [Race.step, removing]
  dsimp only
  rw [prune_of_empty isDir empty]

/-- The check after a call that failed finds nothing, and the opening fails as the call did. -/
theorem sinkStep_check {below : List PathBuf} {e : Errno} {inode : Nat}
    (checking : s.sink = .making pending (.check path below e)) (absent : s.fs.lookup path = none) :
    s.sinkStep inode = some { s with sink := .idle, errors := s.errors ++ [e] } := by
  rw [Race.sinkStep, checking]
  dsimp only [CreateDirAll.step]
  rw [if_neg (by rw [absent]; simp)]

theorem sinkStep_again {below : List PathBuf} {inode : Nat}
    (trying : s.sink = .making pending (.again path below))
    (fails : s.fs.make path .dir = .error .notFound) :
    s.sinkStep inode = some { s with sink := .making pending (.check path below .notFound) } := by
  rw [Race.sinkStep, trying]
  dsimp only [CreateDirAll.step, FileSystem.mkdir]
  rw [fails]

theorem sinkStep_creating {e : Errno} {inode : Nat} (creating : s.sink = .creating pending)
    (fails : s.fs.openTruncate pending.tmp inode = .error e) :
    s.sinkStep inode = some { s with sink := .idle, errors := s.errors ++ [e] } := by
  rw [Race.sinkStep, creating]
  dsimp only
  rw [fails]

/-- A directory that the sink counts on, taken by the sweep while it is empty, fails the opening
within the next two calls. -/
theorem taken_directory_fails (sound : s.Sound setting) {dir : PathBuf} {left : List PathBuf}
    (removing : s.sweep = .pruning (dir :: left)) (needed : s.sink.needs = some dir)
    (empty : ∀ name, s.fs.lookup (dir ++ [name]) = none) (inode : Nat) :
    ∃ calls s', s.run setting (.sweeps :: List.replicate calls (.sinks inode)) = some s' ∧
      s'.errors ≠ [] := by
  obtain ⟨taken, swept, erased, kept⟩ :=
    @step_sweeps_empty setting s dir left removing (sound.sink.needs_dir needed) empty
  have run : ∀ calls, s.run setting (.sweeps :: List.replicate calls (.sinks inode)) =
      taken.run setting (List.replicate calls (.sinks inode)) := fun calls => by
    rw [Race.run, List.foldlM_cons, swept]
    rfl
  have sinkSound := sound.sink
  cases phase : s.sink with
  | idle | writing pending | claiming pending claim =>
    rw [phase] at needed
    cases needed
  | creating pending =>
    rw [phase] at needed sinkSound kept
    cases needed
    have fails := openTruncate_erase_parent empty sinkSound.1.named inode
    rw [← erased] at fails
    have step := sinkStep_creating kept fails
    exact ⟨1, _, (run 1).trans (congrArg (·.bind some) step), List.concat_ne_nil _ _⟩
  | making pending dirs =>
    rw [phase] at needed sinkSound kept
    obtain ⟨-, -, dirsSound, -⟩ := sinkSound
    cases dirs with
    | mkdir path below | done | failed e => cases needed
    | check path below e =>
      cases needed
      have absent : taken.fs.lookup dir = none := by rw [erased, AList.lookup_erase]
      have step := @sinkStep_check _ _ _ _ _ inode kept absent
      exact ⟨1, _, (run 1).trans (congrArg (·.bind some) step), List.concat_ne_nil _ _⟩
    | again path below =>
      cases needed
      have fails := make_erase_parent empty dirsSound.1 .dir
      have absent := lookup_erase_parent empty dirsSound.1
      rw [← erased] at fails absent
      have called : taken.sinkStep inode = _ := sinkStep_again kept fails
      have checked : Race.sinkStep { taken with
          sink := .making pending (.check path below .notFound) } inode = _ :=
        sinkStep_check rfl absent
      have steps := (congrArg (·.bind fun r => (r.sinkStep inode).bind some) called).trans
        (congrArg (·.bind some) checked)
      exact ⟨2, _, (run 2).trans steps, List.concat_ne_nil _ _⟩

end

/-! ### Main result -/

/-- In every run whose steps fit, every window is opened, and the temporary and final files of the
sink are there after each step. A sweep that then takes the directory that the sink counts on makes
the opening fail. -/
theorem sweep_spares_sink (setting : Setting) (fs : FileSystem OsStr) (whole : fs.WellFormed)
    (root : fs.lookup [] = some .dir) (steps : List RaceStep) (s : Race)
    (fits : (Race.start fs).FitsRun setting steps)
    (ran : (Race.start fs).run setting steps = some s) :
    s.Unbroken ∧ ∀ dir left, s.sweep = .pruning (dir :: left) → s.sink.needs = some dir →
      (∀ name, s.fs.lookup (dir ++ [name]) = none) → ∀ inode,
      ∃ calls s', s.run setting (.sweeps :: List.replicate calls (.sinks inode)) = some s' ∧
        s'.errors ≠ [] := by
  have start : (Race.start fs).Sound setting :=
    { whole
      root
      errors := rfl
      sink := trivial
      finals := fun _ inside => absurd inside List.not_mem_nil
      unlinking := fun _ same => nomatch same
      pruning := fun _ same => nomatch same }
  have sound := run_sound start fits ran
  exact ⟨sound.unbroken, fun _ _ removing needed empty inode =>
    taken_directory_fails sound removing needed empty inode⟩

/-- Windows of ten minutes in a directory for each day, and a sweep at 12:03 for files older than 20
minutes. -/
def daily : Setting :=
  { calendar := Gregorian.calendar, layout := Gregorian.outTree 1 .plain, pid := 7,
    intervalSecs := 600, cutoff := 1787830980 }

def atNoon : DateTime := ⟨1787832180 * 1000000000⟩

theorem fitsRun_of_forall {setting : Setting} {steps : List RaceStep}
    (fits : ∀ step ∈ steps, ∀ s : Race, s.Fits setting step) (s : Race) :
    s.FitsRun setting steps := by
  induction steps generalizing s with
  | nil => trivial
  | cons step steps ih =>
    exact ⟨fits step List.mem_cons_self s,
      fun s' _ => ih (fun other inside => fits other (List.mem_cons_of_mem _ inside)) s'⟩

theorem readsBack_of {calendar : Calendar} {stamp window : DateTime} {text : List Char}
    (whole : splitAtChecked STAMP_LEN (calendar.format STAMP_FORMAT stamp).toList = some (text, []))
    (parsed : calendar.parseFromStr (String.ofList text) STAMP_FORMAT = some window)
    (same : window.timestamp = stamp.timestamp) : calendar.ReadsBack stamp := by
  intro rest head tail window' split parsed'
  rw [splitAtChecked_append whole rest] at split
  cases split
  rw [parsed] at parsed'
  cases parsed'
  exact same

theorem emptyTree_clear : Clear emptyTree (daily.pending atNoon).tmp := by
  have dirs : ∀ q, emptyTree.lookup q = none ∨ emptyTree.lookup q = some .dir := by
    intro q
    unfold emptyTree
    rw [Table.lookup_insert_eq, Table.lookup_insert_eq]
    split
    · exact .inr rfl
    · split
      · exact .inr rfl
      · exact .inl rfl
  exact ⟨fun q _ => dirs q, .inl (by decide +kernel)⟩

/-- The sweep lists the tree before the directories are made. -/
theorem sweep_spares_sink_before : ∃ s, (Race.start emptyTree).run daily
    (.opens atNoon :: [.lists emptyTree, .lists emptyTree] ++ List.replicate 6 (.sinks 100)) =
      some s ∧ s.Unbroken := by
  have ran : ((Race.start emptyTree).run daily
      (.opens atNoon :: [.lists emptyTree, .lists emptyTree] ++
        List.replicate 6 (.sinks 100))).isSome = true := by
    decide +kernel
  obtain ⟨s, ran⟩ := Option.isSome_iff_exists.mp ran
  have fits : (Race.start emptyTree).FitsRun daily
      (.opens atNoon :: [.lists emptyTree, .lists emptyTree] ++ List.replicate 6 (.sinks 100)) := by
    refine And.intro ⟨?_, ?_, emptyTree_clear⟩ ?_
    · decide
    · have stamp :
          (daily.calendar.format STAMP_FORMAT
            (Destination.windowStamp daily.intervalSecs atNoon)).toList =
          "20260827T120000Z".toList := by decide +kernel
      have parsed :
          daily.calendar.parseFromStr (String.ofList "20260827T120000Z".toList) STAMP_FORMAT =
          some ⟨1787832000 * 1000000000⟩ := by decide +kernel
      exact readsBack_of (by rw [stamp]; decide +kernel) parsed (by decide)
    · refine fun mid _ => fitsRun_of_forall (fun step inside s => ?_) mid
      change step ∈ [.lists emptyTree, .lists emptyTree, .sinks 100, .sinks 100, .sinks 100,
        .sinks 100, .sinks 100, .sinks 100] at inside
      simp only [List.mem_cons, List.not_mem_nil, or_false] at inside
      rcases inside with rfl | rfl | rfl | rfl | rfl | rfl | rfl | rfl <;> trivial
  exact ⟨s, ran, sweep_spares_sink daily emptyTree emptyTree_wellFormed rfl _ s fits ran |>.1⟩

/-- The sweep takes the directory of the day after the sink has made it and before its file is in
it. -/
theorem sweep_breaks_opening : ∃ mid s,
    (Race.start emptyTree).run daily (.opens atNoon :: List.replicate 5 (.sinks 100)) = some mid ∧
    mid.run daily [.lists mid.fs, .lists mid.fs, .sweeps, .sinks 100] = some s ∧ ¬ s.Unbroken := by
  have failed :
      ((Race.start emptyTree).run daily (.opens atNoon :: List.replicate 5 (.sinks 100))).bind
        (fun mid =>
      (mid.run daily [.lists mid.fs, .lists mid.fs, .sweeps, .sinks 100]).map Race.errors) =
        some [.notFound] := by
    decide +kernel
  obtain ⟨mid, opening, rest⟩ := Option.bind_eq_some_iff.mp failed
  obtain ⟨s, ran, errors⟩ := Option.map_eq_some_iff.mp rest
  refine ⟨mid, s, opening, ran, fun unbroken => ?_⟩
  rw [unbroken.opened] at errors
  cases errors

end Rustflow.Collect
