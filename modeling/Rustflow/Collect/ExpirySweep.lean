import Rustflow.Collect.Expiry
import Rustflow.Collect.Gregorian
import Rustflow.Collect.Walk

/-!
# What a sweep removes

A sweep removes the old files of the collector and the partition directories that this empties,
as long as the age does not reach back further than 64 bits do.
-/

namespace Rustflow.Collect
open FileSystem Layout Relation

/-- A file of the collector, in the root or a chain of partition directories that overlap the time
before the cutoff, whose window started before it. -/
def Expired (calendar : Calendar) (layout : Layout) (cutoff : Int) (fs : FileSystem OsStr)
    (entry : Entry) : Prop :=
  entry.window.timestamp < cutoff ∧
  ∃ dir, Reached calendar layout fs (.before cutoff) dir ∧ OwnFile calendar layout fs dir entry

/-- A partition directory that holds nothing but expired files and directories that are emptied
too. -/
inductive Emptied (calendar : Calendar) (layout : Layout) (cutoff : Int) (fs : FileSystem OsStr) :
    PathBuf → Prop
  | intro {p : PathBuf} (partition : TransGen (Enters calendar layout fs (.before cutoff))
      layout.root p)
      (rest : ∀ name, fs.lookup (p ++ [name]) ≠ none →
        (∀ entry, Expired calendar layout cutoff fs entry → entry.path ≠ p ++ [name]) →
        Emptied calendar layout cutoff fs (p ++ [name])) :
      Emptied calendar layout cutoff fs p

section
variable {calendar : Calendar} {expiry : Expiry} {fs : FileSystem OsStr} {swept : Swept}

theorem expire_file {entry : Entry} {inode : Nat}
    (there : swept.fs.lookup entry.path = some (.file inode)) :
    expiry.expire swept entry =
      { fs := swept.fs.erase entry.path
        outcome := { swept.outcome with removed := swept.outcome.removed + 1 }
        jobs := if expiry.hook && !entry.temporary then
          swept.jobs ++ [{ path := entry.path, window := entry.window }]
          else swept.jobs } := by
  unfold Expiry.expire removeFile
  rw [unlink_file there]

/-- What is left after the files of a list are removed. -/
theorem foldl_expire (swept : Swept) {entries : List Entry}
    (distinct : entries.Pairwise (·.path ≠ ·.path))
    (there : ∀ entry ∈ entries, ∃ inode, swept.fs.lookup entry.path = some (.file inode))
    (whole : swept.fs.WellFormed) :
    (entries.foldl expiry.expire swept).fs.WellFormed ∧
    (∀ p, ((∃ entry ∈ entries, entry.path = p) →
      (entries.foldl expiry.expire swept).fs.lookup p = none) ∧
      ((∀ entry ∈ entries, entry.path ≠ p) → (entries.foldl expiry.expire swept).fs.lookup p =
        swept.fs.lookup p)) ∧
    (entries.foldl expiry.expire swept).outcome =
      { swept.outcome with removed := swept.outcome.removed + entries.length } ∧
    (entries.foldl expiry.expire swept).jobs = swept.jobs ++ if expiry.hook then
      (entries.filter (!·.temporary)).map fun entry =>
        { path := entry.path, window := entry.window } else [] := by
  induction entries generalizing swept with
  | nil => refine ⟨whole, fun p => ⟨?_, fun _ => rfl⟩, rfl, ?_⟩ <;> simp
  | cons entry entries ih =>
    obtain ⟨apart, distinct⟩ := List.pairwise_cons.mp distinct
    obtain ⟨inode, here⟩ := there entry List.mem_cons_self
    have next : expiry.expire swept entry = _ := expire_file here
    have named : entry.path ≠ [] := by
      intro root
      have parent := whole entry.path (by rw [here]; exact Option.some_ne_none _)
      rw [root] at here parent
      rw [List.dropLast_nil, here] at parent
      cases parent
    have rest : ∀ other ∈ entries, ∃ inode', AList.lookup other.path (swept.fs.erase entry.path) =
        some (.file inode') := by
      intro other inside
      obtain ⟨inode', found⟩ := there other (List.mem_cons_of_mem _ inside)
      refine ⟨inode', ?_⟩
      rw [Table.lookup_erase_eq, if_neg (Ne.symm (apart other inside)), found]
    have whole' : WellFormed (swept.fs.erase entry.path) :=
      whole.erase (whole.leaf here (by simp)) named
    obtain ⟨sound, left, outcome, jobs⟩ :=
      ih (expiry.expire swept entry) distinct (by rwa [next]) (by rwa [next])
    rw [List.foldl_cons]
    rw [next] at left outcome jobs
    rw [next] at sound ⊢
    refine ⟨sound, fun p => ⟨?_, fun stays => ?_⟩, ?_, ?_⟩
    · rintro ⟨other, inside, rfl⟩
      by_cases later : ∃ e ∈ entries, e.path = other.path
      · exact (left other.path).1 later
      · rcases List.mem_cons.mp inside with rfl | inside
        · rw [(left other.path).2 fun e inside same => later ⟨e, inside, same⟩]
          exact AList.lookup_erase _ _
        · exact absurd ⟨other, inside, rfl⟩ later
    · rw [(left p).2 fun e inside => stays e (List.mem_cons_of_mem _ inside)]
      exact AList.lookup_erase_ne (Ne.symm (stays entry List.mem_cons_self))
    · rw [outcome, List.length_cons]
      dsimp only
      congr 1
      omega
    · rw [jobs, List.filter_cons]
      rcases expiry.hook with _ | _
      · simp
      · rcases entry.temporary with _ | _ <;> simp

structure Sweeps (calendar : Calendar) (expiry : Expiry) (cutoff : Int) (fs : FileSystem OsStr)
    (swept : Swept) : Prop where
  expired : ∀ entry, Expired calendar expiry.layout cutoff fs entry →
    swept.fs.lookup entry.path = none
  emptied : ∀ p, Emptied calendar expiry.layout cutoff fs p → swept.fs.lookup p = none
  /-- All else stays as it is, and so the root. -/
  kept : ∀ p, (∀ entry, Expired calendar expiry.layout cutoff fs entry → entry.path ≠ p) →
    ¬ Emptied calendar expiry.layout cutoff fs p → swept.fs.lookup p = fs.lookup p
  root : swept.fs.lookup expiry.layout.root = fs.lookup expiry.layout.root
  /-- The command is told once about each complete file that was removed. -/
  told : expiry.hook = true → swept.jobs.Pairwise (·.path ≠ ·.path) ∧ ∀ job, job ∈ swept.jobs ↔
    ∃ entry, Expired calendar expiry.layout cutoff fs entry ∧ entry.temporary = false ∧
      job = { path := entry.path, window := entry.window }
  silent : expiry.hook = false → swept.jobs = []
  failures : swept.outcome.failures = 0

theorem root_lt_of_enters {layout : Layout} {range : TimeRange} {dir p : PathBuf}
    (below : TransGen (Enters calendar layout fs range) dir p) : dir.length < p.length := by
  induction below with
  | single enters =>
    obtain ⟨name, _, rfl, -⟩ := enters
    simp
  | tail _ enters ih =>
    obtain ⟨name, _, rfl, -⟩ := enters
    rw [List.length_append]
    omega

theorem contains_before {cutoff t : Int} : (TimeRange.before cutoff).contains t = true ↔
    t < cutoff := by
  simp [TimeRange.before, TimeRange.contains]

section
variable {layout : Layout} {cutoff : Int} {fs' : FileSystem OsStr} {p : PathBuf}

theorem Expired.file {entry : Entry} (expired : Expired calendar layout cutoff fs entry) :
    ∃ inode, fs.lookup entry.path = some (.file inode) := by
  obtain ⟨-, dir, -, name, inode, -, found, -⟩ := expired
  exact ⟨inode, found⟩

structure Cleared (calendar : Calendar) (layout : Layout) (cutoff : Int)
    (fs fs' : FileSystem OsStr) : Prop where
  whole : fs'.WellFormed
  gone : ∀ entry, Expired calendar layout cutoff fs entry → fs'.lookup entry.path = none
  kept : ∀ p, (∀ entry, Expired calendar layout cutoff fs entry → entry.path ≠ p) →
    fs'.lookup p = fs.lookup p

theorem Cleared.dir_iff (cleared : Cleared calendar layout cutoff fs fs') :
    fs'.lookup p = some .dir ↔ fs.lookup p = some .dir := by
  by_cases stays : ∀ entry, Expired calendar layout cutoff fs entry → entry.path ≠ p
  · rw [cleared.kept p stays]
  · simp only [not_forall, not_not] at stays
    obtain ⟨entry, expired, rfl⟩ := stays
    obtain ⟨inode, found⟩ := expired.file
    rw [cleared.gone entry expired, found]
    simp

theorem Cleared.enters (cleared : Cleared calendar layout cutoff fs fs') {range : TimeRange} :
    Enters calendar layout fs' range = Enters calendar layout fs range := by
  funext dir p
  unfold Enters
  simp only [cleared.dir_iff]

theorem Cleared.present (cleared : Cleared calendar layout cutoff fs fs') :
    fs'.lookup p ≠ none ↔ fs.lookup p ≠ none ∧ ∀ entry, Expired calendar layout cutoff fs entry →
      entry.path ≠ p := by
  constructor
  · intro there
    have stays : ∀ entry, Expired calendar layout cutoff fs entry → entry.path ≠ p := by
      rintro entry expired rfl
      exact there (cleared.gone entry expired)
    rw [cleared.kept p stays] at there
    exact ⟨there, stays⟩
  · rintro ⟨there, stays⟩
    rw [cleared.kept p stays]
    exact there

theorem dir_of_enters {range : TimeRange} {dir : PathBuf}
    (below : TransGen (Enters calendar layout fs range) dir p) :
    fs.lookup p = some .dir := by
  obtain ⟨_, -, enters⟩ := TransGen.tail'_iff.mp below
  obtain ⟨_, _, -, found, -⟩ := enters
  exact found

/-- The directories that go are those that the expired files left empty. -/
theorem Cleared.prunable_iff (cleared : Cleared calendar layout cutoff fs fs') :
    Prunable fs' (layout.dirs calendar fs' (.before cutoff)) p ↔
      Emptied calendar layout cutoff fs p := by
  constructor
  · intro prunable
    induction prunable with
    | intro listed _ _ ih =>
      rw [mem_dirs cleared.whole, cleared.enters] at listed
      exact .intro listed fun name there stays => ih name (cleared.present.mpr ⟨there, stays⟩)
  · intro emptied
    induction emptied with
    | intro partition _ ih =>
      refine .intro ?_ (cleared.dir_iff.mpr (dir_of_enters partition)) fun name there => ?_
      · rw [mem_dirs cleared.whole, cleared.enters]
        exact partition
      · obtain ⟨before, stays⟩ := cleared.present.mp there
        exact ih name before stays

/-- What is left when the directories are pruned too. -/
theorem Cleared.pruned (cleared : Cleared calendar layout cutoff fs fs') (p : PathBuf) :
    (Emptied calendar layout cutoff fs p →
      ((layout.dirs calendar fs' (.before cutoff)).foldl prune fs').lookup p = none) ∧
    (¬ Emptied calendar layout cutoff fs p →
      ((layout.dirs calendar fs' (.before cutoff)).foldl prune fs').lookup p = fs'.lookup p) := by
  rw [← cleared.prunable_iff]
  exact lookup_foldl_prune dirs_bottomUp p

theorem Cleared.pruned_wellFormed (cleared : Cleared calendar layout cutoff fs fs') :
    ((layout.dirs calendar fs' (.before cutoff)).foldl prune fs').WellFormed := by
  refine cleared.whole.foldl_prune fun p inside => ?_
  rw [mem_dirs cleared.whole] at inside
  have longer := root_lt_of_enters inside
  rintro rfl
  simp at longer

end

theorem root_lt_of_reached {layout : Layout} {range : TimeRange} {p : PathBuf}
    (reached : Reached calendar layout fs range p) : layout.root.length ≤ p.length := by
  induction reached with
  | refl => exact Nat.le_refl _
  | tail _ enters ih =>
    obtain ⟨name, _, rfl, -⟩ := enters
    rw [List.length_append]
    omega

theorem sweep_sweeps (whole : fs.WellFormed) (cutoff : Int) :
    Sweeps calendar expiry cutoff fs (expiry.sweep calendar cutoff fs) ∧
      (expiry.sweep calendar cutoff fs).fs.WellFormed ∧
    (expiry.sweep calendar cutoff fs).outcome.removed =
      (expiry.layout.files calendar fs (.before cutoff)).length := by
  have listed : ∀ entry, entry ∈ expiry.layout.files calendar fs (.before cutoff) ↔
      Expired calendar expiry.layout cutoff fs entry := by
    intro entry
    rw [mem_files whole, contains_before]
    rfl
  have distinct : (expiry.layout.files calendar fs (.before cutoff)).Pairwise (·.path ≠ ·.path) :=
    files_distinct
  unfold Expiry.sweep
  dsimp only
  generalize expiry.layout.files calendar fs (.before cutoff) = entries at listed distinct ⊢
  have there : ∀ entry ∈ entries, ∃ inode, fs.lookup entry.path = some (.file inode) :=
    fun entry inside => ((listed entry).mp inside).file
  obtain ⟨whole', left, outcome, jobs⟩ := @foldl_expire expiry
    { fs, outcome := { removed := 0, failures := 0, firstFailure := none },
      jobs := [] } entries distinct there whole
  generalize entries.foldl expiry.expire
    { fs, outcome := { removed := 0, failures := 0, firstFailure := none },
      jobs := [] } = swept at whole' left outcome jobs ⊢
  have cleared : Cleared calendar expiry.layout cutoff fs swept.fs :=
    { whole := whole'
      gone := fun entry expired => (left entry.path).1 ⟨entry, (listed entry).mpr expired, rfl⟩
      kept := fun p stays => (left p).2 fun entry inside => stays entry ((listed entry).mp inside) }
  have rootLives : ∀ entry, Expired calendar expiry.layout cutoff fs entry →
      entry.path ≠ expiry.layout.root := by
    rintro entry ⟨-, dir, reached, name, -, same, -⟩ here
    have longer := root_lt_of_reached reached
    rw [← here, same, List.length_append, List.length_singleton] at longer
    omega
  have rootStays : ¬ Emptied calendar expiry.layout cutoff fs expiry.layout.root := by
    rintro ⟨partition, -⟩
    exact absurd (root_lt_of_enters partition) (Nat.lt_irrefl _)
  refine ⟨⟨?_, fun p => (cleared.pruned p).1, ?_, ?_, ?_, ?_, ?_⟩, cleared.pruned_wellFormed, ?_⟩
  · intro entry expired
    by_cases empties : Emptied calendar expiry.layout cutoff fs entry.path
    · exact (cleared.pruned entry.path).1 empties
    · exact ((cleared.pruned entry.path).2 empties).trans (cleared.gone entry expired)
  · intro p stays lives
    exact ((cleared.pruned p).2 lives).trans (cleared.kept p stays)
  · exact ((cleared.pruned _).2 rootStays).trans (cleared.kept _ rootLives)
  · intro hook
    dsimp only
    rw [jobs, hook, if_pos rfl, List.nil_append]
    refine ⟨List.Pairwise.map _ (fun _ _ apart => apart) (distinct.filter _), fun job => ?_⟩
    rw [List.mem_map]
    constructor
    · rintro ⟨entry, inside, rfl⟩
      obtain ⟨inside, complete⟩ := List.mem_filter.mp inside
      exact ⟨entry, (listed entry).mp inside, Bool.not_eq_true' _ ▸ complete, rfl⟩
    · rintro ⟨entry, expired, complete, rfl⟩
      exact ⟨entry, List.mem_filter.mpr ⟨(listed entry).mpr expired, by rw [complete]; rfl⟩, rfl⟩
  · intro silent
    dsimp only
    rw [jobs, silent]
    rfl
  · dsimp only
    rw [outcome]
  · rw [outcome]
    exact Nat.zero_add _

/-- A second sweep with the same cutoff finds no file. -/
theorem sweep_again (whole : fs.WellFormed) (cutoff : Int) (swept : Swept)
    (done : expiry.sweep calendar cutoff fs = swept) :
    (expiry.sweep calendar cutoff swept.fs).outcome.removed = 0 ∧
    ∀ p inode, swept.fs.lookup p = some (.file inode) →
      (expiry.sweep calendar cutoff swept.fs).fs.lookup p = some (.file inode) := by
  obtain ⟨first, whole', -⟩ := @sweep_sweeps calendar expiry _ whole cutoff
  rw [done] at first whole'
  have older : ∀ p, swept.fs.lookup p ≠ none → fs.lookup p = swept.fs.lookup p := by
    intro p there
    refine (first.kept p ?_ fun emptied => there (first.emptied p emptied)).symm
    rintro entry expired rfl
    exact there (first.expired entry expired)
  have enters : ∀ dir p, Enters calendar expiry.layout swept.fs (.before cutoff) dir p →
      Enters calendar expiry.layout fs (.before cutoff) dir p := by
    rintro dir p ⟨name, period, same, found, named, overlaps⟩
    exact ⟨name, period, same, by rw [older p (by rw [found]; simp), found], named, overlaps⟩
  have nothing : ∀ entry, ¬ Expired calendar expiry.layout cutoff swept.fs entry := by
    rintro entry ⟨early, dir, reached, name, inode, same, found, named⟩
    have there : swept.fs.lookup entry.path ≠ none := by
      rw [found]
      exact Option.some_ne_none _
    have expired : Expired calendar expiry.layout cutoff fs entry :=
      ⟨early, dir, ReflTransGen.mono enters _ _ reached, name, inode,
        same, by rw [older _ there, found], named⟩
    exact there (first.expired entry expired)
  obtain ⟨second, -, removed⟩ := @sweep_sweeps calendar expiry _ whole' cutoff
  constructor
  · rw [removed, List.length_eq_zero_iff, List.eq_nil_iff_forall_not_mem]
    intro entry inside
    obtain ⟨early, found⟩ := (mem_files whole').mp inside
    exact nothing entry ⟨contains_before.mp early, found⟩
  · intro p inode found
    rw [second.kept p (fun entry expired => absurd expired (nothing entry)) ?_, found]
    rintro ⟨partition, -⟩
    rw [dir_of_enters partition] at found
    cases found

end

/-! ### Main result -/

/-- What the age of a run allows it to remove is removed, and a second run removes no file. -/
def RemovesOld (calendar : Calendar) (expiry : Expiry) (now : DateTime)
    (fs : FileSystem OsStr) : Prop :=
  let once := expiry.run calendar now fs
  let twice := expiry.run calendar now once.fs
  Sweeps calendar expiry (now.timestamp - expiry.maxAge.secs.toNat) fs once ∧
  twice.outcome.removed = 0 ∧ ∀ p inode, once.fs.lookup p = some (.file inode) →
    twice.fs.lookup p = some (.file inode)

theorem cutoff_eq {expiry : Expiry} {now : DateTime} (low : DateTime.MIN_SECS ≤ now.timestamp)
    (high : now.timestamp ≤ DateTime.MAX_SECS) (small : expiry.maxAge.secs.toNat < 2 ^ 63) :
    expiry.cutoff now = if -2 ^ 63 ≤ now.timestamp - expiry.maxAge.secs.toNat then
      now.timestamp - expiry.maxAge.secs.toNat
      else now.timestamp - expiry.maxAge.secs.toNat + 2 ^ 64 := by
  have age : expiry.maxAge.secs.toInt64.toInt = expiry.maxAge.secs.toNat := by
    have cast : expiry.maxAge.secs.toInt64.toInt = Int.bmod expiry.maxAge.secs.toNat (2 ^ 64) :=
      BitVec.toInt_eq_toNat_bmod expiry.maxAge.secs.toBitVec
    rw [cast, Int.bmod_def]
    omega
  have clock : (Int64.ofInt now.timestamp).toInt = now.timestamp := by
    unfold DateTime.MIN_SECS at low
    unfold DateTime.MAX_SECS at high
    refine Int64.toInt_ofInt_of_le ?_ ?_ <;> omega
  unfold DateTime.MIN_SECS at low
  unfold DateTime.MAX_SECS at high
  rw [Expiry.cutoff, Int64.toInt_sub, clock, age, Int.bmod_def]
  split <;> split <;> omega

def oneFile : FileSystem OsStr :=
  AList.insert [.utf8 "out", .utf8 "flows-20260827T120000Z.parquet"] (.file 1)
    (AList.insert [.utf8 "out"] .dir (AList.insert [] .dir ∅))

theorem oneFile_wellFormed : oneFile.WellFormed := by
  have out :
      WellFormed (AList.insert [.utf8 "out"] .dir (AList.insert [] .dir ∅) : FileSystem OsStr) :=
    wellFormed_root.insert rfl rfl
  exact out.insert rfl rfl

/-- An age that reaches back further than 64 bits do makes the cutoff a time to come. -/
theorem far_age_removes (now : DateTime) (low : DateTime.MIN_SECS ≤ now.timestamp)
    (high : now.timestamp ≤ DateTime.MAX_SECS) (maxAge : Interval)
    (small : maxAge.secs.toNat < 2 ^ 63) (far : now.timestamp - maxAge.secs.toNat < -2 ^ 63)
    (hook : Bool) :
    ¬ RemovesOld Gregorian.calendar
      { layout := Gregorian.outTree 0 .plain, maxAge, hook } now oneFile := by
  rintro ⟨sweeps, -⟩
  have wrapped : Expiry.cutoff { layout := Gregorian.outTree 0 .plain, maxAge, hook } now =
      now.timestamp - maxAge.secs.toNat + 2 ^ 64 := by
    rw [cutoff_eq low high small, if_neg (by dsimp only; omega)]
  have window :
      (Gregorian.outTree 0 .plain).name Gregorian.calendar "flows-20260827T120000Z.parquet".toList =
      some (⟨1787832000 * 1000000000⟩, false) := by decide +kernel
  have late : (⟨1787832000 * 1000000000⟩ : DateTime).timestamp = 1787832000 := by decide
  unfold DateTime.MIN_SECS at low
  have swept := @sweep_sweeps Gregorian.calendar
    { layout := Gregorian.outTree 0 .plain, maxAge, hook } oneFile
    oneFile_wellFormed (now.timestamp - maxAge.secs.toNat + 2 ^ 64)
  have removed := swept.1.expired
    { path := [.utf8 "out", .utf8 "flows-20260827T120000Z.parquet"],
      window := ⟨1787832000 * 1000000000⟩, temporary := false }
    ⟨by rw [late]; omega, [.utf8 "out"], .refl, _, 1, rfl, rfl, window⟩
  have stays := sweeps.kept [.utf8 "out", .utf8 "flows-20260827T120000Z.parquet"] ?_ ?_
  · unfold Expiry.run at stays
    rw [wrapped, removed] at stays
    cases stays
  · rintro entry ⟨early, dir, -, name, inode, same, -, named⟩ here
    rw [here] at same
    have last : some (OsStr.utf8 "flows-20260827T120000Z.parquet") = (dir ++ [name]).getLast? :=
      congrArg List.getLast? same
    rw [List.getLast?_concat] at last
    rw [← Option.some.inj last] at named
    have agreed := Option.some.inj (window.symm.trans named)
    rw [← (Prod.mk.inj agreed).1, late] at early
    dsimp only at early
    omega
  · rintro ⟨partition, -⟩
    cases dir_of_enters partition

/-- At a time and an age, a run removes exactly what is old from every tree, whatever the layout,
just when the cutoff fits in 64 bits. -/
theorem run_removes_old_iff (now : DateTime) (low : DateTime.MIN_SECS ≤ now.timestamp)
    (high : now.timestamp ≤ DateTime.MAX_SECS) (maxAge : Interval)
    (small : maxAge.secs.toNat < 2 ^ 63) :
    (∀ calendar layout hook fs, fs.WellFormed →
        RemovesOld calendar { layout, maxAge, hook } now fs) ↔
      -2 ^ 63 ≤ now.timestamp - maxAge.secs.toNat := by
  constructor
  · intro always
    by_contra far
    exact far_age_removes now low high maxAge small (Int.not_le.mp far) false
      (always Gregorian.calendar (Gregorian.outTree 0 .plain) false oneFile oneFile_wellFormed)
  · intro near calendar layout hook fs whole
    have exact :
        Expiry.cutoff { layout, maxAge, hook } now = now.timestamp - maxAge.secs.toNat := by
      rw [cutoff_eq low high small, if_pos near]
    unfold RemovesOld Expiry.run
    rw [exact]
    exact ⟨(sweep_sweeps whole _).1, sweep_again whole _ _ rfl⟩

/-- Two seconds before 1970 the largest age in range wraps around, and a file of 2026 is removed. -/
theorem wrapped_cutoff_removes_all :
    ¬ RemovesOld Gregorian.calendar
      { layout := Gregorian.outTree 0 .plain, maxAge := ⟨9223372036854775807, 0⟩, hook := false }
      ⟨-2 * 1000000000⟩ oneFile :=
  far_age_removes ⟨-2 * 1000000000⟩ (by decide) (by decide) ⟨9223372036854775807, 0⟩ (by decide)
    (by decide) false

/-- The clock that the collector reads, `Utc::now`, is never before 1970, and from then on no age
in range wraps around. -/
theorem run_removes_old (now : DateTime) (epoch : 0 ≤ now.timestamp)
    (high : now.timestamp ≤ DateTime.MAX_SECS) (maxAge : Interval)
    (small : maxAge.secs.toNat < 2 ^ 63) (calendar : Calendar) (layout : Layout) (hook : Bool)
    {fs : FileSystem OsStr} (whole : fs.WellFormed) :
    RemovesOld calendar { layout, maxAge, hook } now fs := by
  have low : DateTime.MIN_SECS ≤ now.timestamp := Int.le_trans (by decide) epoch
  have near : -2 ^ 63 ≤ now.timestamp - maxAge.secs.toNat := by omega
  exact (run_removes_old_iff now low high maxAge small).mpr near calendar layout hook fs whole

/-- A day after the window of 12:00 closed, a sweep for files older than an hour. -/
theorem removes_old_after_a_day :
    RemovesOld Gregorian.calendar
      { layout := Gregorian.outTree 0 .plain, maxAge := ⟨3600, 0⟩, hook := true }
      ⟨1787922000 * 1000000000⟩ oneFile :=
  run_removes_old ⟨1787922000 * 1000000000⟩ (by decide) (by decide) ⟨3600, 0⟩ (by decide) _ _ _
    oneFile_wellFormed

end Rustflow.Collect
