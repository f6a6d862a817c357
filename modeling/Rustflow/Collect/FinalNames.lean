import Rustflow.Collect.Destination

/-!
# Final names and other collectors

Collectors that share a tree, each with its own temporary file, claim final names while other
programs add to the tree. Every call on the file system is one step, in any interleaving.
-/

namespace Rustflow.Collect
open FileSystem Text

/-! ### Names -/

/-- Processes with different ids never write under one temporary name. -/
theorem tempPath_pid {pid pid' : Nat} {wanted wanted' : PathBuf}
    (same : tempPath pid wanted = tempPath pid' wanted') :
    pid = pid' := by
  unfold tempPath withFileName at same
  obtain ⟨-, last⟩ := List.append_inj' same rfl
  have names := congrArg String.toList (OsStr.utf8.inj (List.cons.inj last).1)
  simp only [String.toList_append, Nat.toString_eq_repr, Nat.toList_repr] at names
  have stems := congrArg (rsplitOnce '.') (List.append_cancel_right names)
  simp only [show ".".toList = ['.'] from rfl, List.append_assoc, List.singleton_append] at stems
  rw [rsplitOnce_append (dot_notMem_toDigits pid),
    rsplitOnce_append (dot_notMem_toDigits pid')] at stems
  have digits := (Prod.mk.inj (Option.some.inj stems)).2
  calc
    pid = Nat.ofDigitChars 10 (Nat.toDigits 10 pid) 0 := Nat.ofDigitChars_ten_toDigits.symm
    _ = Nat.ofDigitChars 10 (Nat.toDigits 10 pid') 0 := by rw [digits]
    _ = pid' := Nat.ofDigitChars_ten_toDigits

theorem tempPath_dropLast (pid : Nat) (wanted : PathBuf) :
    (tempPath pid wanted).dropLast = wanted.dropLast :=
  List.dropLast_concat

theorem candidates_dropLast {wanted candidate : PathBuf} (inside : candidate ∈ candidates wanted) :
    candidate.dropLast = wanted.dropLast := by
  rcases List.mem_cons.mp inside with rfl | later
  · rfl
  · obtain ⟨n, -, rfl⟩ := List.mem_map.mp later
    exact List.dropLast_concat

/-! ### Collectors on one tree -/

/-- The candidate that a step tries to link, and whether the name is taken. -/
def Claim.tries (fs : FileSystem OsStr) : Claim → List (PathBuf × Bool)
  | .link (candidate :: _) => [(candidate, decide (fs.lookup candidate ≠ none))]
  | _ => []

def Claim.claimed : Claim → Option PathBuf
  | .unlink path => some path
  | .done (.ok path) => some path
  | _ => none

def Claim.finished : Claim → Bool
  | .done _ => true
  | _ => false

/-- A file under its temporary name, and how far its claim of a final one is. `tried` and `failed`
are records that nothing reads: the names tried, each with whether it was taken, and whether
removing the temporary name has failed. -/
structure Commit where
  pid : Nat
  wanted : PathBuf
  /-- The content of the file. -/
  inode : Nat
  claim : Claim
  tried : List (PathBuf × Bool)
  failed : Bool

namespace Commit

def tmp (self : Commit) : PathBuf := tempPath self.pid self.wanted

/-- The commit after one call of its claim. -/
def next (self : Commit) (fs : FileSystem OsStr) (broken : Bool) (claim : Claim) : Commit :=
  let removes := match self.claim with
    | .unlink _ | .rename _ => true
    | _ => false
  { self with
    claim
    tried := self.tried ++ self.claim.tries fs
    failed := self.failed || (removes && broken) }

/-- The path was free when the commit linked it, and every candidate before it was taken when
tried. -/
def Took (self : Commit) (path : PathBuf) : Prop :=
  ∃ met left, candidates self.wanted = met ++ path :: left ∧
    self.tried = met.map (·, true) ++ [(path, false)]

end Commit

/-- The commits of all processes, finished ones too, on one file system. -/
structure SharedTree where
  fs : FileSystem OsStr
  commits : Table Nat Commit

inductive TreeStep where
  /-- Another program makes an entry. -/
  | makes (path : PathBuf) (node : Node)
  /-- A process, done with its last file, makes a temporary one under a name that is free. -/
  | opens (id pid : Nat) (wanted : PathBuf) (inode : Nat)
  /-- The next call of a claim. -/
  | claims (id : Nat) (broken : Bool)

namespace SharedTree

/-- `none` where the step cannot be taken. -/
def step (self : SharedTree) : TreeStep → Option SharedTree
  | .makes path node =>
    match self.fs.make path node with
    | .ok fs => some { self with fs }
    | .error _ => none
  | .opens id pid wanted inode =>
    if (self.commits.lookup id).isSome ∨ ∃ commit ∈ self.commits.values, commit.pid = pid ∧
      commit.claim.finished = false then
      none
    else
      match self.fs.make (tempPath pid wanted) (.file inode) with
      | .ok fs =>
        let commit : Commit :=
          { pid, wanted, inode, claim := .start wanted, tried := [], failed := false }
        some { fs, commits := self.commits.insert id commit }
      | .error _ => none
  | .claims id broken =>
    ((self.commits.lookup id).filter fun commit => !commit.claim.finished).map fun commit =>
      let (fs, claim) := commit.claim.step commit.tmp commit.wanted broken self.fs
      { fs, commits := self.commits.insert id (commit.next self.fs broken claim) }

def run (self : SharedTree) (steps : List TreeStep) : Option SharedTree := steps.foldlM step self

end SharedTree

/-! ### What holds between any two steps -/

/-- What the names tried say about where the claim is. With hard links it never falls back. -/
def Commit.Told (commit : Commit) : Prop :=
  match commit.claim with
  | .link left => ∃ met, candidates commit.wanted = met ++ left ∧ commit.tried = met.map (·, true)
  | .unlink path | .done (.ok path) => commit.Took path
  | .done (.error _) =>
    commit.failed = true ∨ commit.tried = (candidates commit.wanted).map (·, true)
  | .look _ | .rename _ => False

/-- A file under its temporary name is there until its claim is finished, and one under the name it
claimed from then on. No two processes write under one name and no two commits claim one. -/
structure SharedTree.Sound (s : SharedTree) : Prop where
  whole : s.fs.WellFormed
  told : ∀ id commit, s.commits.lookup id = some commit → commit.Told
  own : ∀ id commit, s.commits.lookup id = some commit → commit.claim.finished = false →
    s.fs.lookup commit.tmp = some (.file commit.inode)
  pids : ∀ id commit id' commit', s.commits.lookup id = some commit →
    s.commits.lookup id' = some commit' →
    commit.claim.finished = false → commit'.claim.finished = false →
    commit.pid = commit'.pid → id = id'
  claimed : ∀ id commit path, s.commits.lookup id = some commit → commit.claim.claimed = some path →
    s.fs.lookup path = some (.file commit.inode) ∧
    ∀ id' commit', s.commits.lookup id' = some commit' → commit'.claim.finished = false →
      commit'.tmp ≠ path
  distinct : ∀ id commit id' commit' path, s.commits.lookup id = some commit →
    s.commits.lookup id' = some commit' →
    commit.claim.claimed = some path → commit'.claim.claimed = some path → id = id'

/-- What one call of a claim can do: it removes at most its own temporary name, and claims a name
only where there was none. -/
structure Moves (before after : FileSystem OsStr) (commit commit' : Commit) : Prop where
  pid : commit'.pid = commit.pid
  wanted : commit'.wanted = commit.wanted
  inode : commit'.inode = commit.inode
  whole : after.WellFormed
  told : commit'.Told
  kept : ∀ p, p ≠ commit.tmp → before.lookup p ≠ none → after.lookup p = before.lookup p
  own : commit'.claim.finished = false → after.lookup commit.tmp = some (.file commit.inode)
  claims : ∀ p, commit'.claim.claimed = some p → commit.claim.claimed = some p ∨
    before.lookup p = none ∧ after.lookup p = some (.file commit.inode)

theorem Moves.tmp {before after : FileSystem OsStr} {commit commit' : Commit}
    (moves : Moves before after commit commit') :
    commit'.tmp = commit.tmp := by
  unfold Commit.tmp
  rw [moves.pid, moves.wanted]

namespace SharedTree.Sound
variable {s : SharedTree} {id : Nat} {commit commit' : Commit} {fs : FileSystem OsStr}

/-- An unfinished commit keeps the processes apart if no other unfinished one is of its process. -/
theorem pids_insert (sound : s.Sound)
    (new : ∀ id' other, s.commits.lookup id' = some other → commit.claim.finished = false →
      other.claim.finished = false → commit.pid = other.pid → id' = id)
    (id₁ : Nat) (c₁ : Commit) (id₂ : Nat) (c₂ : Commit)
    (found₁ : (s.commits.insert id commit).lookup id₁ = some c₁)
    (found₂ : (s.commits.insert id commit).lookup id₂ = some c₂)
    (unfinished₁ : c₁.claim.finished = false) (unfinished₂ : c₂.claim.finished = false)
    (same : c₁.pid = c₂.pid) : id₁ = id₂ :=
  Table.unique_insert (R := fun c c' => c.claim.finished = false ∧ c'.claim.finished = false ∧
    c.pid = c'.pid)
    (fun _ _ ⟨first, second, same⟩ => ⟨second, first, same.symm⟩)
    (fun id₁ c₁ id₂ c₂ found₁ found₂ ⟨first, second, same⟩ =>
      sound.pids id₁ c₁ id₂ c₂ found₁ found₂ first second same)
    (fun id' other found' ⟨first, second, same⟩ => new id' other found' first second same)
    id₁ c₁ id₂ c₂ found₁ found₂ ⟨unfinished₁, unfinished₂, same⟩

/-- A commit keeps the names apart if no other has a name it claimed. -/
theorem distinct_insert (sound : s.Sound)
    (new : ∀ id' other path, s.commits.lookup id' = some other →
      commit.claim.claimed = some path → other.claim.claimed = some path → id' = id)
    (id₁ : Nat) (c₁ : Commit) (id₂ : Nat) (c₂ : Commit) (path : PathBuf)
    (found₁ : (s.commits.insert id commit).lookup id₁ = some c₁)
    (found₂ : (s.commits.insert id commit).lookup id₂ = some c₂)
    (claimed₁ : c₁.claim.claimed = some path) (claimed₂ : c₂.claim.claimed = some path) :
    id₁ = id₂ :=
  Table.unique_insert (R := fun c c' => c.claim.claimed = some path ∧ c'.claim.claimed = some path)
    (fun _ _ => And.symm)
    (fun id₁ c₁ id₂ c₂ found₁ found₂ ⟨first, second⟩ =>
      sound.distinct id₁ c₁ id₂ c₂ path found₁ found₂ first second)
    (fun id' other found' ⟨first, second⟩ => new id' other path found' first second)
    id₁ c₁ id₂ c₂ found₁ found₂ ⟨claimed₁, claimed₂⟩

theorem change (sound : s.Sound) (found : s.commits.lookup id = some commit)
    (running : commit.claim.finished = false) (moves : Moves s.fs fs commit commit') :
    Sound { fs, commits := s.commits.insert id commit' } := by
  have tmp := moves.tmp
  obtain ⟨pid, wanted, inode, whole, told, kept, own, claims⟩ := moves
  -- Names that no temporary file had are still no temporary names.
  have away :
      ∀ path, (∀ id' other, s.commits.lookup id' = some other → other.claim.finished = false →
        other.tmp ≠ path) →
      ∀ id' other, (s.commits.insert id commit').lookup id' = some other →
        other.claim.finished = false →
        other.tmp ≠ path := by
    intro path before
    refine Table.forall_insert (fun _ => ?_) fun id' other found' _ => before id' other found'
    rw [tmp]
    exact before id commit found running
  have still : ∀ path inode', s.fs.lookup path = some (.file inode') → path ≠ commit.tmp →
      fs.lookup path = some (.file inode') := by
    intro path inode' there other
    rw [kept path other (by rw [there]; exact Option.some_ne_none _), there]
  have keeps : ∀ id' other path, s.commits.lookup id' = some other →
      other.claim.claimed = some path →
      fs.lookup path = some (.file other.inode) := by
    intro id' other path found' same
    obtain ⟨there, apart⟩ := sound.claimed id' other path found' same
    exact still path other.inode there (Ne.symm (apart id commit found running))
  refine ⟨whole, ?_, ?_, ?_, ?_, ?_⟩
  · exact Table.forall_insert told fun id' other found' _ => sound.told id' other found'
  · refine Table.forall_insert (fun unfinished => ?_) fun id' other found' ne unfinished => ?_
    · rw [tmp, inode]
      exact own unfinished
    · refine still _ _ (sound.own id' other found' unfinished) fun same => ne ?_
      exact sound.pids id' other id commit found' found unfinished running (tempPath_pid same)
  · refine sound.pids_insert fun id' other found' _ unfinished same => ?_
    rw [pid] at same
    exact (sound.pids id commit id' other found found' running unfinished same).symm
  · intro id' other path found' same
    refine Table.forall_insert (P := fun _ other => other.claim.claimed = some path →
      fs.lookup path = some (.file other.inode) ∧ _)
      (fun same => ?_) (fun id' other found' _ same => ?_) id' other found' same
    · rw [inode]
      rcases claims path same with before | ⟨absent, there⟩
      · exact ⟨keeps id commit path found before,
          away path (sound.claimed id commit path found before).2⟩
      · refine ⟨there, away path fun id' other found' unfinished same => ?_⟩
        rw [← same, sound.own id' other found' unfinished] at absent
        cases absent
    · exact ⟨keeps id' other path found' same,
        away path (sound.claimed id' other path found' same).2⟩
  · -- A name that another commit has is there, so it is not one newly claimed.
    refine sound.distinct_insert fun id' other path found' mine theirs => ?_
    rcases claims path mine with before | ⟨absent, -⟩
    · exact sound.distinct id' other id commit path found' found theirs before
    · rw [(sound.claimed id' other path found' theirs).1] at absent
      cases absent

/-- Each call of a claim, in a sound tree. -/
theorem moves (sound : s.Sound) (found : s.commits.lookup id = some commit)
    (running : commit.claim.finished = false) (broken : Bool) :
    Moves s.fs (commit.claim.step commit.tmp commit.wanted broken s.fs).1 commit
      (commit.next s.fs broken (commit.claim.step commit.tmp commit.wanted broken s.fs).2) := by
  have told := sound.told id commit found
  have there := sound.own id commit found running
  obtain ⟨pid, wanted, inode, claim, tried, failed⟩ := commit
  have stays : ∀ p, p ≠ tempPath pid wanted → s.fs.lookup p ≠ none →
      s.fs.lookup p = s.fs.lookup p := fun _ _ _ => rfl
  unfold Commit.Told at told
  cases claim with
  | link left =>
    obtain ⟨met, all, record⟩ := told
    cases left with
    | nil =>
      refine ⟨rfl, rfl, rfl, sound.whole, .inr ?_, stays, fun unfinished => (by cases unfinished),
        fun _ same => (by cases same)⟩
      show tried ++ [] = (candidates wanted).map (·, true)
      rw [show candidates wanted = met ++ [] from all, List.append_nil, List.append_nil]
      exact record
    | cons candidate left =>
      have parent : s.fs.lookup candidate.dropLast = some .dir := by
        have inside : candidate ∈ candidates wanted := by
          rw [all]
          exact List.mem_append_right _ List.mem_cons_self
        rw [candidates_dropLast inside, ← tempPath_dropLast pid wanted]
        refine sound.whole _ ?_
        rw [show s.fs.lookup (tempPath pid wanted) = some (.file inode) from there]
        exact Option.some_ne_none _
      dsimp only [Claim.step, Commit.tmp] at there ⊢
      rw [hardLink_file there]
      rcases taken : s.fs.lookup candidate with _ | node
      · have linked :
            s.fs.make candidate (.file inode) = .ok (s.fs.insert candidate (.file inode)) :=
          make_eq_ok.mpr ⟨taken, parent, rfl⟩
        have other : tempPath pid wanted ≠ candidate := by
          intro same
          rw [same, taken] at there
          cases there
        rw [linked]
        refine ⟨rfl, rfl, rfl, sound.whole.insert taken parent, ⟨met, left, all, ?_⟩, ?_, ?_, ?_⟩
        · dsimp only [Commit.next, Claim.tries] at record ⊢
          rw [record, taken]
          rfl
        · intro p _ present
          rw [Table.lookup_insert_eq, if_neg]
          rintro rfl
          exact present taken
        · intro _
          exact (AList.lookup_insert_ne other).trans there
        · rintro _ ⟨⟩
          exact .inr ⟨taken, AList.lookup_insert _⟩
      · have refused : s.fs.make candidate (.file inode) = .error .alreadyExists := by
          rw [make, if_pos (by rw [taken]; exact Option.some_ne_none _)]
        rw [refused]
        refine ⟨rfl, rfl, rfl, sound.whole, ⟨met ++ [candidate], ?_, ?_⟩, stays, fun _ => there,
          fun _ same => (by cases same)⟩
        · rw [List.append_assoc]
          exact all
        · dsimp only [Commit.next, Claim.tries] at record ⊢
          rw [record, taken, List.map_append]
          rfl
  | unlink path =>
    cases broken with
    | true =>
      refine ⟨rfl, rfl, rfl, sound.whole, .inl ?_, stays, fun unfinished => (by cases unfinished),
        fun _ same => (by cases same)⟩
      exact Bool.or_true _
    | false =>
      have removed : s.fs.unlink (tempPath pid wanted) = .ok (s.fs.erase (tempPath pid wanted)) :=
        unlink_file there
      have step : (Claim.unlink path).step (tempPath pid wanted) wanted false s.fs =
          (s.fs.erase (tempPath pid wanted), .done (.ok path)) := by
        rw [Claim.step, removed]
        rfl
      dsimp only [Commit.tmp] at there ⊢
      rw [step]
      refine ⟨rfl, rfl, rfl, ?_, ?_, ?_, fun unfinished => (by cases unfinished), ?_⟩
      · refine sound.whole.erase (sound.whole.leaf there (by simp)) ?_
        exact List.append_ne_nil_of_right_ne_nil _ (List.cons_ne_nil _ _)
      · obtain ⟨met, left, all, record⟩ := told
        exact ⟨met, left, all, (List.append_nil _).trans record⟩
      · intro p other _
        exact AList.lookup_erase_ne other
      · rintro _ ⟨⟩
        exact .inl rfl
  | look left => exact told.elim
  | rename target => exact told.elim
  | done result => cases running

/-- A tree that only gains entries. -/
theorem grow (sound : s.Sound) (whole : fs.WellFormed)
    (kept : ∀ p, s.fs.lookup p ≠ none → fs.lookup p = s.fs.lookup p) : Sound { s with fs } where
  whole := whole
  told := sound.told
  own id commit found running := by
    have there := sound.own id commit found running
    rw [kept _ (by rw [there]; exact Option.some_ne_none _), there]
  pids := sound.pids
  claimed id commit path found same := by
    obtain ⟨there, away⟩ := sound.claimed id commit path found same
    exact ⟨by rw [kept _ (by rw [there]; exact Option.some_ne_none _), there], away⟩
  distinct := sound.distinct

/-- A new temporary file of a process that has no other. -/
theorem opens (sound : s.Sound) {pid inode : Nat} {wanted : PathBuf}
    (idle : ∀ id' commit, s.commits.lookup id' = some commit → commit.pid = pid →
      commit.claim.finished = true)
    (absent : s.fs.lookup (tempPath pid wanted) = none)
    (parent : s.fs.lookup (tempPath pid wanted).dropLast = some .dir) :
    Sound { fs := s.fs.insert (tempPath pid wanted) (.file inode)
            commits := s.commits.insert id
              { pid, wanted, inode, claim := .start wanted, tried := [], failed := false } } := by
  have kept : ∀ p node, s.fs.lookup p = some node →
      (s.fs.insert (tempPath pid wanted) (.file inode)).lookup p = some node := by
    intro p node there
    rw [Table.lookup_insert_eq, if_neg, there]
    rintro rfl
    rw [absent] at there
    cases there
  refine ⟨sound.whole.insert absent parent, ?_, ?_, ?_, ?_, ?_⟩
  · exact Table.forall_insert ⟨[], rfl, rfl⟩ fun id' commit found _ => sound.told id' commit found
  · exact Table.forall_insert (fun _ => AList.lookup_insert _)
      fun id' commit found _ running => kept _ _ (sound.own id' commit found running)
  · refine sound.pids_insert fun id' other found _ running same => ?_
    rw [idle id' other found same.symm] at running
    cases running
  · intro id' commit path found same
    refine Table.forall_insert (P := fun _ commit => commit.claim.claimed = some path →
        (s.fs.insert (tempPath pid wanted) (.file inode)).lookup path =
          some (.file commit.inode) ∧ _)
      (fun same => by cases same) (fun id' commit found _ same => ?_) id' commit found same
    obtain ⟨there, away⟩ := sound.claimed id' commit path found same
    refine ⟨kept _ _ there, Table.forall_insert (fun _ => ?_) fun id'' other found' _ =>
      away id'' other found'⟩
    rintro rfl
    exact Option.some_ne_none _ (there.symm.trans absent)
  · refine sound.distinct_insert fun id' other path _ mine _ => ?_
    cases mine

/-- The path is no temporary name of an unfinished commit. -/
def Outside (s : SharedTree) (path : PathBuf) : Prop :=
  ∀ id commit, s.commits.lookup id = some commit → commit.claim.finished = false → commit.tmp ≠ path

theorem step {s' : SharedTree} (sound : s.Sound) {step : TreeStep} (taken : s.step step = some s') :
    s'.Sound ∧ ∀ path, s.fs.lookup path ≠ none → Outside s path →
      s'.fs.lookup path = s.fs.lookup path ∧ Outside s' path := by
  cases step with
  | makes path node =>
    unfold SharedTree.step at taken
    dsimp only at taken
    split at taken
    · rename_i fs made
      cases taken
      obtain ⟨absent, parent, rfl⟩ := make_eq_ok.mp made
      have kept : ∀ p, s.fs.lookup p ≠ none → (s.fs.insert path node).lookup p = s.fs.lookup p := by
        intro p there
        rw [Table.lookup_insert_eq, if_neg]
        rintro rfl
        exact there absent
      exact ⟨sound.grow (sound.whole.insert absent parent) kept,
        fun p there outside => ⟨kept p there, outside⟩⟩
    · cases taken
  | opens id pid wanted inode =>
    unfold SharedTree.step at taken
    dsimp only at taken
    split at taken
    · cases taken
    · rename_i free
      rw [not_or, Option.not_isSome_iff_eq_none] at free
      obtain ⟨-, idle⟩ := free
      split at taken
      · rename_i fs made
        cases taken
        obtain ⟨absent, parent, rfl⟩ := make_eq_ok.mp made
        refine ⟨sound.opens ?_ absent parent, fun path there outside => ⟨?_, ?_⟩⟩
        · intro id' commit found same
          by_contra running
          exact idle ⟨commit, Table.mem_values.mpr ⟨id', found⟩, same,
            Bool.eq_false_iff.mpr running⟩
        · dsimp only
          rw [Table.lookup_insert_eq, if_neg]
          rintro rfl
          exact there absent
        · refine Table.forall_insert (fun _ => ?_) fun id' commit found _ =>
            outside id' commit found
          rintro rfl
          exact there absent
      · cases taken
  | claims id broken =>
    obtain ⟨commit, picked, rfl⟩ := Option.map_eq_some_iff.mp taken
    obtain ⟨found, running⟩ := Option.filter_eq_some_iff.mp picked
    have running : commit.claim.finished = false := by simpa using running
    have moves := sound.moves found running broken
    refine ⟨sound.change found running moves, fun path there outside => ⟨?_, ?_⟩⟩
    · exact moves.kept path (Ne.symm (outside id commit found running)) there
    · refine Table.forall_insert (fun _ => ?_) fun id' other found' _ => outside id' other found'
      rw [moves.tmp]
      exact outside id commit found running

theorem run {s' : SharedTree} {steps : List TreeStep} (sound : s.Sound)
    (ran : s.run steps = some s') :
    s'.Sound ∧ ∀ path, s.fs.lookup path ≠ none → Outside s path →
      s'.fs.lookup path = s.fs.lookup path := by
  induction steps generalizing s with
  | nil =>
    cases ran
    exact ⟨sound, fun _ _ _ => rfl⟩
  | cons step steps ih =>
    obtain ⟨mid, taken, rest⟩ := Option.bind_eq_some_iff.mp ran
    obtain ⟨sound', kept⟩ := sound.step taken
    obtain ⟨sound'', kept'⟩ := ih sound' rest
    refine ⟨sound'', fun path there outside => ?_⟩
    obtain ⟨same, outside'⟩ := kept path there outside
    rw [← same] at there ⊢
    exact kept' path there outside'

end SharedTree.Sound

/-! ### Main result -/

def SharedTree.start (fs : FileSystem OsStr) : SharedTree := { fs, commits := ∅ }

/-- In any interleaving, from any state that can be reached: what is there stays as it is, apart
from the temporary file of a commit. A commit that returns a path has taken the first candidate
that was free when tried, its file is there, and no other commit returns that path. One that
returns an error has found all candidates taken, or could not remove the temporary name. -/
theorem claims_never_replace (fs : FileSystem OsStr) (whole : fs.WellFormed)
    (before after : List TreeStep) (s s' : SharedTree)
    (reached : (SharedTree.start fs).run before = some s) (ran : s.run after = some s') :
    (∀ path node, s.fs.lookup path = some node →
      (∀ id commit, s.commits.lookup id = some commit → commit.claim.finished = false →
        commit.tmp ≠ path) →
      s'.fs.lookup path = some node) ∧
    ∀ id commit, s'.commits.lookup id = some commit →
      (∀ path, commit.claim = .done (.ok path) →
        commit.Took path ∧ s'.fs.lookup path = some (.file commit.inode) ∧
        ∀ id' other, s'.commits.lookup id' = some other → other.claim = .done (.ok path) →
          id' = id) ∧
      ∀ e, commit.claim = .done (.error e) →
        commit.failed = true ∨ commit.tried = (candidates commit.wanted).map (·, true) := by
  have start : (SharedTree.start fs).Sound := by
    refine ⟨whole, ?_, ?_, ?_, ?_, ?_⟩
    all_goals
      intro _ _
      intros
      contradiction
  obtain ⟨sound, -⟩ := start.run reached
  obtain ⟨sound', kept⟩ := sound.run ran
  refine ⟨fun path node there outside => ?_,
    fun id commit found => ⟨fun path done => ?_, fun e done => ?_⟩⟩
  · rw [kept path (by rw [there]; exact Option.some_ne_none _) outside, there]
  · have claimed : commit.claim.claimed = some path := by
      rw [done]
      rfl
    have told := sound'.told id commit found
    unfold Commit.Told at told
    rw [done] at told
    refine ⟨told, (sound'.claimed id commit path found claimed).1, fun id' other found' done' => ?_⟩
    have claimed' : other.claim.claimed = some path := by
      rw [done']
      rfl
    exact sound'.distinct id' other id commit path found' found claimed' claimed
  · have told := sound'.told id commit found
    unfold Commit.Told at told
    rw [done] at told
    exact told

def emptyTree : FileSystem OsStr := AList.insert [.utf8 "out"] .dir (AList.insert [] .dir ∅)

theorem emptyTree_wellFormed : emptyTree.WellFormed := wellFormed_root.insert rfl rfl

/-- Two processes want one name, and the second tries it after the first has it. -/
def race : List TreeStep :=
  let wanted : PathBuf := [.utf8 "out", .utf8 "flows.parquet"]
  [.opens 0 41 wanted 100, .opens 1 42 wanted 200, .claims 0 false, .claims 1 false,
    .claims 1 false, .claims 0 false, .claims 1 false]

example :
    ((SharedTree.start emptyTree).run race).map (fun s => s.commits.values.map fun commit =>
      commit.claim.claimed) =
      some [some [.utf8 "out", .utf8 "flows-1.parquet"],
        some [.utf8 "out", .utf8 "flows.parquet"]] := by decide +kernel

theorem race_never_replaces : ∃ s, (SharedTree.start emptyTree).run race = some s ∧
    s.fs.lookup [.utf8 "out"] = some .dir ∧
    ∀ id commit path, s.commits.lookup id = some commit → commit.claim = .done (.ok path) →
      s.fs.lookup path = some (.file commit.inode) := by
  have ran : ((SharedTree.start emptyTree).run race).isSome = true := by decide +kernel
  obtain ⟨s, ran⟩ := Option.isSome_iff_exists.mp ran
  obtain ⟨kept, settled⟩ := claims_never_replace emptyTree emptyTree_wellFormed [] race _ s rfl ran
  refine ⟨s, ran, kept _ _ rfl ?_,
    fun id commit path found done => ((settled id commit found).1 path done).2.1⟩
  intro _ _ found
  cases found

end Rustflow.Collect
