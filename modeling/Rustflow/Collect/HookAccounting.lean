import Rustflow.Collect.Hook
import Mathlib.Data.UInt
import Mathlib.Tactic.Abel

/-!
# Every job runs once

What the launcher was handed is what it has tried, in order, and what it still holds; what it
started is running or was reaped. The metrics count that over all launchers.
-/

namespace Rustflow.Collect
variable {C : Type}

def Attempt.failed (attempt : Attempt C) : Bool := attempt.child.isNone

/-- The command that was started. -/
def Attempt.command (attempt : Attempt C) : Option (C × PathBuf) :=
  attempt.child.map fun child => (child, attempt.job.path)

def LauncherPhase.isClosing : LauncherPhase → Bool
  | .recv => false
  | .reap closing _ | .startPending closing => closing
  | .shutdown | .returned => true

namespace Launcher
variable {l l' : Launcher C} {metrics metrics' : HookMetrics}

def succeeded (l : Launcher C) : Nat := l.reaped.countP fun command => command.2

/-- Failed to run, or ended without success. -/
def failed (l : Launcher C) : Nat :=
  l.attempts.countP Attempt.failed + l.reaped.countP fun command => !command.2

structure Sound (l : Launcher C) : Prop where
  few : l.running.length ≤ MAX_RUNNING
  sent : l.sent = l.received ++ l.queue
  inOrder : l.received = l.attempts.map Attempt.job ++ l.pending
  started : (l.attempts.filterMap Attempt.command).Perm (l.running ++ l.reaped.map Prod.fst)
  closing : l.phase.isClosing = true → l.closed = true ∧ l.queue = []
  returned : l.phase = .returned → l.pending = [] ∧ l.running = []

theorem sound_new (command : HookCommand) : (new command : Launcher C).Sound where
  few := Nat.zero_le _
  sent := rfl
  inOrder := rfl
  started := .refl _
  closing closing := by cases closing
  returned returned := by cases returned

/-- Every attempt is a command that runs or was reaped, or a failure. -/
theorem Sound.counts (sound : l.Sound) :
    l.attempts.length = l.running.length + l.succeeded + l.failed := by
  have started := sound.started.length_eq
  have tried : ∀ attempts : List (Attempt C),
      attempts.length = (attempts.filterMap Attempt.command).length +
        attempts.countP Attempt.failed := by
    intro attempts
    induction attempts with
    | nil => rfl
    | cons attempt attempts ih =>
      obtain ⟨job, child⟩ := attempt
      cases child with
      | none =>
        rw [List.filterMap_cons_none rfl, List.countP_cons_of_pos rfl, List.length_cons]
        omega
      | some child =>
        have command : (Attempt.mk job (some child)).command = some (child, job.path) := rfl
        rw [List.filterMap_cons_some command, List.countP_cons_of_neg (by simp [Attempt.failed]),
          List.length_cons, List.length_cons]
        omega
  have ended :=
    List.length_eq_countP_add_countP (fun command : (C × PathBuf) × Bool => command.2)
      (l := l.reaped)
  have others : (l.reaped.countP fun command => decide ¬command.2 = true) =
      l.reaped.countP fun command => !command.2 := by
    congr 1
    funext command
    cases command.2 <;> rfl
  rw [List.length_append, List.length_map] at started
  have all := tried l.attempts
  unfold succeeded failed
  omega

/-! ### One step -/

/-- What a step adds to the counters it adds to the counts of its launcher, and so with the
gauge. -/
structure Counted (l l' : Launcher C) (metrics metrics' : HookMetrics) : Prop where
  running : metrics'.hookRunning + l.running.length = metrics.hookRunning + l'.running.length
  completed : ∃ n, l'.succeeded = l.succeeded + n ∧ metrics'.hookCompleted = metrics.hookCompleted +
    UInt64.ofNat n
  errors : ∃ n, l'.failed = l.failed + n ∧ metrics'.hookErrors = metrics.hookErrors + UInt64.ofNat n

theorem counted_same (running : l'.running = l.running) (reaped : l'.reaped = l.reaped)
    (attempts : l'.attempts = l.attempts) :
    l.Counted l' metrics metrics := by
  refine ⟨by rw [running], ⟨0, ?_, (UInt64.add_zero _).symm⟩, ⟨0, ?_, (UInt64.add_zero _).symm⟩⟩
  · rw [succeeded, succeeded, reaped, Nat.add_zero]
  · rw [failed, failed, reaped, attempts, Nat.add_zero]

theorem Sound.startNext (sound : l.Sound) {child : Option C}
    (taken : l.startNext metrics child = some (l', metrics')) {closing : Bool}
    (starting : l.phase = .startPending closing) : l'.Sound ∧ l.Counted l' metrics metrics' := by
  unfold Launcher.startNext at taken
  split at taken
  · cases taken
  next job pending waits =>
  obtain ⟨room, taken⟩ := Option.ite_none_right_eq_some.mp taken
  have inOrder :
      l.received = (l.attempts ++ [Attempt.mk job child]).map Attempt.job ++ pending := by
    rw [sound.inOrder, waits, List.map_append, List.append_assoc]
    rfl
  have unreturned : l.phase ≠ .returned := by
    rw [starting]
    exact LauncherPhase.noConfusion
  cases child with
  | some child =>
    cases taken
    refine ⟨⟨?_, sound.sent, inOrder, ?_, sound.closing,
      fun returned => absurd returned unreturned⟩, ?_⟩
    · rw [List.length_append]
      exact room
    · have command : (Attempt.mk job (some child)).command = some (child, job.path) := rfl
      rw [List.filterMap_append, List.filterMap_cons_some command, List.append_assoc]
      exact (sound.started.append_right _).trans (by
        rw [List.append_assoc]
        exact (List.perm_append_comm).append_left _)
    · refine ⟨?_, ⟨0, rfl, (UInt64.add_zero _).symm⟩, ⟨0, ?_, (UInt64.add_zero _).symm⟩⟩
      · rw [List.length_append, List.length_singleton]
        push_cast
        ring
      · rw [failed, List.countP_append]
        rfl
  | none =>
    cases taken
    refine ⟨⟨sound.few, sound.sent, inOrder, ?_, sound.closing,
      fun returned => absurd returned unreturned⟩, rfl,
      ⟨0, rfl, (UInt64.add_zero _).symm⟩, ⟨1, ?_, rfl⟩⟩
    · rw [List.filterMap_append]
      exact (List.append_nil _).symm ▸ sound.started
    · have more : [Attempt.mk job (none : Option C)].countP Attempt.failed = 1 := rfl
      rw [failed, failed, List.countP_append, more]
      dsimp only
      omega

theorem Sound.reapNext (sound : l.Sound) {closing : Bool} {seen : Nat} {answer : TryWait}
    (taken : l.reapNext metrics closing seen answer = some (l', metrics'))
    (reaping : l.phase = .reap closing seen) :
    l'.Sound ∧ l.Counted l' metrics metrics' := by
  unfold Launcher.reapNext at taken
  split at taken
  · cases taken
  next command found =>
  obtain ⟨inside, is⟩ := List.getElem?_eq_some_iff.mp found
  have shorter := List.length_eraseIdx_add_one inside
  have unreturned : l.phase ≠ .returned := by
    rw [reaping]
    exact LauncherPhase.noConfusion
  have ended : ∀ success, Sound { l with
      running := l.running.eraseIdx seen
      reaped := l.reaped ++ [(command, success)] } := by
    intro success
    refine ⟨?_, sound.sent, sound.inOrder, ?_, sound.closing,
      fun returned => absurd returned unreturned⟩
    · have few := sound.few
      dsimp only
      omega
    · refine sound.started.trans ?_
      rw [List.map_append, ← List.append_assoc]
      refine ((List.getElem_cons_eraseIdx_perm inside).symm.append_right _).trans ?_
      rw [is]
      exact (List.perm_append_singleton _ _).symm
  dsimp only at taken
  split at taken
  · cases taken
    refine ⟨⟨sound.few, sound.sent, sound.inOrder, sound.started, ?_, LauncherPhase.noConfusion⟩,
      counted_same rfl rfl rfl⟩
    intro isClosing
    exact sound.closing (by rw [reaping]; exact isClosing)
  · cases taken
    refine ⟨ended true, ?_, ⟨1, List.countP_append, rfl⟩, ⟨0, ?_, (UInt64.add_zero _).symm⟩⟩
    · dsimp only
      omega
    · rw [failed, List.countP_append]
      rfl
  all_goals
    cases taken
    refine ⟨ended false, ?_, ⟨0, List.countP_append, (UInt64.add_zero _).symm⟩, ⟨1, ?_, rfl⟩⟩
    · dsimp only
      omega
    · rw [failed, List.countP_append]
      rfl

theorem Sound.step (sound : l.Sound) {step : LauncherStep C}
    (taken : l.step metrics step = some (l', metrics')) :
    l'.Sound ∧ l.Counted l' metrics metrics' := by
  cases step with
  | sends job =>
    obtain ⟨open_, taken⟩ := Option.ite_none_left_eq_some.mp taken
    cases taken
    refine ⟨⟨sound.few, ?_, sound.inOrder, sound.started,
      fun closing => absurd (sound.closing closing).1 open_, sound.returned⟩,
      counted_same rfl rfl rfl⟩
    dsimp only
    rw [sound.sent, List.append_assoc]
  | closes =>
    obtain ⟨-, taken⟩ := Option.ite_none_left_eq_some.mp taken
    cases taken
    exact ⟨⟨sound.few, sound.sent, sound.inOrder, sound.started,
      fun closing => ⟨rfl, (sound.closing closing).2⟩, sound.returned⟩,
      counted_same rfl rfl rfl⟩
  | receives =>
    unfold Launcher.step at taken
    dsimp only at taken
    split at taken
    · next job queue _ waits =>
      cases taken
      refine ⟨⟨sound.few, ?_, ?_, sound.started, nofun, nofun⟩, counted_same rfl rfl rfl⟩
      · dsimp only
        rw [sound.sent, waits, List.append_assoc]
        rfl
      · dsimp only
        rw [sound.inOrder, List.append_assoc]
    · cases taken
  | timesOut =>
    obtain ⟨-, taken⟩ := Option.ite_none_right_eq_some.mp taken
    cases taken
    exact ⟨⟨sound.few, sound.sent, sound.inOrder, sound.started, nofun, nofun⟩,
      counted_same rfl rfl rfl⟩
  | disconnects =>
    obtain ⟨⟨-, empty, closed⟩, taken⟩ := Option.ite_none_right_eq_some.mp taken
    cases taken
    exact ⟨⟨sound.few, sound.sent, sound.inOrder, sound.started, fun _ => ⟨closed, empty⟩, nofun⟩,
      counted_same rfl rfl rfl⟩
  | waits answer =>
    unfold Launcher.step at taken
    dsimp only at taken
    split at taken
    · next reaping => exact sound.reapNext taken reaping
    · cases taken
  | spawns child =>
    unfold Launcher.step at taken
    dsimp only at taken
    split at taken
    · next starting => exact sound.startNext taken starting
    · cases taken
  | goesOn =>
    unfold Launcher.step at taken
    dsimp only at taken
    split at taken
    · next closing seen reaping =>
      obtain ⟨-, taken⟩ := Option.ite_none_left_eq_some.mp taken
      cases taken
      refine ⟨⟨sound.few, sound.sent, sound.inOrder, sound.started,
        fun isClosing => sound.closing ?_, ?_⟩, counted_same rfl rfl rfl⟩
      · rw [reaping]
        cases closing with
        | true => rfl
        | false => cases isClosing
      · cases closing <;> exact nofun
    · next closing starting =>
      obtain ⟨-, taken⟩ := Option.ite_none_left_eq_some.mp taken
      cases taken
      refine ⟨⟨sound.few, sound.sent, sound.inOrder, sound.started,
        fun isClosing => sound.closing ?_, ?_⟩, counted_same rfl rfl rfl⟩
      · rw [starting]
        cases closing with
        | true => rfl
        | false => cases isClosing
      · cases closing <;> exact nofun
    · next atEnd =>
      cases taken
      have closing := sound.closing (by rw [atEnd]; rfl)
      refine ⟨⟨sound.few, sound.sent, sound.inOrder, sound.started, fun _ => closing, ?_⟩,
        counted_same rfl rfl rfl⟩
      split
      · exact nofun
      · next done =>
        rw [not_or, not_not, not_not] at done
        exact fun _ => done
    all_goals cases taken

end Launcher

/-! ### All launchers -/

namespace Hooks
variable {s s' : Hooks C} {start : HookMetrics}

/-- Every launcher is sound, and the metrics have grown by what they did. -/
structure Sound (start : HookMetrics) (s : Hooks C) : Prop where
  launchers : ∀ hook l, s.launchers.lookup hook = some l → l.Sound
  running : s.metrics.hookRunning = start.hookRunning + s.launchers.total fun _ l =>
    l.running.length
  completed : s.metrics.hookCompleted = start.hookCompleted +
    UInt64.ofNat (s.launchers.total fun _ l => l.succeeded)
  errors : s.metrics.hookErrors = start.hookErrors +
    UInt64.ofNat (s.launchers.total fun _ l => l.failed)

theorem sound_new : (new start : Hooks C).Sound start where
  launchers _ _ found := by cases found
  running := (Int.add_zero _).symm
  completed := (UInt64.add_zero _).symm
  errors := (UInt64.add_zero _).symm

theorem Sound.step (sound : s.Sound start) {step : HooksStep C} (taken : s.step step = some s') :
    s'.Sound start := by
  cases step with
  | spawn hook command root =>
    unfold Hooks.step at taken
    dsimp only at taken
    split at taken
    · next command absent _ =>
      cases taken
      have grown :=
        fun w : Launcher C → Nat => Table.total_insert (fun _ => w) s.launchers hook (.new command)
      simp only [absent, Option.elim_none, Nat.add_zero] at grown
      refine ⟨?_, ?_, ?_, ?_⟩
      · exact Table.forall_insert (Launcher.sound_new command) fun other l found _ =>
          sound.launchers other l found
      · dsimp only
        rw [grown]
        exact sound.running
      · dsimp only
        rw [grown]
        exact sound.completed
      · dsimp only
        rw [grown]
        exact sound.errors
    · cases taken
  | launcher hook step =>
    obtain ⟨l, found, taken⟩ := Option.bind_eq_some_iff.mp taken
    obtain ⟨⟨l', metrics'⟩, made, same⟩ := Option.bind_eq_some_iff.mp taken
    cases same
    obtain ⟨soundly, running, ⟨completed, succeeded, ofCompleted⟩, ⟨errors, failed, ofErrors⟩⟩ :=
      (sound.launchers hook l found).step made
    have grown := fun w : Launcher C → Nat => Table.total_insert (fun _ => w) s.launchers hook l'
    simp only [found, Option.elim_some] at grown
    refine ⟨?_, ?_, ?_, ?_⟩
    · exact Table.forall_insert soundly fun other l found _ => sound.launchers other l found
    · have total := grown fun l => l.running.length
      have before := sound.running
      dsimp only at total ⊢
      omega
    · have total := grown Launcher.succeeded
      rw [succeeded, Nat.add_comm l.succeeded, ← Nat.add_assoc, Nat.add_right_cancel_iff] at total
      dsimp only
      rw [total, UInt64.ofNat_add, ← UInt64.add_assoc, ← sound.completed, ofCompleted]
    · have total := grown Launcher.failed
      rw [failed, Nat.add_comm l.failed, ← Nat.add_assoc, Nat.add_right_cancel_iff] at total
      dsimp only
      rw [total, UInt64.ofNat_add, ← UInt64.add_assoc, ← sound.errors, ofErrors]

theorem Sound.run (sound : s.Sound start) {steps : List (HooksStep C)}
    (ran : s.run steps = some s') : s'.Sound start := by
  induction steps generalizing s with
  | nil =>
    cases ran
    exact sound
  | cons step steps ih =>
    obtain ⟨mid, taken, rest⟩ := Option.bind_eq_some_iff.mp ran
    exact ih (sound.step taken) rest

theorem Sound.grown (sound : s.Sound start) :
    s.metrics.hookCompleted + s.metrics.hookErrors + UInt64.ofNat (s.launchers.total fun _ l =>
      l.running.length) =
      start.hookCompleted + start.hookErrors + UInt64.ofNat (s.launchers.total fun _ l =>
        l.attempts.length) := by
  have counts : (s.launchers.total fun _ l => l.attempts.length) =
      (s.launchers.total fun _ l => l.running.length) + (s.launchers.total fun _ l => l.succeeded) +
        s.launchers.total fun _ l => l.failed := by
    have cover : ∀ hook, s.launchers.lookup hook ≠ none →
        hook ∈ ({.exec, .expireExec} : Finset Hook) := fun hook _ => by
      cases hook <;> decide
    rw [Table.total_eq_sum _ _ _ cover, Table.total_eq_sum _ _ _ cover,
      Table.total_eq_sum _ _ _ cover, Table.total_eq_sum _ _ _ cover, ← Finset.sum_add_distrib,
      ← Finset.sum_add_distrib]
    refine Finset.sum_congr rfl fun hook _ => ?_
    cases found : s.launchers.lookup hook with
    | none => rfl
    | some l => exact (sound.launchers hook l found).counts
  rw [sound.completed, sound.errors, counts, UInt64.ofNat_add, UInt64.ofNat_add]
  abel

/-! ### Main result -/

/-- What holds of the hooks at any time: no launcher has more commands at once than it may, the jobs
it received are those it tried, in their order, and those still pending, and each that it started
runs or was reaped. A launcher that returned has none left. The gauge shows the commands that run,
and the two counters together the others that were tried: where all launchers returned, or there is
just one, the jobs received. -/
structure RunEachOnce (start : HookMetrics) (s : Hooks C) : Prop where
  few : ∀ hook l, s.launchers.lookup hook = some l → l.running.length ≤ MAX_RUNNING
  inOrder : ∀ hook l, s.launchers.lookup hook = some l →
    l.received = l.attempts.map Attempt.job ++ l.pending
  once : ∀ hook l, s.launchers.lookup hook = some l →
    (l.attempts.filterMap Attempt.command).Perm (l.running ++ l.reaped.map Prod.fst)
  returned : ∀ hook l, s.launchers.lookup hook = some l → l.phase = .returned →
    l.pending = [] ∧ l.running = [] ∧ l.received = l.sent
  gauge : s.metrics.hookRunning = start.hookRunning + s.launchers.total fun _ l => l.running.length
  completed : s.metrics.hookCompleted = start.hookCompleted +
    UInt64.ofNat (s.launchers.total fun _ l => l.succeeded)
  errors : s.metrics.hookErrors = start.hookErrors +
    UInt64.ofNat (s.launchers.total fun _ l => l.failed)
  allReturned : (∀ hook l, s.launchers.lookup hook = some l → l.phase = .returned) →
    s.metrics.hookCompleted + s.metrics.hookErrors =
      start.hookCompleted + start.hookErrors + UInt64.ofNat (s.launchers.total fun _ l =>
        l.received.length)
  alone : ∀ hook l, s.launchers.lookup hook = some l →
    (∀ other, other ≠ hook → s.launchers.lookup other = none) →
    s.metrics.hookRunning = start.hookRunning + l.running.length ∧
      (l.phase = .returned → s.metrics.hookCompleted + s.metrics.hookErrors =
        start.hookCompleted + start.hookErrors + UInt64.ofNat l.received.length)

theorem run_each_once (start : HookMetrics) (steps : List (HooksStep C)) (s : Hooks C)
    (ran : (new start).run steps = some s) :
    s.RunEachOnce start := by
  have sound := (sound_new (C := C)).run ran
  have allReturned : (∀ hook l, s.launchers.lookup hook = some l → l.phase = .returned) →
      s.metrics.hookCompleted + s.metrics.hookErrors =
        start.hookCompleted + start.hookErrors + UInt64.ofNat (s.launchers.total fun _ l =>
          l.received.length) := by
    intro returned
    have idle : (s.launchers.total fun _ l => l.running.length) = s.launchers.total fun _ _ => 0 :=
      Table.total_congr fun hook => by
        cases found : s.launchers.lookup hook with
        | none => rfl
        | some l =>
          exact congrArg List.length ((sound.launchers hook l found).returned
            (returned hook l found)).2
    have none : (s.launchers.total fun _ (_ : Launcher C) => 0) = 0 := by
      rw [Table.total]
      exact List.sum_eq_zero fun n mem => (List.mem_map.mp mem).choose_spec.2.symm
    have tried : (s.launchers.total fun _ l => l.received.length) = s.launchers.total fun _ l =>
        l.attempts.length :=
      Table.total_congr fun hook => by
        cases found : s.launchers.lookup hook with
        | none => rfl
        | some l =>
          have soundly := sound.launchers hook l found
          show l.received.length = l.attempts.length
          rw [soundly.inOrder, (soundly.returned (returned hook l found)).1, List.append_nil,
            List.length_map]
    have grown := sound.grown
    rw [idle, none] at grown
    rw [tried, ← grown]
    exact (UInt64.add_zero _).symm
  refine
    { few := fun hook l found => (sound.launchers hook l found).few
      inOrder := fun hook l found => (sound.launchers hook l found).inOrder
      once := fun hook l found => (sound.launchers hook l found).started
      returned := fun hook l found returned => ?_
      gauge := sound.running
      completed := sound.completed
      errors := sound.errors
      allReturned
      alone := fun hook l found only => ⟨?_, fun returned => ?_⟩ }
  · have soundly := sound.launchers hook l found
    have closed := soundly.closing (by rw [returned]; rfl)
    exact ⟨(soundly.returned returned).1,
      (soundly.returned returned).2, by rw [soundly.sent, closed.2, List.append_nil]⟩
  · rw [sound.running, Table.total_only only, found]
    rfl
  · have total := allReturned fun other l' found' => by
      by_cases same : other = hook
      · rw [same, found] at found'
        cases found'
        exact returned
      · rw [only other same] at found'
        cases found'
    rwa [Table.total_only only, found] at total

/-- Of two jobs the first ends well, and the second cannot be started. -/
def twoJobs : List (HooksStep Nat) :=
  .spawn .exec "mv %f /archive".toList [] ::
    [.sends ⟨[.utf8 "a"], ⟨0⟩⟩, .sends ⟨[.utf8 "b"], ⟨0⟩⟩, .receives, .goesOn, .spawns (some 1),
      .goesOn, .closes, .receives, .waits .running, .goesOn, .spawns none, .goesOn, .disconnects,
      .goesOn, .goesOn, .waits (.exited true), .goesOn, .goesOn].map (.launcher .exec)

theorem twoJobs_run_each_once : ∃ s : Hooks Nat, (new ⟨0, 0, 0⟩).run twoJobs = some s ∧
    (s.launchers.lookup .exec).map Launcher.phase = some .returned ∧ s.RunEachOnce ⟨0, 0, 0⟩ := by
  have ended :
      (((new ⟨0, 0, 0⟩ : Hooks Nat).run twoJobs).bind fun s =>
        (s.launchers.lookup .exec).map Launcher.phase) =
      some .returned := by rfl
  obtain ⟨s, ran, returned⟩ := Option.bind_eq_some_iff.mp ended
  exact ⟨s, ran, returned, run_each_once ⟨0, 0, 0⟩ twoJobs s ran⟩

end Hooks

end Rustflow.Collect
