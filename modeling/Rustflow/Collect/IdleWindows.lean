import Rustflow.Collect.Gregorian
import Rustflow.Collect.RotatingSink

/-!
# Files of idle intervals

A window that is opened by a write is handed that write, so once the sink has had its first write
every file it names has something in it. The window opened at startup is the exception: it is
closed as any other, and named whether or not it was written to.
-/

namespace Rustflow.Collect
variable {F X : Type}

def ClosedFile.Written (file : ClosedFile F X) : Prop := file.name ≠ none → file.handed ≠ []

/-- The file was created and named, but its encoder could not open. -/
def Opening.Strays (io : Opening) : Prop :=
  io.created = true ∧ io.encoderOpens = false ∧ io.dropped ≠ none

namespace RotatingSink

def Sound (sink : RotatingSink F X) : Call F X → Prop
  | .write _ _ io => sink.ended = false → sink.current = none → ¬ io.Strays
  | _ => True

def SoundRun (calendar : Calendar) (sink : RotatingSink F X) : List (Call F X) → Prop
  | [] => True
  | call :: calls => sink.Sound call ∧ SoundRun calendar (sink.step calendar call) calls

/-- A write comes before the window that rotates at `rotateAt` is closed and named. -/
def WrittenFirst (rotateAt : Int) : List (Call F X) → Prop
  | [] => True
  | .write _ _ _ :: _ => True
  | .flush :: calls => WrittenFirst rotateAt calls
  | .rotateIfDue now io :: calls => if rotateAt ≤ now.timestamp then io.claimed = none
      else WrittenFirst rotateAt calls
  | .finish io :: _ => io.claimed = none
  | .drop name :: _ => name = none

/-- The current window, if any, was handed something. -/
def Busy (sink : RotatingSink F X) : Prop :=
  ∀ window, sink.current = some window → window.handed ≠ []

/-- The current window was handed nothing and has a file. -/
structure Idle (sink : RotatingSink F X) (rotateAt : Int) (pending : PendingRename) : Prop where
  running : sink.ended = false
  current : sink.current = some { handed := [], pending := some pending, rotateAt := some rotateAt }

variable {calendar : Calendar} {sink : RotatingSink F X} {layout : Layout} {intervalSecs : Int}

def AllWritten (sink : RotatingSink F X) : Prop := ∀ file ∈ sink.files, file.Written

theorem allWritten_leave {window : Window F X} {name : Option PathBuf} :
    (sink.leave window name).AllWritten ↔
      sink.AllWritten ∧ (window.pending ≠ none → name ≠ none → window.handed ≠ []) := by
  unfold AllWritten leave
  rw [List.forall_mem_append]
  apply and_congr_right
  intro _
  cases window.pending with
  | none => simp
  | some pending => simp [ClosedFile.Written]

def JobsNamed (sink : RotatingSink F X) : Prop :=
  ∀ job ∈ sink.jobs, ∃ file ∈ sink.files, file.name = some job.path ∧
    file.pending.window = job.window

theorem jobsNamed_leave {window : Window F X} {name : Option PathBuf} (named : sink.JobsNamed) :
    (sink.leave window name).JobsNamed := by
  intro job told
  obtain ⟨file, inside, same⟩ := named job told
  exact ⟨file, List.mem_append_left _ inside, same⟩

theorem jobsNamed_close {window : Window F X} {io : Closing} (named : sink.JobsNamed) :
    (sink.close window io).JobsNamed := by
  intro job told
  rcases List.mem_append.mp told with before | new
  · exact jobsNamed_leave named job before
  · obtain ⟨pending, kept, new⟩ := Option.bind_eq_some_iff.mp (Option.mem_toList.mp new)
    obtain ⟨path, claimed, new⟩ := Option.bind_eq_some_iff.mp new
    split at new
    · cases new
      refine ⟨⟨pending, window.handed, io.claimed⟩, ?_, claimed, rfl⟩
      refine List.mem_append_right _ ?_
      rw [kept]
      exact List.mem_singleton_self _
    · cases new

def newWindow (F X : Type) (calendar : Calendar) (pid : Nat) (layout : Layout) (intervalSecs : Int)
    (now : DateTime) :
    Window F X where
  handed := []
  pending :=
    some (Destination.pendingFor calendar pid layout (Destination.windowStamp intervalSecs now))
  rotateAt := some (Destination.windowStart intervalSecs now.timestamp + intervalSecs)

theorem openWindow_eq (place : sink.destination = .partitioned layout intervalSecs) (now : DateTime)
    (io : Opening) :
    openWindow calendar sink now io =
      if io.created = false then sink
      else if io.encoderOpens = false then
        sink.leave (newWindow F X calendar sink.pid layout intervalSecs now) io.dropped
      else
        { sink with current := some (newWindow F X calendar sink.pid layout intervalSecs
          now) } := by
  unfold openWindow
  rw [place]
  simp only [Destination.openFor, Option.isSome_some, true_and]
  rfl

theorem allWritten_close {window : Window F X} {io : Closing} :
    (sink.close window io).AllWritten ↔
      sink.AllWritten ∧ (window.pending ≠ none → io.claimed ≠ none → window.handed ≠ []) :=
  allWritten_leave

theorem step_destination (call : Call F X) :
    (sink.step calendar call).destination = sink.destination := by
  unfold step
  split
  · rfl
  cases call with
  | write record now io =>
    unfold write openWindow leave
    cases sink.current with
    | some window => rfl
    | none =>
      dsimp only
      split
      · rfl
      split <;> rfl
  | rotateIfDue now io =>
    unfold rotateIfDue
    cases sink.current with
    | none => rfl
    | some window =>
      dsimp only
      split <;> rfl
  | flush => rfl
  | finish io =>
    unfold finish
    cases sink.current <;> rfl
  | drop name =>
    unfold drop
    cases sink.current <;> rfl

variable (calendar) in
/-- A write leaves the window it went to with something in it. -/
theorem write_step (place : sink.destination = .partitioned layout intervalSecs)
    (running : sink.ended = false) (record : SinkRecord F X) (now : DateTime) (io : Opening) :
    (sink.write calendar record now io).Busy ∧ (sink.write calendar record now io).ended = false ∧
      ((sink.write calendar record now io).AllWritten ↔ sink.AllWritten ∧
        sink.Sound (.write record now io)) := by
  unfold write
  cases current : sink.current with
  | some window =>
    dsimp only
    rw [current]
    refine ⟨?_, running, ?_⟩
    · rintro after same
      cases same
      simp
    · simp [Sound, current, AllWritten]
  | none =>
    dsimp only
    rw [openWindow_eq place]
    rcases made : io.created with _ | _
    · rw [if_pos rfl, current]
      refine ⟨fun _ same => (by cases same), running, ?_⟩
      simp [Sound, Opening.Strays, made, AllWritten]
    rw [if_neg (by simp)]
    rcases opens : io.encoderOpens with _ | _
    · rw [if_pos rfl]
      have kept :
          (sink.leave (newWindow F X calendar sink.pid layout intervalSecs now)
            io.dropped).current = none :=
        current
      rw [kept]
      refine ⟨fun _ same => (by cases same), running, ?_⟩
      have written :
          (sink.leave (newWindow F X calendar sink.pid layout intervalSecs now)
            io.dropped).AllWritten ↔ _ :=
        allWritten_leave
      refine written.trans (and_congr_right fun _ => ?_)
      simp [newWindow, Sound, running, current, Opening.Strays, made, opens]
    · rw [if_neg (by simp)]
      refine ⟨?_, running, ?_⟩
      · rintro after same
        cases same
        simp
      · simp [Sound, Opening.Strays, opens, AllWritten]

variable (calendar) in
/-- Once the current window was handed something, only an opening can leave an empty file. -/
theorem busy_step (place : sink.destination = .partitioned layout intervalSecs) (busy : sink.Busy)
    (call : Call F X) :
    (sink.step calendar call).Busy ∧
      ((sink.step calendar call).AllWritten ↔ sink.AllWritten ∧ sink.Sound call) := by
  unfold step
  rcases running : sink.ended with _ | _
  · rw [if_neg (by simp)]
    cases call with
    | write record now io =>
      obtain ⟨still, -, written⟩ := write_step calendar place running record now io
      exact ⟨still, written⟩
    | rotateIfDue now io =>
      simp only [rotateIfDue, Sound, and_true]
      cases current : sink.current with
      | none => exact ⟨busy, Iff.rfl⟩
      | some window =>
        dsimp only
        split
        · refine ⟨fun _ same => (by cases same), ?_⟩
          rw [allWritten_close, and_iff_left fun _ _ => busy window current]
        · exact ⟨busy, Iff.rfl⟩
    | flush => exact ⟨busy, by simp [Sound]⟩
    | finish io =>
      simp only [finish, Sound, and_true]
      cases current : sink.current with
      | none => exact ⟨fun window same => busy window (current ▸ same), Iff.rfl⟩
      | some window =>
        refine ⟨fun _ same => (by cases same), ?_⟩
        have written : (sink.close window io).AllWritten ↔ _ := allWritten_close
        rw [and_iff_left fun _ _ => busy window current] at written
        exact written
    | drop name =>
      simp only [drop, Sound, and_true]
      refine ⟨fun _ same => (by cases same), ?_⟩
      cases current : sink.current with
      | none => exact Iff.rfl
      | some window =>
        have written : (sink.leave window name).AllWritten ↔ _ := allWritten_leave
        rw [and_iff_left fun _ _ => busy window current] at written
        exact written
  · rw [if_pos rfl]
    refine ⟨busy, ?_⟩
    cases call <;> simp [Sound, running]

theorem busy_run (place : sink.destination = .partitioned layout intervalSecs) (busy : sink.Busy)
    (calls : List (Call F X)) :
    (sink.run calendar calls).AllWritten ↔ sink.AllWritten ∧ SoundRun calendar sink calls := by
  induction calls generalizing sink with
  | nil => simp [run, SoundRun]
  | cons call calls ih =>
    obtain ⟨still, written⟩ := busy_step calendar place busy call
    rw [run, List.foldl_cons, ← run, ih ((step_destination call).trans place) still, written,
      SoundRun, and_assoc]

theorem step_ended (ended : sink.ended = true) (call : Call F X) : sink.step calendar call = sink :=
  if_pos ended

variable (calendar) in
theorem ended_run (ended : sink.ended = true) (calls : List (Call F X)) :
    sink.run calendar calls = sink ∧ SoundRun calendar sink calls := by
  induction calls with
  | nil => exact ⟨rfl, trivial⟩
  | cons call calls ih =>
    have sound : sink.Sound call := by
      cases call <;> simp [Sound, ended]
    rw [run, List.foldl_cons, SoundRun, step_ended ended call]
    exact ⟨ih.1, sound, ih.2⟩

section
variable {rotateAt : Int} {pending : PendingRename}

/-- Closing a window that was handed nothing leaves an empty file, unless it cannot be named. -/
theorem Idle.allWritten_leave (idle : sink.Idle rotateAt pending) (name : Option PathBuf)
    {window : Window F X} (current : sink.current = some window) :
    (sink.leave window name).AllWritten ↔ sink.AllWritten ∧ name = none := by
  rw [idle.current] at current
  cases current
  rw [RotatingSink.allWritten_leave]
  simp

theorem Idle.run_iff (idle : sink.Idle rotateAt pending)
    (place : sink.destination = .partitioned layout intervalSecs) (calls : List (Call F X)) :
    (sink.run calendar calls).AllWritten ↔
      sink.AllWritten ∧ WrittenFirst rotateAt calls ∧ SoundRun calendar sink calls := by
  induction calls with
  | nil => simp [run, WrittenFirst, SoundRun]
  | cons call calls ih =>
    have running : ¬ sink.ended = true := by
      rw [idle.running]
      exact Bool.false_ne_true
    have onward :
        sink.run calendar (call :: calls) = (sink.step calendar call).run calendar calls := rfl
    rw [onward, SoundRun]
    cases call with
    | write record now io =>
      have stepped : sink.step calendar (.write record now io) =
          sink.write calendar record now io := if_neg running
      obtain ⟨busy, -, written⟩ := write_step calendar place idle.running record now io
      rw [← stepped] at busy written
      rw [busy_run ((step_destination _).trans place) busy, written]
      simp only [WrittenFirst, true_and, and_assoc]
    | flush =>
      have stepped : sink.step calendar .flush = sink := if_neg running
      rw [stepped, ih]
      simp only [WrittenFirst, Sound, true_and]
    | rotateIfDue now io =>
      have stepped : sink.step calendar (.rotateIfDue now io) = sink.rotateIfDue now io :=
        if_neg running
      simp only [WrittenFirst, Sound, true_and]
      by_cases due : rotateAt ≤ now.timestamp
      · have closed :
            sink.rotateIfDue now io = sink.close ⟨[], some pending, some rotateAt⟩ io := by
          simp only [rotateIfDue, idle.current, Window.due, due, decide_true, if_true]
        have written : (sink.close ⟨[], some pending, some rotateAt⟩ io).AllWritten ↔ _ :=
          idle.allWritten_leave io.claimed idle.current
        have busy : (sink.close ⟨[], some pending, some rotateAt⟩ io).Busy := fun _ same => by
          cases same
        rw [stepped, closed, busy_run (by exact place) busy, written, if_pos due, and_assoc]
      · have kept : sink.rotateIfDue now io = sink := by
          simp only [rotateIfDue, idle.current, Window.due, due, decide_false,
            Bool.false_eq_true, if_false]
        rw [stepped, kept, ih, if_neg due]
    | finish io =>
      have stepped : sink.step calendar (.finish io) = sink.finish io := if_neg running
      obtain ⟨stays, sound⟩ := ended_run calendar (by rfl : (sink.finish io).ended = true) calls
      have written : (sink.finish io).AllWritten ↔ sink.AllWritten ∧ io.claimed = none := by
        unfold finish
        rw [idle.current]
        exact idle.allWritten_leave io.claimed idle.current
      rw [stepped, stays, written]
      simp only [WrittenFirst, Sound, sound, and_true]
    | drop name =>
      have stepped : sink.step calendar (.drop name) = sink.drop name := if_neg running
      obtain ⟨stays, sound⟩ := ended_run calendar (by rfl : (sink.drop name).ended = true) calls
      have written : (sink.drop name).AllWritten ↔ sink.AllWritten ∧ name = none := by
        unfold drop
        rw [idle.current]
        exact idle.allWritten_leave name idle.current
      rw [stepped, stays, written]
      simp only [WrittenFirst, Sound, sound, and_true]

end

theorem step_jobsNamed (named : sink.JobsNamed) (call : Call F X) :
    (sink.step calendar call).JobsNamed := by
  unfold step
  split
  · exact named
  cases call with
  | write record now io =>
    show (write calendar sink record now io).JobsNamed
    unfold write
    cases sink.current with
    | some window => exact named
    | none =>
      show (openWindow calendar sink now io).JobsNamed
      unfold openWindow
      dsimp only
      split
      · exact named
      split
      · exact jobsNamed_leave named
      · exact named
  | rotateIfDue now io =>
    show (rotateIfDue sink now io).JobsNamed
    unfold rotateIfDue
    cases sink.current with
    | none => exact named
    | some window =>
      dsimp only
      split
      · exact jobsNamed_close named
      · exact named
  | flush => exact named
  | finish io =>
    show (finish sink io).JobsNamed
    unfold finish
    cases sink.current with
    | none => exact named
    | some window => exact jobsNamed_close named
  | drop name =>
    show (drop sink name).JobsNamed
    unfold drop
    cases sink.current with
    | none => exact named
    | some window => exact jobsNamed_leave named

theorem run_jobsNamed (named : sink.JobsNamed) (calls : List (Call F X)) :
    (sink.run calendar calls).JobsNamed := by
  induction calls generalizing sink with
  | nil => exact named
  | cons call calls ih => exact ih (step_jobsNamed named call)

/-- Every file with a final name was handed something, and the command was told about such files
only: an interval that brought nothing left nothing. -/
def LeavesNoEmptyFile (sink : RotatingSink F X) : Prop :=
  (∀ file ∈ sink.files, file.name ≠ none → file.handed ≠ []) ∧
  ∀ job ∈ sink.jobs, ∃ file ∈ sink.files,
    file.name = some job.path ∧ file.pending.window = job.window ∧ file.handed ≠ []

theorem leavesNoEmptyFile_iff (named : sink.JobsNamed) :
    sink.LeavesNoEmptyFile ↔ sink.AllWritten := by
  constructor
  · intro leaves
    exact leaves.1
  · intro written
    refine ⟨written, ?_⟩
    intro job told
    obtain ⟨file, inside, name, window⟩ := named job told
    have final : file.name ≠ none := by
      rw [name]
      exact Option.some_ne_none _
    exact ⟨file, inside, name, window, written file inside final⟩

/-- Opening a sink either ends it at once, with a file only if that strays, or leaves it idle. -/
theorem openAt_cases (calendar : Calendar) (layout : Layout) (intervalSecs : Int) (pid : Nat)
    (hook : Bool) (now : DateTime) (io : Opening) :
    let sink : RotatingSink F X :=
      openAt calendar (.partitioned layout intervalSecs) pid hook now io
    sink.JobsNamed ∧ sink.destination = .partitioned layout intervalSecs ∧
    ((sink.ended = true ∧ (sink.AllWritten ↔ ¬ io.Strays) ∧
      ¬ (io.created = true ∧ io.encoderOpens = true)) ∨
      (sink.AllWritten ∧ ¬ io.Strays ∧ io.created = true ∧ io.encoderOpens = true ∧
        ∃ pending, sink.Idle (Destination.windowStart intervalSecs now.timestamp + intervalSecs)
          pending)) := by
  have nothing :
      (unopened (.partitioned layout intervalSecs) pid hook : RotatingSink F X).AllWritten :=
    fun _ inside => absurd inside List.not_mem_nil
  have silent :
      (unopened (.partitioned layout intervalSecs) pid hook : RotatingSink F X).JobsNamed :=
    fun _ told => absurd told List.not_mem_nil
  unfold openAt
  rw [openWindow_eq (by rfl :
    (unopened (.partitioned layout intervalSecs) pid hook : RotatingSink F X).destination = _)]
  rcases made : io.created with _ | _
  · rw [if_pos rfl]
    refine ⟨silent, rfl, .inl ⟨rfl, ?_, by simp⟩⟩
    exact iff_of_true nothing fun strays => by simp [strays.1] at made
  rw [if_neg (by simp)]
  rcases opens : io.encoderOpens with _ | _
  · rw [if_pos rfl]
    refine ⟨jobsNamed_leave silent, rfl, .inl ⟨rfl, ?_, by simp⟩⟩
    refine allWritten_leave.trans ?_
    rw [and_iff_right nothing]
    simp [newWindow, Opening.Strays, made, opens]
  · rw [if_neg (by simp)]
    refine ⟨silent, rfl, .inr ⟨nothing, fun strays => ?_, rfl, rfl, _, rfl, rfl⟩⟩
    simp [strays.2.1] at opens

/-- A run leaves no empty file exactly when the window of the startup is written to before it is
closed and named, and no file is named whose encoder could not open. -/
theorem leaves_no_empty_file_iff (calendar : Calendar) (layout : Layout) (intervalSecs : Int)
    (pid : Nat) (hook : Bool) (now : DateTime) (io : Opening) (calls : List (Call F X)) :
    ((openAt calendar (.partitioned layout intervalSecs) pid hook now io).run calendar
      calls).LeavesNoEmptyFile ↔
      ¬ io.Strays ∧
      (io.created = true → io.encoderOpens = true →
        WrittenFirst (Destination.windowStart intervalSecs now.timestamp + intervalSecs) calls) ∧
      SoundRun calendar (openAt calendar (.partitioned layout intervalSecs) pid hook now io)
        calls := by
  obtain ⟨silent, place, ⟨ended, written, failed⟩ | ⟨nothing, sound, made, opens, pending, idle⟩⟩ :=
    openAt_cases (F := F) (X := X) calendar layout intervalSecs pid hook now io
  · obtain ⟨stays, quiet⟩ := ended_run calendar ended calls
    rw [leavesNoEmptyFile_iff (run_jobsNamed silent calls), stays, written]
    refine (and_iff_left ⟨fun made opens => absurd ⟨made, opens⟩ failed, quiet⟩).symm
  · rw [leavesNoEmptyFile_iff (run_jobsNamed silent calls), idle.run_iff place calls]
    simp only [nothing, sound, made, opens, true_and, not_false_eq_true, true_implies]

/-- A sink that is opened at 12:03 with an interval of ten minutes and hears nothing until 12:10. -/
def idleStartup : RotatingSink Unit Unit :=
  (openAt Gregorian.calendar (.partitioned (Gregorian.outTree 0 .plain) 600) 7 true
    ⟨1787832180 * 1000000000⟩ ⟨true, true, none⟩).run Gregorian.calendar
    [.flush, .rotateIfDue ⟨1787832600 * 1000000000⟩
      ⟨true, some (["out", "flows-20260827T120000Z.parquet"].map .utf8)⟩]

/-- Its file is empty and has a final name. -/
theorem idle_startup_leaves_a_file : ¬ idleStartup.LeavesNoEmptyFile := by
  intro leaves
  have named : idleStartup.files.map (fun file => (file.name.isSome, file.handed.length)) =
      [(true, 0)] := by
    decide +kernel
  obtain ⟨file, files, same⟩ := List.map_eq_singleton_iff.mp named
  obtain ⟨final, empty⟩ := Prod.mk.inj same
  have inside : file ∈ idleStartup.files := by
    rw [files]
    exact List.mem_singleton_self file
  exact leaves.1 file inside (Option.isSome_iff_ne_none.mp final) (List.length_eq_zero_iff.mp empty)

end RotatingSink
end Rustflow.Collect
