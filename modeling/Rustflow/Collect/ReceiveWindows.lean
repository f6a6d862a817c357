import Rustflow.Collect.Collector
import Rustflow.Collect.Gregorian
import Rustflow.Collect.IdleWindows

/-!
# Flows and the windows they land in

The sink chooses a window by the clock it reads, not by when a flow was received. A flow was
received no later than the rotation check of its chunk, so it never lands in a window before its
own. It lands in a later one when a boundary of the interval falls between the two.
-/

namespace Rustflow.Collect
open RotatingSink Destination
variable {F X : Type}

/-! ### Windows and clocks -/

/-- The time `t` is in the window of `interval` seconds that starts at `window`. -/
def InWindow (interval : Nat) (window t : DateTime) : Prop :=
  window.timestamp * 1000000000 ≤ t.nanos ∧ t.nanos < (window.timestamp + interval) * 1000000000

section
variable {intervalSecs : Int} {interval : Nat}

theorem windowStart_le (nonzero : intervalSecs ≠ 0) (t : Int) : windowStart intervalSecs t ≤ t := by
  have := Int.emod_nonneg t nonzero
  have := Int.mul_ediv_add_emod t intervalSecs
  rw [windowStart, Int.mul_comm]
  omega

theorem lt_windowStart_add (nonzero : intervalSecs ≠ 0) (t : Int) :
    t < windowStart intervalSecs t + intervalSecs.natAbs := by
  have := Int.emod_lt t nonzero
  have := Int.mul_ediv_add_emod t intervalSecs
  rw [windowStart, Int.mul_comm]
  omega

/-- Times from the start of a window up to its end have the same window. -/
theorem windowStart_eq (nonzero : intervalSecs ≠ 0) {opened now : Int} (later : opened ≤ now)
    (early : now < windowStart intervalSecs opened + intervalSecs) :
    windowStart intervalSecs now = windowStart intervalSecs opened := by
  have start := windowStart_le nonzero opened
  have positive : 0 < intervalSecs := by omega
  have quotient : now / intervalSecs = opened / intervalSecs := by
    rw [Int.ediv_eq_iff_of_pos positive]
    unfold windowStart at early start
    exact ⟨by omega, early⟩
  rw [windowStart, quotient]
  rfl

theorem timestamp_mono {s t : DateTime} (le : s.nanos ≤ t.nanos) : s.timestamp ≤ t.timestamp :=
  Int.ediv_le_ediv (by decide) le

/-- A flow received by `asOf`, and not before the window of `asOf`, is in the window that was
opened when the clock had passed no further boundary. -/
theorem inWindow_of_stamp (nonzero : intervalSecs ≠ 0) (bound : intervalSecs.natAbs ≤ interval)
    {opened asOf t : DateTime} (later : opened.nanos ≤ asOf.nanos)
    (same : windowStart intervalSecs asOf.timestamp = windowStart intervalSecs opened.timestamp)
    (heard : t.nanos ≤ asOf.nanos) (after : (windowStamp intervalSecs asOf).nanos ≤ t.nanos) :
    InWindow interval (windowStamp intervalSecs opened) t := by
  have below := lt_windowStart_add nonzero asOf.timestamp
  have start := windowStart_le nonzero opened.timestamp
  rw [windowStamp, same] at after
  rw [same] at below
  unfold windowStamp InWindow
  unfold DateTime.fromTimestamp at after ⊢
  unfold DateTime.timestamp at *
  split
  · rename_i inside
    rw [if_pos inside] at after
    simp only [Option.getD_some] at after ⊢
    omega
  · rename_i outside
    rw [if_neg outside] at after
    simp only [Option.getD_none] at after ⊢
    omega

end

/-! ### The sink -/

/-- The name of a file carries the start of its window, and every flow in it was received in
that. -/
structure Holds (received : F → DateTime) (calendar : Calendar) (layout : Layout) (interval : Nat)
    (pending : PendingRename) (handed : List (SinkRecord F X)) : Prop where
  name : pending.finalPath = layout.pathFor calendar pending.window
  flows : ∀ flow enriched, .flow flow enriched ∈ handed →
    InWindow interval pending.window (received flow)

/-- Every file, finished or not, holds what its name says. -/
structure Timely (received : F → DateTime) (calendar : Calendar) (layout : Layout) (interval : Nat)
    (sink : RotatingSink F X) : Prop where
  files : ∀ file ∈ sink.files, Holds received calendar layout interval file.pending file.handed
  current : ∀ window, sink.current = some window → ∀ pending, window.pending = some pending →
    Holds received calendar layout interval pending window.handed

/-- The reading that the sink has acted on last: a rotation check, or the opening of a window. -/
def actedOn (sink : RotatingSink F X) (asOf : DateTime) : Call F X → DateTime
  | .rotateIfDue now _ => now
  | .write _ now _ => if sink.current.isNone then now else asOf
  | _ => asOf

/-- No boundary of the interval falls between the receipt of a flow and the reading that the sink
acts on when it is handed the flow. -/
def OnTime (received : F → DateTime) (calendar : Calendar) (intervalSecs : Int)
    (sink : RotatingSink F X) (asOf : DateTime) : List (Call F X) → Prop
  | [] => True
  | call :: calls =>
    (∀ flow enriched now io, call = .write (.flow flow enriched) now io →
      (windowStamp intervalSecs (actedOn sink asOf call)).nanos ≤ (received flow).nanos) ∧
    OnTime received calendar intervalSecs (sink.step calendar call) (actedOn sink asOf call) calls

/-- The last rotation check and the last reading, after a call. -/
def clocks (before : DateTime × DateTime) : Call F X → DateTime × DateTime
  | .rotateIfDue now _ => (now, now)
  | .write _ now _ => (before.1, now)
  | _ => before

/-- The clock does not go back, and a flow was received by the last rotation check. -/
def Fits (received : F → DateTime) (before : DateTime × DateTime) : Call F X → Prop
  | .rotateIfDue now _ => before.2.nanos ≤ now.nanos
  | .write record now _ => before.2.nanos ≤ now.nanos ∧
      ∀ flow enriched, record = .flow flow enriched → (received flow).nanos ≤ before.1.nanos
  | _ => True

def Causal (received : F → DateTime) (before : DateTime × DateTime) : List (Call F X) → Prop
  | [] => True
  | call :: calls => Fits received before call ∧ Causal received (clocks before call) calls

theorem causal_append {received : F → DateTime} {before : DateTime × DateTime}
    {calls more : List (Call F X)} :
    Causal received before (calls ++ more) ↔
      Causal received before calls ∧ Causal received (calls.foldl clocks before) more := by
  induction calls generalizing before with
  | nil => simp [Causal]
  | cons call calls ih => simp only [List.cons_append, Causal, ih, List.foldl_cons, and_assoc]

/-- The current window is the one that holds the reading last acted on. -/
structure Aligned (calendar : Calendar) (layout : Layout) (intervalSecs : Int)
    (sink : RotatingSink F X) (asOf checked latest : DateTime) : Prop where
  place : sink.destination = .partitioned layout intervalSecs
  checked_le : checked.nanos ≤ asOf.nanos
  asOf_le : asOf.nanos ≤ latest.nanos
  ended : sink.ended = true → sink.current = none
  current : ∀ window, sink.current = some window → ∃ opened : DateTime, opened.nanos ≤ asOf.nanos ∧
    windowStart intervalSecs asOf.timestamp = windowStart intervalSecs opened.timestamp ∧
    window.rotateAt = some (windowStart intervalSecs opened.timestamp + intervalSecs) ∧
    window.pending = some (pendingFor calendar sink.pid layout (windowStamp intervalSecs opened))

section
variable {received : F → DateTime} {calendar : Calendar} {layout : Layout} {intervalSecs : Int}
  {interval : Nat}
  {sink : RotatingSink F X} {asOf checked latest : DateTime}

theorem timely_leave {window : Window F X} {name : Option PathBuf}
    (timely : Timely received calendar layout interval sink)
    (holds : ∀ pending, window.pending = some pending →
      Holds received calendar layout interval pending window.handed) :
    ∀ file ∈ (sink.leave window name).files,
      Holds received calendar layout interval file.pending file.handed := by
  intro file inside
  rcases List.mem_append.mp inside with before | new
  · exact timely.files file before
  · obtain ⟨pending, kept, rfl⟩ := List.mem_map.mp new
    exact holds pending (Option.mem_toList.mp kept)

theorem holds_newWindow (pid : Nat) (now : DateTime) (pending : PendingRename)
    (same : (newWindow F X calendar pid layout intervalSecs now).pending = some pending) :
    Holds received calendar layout interval pending
      (newWindow F X calendar pid layout intervalSecs now).handed := by
  cases same
  exact ⟨rfl, fun _ _ mem => absurd mem List.not_mem_nil⟩

theorem aligned_without (place : sink.destination = .partitioned layout intervalSecs)
    (current : sink.current = none) (checked_le : checked.nanos ≤ asOf.nanos)
    (asOf_le : asOf.nanos ≤ latest.nanos) :
    Aligned calendar layout intervalSecs sink asOf checked latest where
  place := place
  checked_le := checked_le
  asOf_le := asOf_le
  ended _ := current
  current window same := by
    rw [current] at same
    cases same

theorem timely_without (current : sink.current = none)
    (files : ∀ file ∈ sink.files, Holds received calendar layout interval file.pending
      file.handed) :
    Timely received calendar layout interval sink := by
  refine ⟨files, fun window same => ?_⟩
  rw [current] at same
  cases same

/-- What a write hands to the window it goes to is in that window. -/
theorem timely_handed {window : Window F X} {record : SinkRecord F X} {opened : DateTime}
    (nonzero : intervalSecs ≠ 0) (bound : intervalSecs.natAbs ≤ interval)
    (timely : Timely received calendar layout interval sink)
    (before : ∀ pending, window.pending = some pending →
      Holds received calendar layout interval pending window.handed)
        (later : opened.nanos ≤ asOf.nanos)
    (same : windowStart intervalSecs asOf.timestamp = windowStart intervalSecs opened.timestamp)
    (pending : window.pending = some
      (pendingFor calendar sink.pid layout (windowStamp intervalSecs opened)))
    (heard : ∀ flow enriched, record = .flow flow enriched → (received flow).nanos ≤ asOf.nanos)
    (onTime : ∀ flow enriched, record = .flow flow enriched →
      (windowStamp intervalSecs asOf).nanos ≤ (received flow).nanos) :
    Timely received calendar layout interval
      { sink with current := some { window with handed := window.handed ++ [record] } } := by
  refine ⟨timely.files, ?_⟩
  rintro _ ⟨⟩ given kept
  refine ⟨(before given kept).name, fun flow enriched mem => ?_⟩
  rcases List.mem_append.mp mem with earlier | new
  · exact (before given kept).flows flow enriched earlier
  · have this := (List.mem_singleton.mp new).symm
    rw [pending] at kept
    cases kept
    exact inWindow_of_stamp nonzero bound later same (heard flow enriched this)
      (onTime flow enriched this)

theorem write_timely (nonzero : intervalSecs ≠ 0) (bound : intervalSecs.natAbs ≤ interval)
    (aligned : Aligned calendar layout intervalSecs sink asOf checked latest)
    (timely : Timely received calendar layout interval sink) {record : SinkRecord F X}
    {now : DateTime} {io : Opening} (running : sink.ended = false)
    (fits : Fits received (checked, latest) (.write record now io))
    (onTime : ∀ flow enriched, record = .flow flow enriched →
      (windowStamp intervalSecs (if sink.current.isNone then now else asOf)).nanos ≤
        (received flow).nanos) :
    Aligned calendar layout intervalSecs (sink.write calendar record now io)
        (if sink.current.isNone then now else asOf) checked now ∧
      Timely received calendar layout interval (sink.write calendar record now io) := by
  have forward : latest.nanos ≤ now.nanos := fits.1
  have onward := aligned.asOf_le
  have checkedBefore := aligned.checked_le
  unfold write
  cases current : sink.current with
  | some window =>
    obtain ⟨opened, later, same, rotates, pending⟩ := aligned.current window current
    rw [current] at onTime
    simp only [Option.isNone_some, Bool.false_eq_true, if_false] at onTime ⊢
    rw [current, Option.map_some]
    refine ⟨⟨aligned.place, checkedBefore, by omega, ?_, ?_⟩, ?_⟩
    · intro ended
      rw [running] at ended
      cases ended
    · rintro _ ⟨⟩
      exact ⟨opened, later, same, rotates, pending⟩
    · exact timely_handed nonzero bound timely (timely.current window current) later same pending
        (fun flow enriched this => Int.le_trans (fits.2 flow enriched this) checkedBefore) onTime
  | none =>
    rw [current] at onTime
    simp only [Option.isNone_none, if_true] at onTime ⊢
    rw [openWindow_eq aligned.place]
    split
    · rw [current]
      exact ⟨aligned_without aligned.place rfl (by omega) (Int.le_refl _),
        timely_without rfl timely.files⟩
    split
    · have kept :
          (sink.leave (newWindow F X calendar sink.pid layout intervalSecs now)
            io.dropped).current = none :=
        current
      rw [kept]
      refine ⟨aligned_without aligned.place rfl (by omega) (Int.le_refl _), timely_without rfl ?_⟩
      exact timely_leave timely (holds_newWindow sink.pid now)
    · refine ⟨⟨aligned.place, by omega, Int.le_refl _, ?_, ?_⟩, ?_⟩
      · intro ended
        exact absurd (running.symm.trans ended) Bool.false_ne_true
      · rintro _ ⟨⟩
        exact ⟨now, Int.le_refl _, rfl, rfl, rfl⟩
      · have heard : ∀ flow enriched, record = .flow flow enriched →
            (received flow).nanos ≤ now.nanos := by
          intro flow enriched this
          have before : (received flow).nanos ≤ checked.nanos := fits.2 flow enriched this
          omega
        have handed :=
          timely_handed nonzero bound timely (holds_newWindow sink.pid now)
            (Int.le_refl _) rfl rfl heard onTime
        exact handed

theorem rotateIfDue_timely (nonzero : intervalSecs ≠ 0)
    (aligned : Aligned calendar layout intervalSecs sink asOf checked latest)
    (timely : Timely received calendar layout interval sink) {now : DateTime} {io : Closing}
    (forward : latest.nanos ≤ now.nanos) :
    Aligned calendar layout intervalSecs (sink.rotateIfDue now io) now now now ∧
      Timely received calendar layout interval (sink.rotateIfDue now io) := by
  have onward := aligned.asOf_le
  unfold rotateIfDue
  cases current : sink.current with
  | none => exact ⟨aligned_without aligned.place current (Int.le_refl _) (Int.le_refl _), timely⟩
  | some window =>
    obtain ⟨opened, later, same, rotates, pending⟩ := aligned.current window current
    dsimp only
    split
    · refine ⟨aligned_without aligned.place rfl (Int.le_refl _) (Int.le_refl _),
        timely_without rfl ?_⟩
      exact timely_leave timely (timely.current window current)
    · rename_i early
      refine ⟨⟨aligned.place, Int.le_refl _, Int.le_refl _, aligned.ended, ?_⟩, timely⟩
      intro other this
      rw [current] at this
      cases this
      rw [Window.due, rotates, decide_eq_true_eq, Int.not_le] at early
      have since : opened.nanos ≤ now.nanos := by omega
      exact ⟨opened, since, windowStart_eq nonzero (timestamp_mono since) early, rotates, pending⟩

theorem step_timely (nonzero : intervalSecs ≠ 0) (bound : intervalSecs.natAbs ≤ interval)
    (aligned : Aligned calendar layout intervalSecs sink asOf checked latest)
    (timely : Timely received calendar layout interval sink) {call : Call F X}
    (fits : Fits received (checked, latest) call)
    (onTime : ∀ flow enriched now io, call = .write (.flow flow enriched) now io →
      (windowStamp intervalSecs (actedOn sink asOf call)).nanos ≤ (received flow).nanos) :
    Aligned calendar layout intervalSecs (sink.step calendar call) (actedOn sink asOf call)
        (clocks (checked, latest) call).1 (clocks (checked, latest) call).2 ∧
      Timely received calendar layout interval (sink.step calendar call) := by
  have onward := aligned.asOf_le
  have checkedBefore := aligned.checked_le
  rcases running : sink.ended with _ | _
  · have taken : ¬ sink.ended = true := by
      rw [running]
      exact Bool.false_ne_true
    cases call with
    | write record now io =>
      rw [show sink.step calendar (.write record now io) =
        sink.write calendar record now io from if_neg taken]
      refine write_timely nonzero bound aligned timely running fits ?_
      rintro flow enriched rfl
      exact onTime flow enriched now io rfl
    | rotateIfDue now io =>
      rw [show sink.step calendar (.rotateIfDue now io) = sink.rotateIfDue now io from if_neg taken]
      exact rotateIfDue_timely nonzero aligned timely fits
    | flush =>
      rw [show sink.step calendar .flush = sink from if_neg taken]
      exact ⟨aligned, timely⟩
    | finish io =>
      rw [show sink.step calendar (.finish io) = sink.finish io from if_neg taken]
      unfold finish
      cases current : sink.current with
      | none => exact ⟨aligned_without aligned.place current checkedBefore onward,
          timely_without current timely.files⟩
      | some window =>
        refine ⟨aligned_without aligned.place rfl checkedBefore onward, timely_without rfl ?_⟩
        exact timely_leave timely (timely.current window current)
    | drop name =>
      rw [show sink.step calendar (.drop name) = sink.drop name from if_neg taken]
      unfold drop
      cases current : sink.current with
      | none => exact ⟨aligned_without aligned.place rfl checkedBefore onward,
          timely_without rfl timely.files⟩
      | some window =>
        refine ⟨aligned_without aligned.place rfl checkedBefore onward, timely_without rfl ?_⟩
        exact timely_leave timely (timely.current window current)
  · rw [step_ended running]
    have current := aligned.ended running
    refine ⟨?_, timely⟩
    cases call with
    | write record now io =>
      have forward : latest.nanos ≤ now.nanos := fits.1
      refine aligned_without aligned.place current ?_ ?_ <;> simp only [actedOn, current, clocks,
        Option.isNone_none, if_true]
      · omega
      · exact Int.le_refl _
    | rotateIfDue now io =>
      exact aligned_without aligned.place current (Int.le_refl _) (Int.le_refl _)
    | flush => exact aligned
    | finish io => exact aligned
    | drop name => exact aligned

theorem run_timely (nonzero : intervalSecs ≠ 0) (bound : intervalSecs.natAbs ≤ interval)
    (aligned : Aligned calendar layout intervalSecs sink asOf checked latest)
    (timely : Timely received calendar layout interval sink) {calls : List (Call F X)}
    (causal : Causal received (checked, latest) calls)
    (onTime : OnTime received calendar intervalSecs sink asOf calls) :
    Timely received calendar layout interval (sink.run calendar calls) := by
  induction calls generalizing sink asOf checked latest with
  | nil => exact timely
  | cons call calls ih =>
    obtain ⟨aligned', timely'⟩ := step_timely nonzero bound aligned timely causal.1 onTime.1
    exact ih aligned' timely' causal.2 onTime.2

end

/-! ### The collector -/

def System.flows (s : System F X) : List F := s.pushed.flatMap (·.2.flowList)

theorem pushed_of_queued {discard : Bool} {s : System F X} (conserved : System.Conserved discard s)
    {id : Nat} {sender : Sender F} (found : s.senders.lookup id = some sender) {chunk : Chunk F}
    (queued : chunk ∈ sender.queue) {flow : F} (mem : flow ∈ chunk.flowList) : flow ∈ s.flows := by
  have accounted := (conserved.accounted id sender found).flows
  have given : flow ∈ (ofSender id s.pushed).flatMap Pushed.flowList := by
    rw [← accounted]
    refine List.mem_append_left _ (List.mem_flatMap.mpr ⟨chunk, ?_, mem⟩)
    exact List.mem_append_right _ (List.mem_append_left _ queued)
  obtain ⟨pushed, inside, mem⟩ := List.mem_flatMap.mp given
  obtain ⟨⟨id', pushed'⟩, entry, same⟩ := List.mem_filterMap.mp inside
  dsimp only at same
  split at same
  · cases same
    exact List.mem_flatMap.mpr ⟨_, entry, mem⟩
  · cases same

/-- The calls of one turn of the encoder: a rotation check comes first, or nothing is written. -/
structure Turn (flows : List F) (calls : List (SinkCall F X)) : Prop where
  checks : calls.head? = some .rotateIfDue ∨ calls.filterMap SinkCall.written = []
  heard : ∀ flow ∈ calls.filterMap SinkCall.written, flow ∈ flows

theorem turn_nil (flows : List F) : Turn flows ([] : List (SinkCall F X)) :=
  ⟨.inr rfl, fun _ mem => by cases mem⟩

/-- A turn writes what it handles and ends with a tick, which writes nothing. -/
theorem turn_tick {flows : List F} {encoder before : Encoder F X} {calls : List (SinkCall F X)}
    (now : Instant) (made : encoder.sink = before.sink ++ calls) (turn : Turn flows calls) :
    ∃ calls, (encoder.tick now).sink = before.sink ++ calls ∧ Turn flows calls := by
  unfold Encoder.tick
  dsimp only
  split
  · refine ⟨calls ++ [.rotateIfDue, .flush], ?_, ?_, ?_⟩
    · rw [made, List.append_assoc]
    · cases calls with
      | nil => exact .inl rfl
      | cons call calls =>
        rw [List.filterMap_append]
        exact turn.checks.imp id fun none => by rw [none]; rfl
    · rw [List.filterMap_append]
      intro flow mem
      exact turn.heard flow ((List.mem_append.mp mem).resolve_right List.not_mem_nil)
  · exact ⟨calls, made, turn⟩

theorem turn_handle {flows : List F} (encoder : Encoder F X) (tables : F → X) (chunk : Chunk F)
    (pushed : ∀ flow ∈ chunk.flowList, flow ∈ flows) :
    ∃ calls, (encoder.handle tables chunk).sink = encoder.sink ++ calls ∧ Turn flows calls := by
  cases chunk with
  | flows all =>
    refine ⟨_, rfl, .inl rfl, fun flow mem => ?_⟩
    rw [List.filterMap_cons_none rfl, List.filterMap_map] at mem
    obtain ⟨flow', inside, same⟩ := List.mem_filterMap.mp mem
    cases same
    exact pushed flow inside
  | raw lines carried => exact ⟨_, rfl, .inl rfl, fun flow mem => by cases mem⟩

/-- What a step pushes, and the calls it makes. Only flows pushed before it are written. -/
theorem step_turn {discard : Bool} {s s' : System F X} (conserved : System.Conserved discard s)
    {action : Action F X} (taken : s.step action = some s') : s'.flows = s.flows ++ action.added ∧
      ∃ calls, s'.encoder.sink = s.encoder.sink ++ calls ∧ Turn s.flows calls := by
  have quiet : ∃ calls, s.encoder.sink = s.encoder.sink ++ calls ∧ Turn s.flows calls :=
    ⟨[], (List.append_nil _).symm, turn_nil _⟩
  cases action with
  | producer id now =>
    obtain ⟨-, -, rfl⟩ := System.step_producer taken
    exact ⟨(List.append_nil _).symm, quiet⟩
  | push id added start now =>
    obtain ⟨sender, _, rfl⟩ := Option.map_eq_some_iff.mp taken
    refine ⟨?_, quiet⟩
    rw [System.flows, List.flatMap_append]
    exact congrArg _ (List.append_nil _)
  | pushRaw id record carried start now =>
    obtain ⟨sender, _, rfl⟩ := Option.map_eq_some_iff.mp taken
    refine ⟨?_, quiet⟩
    rw [System.flows, List.flatMap_append]
    rfl
  | flush id =>
    obtain ⟨sender, _, rfl⟩ := Option.map_eq_some_iff.mp taken
    exact ⟨(List.append_nil _).symm, quiet⟩
  | drop id =>
    obtain ⟨sender, _, rfl⟩ := Option.map_eq_some_iff.mp taken
    exact ⟨(List.append_nil _).symm, quiet⟩
  | send id =>
    obtain ⟨producer, chunk, outbox, queue, dropped, -, -, rfl⟩ := System.step_send taken
    exact ⟨(List.append_nil _).symm, quiet⟩
  | receive id tables now =>
    obtain ⟨producer, outbox, chunk, queue, dropped, found, -, rfl⟩ := System.step_receive taken
    obtain ⟨calls, made, turn⟩ := turn_handle s.encoder tables chunk fun flow mem =>
      pushed_of_queued conserved found List.mem_cons_self mem
    exact ⟨(List.append_nil _).symm, turn_tick now made turn⟩
  | timeout now =>
    obtain ⟨-, rfl⟩ := System.step_timeout taken
    exact ⟨(List.append_nil _).symm, turn_tick now (List.append_nil _).symm (turn_nil _)⟩
  | drain =>
    obtain ⟨-, rfl⟩ := System.step_drain taken
    exact ⟨(List.append_nil _).symm, quiet⟩
  | disconnected =>
    obtain ⟨-, rfl⟩ := System.step_disconnected taken
    exact ⟨(List.append_nil _).symm, [.finish], rfl, .inr rfl, fun flow mem => by cases mem⟩

section
variable {received : F → DateTime} {calendar : Calendar} {checked latest now : DateTime}
  {readings : List Reading}
  {calls : List (SinkCall F X)}

/-- Readings in order make calls that fit, where all that is written was received before. -/
theorem causal_reads
    (sorted : (latest :: readings.map Reading.now ++ [now]).Pairwise (·.nanos ≤ ·.nanos))
    (heard : ∀ flow ∈ calls.filterMap SinkCall.written,
      (received flow).nanos ≤ checked.nanos ∧ (received flow).nanos ≤ latest.nanos) :
    Causal received (checked, latest) (calls.zipWith SinkCall.reads readings) ∧
      ((calls.zipWith SinkCall.reads readings).foldl clocks (checked, latest)).2.nanos ≤
        now.nanos := by
  induction calls generalizing readings checked latest with
  | nil =>
    exact ⟨trivial,
      (List.pairwise_cons.mp sorted).1 now (List.mem_append_right _ (List.mem_singleton_self now))⟩
  | cons call calls ih =>
    cases readings with
    | nil => exact ⟨trivial, (List.pairwise_cons.mp sorted).1 now (List.mem_singleton_self now)⟩
    | cons reading readings =>
      obtain ⟨before, rest⟩ := List.pairwise_cons.mp sorted
      have onward : latest.nanos ≤ reading.now.nanos := before reading.now List.mem_cons_self
      have kept : (latest :: readings.map Reading.now ++ [now]).Pairwise (·.nanos ≤ ·.nanos) :=
        List.pairwise_cons.mpr ⟨fun t mem => before t (List.mem_cons_of_mem _ mem),
          (List.pairwise_cons.mp rest).2⟩
      cases call with
      | rotateIfDue =>
        have early : ∀ flow ∈ calls.filterMap SinkCall.written, (received flow).nanos ≤
            reading.now.nanos :=
          fun flow mem => Int.le_trans (heard flow mem).2 onward
        obtain ⟨causal, last⟩ := ih rest fun flow mem => ⟨early flow mem, early flow mem⟩
        exact ⟨⟨onward, causal⟩, last⟩
      | write flow enriched =>
        have later : ∀ flow ∈ calls.filterMap SinkCall.written,
            (received flow).nanos ≤ checked.nanos ∧ (received flow).nanos ≤ reading.now.nanos := by
          intro flow mem
          have both := heard flow (List.mem_cons_of_mem _ mem)
          exact ⟨both.1, Int.le_trans both.2 onward⟩
        obtain ⟨causal, last⟩ := ih rest later
        refine ⟨⟨⟨onward, ?_⟩, causal⟩, last⟩
        rintro _ _ ⟨⟩
        exact (heard flow List.mem_cons_self).1
      | writeRaw lines =>
        have later : ∀ flow ∈ calls.filterMap SinkCall.written,
            (received flow).nanos ≤ checked.nanos ∧ (received flow).nanos ≤ reading.now.nanos :=
          fun flow mem => ⟨(heard flow mem).1, Int.le_trans (heard flow mem).2 onward⟩
        obtain ⟨causal, last⟩ := ih rest later
        exact ⟨⟨⟨onward, fun _ _ same => nomatch same⟩, causal⟩, last⟩
      | flush =>
        obtain ⟨causal, last⟩ := ih kept heard
        exact ⟨⟨trivial, causal⟩, last⟩
      | finish =>
        obtain ⟨causal, last⟩ := ih kept heard
        exact ⟨⟨trivial, causal⟩, last⟩

/-- A turn fits after calls that read the clock before it: its rotation check comes after the
receipt of all it writes. -/
theorem causal_turn {flows : List F} {t : DateTime} (turn : Turn flows calls)
    (sorted : (t :: readings.map Reading.now ++ [now]).Pairwise (·.nanos ≤ ·.nanos))
    (heard : ∀ flow ∈ flows, (received flow).nanos ≤ t.nanos) (onward : latest.nanos ≤ t.nanos) :
    Causal received (checked, latest) (calls.zipWith SinkCall.reads readings) ∧
      ((calls.zipWith SinkCall.reads readings).foldl clocks (checked, latest)).2.nanos ≤
        now.nanos := by
  obtain ⟨before, rest⟩ := List.pairwise_cons.mp sorted
  rcases turn.checks with first | none
  · cases calls with
    | nil => cases first
    | cons call calls =>
      cases first
      cases readings with
      | nil => exact ⟨trivial, Int.le_trans onward (before now (List.mem_singleton_self now))⟩
      | cons reading readings =>
        have next : t.nanos ≤ reading.now.nanos := before reading.now List.mem_cons_self
        have early : ∀ flow ∈ calls.filterMap SinkCall.written, (received flow).nanos ≤
            reading.now.nanos :=
          fun flow mem => Int.le_trans (heard flow (turn.heard flow mem)) next
        obtain ⟨causal, last⟩ := causal_reads rest fun flow mem => ⟨early flow mem, early flow mem⟩
        exact ⟨⟨Int.le_trans onward next, causal⟩, last⟩
  · refine causal_reads (List.pairwise_cons.mpr ⟨fun u mem =>
      Int.le_trans onward (before u mem), rest⟩) ?_
    rw [none]
    exact fun _ mem => absurd mem List.not_mem_nil

/-- The clock is past every flow that was pushed and every reading of the sink. -/
structure Consistent (received : F → DateTime) (calendar : Calendar) (discard : Bool)
    (opened : RotatingSink F X) (t : DateTime) (s : Collector F X) : Prop where
  conserved : System.Conserved discard s.system
  ran : s.sink = opened.run calendar s.calls
  heard : ∀ flow ∈ s.system.flows, (received flow).nanos ≤ s.now.nanos
  causal : Causal received (t, t) s.calls
  latest : (s.calls.foldl clocks (t, t)).2.nanos ≤ s.now.nanos

variable {discard : Bool} {opened : RotatingSink F X} {t : DateTime} {s s' : Collector F X}

theorem Consistent.step (consistent : Consistent received calendar discard opened t s)
    {event : Event F X} (taken : s.step received calendar event = some s') :
    Consistent received calendar discard opened t s' := by
  obtain ⟨system, moved, rest⟩ := Option.bind_eq_some_iff.mp taken
  dsimp only at rest
  split at rest
  · rename_i allowed
    cases rest
    obtain ⟨_, sorted, fresh⟩ := allowed
    obtain ⟨flows, calls, made, turn⟩ := step_turn consistent.conserved moved
    have same : Collector.made s.system system = calls := by
      rw [Collector.made, made, List.drop_left]
    have onward : s.now.nanos ≤ event.now.nanos :=
      (List.pairwise_cons.mp sorted).1 event.now
        (List.mem_append_right _ (List.mem_singleton_self _))
    obtain ⟨causal, last⟩ := causal_turn turn sorted consistent.heard consistent.latest
    rw [same]
    refine ⟨consistent.conserved.step moved, ?_, ?_,
      causal_append.mpr ⟨consistent.causal, causal⟩, ?_⟩
    · dsimp only
      rw [consistent.ran, RotatingSink.run, RotatingSink.run, RotatingSink.run, List.foldl_append]
    · dsimp only
      rw [flows]
      intro flow mem
      rcases List.mem_append.mp mem with before | new
      · exact Int.le_trans (consistent.heard flow before) onward
      · exact fresh flow new
    · dsimp only
      rw [List.foldl_append]
      exact last
  · cases rest

theorem Consistent.run {events : List (Event F X)}
    (consistent : Consistent received calendar discard opened t s)
    (ran : s.run received calendar events = some s') :
    Consistent received calendar discard opened t s' := by
  induction events generalizing s with
  | nil =>
    cases ran
    exact consistent
  | cons event events ih =>
    obtain ⟨mid, taken, rest⟩ := Option.bind_eq_some_iff.mp ran
    exact ih (consistent.step taken) rest

end

/-! ### Main result -/

theorem openAt_timely {received : F → DateTime} (calendar : Calendar) (layout : Layout)
    (intervalSecs : Int) (interval pid : Nat) (hook : Bool) (now : DateTime) (io : Opening) :
    let sink : RotatingSink F X :=
      openAt calendar (.partitioned layout intervalSecs) pid hook now io
    Aligned calendar layout intervalSecs sink now now now ∧
      Timely received calendar layout interval sink := by
  unfold openAt
  rw [openWindow_eq (by rfl :
    (unopened (.partitioned layout intervalSecs) pid hook : RotatingSink F X).destination = _)]
  have nothing :
      ∀ file ∈ (unopened (.partitioned layout intervalSecs) pid hook : RotatingSink F X).files,
      Holds received calendar layout interval file.pending file.handed :=
    fun _ inside => absurd inside List.not_mem_nil
  split
  · exact ⟨aligned_without rfl rfl (Int.le_refl _) (Int.le_refl _), timely_without rfl nothing⟩
  split
  · refine ⟨aligned_without rfl rfl (Int.le_refl _) (Int.le_refl _), timely_without rfl ?_⟩
    exact timely_leave (timely_without rfl nothing) (holds_newWindow pid now)
  · refine ⟨⟨rfl, Int.le_refl _, Int.le_refl _, fun ended => absurd ended Bool.false_ne_true, ?_⟩,
      nothing, ?_⟩
    · rintro _ ⟨⟩
      exact ⟨now, Int.le_refl _, rfl, rfl, rfl⟩
    · rintro _ ⟨⟩
      exact holds_newWindow pid now

/-- Every file holds the flows that its name says, as long as no boundary of the interval falls
between the receipt of a flow and the reading that the sink acts on when it is handed the flow: its
last rotation check, or the one that opened the window if that was later. -/
theorem lands_in_window (received : F → DateTime) (calendar : Calendar) (layout : Layout)
    (level : Option UInt8) (interval : Interval) (accepted : checkInterval interval level = .ok ())
    (pid : Nat) (hook discard : Bool) (instant : Instant) (t : DateTime) (io : Opening)
    (events : List (Event F X)) (s : Collector F X)
    (ran : (Collector.start calendar (.partitioned (layout.atLevel level) interval.intervalSecs) pid
      hook discard
      instant t io).run received calendar events = some s)
    (onTime : OnTime received calendar interval.intervalSecs
      (openAt calendar (.partitioned (layout.atLevel level) interval.intervalSecs) pid hook t io) t
      s.calls) :
    Timely received calendar (layout.atLevel level) interval.secs.toNat s.sink := by
  obtain ⟨nonzero, bound⟩ := Interval.intervalSecs_bounds (checkInterval_positive accepted)
  generalize layout.atLevel level = layout at ran onTime ⊢
  generalize place : Destination.partitioned layout interval.intervalSecs =
    destination at ran onTime
  have begun : Consistent received calendar discard (openAt calendar destination pid hook t io) t
      (Collector.start calendar destination pid hook discard instant t io : Collector F X) :=
    { conserved := System.conserved_new discard instant
      ran := rfl
      heard := fun _ mem => absurd mem List.not_mem_nil
      causal := trivial
      latest := Int.le_refl _ }
  have consistent := begun.run ran
  subst place
  obtain ⟨aligned, timely⟩ :=
    openAt_timely calendar layout interval.intervalSecs interval.secs.toNat pid hook t io
  rw [consistent.ran]
  exact run_timely nonzero bound aligned timely consistent.causal onTime

/-- A flow that is heard at `heard` waits in its chunk until the clock shows `flushed`. The window
of 12:00 was opened at 12:59. -/
def waiting (heard flushed : DateTime) : List (Event DateTime Unit) :=
  let opening : Opening := ⟨true, true, none⟩
  [⟨.producer 0 0, [], heard⟩, ⟨.push 0 [heard] 0 0, [], heard⟩, ⟨.flush 0, [], flushed⟩,
    ⟨.send 0, [], flushed⟩, ⟨.receive 0 (fun _ => ()) 0,
      [⟨flushed, opening, ⟨true, none⟩⟩, ⟨flushed, opening, ⟨true, none⟩⟩], flushed⟩]

def oneHour : Interval := ⟨3600, 0⟩

def hourly (heard flushed : DateTime) : Option (Collector DateTime Unit) :=
  (Collector.start Gregorian.calendar
    (.partitioned ((Gregorian.outTree 2 .plain).atLevel (some 2)) oneHour.intervalSecs) 7
    false false 0
    ⟨1787835540 * 1000000000⟩ ⟨true, true, none⟩).run id Gregorian.calendar (waiting heard flushed)

/-- A flow of 12:59:30 that the encoder has before 13:00 is in the file of 12:00. -/
theorem lands_in_window_before_the_hour :
    ∃ s, hourly ⟨1787835570 * 1000000000⟩ ⟨1787835571 * 1000000000⟩ = some s ∧
      Timely id Gregorian.calendar ((Gregorian.outTree 2 .plain).atLevel (some 2)) 3600 s.sink := by
  have made : (hourly ⟨1787835570 * 1000000000⟩ ⟨1787835571 * 1000000000⟩).map Collector.calls =
      some [.rotateIfDue ⟨1787835571 * 1000000000⟩ ⟨true, none⟩,
        .write (.flow ⟨1787835570 * 1000000000⟩ ()) ⟨1787835571 * 1000000000⟩
          ⟨true, true, none⟩] := by rfl
  obtain ⟨s, ran, calls⟩ := Option.map_eq_some_iff.mp made
  refine ⟨s, ran, ?_⟩
  refine lands_in_window id Gregorian.calendar (Gregorian.outTree 2 .plain)
    (some 2) oneHour (by decide) 7 false false 0
    ⟨1787835540 * 1000000000⟩ ⟨true, true, none⟩ _ s ran ?_
  rw [calls]
  refine And.intro (fun _ _ _ _ same => nomatch same) (And.intro ?_ trivial)
  rintro flow enriched now io ⟨⟩
  unfold actedOn
  dsimp only
  rw [ite_self]
  decide

/-- The doc of `check_interval` has every file under hour 13 hold flows received in hour 13. A flow
of 12:59:59.95 that waits in its chunk until 13:00:00.05 is in the file of 13:00. -/
theorem waits_past_the_hour : checkInterval oneHour (some 2) = .ok () ∧
    ∃ s, hourly ⟨1787835599950000000⟩ ⟨1787835600050000000⟩ = some s ∧
      ¬ Timely id Gregorian.calendar ((Gregorian.outTree 2 .plain).atLevel (some 2)) 3600
        s.sink := by
  refine ⟨by decide, ?_⟩
  have landed :
      (hourly ⟨1787835599950000000⟩ ⟨1787835600050000000⟩).map (fun s =>
        s.sink.current.map fun window =>
      (window.pending.map PendingRename.window, window.handed)) =
      some (some (some ⟨1787835600 * 1000000000⟩, [.flow ⟨1787835599950000000⟩ ()])) := by rfl
  obtain ⟨s, ran, current⟩ := Option.map_eq_some_iff.mp landed
  obtain ⟨window, open', same⟩ := Option.map_eq_some_iff.mp current
  obtain ⟨named, handed⟩ := Prod.mk.inj same
  obtain ⟨pending, kept, start⟩ := Option.map_eq_some_iff.mp named
  refine ⟨s, ran, fun timely => ?_⟩
  have inside := (timely.current window open' pending kept).flows ⟨1787835599950000000⟩ () (by
    rw [handed]
    exact List.mem_singleton_self _)
  rw [start] at inside
  exact absurd inside.1 (by decide)

end Rustflow.Collect
