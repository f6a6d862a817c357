import Rustflow.Collect.PipelineConservation
import Rustflow.Lib.Spaced
import Mathlib.Data.List.Chain
import Mathlib.Data.List.Infix

/-!
# The cadence of the flush timer

`sink/pipeline/timer.rs` of the collector, over whole runs: a timer is started and then polled at
any times that do not go back. Each deadline that is met puts the next one at least an interval
further, so a stall is never made up for.
-/

namespace Rustflow.Collect
namespace FlushTimer
variable {timer : FlushTimer} {now : Instant}

/-! ### One poll -/

theorem due_iff : (timer.due now).2 = true ↔ timer.next ≤ now := by
  unfold due
  split
  · next early => exact iff_of_false Bool.false_ne_true (Nat.not_le.mpr early)
  · next late => exact iff_of_true rfl (Nat.not_lt.mp late)

theorem due_early (early : now < timer.next) : timer.due now = (timer, false) := if_pos early

theorem anchored_bounds {next interval now : Nat} (positive : 0 < interval) (late : next ≤ now) :
    now < (if next + interval > now then next + interval else now + interval) ∧
      (if next + interval > now then next + interval else now + interval) ≤ now + interval ∧
      next + interval ≤ (if next + interval > now then next + interval else now + interval) ∧
      (now < next + interval → (if next + interval > now then next + interval else now + interval) =
        next + interval) := by
  split <;> omega

/-- A deadline that is met is followed by one after `now`, within an interval of it, and at least an
interval after the one met. Up to an interval late, it is exactly that. -/
theorem due_late (positive : 0 < timer.interval) (late : timer.next ≤ now) :
    ∃ next, timer.due now = ({ timer with next }, true) ∧ now < next ∧ next ≤ now + timer.interval ∧
      timer.next + timer.interval ≤ next ∧
      (now < timer.next + timer.interval → next = timer.next + timer.interval) :=
  ⟨_, if_neg (Nat.not_lt.mpr late), anchored_bounds positive late⟩

theorem due_interval : (timer.due now).1.interval = timer.interval := by
  unfold due
  split <;> rfl

/-! ### Runs -/

/-- The timer after some polls. -/
def after (self : FlushTimer) (polls : List Instant) : FlushTimer :=
  polls.foldl (fun timer now => (timer.due now).1) self

/-- The polls at which `due` was true. -/
def fires (self : FlushTimer) : List Instant → List Instant
  | [] => []
  | now :: polls => if (self.due now).2 then now :: fires (self.due now).1 polls
      else fires (self.due now).1 polls

theorem after_interval (polls : List Instant) : (timer.after polls).interval = timer.interval := by
  induction polls generalizing timer with
  | nil => rfl
  | cons now polls ih => exact ih.trans due_interval

theorem spaced_fires (positive : 0 < timer.interval) (polls : List Instant) :
    Spaced timer.interval timer.next (timer.fires polls) := by
  induction polls generalizing timer with
  | nil => exact .nil _
  | cons now polls ih =>
    rw [fires]
    by_cases early : now < timer.next
    · rw [due_early early]
      exact ih positive
    · have late := Nat.not_lt.mp early
      obtain ⟨next, met, later, -, apart, -⟩ := due_late positive late
      rw [met]
      exact .cons late later apart (@ih { timer with next } positive)

/-- Polled at most an interval apart, a timer whose deadline is within an interval keeps to the
grid. -/
theorem after_onGrid (positive : 0 < timer.interval) {start last : Instant}
    (ahead : last < timer.next) (near : timer.next ≤ last + timer.interval)
    (grid : ∃ k, timer.next = start + k * timer.interval) {polls : List Instant}
    (ordered : (last :: polls).IsChain (· ≤ ·))
    (close : (last :: polls).IsChain fun t t' => t' ≤ t + timer.interval) :
    ∃ k, (timer.after polls).next = start + k * timer.interval := by
  induction polls generalizing timer last with
  | nil => exact grid
  | cons now polls ih =>
    obtain ⟨forward, ordered⟩ := List.isChain_cons_cons.mp ordered
    obtain ⟨gap, close⟩ := List.isChain_cons_cons.mp close
    by_cases early : now < timer.next
    · have same : timer.after (now :: polls) = timer.after polls := by
        rw [after, List.foldl_cons, due_early early]
        rfl
      rw [same]
      exact ih positive early (near.trans (Nat.add_le_add_right forward _)) grid ordered close
    · obtain ⟨next, met, later, near', -, exactly⟩ := due_late positive (Nat.not_lt.mp early)
      have same : timer.after (now :: polls) = after { timer with next } polls := by
        rw [after, List.foldl_cons, met]
        rfl
      rw [same]
      obtain ⟨k, onGrid⟩ := grid
      refine @ih { timer with next } positive now later near' ⟨k + 1, ?_⟩ ordered close
      show next = start + (k + 1) * timer.interval
      rw [exactly (Nat.lt_of_le_of_lt gap (Nat.add_lt_add_right ahead _)), onGrid, Nat.add_mul,
        Nat.one_mul, Nat.add_assoc]

theorem fires_snoc (polls : List Instant) (now : Instant) :
    timer.fires (polls ++ [now]) = timer.fires polls ++ if ((timer.after polls).due now).2 then
      [now] else [] := by
  induction polls generalizing timer with
  | nil =>
    rw [List.nil_append, fires, fires]
    rfl
  | cons first polls ih =>
    rw [List.cons_append, fires, fires, ih]
    split
    · rw [List.cons_append]
      rfl
    · rfl

/-! ### The encoder -/

end FlushTimer

variable {F X : Type}

def SinkCall.isFlush : SinkCall F X → Bool
  | .flush => true
  | _ => false

/-- When the encoder polls its timer. -/
def Action.poll : Action F X → Option Instant
  | .receive _ _ now | .timeout now => some now
  | _ => none

/-- The encoder has polled its timer at these times and flushed its sink as often as that was
due. -/
structure Encoder.Polled (encoder : Encoder F X) (start : Instant) (polls : List Instant) :
    Prop where
  timer : encoder.timer = (FlushTimer.new FLUSH_INTERVAL start).after polls
  flushes : encoder.sink.countP SinkCall.isFlush =
    ((FlushTimer.new FLUSH_INTERVAL start).fires polls).length

theorem Encoder.Polled.tick {encoder : Encoder F X} {start : Instant} {polls : List Instant}
    (polled : encoder.Polled start polls) (now : Instant) :
    (encoder.tick now).Polled start (polls ++ [now]) := by
  have after :
      (encoder.timer.due now).1 = (FlushTimer.new FLUSH_INTERVAL start).after (polls ++ [now]) := by
    rw [polled.timer, FlushTimer.after, FlushTimer.after, List.foldl_append]
    rfl
  have fired := @FlushTimer.fires_snoc (FlushTimer.new FLUSH_INTERVAL start) polls now
  rw [← polled.timer] at fired
  unfold Encoder.tick
  split
  next timer due met =>
  rw [met] at after fired
  cases due with
  | true =>
    refine ⟨after, ?_⟩
    rw [fired, List.length_append, ← polled.flushes]
    exact List.countP_append
  | false =>
    refine ⟨after, ?_⟩
    rw [fired, List.length_append, ← polled.flushes]
    rfl

theorem Encoder.Polled.handle {encoder : Encoder F X} {start : Instant} {polls : List Instant}
    (polled : encoder.Polled start polls) (tables : F → X) (chunk : Chunk F) :
    (encoder.handle tables chunk).Polled start polls := by
  cases chunk with
  | flows flows =>
    have writes :
        (flows.map fun flow => SinkCall.write flow (tables flow)).countP SinkCall.isFlush = 0 := by
      rw [List.countP_map, List.countP_eq_zero]
      exact fun _ _ => Bool.false_ne_true
    refine ⟨polled.timer, ?_⟩
    rw [← polled.flushes]
    simp [Encoder.handle, List.countP_append, writes, SinkCall.isFlush]
  | raw lines flows =>
    refine ⟨polled.timer, ?_⟩
    rw [← polled.flushes]
    simp [Encoder.handle, List.countP_append, SinkCall.isFlush]

theorem Encoder.Polled.step {s s' : System F X} {start : Instant} {polls : List Instant}
    (polled : s.encoder.Polled start polls) {action : Action F X}
    (taken : s.step action = some s') : s'.encoder.Polled start (polls ++ action.poll.toList) := by
  have unpolled : s.encoder.Polled start (polls ++ []) := by rwa [List.append_nil]
  cases action with
  | producer id now =>
    obtain ⟨-, -, rfl⟩ := System.step_producer taken
    exact unpolled
  | push id added begun now | pushRaw id record carried begun now | flush id | drop id =>
    obtain ⟨sender, -, rfl⟩ := Option.map_eq_some_iff.mp taken
    exact unpolled
  | send id =>
    obtain ⟨-, -, -, -, -, -, -, rfl⟩ := System.step_send taken
    exact unpolled
  | receive id tables now =>
    obtain ⟨-, -, chunk, -, -, -, -, rfl⟩ := System.step_receive taken
    exact (polled.handle tables chunk).tick now
  | timeout now =>
    obtain ⟨-, rfl⟩ := System.step_timeout taken
    exact polled.tick now
  | drain =>
    obtain ⟨-, rfl⟩ := System.step_drain taken
    exact unpolled
  | disconnected =>
    obtain ⟨-, rfl⟩ := System.step_disconnected taken
    exact ⟨unpolled.timer, List.countP_append.trans unpolled.flushes⟩

namespace FlushTimer

/-! ### Main result -/

/-- What a timer does that is started at `start` and polled at these times. -/
structure Cadence (interval : Duration) (start : Instant) (polls : List Instant) : Prop where
  due_iff : ∀ before now later, polls = before ++ now :: later →
    ((((new interval start).after before).due now).2 = true ↔
      ((new interval start).after before).next ≤ now)
  rearmed : ∀ before now later, polls = before ++ now :: later →
    (((new interval start).after before).due now).2 = true →
    now < ((new interval start).after (before ++ [now])).next ∧
      ((new interval start).after (before ++ [now])).next ≤ now + interval
  bounded : ∀ T, ((new interval start).fires polls).countP (· ≤ T) ≤ (T - start) / interval
  noBurst : ∀ a d, ((new interval start).fires polls).countP (fun t => a ≤ t ∧ t ≤ a + d) ≤
    d / interval + 2
  onGrid : ∀ before, before <+: polls → (start :: before).IsChain (fun t t' => t' ≤ t + interval) →
    ∃ k, ((new interval start).after before).next = start + k * interval

theorem keeps_cadence {interval : Duration} (positive : 0 < interval) {start : Instant}
    {polls : List Instant} (ordered : (start :: polls).IsChain (· ≤ ·)) :
    Cadence interval start polls where
  due_iff before now later _ := FlushTimer.due_iff
  rearmed before now later _ due := by
    have spaced := @after_interval (new interval start) before
    obtain ⟨next, met, ahead, near, -⟩ := due_late (spaced ▸ positive) (FlushTimer.due_iff.mp due)
    rw [spaced] at near
    rw [after, List.foldl_append, List.foldl_cons, List.foldl_nil, ← after, met]
    exact ⟨ahead, near⟩
  bounded T := by
    have counted := (@spaced_fires (new interval start) positive polls).countP_le positive T
    rwa [new, Nat.add_sub_add_right] at counted
  noBurst := (@spaced_fires (new interval start) positive polls).countP_span_le positive
  onGrid before part close := by
    have chain : (start :: before).IsChain (· ≤ ·) :=
      ordered.prefix (List.cons_prefix_cons.mpr ⟨rfl, part⟩)
    exact @after_onGrid (new interval start) positive start start (Nat.lt_add_of_pos_right positive)
      (Nat.le_refl _)
      ⟨1, by rw [new, Nat.one_mul]⟩ before chain close

/-- A poll that comes an interval and a half late is followed by one deadline, an interval after
it. -/
theorem keeps_cadence_after_stall : Cadence 10 0 [3, 10, 35, 36, 45] :=
  keeps_cadence (by decide) (by decide)

end FlushTimer
end Rustflow.Collect
