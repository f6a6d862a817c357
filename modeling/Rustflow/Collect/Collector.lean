import Rustflow.Collect.Args
import Rustflow.Collect.PipelineConservation
import Rustflow.Collect.RotatingSink

/-!
# The collector against the wall clock

The pipeline with the sink at its end. The two read one wall clock, which does not go back: an
ingest thread when it reads a datagram, and the sink for each rotation check and each opening of a
window. The calls that the encoder makes come with what they read and are answered.
-/

namespace Rustflow.Collect
variable {F X : Type}

/-- The layout of a rotated output: without a level all files are in the root. -/
def Layout.atLevel (layout : Layout) (level : Option UInt8) : Layout :=
  { layout with level := level.getD 0 }

/-- What one call on the sink reads from the clock and is answered. -/
structure Reading where
  now : DateTime
  opening : Opening
  closing : Closing

def SinkCall.reads (call : SinkCall F X) (reading : Reading) : RotatingSink.Call F X :=
  match call with
  | .rotateIfDue => .rotateIfDue reading.now reading.closing
  | .write flow enriched => .write (.flow flow enriched) reading.now reading.opening
  | .writeRaw lines => .write (.raw lines) reading.now reading.opening
  | .flush => .flush
  | .finish => .finish reading.closing

def Action.added : Action F X → List F
  | .push _ added _ _ => added
  | _ => []

/-- A step of the pipeline, the readings of the calls it makes, and the clock after it. -/
structure Event (F X : Type) where
  action : Action F X
  readings : List Reading
  now : DateTime

/-- `calls` is a record that nothing reads: the calls on the sink since it was opened. -/
structure Collector (F X : Type) where
  system : System F X
  sink : RotatingSink F X
  calls : List (RotatingSink.Call F X)
  /-- What the clock showed last. -/
  now : DateTime

namespace Collector

/-- The sink is opened before the pipeline is spawned. -/
def start (calendar : Calendar) (destination : Destination) (pid : Nat) (hook discard : Bool)
    (instant : Instant) (now : DateTime) (io : Opening) : Collector F X :=
  { system := .new discard instant, sink := .openAt calendar destination pid hook now io,
    calls := [], now }

/-- The calls an action makes on the sink. -/
def made (before after : System F X) : List (SinkCall F X) :=
  after.encoder.sink.drop before.encoder.sink.length

/-- The clock from before the first reading to after the last. -/
def clock (self : Collector F X) (event : Event F X) : List DateTime :=
  self.now :: event.readings.map Reading.now ++ [event.now]

/-- `received` is when the datagram of a flow was read, which is before the flow is pushed. -/
def step (received : F → DateTime) (calendar : Calendar) (self : Collector F X)
    (event : Event F X) :
    Option (Collector F X) := do
  let system ← self.system.step event.action
  let made := made self.system system
  if made.length = event.readings.length ∧ (self.clock event).Pairwise (·.nanos ≤ ·.nanos) ∧
      ∀ flow ∈ event.action.added, (received flow).nanos ≤ event.now.nanos then
    let calls := made.zipWith SinkCall.reads event.readings
    some {
      system
      sink := self.sink.run calendar calls
      calls := self.calls ++ calls
      now := event.now }
  else none

def run (received : F → DateTime) (calendar : Calendar) (self : Collector F X)
    (events : List (Event F X)) :
    Option (Collector F X) :=
  events.foldlM (step received calendar) self

end Collector
end Rustflow.Collect
