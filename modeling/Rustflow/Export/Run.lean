import Rustflow.Export.Meter

/-!
# The exporter's loop

`run` of the exporter: frames are captured and metered, what is due is exported every second or when
the meter is full, and the templates are sent again from time to time. Frames, clocks and the
outcomes of sends come from outside. What is logged is left out.
-/

namespace Rustflow.Export

/-- With what the exporter itself reads. -/
structure RunArgs extends ExportArgs where
  observationDomainId : UInt32
  templateRefreshRate : Nat

def Exporter.shouldSendTemplate (self : Exporter) (templateRefreshRate : Nat)
    (now : Instant) : Bool :=
  decide (now - self.lastTemplateSend ≥ Duration.fromSecs templateRefreshRate)

def CHECK_INTERVAL : Duration := .fromSecs 1

/-- What comes from outside in one turn of the loop: a frame, unless the capture timed out, the
orders in which the flow cache is visited, and the readings of the clock. -/
structure Round where
  frame : Option Frame
  order : IterationOrder Flow
  observed : Instant
  checked : Instant
  drainOrder : IterationOrder Flow
  drained : Instant
  refreshed : Instant
  reset : Instant

structure Running (E : Type) where
  meter : Meter
  world : World E
  lastCheck : Instant

namespace Running
variable {E : Type} (etherparse : Etherparse) (env : Surroundings E)

/-- Up to the loop: the first templates and options have to be sent. -/
def start (args : RunArgs) (link : Link) (localPort : UInt16) (collector : SocketAddr)
    (created now : Instant) :
    Except E (Running E) :=
  match sendTemplates env (World.new args.observationDomainId args.mode args.sampling created) with
  | (.error e, _) => .error e
  | (.ok _, world) =>
    match sendOptionsData env world with
    | (.error e, _) => .error e
    | (.ok _, world) =>
      .ok { meter := .new args.toExportArgs link localPort collector, world, lastCheck := now }

/-- `none` where the flow cache panics. -/
def observe (self : Running E) (round : Round) : Option (Running E) :=
  match round.frame with
  | some frame => (self.meter.observe etherparse round.order round.observed frame).map fun meter =>
    { self with meter }
  | none => some self

def sendDue (self : Running E) (round : Round) : Running E :=
  let (meter, records) := self.meter.takeDue round.drainOrder round.drained
  { self with meter, world := (send env records self.world).2 }

/-- Options only follow templates that were sent. -/
def refresh (templateRefreshRate : Nat) (self : Running E) (round : Round) : Running E :=
  if self.world.exporter.shouldSendTemplate templateRefreshRate round.refreshed then
    match sendTemplates env self.world with
    | (.error _, world) => { self with world }
    | (.ok _, world) => { self with world := (sendOptionsData env world).2 }
  else self

def checkedAt (self : Running E) (now : Instant) : Running E := { self with lastCheck := now }

@[simp] theorem meter_checkedAt (self : Running E) (now : Instant) :
    (self.checkedAt now).meter = self.meter := rfl
@[simp] theorem world_checkedAt (self : Running E) (now : Instant) :
    (self.checkedAt now).world = self.world := rfl

def isTick (self : Running E) (round : Round) : Bool :=
  decide (round.checked - self.lastCheck ≥ CHECK_INTERVAL)

/-- The rest of a turn, once a frame was looked for. -/
def sendNow (templateRefreshRate : Nat) (self : Running E) (round : Round) : Running E :=
  let tick := self.isTick round
  let self := if tick || self.meter.isFull then self.sendDue env round else self
  if tick then (self.refresh env templateRefreshRate round).checkedAt round.reset else self

def turn (args : RunArgs) (self : Running E) (round : Round) : Option (Running E) :=
  (self.observe etherparse round).map fun self => self.sendNow env args.templateRefreshRate round

def run (args : RunArgs) : Running E → List Round → Option (Running E)
  | self, [] => some self
  | self, round :: rounds => (self.turn etherparse env args round).bind fun self =>
    run args self rounds

/-- Everything left is exported. -/
def shutdown (self : Running E) (order : IterationOrder Flow) : World E :=
  (send env (self.meter.takeAll order).2 self.world).2

end Running

end Rustflow.Export
