import Rustflow.Common.Parser
import Rustflow.Common.TemplateCache
import Rustflow.Lib.Select

/-!
# The flow cache

`flow/mod.rs` of the exporter: the flows being metered, with the ways one ends. The counters wrap
as in a release build.
-/

namespace Rustflow

inductive FlowEndReason where
  | idleTimeout | activeTimeout | forcedEnd | lackOfResources
  deriving DecidableEq

def FlowEndReason.toU8 : FlowEndReason → UInt8
  | .idleTimeout => 1
  | .activeTimeout => 2
  | .forcedEnd => 4
  | .lackOfResources => 5

structure FlowKey where
  sourceIp : IpAddr
  destinationIp : IpAddr
  protocol : UInt8
  sourcePort : UInt16
  destinationPort : UInt16
  deriving DecidableEq

/-- When a packet was seen: its capture time, which is exported, and the monotonic clock, which
timeouts are measured on. -/
structure Seen where
  time : DateTime
  instant : Instant
  deriving DecidableEq

structure Flow where
  key : FlowKey
  octetCount : UInt64
  packetCount : UInt64
  tcpFlags : UInt16
  flowStart : DateTime
  flowEnd : DateTime
  firstSeen : Instant
  lastSeen : Instant
  flowEndReason : Option FlowEndReason
  deriving DecidableEq

namespace Flow

def new (key : FlowKey) (seen : Seen) : Flow where
  key := key
  octetCount := 0
  packetCount := 0
  tcpFlags := 0
  flowStart := seen.time
  flowEnd := seen.time
  firstSeen := seen.instant
  lastSeen := seen.instant
  flowEndReason := none

def ended (self : Flow) (reason : FlowEndReason) : Flow :=
  { self with flowEndReason := some reason }

def update (self : Flow) (packetSize : UInt64) (tcpFlags : UInt16) (seen : Seen) : Flow :=
  { self with
    octetCount := self.octetCount + packetSize
    packetCount := self.packetCount + 1
    tcpFlags := self.tcpFlags ||| tcpFlags
    flowEnd := seen.time
    lastSeen := seen.instant }

end Flow

/-- The share of a full cache ended at once to make room. -/
def EVICTION_FRACTION : Nat := 8

/-- `Duration::from_secs`, in nanoseconds. -/
def Duration.fromSecs (secs : Nat) : Duration := secs * 1000000000

structure FlowCache where
  flows : Table FlowKey Flow
  activeTimeout : Duration
  inactiveTimeout : Duration
  maxFlows : Nat
  /-- Flows ended to make room, waiting to be exported. -/
  evicted : List Flow

namespace FlowCache

def new (activeTimeout inactiveTimeout maxFlows : Nat) : FlowCache where
  flows := ∅
  activeTimeout := .fromSecs activeTimeout
  inactiveTimeout := .fromSecs inactiveTimeout
  maxFlows := maxFlows
  evicted := []

/-- Ends the flows idle longest, as lacking resources. `none` where `select_nth_unstable` panics. -/
def evictIdleLongest (order : IterationOrder Flow) (self : FlowCache) : Option FlowCache := do
  let count := max (self.maxFlows / EVICTION_FRACTION) 1
  let ends := self.flows.values.map (·.lastSeen)
  let cutoff ← selectNth ends (count - 1)
  let keep := fun flow : Flow => decide (flow.lastSeen > cutoff)
  return { self with
    flows := self.flows.retain keep
    evicted := self.evicted ++
      ((order.arrange self.flows.values).filter (!keep ·)).map (·.ended .lackOfResources) }

def makeRoom (order : IterationOrder Flow) (self : FlowCache) : Option FlowCache :=
  if self.flows.size ≥ self.maxFlows then self.evictIdleLongest order else some self

def updateFlow (order : IterationOrder Flow) (self : FlowCache) (key : FlowKey)
    (packetSize : UInt64) (tcpFlags : UInt16) (seen : Seen) : Option FlowCache :=
  match self.flows.lookup key with
  | some flow =>
    some { self with flows := self.flows.insert key (flow.update packetSize tcpFlags seen) }
  | none => do
    let self ← self.makeRoom order
    let flow := (Flow.new key seen).update packetSize tcpFlags seen
    return { self with flows := self.flows.insert key flow }

/-- Why a flow has timed out by `now`, if it has. -/
def expiry (self : FlowCache) (now : Instant) (flow : Flow) : Option FlowEndReason :=
  let age := now - flow.firstSeen
  let idleTime := now - flow.lastSeen
  if age ≥ self.activeTimeout then some .activeTimeout
  else if idleTime ≥ self.inactiveTimeout then some .idleTimeout
  else none

/-- The flows that timed out by `now`, and those ended to make room. The table's capacity is not
modelled. -/
def checkExpiredFlows (order : IterationOrder Flow) (self : FlowCache) (now : Instant) :
    FlowCache × List Flow :=
  let expired :=
    (order.arrange self.flows.values).filterMap fun flow => (self.expiry now flow).map flow.ended
  ({ self with
    flows := self.flows.retain fun flow => (self.expiry now flow).isNone
    evicted := [] },
    self.evicted ++ expired)

/-- Every flow, ended by force, and those ended to make room. -/
def exportAll (order : IterationOrder Flow) (self : FlowCache) : FlowCache × List Flow :=
  ({ self with flows := ∅, evicted := [] },
    self.evicted ++ (order.arrange self.flows.values).map (·.ended .forcedEnd))

/-! ### Runs -/

inductive Call where
  | updateFlow (key : FlowKey) (packetSize : UInt64) (tcpFlags : UInt16) (seen : Seen)
  | checkExpiredFlows (now : Instant)
  | exportAll

/-- A call, with the order in which the table is visited during it. It returns flows. -/
def call (self : FlowCache) : IterationOrder Flow × Call → Option (FlowCache × List Flow)
  | (order, .updateFlow key packetSize tcpFlags seen) =>
    (self.updateFlow order key packetSize tcpFlags seen).map fun self => (self, [])
  | (order, .checkExpiredFlows now) => some (self.checkExpiredFlows order now)
  | (order, .exportAll) => some (self.exportAll order)

/-- The cache after some calls, and the flows they have returned. -/
def run (self : FlowCache) : List (IterationOrder Flow × Call) → Option (FlowCache × List Flow)
  | [] => some (self, [])
  | call :: calls => do
    let (self, flows) ← self.call call
    let (self, later) ← run self calls
    return (self, flows ++ later)

end FlowCache

end Rustflow
