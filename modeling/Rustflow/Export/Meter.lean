import Rustflow.Export.Exporter
import Rustflow.Export.Parse

/-!
# The meter

`sampler.rs` and `meter.rs` of the exporter: which of the captured frames are metered, and what is
kept of them until it is exported. The monotonic clock comes from outside.
-/

namespace Rustflow.Export

/-! ### Sampling -/

inductive Sampler where
  | count (interval countdown : UInt32)

namespace Sampler

def new : Sampling → Sampler
  | .count interval => .count (max interval 1) 1

/-- Whether the next frame is selected. -/
def select : Sampler → Bool × Sampler
  | .count interval countdown =>
    if countdown > 1 then (false, .count interval (countdown - 1))
    else (true, .count interval interval)

end Sampler

/-! ### Metering -/

structure Frame where
  /-- The bytes captured, cut at the snap length. -/
  data : List UInt8
  /-- The length on the wire. -/
  length : UInt32
  time : DateTime

structure SocketAddr where
  ip : IpAddr
  port : UInt16

structure ExportArgs where
  mode : Mode
  clipLength : UInt16
  activeTimeout : Nat
  inactiveTimeout : Nat
  maxFlows : Nat
  samplingPacketInterval : UInt32

def ExportArgs.sampling (self : ExportArgs) : Sampling := .count self.samplingPacketInterval

inductive Output where
  | flows (cache : FlowCache)
  | packets (clipLength : Nat) (pending : List PacketData)

structure Meter where
  link : Link
  localPort : UInt16
  collector : SocketAddr
  sampler : Sampler
  output : Output

/-- Packets pending before they are exported without waiting for the timer. -/
def PACKET_BATCH : Nat := 64

namespace Meter

def new (args : ExportArgs) (link : Link) (localPort : UInt16) (collector : SocketAddr) :
    Meter where
  link := link
  localPort := localPort
  collector := collector
  sampler := .new args.sampling
  output := match args.mode with
    | .flow => .flows (.new args.activeTimeout args.inactiveTimeout args.maxFlows)
    | .packet => .packets args.clipLength.toNat []

/-- One of the exporter's own datagrams to the collector. -/
def isExport (self : Meter) (packet : PacketInfo) : Bool :=
  packet.flowKey.protocol = IP_NUMBER_UDP && packet.flowKey.sourcePort = self.localPort &&
    packet.flowKey.destinationIp = self.collector.ip && packet.flowKey.destinationPort =
      self.collector.port

/-- `none` where the flow cache panics. -/
def observe (etherparse : Etherparse) (order : IterationOrder Flow) (now : Instant) (self : Meter)
    (frame : Frame) :
    Option Meter :=
  let (selected, sampler) := self.sampler.select
  let self := { self with sampler }
  if !selected then some self
  else
    let packet := parse etherparse self.link frame.data
    if packet.any self.isExport then some self
    else
      match self.output with
      | .flows cache =>
        match packet with
        | some packet => do
          let cache ← cache.updateFlow order packet.flowKey packet.packetSize packet.tcpFlags
            { time := frame.time, instant := now }
          return { self with output := .flows cache }
        | none => some self
      | .packets clipLength pending =>
        let packet := {
          link := self.link
          length := frame.length
          sectionBytes := frame.data.take (min frame.data.length clipLength) }
        some { self with output := .packets clipLength (pending ++ [packet]) }

/-- Whether records should be exported before the next timer tick. -/
def isFull (self : Meter) : Bool :=
  match self.output with
  | .flows cache => !cache.evicted.isEmpty
  | .packets _ pending => pending.length ≥ PACKET_BATCH

/-- The flows that expired, or every pending packet. -/
def takeDue (order : IterationOrder Flow) (now : Instant) (self : Meter) : Meter × Records :=
  match self.output with
  | .flows cache =>
    let (cache, flows) := cache.checkExpiredFlows order now
    ({ self with output := .flows cache }, .flows flows)
  | .packets clipLength pending =>
    ({ self with output := .packets clipLength [] }, .packets pending)

/-- Everything left, at shutdown. -/
def takeAll (order : IterationOrder Flow) (self : Meter) : Meter × Records :=
  match self.output with
  | .flows cache =>
    let (cache, flows) := cache.exportAll order
    ({ self with output := .flows cache }, .flows flows)
  | .packets clipLength pending =>
    ({ self with output := .packets clipLength [] }, .packets pending)

/-! ### Runs -/

inductive Call where
  | observe (frame : Frame)
  | takeDue
  | takeAll

/-- A call, with the order in which the flow cache is visited and the clock during it. -/
def call (etherparse : Etherparse) (self : Meter) : IterationOrder Flow × Instant × Call →
    Option (Meter × List Records)
  | (order, now, .observe frame) => (self.observe etherparse order now frame).map fun self =>
    (self, [])
  | (order, now, .takeDue) =>
    let (self, records) := self.takeDue order now
    some (self, [records])
  | (order, _, .takeAll) =>
    let (self, records) := self.takeAll order
    some (self, [records])

/-- The meter after some calls, and the records they have returned. -/
def run (etherparse : Etherparse) (self : Meter) : List (IterationOrder Flow × Instant × Call) →
    Option (Meter × List Records)
  | [] => some (self, [])
  | call :: calls => do
    let (self, records) ← self.call etherparse call
    let (self, later) ← run etherparse self calls
    return (self, records ++ later)

end Meter

end Rustflow.Export
