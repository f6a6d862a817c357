import Rustflow.Collect.Metrics
import Rustflow.Collect.PipelineConservation
import Rustflow.Readers

/-!
# Ingest threads

`source.rs` and `lib.rs` of the collector: threads that each read one input, decode its datagrams,
count them and push what they come to into the pipeline. An action of the system is one turn of the
loop in `collect`, the start of a thread, or a step of the pipeline. What the operating system
returns to a turn comes with it. The log and the command line are left out, and threads do not
panic.
-/

namespace Rustflow.Collect

open NetflowProcessor (Arrival)

/-- What a datagram came to. -/
inductive Decoded where
  | packet (version : FlowType) (flowCount : Nat) (flows : List CommonFlow) (json : List UInt8)
  | parseError (version : FlowType)
  | unknownVersion

/-- `json` is how packets are serialized. -/
def decode {P K : Type} (processor : Processor P K) (json : K → List UInt8) (self : P)
    (arrival : Arrival) :
    P × Decoded :=
  match processor.parse arrival.order self arrival.datagram with
  | (self, some packet) =>
    let flows := processor.convert self arrival.datagram.src packet arrival.timeReceivedNs
    (self, .packet (processor.version packet) (processor.flowCount packet) flows (json packet))
  | (self, none) =>
    match processor.versionOf arrival.datagram.payload with
    | some version => (self, .parseError version)
    | none => (self, .unknownVersion)

/-! ### Sources -/

inductive Datagram where
  | packet (arrival : Arrival)
  /-- No packet this time; let the collector flush before trying again. -/
  | idle
  /-- Socket shutdown, end of the file, or an error in it. -/
  | atEnd

inductive DatagramSource where
  | socket
  | pcap (slicing : Slicing) (frames : List (Except String CapturedFrame))

namespace DatagramSource

def nextFrame (slicing : Slicing) : List (Except String CapturedFrame) → Datagram × DatagramSource
  | [] => (.atEnd, .pcap slicing [])
  | .error _ :: frames => (.atEnd, .pcap slicing frames)
  | .ok frame :: frames =>
    match slicing.arrival frame with
    | none => nextFrame slicing frames
    | some arrival => (.packet arrival, .pcap slicing frames)

/-- `requested` is whether shutdown is, and `received` what `recv_from` returns. -/
def next (requested : Bool) (received : Except IoError Arrival) :
    DatagramSource → Datagram × DatagramSource
  | .socket =>
    if requested then (.atEnd, .socket)
    else match received with
      | .ok arrival => (.packet arrival, .socket)
      | .error _ => (.idle, .socket)
  | .pcap slicing frames =>
    if requested then (.atEnd, .pcap slicing frames) else nextFrame slicing frames

end DatagramSource

/-- What is counted of a datagram, once it was tried to decode it. -/
def ExporterMetrics.count (display : IpAddr → String) (self : ExporterMetrics)
    (metrics : InputMetrics) (datagram : Rustflow.Datagram) :
    Decoded → ExporterMetrics × InputMetrics
  | .packet version flowCount _ _ =>
    self.recordPacket display metrics datagram.src version.name datagram.payload.length flowCount
  | .parseError version =>
    self.recordParseError display metrics datagram.src version.name datagram.payload.length
  | .unknownVersion =>
    (self, self.recordUnknownVersion display metrics datagram.src datagram.payload.length)

/-! ### Threads -/

inductive OutputFormat where
  | common
  | raw

/-- What the code goes by that is not its own: packet headers, JSON and how addresses are
written. -/
structure Outside where
  etherparse : Etherparse
  netflowJson : NetflowPacket → List UInt8
  sflowJson : SflowPacket → List UInt8
  display : IpAddr → String

/-- The processor of a thread. -/
inductive Decoder where
  | netflow (self : NetflowProcessor)
  | sflow (self : SflowProcessor)

namespace Decoder

/-- `P::NAME` of the processor. -/
def name (outside : Outside) : Decoder → String
  | .netflow _ => (Rustflow.netflow outside.etherparse).name
  | .sflow _ => (Rustflow.sflow outside.etherparse).name

def decode (outside : Outside) : Decoder → Arrival → Decoder × Decoded
  | .netflow self, arrival =>
    let (self, decoded) :=
      Collect.decode (Rustflow.netflow outside.etherparse) outside.netflowJson self arrival
    (.netflow self, decoded)
  | .sflow self, arrival =>
    let (self, decoded) :=
      Collect.decode (Rustflow.sflow outside.etherparse) outside.sflowJson self arrival
    (.sflow self, decoded)

end Decoder

/-- The variables of `collect`, and three records that nothing reads: what they started as, and
whether shutdown was requested at its end. -/
structure Thread where
  source : DatagramSource
  decoder : Decoder
  exporters : ExporterMetrics
  startedSource : DatagramSource
  startedDecoder : Decoder
  toldToEnd : Bool

/-- A datagram that a thread of a family heard, with the clock at that. -/
structure Heard where
  family : String
  arrival : Arrival
  now : Int
  decoded : Decoded

/-- The collector, and a record of what was heard by which thread, which nothing reads. -/
structure Ingest (X : Type) where
  format : OutputFormat
  shutdown : Bool
  metrics : InputMetrics
  threads : Table Nat Thread
  pipeline : System CommonFlow X
  heard : List (Nat × Heard)

/-- Readings of the clocks in a turn: of the time of day in seconds, and before and after a push. -/
structure Clocks where
  seconds : Int
  start : Instant
  now : Instant

inductive IngestAction (X : Type) where
  | start (id : Nat) (source : DatagramSource) (decoder : Decoder) (now : Instant)
  | turn (id : Nat) (received : Except IoError Arrival) (clocks : Clocks)
  | shutdown
  | send (id : Nat)
  | receive (id : Nat) (tables : CommonFlow → X) (now : Instant)
  | timeout (now : Instant)
  | drain
  | disconnected

namespace Ingest
variable {X : Type} (outside : Outside)

def new (format : OutputFormat) (discard : Bool) (now : Instant) : Ingest X where
  format := format
  shutdown := false
  metrics := .new
  threads := ∅
  pipeline := .new discard now
  heard := []

/-- What is pushed of a datagram. -/
def push (format : OutputFormat) (pipeline : System CommonFlow X) (id : Nat) (clocks : Clocks) :
    Decoded → Option (System CommonFlow X)
  | .packet _ flowCount flows json =>
    match format with
    | .raw => pipeline.step (.pushRaw id json flowCount clocks.start clocks.now)
    | .common => pipeline.step (.push id flows clocks.start clocks.now)
  | _ => some pipeline

/-- The rest of a turn with a datagram, after its exporter was heard from. -/
def record (self : Ingest X) (id : Nat) (thread : Thread) (exporters : ExporterMetrics)
    (metrics : InputMetrics) (arrival : Arrival) (clocks : Clocks) : Option (Ingest X) :=
  let (decoder, decoded) := thread.decoder.decode outside arrival
  let (exporters, metrics) := exporters.count outside.display metrics arrival.datagram decoded
  (push self.format self.pipeline id clocks decoded).map fun pipeline => { self with
    metrics
    threads := self.threads.insert id { thread with decoder, exporters }
    pipeline
    heard :=
      self.heard ++ [(id,
        { family := exporters.family, arrival, now := clocks.seconds, decoded })] }

/-- One turn of the loop. The thread is running, and no send of its own is under way. -/
def turn (self : Ingest X) (id : Nat) (received : Except IoError Arrival) (clocks : Clocks) :
    Option (Ingest X) := do
  let thread ← self.threads.lookup id
  let _ ← self.pipeline.ready id
  let (datagram, source) := thread.source.next self.shutdown received
  match datagram with
  | .atEnd =>
    let pipeline ← self.pipeline.step (.drop id)
    return { self with
      threads := self.threads.insert id
        { thread with source, toldToEnd := self.shutdown }, pipeline }
  | .idle =>
    let pipeline ← self.pipeline.step (.flush id)
    return { self with threads := self.threads.insert id { thread with source }, pipeline }
  | .packet arrival =>
    let (exporters, metrics) :=
      thread.exporters.heardFrom outside.display self.metrics arrival.datagram.src
      arrival.timeReceivedNs clocks.seconds
    self.record outside id { thread with source } exporters metrics arrival clocks

/-- `none` where the action cannot be taken. -/
def step (self : Ingest X) : IngestAction X → Option (Ingest X)
  | .start id source decoder now => do
    let pipeline ← self.pipeline.step (.producer id now)
    return { self with
      pipeline
      threads := self.threads.insert id {
        source
        decoder
        exporters := .new (decoder.name outside)
        startedSource := source
        startedDecoder := decoder
        toldToEnd := false } }
  | .turn id received clocks => self.turn outside id received clocks
  | .shutdown => some { self with shutdown := true }
  | .send id => (self.pipeline.step (.send id)).map fun pipeline => { self with pipeline }
  | .receive id tables now => (self.pipeline.step (.receive id tables now)).map fun pipeline =>
    { self with pipeline }
  | .timeout now => (self.pipeline.step (.timeout now)).map fun pipeline => { self with pipeline }
  | .drain =>
    -- All threads have been joined, and their producers are gone with them.
    if self.pipeline.senders.values.all Sender.dropped then
      (self.pipeline.step .drain).map fun pipeline => { self with pipeline }
    else none
  | .disconnected => (self.pipeline.step .disconnected).map fun pipeline => { self with pipeline }

def run (self : Ingest X) (actions : List (IngestAction X)) : Option (Ingest X) :=
  actions.foldlM (step outside) self

end Ingest

end Rustflow.Collect
