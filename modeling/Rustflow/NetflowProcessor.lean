import Rustflow.Ipfix.Convert
import Rustflow.Ipfix.Parser
import Rustflow.Lib.Sessions
import Rustflow.NetflowV5.Parser
import Rustflow.NetflowV9.Convert
import Rustflow.Processor

/-!
# The processor

The rest of `rustflow/src/processor.rs` for NetFlow and IPFIX: datagrams of any exporter are parsed
with what its earlier ones said, and their data records become flows. Log messages are left out.
-/

namespace Rustflow

/-! ### Exporters -/

/-- How often exporters gone quiet are looked for. -/
def SWEEP_INTERVAL : Duration := 10 * 1000000000

/-- One exporter address: its template cache and its domains. -/
structure Exporter (P : Type) where
  parser : P
  domains : Table UInt32 Domain
  lastSeen : Instant

/-- The exporters of one protocol version. -/
abbrev Exporters (P : Type) : Type := Sessions IpAddr (Exporter P)

namespace Exporters
variable {P : Type}

def new (now : Instant) : Exporters P := ⟨∅, now⟩

/-- An exporter heard from, with a new parser on first contact. -/
def seen (now : Instant) (parser : P) (exporter : Option (Exporter P)) : Exporter P :=
  { exporter.getD { parser, domains := ∅, lastSeen := now } with lastSeen := now }

/-- The exporter at `src`, marked as seen at `now`. Exporters quiet for `timeout` are swept out
along the way. -/
def entry (self : Exporters P) (src : IpAddr) (now : Instant) (timeout : Duration) (new : P) :
    Exporter P × Exporters P :=
  let self := self.sweep Exporter.lastSeen SWEEP_INTERVAL timeout now
  let exporter := seen now new (self.map.lookup src)
  (exporter, self.put src exporter)

def domain (self : Exporters P) (src : IpAddr) (id : UInt32) : Option Domain :=
  (self.map.lookup src).bind fun exporter => exporter.domains.lookup id

end Exporters

/-! ### Packets -/

inductive NetflowPacket where
  | v5 (packet : NetflowV5.NetFlowV5Packet)
  | v9 (packet : NetflowV9.NetFlowV9Packet)
  | ipfix (packet : Ipfix.IpfixPacket)

/-- The first two bytes of a payload. -/
def version : List UInt8 → Option UInt16
  | b0 :: b1 :: _ => some (u16FromBe b0 b1)
  | _ => none

/-- A payload from an address, and the readings of the clock while it is parsed. -/
structure Datagram where
  src : IpAddr
  payload : List UInt8
  clock : Nat → Instant

/-- The first reading is of its arrival. -/
def Datagram.arrival (self : Datagram) : Instant := self.clock 0

/-- The next two are of the caches of a new parser, if there has to be one. -/
def Datagram.made (self : Datagram) (n : Nat) : Instant := self.clock (n + 1)

namespace Domain

/-- What an options record of NetFlow v9 says of its domain. -/
def readV9 (order : IterationOrder UInt32) (self : Domain) : NetflowV9.Record → Domain
  | .optionsData record =>
    match NetflowV9.extractSamplingRate record with
    | some rate => self.setSamplingRate order (NetflowV9.extractSamplerId record) rate
    | none => self
  | _ => self

/-- What an options record of IPFIX says of its domain. -/
def readIpfix (order : IterationOrder UInt32) (self : Domain) : Ipfix.Record → Domain
  | .optionsData record =>
    let self :=
      match Ipfix.extractSamplingRate record with
      | some rate => self.setSamplingRate order (Ipfix.extractSamplerId record) rate
      | none => self
    match Ipfix.extractSystemInitTime record with
    | some boot => { self with systemInitTimeMs := some boot }
    | none => self
  | _ => self

end Domain

namespace Exporter

def parseV9 (order : IterationOrder UInt32) (self : Exporter NetflowV9.NetflowV9Parser)
    (datagram : Datagram) :
    Exporter NetflowV9.NetflowV9Parser × Option NetflowV9.NetFlowV9Packet :=
  match NetflowV9.parse datagram.clock datagram.payload
    { parser := self.parser, ticks := 3, journal := [] } with
  | (none, w) => ({ self with parser := w.parser }, none)
  | (some (_, parsed), w) =>
    let domain := (self.domains.lookup parsed.header.sourceId).getD {}
    let domain := (parsed.flowSets.flatMap (·.records)).foldl (Domain.readV9 order) domain
    ({ self with parser := w.parser, domains := self.domains.insert parsed.header.sourceId domain },
      some parsed)

def parseIpfix (order : IterationOrder UInt32) (self : Exporter Ipfix.IpfixParser)
    (datagram : Datagram) :
    Exporter Ipfix.IpfixParser × Option Ipfix.IpfixPacket :=
  match Ipfix.parse datagram.clock datagram.payload
    { parser := self.parser, ticks := 3, journal := [] } with
  | (none, w) => ({ self with parser := w.parser }, none)
  | (some (_, parsed), w) =>
    let domain := (self.domains.lookup parsed.header.observationDomainId).getD {}
    let domain := (parsed.sets.flatMap (·.records)).foldl (Domain.readIpfix order) domain
    ({ self with
      parser := w.parser
      domains := self.domains.insert parsed.header.observationDomainId domain }, some parsed)

end Exporter

/-! ### Flows -/

/-- The flows of a packet, given what its exporter has said of its domain. -/
def NetflowPacket.flows (etherparse : Etherparse) (domain : Option Domain) (src : IpAddr)
    (timeReceivedNs : Option Int) :
    NetflowPacket → List CommonFlow
  | .v5 parsed =>
    parsed.flowRecords.map fun record =>
      let context :=
        { header := parsed.header, samplerAddress := some src : NetflowV5.NetFlowV5Context }
      { context.convert record with timeReceivedNs }
  | .v9 parsed =>
    parsed.flowSets.flatMap fun set => set.records.filterMap fun
      | .data record =>
        let context := {
          header := parsed.header
          samplerAddress := some src
          samplingRate :=
            domain.bind fun domain => domain.samplingRate (NetflowV9.extractSamplerId record)
          : NetflowV9.NetFlowV9Context }
        some { context.convert record set.id with timeReceivedNs }
      | _ => none
  | .ipfix parsed =>
    parsed.sets.flatMap fun set => set.records.filterMap fun
      | .data record =>
        let context := {
          header := parsed.header
          samplerAddress := some src
          samplingRate :=
            domain.bind fun domain => domain.samplingRate (Ipfix.extractSamplerId record)
          systemInitTimeMs := domain.bind Domain.systemInitTimeMs
          : Ipfix.IpfixContext }
        some { context.convert etherparse record set.id with timeReceivedNs }
      | _ => none

/-! ### The processor -/

structure NetflowProcessor where
  ieRegistry : IERegistry
  templateTimeout : Duration
  v9 : Exporters NetflowV9.NetflowV9Parser
  ipfix : Exporters Ipfix.IpfixParser

namespace NetflowProcessor

/-- A processor without exporters, with the times at which each table of them was made. -/
def new (ieRegistry : IERegistry) (templateTimeout : Duration) (v9 ipfix : Instant) :
    NetflowProcessor where
  ieRegistry := ieRegistry
  templateTimeout := templateTimeout
  v9 := .new v9
  ipfix := .new ipfix

def parse (order : IterationOrder UInt32) (self : NetflowProcessor) (datagram : Datagram) :
    NetflowProcessor × Option NetflowPacket :=
  match version datagram.payload with
  | none => (self, none)
  | some version =>
    if version = NetflowV5.NETFLOW_V5_VERSION then
      (self, (NetflowV5.parse datagram.payload).map fun parsed => .v5 parsed.2)
    else if version = NetflowV9.NETFLOW_V9_VERSION then
      let new := NetflowV9.World.new datagram.made self.ieRegistry self.templateTimeout
      let (exporter, v9) :=
        self.v9.entry datagram.src datagram.arrival self.templateTimeout new.parser
      let (exporter, parsed) := exporter.parseV9 order datagram
      ({ self with v9 := v9.put datagram.src exporter }, parsed.map .v9)
    else if version = Ipfix.IPFIX_VERSION then
      let new := Ipfix.World.new datagram.made self.ieRegistry self.templateTimeout
      let (exporter, ipfix) :=
        self.ipfix.entry datagram.src datagram.arrival self.templateTimeout new.parser
      let (exporter, parsed) := exporter.parseIpfix order datagram
      ({ self with ipfix := ipfix.put datagram.src exporter }, parsed.map .ipfix)
    else (self, none)

/-- What the exporter of a packet has said of its domain. -/
def domain (self : NetflowProcessor) (src : IpAddr) : NetflowPacket → Option Domain
  | .v5 _ => none
  | .v9 parsed => self.v9.domain src parsed.header.sourceId
  | .ipfix parsed => self.ipfix.domain src parsed.header.observationDomainId

def convert (etherparse : Etherparse) (self : NetflowProcessor) (src : IpAddr)
    (packet : NetflowPacket) (timeReceivedNs : Option Int) : List CommonFlow :=
  packet.flows etherparse (self.domain src packet) src timeReceivedNs

/-- Parses and converts in one step. -/
def process (etherparse : Etherparse) (order : IterationOrder UInt32) (self : NetflowProcessor)
    (datagram : Datagram) (timeReceivedNs : Option Int) :
    NetflowProcessor × Option NetflowPacket × List CommonFlow :=
  let (self, packet) := self.parse order datagram
  (self, packet, (packet.map fun packet =>
    self.convert etherparse datagram.src packet timeReceivedNs).getD [])

/-! ### Runs -/

/-- A call of `process`. -/
structure Arrival where
  datagram : Datagram
  order : IterationOrder UInt32
  timeReceivedNs : Option Int

/-- Where each datagram was from, and what came of it. -/
def run (etherparse : Etherparse) (self : NetflowProcessor) :
    List Arrival → List (IpAddr × Option NetflowPacket × List CommonFlow)
  | [] => []
  | arrival :: arrivals =>
    let (self, result) :=
      self.process etherparse arrival.order arrival.datagram arrival.timeReceivedNs
    (arrival.datagram.src, result) :: run etherparse self arrivals

end NetflowProcessor

end Rustflow
