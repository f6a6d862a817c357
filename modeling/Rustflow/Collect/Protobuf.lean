import Rustflow.Collect.Encoder
import Rustflow.Lib.CappedTable
import Rustflow.Lib.TwosComplement
import Rustflow.Lib.WireFormat

/-!
# Protobuf

`sink/encoder/protobuf.rs`: a flow and its enrichment as a message, and messages as a stream. The
tags are those of `proto/rustflow.proto`.
-/

namespace Rustflow

/-- The name with `SCREAMING_SNAKE_CASE`. -/
def FlowType.toString : FlowType → String
  | .netflowV5 => "NETFLOW_V5"
  | .netflowV9 => "NETFLOW_V9"
  | .ipfix => "IPFIX"
  | .sflowV5 => "SFLOW_V5"

end Rustflow

namespace Rustflow.Collect
open WireFormat

structure FlowMessage where
  flowType : String
  timeReceivedNs : Option Int
  sequenceNum : UInt32
  samplingRate : Option UInt32
  samplerAddress : Option (List UInt8)
  timeFlowStartNs : Option Int
  timeFlowEndNs : Option Int
  bytes : UInt64
  packets : UInt64
  srcAddr : Option (List UInt8)
  dstAddr : Option (List UInt8)
  srcMac : Option (List UInt8)
  dstMac : Option (List UInt8)
  etype : Option UInt32
  proto : Option UInt32
  srcPort : Option UInt32
  dstPort : Option UInt32
  inIf : Option UInt32
  outIf : Option UInt32
  ipTos : Option UInt32
  ipTtl : Option UInt32
  tcpFlags : Option UInt32
  icmpType : Option UInt32
  icmpCode : Option UInt32
  ipv6FlowLabel : Option UInt32
  fragmentId : Option UInt32
  fragmentOffset : Option UInt32
  srcAs : Option UInt32
  dstAs : Option UInt32
  nextHop : Option (List UInt8)
  srcNet : Option UInt32
  dstNet : Option UInt32
  bgpNextHop : Option (List UInt8)
  srcVlan : Option UInt32
  dstVlan : Option UInt32
  observationDomainId : Option UInt32
  templateId : Option UInt32
  forwardingStatus : Option UInt32
  enriched : Table String String

/-- An address on the wire: 4 bytes for IPv4, 16 for IPv6. -/
def ipBytes : IpAddr → List UInt8
  | .v4 addr => BigEndian.bytes 4 addr.toNat
  | .v6 addr => BigEndian.bytes 16 addr.toNat

def macBytes (mac : MacAddr6) : List UInt8 := BigEndian.bytes 6 mac.toNat

namespace FlowMessage

def fromFlow (flow : CommonFlow) (names : List String) (enriched : Enriched) : FlowMessage where
  flowType := flow.flowType.toString
  timeReceivedNs := flow.timeReceivedNs
  sequenceNum := flow.sequenceNum
  samplingRate := flow.samplingRate
  samplerAddress := flow.samplerAddress.map ipBytes
  timeFlowStartNs := flow.timeFlowStartNs
  timeFlowEndNs := flow.timeFlowEndNs
  bytes := flow.bytes
  packets := flow.packets
  srcAddr := flow.srcAddr.map ipBytes
  dstAddr := flow.dstAddr.map ipBytes
  srcMac := flow.srcMac.map macBytes
  dstMac := flow.dstMac.map macBytes
  etype := flow.etype.map UInt16.toUInt32
  proto := flow.proto.map UInt8.toUInt32
  srcPort := flow.srcPort.map UInt16.toUInt32
  dstPort := flow.dstPort.map UInt16.toUInt32
  inIf := flow.inIf
  outIf := flow.outIf
  ipTos := flow.ipTos.map UInt8.toUInt32
  ipTtl := flow.ipTtl.map UInt8.toUInt32
  tcpFlags := flow.tcpFlags.map UInt16.toUInt32
  icmpType := flow.icmpType.map UInt8.toUInt32
  icmpCode := flow.icmpCode.map UInt8.toUInt32
  ipv6FlowLabel := flow.ipv6FlowLabel
  fragmentId := flow.fragmentId
  fragmentOffset := flow.fragmentOffset.map UInt16.toUInt32
  srcAs := flow.srcAs
  dstAs := flow.dstAs
  nextHop := flow.nextHop.map ipBytes
  srcNet := flow.srcNet.map UInt8.toUInt32
  dstNet := flow.dstNet.map UInt8.toUInt32
  bgpNextHop := flow.bgpNextHop.map ipBytes
  srcVlan := flow.srcVlan.map UInt16.toUInt32
  dstVlan := flow.dstVlan.map UInt16.toUInt32
  observationDomainId := flow.observationDomainId
  templateId := flow.templateId.map UInt16.toUInt32
  forwardingStatus := flow.forwardingStatus
  enriched := (enrichedMap names enriched).foldl (fun table pair => table.insert pair.1 pair.2) ∅

end FlowMessage

/-! ### Fields -/

def int64 (v : Int) : Value := .varint (v % 256 ^ 8).toNat
def uint32 (v : UInt32) : Value := .varint v.toNat
def uint64 (v : UInt64) : Value := .varint v.toNat
def text (v : String) : Value := .delimited (Utf8.bytes v)

/-- A field that is not optional is left out if it has the default. -/
def skipDefault {α : Type} [DecidableEq α] (default : α) (value : α → Value) (v : α) :
    Option Value :=
  if v = default then none else some (value v)

namespace FlowMessage

/-- The tag of each field but the map, with the value there is to write. -/
def single (self : FlowMessage) : List (Nat × Option Value) :=
  [ (1, skipDefault "" text self.flowType),
    (2, self.timeReceivedNs.map int64),
    (3, skipDefault 0 uint32 self.sequenceNum),
    (4, self.samplingRate.map uint32),
    (5, self.samplerAddress.map .delimited),
    (6, self.timeFlowStartNs.map int64),
    (7, self.timeFlowEndNs.map int64),
    (8, skipDefault 0 uint64 self.bytes),
    (9, skipDefault 0 uint64 self.packets),
    (10, self.srcAddr.map .delimited),
    (11, self.dstAddr.map .delimited),
    (12, self.srcMac.map .delimited),
    (13, self.dstMac.map .delimited),
    (14, self.etype.map uint32),
    (15, self.proto.map uint32),
    (16, self.srcPort.map uint32),
    (17, self.dstPort.map uint32),
    (18, self.inIf.map uint32),
    (19, self.outIf.map uint32),
    (20, self.ipTos.map uint32),
    (21, self.ipTtl.map uint32),
    (22, self.tcpFlags.map uint32),
    (23, self.icmpType.map uint32),
    (24, self.icmpCode.map uint32),
    (25, self.ipv6FlowLabel.map uint32),
    (26, self.fragmentId.map uint32),
    (27, self.fragmentOffset.map uint32),
    (28, self.srcAs.map uint32),
    (29, self.dstAs.map uint32),
    (30, self.nextHop.map .delimited),
    (31, self.srcNet.map uint32),
    (32, self.dstNet.map uint32),
    (33, self.bgpNextHop.map .delimited),
    (34, self.srcVlan.map uint32),
    (35, self.dstVlan.map uint32),
    (36, self.observationDomainId.map uint32),
    (37, self.templateId.map uint32),
    (38, self.forwardingStatus.map uint32) ]

def ENRICHED : Nat := 39

/-- An entry of a map is a message of a key and a value. -/
def entry (key value : String) : Value :=
  .delimited ((present [(1, skipDefault "" text key), (2, skipDefault "" text value)]).flatMap
    WireField.encode)

def fields (self : FlowMessage) : List WireField :=
  present self.single ++ (self.enriched.entries.map fun e => entry e.1 e.2).map
    (WireField.mk ENRICHED)

end FlowMessage

/-- What the library makes of a message: its fields, in some order. -/
structure Prost where
  encode : FlowMessage → List UInt8
  writes : ∀ message, ∃ fields : List WireField, fields.Perm message.fields ∧
    encode message = fields.flatMap WireField.encode

/-! ### The encoder -/

/-- Length-delimited protobuf, one `FlowMessage` per record. -/
structure Protobuf where
  out : BufWriter UInt8
  names : List String
  buf : List UInt8

namespace Protobuf
variable (prost : Prost)

def openAt (out : Sink UInt8) (enrichedFields : List String) : Protobuf :=
  { out := BufWriter.withCapacity WRITE_BUFFER_BYTES out, names := enrichedFields, buf := [] }

def record (names : List String) (flow : CommonFlow) (enriched : Enriched) : List UInt8 :=
  delimit (prost.encode (FlowMessage.fromFlow flow names enriched))

def encode (self : Protobuf) (flow : CommonFlow) (enriched : Enriched) : Bool × Protobuf :=
  let buf := record prost self.names flow enriched
  let (written, out) := self.out.writeAll buf
  (written, { self with out, buf })

def flush (self : Protobuf) : Bool × Protobuf :=
  (self.out.flush.1, { self with out := self.out.flush.2 })

def call (self : Protobuf) : EncoderCall → Bool × Protobuf
  | .encode flow enriched => self.encode prost flow enriched
  -- Raw records need NDJSON.
  | .writeRaw _ => (false, self)
  | .flush => self.flush

def after (self : Protobuf) (calls : List EncoderCall) : Protobuf :=
  calls.foldl (fun protobuf call => (protobuf.call prost call).2) self

end Protobuf

end Rustflow.Collect
