import Rustflow.Common.CommonFlow
import Rustflow.Common.InformationElement
import Rustflow.NetflowV9.Parser

/-!
# NetFlow v9 records as normalized flows

`common/convert/netflow_v9.rs`. There are no packet sections, and a sampling rate is whatever the
first field for one holds.
-/

namespace Rustflow.NetflowV9
open InformationElement

def extractU64 : FieldValue → Option UInt64
  | .unsigned8 v => some v.toUInt64
  | .unsigned16 v => some v.toUInt64
  | .unsigned32 v => some v.toUInt64
  | .unsigned64 v => some v
  | _ => none

def extractU8 (value : FieldValue) : Option UInt8 :=
  (extractU64 value).bind (tryFromU64 8 UInt8.ofNat)
def extractU16 (value : FieldValue) : Option UInt16 :=
  (extractU64 value).bind (tryFromU64 16 UInt16.ofNat)
def extractU32 (value : FieldValue) : Option UInt32 :=
  (extractU64 value).bind (tryFromU64 32 UInt32.ofNat)

def extractDatetimeNs : FieldValue → Option Int
  | .dateTimeSeconds dt | .dateTimeMilliseconds dt | .dateTimeMicroseconds dt
  | .dateTimeNanoseconds dt => dt.timestampNanosOpt
  | _ => none

def extractIpv4 : FieldValue → Option IpAddr
  | .ipv4Address addr => some (.v4 addr)
  | _ => none

def extractIpv6 : FieldValue → Option IpAddr
  | .ipv6Address addr => some (.v6 addr)
  | _ => none

def extractMac : FieldValue → Option MacAddr6
  | .macAddress mac => some mac
  | _ => none

/-- What the first field for a rate holds, a rate or not. -/
def extractSamplingRate (record : DataRecord) : Option UInt32 := do
  let (_, _, value) ← record.iter.find? fun (field, _, _) =>
    field.type = samplingInterval.toId ∨ field.type = samplingPacketInterval.toId ∨
      field.type = samplerRandomInterval.toId
  extractU32 value

/-- The sampler a record names. -/
def extractSamplerId (record : DataRecord) : Option UInt64 := do
  let (_, _, value) ← record.iter.find? fun (field, _, _) => field.type = samplerId.toId
  extractU64 value

structure NetFlowV9Context where
  header : Header
  samplerAddress : Option IpAddr
  samplingRate : Option UInt32

/-- What `convert` has made of the fields so far. -/
structure Draft where
  flow : CommonFlow
  recordRate : Option UInt32 := none

namespace NetFlowV9Context

def uptimeToAbsoluteNs (self : NetFlowV9Context) (uptimeMs : UInt32) : Option Int :=
  Rustflow.uptimeToAbsoluteNs self.header.unixSeconds self.header.systemUptime uptimeMs

/-- What an element says of the flow. A value that is not of the element's type says nothing of an
address. -/
def setField (self : NetFlowV9Context) (flow : CommonFlow) (ie : InformationElement)
    (value : FieldValue) : CommonFlow :=
  match ie with
  | .octetDeltaCount => { flow with bytes := (extractU64 value).getD 0 }
  | .packetDeltaCount => { flow with packets := (extractU64 value).getD 0 }
  | .protocolIdentifier => { flow with proto := extractU8 value }
  | .ipClassOfService => { flow with ipTos := extractU8 value }
  | .tcpControlBits => { flow with tcpFlags := extractU16 value }
  | .sourceTransportPort => { flow with srcPort := extractU16 value }
  | .sourceIpv4Address =>
    (extractIpv4 value).elim flow fun addr =>
      { flow with srcAddr := some addr, etype := some 0x0800 }
  | .sourceIpv4PrefixLength | .sourceIpv6PrefixLength => { flow with srcNet := extractU8 value }
  | .ingressInterface => { flow with inIf := extractU32 value }
  | .destinationTransportPort => { flow with dstPort := extractU16 value }
  | .destinationIpv4Address => (extractIpv4 value).elim flow fun addr =>
    { flow with dstAddr := some addr }
  | .destinationIpv4PrefixLength | .destinationIpv6PrefixLength =>
    { flow with dstNet := extractU8 value }
  | .egressInterface => { flow with outIf := extractU32 value }
  | .forwardingStatus => { flow with forwardingStatus := extractU32 value }
  | .ipNextHopIpv4Address => (extractIpv4 value).elim flow fun addr =>
    { flow with nextHop := some addr }
  | .bgpSourceAsNumber => { flow with srcAs := extractU32 value }
  | .bgpDestinationAsNumber => { flow with dstAs := extractU32 value }
  | .bgpNextHopIpv4Address => (extractIpv4 value).elim flow fun addr =>
    { flow with bgpNextHop := some addr }
  | .flowStartSysUpTime =>
    { flow with timeFlowStartNs := (extractU32 value).bind self.uptimeToAbsoluteNs }
  | .flowEndSysUpTime =>
    { flow with timeFlowEndNs := (extractU32 value).bind self.uptimeToAbsoluteNs }
  | .flowStartSeconds | .flowStartMilliseconds | .flowStartMicroseconds | .flowStartNanoseconds =>
    { flow with timeFlowStartNs := extractDatetimeNs value }
  | .flowEndSeconds | .flowEndMilliseconds | .flowEndMicroseconds | .flowEndNanoseconds =>
    { flow with timeFlowEndNs := extractDatetimeNs value }
  | .sourceIpv6Address =>
    (extractIpv6 value).elim flow fun addr =>
      { flow with srcAddr := some addr, etype := some 0x86dd }
  | .destinationIpv6Address => (extractIpv6 value).elim flow fun addr =>
    { flow with dstAddr := some addr }
  | .flowLabelIpv6 => { flow with ipv6FlowLabel := extractU32 value }
  | .icmpTypeCodeIpv4 | .icmpTypeCodeIpv6 =>
    (extractU16 value).elim flow fun v =>
      { flow with icmpType := some (v >>> 8).toUInt8, icmpCode := some (v &&& 0xff).toUInt8 }
  | .icmpTypeIpv4 | .icmpTypeIpv6 => { flow with icmpType := extractU8 value }
  | .icmpCodeIpv4 | .icmpCodeIpv6 => { flow with icmpCode := extractU8 value }
  | .srcVlan => { flow with srcVlan := extractU16 value }
  | .dstVlan => { flow with dstVlan := extractU16 value }
  | .ipNextHopIpv6Address => (extractIpv6 value).elim flow fun addr =>
    { flow with nextHop := some addr }
  | .bgpNextHopIpv6Address => (extractIpv6 value).elim flow fun addr =>
    { flow with bgpNextHop := some addr }
  | .minimumTtl | .maximumTtl => { flow with ipTtl := extractU8 value }
  | .fragmentIdentification => { flow with fragmentId := extractU32 value }
  | .sourceMacAddress | .postSourceMacAddress => (extractMac value).elim flow fun mac =>
    { flow with srcMac := some mac }
  | .destinationMacAddress | .postDestinationMacAddress =>
    (extractMac value).elim flow fun mac => { flow with dstMac := some mac }
  | _ => flow

def readField (self : NetFlowV9Context) (draft : Draft) (field : TemplateField)
    (value : FieldValue) : Draft :=
  match InformationElement.fromId field.type with
  | none => draft
  | some ie =>
    match ie with
    | .samplingInterval | .samplingPacketInterval | .samplerRandomInterval =>
      { draft with recordRate := draft.recordRate.or (extractU32 value) }
    | ie => { draft with flow := self.setField draft.flow ie value }

def convert (self : NetFlowV9Context) (record : DataRecord) (templateId : UInt16) : CommonFlow :=
  let flow := { CommonFlow.new .netflowV9 with
    sequenceNum := self.header.sequenceNumber
    samplerAddress := self.samplerAddress
    observationDomainId := some self.header.sourceId
    templateId := some templateId }
  let draft :=
    record.iter.foldl (fun draft (field, _, value) => self.readField draft field value) { flow }
  { draft.flow with samplingRate := draft.recordRate.or self.samplingRate }

end NetFlowV9Context

end Rustflow.NetflowV9
