import Rustflow.Common.Packet
import Rustflow.Ipfix.Types

/-!
# IPFIX records as normalized flows

`common/convert/ipfix.rs`.
-/

namespace Rustflow.Ipfix
open InformationElement

def ianaElement (field : FieldSpecifier) : Option InformationElement :=
  match field.enterpriseNumber with
  | none => InformationElement.fromId field.informationElementIdentifier
  | some _ => none

theorem ianaElement_fromIe (ie : InformationElement) (length : UInt16) :
    ianaElement (.fromIe ie length) = some ie :=
  InformationElement.fromId_toId ie

/-! ### Values -/

def extractU64 : FieldValue → Option UInt64
  | .unsigned8 v => some v.toUInt64
  | .unsigned16 v => some v.toUInt64
  | .unsigned32 v => some v.toUInt64
  | .unsigned64 v => some v
  | _ => none

def extractU8 (value : FieldValue) : Option UInt8 :=
  (extractU64 value).bind (tryFromU64 8 UInt8.ofNat)
def extractU16 (value : FieldValue) : Option UInt16 :=
  (extractU64 value).bind (tryFromU64 16 UInt16.ofNat)
def extractU32 (value : FieldValue) : Option UInt32 :=
  (extractU64 value).bind (tryFromU64 32 UInt32.ofNat)

theorem extractU8_unsigned8 (v : UInt8) : extractU8 (.unsigned8 v) = some v := by
  unfold extractU8 extractU64 tryFromU64
  rw [Option.bind_some, UInt8.toNat_toUInt64, if_pos v.toNat_lt, UInt8.ofNat_toNat]

theorem extractU16_unsigned16 (v : UInt16) : extractU16 (.unsigned16 v) = some v := by
  unfold extractU16 extractU64 tryFromU64
  rw [Option.bind_some, UInt16.toNat_toUInt64, if_pos v.toNat_lt, UInt16.ofNat_toNat]

theorem extractU32_unsigned32 (v : UInt32) : extractU32 (.unsigned32 v) = some v := by
  unfold extractU32 extractU64 tryFromU64
  rw [Option.bind_some, UInt32.toNat_toUInt64, if_pos v.toNat_lt, UInt32.ofNat_toNat]

def extractDatetimeNs : FieldValue → Option Int
  | .dateTimeSeconds dt | .dateTimeMilliseconds dt | .dateTimeMicroseconds dt
  | .dateTimeNanoseconds dt => dt.timestampNanosOpt
  | _ => none

def extractIpv4 : FieldValue → Option IpAddr
  | .ipv4Address addr => some (.v4 addr)
  | _ => none

def extractIpv6 : FieldValue → Option IpAddr
  | .ipv6Address addr => some (.v6 addr)
  | _ => none

def extractMac : FieldValue → Option MacAddr6
  | .macAddress mac => some mac
  | _ => none

/-! ### Sampling -/

structure SamplingFields where
  rate : Option UInt32 := none
  packetInterval : Option UInt32 := none
  packetSpace : Option UInt32 := none

namespace SamplingFields

def observe (self : SamplingFields) (ie : InformationElement) (value : FieldValue) :
    SamplingFields :=
  match ie with
  | .samplingInterval | .samplerRandomInterval =>
    { self with rate := self.rate.or (extractU32 value) }
  | .samplingPacketInterval => { self with packetInterval := extractU32 value }
  | .samplingPacketSpace => { self with packetSpace := extractU32 value }
  | _ => self

/-- The 1-in-N rate: stated directly, or by the packets selected out of every so many when that is a
whole 1-in-N. An interval of packets on its own is read as the rate. -/
def oneInN (self : SamplingFields) : Option UInt32 :=
  match self.rate with
  | some rate => some rate
  | none =>
    match self.packetInterval, self.packetSpace with
    | some interval, some space =>
      if 0 < interval then
        let population := interval.toNat + space.toNat
        if population % interval.toNat = 0 then
          tryFromU64 32 UInt32.ofNat (UInt64.ofNat (population / interval.toNat))
        else none
      else some interval
    | interval, _ => interval

end SamplingFields

def extractSystemInitTime (record : DataRecord) : Option Int :=
  record.iter.findSome? fun (field, _, value) =>
    if ianaElement field ≠ some .systemInitTimeMilliseconds then none
    else
      match value with
      | .dateTimeMilliseconds dt => some dt.timestampMillis
      | _ => none

/-- The sampler or selector a record names. -/
def extractSamplerId (record : DataRecord) : Option UInt64 := do
  let (_, _, value) ← record.iter.find? fun (field, _, _) =>
    ianaElement field = some .samplerId ∨ ianaElement field = some .selectorId
  extractU64 value

/-- The 1-in-N rate an options record describes. -/
def extractSamplingRate (record : DataRecord) : Option UInt32 :=
  (record.iter.foldl (fun (sampling : SamplingFields) (field, _, value) =>
    (ianaElement field).elim sampling fun ie => sampling.observe ie value) {}).oneInN

/-! ### Flows -/

/-- The header bytes a record carries. -/
inductive PacketSection where
  | frame (bytes : List UInt8)
  | ip (bytes : List UInt8)

def PacketSection.len : PacketSection → Nat
  | .frame bytes | .ip bytes => bytes.length

/-- A frame section wins over an IP header section; of either the first, or the last, counts. -/
def packetSection (record : DataRecord) : Option PacketSection :=
  let sections := record.iter.filterMap fun (field, _, value) =>
    match value, ianaElement field with
    | .octetArray bytes, some .dataLinkFrameSection => some (PacketSection.frame bytes)
    | .octetArray bytes, some .ipHeaderPacketSection => some (PacketSection.ip bytes)
    | _, _ => none
  (sections.find? fun | .frame _ => true | .ip _ => false).or sections.getLast?

/-- The section that a field holds, if it holds one. -/
def sectionOf (entry : FieldSpecifier × String × FieldValue) : Option PacketSection :=
  match entry.2.2, ianaElement entry.1 with
  | .octetArray bytes, some .dataLinkFrameSection => some (.frame bytes)
  | .octetArray bytes, some .ipHeaderPacketSection => some (.ip bytes)
  | _, _ => none

def PacketSection.isFrame : PacketSection → Bool
  | .frame _ => true
  | .ip _ => false

theorem packetSection_eq (record : DataRecord) :
    packetSection record =
      ((record.iter.filterMap sectionOf).find? PacketSection.isFrame).or
        (record.iter.filterMap sectionOf).getLast? := rfl

structure IpfixContext where
  header : Header
  samplerAddress : Option IpAddr
  samplingRate : Option UInt32
  systemInitTimeMs : Option Int

/-- What `convert` has made of the fields so far. -/
structure Draft where
  flow : CommonFlow
  frameSize : Option UInt64 := none
  sampling : SamplingFields := {}

namespace IpfixContext

/-- Delta fields count microseconds back from the export time. -/
def deltaToAbsoluteNs (self : IpfixContext) (deltaUs : UInt32) : Option Int := do
  return asI64 ((← self.header.exportTime.timestampNanosOpt) - deltaUs.toNat * 1000)

/-- Uptimes count from the boot time in a `u32` that wraps. -/
def uptimeToAbsoluteNs (self : IpfixContext) (uptimeMs : UInt32) : Option Int := do
  let exportTime := self.header.exportTime
  -- The source's difference wraps at 64 bits, which its low 32 bits do not show.
  let sysUptimeMs := asU32 (exportTime.timestampMillis - (← self.systemInitTimeMs))
  Rustflow.uptimeToAbsoluteNs exportTime sysUptimeMs uptimeMs

/-- What an element says of the flow. A value that is not of the element's type says nothing of an
address. -/
def setField (self : IpfixContext) (flow : CommonFlow) (ie : InformationElement)
    (value : FieldValue) : CommonFlow :=
  match ie with
  | .octetDeltaCount => { flow with bytes := (extractU64 value).getD 0 }
  | .packetDeltaCount => { flow with packets := (extractU64 value).getD 0 }
  | .protocolIdentifier => { flow with proto := extractU8 value }
  | .ipClassOfService => { flow with ipTos := extractU8 value }
  | .tcpControlBits => { flow with tcpFlags := extractU16 value }
  | .sourceTransportPort => { flow with srcPort := extractU16 value }
  | .sourceIpv4Address =>
    (extractIpv4 value).elim flow fun addr =>
      { flow with srcAddr := some addr, etype := some 0x0800 }
  | .sourceIpv4PrefixLength | .sourceIpv6PrefixLength => { flow with srcNet := extractU8 value }
  | .ingressInterface => { flow with inIf := extractU32 value }
  | .destinationTransportPort => { flow with dstPort := extractU16 value }
  | .destinationIpv4Address => (extractIpv4 value).elim flow fun addr =>
    { flow with dstAddr := some addr }
  | .destinationIpv4PrefixLength | .destinationIpv6PrefixLength =>
    { flow with dstNet := extractU8 value }
  | .egressInterface => { flow with outIf := extractU32 value }
  | .forwardingStatus => { flow with forwardingStatus := extractU32 value }
  | .ipNextHopIpv4Address => (extractIpv4 value).elim flow fun addr =>
    { flow with nextHop := some addr }
  | .bgpSourceAsNumber => { flow with srcAs := extractU32 value }
  | .bgpDestinationAsNumber => { flow with dstAs := extractU32 value }
  | .bgpNextHopIpv4Address => (extractIpv4 value).elim flow fun addr =>
    { flow with bgpNextHop := some addr }
  | .flowStartSeconds | .flowStartMilliseconds | .flowStartMicroseconds | .flowStartNanoseconds =>
    { flow with timeFlowStartNs := extractDatetimeNs value }
  | .flowEndSeconds | .flowEndMilliseconds | .flowEndMicroseconds | .flowEndNanoseconds =>
    { flow with timeFlowEndNs := extractDatetimeNs value }
  | .flowStartSysUpTime =>
    { flow with timeFlowStartNs := (extractU32 value).bind self.uptimeToAbsoluteNs }
  | .flowEndSysUpTime =>
    { flow with timeFlowEndNs := (extractU32 value).bind self.uptimeToAbsoluteNs }
  | .flowStartDeltaMicroseconds =>
    { flow with timeFlowStartNs := (extractU32 value).bind self.deltaToAbsoluteNs }
  | .flowEndDeltaMicroseconds =>
    { flow with timeFlowEndNs := (extractU32 value).bind self.deltaToAbsoluteNs }
  | .sourceIpv6Address =>
    (extractIpv6 value).elim flow fun addr =>
      { flow with srcAddr := some addr, etype := some 0x86dd }
  | .destinationIpv6Address => (extractIpv6 value).elim flow fun addr =>
    { flow with dstAddr := some addr }
  | .flowLabelIpv6 => { flow with ipv6FlowLabel := extractU32 value }
  | .icmpTypeCodeIpv4 | .icmpTypeCodeIpv6 =>
    (extractU16 value).elim flow fun v =>
      { flow with icmpType := some (v >>> 8).toUInt8, icmpCode := some (v &&& 0xff).toUInt8 }
  | .icmpTypeIpv4 | .icmpTypeIpv6 => { flow with icmpType := extractU8 value }
  | .icmpCodeIpv4 | .icmpCodeIpv6 => { flow with icmpCode := extractU8 value }
  | .srcVlan => { flow with srcVlan := extractU16 value }
  | .dstVlan => { flow with dstVlan := extractU16 value }
  | .ipNextHopIpv6Address => (extractIpv6 value).elim flow fun addr =>
    { flow with nextHop := some addr }
  | .bgpNextHopIpv6Address => (extractIpv6 value).elim flow fun addr =>
    { flow with bgpNextHop := some addr }
  | .minimumTtl | .maximumTtl => { flow with ipTtl := extractU8 value }
  | .fragmentIdentification => { flow with fragmentId := extractU32 value }
  | .sourceMacAddress | .postSourceMacAddress => (extractMac value).elim flow fun mac =>
    { flow with srcMac := some mac }
  | .destinationMacAddress | .postDestinationMacAddress =>
    (extractMac value).elim flow fun mac => { flow with dstMac := some mac }
  | _ => flow

def readField (self : IpfixContext) (draft : Draft) (field : FieldSpecifier)
    (value : FieldValue) : Draft :=
  match ianaElement field with
  | none => draft
  | some ie =>
    match ie with
    | .dataLinkFrameSize => { draft with frameSize := extractU64 value }
    | .samplingInterval | .samplerRandomInterval | .samplingPacketInterval | .samplingPacketSpace =>
      { draft with sampling := draft.sampling.observe ie value }
    | ie => { draft with flow := self.setField draft.flow ie value }

def convert (etherparse : Etherparse) (self : IpfixContext) (record : DataRecord)
    (templateId : UInt16) : CommonFlow :=
  let flow := { CommonFlow.new .ipfix with
    sequenceNum := self.header.sequenceNumber
    samplerAddress := self.samplerAddress
    observationDomainId := some self.header.observationDomainId
    templateId := some templateId }
  -- The header goes in first so that what the record states explicitly overwrites it.
  let flow := match packetSection record with
    | some (.frame bytes) => applyEthernetFrame etherparse flow bytes
    | some (.ip bytes) => applyIpPacket etherparse flow bytes
    | none => flow
  let draft :=
    record.iter.foldl (fun draft (field, _, value) => self.readField draft field value) { flow }
  let flow := { draft.flow with samplingRate := draft.sampling.oneInN.or self.samplingRate }
  match packetSection record with
  | none => flow
  | some bytes =>
    -- A record without counters is one packet of the frame's size.
    { flow with
      bytes := if flow.bytes = 0 then draft.frameSize.getD (UInt64.ofNat bytes.len) else flow.bytes
      packets := if flow.packets = 0 then 1 else flow.packets }

end IpfixContext

end Rustflow.Ipfix
