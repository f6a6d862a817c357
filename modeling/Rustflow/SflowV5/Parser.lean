import Rustflow.SflowV5.Types

/-!
# The sFlow v5 parser

`sflow_v5/parser.rs`. Samples, and the records inside them, are framed by a format and a length.
What does not parse inside its frame is kept as bytes.
-/

namespace Rustflow.SflowV5
open Combinator

def SFLOW_V5_VERSION : UInt32 := 5

/-- The address types. -/
def UNKNOWN : UInt32 := 0
def IPV4 : UInt32 := 1
def IPV6 : UInt32 := 2

def parseAddress : Parser (Option IpAddr) := do
  let addressType ← beU32
  if addressType = UNKNOWN then return none
  else if addressType = IPV4 then return some (.v4 (← ipv4Addr))
  else if addressType = IPV6 then return some (.v6 (← ipv6Addr))
  else fail

/-- A string of the declared length, padded to a multiple of four bytes. -/
def parseXdrString : Parser String := do
  let length ← beU32
  let string ← take length.toNat
  let _ ← take ((4 - length.toNat % 4) % 4)
  return Utf8.readLossy string

/-! ### Flow records -/

def parseSampledHeader : Parser SampledHeader := do
  let protocol ← mapOpt beU32 HeaderProtocol.tryFrom
  let frameLength ← beU32
  let stripped ← beU32
  let originalLength ← beU32
  let header ← take originalLength.toNat
  return { protocol, frameLength, stripped, header }

def parsePaddedMac : Parser MacAddr6 := do
  let mac ← macaddr6
  let _ ← take 2
  return mac

def parseSampledEthernet : Parser SampledEthernet := do
  let length ← beU32
  let srcMac ← parsePaddedMac
  let dstMac ← parsePaddedMac
  let type ← beU32
  return { length, srcMac, dstMac, type }

def parseSampledIpv4 : Parser SampledIpv4 := do
  let length ← beU32
  let protocol ← beU32
  let srcIp ← ipv4Addr
  let dstIp ← ipv4Addr
  let srcPort ← beU32
  let dstPort ← beU32
  let tcpFlags ← beU32
  let tos ← beU32
  return { length, protocol, srcIp, dstIp, srcPort, dstPort, tcpFlags, tos }

def parseSampledIpv6 : Parser SampledIpv6 := do
  let length ← beU32
  let protocol ← beU32
  let srcIp ← ipv6Addr
  let dstIp ← ipv6Addr
  let srcPort ← beU32
  let dstPort ← beU32
  let tcpFlags ← beU32
  let priority ← beU32
  return { length, protocol, srcIp, dstIp, srcPort, dstPort, tcpFlags, priority }

def parseExtendedSwitch : Parser ExtendedSwitch := do
  let srcVlan ← beU32
  let srcPriority ← beU32
  let dstVlan ← beU32
  let dstPriority ← beU32
  return { srcVlan, srcPriority, dstVlan, dstPriority }

def parseExtendedRouter : Parser ExtendedRouter := do
  let nexthop ← parseAddress
  let srcMask ← beU32
  let dstMask ← beU32
  return { nexthop, srcMask, dstMask }

def parseAsPathSegment : Parser AsPathType := do
  let segmentType ← mapOpt beU32 AsPathSegmentType.tryFrom
  let length ← beU32
  let ases ← count beU32 length.toNat
  match segmentType with
  | .asSet => return .asSet ases.toFinset
  | .asSequence => return .asSequence ases

def parseExtendedGateway : Parser ExtendedGateway := do
  let nexthop ← parseAddress
  let as ← beU32
  let srcAs ← beU32
  let srcPeerAs ← beU32
  let dstAsPathLength ← beU32
  let dstAsPath ← count parseAsPathSegment dstAsPathLength.toNat
  let communitiesLength ← beU32
  let communities ← count beU32 communitiesLength.toNat
  let localpref ← beU32
  return { nexthop, as, srcAs, srcPeerAs, dstAsPath, communities, localpref }

def parseExtendedUser : Parser ExtendedUser := do
  let srcCharset ← beU32
  let srcUser ← parseXdrString
  let dstCharset ← beU32
  let dstUser ← parseXdrString
  return { srcCharset, srcUser, dstCharset, dstUser }

def parseExtendedUrl : Parser ExtendedUrl := do
  let direction ← mapOpt beU32 UrlDirection.tryFrom
  let url ← parseXdrString
  return { direction, url }

def parseExtendedEgressQueue : Parser ExtendedEgressQueue := do
  let queue ← beU32
  return { queue }

def parseExtendedAcl : Parser ExtendedAcl := do
  let number ← beU32
  let name ← parseXdrString
  let direction ← mapOpt beU32 Direction.tryFrom
  return { number, name, direction }

def parseExtendedFunction : Parser ExtendedFunction := do
  let symbol ← parseXdrString
  return { symbol }

def parseRecordHeader : Parser RecordHeader := do
  let dataFormat ← beU32
  let length ← beU32
  return { dataFormat, length }

/-- The value of a parser run on a whole slice; what it leaves of the slice is dropped. -/
def valueOf {α : Type} (p : Parser α) (slice : List UInt8) : Option α := (p slice).map Prod.snd

/-- `none` where the bytes do not parse as a record of a known format. -/
def flowRecordData (format : UInt32) (v : List UInt8) : Option FlowRecordType :=
  match FlowType.tryFrom format with
  | some .sampledHeader => (valueOf parseSampledHeader v).map .sampledHeader
  | some .sampledEthernet => (valueOf parseSampledEthernet v).map .sampledEthernet
  | some .sampledIpv4 => (valueOf parseSampledIpv4 v).map .sampledIpv4
  | some .sampledIpv6 => (valueOf parseSampledIpv6 v).map .sampledIpv6
  | some .extendedSwitch => (valueOf parseExtendedSwitch v).map .extendedSwitch
  | some .extendedRouter => (valueOf parseExtendedRouter v).map .extendedRouter
  | some .extendedGateway => (valueOf parseExtendedGateway v).map .extendedGateway
  | some .extendedUser => (valueOf parseExtendedUser v).map .extendedUser
  | some .extendedUrl => (valueOf parseExtendedUrl v).map .extendedUrl
  | some .extendedEgressQueue => (valueOf parseExtendedEgressQueue v).map .extendedEgressQueue
  | some .extendedAcl => (valueOf parseExtendedAcl v).map .extendedAcl
  | some .extendedFunction => (valueOf parseExtendedFunction v).map .extendedFunction
  | none => some (.unknown v)

def parseFlowRecord : Parser FlowRecord := do
  let header ← parseRecordHeader
  let data ← take header.length.toNat
  return { header, data := (flowRecordData header.dataFormat data).getD (.unknown data) }

/-! ### Counter records -/

def parseIfCounters : Parser IfCounters := do
  let ifIndex ← beU32
  let ifType ← beU32
  let ifSpeed ← beU64
  let ifDirection ← beU32
  let ifStatus ← beU32
  let ifInOctets ← beU64
  let ifInUcastPkts ← beU32
  let ifInMulticastPkts ← beU32
  let ifInBroadcastPkts ← beU32
  let ifInDiscards ← beU32
  let ifInErrors ← beU32
  let ifInUnknownProtos ← beU32
  let ifOutOctets ← beU64
  let ifOutUcastPkts ← beU32
  let ifOutMulticastPkts ← beU32
  let ifOutBroadcastPkts ← beU32
  let ifOutDiscards ← beU32
  let ifOutErrors ← beU32
  let ifPromiscuousMode ← beU32
  return { ifIndex, ifType, ifSpeed, ifDirection, ifStatus, ifInOctets, ifInUcastPkts,
           ifInMulticastPkts, ifInBroadcastPkts, ifInDiscards, ifInErrors, ifInUnknownProtos,
           ifOutOctets, ifOutUcastPkts, ifOutMulticastPkts, ifOutBroadcastPkts, ifOutDiscards,
           ifOutErrors, ifPromiscuousMode }

def parseEthernetCounters : Parser EthernetCounters := do
  let dot3StatsAlignmentErrors ← beU32
  let dot3StatsFcsErrors ← beU32
  let dot3StatsSingleCollisionFrames ← beU32
  let dot3StatsMultipleCollisionFrames ← beU32
  let dot3StatsSqetestErrors ← beU32
  let dot3StatsDeferredTransmissions ← beU32
  let dot3StatsLateCollisions ← beU32
  let dot3StatsExcessiveCollisions ← beU32
  let dot3StatsInternalMacTransmitErrors ← beU32
  let dot3StatsCarrierSenseErrors ← beU32
  let dot3StatsFrameTooLongs ← beU32
  let dot3StatsInternalMacReceiveErrors ← beU32
  let dot3StatsSymbolErrors ← beU32
  return { dot3StatsAlignmentErrors, dot3StatsFcsErrors, dot3StatsSingleCollisionFrames,
           dot3StatsMultipleCollisionFrames, dot3StatsSqetestErrors, dot3StatsDeferredTransmissions,
           dot3StatsLateCollisions, dot3StatsExcessiveCollisions,
           dot3StatsInternalMacTransmitErrors, dot3StatsCarrierSenseErrors, dot3StatsFrameTooLongs,
           dot3StatsInternalMacReceiveErrors, dot3StatsSymbolErrors }

def parseTokenringCounters : Parser TokenringCounters := do
  let dot5StatsLineErrors ← beU32
  let dot5StatsBurstErrors ← beU32
  let dot5StatsAcErrors ← beU32
  let dot5StatsAbortTransErrors ← beU32
  let dot5StatsInternalErrors ← beU32
  let dot5StatsLostFrameErrors ← beU32
  let dot5StatsReceiveCongestions ← beU32
  let dot5StatsFrameCopiedErrors ← beU32
  let dot5StatsTokenErrors ← beU32
  let dot5StatsSoftErrors ← beU32
  let dot5StatsHardErrors ← beU32
  let dot5StatsSignalLoss ← beU32
  let dot5StatsTransmitBeacons ← beU32
  let dot5StatsRecoveries ← beU32
  let dot5StatsLobeWires ← beU32
  let dot5StatsRemoves ← beU32
  let dot5StatsSingles ← beU32
  let dot5StatsFreqErrors ← beU32
  return { dot5StatsLineErrors, dot5StatsBurstErrors, dot5StatsAcErrors, dot5StatsAbortTransErrors,
           dot5StatsInternalErrors, dot5StatsLostFrameErrors, dot5StatsReceiveCongestions,
           dot5StatsFrameCopiedErrors, dot5StatsTokenErrors, dot5StatsSoftErrors,
           dot5StatsHardErrors, dot5StatsSignalLoss, dot5StatsTransmitBeacons, dot5StatsRecoveries,
           dot5StatsLobeWires, dot5StatsRemoves, dot5StatsSingles, dot5StatsFreqErrors }

def parseVgCounters : Parser VgCounters := do
  let dot12InHighPriorityFrames ← beU32
  let dot12InHighPriorityOctets ← beU64
  let dot12InNormPriorityFrames ← beU32
  let dot12InNormPriorityOctets ← beU64
  let dot12InIpmErrors ← beU32
  let dot12InOversizeFrameErrors ← beU32
  let dot12InDataErrors ← beU32
  let dot12InNullAddressedFrames ← beU32
  let dot12OutHighPriorityFrames ← beU32
  let dot12OutHighPriorityOctets ← beU64
  let dot12TransitionIntoTraining ← beU32
  let dot12HcInHighPriorityOctets ← beU64
  let dot12HcInNormPriorityOctets ← beU64
  let dot12HcOutHighPriorityOctets ← beU64
  return { dot12InHighPriorityFrames, dot12InHighPriorityOctets, dot12InNormPriorityFrames,
           dot12InNormPriorityOctets, dot12InIpmErrors, dot12InOversizeFrameErrors,
           dot12InDataErrors, dot12InNullAddressedFrames, dot12OutHighPriorityFrames,
           dot12OutHighPriorityOctets, dot12TransitionIntoTraining, dot12HcInHighPriorityOctets,
           dot12HcInNormPriorityOctets, dot12HcOutHighPriorityOctets }

def parseVlanCounters : Parser VlanCounters := do
  let vlanId ← beU32
  let octets ← beU64
  let ucastPkts ← beU32
  let multicastPkts ← beU32
  let broadcastPkts ← beU32
  let discards ← beU32
  return { vlanId, octets, ucastPkts, multicastPkts, broadcastPkts, discards }

def parseProcessor : Parser Processor := do
  let avg5sCpu ← beI32
  let avg1mCpu ← beI32
  let avg5mCpu ← beI32
  let totalMemory ← beU64
  let freeMemory ← beU64
  return { avg5sCpu, avg1mCpu, avg5mCpu, totalMemory, freeMemory }

def counterRecordData (format : UInt32) (data : List UInt8) : Option CounterRecordType :=
  match CounterType.tryFrom format with
  | some .ifCounters => (valueOf parseIfCounters data).map .ifCounters
  | some .ethernetCounters => (valueOf parseEthernetCounters data).map .ethernetCounters
  | some .tokenringCounters => (valueOf parseTokenringCounters data).map .tokenringCounters
  | some .vgCounters => (valueOf parseVgCounters data).map .vgCounters
  | some .vlanCounters => (valueOf parseVlanCounters data).map .vlanCounters
  | some .processor => (valueOf parseProcessor data).map .processor
  | none => some (.unknown data)

def parseCounterRecord : Parser CounterRecord := do
  let header ← parseRecordHeader
  let data ← take header.length.toNat
  return { header, data := [(counterRecordData header.dataFormat data).getD (.unknown data)] }

/-! ### Samples -/

def parseSampleHeader : Parser SampleHeader := do
  let format ← beU32
  let length ← beU32
  let sampleSequenceNumber ← beU32
  match SampleFormat.tryFrom format with
  | some .flow | some .counter =>
    let sourceId ← beU32
    return { format, length, sampleSequenceNumber,
             sourceIdType := sourceId >>> 24, sourceIdValue := sourceId &&& 0x00ffffff }
  | some .expandedFlow | some .expandedCounter | some .drop =>
    let sourceIdType ← beU32
    let sourceIdValue ← beU32
    return { format, length, sampleSequenceNumber, sourceIdType, sourceIdValue }
  | none => fail

def parseFlowSample : Parser FlowSample := do
  let header ← parseSampleHeader
  let samplingRate ← beU32
  let samplePool ← beU32
  let drops ← beU32
  let input ← beU32
  let output ← beU32
  let flowRecordsCount ← beU32
  let records ← count parseFlowRecord flowRecordsCount.toNat
  return { header, samplingRate, samplePool, drops, input, output, records }

def parseCounterSample : Parser CounterSample := do
  let header ← parseSampleHeader
  let recordsCount ← beU32
  let records ← count parseCounterRecord recordsCount.toNat
  return { header, records }

def parseExpandedFlowSample : Parser ExpandedFlowSample := do
  let header ← parseSampleHeader
  let samplingRate ← beU32
  let samplePool ← beU32
  let drops ← beU32
  let inputIfFormat ← beU32
  let inputIfValue ← beU32
  let outputIfFormat ← beU32
  let outputIfValue ← beU32
  let flowRecordsCount ← beU32
  let records ← count parseFlowRecord flowRecordsCount.toNat
  return { header, samplingRate, samplePool, drops, inputIfFormat, inputIfValue, outputIfFormat,
           outputIfValue, records }

def parseDropSample : Parser DropSample := do
  let header ← parseSampleHeader
  let drops ← beU32
  let input ← beU32
  let output ← beU32
  let reason ← beU32
  let recordsCount ← beU32
  let records ← count parseFlowRecord recordsCount.toNat
  return { header, drops, input, output, reason := DropReason.from reason, records }

/-- A sample of a known format, from its bytes with the format and the length. -/
def sampleData (format : SampleFormat) (sample : List UInt8) : Option Sample :=
  match format with
  | .flow => (valueOf parseFlowSample sample).map .flow
  | .counter => (valueOf parseCounterSample sample).map .counter
  | .expandedFlow => (valueOf parseExpandedFlowSample sample).map .expandedFlow
  | .expandedCounter => (valueOf parseCounterSample sample).map .expandedCounter
  | .drop => (valueOf parseDropSample sample).map .drop

/-- What is kept of a sample: its value, or its bytes without the format and the length. -/
def sampleOrUnknown (format : UInt32) (sample : List UInt8) : Sample :=
  match SampleFormat.tryFrom format with
  | some format => (sampleData format sample).getD (.unknown (sample.drop 8))
  | none => .unknown (sample.drop 8)

/-- The format and the length are read ahead and stay part of the sample. -/
def parseSample : Parser Sample := do
  let (format, length) ← peek (do return (← beU32, ← beU32))
  let sample ← take (length.toNat + 8)
  return sampleOrUnknown format sample

def parseSflowV5 : Parser SFlowV5 := do
  let version ← verify beU32 (· = SFLOW_V5_VERSION)
  let agentAddress ← parseAddress
  let subAgentId ← beU32
  let sequenceNumber ← beU32
  let uptime ← beU32
  let sampleCount ← beU32
  let samples ← count parseSample sampleCount.toNat
  return { version, agentAddress, subAgentId, sequenceNumber, uptime, samples }

end Rustflow.SflowV5
