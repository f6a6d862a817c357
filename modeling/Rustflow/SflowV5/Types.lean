import Mathlib.Data.Finset.Dedup
import Rustflow.Common.Parser

/-!
# sFlow v5 records

The data of `sflow_v5/parser.rs`: samples, the records inside them, and the numbers that name
their formats. `tryFrom` is `none` for a number that names nothing.
-/

namespace Rustflow.SflowV5

/-! ### Formats -/

inductive SampleFormat where
  | flow | counter | expandedFlow | expandedCounter | drop
  deriving DecidableEq

def SampleFormat.tryFrom (value : UInt32) : Option SampleFormat :=
  match value.toNat with
  | 1 => some .flow
  | 2 => some .counter
  | 3 => some .expandedFlow
  | 4 => some .expandedCounter
  | 5 => some .drop
  | _ => none

inductive FlowType where
  | sampledHeader | sampledEthernet | sampledIpv4 | sampledIpv6 | extendedSwitch | extendedRouter
  | extendedGateway | extendedUser | extendedUrl | extendedEgressQueue | extendedAcl
  | extendedFunction
  deriving DecidableEq

def FlowType.tryFrom (value : UInt32) : Option FlowType :=
  match value.toNat with
  | 1 => some .sampledHeader
  | 2 => some .sampledEthernet
  | 3 => some .sampledIpv4
  | 4 => some .sampledIpv6
  | 1001 => some .extendedSwitch
  | 1002 => some .extendedRouter
  | 1003 => some .extendedGateway
  | 1004 => some .extendedUser
  | 1005 => some .extendedUrl
  | 1036 => some .extendedEgressQueue
  | 1037 => some .extendedAcl
  | 1038 => some .extendedFunction
  | _ => none

inductive CounterType where
  | ifCounters | ethernetCounters | tokenringCounters | vgCounters | vlanCounters | processor
  deriving DecidableEq

def CounterType.tryFrom (value : UInt32) : Option CounterType :=
  match value.toNat with
  | 1 => some .ifCounters
  | 2 => some .ethernetCounters
  | 3 => some .tokenringCounters
  | 4 => some .vgCounters
  | 5 => some .vlanCounters
  | 1001 => some .processor
  | _ => none

inductive HeaderProtocol where
  | ethernetIso8023 | iso88024TokenBus | iso88025TokenRing | fddi | frameRelay | x25 | ppp | smds
  | aal5 | aal5Ip | ipv4 | ipv6 | mpls | pos
  deriving DecidableEq

def HeaderProtocol.tryFrom (value : UInt32) : Option HeaderProtocol :=
  match value.toNat with
  | 1 => some .ethernetIso8023
  | 2 => some .iso88024TokenBus
  | 3 => some .iso88025TokenRing
  | 4 => some .fddi
  | 5 => some .frameRelay
  | 6 => some .x25
  | 7 => some .ppp
  | 8 => some .smds
  | 9 => some .aal5
  | 10 => some .aal5Ip
  | 11 => some .ipv4
  | 12 => some .ipv6
  | 13 => some .mpls
  | 14 => some .pos
  | _ => none

inductive AsPathSegmentType where
  | asSet | asSequence
  deriving DecidableEq

def AsPathSegmentType.tryFrom (value : UInt32) : Option AsPathSegmentType :=
  match value.toNat with
  | 1 => some .asSet
  | 2 => some .asSequence
  | _ => none

inductive UrlDirection where
  | src | dst
  deriving DecidableEq

def UrlDirection.tryFrom (value : UInt32) : Option UrlDirection :=
  match value.toNat with
  | 1 => some .src
  | 2 => some .dst
  | _ => none

inductive Direction where
  | unknown | ingress | egress
  deriving DecidableEq

def Direction.tryFrom (value : UInt32) : Option Direction :=
  match value.toNat with
  | 0 => some .unknown
  | 1 => some .ingress
  | 2 => some .egress
  | _ => none

inductive DropReason where
  | netUnreachable | hostUnreachable | protocolUnreachable | portUnreachable | fragNeeded
  | srcRouteFailed | dstNetUnknown | dstHostUnknown | srcHostIsolated | dstNetProhibited
  | dstHostProhibited | dstNetTosUnreachable | dstHostTosUnreachable | commAdminProhibited
  | hostPrecedenceViolation | precedenceCutoff | unknown | ttlExceeded | acl | noBufferSpace | red
  | trafficShaping | pktTooBig | srcMacIsMulticast | vlanTagMismatch | ingressVlanFilter
  | ingressSpanningTreeFilter | portListIsEmpty | portLoopbackFilter | blackholeRoute | nonIp
  | ucDipOverMcDmac | dipIsLoopbackAddress | sipIsMc | sipIsLoopbackAddress | ipHeaderCorrupted
  | ipv4SipIsLimitedBc | ipv6McDipReservedScope | ipv6McDipInterfaceLocalScope | unresolvedNeigh
  | mcReversePathForwarding | nonRoutablePacket | decapError | overlaySmacIsMc | unknownL2
  | unknownL3 | unknownL3Exception | unknownBuffer | unknownTunnel | unknownL4 | sipIsUnspecified
  | mlagPortIsolated | blackholeArpNeigh | srcMacIsDmac | dmacIsReserved | sipIsClassE
  | mcDmacMismatch | sipIsDip | dipIsLocalNetwork | dipIsLinkLocal | overlaySmacIsDmac
  | egressVlanFilter | ucReversePathForwarding | splitHorizon
  | unrecognized (value : UInt32)
  deriving DecidableEq

/-- The numbers of the reasons with a name. -/
def DropReason.discriminants : List (UInt32 × DropReason) :=
  [(0, .netUnreachable), (1, .hostUnreachable), (2, .protocolUnreachable), (3, .portUnreachable),
   (4, .fragNeeded), (5, .srcRouteFailed), (6, .dstNetUnknown), (7, .dstHostUnknown), (8,
   .srcHostIsolated), (9, .dstNetProhibited), (10, .dstHostProhibited), (11, .dstNetTosUnreachable),
   (12, .dstHostTosUnreachable), (13, .commAdminProhibited), (14, .hostPrecedenceViolation), (15,
   .precedenceCutoff), (256, .unknown), (257, .ttlExceeded), (258, .acl), (259, .noBufferSpace),
   (260, .red), (261, .trafficShaping), (262, .pktTooBig), (263, .srcMacIsMulticast), (264,
   .vlanTagMismatch), (265, .ingressVlanFilter), (266, .ingressSpanningTreeFilter), (267,
   .portListIsEmpty), (268, .portLoopbackFilter), (269, .blackholeRoute), (270, .nonIp), (271,
   .ucDipOverMcDmac), (272, .dipIsLoopbackAddress), (273, .sipIsMc), (274, .sipIsLoopbackAddress),
   (275, .ipHeaderCorrupted), (276, .ipv4SipIsLimitedBc), (277, .ipv6McDipReservedScope), (278,
   .ipv6McDipInterfaceLocalScope), (279, .unresolvedNeigh), (280, .mcReversePathForwarding), (281,
   .nonRoutablePacket), (282, .decapError), (283, .overlaySmacIsMc), (284, .unknownL2), (285,
   .unknownL3), (286, .unknownL3Exception), (287, .unknownBuffer), (288, .unknownTunnel), (289,
   .unknownL4), (290, .sipIsUnspecified), (291, .mlagPortIsolated), (292, .blackholeArpNeigh), (293,
   .srcMacIsDmac), (294, .dmacIsReserved), (295, .sipIsClassE), (296, .mcDmacMismatch), (297,
   .sipIsDip), (298, .dipIsLocalNetwork), (299, .dipIsLinkLocal), (300, .overlaySmacIsDmac), (301,
   .egressVlanFilter), (302, .ucReversePathForwarding), (303, .splitHorizon)]

def DropReason.from (value : UInt32) : DropReason :=
  (DropReason.discriminants.lookup value).getD (.unrecognized value)

/-! ### Flow records -/

structure RecordHeader where
  dataFormat : UInt32
  length : UInt32

structure SampledHeader where
  protocol : HeaderProtocol
  frameLength : UInt32
  stripped : UInt32
  header : List UInt8

structure SampledEthernet where
  length : UInt32
  srcMac : MacAddr6
  dstMac : MacAddr6
  type : UInt32

structure SampledIpv4 where
  length : UInt32
  protocol : UInt32
  srcIp : Ipv4Addr
  dstIp : Ipv4Addr
  srcPort : UInt32
  dstPort : UInt32
  tcpFlags : UInt32
  tos : UInt32

structure SampledIpv6 where
  length : UInt32
  protocol : UInt32
  srcIp : Ipv6Addr
  dstIp : Ipv6Addr
  srcPort : UInt32
  dstPort : UInt32
  tcpFlags : UInt32
  priority : UInt32

structure ExtendedSwitch where
  srcVlan : UInt32
  srcPriority : UInt32
  dstVlan : UInt32
  dstPriority : UInt32

structure ExtendedRouter where
  nexthop : Option IpAddr
  srcMask : UInt32
  dstMask : UInt32

/-- A set of AS numbers has no order and no repetitions. -/
inductive AsPathType where
  | asSet (ases : Finset UInt32)
  | asSequence (ases : List UInt32)

structure ExtendedGateway where
  nexthop : Option IpAddr
  as : UInt32
  srcAs : UInt32
  srcPeerAs : UInt32
  dstAsPath : List AsPathType
  communities : List UInt32
  localpref : UInt32

structure ExtendedUser where
  srcCharset : UInt32
  srcUser : String
  dstCharset : UInt32
  dstUser : String

structure ExtendedUrl where
  direction : UrlDirection
  url : String

structure ExtendedEgressQueue where
  queue : UInt32

structure ExtendedAcl where
  number : UInt32
  name : String
  direction : Direction

structure ExtendedFunction where
  symbol : String

inductive FlowRecordType where
  | sampledHeader (record : SampledHeader)
  | sampledEthernet (record : SampledEthernet)
  | sampledIpv4 (record : SampledIpv4)
  | sampledIpv6 (record : SampledIpv6)
  | extendedSwitch (record : ExtendedSwitch)
  | extendedRouter (record : ExtendedRouter)
  | extendedGateway (record : ExtendedGateway)
  | extendedUser (record : ExtendedUser)
  | extendedUrl (record : ExtendedUrl)
  | extendedEgressQueue (record : ExtendedEgressQueue)
  | extendedAcl (record : ExtendedAcl)
  | extendedFunction (record : ExtendedFunction)
  | unknown (bytes : List UInt8)

structure FlowRecord where
  header : RecordHeader
  data : FlowRecordType

/-! ### Counter records -/

structure IfCounters where
  ifIndex : UInt32
  ifType : UInt32
  ifSpeed : UInt64
  ifDirection : UInt32
  ifStatus : UInt32
  ifInOctets : UInt64
  ifInUcastPkts : UInt32
  ifInMulticastPkts : UInt32
  ifInBroadcastPkts : UInt32
  ifInDiscards : UInt32
  ifInErrors : UInt32
  ifInUnknownProtos : UInt32
  ifOutOctets : UInt64
  ifOutUcastPkts : UInt32
  ifOutMulticastPkts : UInt32
  ifOutBroadcastPkts : UInt32
  ifOutDiscards : UInt32
  ifOutErrors : UInt32
  ifPromiscuousMode : UInt32

structure EthernetCounters where
  dot3StatsAlignmentErrors : UInt32
  dot3StatsFcsErrors : UInt32
  dot3StatsSingleCollisionFrames : UInt32
  dot3StatsMultipleCollisionFrames : UInt32
  dot3StatsSqetestErrors : UInt32
  dot3StatsDeferredTransmissions : UInt32
  dot3StatsLateCollisions : UInt32
  dot3StatsExcessiveCollisions : UInt32
  dot3StatsInternalMacTransmitErrors : UInt32
  dot3StatsCarrierSenseErrors : UInt32
  dot3StatsFrameTooLongs : UInt32
  dot3StatsInternalMacReceiveErrors : UInt32
  dot3StatsSymbolErrors : UInt32

structure TokenringCounters where
  dot5StatsLineErrors : UInt32
  dot5StatsBurstErrors : UInt32
  dot5StatsAcErrors : UInt32
  dot5StatsAbortTransErrors : UInt32
  dot5StatsInternalErrors : UInt32
  dot5StatsLostFrameErrors : UInt32
  dot5StatsReceiveCongestions : UInt32
  dot5StatsFrameCopiedErrors : UInt32
  dot5StatsTokenErrors : UInt32
  dot5StatsSoftErrors : UInt32
  dot5StatsHardErrors : UInt32
  dot5StatsSignalLoss : UInt32
  dot5StatsTransmitBeacons : UInt32
  dot5StatsRecoveries : UInt32
  dot5StatsLobeWires : UInt32
  dot5StatsRemoves : UInt32
  dot5StatsSingles : UInt32
  dot5StatsFreqErrors : UInt32

structure VgCounters where
  dot12InHighPriorityFrames : UInt32
  dot12InHighPriorityOctets : UInt64
  dot12InNormPriorityFrames : UInt32
  dot12InNormPriorityOctets : UInt64
  dot12InIpmErrors : UInt32
  dot12InOversizeFrameErrors : UInt32
  dot12InDataErrors : UInt32
  dot12InNullAddressedFrames : UInt32
  dot12OutHighPriorityFrames : UInt32
  dot12OutHighPriorityOctets : UInt64
  dot12TransitionIntoTraining : UInt32
  dot12HcInHighPriorityOctets : UInt64
  dot12HcInNormPriorityOctets : UInt64
  dot12HcOutHighPriorityOctets : UInt64

structure VlanCounters where
  vlanId : UInt32
  octets : UInt64
  ucastPkts : UInt32
  multicastPkts : UInt32
  broadcastPkts : UInt32
  discards : UInt32

structure Processor where
  avg5sCpu : Int32
  avg1mCpu : Int32
  avg5mCpu : Int32
  totalMemory : UInt64
  freeMemory : UInt64

inductive CounterRecordType where
  | ifCounters (record : IfCounters)
  | ethernetCounters (record : EthernetCounters)
  | tokenringCounters (record : TokenringCounters)
  | vgCounters (record : VgCounters)
  | vlanCounters (record : VlanCounters)
  | processor (record : Processor)
  | unknown (bytes : List UInt8)

structure CounterRecord where
  header : RecordHeader
  data : List CounterRecordType

/-! ### Samples -/

structure SampleHeader where
  format : UInt32
  length : UInt32
  sampleSequenceNumber : UInt32
  sourceIdType : UInt32
  sourceIdValue : UInt32

structure FlowSample where
  header : SampleHeader
  samplingRate : UInt32
  samplePool : UInt32
  drops : UInt32
  input : UInt32
  output : UInt32
  records : List FlowRecord

structure CounterSample where
  header : SampleHeader
  records : List CounterRecord

abbrev ExpandedCounterSample : Type := CounterSample

structure ExpandedFlowSample where
  header : SampleHeader
  samplingRate : UInt32
  samplePool : UInt32
  drops : UInt32
  inputIfFormat : UInt32
  inputIfValue : UInt32
  outputIfFormat : UInt32
  outputIfValue : UInt32
  records : List FlowRecord

structure DropSample where
  header : SampleHeader
  drops : UInt32
  input : UInt32
  output : UInt32
  reason : DropReason
  records : List FlowRecord

inductive Sample where
  | flow (sample : FlowSample)
  | counter (sample : CounterSample)
  | expandedFlow (sample : ExpandedFlowSample)
  | expandedCounter (sample : ExpandedCounterSample)
  | drop (sample : DropSample)
  | unknown (bytes : List UInt8)

structure SFlowV5 where
  version : UInt32
  agentAddress : Option IpAddr
  subAgentId : UInt32
  sequenceNumber : UInt32
  uptime : UInt32
  samples : List Sample

end Rustflow.SflowV5
