import Mathlib.Data.UInt

/-!
# Information elements by name

`common/information_element.rs`: the elements the code refers to by name.
-/

namespace Rustflow

inductive InformationElement where
  | octetDeltaCount | packetDeltaCount | protocolIdentifier | ipClassOfService | tcpControlBits
  | sourceTransportPort | sourceIpv4Address | sourceIpv4PrefixLength | ingressInterface
  | destinationTransportPort | destinationIpv4Address | destinationIpv4PrefixLength
  | egressInterface | ipVersion | flowDirection | ipNextHopIpv4Address | bgpSourceAsNumber
  | bgpDestinationAsNumber | bgpNextHopIpv4Address | flowEndSysUpTime | flowStartSysUpTime
  | sourceIpv6Address | destinationIpv6Address | sourceIpv6PrefixLength
  | destinationIpv6PrefixLength | flowLabelIpv6 | icmpTypeCodeIpv4 | flowEndReason
  | icmpTypeCodeIpv6 | samplingInterval | samplerId | samplerRandomInterval | minimumTtl
  | maximumTtl | fragmentIdentification | sourceMacAddress | postDestinationMacAddress | srcVlan
  | dstVlan | ipNextHopIpv6Address | bgpNextHopIpv6Address | destinationMacAddress
  | postSourceMacAddress | forwardingStatus | observationDomainId | flowStartSeconds
  | flowEndSeconds | flowStartMilliseconds | flowEndMilliseconds | flowStartMicroseconds
  | flowEndMicroseconds | flowStartNanoseconds | flowEndNanoseconds | flowStartDeltaMicroseconds
  | flowEndDeltaMicroseconds | systemInitTimeMilliseconds | icmpTypeIpv4 | icmpCodeIpv4
  | icmpTypeIpv6 | icmpCodeIpv6 | selectorId | informationElementId | selectorAlgorithm
  | samplingPacketInterval | samplingPacketSpace | dataLinkFrameSize | ipHeaderPacketSection
  | dataLinkFrameSection | informationElementDataType | informationElementName
  | informationElementSemantics | privateEnterpriseNumber
  deriving DecidableEq

namespace InformationElement

/-- The element's ID, the discriminant of the source's enumeration. -/
def toId : InformationElement → UInt16
  | .octetDeltaCount => 1
  | .packetDeltaCount => 2
  | .protocolIdentifier => 4
  | .ipClassOfService => 5
  | .tcpControlBits => 6
  | .sourceTransportPort => 7
  | .sourceIpv4Address => 8
  | .sourceIpv4PrefixLength => 9
  | .ingressInterface => 10
  | .destinationTransportPort => 11
  | .destinationIpv4Address => 12
  | .destinationIpv4PrefixLength => 13
  | .egressInterface => 14
  | .ipVersion => 60
  | .flowDirection => 61
  | .ipNextHopIpv4Address => 15
  | .bgpSourceAsNumber => 16
  | .bgpDestinationAsNumber => 17
  | .bgpNextHopIpv4Address => 18
  | .flowEndSysUpTime => 21
  | .flowStartSysUpTime => 22
  | .sourceIpv6Address => 27
  | .destinationIpv6Address => 28
  | .sourceIpv6PrefixLength => 29
  | .destinationIpv6PrefixLength => 30
  | .flowLabelIpv6 => 31
  | .icmpTypeCodeIpv4 => 32
  | .flowEndReason => 136
  | .icmpTypeCodeIpv6 => 139
  | .samplingInterval => 34
  | .samplerId => 48
  | .samplerRandomInterval => 50
  | .minimumTtl => 52
  | .maximumTtl => 53
  | .fragmentIdentification => 54
  | .sourceMacAddress => 56
  | .postDestinationMacAddress => 57
  | .srcVlan => 58
  | .dstVlan => 59
  | .ipNextHopIpv6Address => 62
  | .bgpNextHopIpv6Address => 63
  | .destinationMacAddress => 80
  | .postSourceMacAddress => 81
  | .forwardingStatus => 89
  | .observationDomainId => 149
  | .flowStartSeconds => 150
  | .flowEndSeconds => 151
  | .flowStartMilliseconds => 152
  | .flowEndMilliseconds => 153
  | .flowStartMicroseconds => 154
  | .flowEndMicroseconds => 155
  | .flowStartNanoseconds => 156
  | .flowEndNanoseconds => 157
  | .flowStartDeltaMicroseconds => 158
  | .flowEndDeltaMicroseconds => 159
  | .systemInitTimeMilliseconds => 160
  | .icmpTypeIpv4 => 176
  | .icmpCodeIpv4 => 177
  | .icmpTypeIpv6 => 178
  | .icmpCodeIpv6 => 179
  | .selectorId => 302
  | .informationElementId => 303
  | .selectorAlgorithm => 304
  | .samplingPacketInterval => 305
  | .samplingPacketSpace => 306
  | .dataLinkFrameSize => 312
  | .ipHeaderPacketSection => 313
  | .dataLinkFrameSection => 315
  | .informationElementDataType => 339
  | .informationElementName => 341
  | .informationElementSemantics => 344
  | .privateEnterpriseNumber => 346

def all : List InformationElement :=
  [.octetDeltaCount, .packetDeltaCount, .protocolIdentifier, .ipClassOfService, .tcpControlBits,
    .sourceTransportPort, .sourceIpv4Address, .sourceIpv4PrefixLength, .ingressInterface,
    .destinationTransportPort, .destinationIpv4Address, .destinationIpv4PrefixLength,
    .egressInterface, .ipVersion, .flowDirection, .ipNextHopIpv4Address, .bgpSourceAsNumber,
    .bgpDestinationAsNumber, .bgpNextHopIpv4Address, .flowEndSysUpTime, .flowStartSysUpTime,
    .sourceIpv6Address, .destinationIpv6Address, .sourceIpv6PrefixLength,
    .destinationIpv6PrefixLength, .flowLabelIpv6, .icmpTypeCodeIpv4, .flowEndReason,
    .icmpTypeCodeIpv6, .samplingInterval, .samplerId, .samplerRandomInterval, .minimumTtl,
    .maximumTtl, .fragmentIdentification, .sourceMacAddress, .postDestinationMacAddress, .srcVlan,
    .dstVlan, .ipNextHopIpv6Address, .bgpNextHopIpv6Address, .destinationMacAddress,
    .postSourceMacAddress, .forwardingStatus, .observationDomainId, .flowStartSeconds,
    .flowEndSeconds, .flowStartMilliseconds, .flowEndMilliseconds, .flowStartMicroseconds,
    .flowEndMicroseconds, .flowStartNanoseconds, .flowEndNanoseconds, .flowStartDeltaMicroseconds,
    .flowEndDeltaMicroseconds, .systemInitTimeMilliseconds, .icmpTypeIpv4, .icmpCodeIpv4,
    .icmpTypeIpv6, .icmpCodeIpv6, .selectorId, .informationElementId, .selectorAlgorithm,
    .samplingPacketInterval, .samplingPacketSpace, .dataLinkFrameSize, .ipHeaderPacketSection,
    .dataLinkFrameSection, .informationElementDataType, .informationElementName,
    .informationElementSemantics, .privateEnterpriseNumber]

/-- The element with an ID. The source indexes a table built from the same enumeration. -/
def fromId (id : UInt16) : Option InformationElement := all.find? fun ie => ie.toId = id

theorem mem_all (ie : InformationElement) : ie ∈ all := by cases ie <;> decide

theorem toId_of_fromId {id : UInt16} {ie : InformationElement} (found : fromId id = some ie) :
    ie.toId = id :=
  of_decide_eq_true (List.find?_some (p := fun ie : InformationElement => ie.toId = id) found)

theorem fromId_toId (ie : InformationElement) : fromId ie.toId = some ie := by cases ie <;> decide

end InformationElement

end Rustflow
