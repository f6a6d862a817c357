import Rustflow.Ipfix.Types

/-!
# The exporter's templates

`ipfix/template.rs` of the exporter.
-/

namespace Rustflow.Export
open Ipfix InformationElement

inductive Mode where
  /-- Aggregate the sampled packets into flows. -/
  | flow
  /-- Export the start of every sampled packet. -/
  | packet
  deriving DecidableEq

/-- Where the bytes of a frame start. -/
inductive Link where
  | ethernet | ip
  deriving DecidableEq

inductive Sampling where
  /-- Systematic count-based: 1 out of every `interval` packets. -/
  | count (interval : UInt32)
  deriving DecidableEq

def FLOW_IPV4_TEMPLATE_ID : UInt16 := 256
def FLOW_IPV6_TEMPLATE_ID : UInt16 := 257
def OPTIONS_TEMPLATE_ID : UInt16 := 258
def PACKET_FRAME_TEMPLATE_ID : UInt16 := 259
def PACKET_IP_TEMPLATE_ID : UInt16 := 260

def packetTemplateId : Link → UInt16
  | .ethernet => PACKET_FRAME_TEMPLATE_ID
  | .ip => PACKET_IP_TEMPLATE_ID

def packetFields (link : Link) : List FieldSpecifier :=
  let sectionElement := match link with
    | .ethernet => dataLinkFrameSection
    | .ip => ipHeaderPacketSection
  [.fromIe dataLinkFrameSize 2, .fromIe sectionElement IPFIX_VARIABLE_LENGTH]

def createPacketTemplate (link : Link) : TemplateRecord :=
  .new (packetTemplateId link) (packetFields link)

def flowTemplate (templateId : UInt16) (addresses : List FieldSpecifier) : TemplateRecord :=
  .new templateId (addresses ++ [
    .fromIe ipVersion 1,
    .fromIe protocolIdentifier 1,
    .fromIe sourceTransportPort 2,
    .fromIe destinationTransportPort 2,
    .fromIe octetDeltaCount 8,
    .fromIe packetDeltaCount 8,
    .fromIe tcpControlBits 2,
    .fromIe flowStartMilliseconds 8,
    .fromIe flowEndMilliseconds 8,
    .fromIe flowEndReason 1])

def createFlowTemplates : List TemplateRecord :=
  [flowTemplate FLOW_IPV4_TEMPLATE_ID [.fromIe sourceIpv4Address 4,
    .fromIe destinationIpv4Address 4],
    flowTemplate FLOW_IPV6_TEMPLATE_ID [.fromIe sourceIpv6Address 16,
      .fromIe destinationIpv6Address 16]]

def createTemplates : Mode → List TemplateRecord
  | .flow => createFlowTemplates
  | .packet => [Link.ethernet, Link.ip].map createPacketTemplate

def createOptionsTemplate : Sampling → OptionsTemplateRecord
  | .count _ => .new OPTIONS_TEMPLATE_ID 1 [
      .fromIe observationDomainId 4,
      .fromIe samplingInterval 4,
      .fromIe selectorAlgorithm 2,
      .fromIe samplingPacketInterval 4,
      .fromIe samplingPacketSpace 4]

end Rustflow.Export
