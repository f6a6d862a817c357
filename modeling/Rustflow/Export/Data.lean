import Rustflow.Export.Flow
import Rustflow.Export.Template

/-!
# The exporter's data records

`ipfix/data.rs` of the exporter, with `Flow::to_flow_data`. Flow and options records carry
placeholder fields without a length, so each value is written at its natural width.
-/

namespace Rustflow.Export
open Ipfix

structure FlowData where
  sourceIp : IpAddr
  destinationIp : IpAddr
  protocol : UInt8
  sourcePort : UInt16
  destinationPort : UInt16
  octetCount : UInt64
  packetCount : UInt64
  tcpFlags : UInt16
  flowStart : DateTime
  flowEnd : DateTime
  flowEndReason : UInt8

def toFlowData (flow : Flow) : FlowData where
  sourceIp := flow.key.sourceIp
  destinationIp := flow.key.destinationIp
  protocol := flow.key.protocol
  sourcePort := flow.key.sourcePort
  destinationPort := flow.key.destinationPort
  octetCount := flow.octetCount
  packetCount := flow.packetCount
  tcpFlags := flow.tcpFlags
  flowStart := flow.flowStart
  flowEnd := flow.flowEnd
  flowEndReason := flow.flowEndReason.elim 0 FlowEndReason.toU8

def address : IpAddr → FieldValue
  | .v4 addr => .ipv4Address addr
  | .v6 addr => .ipv6Address addr

namespace FlowData

def isIpv4 (self : FlowData) : Bool :=
  match self.sourceIp with
  | .v4 _ => true
  | .v6 _ => false

def templateId (self : FlowData) : UInt16 :=
  match self.sourceIp with
  | .v4 _ => FLOW_IPV4_TEMPLATE_ID
  | .v6 _ => FLOW_IPV6_TEMPLATE_ID

def ipVersion (self : FlowData) : UInt8 :=
  match self.sourceIp with
  | .v4 _ => 4
  | .v6 _ => 6

def toDataRecord (self : FlowData) : Ipfix.DataRecord :=
  Ipfix.DataRecord.new [
    address self.sourceIp,
    address self.destinationIp,
    .unsigned8 self.ipVersion,
    .unsigned8 self.protocol,
    .unsigned16 self.sourcePort,
    .unsigned16 self.destinationPort,
    .unsigned64 self.octetCount,
    .unsigned64 self.packetCount,
    .unsigned16 self.tcpFlags,
    .dateTimeMilliseconds self.flowStart,
    .dateTimeMilliseconds self.flowEnd,
    .unsigned8 self.flowEndReason]

end FlowData

structure PacketData where
  link : Link
  length : UInt32
  sectionBytes : List UInt8

namespace PacketData

def templateId (self : PacketData) : UInt16 := packetTemplateId self.link

/-- The length saturates at 65535. -/
def toDataRecord (self : PacketData) : Ipfix.DataRecord where
  fields := (packetFields self.link).map fun spec => { spec, dataType := .octetArray, name := "" }
  values := [.unsigned16 (if self.length.toNat < 2 ^ 16 then self.length.toUInt16 else 0xffff),
    .octetArray self.sectionBytes]

end PacketData

/-- `selectorAlgorithm` for systematic count-based sampling. -/
def SYSTEMATIC_COUNT_BASED : UInt16 := 1

structure OptionsData where
  observationDomainId : UInt32
  sampling : Sampling

/-- `saturating_sub(1)` of the interval is the packets passed over. -/
def OptionsData.toDataRecord (self : OptionsData) : Ipfix.DataRecord :=
  match self.sampling with
  | .count interval => Ipfix.DataRecord.new [
      .unsigned32 self.observationDomainId,
      .unsigned32 interval,
      .unsigned16 SYSTEMATIC_COUNT_BASED,
      .unsigned32 1,
      .unsigned32 (if interval = 0 then 0 else interval - 1)]

end Rustflow.Export
