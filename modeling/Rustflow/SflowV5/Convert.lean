import Rustflow.Common.Packet
import Rustflow.SflowV5.Types

/-!
# sFlow samples as normalized flows

`common/convert/sflow_v5.rs`. The records of a sample are applied in order, each over what the ones
before it left. Some of them put a 32-bit number into a narrower field by a plain cast.
-/

namespace Rustflow.SflowV5

/-! ### Interfaces -/

/-- The value bits of an interface field; in a compact sample the top two bits are its format. -/
def INTERFACE_VALUE_MASK : UInt32 := 0x3fffffff

/-- A compact value that stands for the agent itself. -/
def INTERNAL_INTERFACE : UInt32 := 0x3fffffff

def ifIndex (format value : UInt32) : Option UInt32 :=
  if format = 0 ∧ value ≠ 0 then some value else none

def compactIfIndex (field : UInt32) : Option UInt32 :=
  let value := field &&& INTERFACE_VALUE_MASK
  if value = INTERNAL_INTERFACE then none else ifIndex (field >>> 30) value

/-! ### Records -/

def applySampledEthernet (flow : CommonFlow) (ethernet : SampledEthernet) : CommonFlow :=
  { flow with
    srcMac := some ethernet.srcMac
    dstMac := some ethernet.dstMac
    etype := some ethernet.type.toUInt16
    bytes := ethernet.length.toUInt64
    packets := 1 }

def applySampledIpv4 (flow : CommonFlow) (ipv4 : SampledIpv4) : CommonFlow :=
  { flow with
    srcAddr := some (.v4 ipv4.srcIp)
    dstAddr := some (.v4 ipv4.dstIp)
    etype := some 0x0800
    proto := some ipv4.protocol.toUInt8
    srcPort := some ipv4.srcPort.toUInt16
    dstPort := some ipv4.dstPort.toUInt16
    tcpFlags := some ipv4.tcpFlags.toUInt16
    ipTos := some ipv4.tos.toUInt8
    bytes := ipv4.length.toUInt64
    packets := 1 }

def applySampledIpv6 (flow : CommonFlow) (ipv6 : SampledIpv6) : CommonFlow :=
  { flow with
    srcAddr := some (.v6 ipv6.srcIp)
    dstAddr := some (.v6 ipv6.dstIp)
    etype := some 0x86dd
    proto := some ipv6.protocol.toUInt8
    srcPort := some ipv6.srcPort.toUInt16
    dstPort := some ipv6.dstPort.toUInt16
    tcpFlags := some ipv6.tcpFlags.toUInt16
    bytes := ipv6.length.toUInt64
    packets := 1 }

def applyExtendedRouter (flow : CommonFlow) (router : ExtendedRouter) : CommonFlow :=
  { flow with
    nextHop := router.nexthop
    srcNet := some router.srcMask.toUInt8
    dstNet := some router.dstMask.toUInt8 }

/-- An unknown VLAN is `0xFFFFFFFF`. -/
def applyExtendedSwitch (flow : CommonFlow) (switch : ExtendedSwitch) : CommonFlow :=
  { flow with
    srcVlan := tryFromU64 16 UInt16.ofNat switch.srcVlan.toUInt64
    dstVlan := tryFromU64 16 UInt16.ofNat switch.dstVlan.toUInt64 }

/-- The AS at the end of a path that ends in a sequence. -/
def ExtendedGateway.lastAs (gateway : ExtendedGateway) : Option UInt32 :=
  match gateway.dstAsPath.getLast? with
  | some (.asSequence ases) => ases.getLast?
  | _ => none

def applyExtendedGateway (flow : CommonFlow) (gateway : ExtendedGateway) : CommonFlow :=
  { flow with
    bgpNextHop := gateway.nexthop
    srcAs := some gateway.srcAs
    dstAs := gateway.lastAs }

section
variable (etherparse : Etherparse)

def applySampledHeader (flow : CommonFlow) (header : SampledHeader) : CommonFlow :=
  let flow := { flow with bytes := header.frameLength.toUInt64, packets := 1 }
  match header.protocol with
  | .ethernetIso8023 => applyEthernetFrame etherparse flow header.header
  | .ipv4 => applyIpPacket etherparse { flow with etype := some 0x0800 } header.header
  | .ipv6 => applyIpPacket etherparse { flow with etype := some 0x86dd } header.header
  | _ => flow

def applyFlowRecord (flow : CommonFlow) (recordType : FlowRecordType) : CommonFlow :=
  match recordType with
  | .sampledHeader header => applySampledHeader etherparse flow header
  | .sampledEthernet ethernet => applySampledEthernet flow ethernet
  | .sampledIpv4 ipv4 => applySampledIpv4 flow ipv4
  | .sampledIpv6 ipv6 => applySampledIpv6 flow ipv6
  | .extendedRouter router => applyExtendedRouter flow router
  | .extendedSwitch switch => applyExtendedSwitch flow switch
  | .extendedGateway gateway => applyExtendedGateway flow gateway
  | _ => flow

/-! ### Samples -/

structure SFlowV5Context where
  header : SFlowV5

namespace SFlowV5Context

def convertFlowSample (self : SFlowV5Context) (sample : FlowSample) : CommonFlow :=
  let flow := { CommonFlow.new .sflowV5 with
    sequenceNum := self.header.sequenceNumber
    samplerAddress := self.header.agentAddress
    samplingRate := some sample.samplingRate
    inIf := compactIfIndex sample.input
    outIf := compactIfIndex sample.output }
  sample.records.foldl (fun flow record => applyFlowRecord etherparse flow record.data) flow

def convertExpandedFlowSample (self : SFlowV5Context) (sample : ExpandedFlowSample) : CommonFlow :=
  let flow := { CommonFlow.new .sflowV5 with
    sequenceNum := self.header.sequenceNumber
    samplerAddress := self.header.agentAddress
    samplingRate := some sample.samplingRate
    inIf := ifIndex sample.inputIfFormat sample.inputIfValue
    outIf := ifIndex sample.outputIfFormat sample.outputIfValue }
  sample.records.foldl (fun flow record => applyFlowRecord etherparse flow record.data) flow

end SFlowV5Context

end

end Rustflow.SflowV5
