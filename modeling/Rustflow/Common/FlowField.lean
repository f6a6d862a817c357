import Rustflow.Common.CommonFlow

/-!
# The fields of a flow

`for_each_flow_field!` of `common/common_flow.rs`: the list that the output formats and the keys of
enrichment are generated from.
-/

namespace Rustflow

inductive FlowFieldKind where
  | flowType | timestamp | u8 | u16 | u32 | u64 | ip | mac
  deriving DecidableEq

inductive FlowField where
  | flowType | timeReceivedNs | sequenceNum | samplingRate | samplerAddress | timeFlowStartNs
  | timeFlowEndNs | bytes | packets | srcAddr | dstAddr | srcMac | dstMac | etype | proto | srcPort
  | dstPort | inIf | outIf | ipTos | ipTtl | tcpFlags | icmpType | icmpCode | ipv6FlowLabel
  | fragmentId | fragmentOffset | srcAs | dstAs | nextHop | srcNet | dstNet | bgpNextHop | srcVlan
  | dstVlan | observationDomainId | templateId | forwardingStatus
  deriving DecidableEq

namespace FlowField

/-- In the order of the source. -/
def all : List FlowField :=
  [.flowType, .timeReceivedNs, .sequenceNum, .samplingRate, .samplerAddress, .timeFlowStartNs,
    .timeFlowEndNs, .bytes, .packets, .srcAddr, .dstAddr, .srcMac, .dstMac, .etype, .proto,
    .srcPort, .dstPort, .inIf, .outIf, .ipTos, .ipTtl, .tcpFlags, .icmpType, .icmpCode,
    .ipv6FlowLabel, .fragmentId, .fragmentOffset, .srcAs, .dstAs, .nextHop, .srcNet, .dstNet,
    .bgpNextHop, .srcVlan, .dstVlan, .observationDomainId, .templateId, .forwardingStatus]

def name : FlowField → String
  | .flowType => "flow_type"
  | .timeReceivedNs => "time_received_ns"
  | .sequenceNum => "sequence_num"
  | .samplingRate => "sampling_rate"
  | .samplerAddress => "sampler_address"
  | .timeFlowStartNs => "time_flow_start_ns"
  | .timeFlowEndNs => "time_flow_end_ns"
  | .bytes => "bytes"
  | .packets => "packets"
  | .srcAddr => "src_addr"
  | .dstAddr => "dst_addr"
  | .srcMac => "src_mac"
  | .dstMac => "dst_mac"
  | .etype => "etype"
  | .proto => "proto"
  | .srcPort => "src_port"
  | .dstPort => "dst_port"
  | .inIf => "in_if"
  | .outIf => "out_if"
  | .ipTos => "ip_tos"
  | .ipTtl => "ip_ttl"
  | .tcpFlags => "tcp_flags"
  | .icmpType => "icmp_type"
  | .icmpCode => "icmp_code"
  | .ipv6FlowLabel => "ipv6_flow_label"
  | .fragmentId => "fragment_id"
  | .fragmentOffset => "fragment_offset"
  | .srcAs => "src_as"
  | .dstAs => "dst_as"
  | .nextHop => "next_hop"
  | .srcNet => "src_net"
  | .dstNet => "dst_net"
  | .bgpNextHop => "bgp_next_hop"
  | .srcVlan => "src_vlan"
  | .dstVlan => "dst_vlan"
  | .observationDomainId => "observation_domain_id"
  | .templateId => "template_id"
  | .forwardingStatus => "forwarding_status"

def kind : FlowField → FlowFieldKind
  | .flowType => .flowType
  | .timeReceivedNs | .timeFlowStartNs | .timeFlowEndNs => .timestamp
  | .srcMac | .dstMac => .mac
  | .samplerAddress | .srcAddr | .dstAddr | .nextHop | .bgpNextHop => .ip
  | .bytes | .packets => .u64
  | .proto | .ipTos | .ipTtl | .icmpType | .icmpCode | .srcNet | .dstNet => .u8
  | .etype | .srcPort | .dstPort | .tcpFlags | .fragmentOffset | .srcVlan | .dstVlan
  | .templateId => .u16
  | .sequenceNum | .samplingRate | .inIf | .outIf | .ipv6FlowLabel | .fragmentId | .srcAs | .dstAs
  | .observationDomainId | .forwardingStatus => .u32

theorem mem_all (field : FlowField) : field ∈ all := by
  cases field <;> decide

end FlowField

end Rustflow
