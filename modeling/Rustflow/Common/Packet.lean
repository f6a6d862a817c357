import Rustflow.Common.CommonFlow

/-!
# Sampled packets

`common/packet.rs` and `common/convert/packet.rs`: the headers of a packet that an exporter sampled,
below the tunnels it was sent through. The library that slices the headers is a parameter: of a
slice there is what the source reads of it.
-/

namespace Rustflow

/-! ### Slices -/

structure Ethernet2Header where
  source : MacAddr6
  destination : MacAddr6
  etherType : UInt16

inductive LinkSlice where
  | ethernet2 (header : Ethernet2Header)
  /-- Any other link layer. -/
  | other

structure SingleVlanHeader where
  vlanId : UInt16
  etherType : UInt16

inductive VlanHeader where
  | single (header : SingleVlanHeader)
  | double (outer inner : SingleVlanHeader)

structure EtherPayload where
  etherType : UInt16
  payload : List UInt8

structure IpPayload where
  ipNumber : UInt8
  fragmented : Bool
  /-- Cut off before its declared end. -/
  incomplete : Bool
  payload : List UInt8

structure Ipv4Slice where
  sourceAddr : Ipv4Addr
  destinationAddr : Ipv4Addr
  protocol : UInt8
  dcp : UInt8
  ecn : UInt8
  ttl : UInt8
  identification : UInt16
  fragmentsOffset : UInt16
  totalLen : UInt16
  headerChecksum : UInt16
  /-- The checksum that the header should have. -/
  calcHeaderChecksum : UInt16
  payload : IpPayload

structure Ipv6Slice where
  sourceAddr : Ipv6Addr
  destinationAddr : Ipv6Addr
  trafficClass : UInt8
  payloadLength : UInt16
  hopLimit : UInt8
  flowLabel : UInt32
  /-- The offset in each fragment header among the extensions. -/
  fragmentOffsets : List UInt16
  payload : IpPayload

inductive LaxNetSlice where
  | ipv4 (slice : Ipv4Slice)
  | ipv6 (slice : Ipv6Slice)
  | arp

structure TcpSlice where
  sourcePort : UInt16
  destinationPort : UInt16
  (fin syn rst psh ack urg ece cwr ns : Bool)

structure UdpSlice where
  sourcePort : UInt16
  destinationPort : UInt16
  /-- The length that the header declares. -/
  length : UInt16
  payload : List UInt8

structure IcmpSlice where
  type : UInt8
  code : UInt8

inductive TransportSlice where
  | tcp (slice : TcpSlice)
  | udp (slice : UdpSlice)
  | icmpv4 (slice : IcmpSlice)
  | icmpv6 (slice : IcmpSlice)

structure LaxSlicedPacket where
  link : Option LinkSlice
  vlan : Option VlanHeader
  etherPayload : Option EtherPayload
  net : Option LaxNetSlice
  ipPayload : Option IpPayload
  transport : Option TransportSlice

/-- The slicing library. A header that cannot be sliced is `none`. -/
structure Etherparse where
  fromEthernet : List UInt8 → Option LaxSlicedPacket
  fromIp : List UInt8 → Option LaxSlicedPacket
  tcpSlice : List UInt8 → Option TcpSlice
  udpSliceLax : List UInt8 → Option UdpSlice
  icmpv4Slice : List UInt8 → Option IcmpSlice
  icmpv6Slice : List UInt8 → Option IcmpSlice

def ETHER_TYPE_IPV4 : UInt16 := 0x0800
def ETHER_TYPE_IPV6 : UInt16 := 0x86dd
def IP_NUMBER_ICMP : UInt8 := 1
def IP_NUMBER_TCP : UInt8 := 6
def IP_NUMBER_UDP : UInt8 := 17
def IP_NUMBER_GRE : UInt8 := 47
def IP_NUMBER_IPV6_ICMP : UInt8 := 58

/-! ### Encapsulations -/

/-- Maximum number of decapsulation steps; an MPLS label stack is one step. -/
def MAX_TUNNEL_DEPTH : Nat := 4

def MPLS_UNICAST : UInt16 := 0x8847
def MPLS_MULTICAST : UInt16 := 0x8848
def TRANSPARENT_ETHERNET_BRIDGING : UInt16 := 0x6558
def ERSPAN_I_II : UInt16 := 0x88be
def ERSPAN_III : UInt16 := 0x22eb
def UDP_PORT_VXLAN : UInt16 := 4789
def UDP_PORT_GENEVE : UInt16 := 6081

/-- What a recognised encapsulation carries. -/
inductive Inner where
  | ethernet (frame : List UInt8)
  | ip (bytes : List UInt8)

def isMpls (etherType : UInt16) : Bool := etherType = MPLS_UNICAST ∨ etherType = MPLS_MULTICAST

/-- `bytes.get(offset..)`. -/
def getFrom (offset : Nat) (bytes : List UInt8) : Option (List UInt8) :=
  if offset ≤ bytes.length then some (bytes.drop offset) else none

def u16FromBe (high low : UInt8) : UInt16 := high.toUInt16 <<< 8 ||| low.toUInt16

/-- What follows the bottom of a label stack. -/
def skipLabels : List UInt8 → Option (List UInt8)
  | _ :: _ :: label :: _ :: rest => if label &&& 0x01 ≠ 0 then some rest else skipLabels rest
  | _ => none

section
variable (etherparse : Etherparse)

/-- Bytes read so decode to something with a network layer, or to another MPLS stack. An IPv4
reading must also carry a correct header checksum. -/
def isPlausible : Inner → Bool
  | .ip bytes =>
    (etherparse.fromIp bytes).any fun s =>
      match s.net with
      | some (.ipv4 header) => header.calcHeaderChecksum = header.headerChecksum
      | some (.ipv6 _) => true
      | _ => false
  | .ethernet frame =>
    (etherparse.fromEthernet frame).any fun s =>
      s.net.isSome || s.etherPayload.any fun p => isMpls p.etherType

/-- Skips the label stack and guesses the payload type from its first nibble. -/
def mplsInner (bytes : List UInt8) : Option Inner := do
  let bytes ← skipLabels bytes
  let readings ← match (← bytes.head?) >>> 4 with
    | 4 | 6 => some [some (Inner.ip bytes), some (.ethernet bytes)]
    | 0 => some [(getFrom 4 bytes).map .ethernet, some (.ethernet bytes)]
    | _ => some [some (.ethernet bytes), none]
  (readings.filterMap id).find? (isPlausible etherparse)

/-- GRE version 0 without routing, plus the ERSPAN headers behind it. -/
def greInner (bytes : List UInt8) : Option Inner :=
  match bytes with
  | f0 :: f1 :: p0 :: p1 :: _ => do
    let flags := u16FromBe f0 f1
    let protocol := u16FromBe p0 p1
    if flags &&& 0x0007 ≠ 0 ∨ flags &&& 0x4000 ≠ 0 then none
    else
      let checksum := if flags &&& 0x8000 ≠ 0 then 4 else 0
      let key := if flags &&& 0x2000 ≠ 0 then 4 else 0
      let hasSequence := flags &&& 0x1000 ≠ 0
      let sequence := if hasSequence then 4 else 0
      let payload ← getFrom (4 + checksum + key + sequence) bytes
      if protocol = ETHER_TYPE_IPV4 ∨ protocol = ETHER_TYPE_IPV6 then some (.ip payload)
      else if protocol = TRANSPARENT_ETHERNET_BRIDGING then some (.ethernet payload)
      else if isMpls protocol then mplsInner etherparse payload
      else if protocol = ERSPAN_I_II then
        if hasSequence then (getFrom 8 payload).map .ethernet else some (.ethernet payload)
      else if protocol = ERSPAN_III then
        let flag ← payload[11]?
        (getFrom (if flag &&& 0x01 ≠ 0 then 20 else 12) payload).map .ethernet
      else none
  | _ => none

/-- An 8-byte header whose only mandatory bit is the VNI flag. -/
def vxlanInner (payload : List UInt8) : Option Inner := do
  let frame ← getFrom 8 payload
  let flags ← payload.head?
  if flags &&& 0x08 ≠ 0 then some (.ethernet frame) else none

/-- An 8-byte header with a length for the options that follow it, and a protocol type. -/
def geneveInner (payload : List UInt8) : Option Inner :=
  match payload with
  | h0 :: _ :: h2 :: h3 :: _ :: _ :: _ :: _ :: _ => do
    if h0 >>> 6 ≠ 0 then none
    else
      let optionsLen := (h0 &&& 0x3f).toNat * 4
      let protocol := u16FromBe h2 h3
      let inner ← getFrom (8 + optionsLen) payload
      if protocol = TRANSPARENT_ETHERNET_BRIDGING then some (.ethernet inner)
      else if protocol = ETHER_TYPE_IPV4 ∨ protocol = ETHER_TYPE_IPV6 then some (.ip inner)
      else none
  | _ => none

def encapsulated (sliced : LaxSlicedPacket) : Option Inner :=
  match sliced.etherPayload.filter fun payload => isMpls payload.etherType with
  | some payload => mplsInner etherparse payload.payload
  | none => do
    let ipPayload ← sliced.ipPayload
    -- A fragment carries a slice of some payload, not a header, whatever its bytes look like.
    if ipPayload.fragmented then none
    else if ipPayload.ipNumber = IP_NUMBER_GRE then greInner etherparse ipPayload.payload
    else
      match sliced.transport with
      | some (.udp udp) =>
        if udp.destinationPort = UDP_PORT_VXLAN then vxlanInner udp.payload
        else if udp.destinationPort = UDP_PORT_GENEVE then geneveInner udp.payload
        else none
      | _ => none

/-- The deepest packet sliced within the tunnel depth limit, and the enclosing packet kept for its
link layer. -/
structure Peeled where
  link : Option LaxSlicedPacket
  packet : LaxSlicedPacket

/-- The IP packet is all there: not truncated, not a fragment, and with a UDP length that matches
the bytes. A packet with no IP layer yet has nothing to check. -/
def isComplete (sliced : LaxSlicedPacket) : Bool :=
  match sliced.ipPayload with
  | none => true
  | some payload =>
    if payload.incomplete || payload.fragmented then false
    else
      match sliced.transport with
      | some (.udp udp) => udp.payload.length + 8 = udp.length.toNat
      | _ => true

/-- The steps of `peel_with`, with so many left. -/
def peelWith (requireComplete : Bool) : Nat → Peeled → Peeled
  | 0, peeled => peeled
  | depth + 1, peeled =>
    if requireComplete && !isComplete peeled.packet then peeled
    else
      match encapsulated etherparse peeled.packet with
      | some (.ethernet frame) =>
        match etherparse.fromEthernet frame with
        | some inner => peelWith requireComplete depth { link := none, packet := inner }
        | none => peeled
      | some (.ip bytes) =>
        match etherparse.fromIp bytes with
        | some inner =>
          let link := if peeled.link.isNone ∧ peeled.packet.link.isSome then some peeled.packet
            else peeled.link
          peelWith requireComplete depth { link, packet := inner }
        | none => peeled
      | none => peeled

def peel (sliced : LaxSlicedPacket) : Peeled :=
  peelWith etherparse false MAX_TUNNEL_DEPTH { link := none, packet := sliced }

/-- Only descends through an enclosing packet that is whole. -/
def peelStrict (sliced : LaxSlicedPacket) : Peeled :=
  peelWith etherparse true MAX_TUNNEL_DEPTH { link := none, packet := sliced }

/-- The transport header of a first fragment, which the library leaves unsliced. -/
def firstFragmentTransport (sliced : LaxSlicedPacket) : Option TransportSlice := do
  let payload ← match sliced.net with
    | some (.ipv4 ipv4) => if ipv4.fragmentsOffset = 0 then some ipv4.payload else none
    | some (.ipv6 ipv6) => if ipv6.fragmentOffsets.head?.getD 0 = 0 then some ipv6.payload else none
    | _ => none
  if !payload.fragmented then none
  else if payload.ipNumber = IP_NUMBER_TCP then (etherparse.tcpSlice payload.payload).map .tcp
  else if payload.ipNumber = IP_NUMBER_UDP then (etherparse.udpSliceLax payload.payload).map .udp
  else if payload.ipNumber = IP_NUMBER_ICMP then
    (etherparse.icmpv4Slice payload.payload).map .icmpv4
  else if payload.ipNumber = IP_NUMBER_IPV6_ICMP then
    (etherparse.icmpv6Slice payload.payload).map .icmpv6
  else none

/-! ### What a packet says of its flow -/

/-- The Ethernet header and VLAN tags. A VLAN already on the flow is kept. -/
def applyLink (flow : CommonFlow) (sliced : LaxSlicedPacket) : CommonFlow :=
  let flow := match sliced.link with
    | some (.ethernet2 header) =>
      { flow with
        srcMac := some header.source
        dstMac := some header.destination
        etype := some header.etherType }
    | _ => flow
  match sliced.vlan with
  | some vlan =>
    let inner := match vlan with
      | .single h => h
      | .double _ inner => inner
    { flow with etype := some inner.etherType, srcVlan := flow.srcVlan.or (some inner.vlanId) }
  | none => flow

/-- The flag bits in the order of the header's last byte, with `ns` above them. -/
def TcpSlice.flags (tcp : TcpSlice) : UInt16 :=
  let bit (set : Bool) (mask : UInt16) : UInt16 := if set then mask else 0
  bit tcp.fin 0x01 ||| bit tcp.syn 0x02 ||| bit tcp.rst 0x04 ||| bit tcp.psh 0x08 |||
    bit tcp.ack 0x10 |||
    bit tcp.urg 0x20 ||| bit tcp.ece 0x40 ||| bit tcp.cwr 0x80 ||| bit tcp.ns 0x100

/-- The IP header and what follows. -/
def applyNetTransport (flow : CommonFlow) (sliced : LaxSlicedPacket) : CommonFlow :=
  let flow := match sliced.net with
    | some (.ipv4 header) =>
      { flow with
        srcAddr := some (.v4 header.sourceAddr)
        dstAddr := some (.v4 header.destinationAddr)
        proto := some header.protocol
        ipTos := some (header.dcp <<< 2 ||| header.ecn)
        ipTtl := some header.ttl
        fragmentId := some header.identification.toUInt32
        fragmentOffset := some header.fragmentsOffset
        etype := some ETHER_TYPE_IPV4 }
    | some (.ipv6 header) =>
      { flow with
        srcAddr := some (.v6 header.sourceAddr)
        dstAddr := some (.v6 header.destinationAddr)
        proto := some header.payload.ipNumber
        ipTos := some header.trafficClass
        ipTtl := some header.hopLimit
        ipv6FlowLabel := some header.flowLabel
        etype := some ETHER_TYPE_IPV6 }
    | _ => flow
  match sliced.transport.or (firstFragmentTransport etherparse sliced) with
  | some (.tcp tcp) =>
    { flow with
      srcPort := some tcp.sourcePort
      dstPort := some tcp.destinationPort
      tcpFlags := some tcp.flags }
  | some (.udp udp) =>
    { flow with srcPort := some udp.sourcePort, dstPort := some udp.destinationPort }
  | some (.icmpv4 icmp) | some (.icmpv6 icmp) =>
    { flow with icmpType := some icmp.type, icmpCode := some icmp.code }
  | none => flow

def Peeled.apply (peeled : Peeled) (flow : CommonFlow) : CommonFlow :=
  applyNetTransport etherparse (applyLink flow (peeled.link.getD peeled.packet)) peeled.packet

def applyEthernetFrame (flow : CommonFlow) (frame : List UInt8) : CommonFlow :=
  (etherparse.fromEthernet frame).elim flow fun sliced =>
    (peel etherparse sliced).apply etherparse flow

def applyIpPacket (flow : CommonFlow) (packet : List UInt8) : CommonFlow :=
  (etherparse.fromIp packet).elim flow fun sliced => (peel etherparse sliced).apply etherparse flow

/-! ### Captured frames -/

/-- The link layer a capture file declares for its frames. -/
inductive LinkType where
  | ethernet
  /-- Linux cooked capture, `tcpdump -i any` on older kernels. -/
  | linuxSll
  /-- Linux cooked capture v2. -/
  | linuxSll2
  /-- Frames start at the IP header. -/
  | rawIp

/-- From a pcap link-layer header type number. -/
def LinkType.fromPcap (linkType : UInt32) : Option LinkType :=
  if linkType = 1 then some .ethernet
  else if linkType = 113 then some .linuxSll
  else if linkType = 276 then some .linuxSll2
  else if linkType ∈ [12, 14, 101, 228, 229] then some .rawIp
  else none

def LINUX_SLL_HEADER_LEN : Nat := 16
def LINUX_SLL2_HEADER_LEN : Nat := 20

/-- The frame as it is sliced first. Both cooked headers carry the protocol as an ethertype, which
`fromEtherType` of the library starts from. -/
def sliceFrame (fromEtherType : UInt16 → List UInt8 → LaxSlicedPacket) (linkType : LinkType)
    (frame : List UInt8) : Option LaxSlicedPacket :=
  match linkType with
  | .ethernet => etherparse.fromEthernet frame
  | .linuxSll => do
    let payload ← getFrom LINUX_SLL_HEADER_LEN frame
    return fromEtherType (u16FromBe (← frame[14]?) (← frame[15]?)) payload
  | .linuxSll2 => do
    let payload ← getFrom LINUX_SLL2_HEADER_LEN frame
    return fromEtherType (u16FromBe (← frame[0]?) (← frame[1]?)) payload
  | .rawIp => etherparse.fromIp frame

/-- The source address and the payload of the datagram in a frame, below its tunnels. Only a whole
one is returned. -/
def parseUdpPacket (fromEtherType : UInt16 → List UInt8 → LaxSlicedPacket) (linkType : UInt32)
    (frame : List UInt8) :
    Option (IpAddr × List UInt8) := do
  let sliced ← sliceFrame etherparse fromEtherType (← LinkType.fromPcap linkType) frame
  let { packet, .. } := peelStrict etherparse sliced
  if !isComplete packet then none
  else
    let sourceIp ← match packet.net with
      | some (.ipv4 ipv4) => some (IpAddr.v4 ipv4.sourceAddr)
      | some (.ipv6 ipv6) => some (.v6 ipv6.sourceAddr)
      | _ => none
    match packet.transport with
    | some (.udp udp) => some (sourceIp, udp.payload)
    | _ => none

end

end Rustflow
