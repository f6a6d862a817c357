import Rustflow.Export.Parse

/-!
# Header agreement

When the exporter and the collector key a packet alike, and a first fragment on its ports. The
collector reads the header that a first fragment starts with, if that is whole and the fragment is
shown as a first one. The exporter does not, so such a packet is without ports in flow mode.
-/

namespace Rustflow
open Export

/-- The key and the TCP flags, with zero for a port and for flags that are not known. -/
def CommonFlow.keyAndFlags (flow : CommonFlow) : Option (FlowKey × UInt16) := do
  let key := {
    sourceIp := ← flow.srcAddr
    destinationIp := ← flow.dstAddr
    protocol := ← flow.proto
    sourcePort := flow.srcPort.getD 0
    destinationPort := flow.dstPort.getD 0 }
  return (key, flow.tcpFlags.getD 0)

def Export.PacketInfo.keyAndFlags (info : PacketInfo) : FlowKey × UInt16 :=
  (info.flowKey, info.tcpFlags)

def FlowKey.ports (self : FlowKey) : UInt16 × UInt16 := (self.sourcePort, self.destinationPort)

/-- The ports that a TCP or a UDP header starts with, as far as it was captured. -/
def leadingPorts : List UInt8 → Option (UInt16 × UInt16)
  | s0 :: s1 :: d0 :: d1 :: _ => some (u16FromBe s0 s1, u16FromBe d0 d1)
  | _ => none

namespace LaxSlicedPacket

/-- There is an IPv4 or an IPv6 layer. -/
def HasIp (sliced : LaxSlicedPacket) : Prop :=
  ∃ net, sliced.net = some net ∧ (networkInfo net).isSome

/-- The payload of the first fragment that the packet is. -/
inductive FirstFragment (sliced : LaxSlicedPacket) : IpPayload → Prop where
  | ipv4 {slice : Ipv4Slice} : sliced.net = some (.ipv4 slice) → slice.fragmentsOffset = 0 →
      slice.payload.fragmented → FirstFragment sliced slice.payload
  | ipv6 {slice : Ipv6Slice} : sliced.net = some (.ipv6 slice) →
      slice.fragmentOffsets.head?.getD 0 = 0 →
      slice.payload.fragmented → FirstFragment sliced slice.payload

/-- The packet starts one of TCP or UDP with these ports: it is a fragment at offset 0. Of an IPv6
fragment header `offset` is the offset on the wire, whatever the slices show. -/
inductive StartsWith (sliced : LaxSlicedPacket) (offset : UInt16) (ports : UInt16 × UInt16) :
    Prop where
  | ipv4 {slice : Ipv4Slice} : sliced.net = some (.ipv4 slice) → slice.fragmentsOffset = 0 →
      slice.payload.fragmented →
      slice.payload.ipNumber = IP_NUMBER_TCP ∨ slice.payload.ipNumber = IP_NUMBER_UDP →
      leadingPorts slice.payload.payload = some ports → StartsWith sliced offset ports
  | ipv6 {slice : Ipv6Slice} : sliced.net = some (.ipv6 slice) → offset = 0 →
      slice.payload.fragmented →
      slice.payload.ipNumber = IP_NUMBER_TCP ∨ slice.payload.ipNumber = IP_NUMBER_UDP →
      leadingPorts slice.payload.payload = some ports → StartsWith sliced offset ports

end LaxSlicedPacket

section
variable (etherparse : Etherparse)

/-- The payload starts with a TCP or a UDP header that names a port or sets a flag. -/
inductive NamesPorts (payload : IpPayload) : Prop where
  | tcp {header : TcpSlice} : payload.ipNumber = IP_NUMBER_TCP →
      etherparse.tcpSlice payload.payload = some header →
      (header.sourcePort, header.destinationPort, header.flags) ≠ (0, 0, 0) → NamesPorts payload
  | udp {header : UdpSlice} : payload.ipNumber = IP_NUMBER_UDP →
      etherparse.udpSliceLax payload.payload = some header →
      (header.sourcePort, header.destinationPort) ≠ (0, 0) → NamesPorts payload

/-- The exporter does not see the ports of the packet. -/
def HidesPorts (sliced : LaxSlicedPacket) : Prop :=
  sliced.transport = none ∧ ∃ payload, sliced.FirstFragment payload ∧ NamesPorts etherparse payload

/-! ### The two readings -/

section
omit etherparse

theorem toUInt16_shiftLeft (set : Bool) (n mask : UInt16) (shifted : 1 <<< n = mask) :
    set.toUInt16 <<< n = if set then mask else 0 := by
  cases set with
  | false => exact UInt16.zero_shiftLeft
  | true => exact shifted

theorem headerFlags_eq (header : TcpSlice) : headerFlags header = header.flags := by
  have fin : header.fin.toUInt16 = if header.fin then 0x01 else 0 := by cases header.fin <;> rfl
  unfold headerFlags TcpSlice.flags
  rw [fin, toUInt16_shiftLeft header.ns 8 0x100 rfl, toUInt16_shiftLeft header.syn 1 0x02 rfl,
    toUInt16_shiftLeft header.rst 2 0x04 rfl, toUInt16_shiftLeft header.psh 3 0x08 rfl,
    toUInt16_shiftLeft header.ack 4 0x10 rfl, toUInt16_shiftLeft header.urg 5 0x20 rfl,
    toUInt16_shiftLeft header.ece 6 0x40 rfl, toUInt16_shiftLeft header.cwr 7 0x80 rfl]
  ac_rfl

/-- The IP layer given, the ports and the flags decide. -/
theorem packetInfo_congr_iff {sliced : LaxSlicedPacket} (ip : sliced.HasIp)
    {transport transport' : Option TransportSlice} :
    (packetInfo { sliced with transport }).map PacketInfo.keyAndFlags =
        (packetInfo { sliced with transport := transport' }).map PacketInfo.keyAndFlags ↔
      transportInfo transport = transportInfo transport' := by
  obtain ⟨net, netSliced, known⟩ := ip
  obtain ⟨⟨sourceIp, destinationIp, protocol, _⟩, info⟩ := Option.isSome_iff_exists.mp known
  simp [packetInfo, netSliced, info, PacketInfo.keyAndFlags, Prod.ext_iff, and_assoc]

end

/-- The collector reads what the exporter would with the header of a first fragment sliced. -/
theorem keyAndFlags_applyNetTransport {flow : CommonFlow}
    (blank : flow.srcPort = none ∧ flow.dstPort = none ∧ flow.tcpFlags = none)
    {sliced : LaxSlicedPacket} (ip : sliced.HasIp) :
    (applyNetTransport etherparse flow sliced).keyAndFlags =
      (packetInfo
        { sliced with
          transport := sliced.transport.or (firstFragmentTransport etherparse sliced) }).map
        PacketInfo.keyAndFlags := by
  obtain ⟨net, netSliced, known⟩ := ip
  obtain ⟨srcPort, dstPort, tcpFlags⟩ := blank
  unfold applyNetTransport packetInfo
  generalize sliced.transport.or (firstFragmentTransport etherparse sliced) = transport
  rw [netSliced]
  cases net with
  | arp => cases known
  | ipv4 _ | ipv6 _ =>
    rcases transport with _ | (header | _ | _ | _) <;>
      simp [CommonFlow.keyAndFlags, PacketInfo.keyAndFlags, networkInfo, transportInfo,
        headerFlags_eq, srcPort, dstPort, tcpFlags]

/-! ### First fragments -/

/-- The header a payload starts with. -/
def leadingHeader (payload : IpPayload) : Option TransportSlice :=
  if payload.ipNumber = IP_NUMBER_TCP then (etherparse.tcpSlice payload.payload).map .tcp
  else if payload.ipNumber = IP_NUMBER_UDP then (etherparse.udpSliceLax payload.payload).map .udp
  else if payload.ipNumber = IP_NUMBER_ICMP then
    (etherparse.icmpv4Slice payload.payload).map .icmpv4
  else if payload.ipNumber = IP_NUMBER_IPV6_ICMP then
    (etherparse.icmpv6Slice payload.payload).map .icmpv6
  else none

theorem firstFragmentTransport_of {sliced : LaxSlicedPacket} {payload : IpPayload}
    (first : sliced.FirstFragment payload) :
    firstFragmentTransport etherparse sliced = leadingHeader etherparse payload := by
  unfold firstFragmentTransport leadingHeader
  cases first with
  | ipv4 net start fragmented => simp [net, start, fragmented]
  | ipv6 net start fragmented => simp [net, start, fragmented]

theorem exists_firstFragment {sliced : LaxSlicedPacket}
    (unsliced : firstFragmentTransport etherparse sliced ≠ none) :
    ∃ payload, sliced.FirstFragment payload := by
  unfold firstFragmentTransport at unsliced
  split at unsliced
  · rename_i slice net
    by_cases first : slice.fragmentsOffset = 0 ∧ slice.payload.fragmented
    · exact ⟨slice.payload, .ipv4 net first.1 first.2⟩
    · grind
  · rename_i slice net
    by_cases first : slice.fragmentOffsets.head?.getD 0 = 0 ∧ slice.payload.fragmented
    · exact ⟨slice.payload, .ipv6 net first.1 first.2⟩
    · grind
  · exact absurd rfl unsliced

theorem namesPorts_iff (payload : IpPayload) :
    NamesPorts etherparse payload ↔ transportInfo (leadingHeader etherparse payload) ≠
      (0, 0, 0) := by
  constructor
  · intro names
    cases names with
    | tcp number sliced named =>
      rw [leadingHeader, if_pos number, sliced]
      simpa only [Option.map_some, transportInfo, headerFlags_eq] using named
    | udp number sliced named =>
      rw [leadingHeader, if_neg (by rw [number]; decide), if_pos number, sliced]
      simpa [transportInfo] using named
  · intro named
    unfold leadingHeader at named
    split_ifs at named with tcp udp icmp icmpv6
    · cases sliced : etherparse.tcpSlice payload.payload with
      | none => exact absurd (by rw [sliced]; rfl) named
      | some header =>
        rw [sliced, Option.map_some, transportInfo, headerFlags_eq] at named
        exact .tcp tcp sliced named
    · cases sliced : etherparse.udpSliceLax payload.payload with
      | none => exact absurd (by rw [sliced]; rfl) named
      | some header =>
        rw [sliced, Option.map_some, transportInfo] at named
        exact .udp udp sliced fun zero => named (by rw [Prod.mk.injEq] at zero; rw [zero.1, zero.2])
    -- An ICMP header has neither ports nor flags.
    · cases sliced : etherparse.icmpv4Slice payload.payload <;>
        exact absurd (by rw [sliced]; rfl) named
    · cases sliced : etherparse.icmpv6Slice payload.payload <;>
        exact absurd (by rw [sliced]; rfl) named
    · exact absurd rfl named

theorem transportInfo_firstFragment (sliced : LaxSlicedPacket) :
    transportInfo (firstFragmentTransport etherparse sliced) ≠ (0, 0, 0) ↔
      ∃ payload, sliced.FirstFragment payload ∧ NamesPorts etherparse payload := by
  constructor
  · intro named
    cases unsliced : firstFragmentTransport etherparse sliced with
    | none => exact absurd (by rw [unsliced]; rfl) named
    | some header =>
      obtain ⟨payload, first⟩ :=
        exists_firstFragment etherparse (by rw [unsliced]; exact Option.some_ne_none header)
      rw [firstFragmentTransport_of etherparse first, ← namesPorts_iff] at named
      exact ⟨payload, first, named⟩
  · rintro ⟨payload, first, names⟩
    rwa [firstFragmentTransport_of etherparse first, ← namesPorts_iff]

theorem transportInfo_or_iff (sliced : LaxSlicedPacket) :
    transportInfo sliced.transport =
      transportInfo (sliced.transport.or (firstFragmentTransport etherparse sliced)) ↔
      ¬HidesPorts etherparse sliced := by
  unfold HidesPorts
  cases sliced.transport with
  | some transport => simp
  | none =>
    rw [Option.none_or, ← transportInfo_firstFragment, ne_eq, eq_self, true_and, not_not]
    exact eq_comm

theorem peel_packet {sliced : LaxSlicedPacket} (bare : encapsulated etherparse sliced = none) :
    peel etherparse sliced = { link := none, packet := sliced } := by
  simp [peel, MAX_TUNNEL_DEPTH, peelWith, bare]

theorem keyed_alike_iff {sliced : LaxSlicedPacket} (ip : sliced.HasIp)
    (bare : encapsulated etherparse sliced = none) {flow : CommonFlow}
    (blank : flow.srcPort = none ∧ flow.dstPort = none ∧ flow.tcpFlags = none) :
    (packetInfo sliced).map PacketInfo.keyAndFlags =
        (applyNetTransport etherparse flow (peel etherparse sliced).packet).keyAndFlags ↔
      ¬HidesPorts etherparse sliced := by
  rw [peel_packet etherparse bare, keyAndFlags_applyNetTransport etherparse blank ip,
    ← transportInfo_or_iff]
  exact packetInfo_congr_iff ip

omit etherparse in
theorem ports_packetInfo {sliced : LaxSlicedPacket} (ip : sliced.HasIp)
    (unsliced : sliced.transport = none) :
    ((packetInfo sliced).map PacketInfo.keyAndFlags).map (·.1.ports) = some (0, 0) := by
  obtain ⟨net, netSliced, known⟩ := ip
  obtain ⟨_, info⟩ := Option.isSome_iff_exists.mp known
  simp [packetInfo, netSliced, info, unsliced, transportInfo, PacketInfo.keyAndFlags, FlowKey.ports]

/-- The exporter's flow key and TCP flags of a packet are the ones the collector puts on a flow for
it, unless it is shown as a first fragment and its header names its ports. A fragment has no sliced
transport, so that both are on the ports it starts with only if these are 0. -/
theorem same_headers_iff {sliced : LaxSlicedPacket} (ip : sliced.HasIp)
    (bare : encapsulated etherparse sliced = none) {flow : CommonFlow}
    (blank : flow.srcPort = none ∧ flow.dstPort = none ∧ flow.tcpFlags = none) (offset : UInt16)
    (unsliced : ∀ ports, sliced.StartsWith offset ports → sliced.transport = none) :
    let exporter := (packetInfo sliced).map PacketInfo.keyAndFlags
    let collector := (applyNetTransport etherparse flow (peel etherparse sliced).packet).keyAndFlags
    (exporter = collector ∧ ∀ ports, sliced.StartsWith offset ports →
        exporter.map (·.1.ports) = some ports ∧ collector.map (·.1.ports) = some ports) ↔
      ¬HidesPorts etherparse sliced ∧ ∀ ports, sliced.StartsWith offset ports → ports = (0, 0) := by
  intro exporter collector
  have alike : exporter = collector ↔ ¬HidesPorts etherparse sliced :=
    keyed_alike_iff etherparse ip bare blank
  have unkeyed : ∀ ports, sliced.StartsWith offset ports →
      exporter.map (·.1.ports) = some (0, 0) := fun ports starts =>
    ports_packetInfo ip (unsliced ports starts)
  constructor
  · rintro ⟨same, keyed⟩
    refine ⟨alike.mp same, fun ports starts => ?_⟩
    have here := (keyed ports starts).1
    rw [unkeyed ports starts] at here
    exact (Option.some.inj here).symm
  · rintro ⟨shown, zero⟩
    have same := alike.mpr shown
    refine ⟨same, fun ports starts => ?_⟩
    rw [← same, zero ports starts]
    exact ⟨unkeyed ports starts, unkeyed ports starts⟩

end

/-! ### The first fragment of a datagram -/

/-- A slicing that knows UDP headers. -/
def udpHeaders : Etherparse where
  fromEthernet _ := none
  fromIp _ := none
  tcpSlice _ := none
  udpSliceLax
    | s0 :: s1 :: d0 :: d1 :: l0 :: l1 :: _ :: _ :: payload =>
      some ⟨u16FromBe s0 s1, u16FromBe d0 d1, u16FromBe l0 l1, payload⟩
    | _ => none
  icmpv4Slice _ := none
  icmpv6Slice _ := none

/-- From port 1000 to port 53, with the header in the packet and the rest of the datagram still to
come, or all of it there. -/
def toPort53 (fragmented : Bool) : LaxSlicedPacket :=
  let length := if fragmented then 16 else 8
  let checksum := if fragmented then 0x6e94 else 0x8e94
  let payload := {
    ipNumber := 17
    fragmented
    incomplete := false
    payload := [0x03, 0xe8, 0, 53, 0, length, 0, 0] }
  { link := none
    vlan := none
    etherPayload := none
    net := some (.ipv4 {
      sourceAddr := 0xc0000201
      destinationAddr := 0xc6336407
      protocol := 17
      dcp := 0
      ecn := 0
      ttl := 64
      identification := 1
      fragmentsOffset := 0
      totalLen := 28
      headerChecksum := checksum
      calcHeaderChecksum := checksum
      payload })
    ipPayload := some payload
    transport := if fragmented then none else some (.udp ⟨1000, 53, 8, []⟩) }

/-- Whole, the datagram is keyed alike. Its first fragment is not keyed on its ports on both
sides. -/
theorem same_headers_toPort53 :
    (packetInfo (toPort53 false)).map PacketInfo.keyAndFlags =
        (applyNetTransport udpHeaders (.new .ipfix)
          (peel udpHeaders (toPort53 false)).packet).keyAndFlags ∧
      let exporter := (packetInfo (toPort53 true)).map PacketInfo.keyAndFlags
      let collector :=
        (applyNetTransport udpHeaders (.new .ipfix)
          (peel udpHeaders (toPort53 true)).packet).keyAndFlags
      ¬(exporter = collector ∧ ∀ ports, (toPort53 true).StartsWith 0 ports →
        exporter.map (·.1.ports) = some ports ∧ collector.map (·.1.ports) = some ports) := by
  have whole : ∀ ports, ¬(toPort53 false).StartsWith 0 ports := by
    rintro ports (⟨net, -, fragmented⟩ | ⟨net⟩)
    · cases net
      cases fragmented
    · cases net
  constructor
  · refine ((same_headers_iff udpHeaders ⟨_, rfl, rfl⟩ rfl ⟨rfl, rfl, rfl⟩ 0 ?_).mpr ⟨?_, ?_⟩).1
    · exact fun ports starts => absurd starts (whole ports)
    · exact fun hidden => Option.some_ne_none _ hidden.1
    · exact fun ports starts => absurd starts (whole ports)
  · intro exporter collector both
    have zero :=
      ((same_headers_iff udpHeaders ⟨_, rfl, rfl⟩ rfl ⟨rfl, rfl, rfl⟩ 0 fun _ _ => rfl).mp both).2
    have ports := zero (1000, 53) (.ipv4 rfl rfl rfl (.inr rfl) rfl)
    exact absurd ports (by decide)

theorem headers_differ :
    ¬∀ (etherparse : Etherparse) (sliced : LaxSlicedPacket), sliced.HasIp →
      encapsulated etherparse sliced = none →
      ∀ flow : CommonFlow, flow.srcPort = none ∧ flow.dstPort = none ∧ flow.tcpFlags = none →
        (packetInfo sliced).map PacketInfo.keyAndFlags =
          (applyNetTransport etherparse flow (peel etherparse sliced).packet).keyAndFlags := by
  intro same
  have keyed := same udpHeaders (toPort53 true) ⟨_, rfl, rfl⟩ rfl (.new .ipfix) ⟨rfl, rfl, rfl⟩
  exact absurd keyed (by decide)

end Rustflow
