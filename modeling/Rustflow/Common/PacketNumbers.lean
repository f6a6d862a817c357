import Rustflow.Common.Numbers

/-!
# The numbers of a sampled packet

What a packet's headers say of the numeric fields, and that a flow takes these numbers whole. A VLAN
that the flow already has is kept.
-/

namespace Rustflow
open NumericField

/-- The ranges of the parts of a type of service: six bits and two. -/
def LaxSlicedPacket.InRange (sliced : LaxSlicedPacket) : Prop :=
  ∀ header, sliced.net = some (.ipv4 header) → header.dcp.toNat < 2 ^ 6 ∧ header.ecn.toNat < 2 ^ 2

/-- What the slicing library promises of the values it hands out. -/
structure Etherparse.InRange (etherparse : Etherparse) : Prop where
  ethernet : ∀ frame sliced, etherparse.fromEthernet frame = some sliced → sliced.InRange
  ip : ∀ packet sliced, etherparse.fromIp packet = some sliced → sliced.InRange

/-! ### What the headers say -/

def VlanHeader.inner : VlanHeader → SingleVlanHeader
  | .single header => header
  | .double _ inner => inner

def LinkSlice.number : LinkSlice → NumericField → Option Nat
  | .ethernet2 header, .etype => some header.etherType.toNat
  | _, _ => none

def VlanHeader.number (vlan : VlanHeader) : NumericField → Option Nat
  | .etype => some vlan.inner.etherType.toNat
  | .srcVlan => some vlan.inner.vlanId.toNat
  | _ => none

/-- The type of service of an IPv4 header is the byte made of its two parts. -/
def LaxNetSlice.number : LaxNetSlice → NumericField → Option Nat
  | .ipv4 _, .etype => some 0x0800
  | .ipv4 header, .proto => some header.protocol.toNat
  | .ipv4 header, .ipTos => some (header.dcp.toNat * 2 ^ 2 + header.ecn.toNat)
  | .ipv4 header, .ipTtl => some header.ttl.toNat
  | .ipv4 header, .fragmentId => some header.identification.toNat
  | .ipv4 header, .fragmentOffset => some header.fragmentsOffset.toNat
  | .ipv6 _, .etype => some 0x86dd
  | .ipv6 header, .proto => some header.payload.ipNumber.toNat
  | .ipv6 header, .ipTos => some header.trafficClass.toNat
  | .ipv6 header, .ipTtl => some header.hopLimit.toNat
  | .ipv6 header, .ipv6FlowLabel => some header.flowLabel.toNat
  | _, _ => none

/-- The flag bits as a number, the lowest first. -/
def TcpSlice.flagBits (tcp : TcpSlice) : List Bool :=
  [tcp.fin, tcp.syn, tcp.rst, tcp.psh, tcp.ack, tcp.urg, tcp.ece, tcp.cwr, tcp.ns]

def TransportSlice.number : TransportSlice → NumericField → Option Nat
  | .tcp slice, .srcPort => some slice.sourcePort.toNat
  | .tcp slice, .dstPort => some slice.destinationPort.toNat
  | .tcp slice, .tcpFlags => some (slice.flagBits.foldr (fun bit n => bit.toNat + 2 * n) 0)
  | .udp slice, .srcPort => some slice.sourcePort.toNat
  | .udp slice, .dstPort => some slice.destinationPort.toNat
  | _, _ => none

/-- What is said of a flow over what is known of it. -/
def overlay (stated known : NumericField → Option Nat) (f : NumericField) : Option Nat :=
  if f = .srcVlan then ((known f).bind f.keep).or (stated f) else (stated f).or (known f)

section
variable (etherparse : Etherparse)

def LaxSlicedPacket.linkNumber (sliced : LaxSlicedPacket) (f : NumericField) : Option Nat :=
  (sliced.vlan.bind fun vlan => vlan.number f).or (sliced.link.bind fun link => link.number f)

def LaxSlicedPacket.netNumber (sliced : LaxSlicedPacket) (f : NumericField) : Option Nat :=
  ((sliced.transport.or (firstFragmentTransport etherparse sliced)).bind fun transport =>
    transport.number f).or
    (sliced.net.bind fun net => net.number f)

def Peeled.number (peeled : Peeled) (f : NumericField) : Option Nat :=
  (peeled.packet.netNumber etherparse f).or ((peeled.link.getD peeled.packet).linkNumber f)

def frameNumber (frame : List UInt8) (f : NumericField) : Option Nat :=
  (etherparse.fromEthernet frame).bind fun sliced => (peel etherparse sliced).number etherparse f

def packetNumber (packet : List UInt8) (f : NumericField) : Option Nat :=
  (etherparse.fromIp packet).bind fun sliced => (peel etherparse sliced).number etherparse f

/-! ### A flow takes them whole -/

theorem flags_toNat (tcp : TcpSlice) :
    tcp.flags.toNat = tcp.flagBits.foldr (fun bit n => bit.toNat + 2 * n) 0 := by
  obtain ⟨_, _, fin, syn, rst, psh, ack, urg, ece, cwr, ns⟩ := tcp
  dsimp only [TcpSlice.flags, TcpSlice.flagBits]
  revert fin syn rst psh ack urg ece cwr ns
  decide +kernel

theorem tos_toNat {dcp ecn : UInt8} (six : dcp.toNat < 2 ^ 6) (two : ecn.toNat < 2 ^ 2) :
    (dcp <<< 2 ||| ecn).toNat = dcp.toNat * 2 ^ 2 + ecn.toNat := by
  have shifted : (dcp <<< 2).toNat = dcp.toNat * 2 ^ 2 := by
    rw [UInt8.toNat_shiftLeft, Nat.shiftLeft_eq, show (2 : UInt8).toNat % 8 = 2 from rfl]
    exact Nat.mod_eq_of_lt (by omega)
  rw [UInt8.toNat_or, shifted, Nat.mul_comm]
  exact (Nat.two_pow_add_eq_or_of_lt two _).symm

theorem number_applyLink (flow : CommonFlow) (sliced : LaxSlicedPacket) :
    (applyLink flow sliced).number = overlay sliced.linkNumber flow.number := by
  funext f
  obtain ⟨link, vlan, _, _, _, _⟩ := sliced
  cases f with
  | srcVlan =>
    rw [overlay, if_pos rfl, CommonFlow.keep_number]
    rcases link with _ | _ | _ <;> rcases vlan with _ | _ | _ <;>
      cases known : flow.srcVlan <;> simp [applyLink, LaxSlicedPacket.linkNumber,
        CommonFlow.number, known] <;> rfl
  | _ => rcases link with _ | _ | _ <;> rcases vlan with _ | _ | _ <;> rfl

theorem number_applyNetTransport (flow : CommonFlow) {sliced : LaxSlicedPacket}
    (inRange : sliced.InRange) (f : NumericField) :
    (applyNetTransport etherparse flow sliced).number f =
      (sliced.netNumber etherparse f).or (flow.number f) := by
  have tos : ∀ header, sliced.net = some (.ipv4 header) →
      (header.dcp <<< 2 ||| header.ecn).toNat = header.dcp.toNat * 2 ^ 2 + header.ecn.toNat := by
    intro header is
    exact tos_toNat (inRange header is).1 (inRange header is).2
  unfold applyNetTransport LaxSlicedPacket.netNumber
  generalize sliced.transport.or (firstFragmentTransport etherparse sliced) = transport
  generalize sliced.net = net at tos ⊢
  cases f with
  | ipTos =>
    rcases net with _ | header | _ | _
    case some.ipv4 =>
      have whole := congrArg some (tos header rfl)
      rcases transport with _ | _ | _ | _ | _ <;> exact whole
    all_goals rcases transport with _ | _ | _ | _ | _ <;> rfl
  | tcpFlags =>
    rcases transport with _ | slice | _ | _ | _
    case some.tcp => exact congrArg some (flags_toNat slice)
    all_goals rcases net with _ | _ | _ | _ <;> rfl
  | _ => rcases net with _ | _ | _ | _ <;> rcases transport with _ | _ | _ | _ | _ <;> rfl

theorem netNumber_srcVlan (sliced : LaxSlicedPacket) :
    sliced.netNumber etherparse .srcVlan = none := by
  unfold LaxSlicedPacket.netNumber
  generalize sliced.transport.or (firstFragmentTransport etherparse sliced) = transport
  generalize sliced.net = net
  rcases net with _ | _ | _ | _ <;> rcases transport with _ | _ | _ | _ | _ <;> rfl

theorem Peeled.number_apply (flow : CommonFlow) {peeled : Peeled}
    (inRange : peeled.packet.InRange) :
    (peeled.apply etherparse flow).number = overlay (peeled.number etherparse) flow.number := by
  funext f
  rw [Peeled.apply, number_applyNetTransport etherparse _ inRange, number_applyLink]
  by_cases vlan : f = .srcVlan
  · subst vlan
    simp [overlay, Peeled.number, netNumber_srcVlan]
  · simp [overlay, Peeled.number, vlan, Option.or_assoc]

variable {etherparse}

theorem peelWith_inRange (promised : etherparse.InRange) (requireComplete : Bool) (depth : Nat)
    {peeled : Peeled} (inRange : peeled.packet.InRange) :
    (peelWith etherparse requireComplete depth peeled).packet.InRange := by
  induction depth generalizing peeled with
  | zero => exact inRange
  | succ depth ih =>
    unfold peelWith
    split
    · exact inRange
    cases encapsulated etherparse peeled.packet with
    | none => exact inRange
    | some inner =>
      cases inner with
      | ethernet frame =>
        cases sliced : etherparse.fromEthernet frame with
        | none => simpa only [sliced] using inRange
        | some inner =>
          simp only [sliced]
          exact ih (promised.ethernet frame inner sliced)
      | ip bytes =>
        cases sliced : etherparse.fromIp bytes with
        | none => simpa only [sliced] using inRange
        | some inner =>
          simp only [sliced]
          exact ih (promised.ip bytes inner sliced)

theorem overlay_unstated (flow : CommonFlow) :
    overlay (fun _ => none) flow.number = flow.number := by
  funext f
  by_cases vlan : f = .srcVlan
  · subst vlan
    rw [overlay, if_pos rfl, Option.or_none, CommonFlow.keep_number]
  · rw [overlay, if_neg vlan, Option.none_or]

theorem number_applyPeeled (promised : etherparse.InRange) (flow : CommonFlow)
    {sliced : Option LaxSlicedPacket} (inRange : ∀ packet, sliced = some packet → packet.InRange) :
    (sliced.elim flow fun packet => (peel etherparse packet).apply etherparse flow).number =
      overlay (fun f => sliced.bind fun packet => (peel etherparse packet).number etherparse f)
        flow.number := by
  cases sliced with
  | none => exact (overlay_unstated flow).symm
  | some packet =>
    apply Peeled.number_apply
    apply peelWith_inRange promised
    exact inRange packet rfl

theorem number_applyEthernetFrame (promised : etherparse.InRange) (flow : CommonFlow)
    (frame : List UInt8) :
    (applyEthernetFrame etherparse flow frame).number =
      overlay (frameNumber etherparse frame) flow.number :=
  number_applyPeeled promised flow (promised.ethernet frame)

theorem number_applyIpPacket (promised : etherparse.InRange) (flow : CommonFlow)
    (packet : List UInt8) :
    (applyIpPacket etherparse flow packet).number =
      overlay (packetNumber etherparse packet) flow.number :=
  number_applyPeeled promised flow (promised.ip packet)

/-- What a packet states is what a blank flow takes from it. -/
theorem overlay_blank (stated : NumericField → Option Nat) {flow : CommonFlow}
    (blank : ∀ f, flow.number f = none) :
    overlay stated flow.number = stated := by
  funext f
  simp [overlay, blank]

theorem keep_frameNumber (promised : etherparse.InRange) (frame : List UInt8) (f : NumericField) :
    (frameNumber etherparse frame f).bind f.keep = frameNumber etherparse frame f := by
  have taken := number_applyEthernetFrame promised (CommonFlow.new .ipfix) frame
  rw [overlay_blank _ (CommonFlow.number_new .ipfix)] at taken
  rw [← taken]
  exact CommonFlow.keep_number _ f

theorem keep_packetNumber (promised : etherparse.InRange) (packet : List UInt8) (f : NumericField) :
    (packetNumber etherparse packet f).bind f.keep = packetNumber etherparse packet f := by
  have taken := number_applyIpPacket promised (CommonFlow.new .ipfix) packet
  rw [overlay_blank _ (CommonFlow.number_new .ipfix)] at taken
  rw [← taken]
  exact CommonFlow.keep_number _ f

end
end Rustflow
