import Rustflow.Common.TemplateCache
import Rustflow.Ipfix.Encoder
import Rustflow.Lib.Cidr

/-!
# The generator

`rustflow_generate`: IPFIX messages with random flows, for testing a collector. Random numbers, the
clocks and the outcome of each send come from outside. What is printed is left out, and so is the
pacing: the wait between two messages changes neither.
-/

namespace Rustflow.Generate
open Ipfix InformationElement

def FLOW_TEMPLATE_ID : UInt16 := 256
def OPTIONS_TEMPLATE_ID : UInt16 := 257

def IPPROTO_TCP : UInt8 := 6

inductive IpNet where
  | v4 (net : Cidr 32)
  | v6 (net : Cidr 128)
  deriving DecidableEq

def IpNet.Contains : IpNet → IpAddr → Prop
  | .v4 net, .v4 addr => net.Contains addr.toBitVec
  | .v6 net, .v6 addr => net.Contains addr
  | _, _ => False

/-- A generator of random numbers with state `R`: words of bits, numbers in a range with both ends
included, and members of a list. -/
structure Rng (R : Type) where
  random : (w : Nat) → R → BitVec w × R
  randomRange : Nat → Nat → R → Nat × R
  choose : List UInt16 → R → Option UInt16 × R

/-- What `rand` says of them. -/
structure Rng.Lawful {R : Type} (rng : Rng R) : Prop where
  inRange : ∀ low high r, low ≤ high → low ≤ (rng.randomRange low high r).1 ∧
    (rng.randomRange low high r).1 ≤ high
  chosen : ∀ choices r, match (rng.choose choices r).1 with
    | some choice => choice ∈ choices
    | none => choices = []

section
variable {R : Type} (rng : Rng R)

def randomIpInCidr (cidr : IpNet) (r : R) : IpAddr × R :=
  match cidr with
  | .v4 net =>
    let (word, r) := rng.random 32 r
    (.v4 (UInt32.ofBitVec (net.network ||| (word &&& net.hostmask))), r)
  | .v6 net =>
    let (word, r) := rng.random 128 r
    (.v6 (net.network ||| (word &&& net.hostmask)), r)

end

/-! ### Arguments -/

/-- A range of ports, octets or packets. An argument with its ends the other way is turned down. -/
structure InclusiveRange where
  start : UInt16
  end_ : UInt16
  ordered : start ≤ end_

def InclusiveRange.sample {R : Type} (self : InclusiveRange) (rng : Rng R) (r : R) : UInt16 × R :=
  let (n, r) := rng.randomRange self.start.toNat self.end_.toNat r
  (UInt16.ofNat n, r)

inductive AddressFamily where
  | v4 | v6
  deriving DecidableEq

def AddressFamily.of : IpNet → AddressFamily
  | .v4 _ => .v4
  | .v6 _ => .v6

/-- The rate is only for pacing. -/
structure GenerateArgs where
  host : String
  port : UInt16
  flowsPerPacket : UInt16
  /-- Total packets to send, zero for no end. -/
  count : UInt64
  observationDomainId : UInt32
  /-- In seconds. -/
  templateInterval : UInt64
  srcCidr : IpNet
  dstCidr : IpNet
  protocols : List UInt8
  srcPortRange : InclusiveRange
  dstPortRange : InclusiveRange
  tcpFlags : List UInt16
  octetRange : InclusiveRange
  packetRange : InclusiveRange

/-! ### Templates and records -/

def createFlowTemplate (family : AddressFamily) : TemplateRecord :=
  let (sourceAddress, destinationAddress, addressLength) :
      InformationElement × InformationElement × UInt16 := match family with
    | .v4 => (sourceIpv4Address, destinationIpv4Address, 4)
    | .v6 => (sourceIpv6Address, destinationIpv6Address, 16)
  .new FLOW_TEMPLATE_ID [
    .fromIe sourceAddress addressLength,
    .fromIe destinationAddress addressLength,
    .fromIe protocolIdentifier 1,
    .fromIe tcpControlBits 2,
    .fromIe sourceTransportPort 2,
    .fromIe destinationTransportPort 2,
    .fromIe octetDeltaCount 8,
    .fromIe packetDeltaCount 8,
    .fromIe flowStartMilliseconds 8,
    .fromIe flowEndMilliseconds 8]

def addressField (ip : IpAddr) (v4 v6 : InformationElement) : InformationElement × FieldValue :=
  match ip with
  | .v4 addr => (v4, .ipv4Address addr)
  | .v6 addr => (v6, .ipv6Address addr)

def createOptionsTemplate : OptionsTemplateRecord :=
  .new OPTIONS_TEMPLATE_ID 1 [.fromIe InformationElement.observationDomainId 4,
    .fromIe samplingPacketInterval 4]

structure Flow where
  srcIp : IpAddr
  dstIp : IpAddr
  protocol : UInt8
  tcpFlags : UInt16
  srcPort : UInt16
  dstPort : UInt16
  octets : UInt16
  packets : UInt16
  flowStart : DateTime
  flowEnd : DateTime
  deriving DecidableEq

def createFlowRecord (flow : Flow) : Ipfix.DataRecord :=
  let (_, sourceValue) := addressField flow.srcIp sourceIpv4Address sourceIpv6Address
  let (_, destinationValue) := addressField flow.dstIp destinationIpv4Address destinationIpv6Address
  .new [
    sourceValue,
    destinationValue,
    .unsigned8 flow.protocol,
    .unsigned16 flow.tcpFlags,
    .unsigned16 flow.srcPort,
    .unsigned16 flow.dstPort,
    .unsigned64 flow.octets.toUInt64,
    .unsigned64 flow.packets.toUInt64,
    .dateTimeMilliseconds flow.flowStart,
    .dateTimeMilliseconds flow.flowEnd]

def createOptionsRecord (observationDomainId samplingInterval : UInt32) : Ipfix.DataRecord :=
  .new [.unsigned32 observationDomainId, .unsigned32 samplingInterval]

/-! ### The generator -/

/-- Its socket and its target are left to where messages are sent. -/
structure IpfixGenerator where
  observationDomainId : UInt32
  sequenceNumber : UInt32
  flowsPerPacket : UInt16
  family : AddressFamily
  srcCidr : IpNet
  dstCidr : IpNet
  protocols : List UInt8
  tcpFlags : List UInt16
  octetRange : InclusiveRange
  packetRange : InclusiveRange
  srcPortRange : InclusiveRange
  dstPortRange : InclusiveRange
  sourceFamily : AddressFamily.of srcCidr = family
  destinationFamily : AddressFamily.of dstCidr = family
  some_ : protocols ≠ []

inductive GenerateError (E : Type) where
  | invalidInput (message : String)
  | io (error : E)

/-- The addresses of a host, and a socket bound to an address. -/
structure Sockets (E : Type) where
  toSocketAddrs : String → UInt16 → Except E (List (IpAddr × UInt16))
  bind : String → Except E Unit

def IpfixGenerator.new {E : Type} (sockets : Sockets E) (args : GenerateArgs) :
    Except (GenerateError E) IpfixGenerator := do
  if destination : AddressFamily.of args.dstCidr ≠ AddressFamily.of args.srcCidr then
    .error (.invalidInput "--src-cidr and --dst-cidr must use the same IP address family")
  else if some_ : args.protocols = [] then
    .error (.invalidInput "--protocols must contain at least one protocol number")
  else
    let some (target, _) := (← (sockets.toSocketAddrs args.host args.port).mapError .io).head?
      | .error (.invalidInput ("cannot resolve collector address " ++ args.host ++ ":" ++
          toString args.port))
    (sockets.bind (match target with | .v6 _ => "[::]:0" | .v4 _ => "0.0.0.0:0")).mapError .io
    return {
      observationDomainId := args.observationDomainId
      sequenceNumber := 0
      flowsPerPacket := args.flowsPerPacket
      family := AddressFamily.of args.srcCidr
      srcCidr := args.srcCidr
      dstCidr := args.dstCidr
      protocols := args.protocols
      tcpFlags := args.tcpFlags
      octetRange := args.octetRange
      packetRange := args.packetRange
      srcPortRange := args.srcPortRange
      dstPortRange := args.dstPortRange
      sourceFamily := rfl
      destinationFamily := not_not.mp destination
      some_ }

/-- `now - chrono::Duration::milliseconds(millis)`. -/
def before (now : DateTime) (millis : Nat) : DateTime := ⟨now.nanos - millis * 1000000⟩

section
variable {R : Type} (rng : Rng R)

def randomTcpFlags (self : IpfixGenerator) (protocol : UInt8) (r : R) : UInt16 × R :=
  if protocol = IPPROTO_TCP then
    let (choice, r) := rng.choose self.tcpFlags r
    (choice.getD 0, r)
  else (0, r)

/-- One flow of a data packet. -/
def randomFlow (self : IpfixGenerator) (now : DateTime) (r : R) : Flow × R :=
  let (srcIp, r) := randomIpInCidr rng self.srcCidr r
  let (dstIp, r) := randomIpInCidr rng self.dstCidr r
  let (index, r) := rng.randomRange 0 (self.protocols.length - 1) r
  let protocol := self.protocols.getD index 0
  let (tcpFlags, r) := randomTcpFlags rng self protocol r
  let (srcPort, r) := self.srcPortRange.sample rng r
  let (dstPort, r) := self.dstPortRange.sample rng r
  let (octets, r) := self.octetRange.sample rng r
  let (packets, r) := self.packetRange.sample rng r
  let (started, r) := rng.randomRange 1000 59999 r
  let (ended, r) := rng.randomRange 0 999 r
  ({ srcIp, dstIp, protocol, tcpFlags, srcPort, dstPort, octets, packets,
     flowStart := before now started, flowEnd := before now ended },
    r)

def randomFlows (self : IpfixGenerator) (now : DateTime) : Nat → R → List Flow × R
  | 0, r => ([], r)
  | n + 1, r =>
    let (flow, r) := randomFlow rng self now r
    let (flows, r) := randomFlows self now n r
    (flow :: flows, r)

/-- What a message is made of. -/
inductive Message where
  | templates
  | options
  | data (flows : List Flow)

def Message.sets (self : IpfixGenerator) : Message → List Ipfix.Set
  | .templates => [
      { id := IPFIX_TEMPLATE_SET_ID, length := 0,
        records := [.template (createFlowTemplate self.family)] },
      { id := IPFIX_OPTIONS_TEMPLATE_SET_ID, length := 0,
        records := [.optionsTemplate createOptionsTemplate] }]
  | .options => [
      { id := OPTIONS_TEMPLATE_ID, length := 0,
        records := [.optionsData (createOptionsRecord self.observationDomainId 1)] }]
  | .data flows => [
      { id := FLOW_TEMPLATE_ID, length := 0,
        records := flows.map fun flow => .data (createFlowRecord flow) }]

/-- A message tried, with the outcome of sending its bytes. -/
structure Attempt (E : Type) where
  message : Message
  packet : IpfixPacket
  outcome : Except E Nat

/-- The clocks and the network, by the number of messages tried before or of turns taken. -/
structure Surroundings (E : Type) where
  utcNow : Nat → DateTime
  sendTo : Nat → List UInt8 → Except E Nat
  checked : Nat → Instant
  refreshed : Nat → Instant

structure World (E R : Type) where
  generator : IpfixGenerator
  rng : R
  journal : List (Attempt E)

variable {E : Type} (env : Surroundings E)

/-- A packet of the message in hand, with the header it was given before any counting. -/
def packetOf (w : World E R) (message : Message) : IpfixPacket where
  header := {
    version := IPFIX_VERSION
    length := 0
    exportTime := env.utcNow w.journal.length
    sequenceNumber := w.generator.sequenceNumber
    observationDomainId := w.generator.observationDomainId }
  sets := message.sets w.generator

def sendPacket (message : Message) (packet : IpfixPacket) (w : World E R) :
    Except E Nat × World E R :=
  let outcome := env.sendTo w.journal.length packet.encode
  (outcome, { w with journal := w.journal ++ [⟨message, packet, outcome⟩] })

def sendTemplates (w : World E R) : Except E Nat × World E R :=
  sendPacket env .templates (packetOf env w .templates) w

def sendOptions (w : World E R) : Except E Nat × World E R :=
  let packet := packetOf env w .options
  sendPacket env .options packet
    { w with generator.sequenceNumber := w.generator.sequenceNumber + 1 }

def sendDataPacket (w : World E R) : Except E Nat × World E R :=
  let (flows, r) :=
    randomFlows rng w.generator (env.utcNow w.journal.length) w.generator.flowsPerPacket.toNat w.rng
  let packet := packetOf env w (.data flows)
  sendPacket env (.data flows) packet
    { w with rng := r, generator.sequenceNumber := w.generator.sequenceNumber +
      w.generator.flowsPerPacket.toUInt32 }

/-! ### Runs -/

/-- The loop of `run`, and what it ended with. -/
structure Loop (E R : Type) where
  world : World E R
  lastTemplate : Instant
  packetsSent : Nat
  ended : Option (Except E Unit)

/-- Templates and options, unless a send fails. -/
def sendDescriptions (w : World E R) : Except E Unit × World E R :=
  match sendTemplates env w with
  | (.error e, w) => (.error e, w)
  | (.ok _, w) =>
    match sendOptions env w with
    | (.error e, w) => (.error e, w)
    | (.ok _, w) => (.ok (), w)

/-- Up to the loop. -/
def Loop.start (generator : IpfixGenerator) (r : R) (now : Instant) : Loop E R :=
  let (result, world) := sendDescriptions env { generator, rng := r, journal := [] }
  { world, lastTemplate := now, packetsSent := 0,
    ended := match result with | .ok _ => none | .error e => some (.error e) }

/-- The rest of a turn, after any templates. -/
def Loop.sendData (count : UInt64) (self : Loop E R) : Loop E R :=
  match sendDataPacket rng env self.world with
  | (.error e, world) => { self with world, ended := some (.error e) }
  | (.ok _, world) =>
    let packetsSent := self.packetsSent + 1
    { self with
      world
      packetsSent
      ended := if 0 < count ∧ count.toNat ≤ packetsSent then some (.ok ()) else none }

/-- The `n`-th turn of the loop, unless it has ended. -/
def Loop.turn (args : GenerateArgs) (n : Nat) (self : Loop E R) : Loop E R :=
  match self.ended with
  | some _ => self
  | none =>
    if env.checked n - self.lastTemplate ≥ args.templateInterval.toNat * 1000000000 then
      match sendDescriptions env self.world with
      | (.error e, world) => { self with world, ended := some (.error e) }
      | (.ok _, world) =>
        Loop.sendData rng env args.count { self with world, lastTemplate := env.refreshed n }
    else Loop.sendData rng env args.count self

/-- After some turns. -/
def Loop.after (args : GenerateArgs) (generator : IpfixGenerator) (r : R) (now : Instant) :
    Nat → Loop E R
  | 0 => Loop.start env generator r now
  | n + 1 => Loop.turn rng env args n (Loop.after args generator r now n)

end

end Rustflow.Generate
