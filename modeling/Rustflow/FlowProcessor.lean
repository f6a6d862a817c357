import Rustflow.Ipfix.StatedElements
import Rustflow.NetflowProcessor
import Rustflow.SflowV5.Convert
import Rustflow.SflowV5.Parser

/-!
# Processors

The traits `Processor` and `Packet` of `rustflow/src/processor.rs`, and the two families of
protocols that are processors. Log messages are left out.

`Lawful` is what the callers of a processor go by: the version read off a datagram is that of its
packet, a packet has as many flows as it says, and they are of its version.
-/

namespace Rustflow

open NetflowProcessor (Arrival)

/-- A family of flow protocols, with the state `P` it keeps between datagrams and its packets `K`.
The clock and the order in which tables are visited come with a datagram. -/
structure Processor (P K : Type) where
  name : String
  parse : IterationOrder UInt32 → P → Datagram → P × Option K
  /-- The packet's data records as normalized flows, in packet order. -/
  convert : P → IpAddr → K → Option Int → List CommonFlow
  version : K → FlowType
  /-- The data records, or flow samples, the packet carries. -/
  flowCount : K → Nat
  /-- The version in a datagram's header. -/
  versionOf : List UInt8 → Option FlowType

namespace Processor
variable {P K : Type} (processor : Processor P K)

/-- Parses and converts in one step; a packet that fails to parse yields no flows. -/
def process (self : P) (arrival : Arrival) : P × List CommonFlow :=
  let (self, packet) := processor.parse arrival.order self arrival.datagram
  (self, (packet.map fun packet =>
    processor.convert self arrival.datagram.src packet arrival.timeReceivedNs).getD [])

/-- `process` onto the end of `flows`. -/
def processInto (self : P) (arrival : Arrival) (flows : List CommonFlow) : P × List CommonFlow :=
  match processor.parse arrival.order self arrival.datagram with
  | (self, some packet) =>
    (self, flows ++ processor.convert self arrival.datagram.src packet arrival.timeReceivedNs)
  | (self, none) => (self, flows)

structure Lawful : Prop where
  version : ∀ order self datagram packet, (processor.parse order self datagram).2 = some packet →
    processor.versionOf datagram.payload = some (processor.version packet)
  flowCount : ∀ self src packet timeReceivedNs,
    (processor.convert self src packet timeReceivedNs).length = processor.flowCount packet
  flows : ∀ self src packet timeReceivedNs,
    ∀ flow ∈ processor.convert self src packet timeReceivedNs,
    flow.flowType = processor.version packet ∧ flow.timeReceivedNs = timeReceivedNs

theorem processInto_eq (self : P) (arrival : Arrival) (flows : List CommonFlow) :
    processor.processInto self arrival flows =
      ((processor.process self arrival).1, flows ++ (processor.process self arrival).2) := by
  unfold processInto process
  cases processor.parse arrival.order self arrival.datagram with
  | mk self packet => cases packet <;> simp

end Processor

/-! ### NetFlow and IPFIX -/

namespace NetflowPacket

def version : NetflowPacket → FlowType
  | .v5 _ => .netflowV5
  | .v9 _ => .netflowV9
  | .ipfix _ => .ipfix

def flowCount : NetflowPacket → Nat
  | .v5 p => p.flowRecords.length
  | .v9 p => ((p.flowSets.flatMap (·.records)).filter fun | .data _ => true | _ => false).length
  | .ipfix p => ((p.sets.flatMap (·.records)).filter fun | .data _ => true | _ => false).length

end NetflowPacket

def NetflowProcessor.versionOf (payload : List UInt8) : Option FlowType := do
  let version ← version payload
  if version = NetflowV5.NETFLOW_V5_VERSION then some .netflowV5
  else if version = NetflowV9.NETFLOW_V9_VERSION then some .netflowV9
  else if version = Ipfix.IPFIX_VERSION then some .ipfix
  else none

def netflow (etherparse : Etherparse) : Processor NetflowProcessor NetflowPacket where
  name := "netflow"
  parse := NetflowProcessor.parse
  convert self src packet timeReceivedNs := self.convert etherparse src packet timeReceivedNs
  version := NetflowPacket.version
  flowCount := NetflowPacket.flowCount
  versionOf := NetflowProcessor.versionOf

/-! ### sFlow -/

inductive SflowPacket where
  | v5 (packet : SflowV5.SFlowV5)

namespace SflowPacket

def version : SflowPacket → FlowType
  | .v5 _ => .sflowV5

def flowCount : SflowPacket → Nat
  | .v5 p => (p.samples.filter fun | .flow _ | .expandedFlow _ => true | _ => false).length

end SflowPacket

/-- The parser keeps nothing. -/
structure SflowProcessor where

namespace SflowProcessor

/-- The first four bytes of a payload. -/
def version (payload : List UInt8) : Option UInt32 := (Combinator.beU32 payload).map Prod.snd

def parse (payload : List UInt8) : Option SflowPacket := do
  let version ← version payload
  if version ≠ SflowV5.SFLOW_V5_VERSION then none
  else
    let (_, parsed) ← SflowV5.parseSflowV5 payload
    return .v5 parsed

/-- Samples carry their exporter inside. -/
def convert (etherparse : Etherparse) (timeReceivedNs : Option Int) : SflowPacket → List CommonFlow
  | .v5 parsed =>
    let ctx : SflowV5.SFlowV5Context := { header := parsed }
    parsed.samples.filterMap fun
      | .flow sample => some { ctx.convertFlowSample etherparse sample with timeReceivedNs }
      | .expandedFlow sample =>
        some { ctx.convertExpandedFlowSample etherparse sample with timeReceivedNs }
      | _ => none

def versionOf (payload : List UInt8) : Option FlowType := do
  let version ← version payload
  if version = SflowV5.SFLOW_V5_VERSION then some .sflowV5 else none

end SflowProcessor

def sflow (etherparse : Etherparse) : Processor SflowProcessor SflowPacket where
  name := "sflow"
  parse _ self datagram := (self, SflowProcessor.parse datagram.payload)
  convert _ _ packet timeReceivedNs := SflowProcessor.convert etherparse timeReceivedNs packet
  version := SflowPacket.version
  flowCount := SflowPacket.flowCount
  versionOf := SflowProcessor.versionOf

/-! ### The flow type of a flow -/

section
variable (etherparse : Etherparse)

theorem flowType_applyNetTransport (flow : CommonFlow) (sliced : LaxSlicedPacket) :
    (applyNetTransport etherparse flow sliced).flowType = flow.flowType := by
  unfold applyNetTransport
  dsimp only
  split <;> split <;> rfl

theorem flowType_applyLink (flow : CommonFlow) (sliced : LaxSlicedPacket) :
    (applyLink flow sliced).flowType = flow.flowType := by
  unfold applyLink
  dsimp only
  split <;> split <;> rfl

theorem flowType_applyEthernetFrame (flow : CommonFlow) (frame : List UInt8) :
    (applyEthernetFrame etherparse flow frame).flowType = flow.flowType := by
  unfold applyEthernetFrame
  cases etherparse.fromEthernet frame with
  | none => rfl
  | some sliced => exact (flowType_applyNetTransport etherparse _ _).trans (flowType_applyLink _ _)

theorem flowType_applyIpPacket (flow : CommonFlow) (packet : List UInt8) :
    (applyIpPacket etherparse flow packet).flowType = flow.flowType := by
  unfold applyIpPacket
  cases etherparse.fromIp packet with
  | none => rfl
  | some sliced => exact (flowType_applyNetTransport etherparse _ _).trans (flowType_applyLink _ _)

theorem flowType_foldl {A : Type} {step : CommonFlow → A → CommonFlow}
    (keeps : ∀ flow a, (step flow a).flowType = flow.flowType) (as : List A) (flow : CommonFlow) :
    (as.foldl step flow).flowType = flow.flowType := by
  induction as generalizing flow with
  | nil => rfl
  | cons a as ih => exact (ih _).trans (keeps flow a)

theorem flowType_applyFlowRecord (flow : CommonFlow) (record : SflowV5.FlowRecordType) :
    (SflowV5.applyFlowRecord etherparse flow record).flowType = flow.flowType := by
  unfold SflowV5.applyFlowRecord
  split
  case h_1 header =>
    unfold SflowV5.applySampledHeader
    dsimp only
    split
    · exact flowType_applyEthernetFrame etherparse _ _
    · exact flowType_applyIpPacket etherparse _ _
    · exact flowType_applyIpPacket etherparse _ _
    · rfl
  all_goals rfl

theorem flowType_convertFlowSample (ctx : SflowV5.SFlowV5Context) (sample : SflowV5.FlowSample) :
    (ctx.convertFlowSample etherparse sample).flowType = .sflowV5 :=
  flowType_foldl (fun flow (record : SflowV5.FlowRecord) =>
    flowType_applyFlowRecord etherparse flow record.data) _ _

theorem flowType_convertExpandedFlowSample (ctx : SflowV5.SFlowV5Context)
    (sample : SflowV5.ExpandedFlowSample) :
    (ctx.convertExpandedFlowSample etherparse sample).flowType = .sflowV5 :=
  flowType_foldl (fun flow (record : SflowV5.FlowRecord) =>
    flowType_applyFlowRecord etherparse flow record.data) _ _

theorem flowType_convertIpfix (ctx : Ipfix.IpfixContext) (record : Ipfix.DataRecord)
    (templateId : UInt16) :
    (ctx.convert etherparse record templateId).flowType = .ipfix := by
  have packet : (ctx.packetFlow etherparse record templateId).flowType = .ipfix := by
    unfold Ipfix.IpfixContext.packetFlow
    dsimp only
    split
    · exact flowType_applyEthernetFrame etherparse _ _
    · exact flowType_applyIpPacket etherparse _ _
    · rfl
  have draft := congrArg Prod.fst (ctx.envelope_draft etherparse record templateId)
  show (ctx.finish (Ipfix.packetSection record)
    (ctx.draftOf etherparse record templateId)).flowType = _
  cases Ipfix.packetSection record <;> exact draft.trans packet

end

theorem flowType_setFieldV9 (ctx : NetflowV9.NetFlowV9Context) (flow : CommonFlow)
    (ie : InformationElement) (value : NetflowV9.FieldValue) :
    (ctx.setField flow ie value).flowType = flow.flowType := by
  cases ie with
  | sourceIpv4Address | destinationIpv4Address | ipNextHopIpv4Address | bgpNextHopIpv4Address =>
    unfold NetflowV9.NetFlowV9Context.setField
    cases NetflowV9.extractIpv4 value <;> rfl
  | sourceIpv6Address | destinationIpv6Address | ipNextHopIpv6Address | bgpNextHopIpv6Address =>
    unfold NetflowV9.NetFlowV9Context.setField
    cases NetflowV9.extractIpv6 value <;> rfl
  | sourceMacAddress | postSourceMacAddress | destinationMacAddress | postDestinationMacAddress =>
    unfold NetflowV9.NetFlowV9Context.setField
    cases NetflowV9.extractMac value <;> rfl
  | icmpTypeCodeIpv4 | icmpTypeCodeIpv6 =>
    unfold NetflowV9.NetFlowV9Context.setField
    cases NetflowV9.extractU16 value <;> rfl
  | _ => rfl

theorem flowType_convertV9 (ctx : NetflowV9.NetFlowV9Context) (record : NetflowV9.DataRecord)
    (templateId : UInt16) :
    (ctx.convert record templateId).flowType = .netflowV9 := by
  refine List.foldlRecOn (motive := fun draft : NetflowV9.Draft => draft.flow.flowType = .netflowV9)
    record.iter _ rfl ?_
  rintro draft same ⟨field, _, value⟩ _
  show (ctx.readField draft field value).flow.flowType = _
  unfold NetflowV9.NetFlowV9Context.readField
  cases InformationElement.fromId field.type with
  | none => exact same
  | some ie =>
    have set := (flowType_setFieldV9 ctx draft.flow ie value).trans same
    cases ie <;> exact set

/-! ### The laws -/

/-- What is made of some of the items counts as many as these are. -/
theorem length_filterMap_eq_filter {A B : Type} {made : A → Option B} {test : A → Bool}
    (same : ∀ a, (made a).isSome = test a) (as : List A) :
    (as.filterMap made).length = (as.filter test).length := by
  rw [List.length_filterMap_eq_countP, ← List.countP_eq_length_filter]
  exact List.countP_congr fun a _ => by rw [same]

theorem netflow_lawful (etherparse : Etherparse) : (netflow etherparse).Lawful where
  version := by
    intro order self datagram packet parsed
    have parsed : (self.parse order datagram).2 = some packet := parsed
    show NetflowProcessor.versionOf datagram.payload = some packet.version
    unfold NetflowProcessor.parse at parsed
    unfold NetflowProcessor.versionOf
    cases named : version datagram.payload with
    | none =>
      rw [named] at parsed
      cases parsed
    | some version =>
      rw [named] at parsed
      dsimp only at parsed
      rw [Option.bind_eq_bind, Option.bind_some]
      split at parsed
      · next v5 =>
        obtain ⟨_, _, rfl⟩ := Option.map_eq_some_iff.mp parsed
        rw [if_pos v5]
        rfl
      · next other =>
        rw [if_neg other]
        split at parsed
        · next v9 =>
          obtain ⟨_, _, rfl⟩ := Option.map_eq_some_iff.mp parsed
          rw [if_pos v9]
          rfl
        · next other =>
          rw [if_neg other]
          split at parsed
          · next ipfix =>
            obtain ⟨_, _, rfl⟩ := Option.map_eq_some_iff.mp parsed
            rw [if_pos ipfix]
            rfl
          · cases parsed
  flowCount := by
    intro self src packet timeReceivedNs
    show (packet.flows etherparse (self.domain src packet) src timeReceivedNs).length =
      packet.flowCount
    cases packet with
    | v5 packet => exact List.length_map _
    | v9 packet =>
      unfold NetflowPacket.flows NetflowPacket.flowCount
      dsimp only
      rw [List.filter_flatMap, List.length_flatMap, List.length_flatMap]
      congr 1
      refine List.map_congr_left fun set _ => length_filterMap_eq_filter (fun record => ?_) _
      cases record <;> rfl
    | ipfix packet =>
      unfold NetflowPacket.flows NetflowPacket.flowCount
      dsimp only
      rw [List.filter_flatMap, List.length_flatMap, List.length_flatMap]
      congr 1
      refine List.map_congr_left fun set _ => length_filterMap_eq_filter (fun record => ?_) _
      cases record <;> rfl
  flows := by
    intro self src packet timeReceivedNs flow mem
    have mem : flow ∈ packet.flows etherparse (self.domain src packet) src timeReceivedNs := mem
    cases packet with
    | v5 packet =>
      obtain ⟨record, _, rfl⟩ := List.mem_map.mp mem
      exact ⟨rfl, rfl⟩
    | v9 packet =>
      obtain ⟨set, _, mem⟩ := List.mem_flatMap.mp mem
      obtain ⟨record, _, made⟩ := List.mem_filterMap.mp mem
      cases record with
      | data record =>
        obtain rfl := Option.some.inj made
        exact ⟨flowType_convertV9 _ record set.id, rfl⟩
      | _ => cases made
    | ipfix packet =>
      obtain ⟨set, _, mem⟩ := List.mem_flatMap.mp mem
      obtain ⟨record, _, made⟩ := List.mem_filterMap.mp mem
      cases record with
      | data record =>
        obtain rfl := Option.some.inj made
        exact ⟨flowType_convertIpfix etherparse _ record set.id, rfl⟩
      | _ => cases made

theorem sflow_lawful (etherparse : Etherparse) : (sflow etherparse).Lawful where
  version := by
    intro _ _ datagram packet parsed
    have parsed : SflowProcessor.parse datagram.payload = some packet := parsed
    show SflowProcessor.versionOf datagram.payload = some packet.version
    unfold SflowProcessor.parse at parsed
    unfold SflowProcessor.versionOf
    cases named : SflowProcessor.version datagram.payload with
    | none =>
      rw [named] at parsed
      cases parsed
    | some version =>
      rw [named] at parsed
      rw [Option.bind_eq_bind, Option.bind_some] at parsed ⊢
      split at parsed
      · cases parsed
      · next known =>
        rw [if_pos (not_not.mp known)]
        cases packet
        rfl
  flowCount := by
    rintro _ _ ⟨packet⟩ timeReceivedNs
    refine length_filterMap_eq_filter (fun sample => ?_) _
    cases sample <;> rfl
  flows := by
    rintro _ _ ⟨packet⟩ timeReceivedNs flow mem
    obtain ⟨sample, _, made⟩ := List.mem_filterMap.mp mem
    cases sample with
    | flow sample =>
      obtain rfl := Option.some.inj made
      exact ⟨flowType_convertFlowSample etherparse _ sample, rfl⟩
    | expandedFlow sample =>
      obtain rfl := Option.some.inj made
      exact ⟨flowType_convertExpandedFlowSample etherparse _ sample, rfl⟩
    | _ => cases made

/-- Both families of protocols are lawful, whatever their exporters have said before. -/
theorem processors_lawful (etherparse : Etherparse) :
    (netflow etherparse).Lawful ∧ (sflow etherparse).Lawful :=
  ⟨netflow_lawful etherparse, sflow_lawful etherparse⟩

end Rustflow
