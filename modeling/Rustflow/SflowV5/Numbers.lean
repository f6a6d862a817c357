import Rustflow.Common.PacketNumbers
import Rustflow.SflowV5.Convert

/-!
# The numbers of an sFlow sample

The records of a sample applied to numbers of any width: of each numeric field the wire value it is
filled from last. The flow shows these values, cut where a record's number is put in by a cast.
-/

namespace Rustflow.SflowV5
open NumericField

/-! ### On the wire -/

section
variable (etherparse : Etherparse)

def SampledHeader.wire (header : SampledHeader) (known : NumericField → Option Nat) : NumericField →
    Option Nat :=
  let known
    | .bytes => some header.frameLength.toNat
    | .packets => some 1
    | f => known f
  match header.protocol with
  | .ethernetIso8023 => overlay (frameNumber etherparse header.header) known
  | .ipv4 =>
    overlay (packetNumber etherparse header.header) (Function.update known .etype (some 0x0800))
  | .ipv6 =>
    overlay (packetNumber etherparse header.header) (Function.update known .etype (some 0x86dd))
  | _ => known

def FlowRecordType.wire (record : FlowRecordType) (known : NumericField → Option Nat) :
    NumericField → Option Nat :=
  match record with
  | .sampledHeader header => header.wire etherparse known
  | .sampledEthernet ethernet => fun
    | .etype => some ethernet.type.toNat
    | .bytes => some ethernet.length.toNat
    | .packets => some 1
    | f => known f
  | .sampledIpv4 ipv4 => fun
    | .etype => some 0x0800
    | .proto => some ipv4.protocol.toNat
    | .srcPort => some ipv4.srcPort.toNat
    | .dstPort => some ipv4.dstPort.toNat
    | .tcpFlags => some ipv4.tcpFlags.toNat
    | .ipTos => some ipv4.tos.toNat
    | .bytes => some ipv4.length.toNat
    | .packets => some 1
    | f => known f
  | .sampledIpv6 ipv6 => fun
    | .etype => some 0x86dd
    | .proto => some ipv6.protocol.toNat
    | .srcPort => some ipv6.srcPort.toNat
    | .dstPort => some ipv6.dstPort.toNat
    | .tcpFlags => some ipv6.tcpFlags.toNat
    | .bytes => some ipv6.length.toNat
    | .packets => some 1
    | f => known f
  | .extendedRouter router => fun
    | .srcNet => some router.srcMask.toNat
    | .dstNet => some router.dstMask.toNat
    | f => known f
  | .extendedSwitch switch => fun
    | .srcVlan => some switch.srcVlan.toNat
    | .dstVlan => some switch.dstVlan.toNat
    | f => known f
  | .extendedGateway gateway => fun
    | .srcAs => some gateway.srcAs.toNat
    | .dstAs => gateway.lastAs.map UInt32.toNat
    | f => known f
  | _ => known

def wireOfRecords (known : NumericField → Option Nat) (records : List FlowRecord) : NumericField →
    Option Nat :=
  records.foldl (fun known record => record.data.wire etherparse known) known

/-- The interface that the field of a compact sample names: all of the field, its format with it. -/
def compactInterface (field : UInt32) : Option Nat :=
  if 0 < field.toNat ∧ field.toNat < INTERNAL_INTERFACE.toNat then some field.toNat else none

def FlowSample.wire (sample : FlowSample) : NumericField → Option Nat :=
  let known
    | .samplingRate => some sample.samplingRate.toNat
    | .inIf => compactInterface sample.input
    | .outIf => compactInterface sample.output
    | _ => none
  wireOfRecords etherparse known sample.records

def ExpandedFlowSample.wire (sample : ExpandedFlowSample) : NumericField → Option Nat :=
  let known
    | .samplingRate => some sample.samplingRate.toNat
    | .inIf => (ifIndex sample.inputIfFormat sample.inputIfValue).map UInt32.toNat
    | .outIf => (ifIndex sample.outputIfFormat sample.outputIfValue).map UInt32.toNat
    | _ => none
  wireOfRecords etherparse known sample.records

end

/-! ### What is left of them -/

/-- The fields that records put their numbers into by a cast. -/
def isCast : NumericField → Bool
  | .etype | .proto | .srcPort | .dstPort | .tcpFlags | .ipTos | .srcNet | .dstNet => true
  | _ => false

/-- What a field shows of the number it is filled from. -/
def shown (f : NumericField) (n : Nat) : Option Nat := if isCast f then some (n % 2 ^ f.bits)
  else f.keep n

def Shows (flow : CommonFlow) (wire : NumericField → Option Nat) : Prop :=
  ∀ f, flow.number f = (wire f).bind (shown f)

theorem shown_of_keep {f : NumericField} {n m : Nat} (kept : f.keep n = some m) :
    shown f n = some m := by
  obtain ⟨rfl, fits, _⟩ := keep_eq_some.mp kept
  unfold shown
  split
  · rw [Nat.mod_eq_of_lt fits]
  · exact kept

theorem shown_of_not_cast {f : NumericField} (whole : isCast f = false) : shown f = f.keep := by
  funext n
  simp [shown, whole]

theorem shown_u32 {f : NumericField} (whole : isCast f = false) (plain : f.isCounter = false)
    (wide : f.bits = 32) (x : Option UInt32) :
    x.map UInt32.toNat = (x.map UInt32.toNat).bind (shown f) := by
  rw [shown_of_not_cast whole]
  refine (keep_map plain ?_ x).symm
  intro v
  rw [wide]
  exact v.toNat_lt

theorem shown_counter {f : NumericField} (counter : f.isCounter) (whole : isCast f = false)
    (wide : f.bits = 64) (v : UInt32) : counted v.toUInt64 = shown f v.toNat := by
  rw [shown_of_not_cast whole, ← UInt32.toNat_toUInt64, keep_counted counter wide]

/-! ### One record -/

section
variable {etherparse : Etherparse} {flow : CommonFlow} {wire : NumericField → Option Nat}

theorem shows_sampledEthernet (ethernet : SampledEthernet) (shows : Shows flow wire) :
    Shows (applySampledEthernet flow ethernet)
      ((FlowRecordType.sampledEthernet ethernet).wire etherparse wire) := by
  intro f
  have before := shows f
  cases f with
  | bytes => exact shown_counter rfl rfl rfl ethernet.length
  | packets | etype => rfl
  | _ => exact before

theorem shows_sampledIpv4 (ipv4 : SampledIpv4) (shows : Shows flow wire) :
    Shows (applySampledIpv4 flow ipv4)
      ((FlowRecordType.sampledIpv4 ipv4).wire etherparse wire) := by
  intro f
  have before := shows f
  cases f with
  | bytes => exact shown_counter rfl rfl rfl ipv4.length
  | packets | etype | proto | srcPort | dstPort | tcpFlags | ipTos => rfl
  | _ => exact before

theorem shows_sampledIpv6 (ipv6 : SampledIpv6) (shows : Shows flow wire) :
    Shows (applySampledIpv6 flow ipv6)
      ((FlowRecordType.sampledIpv6 ipv6).wire etherparse wire) := by
  intro f
  have before := shows f
  cases f with
  | bytes => exact shown_counter rfl rfl rfl ipv6.length
  | packets | etype | proto | srcPort | dstPort | tcpFlags => rfl
  | _ => exact before

theorem shows_extendedRouter (router : ExtendedRouter) (shows : Shows flow wire) :
    Shows (applyExtendedRouter flow router)
      ((FlowRecordType.extendedRouter router).wire etherparse wire) := by
  intro f
  have before := shows f
  cases f with
  | srcNet | dstNet => rfl
  | _ => exact before

theorem shows_extendedSwitch (switch : ExtendedSwitch) (shows : Shows flow wire) :
    Shows (applyExtendedSwitch flow switch)
      ((FlowRecordType.extendedSwitch switch).wire etherparse wire) := by
  have vlan : ∀ (f : NumericField) (v : UInt32), (flow.put f (some v.toUInt64)).number f =
      f.keep v.toNat := by
    intro f v
    rw [number_put_self, Option.map_some, UInt32.toNat_toUInt64, Option.bind_some]
  intro f
  have before := shows f
  cases f with
  | srcVlan => exact vlan .srcVlan switch.srcVlan
  | dstVlan => exact vlan .dstVlan switch.dstVlan
  | _ => exact before

theorem shows_extendedGateway (gateway : ExtendedGateway) (shows : Shows flow wire) :
    Shows (applyExtendedGateway flow gateway)
      ((FlowRecordType.extendedGateway gateway).wire etherparse wire) := by
  intro f
  have before := shows f
  cases f with
  | srcAs => exact shown_u32 rfl rfl rfl (some gateway.srcAs)
  | dstAs => exact shown_u32 rfl rfl rfl gateway.lastAs
  | _ => exact before

/-- A packet's numbers all fit, so that they show as they are. -/
theorem shows_overlay {stated : NumericField → Option Nat} {after : CommonFlow}
    (taken : after.number = overlay stated flow.number)
    (fits : ∀ f, (stated f).bind f.keep = stated f) (shows : Shows flow wire) :
    Shows after (overlay stated wire) := by
  intro f
  rw [taken]
  by_cases vlan : f = .srcVlan
  · subst vlan
    rw [overlay, overlay, if_pos rfl, if_pos rfl, shows .srcVlan, shown_of_not_cast rfl,
      keep_bind_keep, keep_or, fits .srcVlan]
  · rw [overlay, overlay, if_neg vlan, if_neg vlan, shows f]
    cases said : stated f with
    | none => rfl
    | some n =>
      have kept := fits f
      rw [said] at kept
      exact (shown_of_keep kept).symm

theorem shows_etype (etype : UInt16) (shows : Shows flow wire) :
    Shows { flow with etype := some etype } (Function.update wire .etype (some etype.toNat)) := by
  intro f
  have before := shows f
  cases f with
  | etype => exact congrArg some (Nat.mod_eq_of_lt etype.toNat_lt).symm
  | _ => exact before

theorem shows_frame (promised : etherparse.InRange) (frame : List UInt8) (shows : Shows flow wire) :
    Shows (applyEthernetFrame etherparse flow frame)
      (overlay (frameNumber etherparse frame) wire) :=
  shows_overlay (number_applyEthernetFrame promised flow frame)
    (keep_frameNumber promised frame) shows

theorem shows_packet (promised : etherparse.InRange) (packet : List UInt8)
    (shows : Shows flow wire) :
    Shows (applyIpPacket etherparse flow packet) (overlay (packetNumber etherparse packet) wire) :=
  shows_overlay (number_applyIpPacket promised flow packet)
    (keep_packetNumber promised packet) shows

theorem shows_sampledHeader (promised : etherparse.InRange) (header : SampledHeader)
    (shows : Shows flow wire) :
    Shows (applySampledHeader etherparse flow header) (header.wire etherparse wire) := by
  have counted : Shows { flow with bytes := header.frameLength.toUInt64, packets := 1 } fun
      | .bytes => some header.frameLength.toNat
      | .packets => some 1
      | f => wire f := by
    intro f
    have before := shows f
    cases f with
    | bytes => exact shown_counter rfl rfl rfl header.frameLength
    | packets => rfl
    | _ => exact before
  unfold applySampledHeader SampledHeader.wire
  cases header.protocol with
  | ethernetIso8023 => exact shows_frame promised header.header counted
  | ipv4 => exact shows_packet promised header.header (shows_etype 0x0800 counted)
  | ipv6 => exact shows_packet promised header.header (shows_etype 0x86dd counted)
  | _ => exact counted

theorem shows_flowRecord (promised : etherparse.InRange) (record : FlowRecordType)
    (shows : Shows flow wire) :
    Shows (applyFlowRecord etherparse flow record) (record.wire etherparse wire) := by
  cases record with
  | sampledHeader header => exact shows_sampledHeader promised header shows
  | sampledEthernet ethernet => exact shows_sampledEthernet ethernet shows
  | sampledIpv4 ipv4 => exact shows_sampledIpv4 ipv4 shows
  | sampledIpv6 ipv6 => exact shows_sampledIpv6 ipv6 shows
  | extendedRouter router => exact shows_extendedRouter router shows
  | extendedSwitch switch => exact shows_extendedSwitch switch shows
  | extendedGateway gateway => exact shows_extendedGateway gateway shows
  | _ => exact shows

theorem shows_records (promised : etherparse.InRange) (records : List FlowRecord)
    (shows : Shows flow wire) :
    Shows (records.foldl (fun flow record => applyFlowRecord etherparse flow record.data) flow)
      (wireOfRecords etherparse wire records) := by
  induction records generalizing flow wire with
  | nil => exact shows
  | cons record records ih => exact ih (shows_flowRecord promised record.data shows)

end

/-! ### A sample -/

theorem compactIfIndex_toNat (field : UInt32) :
    (compactIfIndex field).map UInt32.toNat = compactInterface field := by
  have value : (field &&& INTERFACE_VALUE_MASK).toNat = field.toNat % 2 ^ 30 := by
    rw [UInt32.toNat_and]
    exact Nat.and_two_pow_sub_one_eq_mod field.toNat 30
  have format : (field >>> 30).toNat = field.toNat / 2 ^ 30 := by
    rw [UInt32.toNat_shiftRight]
    exact Nat.shiftRight_eq_div_pow field.toNat 30
  have internal : INTERNAL_INTERFACE.toNat = 2 ^ 30 - 1 := rfl
  have short := field.toNat_lt
  simp only [compactIfIndex, compactInterface, ifIndex, ← UInt32.toNat_inj, ne_eq, value,
    format, internal]
  by_cases named : 0 < field.toNat ∧ field.toNat < 2 ^ 30 - 1
  · have format0 : field.toNat / 2 ^ 30 = 0 := by omega
    have known : ¬field.toNat % 2 ^ 30 = 0 := by omega
    rw [if_pos named, if_neg (by omega), if_pos ⟨format0, known⟩, Option.map_some, value,
      Nat.mod_eq_of_lt (by omega)]
  · rw [if_neg named]
    split
    · rfl
    · rw [if_neg]
      · rfl
      · rintro ⟨low, high⟩
        change field.toNat / 2 ^ 30 = 0 at low
        change ¬field.toNat % 2 ^ 30 = 0 at high
        omega

section
variable {etherparse : Etherparse}

theorem shows_flowSample (promised : etherparse.InRange) (self : SFlowV5Context)
    (sample : FlowSample) :
    Shows (self.convertFlowSample etherparse sample) (sample.wire etherparse) := by
  apply shows_records promised
  intro f
  cases f with
  | samplingRate => exact shown_u32 rfl rfl rfl (some sample.samplingRate)
  | inIf => 
    show _ = (compactInterface _).bind _
    rw [← compactIfIndex_toNat]
    exact shown_u32 rfl rfl rfl (compactIfIndex sample.input)
  | outIf =>
    show _ = (compactInterface _).bind _
    rw [← compactIfIndex_toNat]
    exact shown_u32 rfl rfl rfl (compactIfIndex sample.output)
  | _ => rfl

theorem shows_expandedFlowSample (promised : etherparse.InRange) (self : SFlowV5Context)
    (sample : ExpandedFlowSample) :
    Shows (self.convertExpandedFlowSample etherparse sample) (sample.wire etherparse) := by
  apply shows_records promised
  intro f
  cases f with
  | samplingRate => exact shown_u32 rfl rfl rfl (some sample.samplingRate)
  | inIf => exact shown_u32 rfl rfl rfl (ifIndex sample.inputIfFormat sample.inputIfValue)
  | outIf => exact shown_u32 rfl rfl rfl (ifIndex sample.outputIfFormat sample.outputIfValue)
  | _ => rfl

end

/-- The numbers that are cast fit their fields. -/
def CastsFit (wire : NumericField → Option Nat) : Prop :=
  ∀ f, isCast f = true → ∀ n, wire f = some n → n < 2 ^ f.bits

theorem Shows.notCut_iff {flow : CommonFlow} {wire : NumericField → Option Nat}
    (shows : Shows flow wire) :
    flow.NotCut wire ↔ CastsFit wire := by
  constructor
  · intro whole f cast n filled
    have left : flow.number f = some (n % 2 ^ f.bits) := by
      rw [shows f, filled, Option.bind_some, shown, if_pos cast]
    have same := whole f _ left
    rw [filled, Option.some.injEq] at same
    rw [same]
    exact Nat.mod_lt n (Nat.two_pow_pos _)
  · intro fits f n left
    rw [shows f] at left
    obtain ⟨m, filled, shown⟩ := Option.bind_eq_some_iff.mp left
    cases cast : isCast f with
    | true =>
      rw [SflowV5.shown, if_pos cast, Nat.mod_eq_of_lt (fits f cast m filled)] at shown
      exact filled.trans shown
    | false =>
      rw [shown_of_not_cast cast] at shown
      exact (keep_eq_some.mp shown).1 ▸ filled

end Rustflow.SflowV5
