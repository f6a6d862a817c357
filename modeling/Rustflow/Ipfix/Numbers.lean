import Rustflow.Common.PacketNumbers
import Rustflow.Ipfix.Convert
import Rustflow.Ipfix.ElementTypes

/-!
# The numbers of an IPFIX record

Of each numeric field the number that the record states last, or else the packet it carries, and
that the flow has it whole.
-/

namespace Rustflow.Ipfix
open NumericField

abbrev Entry : Type := FieldSpecifier × String × FieldValue

theorem extractU64_toNat (value : FieldValue) :
    (extractU64 value).map UInt64.toNat = unsigned value := by
  cases value <;> rfl

/-- The number of a value, where it fits in 32 bits. -/
def rated (value : FieldValue) : Option Nat := (unsigned value).bind (keep .samplingRate)

theorem extractU32_toNat (value : FieldValue) :
    (extractU32 value).map UInt32.toNat = rated value := by
  rw [rated, ← extractU64_toNat]
  exact number_put_self (CommonFlow.new .ipfix) .samplingRate (extractU64 value)

def etypeOf (ie : InformationElement) (value : FieldValue) : Option Nat :=
  match ie with
  | .sourceIpv4Address => (extractIpv4 value).map fun _ => 0x0800
  | .sourceIpv6Address => (extractIpv6 value).map fun _ => 0x86dd
  | _ => none

def states (entry : Entry) (f : NumericField) : Option (Option Nat) :=
  (ianaElement entry.1).bind fun ie => ie.states (unsigned entry.2.2) (etypeOf ie entry.2.2) f

/-! ### Sampling -/

def lastValue (read : FieldValue → Option Nat) (ie : InformationElement) (entries : List Entry) :
    Option Nat :=
  (entries.filterMap fun entry => if ianaElement entry.1 = some ie then some (read entry.2.2)
    else none).getLast?.join

def rateOf (entry : Entry) : Option Nat :=
  if ianaElement entry.1 = some .samplingInterval ∨
    ianaElement entry.1 = some .samplerRandomInterval then rated entry.2.2
  else none

/-- The rate itself, or the quotient of a whole 1-in-N, or an interval on its own. -/
def wholeRate (rate interval space : Option Nat) : Option Nat :=
  match rate with
  | some rate => some rate
  | none =>
    match interval, space with
    | some interval, some space =>
      if 0 < interval then
        if (interval + space) % interval = 0 then some ((interval + space) / interval) else none
      else some interval
    | interval, _ => interval

def statedRate (entries : List Entry) : Option Nat :=
  wholeRate (entries.findSome? rateOf) (lastValue rated .samplingPacketInterval entries)
    (lastValue rated .samplingPacketSpace entries)

theorem last_value {σ : Type} (r : σ → Option Nat) (read : FieldValue → Option Nat)
    (ie : InformationElement) {step : σ → Entry → σ}
    (writes : ∀ s entry, r (step s entry) = if ianaElement entry.1 = some ie then
      read entry.2.2 else r s)
    (entries : List Entry) {s : σ} (blank : r s = none) :
    r (entries.foldl step s) = lastValue read ie entries := by
  have written : ∀ s entry (_ : Unit), r (step s entry) =
      (if ianaElement entry.1 = some ie then some (read entry.2.2) else none).getD (r s) := by
    intro s entry _
    rw [writes]
    split <;> rfl
  have last := Writes.foldl_last (r := fun s (_ : Unit) => r s) written entries s ()
  rw [blank] at last
  rw [lastValue, last]
  cases (entries.filterMap fun entry => if ianaElement entry.1 = some ie then some (read entry.2.2)
    else none).getLast? <;> rfl

theorem oneInN_toNat (sampling : SamplingFields) :
    sampling.oneInN.map UInt32.toNat =
      (wholeRate (sampling.rate.map UInt32.toNat) (sampling.packetInterval.map UInt32.toNat)
        (sampling.packetSpace.map UInt32.toNat)).bind (keep .samplingRate) := by
  obtain ⟨rate, interval, space⟩ := sampling
  have whole : ∀ v : UInt32, keep .samplingRate v.toNat = some v.toNat := fun v =>
    keep_map (f := .samplingRate) rfl UInt32.toNat_lt (some v)
  rcases rate with _ | rate
  case some => exact (whole rate).symm
  rcases interval with _ | interval
  case none => rcases space <;> rfl
  rcases space with _ | space
  case none => exact (whole interval).symm
  have short := interval.toNat_lt
  have short' := space.toNat_lt
  have positive : 0 < interval ↔ 0 < interval.toNat := UInt32.lt_iff_toNat_lt
  simp only [SamplingFields.oneInN, wholeRate, Option.map_some, positive]
  split
  · split
    · have quotient : (interval.toNat + space.toNat) / interval.toNat ≤ interval.toNat +
          space.toNat := Nat.div_le_self _ _
      have fits := number_put_self (CommonFlow.new .ipfix) .samplingRate
        (some (UInt64.ofNat ((interval.toNat + space.toNat) / interval.toNat)))
      rw [Option.map_some, UInt64.toNat_ofNat_of_lt' (by show _ < 2 ^ 64; omega)] at fits
      exact fits
    · rfl
  · exact (whole interval).symm

def observeEntry (sampling : SamplingFields) (entry : Entry) : SamplingFields :=
  (ianaElement entry.1).elim sampling fun ie => sampling.observe ie entry.2.2

theorem observe_rate (sampling : SamplingFields) (entry : Entry) :
    (observeEntry sampling entry).rate.map UInt32.toNat =
      (sampling.rate.map UInt32.toNat).or (rateOf entry) := by
  have stated : ∀ value, (sampling.rate.or (extractU32 value)).map UInt32.toNat =
      (sampling.rate.map UInt32.toNat).or (rated value) := by
    intro value
    rw [Option.map_or, extractU32_toNat]
  unfold observeEntry rateOf
  cases ianaElement entry.1 with
  | none => exact Option.or_none.symm
  | some ie =>
    cases ie with
    | samplingInterval | samplerRandomInterval => exact stated entry.2.2
    | _ => exact Option.or_none.symm

theorem observe_packetInterval (sampling : SamplingFields) (entry : Entry) :
    (observeEntry sampling entry).packetInterval.map UInt32.toNat =
      if ianaElement entry.1 = some .samplingPacketInterval then rated entry.2.2
      else sampling.packetInterval.map UInt32.toNat := by
  unfold observeEntry
  cases ianaElement entry.1 with
  | none => rfl
  | some ie =>
    cases ie with
    | samplingPacketInterval => exact extractU32_toNat entry.2.2
    | _ => rfl

theorem observe_packetSpace (sampling : SamplingFields) (entry : Entry) :
    (observeEntry sampling entry).packetSpace.map UInt32.toNat =
      if ianaElement entry.1 = some .samplingPacketSpace then rated entry.2.2
      else sampling.packetSpace.map UInt32.toNat := by
  unfold observeEntry
  cases ianaElement entry.1 with
  | none => rfl
  | some ie =>
    cases ie with
    | samplingPacketSpace => exact extractU32_toNat entry.2.2
    | _ => rfl

theorem sampling_entries {σ : Type} (sampling : σ → SamplingFields) {step : σ → Entry → σ}
    (observes : ∀ s entry, sampling (step s entry) = observeEntry (sampling s) entry)
    (entries : List Entry) {s : σ} (blank : sampling s = {}) :
    (sampling (entries.foldl step s)).oneInN.map UInt32.toNat =
      (statedRate entries).bind (keep .samplingRate) := by
  have rate := Writes.foldl_first (r := fun s => (sampling s).rate.map UInt32.toNat) (w := rateOf)
    (fun s entry => by rw [observes, observe_rate]) entries s
  have interval :=
    last_value (fun s => (sampling s).packetInterval.map UInt32.toNat) rated .samplingPacketInterval
    (fun s entry => by rw [observes, observe_packetInterval]) entries (s := s) (by rw [blank]; rfl)
  have space :=
    last_value (fun s => (sampling s).packetSpace.map UInt32.toNat) rated .samplingPacketSpace
    (fun s entry => by rw [observes, observe_packetSpace]) entries (s := s) (by rw [blank]; rfl)
  rw [blank, Option.map_none, Option.none_or] at rate
  rw [oneInN_toNat, rate, interval, space, statedRate]

/-! ### Flows -/

namespace IpfixContext

theorem setField_put (self : IpfixContext) (flow : CommonFlow) {ie : InformationElement}
    {g : NumericField} (numeric : ie.numericField = some g) (value : FieldValue) :
    self.setField flow ie value = flow.put g (extractU64 value) := by
  cases ie <;> first | (obtain rfl := Option.some.inj numeric; rfl) | nomatch numeric

theorem number_setField (self : IpfixContext) (flow : CommonFlow) (ie : InformationElement)
    (value : FieldValue) (f : NumericField) :
    (self.setField flow ie value).number f =
      ((ie.states (unsigned value) (etypeOf ie value) f).map fun n => n.bind f.keep).getD
        (flow.number f) := by
  cases numeric : ie.numericField with
  | some g =>
    rw [setField_put self flow numeric]
    exact InformationElement.number_put numeric flow (extractU64_toNat value) _ f
  | none =>
    unfold InformationElement.states
    rw [numeric]
    cases ie with
    | sourceIpv4Address | destinationIpv4Address | ipNextHopIpv4Address | bgpNextHopIpv4Address =>
      unfold setField etypeOf
      cases extractIpv4 value <;> cases f <;> rfl
    | sourceIpv6Address | destinationIpv6Address | ipNextHopIpv6Address | bgpNextHopIpv6Address =>
      unfold setField etypeOf
      cases extractIpv6 value <;> cases f <;> rfl
    | sourceMacAddress | postSourceMacAddress | destinationMacAddress | postDestinationMacAddress =>
      unfold setField etypeOf
      cases extractMac value <;> cases f <;> rfl
    | icmpTypeCodeIpv4 | icmpTypeCodeIpv6 =>
      unfold setField etypeOf
      cases extractU16 value <;> cases f <;> rfl
    | _ => first | exact absurd numeric (by decide) | (cases f <;> rfl)

theorem number_readField (self : IpfixContext) (draft : Draft) (entry : Entry) (f : NumericField) :
    (self.readField draft entry.1 entry.2.2).flow.number f =
      ((states entry f).map fun n => n.bind f.keep).getD (draft.flow.number f) := by
  unfold readField states
  cases ianaElement entry.1 with
  | none => rfl
  | some ie =>
    have set := number_setField self draft.flow ie entry.2.2 f
    cases ie <;> exact set

theorem frameSize_readField (self : IpfixContext) (draft : Draft) (entry : Entry) :
    (self.readField draft entry.1 entry.2.2).frameSize.map UInt64.toNat =
      if ianaElement entry.1 = some .dataLinkFrameSize then unsigned entry.2.2
      else draft.frameSize.map UInt64.toNat := by
  unfold readField
  cases ianaElement entry.1 with
  | none => rfl
  | some ie =>
    cases ie with
    | dataLinkFrameSize => exact extractU64_toNat entry.2.2
    | _ => rfl

theorem sampling_readField (self : IpfixContext) (draft : Draft) (entry : Entry) :
    (self.readField draft entry.1 entry.2.2).sampling = observeEntry draft.sampling entry := by
  unfold readField observeEntry
  cases ianaElement entry.1 with
  | none => rfl
  | some ie => cases ie <;> rfl

end IpfixContext

/-! ### A record -/

section
variable (etherparse : Etherparse)

def sectionNumber : Option PacketSection → NumericField → Option Nat
  | some (.frame content), f => frameNumber etherparse content f
  | some (.ip content), f => packetNumber etherparse content f
  | none, _ => none

/-- The number a record states of a field, itself or by the packet it carries. -/
def stated (record : DataRecord) (f : NumericField) : Option Nat :=
  (lastStated states record.iter f).getD (sectionNumber etherparse (packetSection record) f)

namespace IpfixContext

/-- The wire value that a field is filled from. Without a count of its own a record with a packet
counts that packet: it has the stated size, or else as many bytes as are there, and it is one. -/
def wire (self : IpfixContext) (record : DataRecord) : NumericField → Option Nat
  | .samplingRate =>
    ((statedRate record.iter).bind (keep .samplingRate)).or (self.samplingRate.map UInt32.toNat)
  | .bytes => ((stated etherparse record .bytes).bind (keep .bytes)).or <|
      (packetSection record).map fun packet =>
    (lastValue unsigned .dataLinkFrameSize record.iter).getD (UInt64.ofNat packet.len).toNat
  | .packets => ((stated etherparse record .packets).bind (keep .packets)).or <|
      (packetSection record).map fun _ => 1
  | f => stated etherparse record f

def packetFlow (self : IpfixContext) (record : DataRecord) (templateId : UInt16) : CommonFlow :=
  let flow := { CommonFlow.new .ipfix with
    sequenceNum := self.header.sequenceNumber
    samplerAddress := self.samplerAddress
    observationDomainId := some self.header.observationDomainId
    templateId := some templateId }
  match packetSection record with
  | some (.frame content) => applyEthernetFrame etherparse flow content
  | some (.ip content) => applyIpPacket etherparse flow content
  | none => flow

def draftOf (self : IpfixContext) (record : DataRecord) (templateId : UInt16) : Draft :=
  record.iter.foldl (fun draft entry => self.readField draft entry.1 entry.2.2)
    { flow := self.packetFlow etherparse record templateId }

/-- What `convert` adds to the entries in the end: the rate, and the packet where nothing is
counted. -/
def finish (self : IpfixContext) (packet : Option PacketSection) (draft : Draft) : CommonFlow :=
  let flow := { draft.flow with samplingRate := draft.sampling.oneInN.or self.samplingRate }
  match packet with
  | none => flow
  | some packet =>
    { flow with
      bytes := if flow.bytes = 0 then draft.frameSize.getD (UInt64.ofNat packet.len) else flow.bytes
      packets := if flow.packets = 0 then 1 else flow.packets }

theorem convert_eq (self : IpfixContext) (record : DataRecord) (templateId : UInt16) :
    self.convert etherparse record templateId =
      self.finish (packetSection record) (self.draftOf etherparse record templateId) := rfl

variable {etherparse}

theorem number_packetFlow (promised : etherparse.InRange) (self : IpfixContext)
    (record : DataRecord) (templateId : UInt16) :
    (self.packetFlow etherparse record templateId).number =
      sectionNumber etherparse (packetSection record) := by
  unfold packetFlow
  funext f
  rcases packetSection record with _ | content | content
  · cases f <;> rfl
  · dsimp only
    rw [number_applyEthernetFrame promised, overlay_blank]
    · rfl
    · intro f
      cases f <;> rfl
  · dsimp only
    rw [number_applyIpPacket promised, overlay_blank]
    · rfl
    · intro f
      cases f <;> rfl

theorem keep_sectionNumber (promised : etherparse.InRange) (packet : Option PacketSection)
    (f : NumericField) :
    (sectionNumber etherparse packet f).bind f.keep = sectionNumber etherparse packet f := by
  rcases packet with _ | content | content
  · rfl
  · exact keep_frameNumber promised content f
  · exact keep_packetNumber promised content f

theorem number_draftOf (promised : etherparse.InRange) (self : IpfixContext) (record : DataRecord)
    (templateId : UInt16) (f : NumericField) :
    (self.draftOf etherparse record templateId).flow.number f =
      (stated etherparse record f).bind f.keep := by
  unfold draftOf
  rw [number_entries Draft.flow self.number_readField, number_packetFlow promised, stated]
  cases lastStated states record.iter f with
  | none => exact (keep_sectionNumber promised _ f).symm
  | some n => rfl

theorem sampling_draftOf (self : IpfixContext) (record : DataRecord) (templateId : UInt16) :
    (self.draftOf etherparse record templateId).sampling.oneInN.map UInt32.toNat =
      (statedRate record.iter).bind (keep .samplingRate) :=
  sampling_entries Draft.sampling self.sampling_readField record.iter rfl

theorem frameSize_draftOf (self : IpfixContext) (record : DataRecord) (templateId : UInt16) :
    (self.draftOf etherparse record templateId).frameSize.map UInt64.toNat =
      lastValue unsigned .dataLinkFrameSize record.iter :=
  last_value (fun draft : Draft => draft.frameSize.map UInt64.toNat) unsigned .dataLinkFrameSize
    self.frameSize_readField
    record.iter rfl

theorem number_convert (promised : etherparse.InRange) (self : IpfixContext) (record : DataRecord)
    (templateId : UInt16) (f : NumericField) :
    (self.convert etherparse record templateId).number f =
      (self.wire etherparse record f).bind f.keep := by
  have drafted := self.number_draftOf promised record templateId f
  have size : (self.draftOf etherparse record templateId).frameSize.map UInt64.toNat = _ :=
    self.frameSize_draftOf record templateId
  have rate : (self.draftOf etherparse record templateId).sampling.oneInN.map UInt32.toNat = _ :=
    self.sampling_draftOf record templateId
  rw [convert_eq]
  unfold finish
  generalize self.draftOf etherparse record templateId = draft at *
  cases f with
  | samplingRate =>
    have filled : (draft.sampling.oneInN.or self.samplingRate).map UInt32.toNat =
        self.wire etherparse record .samplingRate := by
      rw [Option.map_or, rate]
      rfl
    rw [← filled, keep_map rfl UInt32.toNat_lt]
    cases packetSection record <;> rfl
  | bytes =>
    cases carried : packetSection record with
    | none =>
      simp only [wire, carried, Option.map_none, Option.or_none, keep_bind_keep]
      exact drafted
    | some packet =>
      simp only [wire, carried, Option.map_some, keep_or]
      show counted (if draft.flow.bytes = 0 then _ else _) = _
      rw [counted_ite, show counted draft.flow.bytes = _ from drafted, ← size,
        ← keep_counted (f := .bytes) rfl rfl]
      cases draft.frameSize <;> rfl
  | packets =>
    cases carried : packetSection record with
    | none =>
      simp only [wire, carried, Option.map_none, Option.or_none, keep_bind_keep]
      exact drafted
    | some packet =>
      simp only [wire, carried, Option.map_some, keep_or]
      show counted (if draft.flow.packets = 0 then _ else _) = _
      rw [counted_ite, show counted draft.flow.packets = _ from drafted]
      rfl
  | _ => cases packetSection record <;> exact drafted

end IpfixContext

end

end Rustflow.Ipfix
