import Rustflow.Ipfix.Numbers
import Rustflow.NetflowV9.Numbers
import Rustflow.UptimeStamps

/-!
# NetFlow v9 and IPFIX give the same flow

The two converters read their records by matches of their own. On the elements that mean the same in
both, they make the same flow of the same values, but for its type.
-/

namespace Rustflow
open InformationElement

/-! ### Values -/

/-- The value as IPFIX has it: every kind of v9 value is one of IPFIX. -/
def NetflowV9.FieldValue.toIpfix : NetflowV9.FieldValue → Ipfix.FieldValue
  | .unsigned8 v => .unsigned8 v
  | .unsigned16 v => .unsigned16 v
  | .unsigned32 v => .unsigned32 v
  | .unsigned64 v => .unsigned64 v
  | .signed8 v => .signed8 v
  | .signed16 v => .signed16 v
  | .signed32 v => .signed32 v
  | .signed64 v => .signed64 v
  | .float32 bits => .float32 bits
  | .float64 bits => .float64 bits
  | .macAddress v => .macAddress v
  | .octetArray v => .octetArray v
  | .string v => .string v
  | .dateTimeSeconds v => .dateTimeSeconds v
  | .dateTimeMilliseconds v => .dateTimeMilliseconds v
  | .dateTimeMicroseconds v => .dateTimeMicroseconds v
  | .dateTimeNanoseconds v => .dateTimeNanoseconds v
  | .ipv4Address v => .ipv4Address v
  | .ipv6Address v => .ipv6Address v
  | .null => .null

namespace Ipfix
variable (value : NetflowV9.FieldValue)

theorem extractU64_toIpfix : extractU64 value.toIpfix = NetflowV9.extractU64 value := by
  cases value <;> rfl

theorem extractU8_toIpfix : extractU8 value.toIpfix = NetflowV9.extractU8 value := by
  rw [extractU8, extractU64_toIpfix, NetflowV9.extractU8]

theorem extractU16_toIpfix : extractU16 value.toIpfix = NetflowV9.extractU16 value := by
  rw [extractU16, extractU64_toIpfix, NetflowV9.extractU16]

theorem extractU32_toIpfix : extractU32 value.toIpfix = NetflowV9.extractU32 value := by
  rw [extractU32, extractU64_toIpfix, NetflowV9.extractU32]

theorem extractDatetimeNs_toIpfix :
    extractDatetimeNs value.toIpfix = NetflowV9.extractDatetimeNs value := by
  cases value <;> rfl

theorem extractIpv4_toIpfix : extractIpv4 value.toIpfix = NetflowV9.extractIpv4 value := by
  cases value <;> rfl

theorem extractIpv6_toIpfix : extractIpv6 value.toIpfix = NetflowV9.extractIpv6 value := by
  cases value <;> rfl

theorem extractMac_toIpfix : extractMac value.toIpfix = NetflowV9.extractMac value := by
  cases value <;> rfl

end Ipfix

/-! ### Records -/

/-- Elements that only the IPFIX converter treats, or treats otherwise. -/
def ipfixOnly : List InformationElement :=
  [.ipHeaderPacketSection, .dataLinkFrameSection, .dataLinkFrameSize, .flowStartDeltaMicroseconds,
    .flowEndDeltaMicroseconds, .samplingPacketInterval, .samplingPacketSpace]

/-- The same field of both protocols: an element of IANA, not one only IPFIX treats, and its
value. -/
structure SameField (v9 : NetflowV9.TemplateField × String × NetflowV9.FieldValue)
    (ipfix : Ipfix.FieldSpecifier × String × Ipfix.FieldValue) : Prop where
  iana : ipfix.1.enterpriseNumber = none
  id : ipfix.1.informationElementIdentifier = v9.1.type
  value : ipfix.2.2 = v9.2.2.toIpfix
  shared : ∀ ie ∈ ipfixOnly, v9.1.type ≠ ie.toId

/-- Contexts that carry the same. IPFIX has the boot time in place of the uptime. -/
structure SameContext (v9 : NetflowV9.NetFlowV9Context) (ipfix : Ipfix.IpfixContext) : Prop where
  exportTime : ipfix.header.exportTime = v9.header.unixSeconds
  sequenceNumber : ipfix.header.sequenceNumber = v9.header.sequenceNumber
  domain : ipfix.header.observationDomainId = v9.header.sourceId
  samplerAddress : ipfix.samplerAddress = v9.samplerAddress
  samplingRate : ipfix.samplingRate = v9.samplingRate
  boot : ipfix.systemInitTimeMs =
    some (v9.header.unixSeconds.timestampMillis - v9.header.systemUptime.toNat)

section
variable {v9 : NetflowV9.NetFlowV9Context} {ipfix : Ipfix.IpfixContext}
  (context : SameContext v9 ipfix)
include context

theorem SameContext.uptime (stamp : UInt32) :
    ipfix.uptimeToAbsoluteNs stamp = v9.uptimeToAbsoluteNs stamp := by
  refine uptimes_by_boot context.exportTime.symm context.boot ?_ stamp
  rw [context.exportTime, Int.sub_sub_self, asU32_toNat]

theorem setField_toIpfix (flow : CommonFlow) {ie : InformationElement} (shared : ie ∉ ipfixOnly)
    (value : NetflowV9.FieldValue) :
    ipfix.setField { flow with flowType := .ipfix } ie value.toIpfix =
      { v9.setField flow ie value with flowType := .ipfix } := by
  have stamps : ipfix.uptimeToAbsoluteNs = v9.uptimeToAbsoluteNs := funext context.uptime
  cases ie with
  | ipHeaderPacketSection | dataLinkFrameSection | dataLinkFrameSize | flowStartDeltaMicroseconds
  | flowEndDeltaMicroseconds | samplingPacketInterval | samplingPacketSpace =>
    exact absurd (by decide) shared
  | sourceIpv4Address | destinationIpv4Address | ipNextHopIpv4Address | bgpNextHopIpv4Address =>
    simp only [Ipfix.IpfixContext.setField, NetflowV9.NetFlowV9Context.setField,
      Ipfix.extractIpv4_toIpfix]
    cases NetflowV9.extractIpv4 value <;> rfl
  | sourceIpv6Address | destinationIpv6Address | ipNextHopIpv6Address | bgpNextHopIpv6Address =>
    simp only [Ipfix.IpfixContext.setField, NetflowV9.NetFlowV9Context.setField,
      Ipfix.extractIpv6_toIpfix]
    cases NetflowV9.extractIpv6 value <;> rfl
  | sourceMacAddress | postSourceMacAddress | destinationMacAddress | postDestinationMacAddress =>
    simp only [Ipfix.IpfixContext.setField, NetflowV9.NetFlowV9Context.setField,
      Ipfix.extractMac_toIpfix]
    cases NetflowV9.extractMac value <;> rfl
  | icmpTypeCodeIpv4 | icmpTypeCodeIpv6 =>
    simp only [Ipfix.IpfixContext.setField, NetflowV9.NetFlowV9Context.setField,
      Ipfix.extractU16_toIpfix]
    cases NetflowV9.extractU16 value <;> rfl
  | _ =>
    simp only [Ipfix.IpfixContext.setField, NetflowV9.NetFlowV9Context.setField,
      Ipfix.extractU64_toIpfix, Ipfix.extractU8_toIpfix, Ipfix.extractU16_toIpfix,
      Ipfix.extractU32_toIpfix, Ipfix.extractDatetimeNs_toIpfix, stamps]

omit context in
theorem oneInN_rate (rate : Option UInt32) : Ipfix.SamplingFields.oneInN { rate } = rate := by
  cases rate <;> rfl

/-- What the converters have made of the same fields. -/
structure SameDraft (draft : NetflowV9.Draft) (draft' : Ipfix.Draft) : Prop where
  flow : draft'.flow = { draft.flow with flowType := .ipfix }
  sampling : draft'.sampling = { rate := draft.recordRate }

theorem SameDraft.readField {draft : NetflowV9.Draft} {draft' : Ipfix.Draft}
    (same : SameDraft draft draft')
    {entry : NetflowV9.TemplateField × String × NetflowV9.FieldValue}
    {entry' : Ipfix.FieldSpecifier × String × Ipfix.FieldValue} (field : SameField entry entry') :
    SameDraft (v9.readField draft entry.1 entry.2.2)
      (ipfix.readField draft' entry'.1 entry'.2.2) := by
  have element : Ipfix.ianaElement entry'.1 = fromId entry.1.type := by
    rw [Ipfix.ianaElement, field.iana, field.id]
  unfold NetflowV9.NetFlowV9Context.readField Ipfix.IpfixContext.readField
  rw [element]
  cases found : fromId entry.1.type with
  | none => exact same
  | some ie =>
    have shared : ie ∉ ipfixOnly :=
      fun special => field.shared ie special (toId_of_fromId found).symm
    have set := setField_toIpfix context draft.flow shared entry.2.2
    rw [← same.flow, ← field.value] at set
    cases ie with
    | dataLinkFrameSize | samplingPacketInterval | samplingPacketSpace =>
      exact absurd (by decide) shared
    | samplingInterval | samplerRandomInterval =>
      refine ⟨same.flow, ?_⟩
      dsimp only
      rw [same.sampling, field.value]
      unfold Ipfix.SamplingFields.observe
      dsimp only
      rw [Ipfix.extractU32_toIpfix]
    | _ => exact ⟨set, same.sampling⟩

theorem SameDraft.fields {record : NetflowV9.DataRecord} {record' : Ipfix.DataRecord}
    (fields : List.Forall₂ SameField record.iter record'.iter) {draft : NetflowV9.Draft}
    {draft' : Ipfix.Draft} (same : SameDraft draft draft') :
    SameDraft (record.iter.foldl (fun draft entry => v9.readField draft entry.1 entry.2.2) draft)
      (record'.iter.foldl (fun draft entry => ipfix.readField draft entry.1 entry.2.2) draft') :=
  List.rel_foldl (R := SameField) (fun _ _ same _ _ field => same.readField context field)
    same fields

omit context in
theorem SameField.no_section {entry : NetflowV9.TemplateField × String × NetflowV9.FieldValue}
    {entry' : Ipfix.FieldSpecifier × String × Ipfix.FieldValue} (field : SameField entry entry')
    {ie : InformationElement} (special : ie ∈ ipfixOnly) :
    Ipfix.ianaElement entry'.1 ≠ some ie := by
  intro is
  rw [Ipfix.ianaElement, field.iana, field.id] at is
  exact field.shared ie special (toId_of_fromId is).symm

omit context in
theorem SameField.sectionOf {entry : NetflowV9.TemplateField × String × NetflowV9.FieldValue}
    {entry' : Ipfix.FieldSpecifier × String × Ipfix.FieldValue} (field : SameField entry entry') :
    Ipfix.sectionOf entry' = none := by
  unfold Ipfix.sectionOf
  split
  · next is => exact absurd is (field.no_section (by decide))
  · next is => exact absurd is (field.no_section (by decide))
  · rfl

omit context in
theorem packetSection_of_sameFields {record : NetflowV9.DataRecord} {record' : Ipfix.DataRecord}
    (fields : List.Forall₂ SameField record.iter record'.iter) :
    Ipfix.packetSection record' = none := by
  have none : record'.iter.filterMap Ipfix.sectionOf = [] := by
    generalize record.iter = entries at fields
    generalize record'.iter = entries' at fields
    induction fields with
    | nil => rfl
    | cons field _ ih => rw [List.filterMap_cons_none field.sectionOf, ih]
  rw [Ipfix.packetSection_eq, none]
  rfl

/-- The same fields in the same context make the same flow, but for its type. -/
theorem converters_agree (etherparse : Etherparse) (record : NetflowV9.DataRecord)
    (record' : Ipfix.DataRecord) (fields : List.Forall₂ SameField record.iter record'.iter)
    (templateId : UInt16) :
    ipfix.convert etherparse record' templateId =
      { v9.convert record templateId with flowType := .ipfix } := by
  have drafted :
      SameDraft (v9.draftOf record templateId) (ipfix.draftOf etherparse record' templateId) := by
    refine SameDraft.fields context fields ⟨?_, rfl⟩
    unfold Ipfix.IpfixContext.packetFlow
    rw [packetSection_of_sameFields fields, context.sequenceNumber, context.samplerAddress,
      context.domain]
    rfl
  rw [Ipfix.IpfixContext.convert_eq, packetSection_of_sameFields fields]
  show { (ipfix.draftOf etherparse record' templateId).flow with
      samplingRate :=
        (ipfix.draftOf etherparse record' templateId).sampling.oneInN.or ipfix.samplingRate } =
    { (v9.draftOf record templateId).flow with
      samplingRate :=
        (v9.draftOf record templateId).recordRate.or v9.samplingRate, flowType := .ipfix }
  rw [drafted.flow, drafted.sampling, context.samplingRate, oneInN_rate]

end

/-- Bytes and the start of a flow a second before the export, by both protocols. -/
theorem converters_agree_uptime :
    Ipfix.IpfixContext.convert ⟨fun _ => none, fun _ => none, fun _ => none, fun _ => none,
      fun _ => none, fun _ => none⟩
        ⟨⟨10, 0, ⟨1700000000000000000⟩, 7, 1⟩, none, some 100, some 1699999995000⟩
        ⟨[⟨.iana 1 4, .unsigned, ""⟩, ⟨.iana 22 4, .unsigned, ""⟩],
          [.unsigned32 1500, .unsigned32 4000]⟩ 256 =
      { NetflowV9.NetFlowV9Context.convert ⟨⟨9, 1, 5000, ⟨1700000000000000000⟩, 7, 1⟩,
        none, some 100⟩
          ⟨[⟨⟨1, 4⟩, .unsigned, ""⟩, ⟨⟨22, 4⟩, .unsigned, ""⟩],
            [.unsigned32 1500, .unsigned32 4000]⟩ 256 with
        flowType := .ipfix } := by
  refine converters_agree ⟨rfl, rfl, rfl, rfl, rfl, rfl⟩ _ _ _ ?_ 256
  exact .cons ⟨rfl, rfl, rfl, by decide⟩ (.cons ⟨rfl, rfl, rfl, by decide⟩ .nil)

end Rustflow
