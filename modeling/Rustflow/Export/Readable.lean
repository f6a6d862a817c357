import Rustflow.Export.Exporter
import Rustflow.Ipfix.Convert
import Rustflow.Ipfix.NaturalWidths

/-!
# The exporter's records under its templates

The records carry no field specifiers and the templates are written elsewhere. Each value has the
type and the width that the template of its record declares for it.
-/

namespace Rustflow

/-- Rounded down to the millisecond, which is what the exporter writes. -/
def DateTime.wholeMillis (self : DateTime) : DateTime := ⟨self.nanos / 1000000 * 1000000⟩

theorem DateTime.timestampNanosOpt_wholeMillis {t : DateTime} (epoch : 0 ≤ t.nanos)
    (fits : t.nanos < 2 ^ 63) :
    t.wholeMillis.timestampNanosOpt = some (t.nanos / 1000000 * 1000000) := by
  unfold timestampNanosOpt wholeMillis
  exact if_pos ⟨by dsimp only; omega, by dsimp only; omega⟩

/-- Both addresses are of one family. -/
def IpAddr.SameFamily : IpAddr → IpAddr → Prop
  | .v4 _, .v4 _ | .v6 _, .v6 _ => True
  | _, _ => False

namespace Ipfix

/-- The fields of a record that are of some elements. -/
def only (elements : List InformationElement) (record : DataRecord) : DataRecord :=
  let kept := (record.fields.zip record.values).filter fun (field, _) =>
    (ianaElement field.spec).any (· ∈ elements)
  { fields := kept.map Prod.fst, values := kept.map Prod.snd }

/-- The IANA elements of a record, with their values. -/
def elementsOf (record : DataRecord) : List (InformationElement × FieldValue) :=
  record.iter.filterMap fun (field, _, value) => (ianaElement field).map (·, value)

theorem elementsOf_only (elements : List InformationElement) (record : DataRecord) :
    elementsOf (only elements record) = (elementsOf record).filter (·.1 ∈ elements) := by
  have iter : (only elements record).iter = record.iter.filter fun entry =>
      (ianaElement entry.1).any (· ∈ elements) := by
    unfold only DataRecord.iter
    rw [← List.map_uncurry_zip_eq_zipWith, ← List.map_uncurry_zip_eq_zipWith, List.filter_map]
    dsimp only
    rw [← List.zip_of_prod rfl rfl]
    rfl
  unfold elementsOf
  rw [iter, List.filterMap_filter, List.filter_filterMap]
  refine List.filterMap_congr fun (field, _, value) _ => ?_
  dsimp only
  cases ianaElement field with
  | none => rfl
  | some ie => simp [Option.filter]

theorem extractSamplingRate_eq (record : DataRecord) : extractSamplingRate record =
    ((elementsOf record).foldl (fun sampling (ie, value) =>
      SamplingFields.observe sampling ie value) {}).oneInN := by
  unfold extractSamplingRate elementsOf
  rw [List.foldl_filterMap]
  congr 2
  funext sampling (field, _, value)
  dsimp only
  cases ianaElement field <;> rfl

end Ipfix

namespace Export
open Ipfix InformationElement

/-- The types that the IANA registry gives the elements of the exporter's templates. -/
def elementTypes : List (InformationElement × DataType) :=
  [(sourceIpv4Address, .ipv4Address), (destinationIpv4Address, .ipv4Address),
    (sourceIpv6Address, .ipv6Address), (destinationIpv6Address, .ipv6Address),
    (ipVersion, .unsigned), (protocolIdentifier, .unsigned), (sourceTransportPort, .unsigned),
    (destinationTransportPort, .unsigned), (octetDeltaCount, .unsigned),
    (packetDeltaCount, .unsigned), (tcpControlBits, .unsigned),
    (flowStartMilliseconds, .dateTimeMilliseconds), (flowEndMilliseconds, .dateTimeMilliseconds),
    (flowEndReason, .unsigned), (observationDomainId, .unsigned), (samplingInterval, .unsigned),
    (selectorAlgorithm, .unsigned), (samplingPacketInterval, .unsigned),
    (samplingPacketSpace, .unsigned)]

theorem listed {ie : InformationElement} {dataType : DataType}
    (mem : (ie, dataType) ∈ elementTypes) :
    (IERegistry.newWithIanaElements.lookup ie.toId none).map IEDefinition.dataType =
      some dataType := by
  have all : ∀ pair ∈ elementTypes,
      (IERegistry.newWithIanaElements.lookup pair.1.toId none).map IEDefinition.dataType =
        some pair.2 := by
    simp only [IERegistry.lookup_iana]
    decide +kernel
  exact all (ie, dataType) mem

/-! ### What a field carries -/

section
variable {ie : InformationElement}

theorem carries_unsigned8 (mem : (ie, .unsigned) ∈ elementTypes) (v : UInt8) :
    Carries IERegistry.newWithIanaElements (.fromIe ie 1) (.unsigned8 v) :=
  carries_iana (listed mem) (.unsigned8 v) rfl (by decide) (by decide)

theorem carries_unsigned16 (mem : (ie, .unsigned) ∈ elementTypes) (v : UInt16) :
    Carries IERegistry.newWithIanaElements (.fromIe ie 2) (.unsigned16 v) :=
  carries_iana (listed mem) (.unsigned16 v) (BigEndian.length_bytes 2 _) (by decide) (by decide)

theorem carries_unsigned32 (mem : (ie, .unsigned) ∈ elementTypes) (v : UInt32) :
    Carries IERegistry.newWithIanaElements (.fromIe ie 4) (.unsigned32 v) :=
  carries_iana (listed mem) (.unsigned32 v) (BigEndian.length_bytes 4 _) (by decide) (by decide)

theorem carries_unsigned64 (mem : (ie, .unsigned) ∈ elementTypes) (v : UInt64) :
    Carries IERegistry.newWithIanaElements (.fromIe ie 8) (.unsigned64 v) :=
  carries_iana (listed mem) (.unsigned64 8 v (by decide) v.toNat_lt)
    (BigEndian.length_bytes 8 _) (by decide)
    (by decide)

theorem carries_ipv4Address (mem : (ie, .ipv4Address) ∈ elementTypes) (v : Ipv4Addr) :
    Carries IERegistry.newWithIanaElements (.fromIe ie 4) (.ipv4Address v) :=
  carries_iana (listed mem) (.ipv4Address v) (BigEndian.length_bytes 4 _) (by decide) (by decide)

theorem carries_ipv6Address (mem : (ie, .ipv6Address) ∈ elementTypes) (v : Ipv6Addr) :
    Carries IERegistry.newWithIanaElements (.fromIe ie 16) (.ipv6Address v) :=
  carries_iana (listed mem) (.ipv6Address v) (BigEndian.length_bytes 16 _) (by decide) (by decide)

theorem carries_wholeMillis (mem : (ie, .dateTimeMilliseconds) ∈ elementTypes) {t : DateTime}
    (epoch : 0 ≤ t.nanos) (fits : t.nanos < 2 ^ 63) :
    Carries IERegistry.newWithIanaElements (.fromIe ie 8)
      (.dateTimeMilliseconds t.wholeMillis) := by
  have millis : t.wholeMillis = ⟨(t.nanos / 1000000).toNat * 1000000⟩ := by
    rw [Int.toNat_of_nonneg (by omega)]
    rfl
  have matching : Matches .dateTimeMilliseconds 8 (.dateTimeMilliseconds t.wholeMillis) := by
    rw [millis]
    refine .dateTimeMilliseconds _ ?_
    unfold DateTime.MAX_SECS
    omega
  exact carries_iana (listed mem) matching (BigEndian.length_bytes 8 _) (by decide) (by decide)

end

/-! ### Flow records -/

def ipv4Template : TemplateRecord :=
  flowTemplate FLOW_IPV4_TEMPLATE_ID [.fromIe sourceIpv4Address 4, .fromIe destinationIpv4Address 4]

def ipv6Template : TemplateRecord :=
  flowTemplate FLOW_IPV6_TEMPLATE_ID [.fromIe sourceIpv6Address 16,
    .fromIe destinationIpv6Address 16]

theorem createFlowTemplates_eq : createFlowTemplates = [ipv4Template, ipv6Template] := rfl

namespace FlowData
variable (self : FlowData)

/-- The template that a flow's record is sent under. -/
def template : TemplateRecord :=
  match self.sourceIp with
  | .v4 _ => ipv4Template
  | .v6 _ => ipv6Template

def wholeMillis : FlowData :=
  { self with flowStart := self.flowStart.wholeMillis, flowEnd := self.flowEnd.wholeMillis }

/-- A flow between addresses of one family, at times that an `i64` of nanoseconds after the epoch
holds. -/
structure Regular (data : FlowData) : Prop where
  family : data.sourceIp.SameFamily data.destinationIp
  start : 0 ≤ data.flowStart.nanos ∧ data.flowStart.nanos < 2 ^ 63
  end_ : 0 ≤ data.flowEnd.nanos ∧ data.flowEnd.nanos < 2 ^ 63

theorem template_mem : self.template ∈ createFlowTemplates := by
  rw [createFlowTemplates_eq]
  unfold template
  split
  · exact List.mem_cons_self
  · exact List.mem_cons_of_mem _ List.mem_cons_self

theorem templateId_template : self.template.templateId = self.templateId := by
  unfold template templateId
  cases self.sourceIp <;> rfl

/-- What is finer than a millisecond is not written. -/
theorem encode_wholeMillis :
    encodeRecord self.wholeMillis.toDataRecord = encodeRecord self.toDataRecord := by
  have same : ∀ t : DateTime, (FieldValue.dateTimeMilliseconds t.wholeMillis).encode =
      (FieldValue.dateTimeMilliseconds t).encode := by
    intro t
    have whole : t.wholeMillis.timestampMillis = t.timestampMillis :=
      Int.mul_ediv_cancel _ (by decide)
    rw [FieldValue.encode, FieldValue.encode, whole]
  unfold toDataRecord
  rw [encodeRecord_new, encodeRecord_new]
  simp only [List.flatMap_cons, wholeMillis, same]
  rfl

variable {self}

theorem Regular.carries (regular : self.Regular) :
    List.Forall₂ (Carries IERegistry.newWithIanaElements) self.template.fields
      self.wholeMillis.toDataRecord.values := by
  have others : List.Forall₂ (Carries IERegistry.newWithIanaElements) [
      .fromIe InformationElement.ipVersion 1, .fromIe protocolIdentifier 1,
      .fromIe sourceTransportPort 2, .fromIe destinationTransportPort 2, .fromIe octetDeltaCount 8,
      .fromIe packetDeltaCount 8, .fromIe tcpControlBits 2, .fromIe flowStartMilliseconds 8,
      .fromIe flowEndMilliseconds 8, .fromIe InformationElement.flowEndReason 1]
      (self.wholeMillis.toDataRecord.values.drop 2) := by
    refine .cons (carries_unsigned8 (by decide) _) ?_
    refine .cons (carries_unsigned8 (by decide) _) ?_
    refine .cons (carries_unsigned16 (by decide) _) ?_
    refine .cons (carries_unsigned16 (by decide) _) ?_
    refine .cons (carries_unsigned64 (by decide) _) ?_
    refine .cons (carries_unsigned64 (by decide) _) ?_
    refine .cons (carries_unsigned16 (by decide) _) ?_
    refine .cons (carries_wholeMillis (by decide) regular.start.1 regular.start.2) ?_
    refine .cons (carries_wholeMillis (by decide) regular.end_.1 regular.end_.2) ?_
    exact .cons (carries_unsigned8 (by decide) _) .nil
  have family := regular.family
  obtain ⟨source, destination⟩ := self
  cases source with
  | v4 source =>
    cases destination with
    | v4 destination =>
      exact .cons (carries_ipv4Address (by decide) _)
        (.cons (carries_ipv4Address (by decide) _) others)
    | v6 destination => exact family.elim
  | v6 source =>
    cases destination with
    | v4 destination => exact family.elim
    | v6 destination =>
      exact .cons (carries_ipv6Address (by decide) _)
        (.cons (carries_ipv6Address (by decide) _) others)

end FlowData

/-- A flow as the collector gets it, with its times to the millisecond. -/
structure ArrivesAs (sent : Flow) (flow : CommonFlow) : Prop where
  srcAddr : flow.srcAddr = some sent.key.sourceIp
  dstAddr : flow.dstAddr = some sent.key.destinationIp
  proto : flow.proto = some sent.key.protocol
  srcPort : flow.srcPort = some sent.key.sourcePort
  dstPort : flow.dstPort = some sent.key.destinationPort
  bytes : flow.bytes = sent.octetCount
  packets : flow.packets = sent.packetCount
  tcpFlags : flow.tcpFlags = some sent.tcpFlags
  timeFlowStartNs : flow.timeFlowStartNs = some (sent.flowStart.nanos / 1000000 * 1000000)
  timeFlowEndNs : flow.timeFlowEndNs = some (sent.flowEnd.nanos / 1000000 * 1000000)

/-- The record of a flow, read by its template, is converted to the flow. -/
theorem convert_flow {flow : Flow} (regular : (toFlowData flow).Regular) (etherparse : Etherparse)
    (context : IpfixContext) (types : ElementTypes) (domain : UInt32) (templateId : UInt16) :
    ArrivesAs flow (context.convert etherparse
      ⟨resolveFields IERegistry.newWithIanaElements types domain (toFlowData flow).template.fields,
        (toFlowData flow).wholeMillis.toDataRecord.values⟩ templateId) := by
  have family := regular.family
  have start := DateTime.timestampNanosOpt_wholeMillis regular.start.1 regular.start.2
  have end_ := DateTime.timestampNanosOpt_wholeMillis regular.end_.1 regular.end_.2
  obtain ⟨⟨source, destination, _, _, _⟩, _, _, _, _, _, _, _, _⟩ := flow
  unfold IpfixContext.convert packetSection
  simp only [iter_resolveFields]
  cases source <;> cases destination
  case v4.v6 | v6.v4 => exact family.elim
  all_goals
    simp only [FlowData.template, ipv4Template, ipv6Template, FlowData.wholeMillis,
      FlowData.toDataRecord, toFlowData, flowTemplate, TemplateRecord.new, DataRecord.new, address,
      List.cons_append, List.nil_append, List.zipWith, List.filterMap_cons, List.filterMap_nil,
      List.foldl, IpfixContext.readField, ianaElement_fromIe, IpfixContext.setField]
    exact ⟨rfl, rfl, extractU8_unsigned8 _, extractU16_unsigned16 _,
      extractU16_unsigned16 _, rfl, rfl, extractU16_unsigned16 _, start, end_⟩

/-! ### Options records -/

/-- The sampling is in the record, and not in its template. -/
theorem createOptionsTemplate_eq (sampling : Sampling) :
    createOptionsTemplate sampling = createOptionsTemplate (.count 0) := by
  cases sampling
  rfl

theorem carries_options (data : OptionsData) : List.Forall₂ (Carries IERegistry.newWithIanaElements)
    (createOptionsTemplate data.sampling).fields data.toDataRecord.values := by
  obtain ⟨domain, ⟨interval⟩⟩ := data
  refine .cons (carries_unsigned32 (by decide) _) ?_
  refine .cons (carries_unsigned32 (by decide) _) ?_
  refine .cons (carries_unsigned16 (by decide) _) ?_
  refine .cons (carries_unsigned32 (by decide) _) ?_
  exact .cons (carries_unsigned32 (by decide) _) .nil

/-- The options record is no type record. -/
theorem read_options (data : OptionsData) (registry : IERegistry) (types : ElementTypes)
    (domain : UInt32) :
    Description.read ⟨resolveFields registry types domain
      (createOptionsTemplate data.sampling).fields,
      data.toDataRecord.values⟩ = none := by
  obtain ⟨domain, ⟨interval⟩⟩ := data
  unfold Description.read
  rw [iter_resolveFields]
  rfl

/-- The rate is read from the interval that is stated, and from the packets passed over where it is
not. -/
theorem rate_options (domain interval : UInt32) (positive : 1 ≤ interval) (types : ElementTypes) :
    let record : Ipfix.DataRecord := ⟨resolveFields IERegistry.newWithIanaElements types domain
      (createOptionsTemplate (.count interval)).fields,
      (OptionsData.mk domain (.count interval)).toDataRecord.values⟩
    extractSamplingRate record = some interval ∧
      extractSamplingRate (only [samplingInterval] record) = some interval ∧
      extractSamplingRate (only [samplingPacketInterval, samplingPacketSpace] record) =
        some interval := by
  intro record
  have elements : elementsOf record = [(observationDomainId, .unsigned32 domain),
      (samplingInterval, .unsigned32 interval),
      (selectorAlgorithm, .unsigned16 SYSTEMATIC_COUNT_BASED),
      (samplingPacketInterval, .unsigned32 1),
      (samplingPacketSpace, .unsigned32 (interval - 1))] := by
    have space : (if interval = 0 then 0 else interval - 1) = interval - 1 := by
      refine if_neg fun zero => ?_
      subst zero
      contradiction
    unfold elementsOf
    simp only [record, iter_resolveFields, createOptionsTemplate, OptionsTemplateRecord.new,
      OptionsData.toDataRecord, DataRecord.new, List.zipWith, List.filterMap_cons,
      List.filterMap_nil, ianaElement_fromIe, Option.map_some, space]
  simp only [extractSamplingRate_eq, elementsOf_only, elements]
  refine ⟨?_, ?_, ?_⟩
  · simp [SamplingFields.observe, extractU32_unsigned32, SamplingFields.oneInN]
  · simp [SamplingFields.observe, extractU32_unsigned32, SamplingFields.oneInN]
  · have pair :
        ({ packetInterval := some 1, packetSpace := some (interval - 1) } : SamplingFields).oneInN =
          some interval := by
      have whole : (1 : UInt32).toNat + (interval - 1).toNat = interval.toNat := by
        rw [UInt32.toNat_sub_of_le _ _ positive]
        exact Nat.add_sub_cancel' (UInt32.le_iff_toNat_le.mp positive)
      have kept : (UInt64.ofNat interval.toNat).toNat = interval.toNat :=
        UInt64.toNat_ofNat_of_lt' (Nat.lt_trans interval.toNat_lt (by decide))
      unfold SamplingFields.oneInN tryFromU64
      dsimp only
      rw [if_pos (by decide), whole, show (1 : UInt32).toNat = 1 from rfl, Nat.div_one,
        if_pos (Nat.mod_one _), kept, if_pos interval.toNat_lt, UInt32.ofNat_toNat]
    simpa [SamplingFields.observe, extractU32_unsigned32] using pair

end Export

end Rustflow
