import Rustflow.Common.IanaElements
import Rustflow.Ipfix.RoundTrip

/-!
# Values at their natural width

A record built without field specifiers writes each value at its natural width. A template that
declares those widths reads the values back.
-/

namespace Rustflow.Ipfix

theorem encodeRecord_new (values : List FieldValue) :
    encodeRecord (DataRecord.new values) = values.flatMap FieldValue.encode := by
  unfold DataRecord.new encodeRecord
  induction values with
  | nil => rfl
  | cons value values ih =>
    rw [List.map_cons, encodeValues, ih, List.flatMap_cons]
    rfl

/-- A field of a template declares the type and the natural width of a value. -/
structure Carries (registry : IERegistry) (spec : FieldSpecifier) (value : FieldValue) : Prop where
  matching : ∃ ie, registry.lookup spec.informationElementIdentifier spec.enterpriseNumber =
    some ie ∧
    Matches ie.dataType spec.fieldLength.toNat value
  width : value.encode.length = spec.fieldLength.toNat
  nonzero : spec.fieldLength ≠ 0
  fixed : spec.fieldLength ≠ IPFIX_VARIABLE_LENGTH

section
variable {registry : IERegistry} {types : ElementTypes} {domain : UInt32} {spec : FieldSpecifier}
  {value : FieldValue}

theorem Carries.resolved (carries : Carries registry spec value) :
    Matches (resolveField registry types domain spec).dataType spec.fieldLength.toNat value := by
  obtain ⟨ie, known, matching⟩ := carries.matching
  rw [resolveField, lookup, known]
  exact matching

theorem Carries.encode (carries : Carries registry spec value) :
    encodeFieldValue value value.encode spec.fieldLength = value.encode := by
  rw [encodeFieldValue, if_neg carries.fixed, if_neg carries.nonzero]
  obtain ⟨ie, -, matching⟩ := carries.matching
  exact matching.natural carries.width

variable (types domain) in
/-- The values of a record are written as a template reads them whose fields carry them. -/
theorem carries_fields {specs : List FieldSpecifier} {values : List FieldValue}
    (carries : List.Forall₂ (Carries registry) specs values) :
    MatchesFields (resolveFields registry types domain specs) values ∧
      encodeValues (resolveFields registry types domain specs) values =
        values.flatMap FieldValue.encode := by
  induction carries with
  | nil => exact ⟨.nil, rfl⟩
  | @cons spec value specs values carries _ ih =>
    constructor
    · refine .cons ?_ ih.1
      rw [spec_resolveField, fieldWidth, if_neg carries.fixed]
      exact carries.resolved
    · rw [resolveFields, List.map_cons, encodeValues, spec_resolveField, carries.encode,
        List.flatMap_cons]
      exact congrArg _ ih.2

theorem length_carries {specs : List FieldSpecifier} {values : List FieldValue}
    (carries : List.Forall₂ (Carries registry) specs values) :
    (values.flatMap FieldValue.encode).length = (specs.map (·.fieldLength.toNat)).sum := by
  induction carries with
  | nil => rfl
  | cons carries _ ih =>
    rw [List.flatMap_cons, List.length_append, List.map_cons, List.sum_cons, carries.width, ih]

end

/-- A data set of such records is read to their values. -/
theorem parseRecords_rows {clock : Nat → Instant} {registry : IERegistry} {types : ElementTypes}
    {domain : UInt32} {w : World} {id : UInt16} {kind : TemplateKind} {specs : List FieldSpecifier}
    (valid : IPFIX_VALID_TEMPLATE_ID_MIN ≤ id)
    (present : effective clock w.parser.templates w.parser.optionsTemplates (domain, id) w.ticks =
      some (kind, resolveFields registry types domain specs))
    (nonempty : specs ≠ []) (nonzero : ∀ spec ∈ specs, spec.fieldLength ≠ 0)
    {rows : List (List FieldValue)}
    (carries : ∀ row ∈ rows, List.Forall₂ (Carries registry) specs row)
    (plain : kind = .options → ∀ row ∈ rows,
      Description.read ⟨resolveFields registry types domain specs, row⟩ = none)
        (short : (rows.flatMap (·.flatMap FieldValue.encode)).length < 2 ^ 16) :
    ∃ ticks, parseRecords clock domain id (rows.flatMap (·.flatMap FieldValue.encode)) w =
      (some ([], rows.map fun values =>
        TemplateKind.wrap kind ⟨resolveFields registry types domain specs, values⟩),
        { w with ticks }) := by
  have content : rows.flatMap (encodeValues (resolveFields registry types domain specs)) =
      rows.flatMap (·.flatMap FieldValue.encode) :=
    List.flatMap_congr fun row mem => (carries_fields types domain (carries row mem)).2
  have widths : ∀ field ∈ resolveFields registry types domain specs,
      field.spec.fieldLength ≠ 0 := by
    intro field mem
    obtain ⟨spec, inside, rfl⟩ := List.mem_map.mp mem
    rw [spec_resolveField]
    exact nonzero spec inside
  rw [← content] at short
  obtain ⟨ticks, data⟩ :=
    parseDataSet_records present (List.map_eq_nil_iff.not.mpr nonempty) widths rows
    (fun row mem => (carries_fields types domain (carries row mem)).1) short
  refine ⟨ticks, (parseRecords_data valid).trans ?_⟩
  rw [← content, data]
  dsimp only
  rw [learnElementTypes_plain w.parser fun record mem => ?_]
  obtain ⟨row, inside, wrapped⟩ := List.mem_map.mp mem
  cases kind with
  | data => cases wrapped
  | options =>
    cases wrapped
    exact plain rfl row inside

/-- So is a message of one such set. -/
theorem parse_rows {clock : Nat → Instant} {registry : IERegistry} {types : ElementTypes}
    {w : World} {packet : IpfixPacket} {id : UInt16} {records : List Record} {kind : TemplateKind}
    {specs : List FieldSpecifier} {rows : List (List FieldValue)}
    (version : packet.header.version = IPFIX_VERSION) (sets : packet.sets = [⟨id, 0, records⟩])
    (content : records.flatMap Record.encode = rows.flatMap (·.flatMap FieldValue.encode))
    (valid : IPFIX_VALID_TEMPLATE_ID_MIN ≤ id)
    (present : effective clock w.parser.templates w.parser.optionsTemplates
      (packet.header.observationDomainId, id) w.ticks =
      some (kind, resolveFields registry types packet.header.observationDomainId specs))
    (nonempty : specs ≠ []) (nonzero : ∀ spec ∈ specs, spec.fieldLength ≠ 0)
    (carries : ∀ row ∈ rows, List.Forall₂ (Carries registry) specs row)
    (plain : kind = .options → ∀ row ∈ rows,
      Description.read ⟨resolveFields registry types packet.header.observationDomainId specs,
        row⟩ = none)
    (fits : packet.encode.length < 2 ^ 16) :
    ∃ parsed ticks, parse clock packet.encode w = (some ([], parsed), { w with ticks }) ∧
      parsed.sets.map (fun set => (set.id, set.records)) = [(id, rows.map fun values =>
        TemplateKind.wrap kind ⟨resolveFields registry types packet.header.observationDomainId
          specs, values⟩)] := by
  have short : (rows.flatMap (·.flatMap FieldValue.encode)).length < 2 ^ 16 := by
    have whole := packet.length_encode_sets
    rw [sets, List.flatMap_singleton, Set.length_encode, Set.content, content] at whole
    omega
  obtain ⟨ticks, contents⟩ := parseRecords_rows valid present nonempty nonzero carries plain short
  rw [← content] at contents
  have read : ReadsContents clock packet.header.observationDomainId w packet.sets
      [(id, rows.map fun values =>
      TemplateKind.wrap kind ⟨resolveFields registry types packet.header.observationDomainId specs,
        values⟩)]
      { w with ticks } := by
    rw [sets]
    exact .cons contents (.nil _)
  obtain ⟨parsed, parsing, records⟩ := parse_encoded packet version fits read
  exact ⟨parsed, ticks, parsing, records⟩

/-- A set without a template is skipped. -/
theorem parse_dropped {clock : Nat → Instant} {w : World} {packet : IpfixPacket} {id : UInt16}
    {records : List Record} (version : packet.header.version = IPFIX_VERSION)
    (sets : packet.sets = [⟨id, 0, records⟩]) (valid : IPFIX_VALID_TEMPLATE_ID_MIN ≤ id)
    (absent : effective clock w.parser.templates w.parser.optionsTemplates
      (packet.header.observationDomainId, id) w.ticks = none)
    (fits : packet.encode.length < 2 ^ 16) :
    ∃ parsed ticks, parse clock packet.encode w = (some ([], parsed), { w with ticks }) ∧
      parsed.sets.flatMap (·.records) = [] := by
  let content := (Set.mk id 0 records).content
  obtain ⟨ticks, skipped⟩ := parseDescribedRecords_none
    (parseRecordFromFields (parseFieldValue clock w.parser packet.header.observationDomainId
      MAX_LIST_DEPTH)) TemplateKind.wrap absent content
  have contents : parseRecords clock packet.header.observationDomainId id content w =
      (some (content, []), { w with ticks }) := by
    rw [parseRecords_data valid]
    rw [show parseDataSet clock w.parser packet.header.observationDomainId id content w.ticks =
      _ from
      skipped]
    rfl
  have read : ReadsContents clock packet.header.observationDomainId w packet.sets [(id, [])]
      { w with ticks } := by
    rw [sets]
    exact .cons contents (.nil _)
  obtain ⟨parsed, parsing, result⟩ := parse_encoded packet version fits read
  refine ⟨parsed, ticks, parsing, ?_⟩
  obtain ⟨set, others, whole, head, nothing⟩ := List.map_eq_cons_iff.mp result
  obtain rfl := List.map_eq_nil_iff.mp nothing
  rw [whole, List.flatMap_singleton, (Prod.mk.inj head).2]

theorem iter_resolveFields (registry : IERegistry) (types : ElementTypes) (domain : UInt32)
    (specs : List FieldSpecifier) (values : List FieldValue) :
    DataRecord.iter ⟨resolveFields registry types domain specs, values⟩ =
        specs.zipWith (fun spec value =>
          (spec, (resolveField registry types domain spec).name, value)) values := by
  simp only [DataRecord.iter, resolveFields, List.zipWith_map_left, spec_resolveField]

/-- An IANA element of a type carries the values that match it at their natural width. -/
theorem carries_iana {ie : InformationElement} {length : UInt16} {value : FieldValue}
    {dataType : DataType}
    (listed : (IERegistry.newWithIanaElements.lookup ie.toId none).map IEDefinition.dataType =
      some dataType) (matching : Matches dataType length.toNat value)
        (width : value.encode.length = length.toNat) (nonzero : length ≠ 0)
    (fixed : length ≠ IPFIX_VARIABLE_LENGTH) :
    Carries IERegistry.newWithIanaElements (.fromIe ie length) value := by
  obtain ⟨definition, known, rfl⟩ := Option.map_eq_some_iff.mp listed
  exact ⟨⟨definition, known, matching⟩, width, nonzero, fixed⟩

end Rustflow.Ipfix
