import Rustflow.Common.TemplateHistory
import Rustflow.Ipfix.Message
import Rustflow.Ipfix.Values

/-!
# Decoding what was encoded

A message with a template and records that match it, read by a fresh parser, gives the template
and the values back.
-/

namespace Rustflow.Ipfix
open Combinator BigEndian

/-! ### Templates -/

/-- A field specifier that can be told from its bytes and takes up room in a record. -/
structure FieldSpecifier.WellFormed (spec : FieldSpecifier) : Prop where
  id : spec.informationElementIdentifier.toNat < 2 ^ 15
  enterprise : spec.enterpriseBit = spec.enterpriseNumber.isSome
  length : spec.fieldLength ≠ 0

theorem split_bits {id : UInt16} (small : id.toNat < 2 ^ 15) (enterpriseBit : Bool) :
    ((if enterpriseBit then id ||| 0x8000 else id) &&& 0x8000 != 0) = enterpriseBit ∧
      (if enterpriseBit then id ||| 0x8000 else id) &&& 0x7fff = id := by
  have top : id &&& 0x8000 = 0 := by
    rw [← UInt16.toNat_inj, UInt16.toNat_and]
    exact (Nat.and_two_pow id.toNat 15).trans (by rw [Nat.testBit_lt_two_pow small]; rfl)
  have low : id &&& 0x7fff = id := by
    rw [← UInt16.toNat_inj, UInt16.toNat_and]
    exact Nat.and_two_pow_sub_one_of_lt_two_pow (n := 15) small
  have split : ∀ mask : UInt16, (id ||| 0x8000) &&& mask = id &&& mask ||| 0x8000 &&& mask := by
    intro mask
    rw [← UInt16.toNat_inj, UInt16.toNat_and, UInt16.toNat_or, UInt16.toNat_or, UInt16.toNat_and,
      UInt16.toNat_and]
    exact Nat.and_or_distrib_right ..
  cases enterpriseBit with
  | false => exact ⟨by simp [top], low⟩
  | true =>
    rw [if_pos rfl, split, split, top, low]
    exact ⟨by decide, UInt16.or_zero⟩

theorem reads_enterpriseNumber (enterpriseNumber : Option UInt32) :
    Reads (cond enterpriseNumber.isSome beU32) (enterpriseNumber.elim [] putU32)
      enterpriseNumber := by
  cases enterpriseNumber with
  | none => exact reads_pure none
  | some number => exact (reads_beU32 number).map some

theorem reads_fieldSpecifier {spec : FieldSpecifier} (wellFormed : spec.WellFormed) :
    Reads parseFieldSpecifier spec.encode spec := by
  obtain ⟨bit, number⟩ := split_bits wellFormed.id spec.enterpriseBit
  rw [FieldSpecifier.encode, List.append_assoc]
  refine (reads_beU16 _).bind ?_
  dsimp only
  rw [bit, number, wellFormed.enterprise]
  refine (reads_beU16 spec.fieldLength).bind ?_
  have read := (reads_enterpriseNumber spec.enterpriseNumber).map fun enterpriseNumber =>
    { spec with enterpriseBit := spec.enterpriseNumber.isSome, enterpriseNumber }
  rwa [← wellFormed.enterprise] at read ⊢

theorem reads_templateRecord {id : UInt16} {fields : List FieldSpecifier}
    (few : fields.length < 2 ^ 16) (wellFormed : ∀ spec ∈ fields, spec.WellFormed) :
    Reads parseTemplateRecord (TemplateRecord.new id fields).encode
      (TemplateRecord.new id fields) := by
  have count : (UInt16.ofNat fields.length).toNat = fields.length := UInt16.toNat_ofNat_of_lt' few
  have specs := reads_count (p := parseFieldSpecifier) fun spec mem =>
    reads_fieldSpecifier (wellFormed spec mem)
  rw [← count] at specs
  rw [TemplateRecord.encode, List.append_assoc]
  refine (reads_beU16 id).bind ?_
  refine (reads_beU16 (UInt16.ofNat fields.length)).bind ?_
  exact specs.map _

/-! ### Records -/

/-- How many bytes a value takes in a field, apart from a length prefix. -/
def fieldWidth (fieldLength : UInt16) (value : FieldValue) : Nat :=
  if fieldLength = IPFIX_VARIABLE_LENGTH then value.encode.length else fieldLength.toNat

/-- Each value matches its field, by the type the registry gives it. -/
def MatchesFields (fields : List ResolvedField) (values : List FieldValue) : Prop :=
  List.Forall₂ (fun field value =>
    Matches field.dataType (fieldWidth field.spec.fieldLength value) value) fields values

theorem Matches.scalar {dataType : DataType} {n : Nat} {value : FieldValue}
    (h : Matches dataType n value) :
    dataType.isList = false := by
  cases h with
  | octetArray dataType n v raw whole => cases dataType <;> first | rfl | cases raw
  | _ => rfl

section
variable (clock : Nat → Instant) (self : IpfixParser) (domain : UInt32) (levels : Nat)

theorem parseFieldValue_scalar {dataType : DataType} (scalar : dataType.isList = false)
    (length : Nat) :
    parseFieldValue clock self domain levels dataType length =
      liftM (parseScalar dataType length) := by
  cases levels with
  | zero => rw [parseFieldValue]
  | succ levels => cases dataType <;> first | rfl | cases scalar

theorem reads_fieldValue {field : ResolvedField} {value : FieldValue}
    (nonzero : field.spec.fieldLength ≠ 0)
    (matching : Matches field.dataType (fieldWidth field.spec.fieldLength value) value)
    (short : (encodeFieldValue value value.encode field.spec.fieldLength).length < 2 ^ 16) :
    ReadsM (do
      let length ← parseFieldLength field.spec.fieldLength
      parseFieldValue clock self domain levels field.dataType length)
      (encodeFieldValue value value.encode field.spec.fieldLength) value := by
  have value_ : ∀ n, Matches field.dataType n value →
      ReadsM (parseFieldValue clock self domain levels field.dataType n)
        (encodeFixed value value.encode n) value := by
    intro n matching
    rw [parseFieldValue_scalar clock self domain levels matching.scalar]
    exact readsM_lift matching.reads
  by_cases var : field.spec.fieldLength = IPFIX_VARIABLE_LENGTH
  · rw [fieldWidth, if_pos var] at matching
    rw [encodeFieldValue, if_pos var] at short ⊢
    rw [List.length_append] at short
    rw [var]
    refine (readsM_lift (reads_lengthPrefix (n := value.encode.length) (by omega))).bind ?_
    have read := value_ _ matching
    rwa [matching.natural rfl] at read
  · rw [fieldWidth, if_neg var] at matching
    rw [encodeFieldValue, if_neg var, if_neg nonzero]
    have fixed :
        Reads (parseFieldLength field.spec.fieldLength) [] field.spec.fieldLength.toNat := by
      rw [parseFieldLength, if_pos var]
      exact reads_pure _
    exact (readsM_lift fixed).bind (value_ _ matching)

theorem reads_fields {fields : List ResolvedField} {values : List FieldValue}
    (nonzero : ∀ field ∈ fields, field.spec.fieldLength ≠ 0)
    (matching : MatchesFields fields values)
    (short : (encodeValues fields values).length < 2 ^ 16) :
    ReadsM (parseFields (parseFieldValue clock self domain levels) fields)
      (encodeValues fields values) values := by
  induction matching with
  | nil => exact readsM_pure []
  | @cons field value fields values matching _ ih =>
    rw [encodeValues, List.length_append] at short
    have one :=
      reads_fieldValue clock self domain levels (nonzero field List.mem_cons_self)
        matching (by omega)
    have others := ih (fun field mem => nonzero field (List.mem_cons_of_mem _ mem)) (by omega)
    rw [encodeValues, parseFields, ← bindM_assoc]
    exact one.bind (others.map (value :: ·))

theorem reads_record {fields : List ResolvedField} {values : List FieldValue}
    (nonzero : ∀ field ∈ fields, field.spec.fieldLength ≠ 0)
    (matching : MatchesFields fields values)
    (short : (encodeValues fields values).length < 2 ^ 16) :
    ReadsM (parseRecordFromFields (parseFieldValue clock self domain levels) fields)
      (encodeValues fields values)
      { fields, values } :=
  (reads_fields clock self domain levels nonzero matching short).map _

variable {clock self domain levels}

/-- What is read of a template with a field that takes up room cannot be nothing. -/
theorem zeroWidth_of_nonzero {fields : List ResolvedField} (nonempty : fields ≠ [])
    (nonzero : ∀ field ∈ fields, field.spec.fieldLength ≠ 0) :
    zeroWidthAt levels fields = false := by
  obtain ⟨field, others, rfl⟩ := List.exists_cons_of_ne_nil nonempty
  simp [zeroWidthAt, nonzero field List.mem_cons_self]

/-! ### Sets -/

variable (clock) in
theorem parseRecords_template {id : UInt16} {fields : List FieldSpecifier}
    (valid : IPFIX_VALID_TEMPLATE_ID_MIN ≤ id) (nonempty : fields ≠ [])
    (few : fields.length < 2 ^ 16) (wellFormed : ∀ spec ∈ fields, spec.WellFormed) (w : World) :
    parseRecords clock domain IPFIX_TEMPLATE_SET_ID (TemplateRecord.new id fields).encode w =
      (some ([], [.template (TemplateRecord.new id fields)]),
        insertTemplate clock .data (domain, id) fields w) := by
  have templates :
      parseTemplateRecord.many0 ([TemplateRecord.new id fields].flatMap TemplateRecord.encode ++
        []) =
      some ([], [TemplateRecord.new id fields]) := Parser.many0_reads
    (fun t mem => by rw [List.mem_singleton.mp mem]; exact reads_templateRecord few wellFormed)
    (fun t mem => by simp [TemplateRecord.encode, putU16, bytes]) rfl
  rw [List.flatMap_singleton, List.append_nil] at templates
  rw [← defineTemplate_insert .data w nonempty valid]
  exact parseRecords_readTemplates templates

/-- Matching records are read back by the template in effect. -/
theorem parseDataSet_records {id : UInt16} {fields : List ResolvedField} {ticks : Nat}
    {kind : TemplateKind} (present : effective clock self.templates self.optionsTemplates
      (domain, id) ticks = some (kind, fields))
    (nonempty : fields ≠ []) (nonzero : ∀ field ∈ fields, field.spec.fieldLength ≠ 0)
    (rows : List (List FieldValue)) (matching : ∀ row ∈ rows, MatchesFields fields row)
    (short : (rows.flatMap (encodeValues fields)).length < 2 ^ 16) :
    ∃ ticks', parseDataSet clock self domain id (rows.flatMap (encodeValues fields)) ticks =
      (some ([], rows.map fun values => TemplateKind.wrap kind { fields, values }), ticks') := by
  obtain ⟨ticks', run⟩ := parseDescribedRecords_some
    (parseRecordFromFields (parseFieldValue clock self domain MAX_LIST_DEPTH))
    TemplateKind.wrap present
    (rows.flatMap (encodeValues fields))
  have progress : ∀ input s rest record s',
      parseRecordFromFields (parseFieldValue clock self domain MAX_LIST_DEPTH) fields
      input s = (some (rest, record), s') → rest.length < input.length := by
    intro input s rest record s' run
    obtain ⟨mid, values, t, first, second⟩ := bindM_eq_some.mp run
    cases second
    exact parseFields_progress (zeroWidth_of_nonzero nonempty nonzero) input _ s _ values first
  have each :
      ∀ row ∈ rows,
        ReadsM (parseRecordFromFields (parseFieldValue clock self domain MAX_LIST_DEPTH) fields)
      (encodeValues fields row) { fields, values := row } := by
    intro row mem
    have part :=
      List.Sublist.length_le (List.sublist_flatten_of_mem
        (List.mem_map_of_mem (f := encodeValues fields) mem))
    rw [← List.flatMap_def] at part
    exact reads_record clock self domain MAX_LIST_DEPTH nonzero (matching row mem) (by omega)
  have nonempty_ : ∀ row ∈ rows, encodeValues fields row ≠ [] := by
    intro row mem nothing
    have read := each row mem [] 0
    rw [nothing, List.append_nil] at read
    exact absurd (progress _ _ _ _ _ read) (Nat.lt_irrefl _)
  obtain ⟨s', stop⟩ : ∃ s', parseRecordFromFields (parseFieldValue clock self domain MAX_LIST_DEPTH)
    fields [] ticks' =
      (none, s') := by
    rcases end_ : parseRecordFromFields (parseFieldValue clock self domain
      MAX_LIST_DEPTH) fields [] ticks' with
      ⟨_ | ⟨rest, record⟩, s'⟩
    · exact ⟨s', rfl⟩
    · exact absurd (progress _ _ _ _ _ end_) (Nat.not_lt_zero _)
  have records := many0_reads each nonempty_ stop
  rw [List.append_nil] at records
  refine ⟨s', run.trans ?_⟩
  rw [if_neg nonempty, records, Option.map_some, List.map_map]
  rfl

theorem encodeValues_congr {fields fields' : List ResolvedField}
    (same : fields.map (·.spec) = fields'.map (·.spec)) (values : List FieldValue) :
    encodeValues fields values = encodeValues fields' values := by
  induction fields generalizing fields' values with
  | nil =>
    rw [List.map_nil, eq_comm, List.map_eq_nil_iff] at same
    rw [same]
  | cons field fields ih =>
    obtain ⟨field', fields', rfl, here, others⟩ := List.map_eq_cons_iff.mp same.symm
    cases values with
    | nil => rfl
    | cons value values => rw [encodeValues, encodeValues, here, ih others.symm]

theorem content_rows {fields : List ResolvedField} {records : List DataRecord}
    (same : ∀ record ∈ records, record.fields.map (·.spec) = fields.map (·.spec)) :
    (records.map Record.data).flatMap Record.encode =
      (records.map (·.values)).flatMap (encodeValues fields) := by
  rw [List.flatMap_map, List.flatMap_map, List.flatMap_def, List.flatMap_def]
  congr 1
  refine List.map_congr_left fun record mem => ?_
  obtain ⟨fields', values⟩ := record
  exact encodeValues_congr (same _ mem) values

variable (domain) in
/-- A template that a new parser was given is in effect until its timeout. -/
theorem effective_insert_new (registry : IERegistry) {timeout : Duration} (id : UInt16)
    {fields : List FieldSpecifier} (few : fields.length ≤ 65535)
    (inTime : clock 3 - clock 2 < timeout) :
    let w := insertTemplate clock .data (domain, id) fields (World.new clock registry timeout)
    effective clock w.parser.templates w.parser.optionsTemplates (domain, id) w.ticks =
      some (.data, resolveFields registry ElementTypes.default domain fields) := by
  intro w
  have stored := TemplateCache.get_insert_new inTime (clock 0) (domain, id)
    (resolveFields registry ElementTypes.default domain fields)
    (by rw [length_resolveFields]; unfold MAX_TEMPLATE_FIELDS; omega)
  have known : w.parser.templates.get (clock w.ticks) (domain, id) =
      some (resolveFields registry ElementTypes.default domain fields) := stored
  rw [effective, known]
  rfl

variable (clock) in
/-- What was encoded with a template is decoded to the template and the same values in the same
order. -/
theorem decode_encode {id : UInt16} {fields : List FieldSpecifier} {records : List DataRecord}
    (registry : IERegistry) (timeout : Duration) (exportTime : DateTime)
    (sequenceNumber observationDomainId : UInt32) (valid : IPFIX_VALID_TEMPLATE_ID_MIN ≤ id)
    (nonempty : fields ≠ []) (few : fields.length ≤ 65535)
    (wellFormed : ∀ spec ∈ fields, spec.WellFormed)
    (matching : ∀ record ∈ records, record.fields.map (·.spec) = fields ∧
      MatchesFields (resolveFields registry ElementTypes.default observationDomainId fields)
        record.values)
    (short : (IpfixPacket.new exportTime sequenceNumber observationDomainId
      [Set.new IPFIX_TEMPLATE_SET_ID [.template (TemplateRecord.new id fields)],
        Set.new id (records.map .data)]).encode.length ≤ 65535)
    (inTime : clock 3 - clock 2 < timeout) :
    ∃ packet w', parse clock (IpfixPacket.new exportTime sequenceNumber observationDomainId
        [Set.new IPFIX_TEMPLATE_SET_ID [.template (TemplateRecord.new id fields)],
          Set.new id (records.map .data)]).encode (World.new clock registry timeout) =
            (some ([], packet), w') ∧
      packet.sets.map (fun set => (set.id, set.records)) =
        [(IPFIX_TEMPLATE_SET_ID, [.template (TemplateRecord.new id fields)]),
          (id, records.map fun record =>
            .data {
              fields := resolveFields registry ElementTypes.default observationDomainId fields
              values := record.values })] := by
  let template := Set.new IPFIX_TEMPLATE_SET_ID [.template (TemplateRecord.new id fields)]
  let rows := Set.new id (records.map .data)
  let w :=
    insertTemplate clock .data (observationDomainId, id) fields (World.new clock registry timeout)
  have read : parseRecords clock observationDomainId template.id template.content
      (World.new clock registry timeout) =
      (some ([], [.template (TemplateRecord.new id fields)]), w) := by
    show parseRecords clock observationDomainId IPFIX_TEMPLATE_SET_ID
      ((TemplateRecord.new id fields).encode ++ []) _ = _
    rw [List.append_nil]
    exact parseRecords_template clock valid nonempty (Nat.lt_succ_of_le few) wellFormed _
  have present := effective_insert_new observationDomainId registry id few inTime
  generalize resolved_ : resolveFields registry ElementTypes.default observationDomainId fields =
    resolved at matching present ⊢
  have specs : resolved.map (·.spec) = fields := by rw [← resolved_, specs_resolveFields]
  have count : resolved.length = fields.length := by rw [← specs, List.length_map]
  have content : rows.content = (records.map (·.values)).flatMap (encodeValues resolved) :=
    content_rows fun record mem => (matching record mem).1.trans specs.symm
  have fits : rows.content.length < 2 ^ 16 := by
    rw [IpfixPacket.length_encode_sets] at short
    change _ + ([template, rows].flatMap Set.encode).length ≤ _ at short
    rw [List.flatMap_cons, List.flatMap_singleton, List.length_append, rows.length_encode] at short
    omega
  obtain ⟨ticks, data⟩ := parseDataSet_records present
    (by rw [← List.length_pos_iff, count]; exact List.length_pos_iff.mpr nonempty)
    (fun field mem =>
      (wellFormed field.spec (specs ▸ List.mem_map_of_mem (f := (·.spec)) mem)).length)
    (records.map (·.values))
    (fun row mem => by
      obtain ⟨record, inside, rfl⟩ := List.mem_map.mp mem
      exact (matching record inside).2)
    (by rwa [← content])
  rw [List.map_map] at data
  let decoded :=
    records.map fun record => Record.data { fields := resolved, values := record.values }
  have values : parseRecords clock observationDomainId rows.id rows.content w =
      (some ([], decoded),
        { w with ticks, parser := learnElementTypes observationDomainId decoded w.parser }) := by
    rw [content]
    refine (parseRecords_data valid).trans ?_
    rw [data]
    rfl
  obtain ⟨packet, parsing, same⟩ :=
    parse_encoded (.new exportTime sequenceNumber observationDomainId [template, rows])
    rfl (Nat.lt_succ_of_le short) (.cons read (.cons values (.nil _)))
  exact ⟨packet, _, parsing, same⟩

/-- A counter of reduced size beside a variable-length name. -/
def interfaceTotals : List FieldSpecifier :=
  [FieldSpecifier.iana 85 3, FieldSpecifier.iana 82 IPFIX_VARIABLE_LENGTH]

def interfaceRegistry : IERegistry :=
  (IERegistry.new.addElement 85 none "octetTotalCount" .unsigned).addElement 82 none
    "interfaceName" .string

def interfaceRecord : DataRecord where
  fields := resolveFields interfaceRegistry ElementTypes.default 7 interfaceTotals
  values := [.unsigned32 70000, .string "eth0"]

theorem interfaceRecord_decodes :
    ∃ packet w', parse (fun _ => 0) (IpfixPacket.new ⟨0⟩ 1 7
        [Set.new IPFIX_TEMPLATE_SET_ID [.template (TemplateRecord.new 256 interfaceTotals)],
          Set.new 256 ([interfaceRecord].map .data)]).encode
            (World.new (fun _ => 0) interfaceRegistry 1) =
          (some ([], packet), w') ∧
      packet.sets.map (fun set => (set.id, set.records)) =
        [(IPFIX_TEMPLATE_SET_ID, [.template (TemplateRecord.new 256 interfaceTotals)]),
          (256, [interfaceRecord].map fun record =>
            .data {
              fields := resolveFields interfaceRegistry ElementTypes.default 7 interfaceTotals
              values := record.values })] :=
  have wellFormed : ∀ spec ∈ interfaceTotals, spec.WellFormed := by
    intro spec mem
    obtain rfl | rfl := List.mem_pair.mp mem
    · exact ⟨by decide, rfl, by decide⟩
    · exact ⟨by decide, rfl, by decide⟩
  have matching : ∀ record ∈ [interfaceRecord], record.fields.map (·.spec) = interfaceTotals ∧
      MatchesFields (resolveFields interfaceRegistry ElementTypes.default 7 interfaceTotals)
        record.values := by
    intro record mem
    obtain rfl := List.mem_singleton.mp mem
    refine ⟨rfl, .cons ?_ (.cons ?_ .nil)⟩
    · exact .unsigned24 70000 (by decide)
    · exact .string 4 "eth0" (by decide) (by decide)
  decode_encode (fun _ => 0) interfaceRegistry 1 ⟨0⟩ 1 7 (by decide) (by decide) (by decide)
    wellFormed matching
    (by decide +kernel) (by decide)

end

end Rustflow.Ipfix
