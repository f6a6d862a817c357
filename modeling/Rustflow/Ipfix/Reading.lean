import Rustflow.Ipfix.Steps

/-!
# What a packet was read from

Every value of a packet came out of the value parser, in a field of the declared length: the
elements of lists, the values of their records, and those of the packet's own.
-/

namespace Rustflow.Ipfix
open Combinator

/-- A value that was read in a field of a declared length. -/
def ReadIn (parseValue : ValueParser) (fieldLength : UInt16) (dataType : DataType)
    (value : FieldValue) : Prop :=
  ∃ input mid length ticks rest ticks', parseFieldLength fieldLength input = some (mid, length) ∧
    parseValue dataType length mid ticks = (some (rest, value), ticks')

/-- A record whose values were read, each in its field. -/
def RecordRead (parseValue : ValueParser) (record : DataRecord) : Prop :=
  List.Forall₂ (fun field value => ReadIn parseValue field.spec.fieldLength field.dataType value)
    record.fields record.values

theorem RecordRead.of_mem {parseValue : ValueParser} {record : DataRecord}
    (read : RecordRead parseValue record) {value : FieldValue} (mem : value ∈ record.values) :
    ∃ fieldLength dataType, ReadIn parseValue fieldLength dataType value := by
  obtain ⟨fields, values⟩ := record
  change List.Forall₂ _ fields values at read
  change value ∈ values at mem
  induction read with
  | nil => cases mem
  | cons head _ ih =>
    obtain rfl | mem := List.mem_cons.mp mem
    · exact ⟨_, _, head⟩
    · exact ih mem

theorem parseFieldLength_fixed {fieldLength : UInt16} {input rest : List UInt8} {length : Nat}
    (run : parseFieldLength fieldLength input = some (rest, length))
    (fixed : fieldLength ≠ IPFIX_VARIABLE_LENGTH) :
    length = fieldLength.toNat := by
  rw [parseFieldLength, if_pos fixed] at run
  cases run
  rfl

section
variable {clock : Nat → Instant} {self : IpfixParser} {domain : UInt32} {parseValue : ValueParser}

theorem parseFields_read {fields : List ResolvedField} {input rest : List UInt8}
    {ticks ticks' : Nat} {values : List FieldValue}
    (run : parseFields parseValue fields input ticks = (some (rest, values), ticks')) :
    RecordRead parseValue { fields, values } := by
  induction fields generalizing input ticks values with
  | nil =>
    cases run
    exact .nil
  | cons field fields ih =>
    obtain ⟨mid, length, t, first, run⟩ := bindM_eq_some.mp run
    obtain ⟨mid', value, t', second, run⟩ := bindM_eq_some.mp run
    obtain ⟨mid'', others, t'', third, run⟩ := bindM_eq_some.mp run
    cases run
    exact .cons ⟨input, mid, length, t, mid', t', congrArg Prod.fst first, second⟩ (ih third)

theorem parseTemplatedRecords_read {id : UInt16} {input rest : List UInt8} {ticks ticks' : Nat}
    {records : List Record}
    (run : parseTemplatedRecords clock self parseValue domain id input ticks =
      (some (rest, records), ticks')) :
    ∀ record ∈ records.filterMap Record.dataRecord?, RecordRead parseValue record := by
  have each := parseDescribedRecords_forall
    (Q := fun record => ∀ data, record.dataRecord? = some data → RecordRead parseValue data) ?_ run
  · intro data mem
    obtain ⟨record, inside, found⟩ := List.mem_filterMap.mp mem
    exact each record inside data found
  · intro kind fields input ticks rest record ticks' run data found
    obtain ⟨_, values, _, first, run⟩ := bindM_eq_some.mp run
    cases run
    have same : data = { fields, values } := by cases kind <;> exact (Option.some.inj found).symm
    rw [same]
    exact parseFields_read first

theorem basicListTurn_next {field : FieldSpecifier} {dataType : DataType} {input rest : List UInt8}
    {ticks ticks' : Nat} {item : Option FieldValue}
    (turn : basicListTurn parseValue field dataType input ticks =
      (some (rest, .next item), ticks')) :
    ∃ mid length t value, parseFieldLength field.fieldLength input = some (mid, length) ∧
      parseValue dataType length mid t = (some (rest, value), ticks') ∧ item = some value := by
  obtain ⟨mid, length, t, first, turn⟩ := bindM_eq_some.mp turn
  obtain ⟨_, left, _, counted, turn⟩ := bindM_eq_some.mp turn
  cases counted
  split at turn
  · cases turn
  · obtain ⟨_, value, _, read, turn⟩ := bindM_eq_some.mp turn
    cases turn
    exact ⟨mid, length, t, value, congrArg Prod.fst first, read, rfl⟩

theorem basicListTurn_read {field : FieldSpecifier} {dataType : DataType} {input rest : List UInt8}
    {ticks ticks' : Nat} {element : FieldValue}
    (turn : basicListTurn parseValue field dataType input ticks =
      (some (rest, .next (some element)), ticks')) :
    ReadIn parseValue field.fieldLength dataType element := by
  obtain ⟨mid, length, t, value, first, read, same⟩ := basicListTurn_next turn
  cases same
  exact ⟨input, mid, length, t, _, _, first, read⟩

theorem parseBasicList_read {length : Nat} {input rest : List UInt8} {ticks ticks' : Nat}
    {value : FieldValue} (run : parseBasicList self parseValue domain length input ticks =
      (some (rest, value), ticks')) :
    ∃ semantic field content dataType, value = .basicList semantic field content ∧
      ∀ element ∈ content, ReadIn parseValue field.fieldLength dataType element := by
  obtain ⟨slice, left, _, run⟩ := mapParser_eq_some.mp run
  obtain ⟨_, semantic, _, _, run⟩ := bindM_eq_some.mp run
  obtain ⟨_, field, _, _, run⟩ := bindM_eq_some.mp run
  obtain ⟨_, content, _, turns, run⟩ := bindM_eq_some.mp run
  cases run
  have elements := untilEmpty_forall (fun _ _ _ _ _ turn => basicListTurn_read turn) turns
  exact ⟨_, field, content, _, rfl, elements⟩

theorem parseSubTemplateList_read {length : Nat} {input rest : List UInt8} {ticks ticks' : Nat}
    {value : FieldValue}
    (run : parseSubTemplateList clock self parseValue domain length input ticks =
      (some (rest, value), ticks')) :
    ∃ semantic templateId data, value = .subTemplateList semantic templateId data ∧
      ∀ record ∈ data, RecordRead parseValue record := by
  obtain ⟨slice, left, _, run⟩ := mapParser_eq_some.mp run
  obtain ⟨_, semantic, _, _, run⟩ := bindM_eq_some.mp run
  obtain ⟨_, id, _, _, run⟩ := bindM_eq_some.mp run
  obtain ⟨_, records, _, read, run⟩ := bindM_eq_some.mp run
  cases run
  exact ⟨_, id, _, rfl, parseTemplatedRecords_read read⟩

theorem parseSubTemplateMultiList_read {length : Nat} {input rest : List UInt8} {ticks ticks' : Nat}
    {value : FieldValue}
    (run : parseSubTemplateMultiList clock self parseValue domain length input ticks =
      (some (rest, value), ticks')) :
    ∃ semantic items, value = .subTemplateMultiList semantic items ∧
      ∀ item ∈ items, ∀ record ∈ item.data, RecordRead parseValue record := by
  obtain ⟨slice, left, _, run⟩ := mapParser_eq_some.mp run
  obtain ⟨_, semantic, _, _, run⟩ := bindM_eq_some.mp run
  obtain ⟨_, items, _, turns, run⟩ := bindM_eq_some.mp run
  cases run
  refine ⟨_, items, rfl, untilEmpty_forall ?_ turns⟩
  intro input ticks rest item ticks' turn
  obtain ⟨_, id, _, _, turn⟩ := bindM_eq_some.mp turn
  obtain ⟨_, declared, _, _, turn⟩ := bindM_eq_some.mp turn
  split at turn
  · cases turn
  · obtain ⟨_, records, _, sliced, turn⟩ := bindM_eq_some.mp turn
    cases turn
    obtain ⟨_, _, _, read⟩ := mapParser_eq_some.mp sliced
    exact parseTemplatedRecords_read read

theorem parseFieldValue_read (levels : Nat) {dataType : DataType} {length : Nat}
    {input rest : List UInt8} {ticks ticks' : Nat} {value : FieldValue}
    (run : parseFieldValue clock self domain (levels + 1) dataType length input ticks =
      (some (rest, value), ticks')) :
    parseScalar dataType length input = some (rest, value) ∨
      (∃ semantic field content dataType, value = .basicList semantic field content ∧
        ∀ element ∈ content, ReadIn (parseFieldValue clock self domain levels) field.fieldLength
          dataType element) ∨
      (∃ semantic templateId data, value = .subTemplateList semantic templateId data ∧
        ∀ record ∈ data, RecordRead (parseFieldValue clock self domain levels) record) ∨
      ∃ semantic items, value = .subTemplateMultiList semantic items ∧
        ∀ item ∈ items, ∀ record ∈ item.data,
          RecordRead (parseFieldValue clock self domain levels) record := by
  cases dataType with
  | basicList => exact .inr (.inl (parseBasicList_read run))
  | subTemplateList => exact .inr (.inr (.inl (parseSubTemplateList_read run)))
  | subTemplateMultiList => exact .inr (.inr (.inr (parseSubTemplateMultiList_read run)))
  | _ => exact .inl (congrArg Prod.fst run)

theorem parseRecords_read {id : UInt16} {input rest : List UInt8} {w w' : World}
    {records : List Record} (run : parseRecords clock domain id input w =
      (some (rest, records), w')) :
    ∀ record ∈ records.filterMap Record.dataRecord?,
      RecordRead (parseFieldValue clock w.parser domain MAX_LIST_DEPTH) record := by
  obtain ⟨kind, rfl⟩ | valid | ⟨notTemplates, invalid⟩ := setId_cases id
  · intro record mem
    obtain ⟨_, _, read, each⟩ := parseRecords_templateSet clock domain input w kind
    rw [read] at run
    cases run
    obtain ⟨template, inside, found⟩ := List.mem_filterMap.mp mem
    obtain ⟨definition, defined⟩ := each template inside
    cases template with
    | template => cases found
    | optionsTemplate => cases found
    | data => cases defined
    | optionsData => cases defined
  · rw [parseRecords_data valid] at run
    rcases read : parseDataSet clock w.parser domain id input w.ticks
      with ⟨_ | ⟨left, data⟩, ticks⟩ <;> rw [read] at run <;>
      cases run
    exact parseTemplatedRecords_read read
  · rw [parseRecords_other notTemplates invalid] at run
    cases run
    intro record mem
    cases mem

/-- The records of a packet, each read in the state its set was read in. -/
theorem parse_read {input rest : List UInt8} {w w' : World} {packet : IpfixPacket}
    (run : parse clock input w = (some (rest, packet), w')) :
    ∀ set ∈ packet.sets, ∀ record ∈ set.records.filterMap Record.dataRecord?,
      ∃ self domain, RecordRead (parseFieldValue clock self domain MAX_LIST_DEPTH) record := by
  obtain ⟨_, header, _, _, run⟩ := bindM_eq_some.mp run
  obtain ⟨_, sets, _, read, run⟩ := bindM_eq_some.mp run
  cases run
  obtain ⟨_, _, _, read⟩ := mapParser_eq_some.mp read
  refine many0_forall ?_ read
  intro input s rest set s' framed record mem
  obtain ⟨_, id, _, _, framed⟩ := bindM_eq_some.mp framed
  obtain ⟨_, length, _, _, framed⟩ := bindM_eq_some.mp framed
  split at framed
  · cases framed
  · obtain ⟨_, records, _, sliced, framed⟩ := bindM_eq_some.mp framed
    cases framed
    obtain ⟨_, _, _, contents⟩ := mapParser_eq_some.mp sliced
    exact ⟨_, _, parseRecords_read contents record mem⟩

end

end Rustflow.Ipfix
