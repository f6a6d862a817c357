import Rustflow.NetflowV9.Numbers

/-!
# Two readings of a sampling rate

Of the fields for a rate an options record is read by its first, usable or not, and a data record by
the first usable one. Once resolved, a scope field is one of them if its scope type has such a
number.
-/

namespace Rustflow.NetflowV9
open InformationElement

/-- The numbers of the elements for a rate. -/
def isRateType (type : UInt16) : Bool :=
  type = samplingInterval.toId ∨ type = samplingPacketInterval.toId ∨
    type = samplerRandomInterval.toId

theorem isRateType_eq (type : UInt16) : isRateType type = (fromId type).any isRate := by
  cases found : fromId type with
  | some ie =>
    rw [← toId_of_fromId found]
    cases ie <;> rfl
  | none =>
    have other : ∀ ie : InformationElement, type ≠ ie.toId := by
      rintro ie rfl
      rw [fromId_toId] at found
      cases found
    simp [isRateType, other]

theorem rateOf_eq (entry : TemplateField × String × FieldValue) :
    rateOf entry = if isRateType entry.1.type then extractU32 entry.2.2 else none := by
  rw [isRateType_eq, rateOf]
  cases fromId entry.1.type <;> rfl

/-- The first field for a rate holds one, or none does. -/
def FirstRateUsable (record : DataRecord) : Prop :=
  ∀ first, record.iter.find? (fun entry => isRateType entry.1.type) = some first →
    (∃ entry ∈ record.iter, isRateType entry.1.type ∧ (extractU32 entry.2.2).isSome) →
    (extractU32 first.2.2).isSome

theorem extractSamplingRate_eq (record : DataRecord) :
    extractSamplingRate record =
      (record.iter.find? fun entry => isRateType entry.1.type).bind fun entry =>
        extractU32 entry.2.2 := rfl

/-- The rate `convert` takes from the record itself. -/
theorem samplingRate_convert (header : Header) (samplerAddress : Option IpAddr)
    (record : DataRecord) (templateId : UInt16) :
    (NetFlowV9Context.convert ⟨header, samplerAddress, none⟩ record templateId).samplingRate =
      record.iter.findSome? fun entry => if isRateType entry.1.type then extractU32 entry.2.2
      else none := by
  have first :=
    Writes.foldl_first (NetFlowV9Context.recordRate_readField ⟨header, samplerAddress, none⟩)
      record.iter
  have drafted :
      (NetFlowV9Context.convert ⟨header, samplerAddress, none⟩ record templateId).samplingRate =
      (NetFlowV9Context.draftOf ⟨header, samplerAddress, none⟩ record templateId).recordRate :=
    Option.or_none
  rw [drafted, NetFlowV9Context.draftOf, first, Option.none_or]
  exact congrArg (fun rate => record.iter.findSome? rate) (funext rateOf_eq)

/-! ### Scope fields -/

/-- The number a field of an options template has once resolved. -/
def OptionsTemplateField.number : OptionsTemplateField → UInt16
  | .scope field => field.type.toU16
  | .option field => field.type

/-- Values that differ at scope fields at most. -/
def SameOptions (fields : List OptionsTemplateField) (values values' : List FieldValue) : Prop :=
  values.length = values'.length ∧
    ∀ (i : Nat) (field : TemplateField), fields[i]? = some (OptionsTemplateField.option field) →
      values[i]? = values'[i]?

/-- The first field for a rate that a value is sent for is no scope field. -/
def FirstRateIsOption (fields : List OptionsTemplateField) (values : List FieldValue) : Prop :=
  ∀ scope value, (fields.zip values).find? (fun entry => isRateType entry.1.number) ≠
    some (.scope scope, value)

def OptionsTemplateRecord.record (self : OptionsTemplateRecord) (registry : IERegistry)
    (values : List FieldValue) :
    DataRecord := ⟨self.resolve registry, values⟩

theorem extractSamplingRate_record (registry : IERegistry) (template : OptionsTemplateRecord)
    (values : List FieldValue) :
    extractSamplingRate (template.record registry values) =
      ((template.fields.zip values).find? fun entry => isRateType entry.1.number).bind fun entry =>
        extractU32 entry.2 := by
  rw [extractSamplingRate_eq]
  show ((List.zipWith _ (template.fields.map (OptionsTemplateField.resolve registry)) values).find?
    _).bind _ = _
  generalize template.fields = fields
  induction fields generalizing values with
  | nil => rfl
  | cons field fields ih =>
    cases values with
    | nil => rfl
    | cons value values =>
      have number : (OptionsTemplateField.resolve registry field).spec.type = field.number := by
        cases field with
        | scope field => rfl
        | option field =>
          unfold OptionsTemplateField.resolve ResolvedField.fromRegistry
          dsimp only
          split <;> rfl
      rw [List.map_cons, List.zipWith_cons_cons, List.zip_cons_cons, List.find?_cons,
        List.find?_cons]
      dsimp only
      rw [number]
      cases isRateType field.number with
      | true => rfl
      | false => exact ih values

theorem SameOptions.tail {field : OptionsTemplateField} {fields : List OptionsTemplateField}
    {value value' : FieldValue} {values values' : List FieldValue}
    (same : SameOptions (field :: fields) (value :: values) (value' :: values')) :
    SameOptions fields values values' :=
  ⟨Nat.succ.inj same.1, fun i field found => same.2 (i + 1) field found⟩

/-- Where an option field comes first, values at scope fields do not matter. -/
theorem find_sameOptions {fields : List OptionsTemplateField} {values values' : List FieldValue}
    (first : FirstRateIsOption fields values) (same : SameOptions fields values values') :
    (fields.zip values').find? (fun entry => isRateType entry.1.number) =
      (fields.zip values).find? fun entry => isRateType entry.1.number := by
  induction fields generalizing values values' with
  | nil => rfl
  | cons field fields ih =>
    cases values with
    | nil =>
      have none : values' = [] := List.eq_nil_of_length_eq_zero same.1.symm
      rw [none]
    | cons value values =>
      cases values' with
      | nil => exact absurd same.1 (Nat.succ_ne_zero _)
      | cons value' values' =>
        unfold FirstRateIsOption at first
        rw [List.zip_cons_cons, List.find?_cons] at first ⊢
        rw [List.zip_cons_cons, List.find?_cons]
        dsimp only at first ⊢
        cases candidate : isRateType field.number with
        | false =>
          rw [candidate] at first
          exact ih first same.tail
        | true =>
          rw [candidate] at first
          cases field with
          | scope scope => exact absurd rfl (first scope value)
          | option field =>
            have equal : some value = some value' := same.2 0 field rfl
            rw [Option.some.inj equal]

/-- Where a scope field comes first, its value can be any other. -/
theorem exists_sameOptions {fields : List OptionsTemplateField} {values : List FieldValue}
    {scope : ScopeField} {value : FieldValue}
    (first : (fields.zip values).find? (fun entry => isRateType entry.1.number) =
      some (.scope scope, value))
    (other : FieldValue) :
    ∃ values', SameOptions fields values values' ∧
      (fields.zip values').find? (fun entry => isRateType entry.1.number) =
        some (.scope scope, other) := by
  induction fields generalizing values with
  | nil => cases first
  | cons field fields ih =>
    cases values with
    | nil => cases first
    | cons here values =>
      rw [List.zip_cons_cons, List.find?_cons] at first
      dsimp only at first
      cases candidate : isRateType field.number with
      | true =>
        rw [candidate] at first
        cases first
        refine ⟨other :: values, ⟨rfl, fun i option found => ?_⟩, ?_⟩
        · cases i with
          | zero => cases found
          | succ i => rfl
        · rw [List.zip_cons_cons, List.find?_cons]
          dsimp only
          rw [candidate]
      | false =>
        rw [candidate] at first
        obtain ⟨values', same, found⟩ := ih first
        refine ⟨here :: values', ⟨congrArg Nat.succ same.1, fun i option found => ?_⟩, ?_⟩
        · cases i with
          | zero => rfl
          | succ i => exact same.2 i option found
        · rw [List.zip_cons_cons, List.find?_cons]
          dsimp only
          rw [candidate]
          exact found

theorem scope_values_unread_iff (registry : IERegistry) (template : OptionsTemplateRecord)
    (values : List FieldValue) :
    (∀ values', SameOptions template.fields values values' →
        extractSamplingRate (template.record registry values') =
          extractSamplingRate (template.record registry values)) ↔
      FirstRateIsOption template.fields values := by
  simp only [extractSamplingRate_record]
  constructor
  · intro unread scope value first
    obtain ⟨values', same, found⟩ := exists_sameOptions first (.unsigned32 1)
    obtain ⟨values'', same', found'⟩ := exists_sameOptions first (.unsigned32 2)
    have one := unread values' same
    rw [found, ← unread values'' same', found'] at one
    have equal : some (1 : UInt32) = some 2 := one
    exact absurd equal (by decide)
  · intro first values' same
    rw [find_sameOptions first same]

/-! ### Main result -/

/-- The rate read from a record as an options record is the one a data record would have of itself,
exactly where its first field for a rate is usable or none is; and that reading of an options record
depends on the option fields alone, exactly where the first field for a rate is no scope field. -/
theorem one_reading_iff (header : Header) (samplerAddress : Option IpAddr) (record : DataRecord)
    (templateId : UInt16) (registry : IERegistry) (template : OptionsTemplateRecord)
    (values : List FieldValue) :
    (extractSamplingRate record =
        (NetFlowV9Context.convert ⟨header, samplerAddress, none⟩ record templateId).samplingRate ↔
      FirstRateUsable record) ∧
    ((∀ values', SameOptions template.fields values values' →
        extractSamplingRate (template.record registry values') =
          extractSamplingRate (template.record registry values)) ↔
      FirstRateIsOption template.fields values) := by
  refine ⟨?_, scope_values_unread_iff registry template values⟩
  rw [samplingRate_convert, extractSamplingRate_eq]
  exact Writes.find_bind_eq_findSome

/-- A rate that does not fit 32 bits before one that does, and a scope type with the number of
`samplingInterval` before an option field for a rate. -/
theorem two_readings :
    (¬∀ header samplerAddress record templateId,
      extractSamplingRate record =
        (NetFlowV9Context.convert ⟨header, samplerAddress, none⟩ record templateId).samplingRate) ∧
    ¬∀ registry (template : OptionsTemplateRecord) values values',
      SameOptions template.fields values values' →
      extractSamplingRate (template.record registry values') =
        extractSamplingRate (template.record registry values) := by
  constructor
  · intro alike
    have read := alike ⟨9, 1, 0, ⟨0⟩, 0, 0⟩ none
      ⟨[⟨⟨34, 8⟩, .unsigned, "samplingInterval"⟩, ⟨⟨50, 2⟩, .unsigned, "samplerRandomInterval"⟩],
        [.unsigned64 0x100000000, .unsigned16 100]⟩ 256
    exact absurd read (by decide)
  · intro unread
    have same :
        SameOptions [.scope ⟨.unknown 34, 4⟩, .option ⟨50, 2⟩] [.unsigned32 7, .unsigned16 100]
        [.unsigned32 8, .unsigned16 100] := by
      refine ⟨rfl, fun i field found => ?_⟩
      match i with
      | 0 => cases found
      | 1 | _ + 2 => rfl
    have read := unread .new ⟨257, 4, 4, [.scope ⟨.unknown 34, 4⟩, .option ⟨50, 2⟩]⟩ _ _ same
    exact absurd read (by decide)

end Rustflow.NetflowV9
