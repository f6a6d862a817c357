import Rustflow.Ipfix.Progress

/-!
# What a set does

Everything that reading the contents of a set can do to the world: a template set applies its
records in order and never fails, a data set leaves the templates alone but for the types it
teaches, and a set of any other ID is passed over.
-/

namespace Rustflow.Ipfix
open Combinator

section
variable {clock : Nat → Instant} {domain : UInt32} {input : List UInt8} {w : World}

/-- The records of a data set, read at the top level. -/
def parseDataSet (clock : Nat → Instant) (self : IpfixParser) (domain : UInt32) (setId : UInt16) :
    ParserM Nat (List Record) :=
  parseTemplatedRecords clock self (parseFieldValue clock self domain MAX_LIST_DEPTH) domain setId

theorem parseTemplatedRecords_keeps {self : IpfixParser} {parseValue : ValueParser} {I : Nat → Prop}
    (tick : ∀ n, I n → I (n + 1)) (each : ∀ dataType length input n, I n →
      I (parseValue dataType length input n).2)
    (id : UInt16) (input : List UInt8) (n : Nat) (h : I n) :
    I (parseTemplatedRecords clock self parseValue domain id input n).2 := by
  refine parseDescribedRecords_keeps tick (fun fields => ?_) input n h
  refine bindM_keeps ?_ fun _ _ _ h => h
  induction fields with
  | nil => exact fun _ _ h => h
  | cons field fields more =>
    refine bindM_keeps (fun _ _ h => h) fun length => ?_
    refine bindM_keeps (each field.dataType length) fun value => ?_
    exact bindM_keeps more fun _ _ _ h => h

theorem parseFieldValue_keeps {self : IpfixParser} {I : Nat → Prop} (tick : ∀ n, I n → I (n + 1))
    (levels : Nat) (dataType : DataType) (length : Nat) (input : List UInt8) (ticks : Nat)
    (h : I ticks) :
    I (parseFieldValue clock self domain levels dataType length input ticks).2 := by
  induction levels generalizing dataType length input ticks with
  | zero => exact h
  | succ levels ih =>
    have templated : ∀ id input n, I n →
        I (parseTemplatedRecords clock self (parseFieldValue clock self domain levels) domain id
          input n).2 :=
      parseTemplatedRecords_keeps tick ih
    cases dataType with
    | basicList =>
      refine mapParser_keeps ?_ input ticks h
      refine bindM_keeps (fun _ _ h => h) fun semantic => ?_
      refine bindM_keeps (fun _ _ h => h) fun field => ?_
      refine bindM_keeps (untilEmpty_keeps ?_) fun _ _ _ h => h
      refine bindM_keeps (fun _ _ h => h) fun length => ?_
      refine bindM_keeps (fun _ _ h => h) fun left => ?_
      split
      · exact fun _ _ h => h
      · exact bindM_keeps (ih _ _) fun _ _ _ h => h
    | subTemplateList =>
      refine mapParser_keeps ?_ input ticks h
      refine bindM_keeps (fun _ _ h => h) fun semantic => ?_
      refine bindM_keeps (fun _ _ h => h) fun id => ?_
      exact bindM_keeps (templated id) fun _ _ _ h => h
    | subTemplateMultiList =>
      refine mapParser_keeps ?_ input ticks h
      refine bindM_keeps (fun _ _ h => h) fun semantic => ?_
      refine bindM_keeps (untilEmpty_keeps ?_) fun _ _ _ h => h
      refine bindM_keeps (fun _ _ h => h) fun id => ?_
      refine bindM_keeps (fun _ _ h => h) fun length => ?_
      by_cases empty : length.toNat - 4 = 0
      · rw [if_pos empty]
        exact fun _ _ h => h
      · rw [if_neg empty]
        exact bindM_keeps (mapParser_keeps (templated id)) fun _ _ _ h => h
    | _ => exact h

variable (clock domain) in
theorem parseDataSet_keeps (self : IpfixParser) {I : Nat → Prop} (tick : ∀ n, I n → I (n + 1))
    (id : UInt16) (input : List UInt8) (ticks : Nat) (h : I ticks) :
    I (parseDataSet clock self domain id input ticks).2 :=
  parseTemplatedRecords_keeps tick (parseFieldValue_keeps tick MAX_LIST_DEPTH) id input ticks h

theorem cache_setCache (parser : IpfixParser) (cache : Templates) (kind : TemplateKind) :
    (parser.setCache cache kind).cache = Function.update parser.cache kind cache := by
  funext kind'
  cases kind <;> cases kind' <;> rfl

theorem spec_resolveField (registry : IERegistry) (elementTypes : ElementTypes) (domain : UInt32)
    (spec : FieldSpecifier) :
    (resolveField registry elementTypes domain spec).spec = spec := by
  unfold resolveField
  split <;> rfl

theorem specs_resolveFields (registry : IERegistry) (elementTypes : ElementTypes) (domain : UInt32)
    (specs : List FieldSpecifier) :
    (resolveFields registry elementTypes domain specs).map (·.spec) = specs := by
  simp only [resolveFields, List.map_map, Function.comp_def, spec_resolveField, List.map_id']

theorem length_resolveFields (registry : IERegistry) (elementTypes : ElementTypes)
    (domain : UInt32) (specs : List FieldSpecifier) :
    (resolveFields registry elementTypes domain specs).length = specs.length :=
  List.length_map _

/-- Resolved anew, a template keeps its length. -/
theorem length_resolveFields_specs (registry : IERegistry) (elementTypes : ElementTypes)
    (domain : UInt32) (fields : List ResolvedField) :
    (resolveFields registry elementTypes domain (fields.map (·.spec))).length = fields.length := by
  rw [length_resolveFields, List.length_map]

theorem defineTemplate_cases (clock : Nat → Instant) (kind : TemplateKind) (domain : UInt32)
    (w : World) (template : UInt16 × List FieldSpecifier) :
    defineTemplate clock kind domain w template = w ∨
      defineTemplate clock kind domain w template = withdrawDomain kind domain w ∨
      defineTemplate clock kind domain w template = withdrawTemplate kind (domain, template.1) w ∨
      defineTemplate clock kind domain w template =
        insertTemplate clock kind (domain, template.1) template.2 w := by
  simp only [defineTemplate, withdrawTemplates]
  split_ifs
  · exact .inr (.inl rfl)
  · exact .inr (.inr (.inl rfl))
  · exact .inr (.inr (.inr rfl))
  · exact .inl rfl

theorem defineTemplate_insert (kind : TemplateKind) (w : World) {id : UInt16}
    {specs : List FieldSpecifier} (nonempty : specs ≠ [])
    (valid : IPFIX_VALID_TEMPLATE_ID_MIN ≤ id) :
    defineTemplate clock kind domain w (id, specs) =
      insertTemplate clock kind (domain, id) specs w := by
  rw [defineTemplate, if_neg (by simpa using nonempty), if_pos valid]

/-- What learning can do to the caches: nothing, or resolve the domain's templates anew. -/
theorem cache_learnElementTypes (domain : UInt32) (records : List Record) (parser : IpfixParser) :
    let learned := learnAll parser.ieRegistry domain records parser.elementTypes
    let resolve := fun fields : List ResolvedField =>
      resolveFields parser.ieRegistry learned.1 domain (fields.map (·.spec))
    (learnElementTypes domain records parser).ieRegistry = parser.ieRegistry ∧
      (learnElementTypes domain records parser).elementTypes = learned.1 ∧
      (learned.2 = false ∧ (learnElementTypes domain records parser).cache = parser.cache ∨
        learned.2 = true ∧
          (learnElementTypes domain records parser).cache = fun kind =>
            (parser.cache kind).refreshDomain domain resolve) := by
  intro learned resolve
  have whole : learnElementTypes domain records parser =
      if !learned.2 then { parser with elementTypes := learned.1 }
      else { parser with
        elementTypes := learned.1
        templates := parser.templates.refreshDomain domain resolve
        optionsTemplates := parser.optionsTemplates.refreshDomain domain resolve } := rfl
  rw [whole]
  cases learned.2 with
  | false => exact ⟨rfl, rfl, .inl ⟨rfl, funext fun kind => by cases kind <;> rfl⟩⟩
  | true => exact ⟨rfl, rfl, .inr ⟨rfl, funext fun kind => by cases kind <;> rfl⟩⟩

/-- Records that describe no element teach nothing. -/
theorem learnElementTypes_plain {domain : UInt32} {records : List Record} (parser : IpfixParser)
    (plain : ∀ record, .optionsData record ∈ records → Description.read record = none) :
    learnElementTypes domain records parser = parser := by
  have nothing : learnAll parser.ieRegistry domain records parser.elementTypes =
      (parser.elementTypes, false) := by
    refine List.foldlRecOn (motive := (· = (parser.elementTypes, false))) records _ rfl
      fun learned before record mem => ?_
    subst before
    cases record with
    | optionsData record =>
      dsimp only
      rw [ElementTypes.learn, plain record mem]
      rfl
    | _ => rfl
  rw [learnElementTypes, nothing]
  rfl

/-- A template record of either kind, as a definition or a withdrawal. -/
def Record.definition? : Record → Option (TemplateKind × UInt16 × List FieldSpecifier)
  | .template t => some (.data, t.templateId, t.fields)
  | .optionsTemplate t => some (.options, t.templateId, t.fields)
  | _ => none

/-- What the template records of a set do, in order. -/
def defineAll (clock : Nat → Instant) (domain : UInt32) (records : List Record)
    (w : World) : World :=
  (records.filterMap Record.definition?).foldl (fun w d => defineTemplate clock d.1 domain w d.2) w

theorem parseRecords_readTemplates {rest : List UInt8} {templates : List TemplateRecord}
    (read : parseTemplateRecord.many0 input = some (rest, templates)) :
    parseRecords clock domain IPFIX_TEMPLATE_SET_ID input w = (some (rest, templates.map .template),
      templates.foldl (fun w t => defineTemplate clock .data domain w (t.templateId, t.fields))
        w) := by
  rw [parseRecords, if_pos rfl]
  exact bindM_of_some (Prod.ext read rfl : (liftM parseTemplateRecord.many0 : ParserM World _) input
    w = (_, w))

theorem parseRecords_readOptionsTemplates {rest : List UInt8}
    {templates : List OptionsTemplateRecord}
    (read : parseOptionsTemplateRecord.many0 input = some (rest, templates)) :
    parseRecords clock domain IPFIX_OPTIONS_TEMPLATE_SET_ID input w =
      (some (rest, templates.map .optionsTemplate),
      templates.foldl (fun w t => defineTemplate clock .options domain w (t.templateId, t.fields))
        w) := by
  rw [parseRecords, if_neg (by decide), if_pos rfl]
  exact bindM_of_some (Prod.ext read
    rfl : (liftM parseOptionsTemplateRecord.many0 : ParserM World _) input w = (_, w))

variable (clock domain input w) in
/-- A template set is always read, and does what the records returned say. -/
theorem parseRecords_templateSet (kind : TemplateKind) :
    ∃ rest records, parseRecords clock domain (TemplateKind.setId kind) input w =
        (some (rest, records), defineAll clock domain records w) ∧
      ∀ record ∈ records, ∃ definition, record.definition? = some (kind, definition) := by
  cases kind with
  | data =>
    obtain ⟨rest, templates, run⟩ := Parser.many0_ok (k := 3) shrinks_parseTemplateRecord input
    refine ⟨rest, templates.map .template, ?_, fun record mem => ?_⟩
    · rw [defineAll, List.filterMap_map,
        show Record.definition? ∘ Record.template = some ∘ fun t => (.data, t.templateId, t.fields)
        from rfl, List.filterMap_eq_map, List.foldl_map]
      exact parseRecords_readTemplates run
    · obtain ⟨t, -, rfl⟩ := List.mem_map.mp mem
      exact ⟨_, rfl⟩
  | options =>
    obtain ⟨rest, templates, run⟩ :=
      Parser.many0_ok (k := 3) shrinks_parseOptionsTemplateRecord input
    refine ⟨rest, templates.map .optionsTemplate, ?_, fun record mem => ?_⟩
    · rw [defineAll, List.filterMap_map,
        show Record.definition? ∘ Record.optionsTemplate = some ∘ fun t =>
          (.options, t.templateId, t.fields) from rfl,
        List.filterMap_eq_map, List.foldl_map]
      exact parseRecords_readOptionsTemplates run
    · obtain ⟨t, -, rfl⟩ := List.mem_map.mp mem
      exact ⟨_, rfl⟩

variable (clock domain input w) in
theorem parseRecords_templates (kind : TemplateKind) :
    ∃ rest records, ∃ definitions : List (UInt16 × List FieldSpecifier),
      parseRecords clock domain (TemplateKind.setId kind) input w =
      (some (rest, records), definitions.foldl (defineTemplate clock kind domain) w) := by
  obtain ⟨rest, records, run, each⟩ := parseRecords_templateSet clock domain input w kind
  refine ⟨rest, records, (records.filterMap Record.definition?).map (·.2), ?_⟩
  have same : ∀ d ∈ records.filterMap Record.definition?, d.1 = kind := by
    intro d mem
    obtain ⟨record, inside, found⟩ := List.mem_filterMap.mp mem
    obtain ⟨definition, found'⟩ := each record inside
    rw [found] at found'
    cases found'
    rfl
  rw [run, defineAll, List.foldl_map]
  congr 1
  exact List.foldl_ext _ _ _ fun w d mem => by rw [same d mem]

theorem setId_lt (kind : TemplateKind) : TemplateKind.setId kind < IPFIX_VALID_TEMPLATE_ID_MIN := by
  cases kind <;> decide

theorem parseRecords_data {setId : UInt16} (valid : IPFIX_VALID_TEMPLATE_ID_MIN ≤ setId) :
    parseRecords clock domain setId input w =
      match parseDataSet clock w.parser domain setId input w.ticks with
      | (none, ticks) => (none, { w with ticks })
      | (some (rest, records), ticks) =>
        (some (rest, records),
          { w with ticks, parser := learnElementTypes domain records w.parser }) := by
  have differs : ∀ kind, setId ≠ TemplateKind.setId kind := by
    rintro kind rfl
    exact absurd valid (UInt16.not_le.mpr (setId_lt kind))
  have notData : setId ≠ IPFIX_TEMPLATE_SET_ID := differs .data
  have notOptions : setId ≠ IPFIX_OPTIONS_TEMPLATE_SET_ID := differs .options
  rw [parseRecords, if_neg notData, if_neg notOptions, if_pos valid]
  rcases run : parseDataSet clock w.parser domain setId input w.ticks
    with ⟨_ | ⟨rest, records⟩, ticks⟩
  · have borrowed :
        (World.borrow fun self => parseDataSet clock self domain setId : ParserM World _) input w =
        (none, { w with ticks }) := by simp only [World.borrow, run]
    exact bindM_of_none borrowed
  · have borrowed :
        (World.borrow fun self => parseDataSet clock self domain setId : ParserM World _) input w =
        (some (rest, records), { w with ticks }) := by simp only [World.borrow, run]
    exact bindM_of_some borrowed

theorem parseRecords_other {setId : UInt16} (notTemplates : ∀ kind, setId ≠ TemplateKind.setId kind)
    (invalid : ¬ IPFIX_VALID_TEMPLATE_ID_MIN ≤ setId) :
    parseRecords clock domain setId input w = (some (input, []), w) := by
  have notData : setId ≠ IPFIX_TEMPLATE_SET_ID := notTemplates .data
  have notOptions : setId ≠ IPFIX_OPTIONS_TEMPLATE_SET_ID := notTemplates .options
  rw [parseRecords, if_neg notData, if_neg notOptions, if_neg invalid]
  rfl

theorem parse_keeps {I : World → Prop}
    (each : ∀ domain setId content w, I w → I (parseRecords clock domain setId content w).2)
    (message : List UInt8) (w : World) (h : I w) : I (parse clock message w).2 := by
  refine bindM_keeps (fun _ _ h => h) (fun header => ?_) message w h
  refine bindM_keeps (mapParser_keeps (many0_keeps ?_)) fun _ _ _ h => h
  exact parseFramedSet_keeps (each header.observationDomainId)

/-- Every history of messages leads through such states. -/
theorem reachable_run {registry : IERegistry} {timeout : Duration} (messages : List (List UInt8)) :
    Reachable clock registry timeout
      (World.run clock (World.new clock registry timeout) messages) := by
  have from_ : ∀ w, Reachable clock registry timeout w →
      Reachable clock registry timeout (World.run clock w messages) := by
    induction messages with
    | nil => exact fun w h => h
    | cons message messages ih =>
      exact fun w h => ih _ (parse_keeps (fun domain setId content _ h =>
        h.set domain setId content) message w h)
  exact from_ _ .new

theorem setId_cases (setId : UInt16) :
    (∃ kind, setId = TemplateKind.setId kind) ∨ IPFIX_VALID_TEMPLATE_ID_MIN ≤ setId ∨
      (∀ kind, setId ≠ TemplateKind.setId kind) ∧ ¬ IPFIX_VALID_TEMPLATE_ID_MIN ≤ setId := by
  by_cases templates : ∃ kind, setId = TemplateKind.setId kind
  · exact .inl templates
  · rw [not_exists] at templates
    by_cases valid : IPFIX_VALID_TEMPLATE_ID_MIN ≤ setId
    · exact .inr (.inl valid)
    · exact .inr (.inr ⟨templates, valid⟩)

end

end Rustflow.Ipfix
