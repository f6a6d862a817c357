import Rustflow.Ipfix.CachedTypes
import Rustflow.NetflowV9.Steps

/-!
# What a packet changes

The parsers write their caches from inside combinators that backtrack. A set that fails has not
written anything by then, so what a parser holds after a packet is what the records of the packet
make of what it held before.
-/

namespace Rustflow
open Combinator

/-! ### Records applied in order -/

section
variable {P R S : Type} (clock : Nat → Instant) (apply : Instant → P → R → P)

/-- The records are applied in order, each at a reading of the clock not before that of the last. -/
inductive Applied : P → Nat → List R → P → Nat → Prop where
  | nil (parser : P) {first last : Nat} (le : first ≤ last) : Applied parser first [] parser last
  | cons {parser parser' : P} {first reading last : Nat} {record : R} {records : List
      R} (le : first ≤ reading)
      (others : Applied (apply (clock reading) parser record) reading records parser' last) :
      Applied parser first (record :: records) parser' last

variable {clock apply}

theorem Applied.earlier {parser parser' : P} {start first last : Nat} {records : List R}
    (applied : Applied clock apply parser first records parser' last) (le : start ≤ first) :
    Applied clock apply parser start records parser' last := by
  cases applied with
  | nil _ le' => exact .nil parser (Nat.le_trans le le')
  | cons le' others => exact .cons (Nat.le_trans le le') others

theorem Applied.append {parser mid parser' : P} {first reading last : Nat}
    {records records' : List R} (before : Applied clock apply parser first records mid reading)
    (after : Applied clock apply mid reading records' parser' last) :
    Applied clock apply parser first (records ++ records') parser' last := by
  induction before with
  | nil _ le => exact after.earlier le
  | cons le _ ih => exact .cons le (ih after)

variable (clock apply) in
theorem Applied.at (parser : P) {first reading : Nat} (le : first ≤ reading) (records : List R) :
    Applied clock apply parser first records (records.foldl (apply (clock reading)) parser)
      reading := by
  induction records generalizing parser first with
  | nil => exact .nil parser le
  | cons record records ih => exact .cons le (ih _ (Nat.le_refl reading))

variable {parseContents : UInt16 → ParserM (World P S) (List R)} {β : Type}
  {make : UInt16 → UInt16 → List R → β}
  {headerSize : Nat}

/-- Contents do to the parser what the records they return do, and nothing when they fail. -/
structure Faithful (clock : Nat → Instant) (apply : Instant → P → R → P)
    (parse : ParserM (World P S) (List R)) : Prop where
  returned : ∀ input w rest records w', parse input w = (some (rest, records), w') →
    Applied clock apply w.parser w.ticks records w'.parser w'.ticks
  failed : ∀ input w w', parse input w = (none, w') → w'.parser = w.parser ∧ w.ticks ≤ w'.ticks

/-- What a parse leaves behind: without a packet the state before, and with one what its records
make of the state before. -/
def LeavesWhatItReturns {Packet : Type} (clock : Nat → Instant)
    (apply : Packet → Instant → P → R → P) (recordsOf : Packet → List R) (w : World P S) :
    Option (List UInt8 × Packet) × World P S → Prop
  | (none, after) => after.parser = w.parser
  | (some (_, packet), after) =>
    Applied clock (apply packet) w.parser w.ticks (recordsOf packet) after.parser after.ticks

variable (parseContents make headerSize) in
/-- Sets that do what their contents do are read to the end of the last that does not fail. -/
theorem many0_parseFramedSet_faithful (recordsOf : β → List R)
    (each : ∀ id, Faithful clock apply (parseContents id))
    (made : ∀ id length records, recordsOf (make id length records) = records) (input : List UInt8)
    (w : World P S) :
    ∃ rest sets w', many0 (parseFramedSet headerSize parseContents make) input w =
      (some (rest, sets), w') ∧
      Applied clock apply w.parser w.ticks (sets.flatMap recordsOf) w'.parser w'.ticks := by
  have shorter : ∀ input w rest set w', parseFramedSet headerSize parseContents make input w =
      (some (rest, set), w') →
      rest.length < input.length := by
    intro input w rest set w' run
    obtain none | ⟨_, id, length, slice, less, whole⟩ :=
      parseFramedSet_cases parseContents make headerSize input w
    · rw [none] at run
      cases run
    · rw [whole] at run
      obtain ⟨_, _, same⟩ := Option.map_eq_some_iff.mp (Prod.mk.inj run).1
      cases same
      exact less
  obtain ⟨rest, sets, w', run⟩ := many0_ok shorter input w
  refine ⟨rest, sets, w', run, ?_⟩
  refine many0_induction (motive := fun _ w _ sets w' =>
    Applied clock apply w.parser w.ticks (sets.flatMap recordsOf) w'.parser w'.ticks) ?_ ?_ run
  · intro input w w' stop
    obtain none | ⟨_, id, length, slice, less, whole⟩ :=
      parseFramedSet_cases parseContents make headerSize input w
    · rw [none] at stop
      cases stop
      exact .nil _ (Nat.le_refl _)
    · rw [whole] at stop
      obtain ⟨failed, after⟩ := Prod.mk.inj stop
      obtain ⟨same, le⟩ :=
        (each id).failed slice w w' (Prod.ext (Option.map_eq_none_iff.mp failed) after)
      rw [same]
      exact .nil _ le
  · intro input w mid set t rest sets w' step _ ih
    rw [List.flatMap_cons]
    refine Applied.append ?_ ih
    obtain none | ⟨_, id, length, slice, less, whole⟩ :=
      parseFramedSet_cases parseContents make headerSize input w
    · rw [none] at step
      cases step
    · rw [whole] at step
      obtain ⟨success, after⟩ := Prod.mk.inj step
      obtain ⟨⟨left, records⟩, found, same⟩ := Option.map_eq_some_iff.mp success
      cases same
      rw [made]
      exact (each id).returned slice w left records t (Prod.ext found after)

end

/-! ### IPFIX -/

namespace Ipfix

/-- A template record received at `now`: a definition, or a withdrawal of one or all templates. -/
def IpfixParser.define (now : Instant) (kind : TemplateKind) (domain : UInt32)
    (template : UInt16 × List FieldSpecifier) (parser : IpfixParser) : IpfixParser :=
  if template.2.isEmpty then
    if template.1 = TemplateKind.setId kind then
      parser.setCache ((parser.cache kind).removeDomain domain) kind
    else parser.setCache ((parser.cache kind).remove (domain, template.1)) kind
  else if IPFIX_VALID_TEMPLATE_ID_MIN ≤ template.1 then
    parser.setCache ((parser.cache kind).insert now (domain, template.1)
      (resolveFields parser.ieRegistry parser.elementTypes domain template.2)) kind
  else parser

/-- One options data record: what it teaches, and what that changes in the domain's templates. -/
def IpfixParser.learn (domain : UInt32) (record : DataRecord) (parser : IpfixParser) :
    IpfixParser :=
  let (elementTypes, changed) := parser.elementTypes.learn domain record parser.ieRegistry
  if changed then
    let resolve := fun fields : List ResolvedField =>
      resolveFields parser.ieRegistry elementTypes domain (fields.map (·.spec))
    { parser with
      elementTypes
      templates := parser.templates.refreshDomain domain resolve
      optionsTemplates := parser.optionsTemplates.refreshDomain domain resolve }
  else parser

def applyRecord (domain : UInt32) (now : Instant) (parser : IpfixParser) : Record → IpfixParser
  | .template t => parser.define now .data domain (t.templateId, t.fields)
  | .optionsTemplate t => parser.define now .options domain (t.templateId, t.fields)
  | .optionsData record => parser.learn domain record
  | .data _ => parser

section
variable {clock : Nat → Instant} {domain : UInt32}

variable (clock domain) in
theorem parser_defineTemplate (kind : TemplateKind) (w : World)
    (template : UInt16 × List FieldSpecifier) :
    (defineTemplate clock kind domain w template).parser =
      w.parser.define (clock w.ticks) kind domain template ∧
      w.ticks ≤ (defineTemplate clock kind domain w template).ticks := by
  simp only [defineTemplate, withdrawTemplates, IpfixParser.define]
  split_ifs <;> exact ⟨rfl, by simp [withdrawDomain, withdrawTemplate, insertTemplate]⟩

theorem applied_defineAll {records : List Record} (w : World)
    (each : ∀ record ∈ records, ∃ definition, record.definition? = some definition) :
    Applied clock (applyRecord domain) w.parser w.ticks records
      (defineAll clock domain records w).parser
      (defineAll clock domain records w).ticks := by
  induction records generalizing w with
  | nil => exact .nil _ (Nat.le_refl _)
  | cons record records ih =>
    obtain ⟨definition, found⟩ := each record List.mem_cons_self
    have step : defineAll clock domain (record :: records) w =
        defineAll clock domain records
          (defineTemplate clock definition.1 domain w definition.2) := by
      rw [defineAll, List.filterMap_cons_some found]
      rfl
    obtain ⟨parser, le⟩ := parser_defineTemplate clock domain definition.1 w definition.2
    have others := ih (defineTemplate clock definition.1 domain w definition.2)
      fun other mem => each other (List.mem_cons_of_mem _ mem)
    rw [step]
    refine .cons (Nat.le_refl _) ?_
    have same : applyRecord domain (clock w.ticks) w.parser record =
        (defineTemplate clock definition.1 domain w definition.2).parser := by
      rw [parser]
      cases record <;> cases found <;> rfl
    rw [same]
    exact others.earlier le

theorem learnAll_concat (registry : IERegistry) (records : List Record) (record : DataRecord)
    (types : ElementTypes) :
    learnAll registry domain (records ++ [.optionsData record]) types =
      (((learnAll registry domain records types).1.learn domain record registry).1,
        (learnAll registry domain records types).2 ||
          ((learnAll registry domain records types).1.learn domain record registry).2) := by
  unfold learnAll
  rw [List.foldl_append]
  rfl

theorem learnAll_concat_data (registry : IERegistry) (records : List Record) (record : DataRecord)
    (types : ElementTypes) :
    learnAll registry domain (records ++ [.data record]) types =
      learnAll registry domain records types := by
  unfold learnAll
  rw [List.foldl_append]
  rfl

/-- Resolving a domain's templates twice is resolving them once, with what was known last. -/
theorem refreshDomain_resolve (cache : Templates) (registry : IERegistry)
    (before after : ElementTypes) :
    (cache.refreshDomain domain fun fields =>
      resolveFields registry before domain (fields.map (·.spec))).refreshDomain
        domain (fun fields => resolveFields registry after domain (fields.map (·.spec))) =
      cache.refreshDomain domain fun fields =>
        resolveFields registry after domain (fields.map (·.spec)) := by
  exact TemplateCache.refreshDomain_twice cache domain (fun fields => by rw [specs_resolveFields])
    (length_resolveFields_specs registry before domain)
    (length_resolveFields_specs registry after domain)

/-- Learning from all the records of a set at once is learning from each in order. -/
theorem learnElementTypes_eq (now : Instant) (parser : IpfixParser) (records : List Record)
    (data : ∀ record ∈ records, record.definition? = none) :
    learnElementTypes domain records parser = records.foldl (applyRecord domain now) parser := by
  induction records using List.reverseRecOn with
  | nil => rfl
  | append_singleton records record ih =>
    rw [List.foldl_append, ← ih fun other mem => data other (List.mem_append_left _ mem),
      List.foldl_cons, List.foldl_nil]
    cases record with
    | template t =>
      exact absurd
        (data _ (List.mem_append_right
          _ (List.mem_singleton_self _))) (by simp [Record.definition?])
    | optionsTemplate t =>
      exact absurd
        (data _ (List.mem_append_right
          _ (List.mem_singleton_self _))) (by simp [Record.definition?])
    | data record => rw [learnElementTypes, learnAll_concat_data, learnElementTypes, applyRecord]
    | optionsData record =>
      have unchanged := (learnAll_changes parser.ieRegistry domain records parser.elementTypes).1
      rw [applyRecord, learnElementTypes, learnAll_concat, learnElementTypes]
      generalize learnAll parser.ieRegistry domain records parser.elementTypes =
        known at unchanged ⊢
      obtain ⟨types, changed⟩ := known
      have quiet := (ElementTypes.learn_changes types domain record parser.ieRegistry).1
      cases changed with
      | false =>
        obtain rfl : types = parser.elementTypes := unchanged rfl
        rw [IpfixParser.learn]
        rcases step : parser.elementTypes.learn domain record parser.ieRegistry with ⟨types', _ | _⟩
        · rw [step] at quiet
          obtain rfl : types' = parser.elementTypes := quiet rfl
          simp [step]
        · simp [step]
      | true =>
        rw [IpfixParser.learn]
        rcases step : types.learn domain record parser.ieRegistry with ⟨types', _ | _⟩
        · rw [step] at quiet
          obtain rfl : types' = types := quiet rfl
          simp [step]
        · simp [step, refreshDomain_resolve]

theorem definition?_dataSet {self : IpfixParser} {id : UInt16} {input rest : List UInt8}
    {ticks ticks' : Nat} {records : List Record}
    (run : parseDataSet clock self domain id input ticks = (some (rest, records), ticks')) :
    ∀ record ∈ records, record.definition? = none :=
  parseDescribedRecords_forall (Q := fun record => record.definition? = none)
    (fun kind _ _ _ _ _ _ _ => by cases kind <;> rfl) run

variable (clock domain) in
theorem parseRecords_faithful (id : UInt16) :
    Faithful clock (applyRecord domain) (parseRecords clock domain id) := by
  obtain ⟨kind, rfl⟩ | valid | ⟨notTemplates, invalid⟩ := setId_cases id
  · constructor
    · intro input w rest records w' run
      obtain ⟨_, _, read, each⟩ := parseRecords_templateSet clock domain input w kind
      rw [read] at run
      cases run
      exact applied_defineAll w fun record mem =>
        (each record mem).imp' (kind, ·) fun _ found => found
    · intro input w w' run
      obtain ⟨_, _, read, _⟩ := parseRecords_templateSet clock domain input w kind
      rw [read] at run
      cases run
  · have later : ∀ input (w : World), w.ticks ≤
        (parseDataSet clock w.parser domain id input w.ticks).2 := fun input w =>
      parseDataSet_keeps clock domain w.parser (I := (w.ticks ≤ ·))
        (fun _ le => Nat.le_succ_of_le le) id input w.ticks
        (Nat.le_refl _)
    constructor
    · intro input w rest records w' run
      have le := later input w
      rw [parseRecords_data valid] at run
      rcases read : parseDataSet clock w.parser domain id input w.ticks
        with ⟨_ | ⟨left, data⟩, ticks⟩ <;>
        rw [read] at run le <;> cases run
      rw [learnElementTypes_eq (clock ticks) w.parser _ (definition?_dataSet read)]
      exact Applied.at clock (applyRecord domain) w.parser le _
    · intro input w w' run
      have le := later input w
      rw [parseRecords_data valid] at run
      rcases read : parseDataSet clock w.parser domain id input w.ticks
        with ⟨_ | ⟨left, data⟩, ticks⟩ <;>
        rw [read] at run le <;> cases run
      exact ⟨rfl, le⟩
  · constructor <;> intro input w <;> intros <;> rename_i run <;>
      rw [parseRecords_other notTemplates invalid] at run <;>
      cases run
    exact .nil _ (Nat.le_refl _)

theorem parse_leaves (input : List UInt8) (w : World) :
    LeavesWhatItReturns clock (fun packet : IpfixPacket =>
      applyRecord packet.header.observationDomainId)
      (fun packet => packet.sets.flatMap (·.records)) w (parse clock input w) := by
  rcases first : parseHeader input with _ | ⟨mid, header⟩
  · rw [parse,
      bindM_of_none (Prod.ext first rfl : (liftM parseHeader : ParserM World Header) input w =
        (none, w))]
    rfl
  rw [parse,
    bindM_of_some (Prod.ext first rfl : (liftM parseHeader : ParserM World Header) input w =
      (some (mid, header), w))]
  rcases second : take (header.length.toNat - IPFIX_HEADER_SIZE) mid with _ | ⟨rest, slice⟩
  · rw [bindM_of_none (by rw [mapParser, second])]
    rfl
  obtain ⟨left, sets, w', read, applied⟩ := many0_parseFramedSet_faithful
    (parseRecords clock header.observationDomainId) (fun id length records =>
      ({ id, length, records } : Set))
    SET_HEADER_SIZE (·.records) (parseRecords_faithful clock header.observationDomainId)
      (fun _ _ _ => rfl) slice w
  replace read : many0 (parseSet clock header.observationDomainId) slice w =
    (some (left, sets), w') := read
  rw [bindM_of_some (mapParser_eq_some.mpr ⟨slice, left, second, read⟩)]
  exact applied

end

end Ipfix

/-! ### NetFlow v9 -/

namespace NetflowV9

/-- A template record received at `now`. -/
def NetflowV9Parser.define (now : Instant) (kind : TemplateKind) (sourceId : UInt32) (id : UInt16)
    (fields : List ResolvedField) (parser : NetflowV9Parser) : NetflowV9Parser :=
  parser.setCache ((parser.cache kind).insert now (sourceId, id) fields) kind

def applyRecord (sourceId : UInt32) (now : Instant) (parser : NetflowV9Parser) :
    Record → NetflowV9Parser
  | .template t => parser.define now .data sourceId t.id (t.resolve parser.ieRegistry)
  | .optionsTemplate t => parser.define now .options sourceId t.id (t.resolve parser.ieRegistry)
  | .data _ | .optionsData _ => parser

section
variable {clock : Nat → Instant} {sourceId : UInt32}

theorem ieRegistry_insertTemplate (kind : TemplateKind) (key : TemplateKey)
    (fields : List ResolvedField) (w : World) :
    (insertTemplate clock kind key fields w).parser.ieRegistry = w.parser.ieRegistry := by
  cases kind <;> rfl

theorem applied_insertTemplates {T : Type} (kind : TemplateKind) (wrap : T → Record)
    (id : T → UInt16) (resolve : T → IERegistry → List ResolvedField)
    (same : ∀ now parser t, applyRecord sourceId now parser (wrap t) =
      parser.define now kind sourceId (id t) (resolve t parser.ieRegistry)) (templates : List T)
        (w : World) :
    let after :=
      insertTemplates clock kind sourceId (templates.map fun t =>
        (id t, resolve t w.parser.ieRegistry)) w
    Applied clock (applyRecord sourceId) w.parser w.ticks (templates.map wrap) after.parser
      after.ticks := by
  induction templates generalizing w with
  | nil => exact .nil _ (Nat.le_refl _)
  | cons t templates ih =>
    have others := ih (insertTemplate clock kind (sourceId, id t) (resolve t w.parser.ieRegistry) w)
    rw [ieRegistry_insertTemplate] at others
    refine .cons (Nat.le_refl _) ?_
    rw [same]
    exact others.earlier (Nat.le_succ _)

variable (clock sourceId) in
theorem parseRecords_faithful (id : UInt16) :
    Faithful clock (applyRecord sourceId) (parseRecords clock sourceId id) := by
  by_cases isTemplates : ∃ kind, id = TemplateKind.flowSetId kind
  · obtain ⟨kind, rfl⟩ := isTemplates
    suffices ∀ input (w : World), ∃ rest records w',
        parseRecords clock sourceId (TemplateKind.flowSetId kind) input w =
        (some (rest, records), w') ∧ Applied clock (applyRecord sourceId) w.parser w.ticks records
          w'.parser w'.ticks by
      constructor
      · intro input w rest records w' run
        obtain ⟨_, _, _, read, applied⟩ := this input w
        rw [read] at run
        cases run
        exact applied
      · intro input w w' run
        obtain ⟨_, _, _, read, _⟩ := this input w
        rw [read] at run
        cases run
    intro input w
    cases kind with
    | data =>
      obtain ⟨rest, templates, run⟩ := Parser.many0_ok (k := 3) shrinks_parseTemplateRecord input
      exact ⟨rest, templates.map .template, _,
        bindM_of_some (Prod.ext run rfl : (liftM parseTemplateRecord.many0 : ParserM World _) input
          w = (_, w)),
        applied_insertTemplates .data .template (·.id) TemplateRecord.resolve
          (fun _ _ _ => rfl) templates w⟩
    | options =>
      obtain ⟨rest, templates, run⟩ :=
        Parser.many0_ok (k := 3) shrinks_parseOptionsTemplateRecord input
      exact ⟨rest, templates.map .optionsTemplate, _,
        bindM_of_some (Prod.ext run rfl : (liftM parseOptionsTemplateRecord.many0 : ParserM World _)
          input w = (_, w)),
        applied_insertTemplates .options .optionsTemplate (·.id) OptionsTemplateRecord.resolve
          (fun _ _ _ => rfl)
          templates w⟩
  · rw [not_exists] at isTemplates
    have later : ∀ input (w : World), w.ticks ≤
        (parseTemplatedRecords clock w.parser sourceId id input w.ticks).2 :=
      fun input w => parseTemplatedRecords_keeps clock sourceId w.parser (I := (w.ticks ≤ ·))
        (fun _ le => Nat.le_succ_of_le le) id input w.ticks (Nat.le_refl _)
    constructor
    · intro input w rest records w' run
      have le := later input w
      rw [parseRecords_data isTemplates] at run
      rcases read : parseTemplatedRecords clock w.parser sourceId id input w.ticks
        with ⟨_ | ⟨left, data⟩, ticks⟩ <;>
        rw [read] at run le <;> cases run
      have each : ∀ record ∈ records, ∀ now, applyRecord sourceId now w.parser record = w.parser :=
        parseDescribedRecords_forall (Q := fun record =>
          ∀ now, applyRecord sourceId now w.parser record = w.parser)
          (fun kind _ _ _ _ _ _ _ _ => by cases kind <;> rfl) read
      have still : records.foldl (applyRecord sourceId (clock ticks)) w.parser = w.parser :=
        List.foldlRecOn (motive := (· = w.parser)) records _ rfl fun parser same record mem => by
          rw [same, each record mem]
      have applied := Applied.at clock (applyRecord sourceId) w.parser le records
      rwa [still] at applied
    · intro input w w' run
      have le := later input w
      rw [parseRecords_data isTemplates] at run
      rcases read : parseTemplatedRecords clock w.parser sourceId id input w.ticks
        with ⟨_ | ⟨left, data⟩, ticks⟩ <;>
        rw [read] at run le <;> cases run
      exact ⟨rfl, le⟩

theorem parse_leaves (input : List UInt8) (w : World) :
    LeavesWhatItReturns clock (fun packet : NetFlowV9Packet => applyRecord packet.header.sourceId)
      (fun packet => packet.flowSets.flatMap (·.records)) w (parse clock input w) := by
  rcases first : parseHeader input with _ | ⟨mid, header⟩
  · rw [parse,
      bindM_of_none (Prod.ext first rfl : (liftM parseHeader : ParserM World Header) input w =
        (none, w))]
    rfl
  rw [parse,
    bindM_of_some (Prod.ext first rfl : (liftM parseHeader : ParserM World Header) input w =
      (some (mid, header), w))]
  obtain ⟨left, sets, w', read, applied⟩ := many0_parseFramedSet_faithful
    (parseRecords clock header.sourceId) (fun id length records =>
      ({ id, length, records } : FlowSet))
    FLOW_SET_HEADER_SIZE (·.records) (parseRecords_faithful clock header.sourceId)
      (fun _ _ _ => rfl) mid w
  replace read : many0 (parseFlowSet clock header.sourceId) mid w = (some (left, sets), w') := read
  rw [bindM_of_some read]
  exact applied

end

end NetflowV9

/-- What a parser of either protocol holds after any input is what it held before, changed by the
records of the packet returned, in order, and by nothing else. -/
theorem states_follow_packets (clock : Nat → Instant) :
    (∀ input (w : Ipfix.World), LeavesWhatItReturns clock
      (fun packet : Ipfix.IpfixPacket => Ipfix.applyRecord packet.header.observationDomainId)
      (fun packet => packet.sets.flatMap (·.records)) w (Ipfix.parse clock input w)) ∧
    (∀ input (w : NetflowV9.World), LeavesWhatItReturns clock
      (fun packet : NetflowV9.NetFlowV9Packet => NetflowV9.applyRecord packet.header.sourceId)
      (fun packet => packet.flowSets.flatMap (·.records)) w (NetflowV9.parse clock input w)) :=
  ⟨Ipfix.parse_leaves, NetflowV9.parse_leaves⟩

end Rustflow
