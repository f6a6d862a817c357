import Rustflow.Common.Peeling
import Rustflow.Common.TemplateLasting
import Rustflow.Export.ExporterRuns
import Rustflow.Export.Readable
import Rustflow.NetflowProcessor

/-!
# From the exporter to the collector

A parser that has read the exporter's templates reads every message of flows and of sampling options
that the exporter sends under them, and the converter makes the flows again.
-/

namespace Rustflow.Export
open Ipfix TemplateCache Combinator

section
variable {clock : Nat → Instant} {domain : UInt32}

/-! ### The templates -/

/-- A parser that holds the exporter's templates whenever the clock is read. -/
structure Ready (clock : Nat → Instant) (registry : IERegistry) (domain : UInt32)
    (parser : IpfixParser) : Prop where
  flows : ∀ template ∈ createFlowTemplates, ∀ n,
    parser.templates.get (clock n) (domain, template.templateId) =
    some (resolveFields registry ElementTypes.default domain template.fields)
  undescribed : ∀ n, parser.templates.get (clock n) (domain, OPTIONS_TEMPLATE_ID) = none
  options : ∀ sampling n, parser.optionsTemplates.get (clock n) (domain, OPTIONS_TEMPLATE_ID) =
    some (resolveFields registry ElementTypes.default domain
      (createOptionsTemplate sampling).fields)

theorem many0_flowTemplates :
    parseTemplateRecord.many0 ((createFlowTemplates.map Record.template).flatMap Record.encode) =
      some ([], createFlowTemplates) := by
  decide +kernel

theorem many0_optionsTemplate (sampling : Sampling) :
    parseOptionsTemplateRecord.many0
      ([Record.optionsTemplate (createOptionsTemplate sampling)].flatMap Record.encode) =
      some ([], [createOptionsTemplate sampling]) := by
  rw [createOptionsTemplate_eq]
  decide +kernel

/-- What the template message makes of a new parser. -/
def taught (clock : Nat → Instant) (registry : IERegistry) (timeout : Duration) (domain : UInt32)
    (sampling : Sampling) :
    IpfixParser where
  ieRegistry := registry
  elementTypes := ElementTypes.default
  templates :=
    ((TemplateCache.new timeout (clock 0)).insert (clock 2) (domain, ipv4Template.templateId)
      (resolveFields registry ElementTypes.default domain ipv4Template.fields)).insert (clock 3)
    (domain, ipv6Template.templateId)
    (resolveFields registry ElementTypes.default domain ipv6Template.fields)
  optionsTemplates :=
    (TemplateCache.new timeout (clock 1)).insert (clock 4) (domain, OPTIONS_TEMPLATE_ID)
    (resolveFields registry ElementTypes.default domain (createOptionsTemplate sampling).fields)

variable (clock domain) in
theorem reads_templates (registry : IERegistry) (timeout : Duration) (sampling : Sampling) :
    ∃ w, ReadsContents clock domain (Ipfix.World.new clock registry timeout)
      (templateSets .flow sampling)
        [(IPFIX_TEMPLATE_SET_ID, createFlowTemplates.map .template),
          (IPFIX_OPTIONS_TEMPLATE_SET_ID, [.optionsTemplate (createOptionsTemplate sampling)])] w ∧
      w.parser = taught clock registry timeout domain sampling := by
  have templates : ∀ w, parseRecords clock domain IPFIX_TEMPLATE_SET_ID _ w = _ :=
    fun _ => parseRecords_readTemplates many0_flowTemplates
  have options : ∀ w, parseRecords clock domain IPFIX_OPTIONS_TEMPLATE_SET_ID _ w = _ :=
    fun _ => parseRecords_readOptionsTemplates (many0_optionsTemplate sampling)
  refine ⟨_, .cons (templates _) (.cons (options _) (.nil _)), ?_⟩
  obtain ⟨id, nonempty⟩ : (createOptionsTemplate sampling).templateId = OPTIONS_TEMPLATE_ID ∧
      (createOptionsTemplate sampling).fields ≠ [] := by
    rw [createOptionsTemplate_eq]
    decide
  rw [createFlowTemplates_eq]
  simp only [List.foldl_cons, List.foldl_nil, id]
  rw [defineTemplate_insert .options _ nonempty (by decide),
    defineTemplate_insert .data _ (by decide) (by decide),
    defineTemplate_insert .data _ (by decide) (by decide)]
  simp only [insertTemplate, IpfixParser.setCache, IpfixParser.cache, Ipfix.World.new, taught,
    Nat.reduceAdd]

/-- Two templates put into a new cache are what it shows from then on. -/
theorem get_insert_two {timeout : Duration} (quick : ∀ n m, clock n - clock m < timeout)
    (start : Instant) {key₁ key₂ : TemplateKey} {fields₁ fields₂ : List Ipfix.ResolvedField}
    (few₁ : fields₁.length ≤ 12) (few₂ : fields₂.length ≤ 12) (n₁ n₂ n : Nat) (key : TemplateKey) :
    (((TemplateCache.new timeout start).insert (clock n₁) key₁ fields₁).insert
      (clock n₂) key₂ fields₂).get (clock n) key =
      if key = key₂ then some fields₂ else if key = key₁ then some fields₁ else none := by
  have new : (TemplateCache.new timeout start : Templates).Lasting clock := lasting_new quick start
  have empty : (TemplateCache.new timeout start : Templates).load = 0 := rfl
  have load := new.within.load_insert_le (clock n₁) key₁ fields₁
  have limit : 24 ≤ MAX_TEMPLATE_FIELDS := by decide
  rw [(new.insert n₁ key₁ fields₁).get_insert n₂ n key₂ key (by omega),
    new.get_insert n₁ n key₁ key (by omega)]
  rfl

theorem ready_taught (registry : IERegistry) {timeout : Duration}
    (quick : ∀ n m, clock n - clock m < timeout) (sampling : Sampling) :
    Ready clock registry domain (taught clock registry timeout domain sampling) := by
  have few : ∀ specs : List FieldSpecifier, specs.length ≤ 12 →
      (resolveFields registry ElementTypes.default domain specs).length ≤ 12 :=
    fun specs few => by rwa [length_resolveFields]
  have two : ∀ n key, (taught clock registry timeout domain sampling).templates.get (clock n) key =
      if key = (domain, ipv6Template.templateId) then
        some (resolveFields registry ElementTypes.default domain ipv6Template.fields)
      else if key = (domain, ipv4Template.templateId) then
        some (resolveFields registry ElementTypes.default domain ipv4Template.fields)
      else none := by
    intro n key
    have few₁ := few ipv4Template.fields (by decide)
    have few₂ := few ipv6Template.fields (by decide)
    rw [taught, get_insert_two quick (clock 0) few₁ few₂ 2 3 n key]
  have other : ∀ {id id' : UInt16}, id ≠ id' → (domain, id) ≠ (domain, id') :=
    fun ne same => ne (congrArg Prod.snd same)
  refine ⟨?_, ?_, ?_⟩
  · rw [createFlowTemplates_eq]
    intro template mem n
    rw [two]
    obtain rfl | rfl := List.mem_pair.mp mem
    · rw [if_neg (other (by decide)), if_pos rfl]
    · rw [if_pos rfl]
  · intro n
    rw [two, if_neg (other (by decide)), if_neg (other (by decide))]
  · intro sampling' n
    have new : (TemplateCache.new timeout (clock 1) : Templates).Lasting clock :=
      lasting_new quick (clock 1)
    have empty : (TemplateCache.new timeout (clock 1) : Templates).load = 0 := rfl
    have small :=
      few (createOptionsTemplate sampling).fields (by rw [createOptionsTemplate_eq]; decide)
    have limit : 12 ≤ MAX_TEMPLATE_FIELDS := by decide
    rw [createOptionsTemplate_eq sampling', ← createOptionsTemplate_eq sampling]
    exact (new.get_insert 4 n (domain, OPTIONS_TEMPLATE_ID) _ (by omega)).trans (if_pos rfl)

/-! ### Data messages -/

/-- The flows that a packet is converted to. -/
abbrev flowsOf (etherparse : Etherparse) (state : Option Domain) (src : IpAddr)
    (timeReceivedNs : Option Int) (packet : IpfixPacket) : List CommonFlow :=
  (NetflowPacket.ipfix packet).flows etherparse state src timeReceivedNs

theorem ArrivesAs.received {sent : Flow} {flow : CommonFlow} (arrives : ArrivesAs sent flow)
    (timeReceivedNs : Option Int) :
    ArrivesAs sent { flow with timeReceivedNs } :=
  { arrives with }

theorem flows_arrive {template : TemplateRecord} {flows : List Flow}
    (one : ∀ flow ∈ flows, (toFlowData flow).template = template)
    (regular : ∀ flow ∈ flows, (toFlowData flow).Regular) (parsed : IpfixPacket)
    (records : parsed.sets.map (fun set => (set.id, set.records)) =
      [(template.templateId, flows.map fun flow => .data
        ⟨resolveFields .newWithIanaElements ElementTypes.default domain template.fields,
          (toFlowData flow).wholeMillis.toDataRecord.values⟩)])
    (etherparse : Etherparse) (state : Option Domain) (src : IpAddr) (timeReceivedNs : Option Int) :
    List.Forall₂ ArrivesAs flows (flowsOf etherparse state src timeReceivedNs parsed) := by
  obtain ⟨set, others, whole, head, nothing⟩ := List.map_eq_cons_iff.mp records
  obtain rfl := List.map_eq_nil_iff.mp nothing
  unfold flowsOf NetflowPacket.flows
  dsimp only
  rw [whole, List.flatMap_singleton, (Prod.mk.inj head).2, List.filterMap_map]
  refine Eq.mpr (congrArg _ (congrFun List.filterMap_eq_map flows)) ?_
  refine List.forall₂_map_right_iff.mpr (List.forall₂_same.mpr fun flow mem => ?_)
  rw [← one flow mem]
  exact (convert_flow (regular flow mem) ..).received timeReceivedNs

theorem flowTemplates_usable :
    ∀ template ∈ createFlowTemplates, IPFIX_VALID_TEMPLATE_ID_MIN ≤ template.templateId ∧
      template.fields ≠ [] ∧ ∀ spec ∈ template.fields, spec.fieldLength ≠ 0 := by
  decide

/-- The flows of one template come out of a message as they went in. -/
theorem parse_flows {w : Ipfix.World} (ready : Ready clock .newWithIanaElements domain w.parser)
    {packet : IpfixPacket} (version : packet.header.version = IPFIX_VERSION)
    (from_ : packet.header.observationDomainId = domain) {template : TemplateRecord}
    (known : template ∈ createFlowTemplates) {flows : List Flow}
    (sets : packet.sets = [⟨template.templateId, 0,
      flows.map fun flow => .data (toFlowData flow).toDataRecord⟩])
        (one : ∀ flow ∈ flows, (toFlowData flow).template = template)
    (regular : ∀ flow ∈ flows, (toFlowData flow).Regular) (fits : packet.encode.length < 2 ^ 16)
    (etherparse : Etherparse) (state : Option Domain) (src : IpAddr) (timeReceivedNs : Option Int) :
    ∃ parsed ticks, Ipfix.parse clock packet.encode w = (some ([], parsed), { w with ticks }) ∧
      List.Forall₂ ArrivesAs flows (flowsOf etherparse state src timeReceivedNs parsed) := by
  subst from_
  let rows := flows.map fun flow => (toFlowData flow).wholeMillis.toDataRecord.values
  have content :
      (flows.map fun flow => Record.data (toFlowData flow).toDataRecord).flatMap Record.encode =
      rows.flatMap (·.flatMap FieldValue.encode) := by
    rw [List.flatMap_map, List.flatMap_map]
    exact List.flatMap_congr fun flow _ =>
      (FlowData.encode_wholeMillis _).symm.trans (encodeRecord_new _)
  have present : effective clock w.parser.templates w.parser.optionsTemplates
      (packet.header.observationDomainId, template.templateId) w.ticks = some (.data,
        resolveFields .newWithIanaElements ElementTypes.default packet.header.observationDomainId
          template.fields) := by
    rw [effective, ready.flows template known w.ticks]
    rfl
  have carries : ∀ row ∈ rows, List.Forall₂ (Carries .newWithIanaElements) template.fields row := by
    intro row mem
    obtain ⟨flow, inside, rfl⟩ := List.mem_map.mp mem
    rw [← one flow inside]
    exact (regular flow inside).carries
  obtain ⟨valid, nonempty, nonzero⟩ := flowTemplates_usable template known
  obtain ⟨parsed, ticks, parsing, records⟩ :=
    parse_rows version sets content valid present nonempty nonzero carries
      (fun options => by cases options) fits
  rw [List.map_map] at records
  exact ⟨parsed, ticks, parsing,
    flows_arrive one regular parsed records etherparse state src timeReceivedNs⟩

theorem fits_options {packet : IpfixPacket} {data : OptionsData}
    (sets : packet.sets = [⟨OPTIONS_TEMPLATE_ID, 0, [.optionsData data.toDataRecord]⟩]) :
    packet.encode.length < 2 ^ 16 := by
  have content : [Record.optionsData data.toDataRecord].flatMap Record.encode =
      [data.toDataRecord.values].flatMap (·.flatMap FieldValue.encode) := by
    rw [List.flatMap_singleton, List.flatMap_singleton]
    exact encodeRecord_new _
  rw [packet.length_encode_sets, sets, List.flatMap_singleton, Ipfix.Set.length_encode,
    Ipfix.Set.content, content, List.flatMap_singleton, length_carries (carries_options data),
    createOptionsTemplate_eq]
  decide

/-- An options record is read back, and describes no element. -/
theorem parse_options {w : Ipfix.World} (ready : Ready clock .newWithIanaElements domain w.parser)
    {packet : IpfixPacket} (version : packet.header.version = IPFIX_VERSION)
    (from_ : packet.header.observationDomainId = domain) (sampling : Sampling)
    (sets : packet.sets = [⟨OPTIONS_TEMPLATE_ID, 0,
      [.optionsData (OptionsData.mk domain sampling).toDataRecord]⟩]) :
    ∃ parsed ticks, Ipfix.parse clock packet.encode w = (some ([], parsed), { w with ticks }) ∧
      parsed.sets.map (fun set => (set.id, set.records)) = [(OPTIONS_TEMPLATE_ID, [.optionsData
        ⟨resolveFields .newWithIanaElements ElementTypes.default domain
          (createOptionsTemplate sampling).fields,
          (OptionsData.mk domain sampling).toDataRecord.values⟩])] := by
  subst from_
  let data := OptionsData.mk packet.header.observationDomainId sampling
  have carries :
      List.Forall₂ (Carries .newWithIanaElements) (createOptionsTemplate sampling).fields
        data.toDataRecord.values :=
    carries_options data
  have content : [Record.optionsData data.toDataRecord].flatMap Record.encode =
      [data.toDataRecord.values].flatMap (·.flatMap FieldValue.encode) := by
    rw [List.flatMap_singleton, List.flatMap_singleton]
    exact encodeRecord_new _
  have present : effective clock w.parser.templates w.parser.optionsTemplates
      (packet.header.observationDomainId, OPTIONS_TEMPLATE_ID) w.ticks =
        some (.options, resolveFields .newWithIanaElements
        ElementTypes.default packet.header.observationDomainId
          (createOptionsTemplate sampling).fields) := by
    rw [effective, ready.undescribed, ready.options sampling]
    rfl
  have fits := fits_options sets
  obtain ⟨nonempty, nonzero⟩ : (createOptionsTemplate sampling).fields ≠ [] ∧
      ∀ spec ∈ (createOptionsTemplate sampling).fields, spec.fieldLength ≠ 0 := by
    rw [createOptionsTemplate_eq]
    decide
  exact parse_rows version sets content (by decide) present nonempty nonzero
    (List.forall_mem_singleton.mpr carries)
    (fun _ => List.forall_mem_singleton.mpr (read_options data ..)) fits

/-! ### Calls -/

variable (clock) in
/-- The messages parsed in order, if each is read to its end. -/
def collect : List IpfixPacket → Ipfix.World → Option (List IpfixPacket)
  | [], _ => some []
  | sent :: others, w =>
    match Ipfix.parse clock sent.encode w with
    | (some ([], parsed), w) => (collect others w).map (parsed :: ·)
    | _ => none

theorem collect_cons {sent parsed : IpfixPacket} {w w' : Ipfix.World}
    (read : Ipfix.parse clock sent.encode w = (some ([], parsed), w')) (others : List IpfixPacket) :
    collect clock (sent :: others) w = (collect clock others w').map (parsed :: ·) := by
  rw [collect, read]

/-- The flows in the order they are sent in. -/
def ipv4First (flows : List Flow) : List Flow :=
  flows.filter (fun flow => (toFlowData flow).isIpv4) ++
    flows.filter (fun flow => !(toFlowData flow).isIpv4)

theorem flowRecords_eq (flows : List Flow) : flowRecords flows =
    (ipv4First flows).map fun flow =>
      ((toFlowData flow).templateId, (toFlowData flow).toDataRecord) := by
  unfold flowRecords ipv4First
  rw [List.partition_eq_filter_filter, List.filter_map, List.filter_map]
  dsimp only
  rw [← List.map_append, List.map_map]
  rfl

theorem mem_ipv4First {flow : Flow} {flows : List Flow} :
    flow ∈ ipv4First flows ↔ flow ∈ flows := by
  unfold ipv4First
  rw [List.mem_append, List.mem_filter, List.mem_filter, ← and_or_left, Bool.not_eq_true']
  exact and_iff_left (Bool.eq_false_or_eq_true _)

theorem length_flowRecord {data : FlowData} (regular : data.Regular) :
    (encodeRecord data.toDataRecord).length ≤ MAX_SET_BODY := by
  have small : ∀ template ∈ createFlowTemplates, (template.fields.map (·.fieldLength.toNat)).sum ≤
      MAX_SET_BODY := by decide
  have whole : (encodeRecord data.toDataRecord).length =
      (data.template.fields.map (·.fieldLength.toNat)).sum := by
    rw [← length_carries regular.carries, ← data.encode_wholeMillis]
    exact congrArg List.length (encodeRecord_new _)
  rw [whole]
  exact small _ data.template_mem

theorem template_of_templateId {data data' : FlowData} (same : data.templateId = data'.templateId) :
    data.template = data'.template := by
  have distinct : ∀ template ∈ createFlowTemplates, ∀ template' ∈ createFlowTemplates,
      template.templateId = template'.templateId → template = template' := by decide
  rw [← data.templateId_template, ← data'.templateId_template] at same
  exact distinct _ data.template_mem _ data'.template_mem same

/-- A message that flows are packed in is of one template. -/
theorem message_of_flows {message : Message} {flows : List Flow} (nonempty : message.records ≠ [])
    (records : flows.map (fun flow =>
      ((toFlowData flow).templateId, (toFlowData flow).toDataRecord)) =
      message.records.map (message.templateId, ·)) :
    ∃ template ∈ createFlowTemplates, (∀ flow ∈ flows, (toFlowData flow).template = template) ∧
      template.templateId = message.templateId ∧ message.records = flows.map fun flow =>
        (toFlowData flow).toDataRecord := by
  have ids : ∀ flow ∈ flows, (toFlowData flow).templateId = message.templateId := by
    intro flow mem
    have inside :=
      List.mem_map_of_mem (f := fun flow =>
        ((toFlowData flow).templateId, (toFlowData flow).toDataRecord)) mem
    rw [records] at inside
    obtain ⟨record, -, same⟩ := List.mem_map.mp inside
    exact (congrArg Prod.fst same).symm
  have data : message.records = flows.map fun flow => (toFlowData flow).toDataRecord := by
    have second := congrArg (List.map Prod.snd) records
    rw [List.map_map, List.map_map] at second
    exact (List.map_id message.records).symm.trans second.symm
  obtain ⟨flow, inside⟩ := List.exists_mem_of_ne_nil flows (by
    rintro rfl
    exact nonempty data)
  refine ⟨(toFlowData flow).template, FlowData.template_mem _, fun other mem => ?_, ?_, data⟩
  · exact template_of_templateId ((ids other mem).trans (ids flow inside).symm)
  · exact (FlowData.templateId_template _).trans (ids flow inside)

/-- The messages that flows are packed in come out as the flows. -/
theorem collect_flows {w : Ipfix.World} (ready : Ready clock .newWithIanaElements domain w.parser)
    {packets : List IpfixPacket} {messages : List Message} {flows : List Flow}
    (packed : PackedAs (flows.map fun flow =>
      ((toFlowData flow).templateId, (toFlowData flow).toDataRecord)) messages)
    (sets : packets.map (·.sets) = messages.map Message.sets)
    (stamped : ∀ packet ∈ packets, packet.header.version = IPFIX_VERSION ∧
      packet.header.observationDomainId = domain)
    (regular : ∀ flow ∈ flows, (toFlowData flow).Regular) (etherparse : Etherparse)
    (state : Option Domain) (src : IpAddr) (timeReceivedNs : Option Int) :
    ∃ parsed, collect clock packets w = some parsed ∧
      List.Forall₂ ArrivesAs flows (parsed.flatMap
        (flowsOf etherparse state src timeReceivedNs)) := by
  obtain ⟨whole, nonempty, within, -⟩ := packed
  induction messages generalizing packets flows w with
  | nil =>
    obtain rfl := List.map_eq_nil_iff.mp sets
    obtain rfl := List.map_eq_nil_iff.mp whole.symm
    exact ⟨[], rfl, .nil⟩
  | cons message messages ih =>
    obtain ⟨packet, packets, rfl, here, others⟩ := List.map_eq_cons_iff.mp sets
    obtain ⟨first, later, rfl, records, rest⟩ := List.append_eq_map_iff.mp whole
    obtain ⟨template, known, one, id, data⟩ :=
      message_of_flows (nonempty message List.mem_cons_self) records
    have packetSets :
        packet.sets = [⟨template.templateId, 0,
          first.map fun flow => .data (toFlowData flow).toDataRecord⟩] := by
      rw [here, Message.sets, id, data, List.map_map]
      rfl
    have fits : packet.encode.length < 2 ^ 16 := by
      obtain ⟨header, _⟩ := packet
      subst here
      exact Nat.lt_of_le_of_lt (within message List.mem_cons_self header) (by decide)
    obtain ⟨⟨version, from_⟩, stamped⟩ := List.forall_mem_cons.mp stamped
    obtain ⟨now, after⟩ := List.forall_mem_append.mp regular
    obtain ⟨parsed, ticks, parsing, arrive⟩ :=
      parse_flows ready version from_ known packetSets one now fits etherparse state src
      timeReceivedNs
    obtain ⟨others, collected, arriveLater⟩ :=
      ih (w := { w with ticks }) ready others stamped after rest.symm
      (List.forall_mem_of_forall_mem_cons nonempty) (List.forall_mem_of_forall_mem_cons within)
    refine ⟨parsed :: others, ?_, ?_⟩
    · rw [collect_cons parsing, collected, Option.map_some]
    · rw [List.flatMap_cons]
      exact List.rel_append arrive arriveLater

theorem fits_templates {packet : IpfixPacket} {sampling : Sampling}
    (sets : packet.sets = templateSets .flow sampling) :
    packet.encode.length < 2 ^ 16 := by
  have small : ((templateSets .flow (.count 0)).flatMap Ipfix.Set.encode).length < 1000 := by
    decide +kernel
  have same : templateSets .flow sampling = templateSets .flow (.count 0) := by
    rw [templateSets, createOptionsTemplate_eq]
    rfl
  rw [packet.length_encode_sets, sets, same]
  unfold IPFIX_HEADER_SIZE
  omega

/-- The template message is read by a new parser, has no flows, and leaves the parser ready. -/
theorem parse_templates {timeout : Duration} (inTime : ∀ n m, clock n - clock m < timeout)
    {packet : IpfixPacket} (version : packet.header.version = IPFIX_VERSION)
    (from_ : packet.header.observationDomainId = domain) {sampling : Sampling}
    (sets : packet.sets = templateSets .flow sampling) :
    ∃ parsed w, Ipfix.parse clock packet.encode
      (Ipfix.World.new clock .newWithIanaElements timeout) = (some ([], parsed), w) ∧
      (∀ etherparse state src timeReceivedNs,
        flowsOf etherparse state src timeReceivedNs parsed = []) ∧
      Ready clock .newWithIanaElements domain w.parser := by
  have fits := fits_templates sets
  obtain ⟨w, read, taught⟩ := reads_templates clock domain .newWithIanaElements timeout sampling
  rw [← sets, ← from_] at read
  obtain ⟨parsed, parsing, records⟩ := parse_encoded packet version fits read
  refine ⟨parsed, w, parsing, ?_, ?_⟩
  · obtain ⟨first, others, whole, head, tail⟩ := List.map_eq_cons_iff.mp records
    obtain ⟨second, others, rfl, head', nothing⟩ := List.map_eq_cons_iff.mp tail
    obtain rfl := List.map_eq_nil_iff.mp nothing
    intro etherparse state src timeReceivedNs
    unfold flowsOf NetflowPacket.flows
    dsimp only
    rw [whole, List.flatMap_cons, List.flatMap_singleton, (Prod.mk.inj head).2,
      (Prod.mk.inj head').2]
    rfl
  · rw [taught]
    exact ready_taught .newWithIanaElements inTime sampling

end

/-! ### Main result -/

/-- The messages that an exporter of flows builds in some calls, whatever comes of sending them. -/
def built {E : Type} (env : Surroundings E) (observationDomainId : UInt32) (sampling : Sampling)
    (now : Instant) (calls : List Call) : List IpfixPacket :=
  ((World.new observationDomainId .flow sampling now).run env calls).journal.map (·.packet)

/-- What an exporter sends under its templates, a new parser reads before they time out: each flow
is made again, to the millisecond, and so is the sampling interval. -/
theorem exporter_to_collector {E : Type} (env : Surroundings E)
    (observationDomainId interval : UInt32) (now : Instant) (clock : Nat → Instant)
    {timeout : Duration} (inTime : ∀ n m, clock n - clock m < timeout) :
    let built := built env observationDomainId (.count interval) now
    let collector := Ipfix.World.new clock .newWithIanaElements timeout
    (∀ flows : List Flow, (∀ flow ∈ flows, (toFlowData flow).Regular) →
      ∀ (etherparse : Etherparse) (state : Option
        Domain) (src : IpAddr) (timeReceivedNs : Option Int),
      ∃ parsed, collect clock (built [.sendTemplates, .send (.flows flows)]) collector =
        some parsed ∧
        List.Forall₂ ArrivesAs (ipv4First flows)
          (parsed.flatMap (flowsOf etherparse state src timeReceivedNs))) ∧
    (1 ≤ interval → ∃ templates parsed record,
      collect clock (built [.sendTemplates, .sendOptionsData]) collector =
        some [templates, parsed] ∧
      parsed.sets.map (fun set => (set.id, set.records)) =
        [(OPTIONS_TEMPLATE_ID, [.optionsData record])] ∧
      extractSamplingRate record = some interval ∧
        extractSamplingRate (only [.samplingInterval] record) = some interval ∧
      extractSamplingRate (only [.samplingPacketInterval, .samplingPacketSpace] record) =
        some interval) := by
  intro built collector
  let start : World E := World.new observationDomainId .flow (.count interval) now
  have stamped : Stamped observationDomainId start := ⟨rfl, nofun⟩
  have numbered : Numbered start := numbered_new observationDomainId .flow (.count interval) now
  obtain ⟨attempt, tried, -, -⟩ := sendTemplates_spec env start
  have journal : (sendTemplates env start).2.journal = [attempt] := tried.journal
  obtain ⟨version, from_⟩ :=
    (sendTemplates_stamped env stamped).each
      attempt (by rw [journal]; exact List.mem_singleton_self _)
  obtain ⟨templates, w, parsing, none, ready⟩ := parse_templates inTime version from_ tried.sets
  constructor
  · intro flows regular etherparse state src timeReceivedNs
    have small : ∀ r ∈ (Records.flows flows).toList, (encodeRecord r.2).length ≤ MAX_SET_BODY := by
      rw [Records.toList, flowRecords_eq, List.forall_mem_map]
      exact fun flow mem => length_flowRecord (regular flow (mem_ipv4First.mp mem))
    obtain ⟨messages, attempts, packed, more, sets, -⟩ :=
      send_packed env (sendTemplates_numbered env numbered) (.flows flows) small
    rw [journal] at more
    have stamps := (stamped_run env stamped [.sendTemplates, .send (.flows flows)]).each
    rw [show (start.run env [.sendTemplates, .send (.flows flows)]).journal =
      attempt :: attempts from more] at stamps
    have whole :
        built [.sendTemplates, .send (.flows flows)] = attempt.packet :: attempts.map (·.packet) :=
      congrArg (List.map _) more
    rw [Records.toList, flowRecords_eq] at packed
    obtain ⟨parsed, collected, arrive⟩ := collect_flows ready packed ((List.map_map ..).trans sets)
      (List.forall_mem_map.mpr (List.forall_mem_of_forall_mem_cons stamps))
      (fun flow mem => regular flow (mem_ipv4First.mp mem)) etherparse state src timeReceivedNs
    refine ⟨templates :: parsed, ?_, ?_⟩
    · rw [whole, collect_cons parsing, collected, Option.map_some]
    · rwa [List.flatMap_cons, none, List.nil_append]
  · intro positive
    obtain ⟨options, sent, -, -⟩ :=
      sendData_spec env OPTIONS_TEMPLATE_ID [.optionsData (OptionsData.mk
      (sendTemplates env start).2.exporter.observationDomainId
      (sendTemplates env start).2.exporter.sampling).toDataRecord]
      (sendTemplates env start).2
    have more := sent.journal
    have sets := sent.sets
    rw [journal] at more
    rw [(sendTemplates_stamped env stamped).exporter, sampling_sendTemplates] at sets
    have stamps := (stamped_run env stamped [.sendTemplates, .sendOptionsData]).each
    rw [show (start.run env [.sendTemplates, .sendOptionsData]).journal =
      [attempt, options] from more] at stamps
    obtain ⟨version, from_⟩ := stamps options (List.mem_cons_of_mem _ (List.mem_singleton_self _))
    have whole : built [.sendTemplates, .sendOptionsData] = [attempt.packet, options.packet] :=
      congrArg (List.map _) more
    obtain ⟨parsed, ticks, parsingOptions, records⟩ :=
      parse_options ready version from_ (.count interval) sets
    refine ⟨templates, parsed, _, ?_, records, rate_options observationDomainId interval positive _⟩
    rw [whole, collect_cons parsing, collect_cons parsingOptions]
    rfl

def sixFlow : Flow :=
  (Flow.new ⟨.v6 1, .v6 2, 17, 53, 5353⟩ ⟨⟨1500000⟩, 0⟩).update 70000 0 ⟨⟨2999999⟩, 0⟩

theorem two_families_collected :
    let built := built lossy 1 (.count 10) 0
    let collector := Ipfix.World.new (fun _ => 0) .newWithIanaElements 1
    (∃ parsed, collect (fun _ => 0) (built [.sendTemplates,
      .send (.flows [sixFlow, oneFlow])]) collector = some parsed ∧
      List.Forall₂ ArrivesAs [oneFlow, sixFlow]
        (parsed.flatMap (flowsOf plainIpv4 none (.v4 0x0a000001) none))) ∧
    ∃ templates parsed record,
      collect (fun _ => 0) (built [.sendTemplates, .sendOptionsData]) collector =
        some [templates, parsed] ∧
      parsed.sets.map (fun set => (set.id, set.records)) =
        [(OPTIONS_TEMPLATE_ID, [.optionsData record])] ∧
      extractSamplingRate record = some 10 ∧
        extractSamplingRate (only [.samplingInterval] record) = some 10 ∧
      extractSamplingRate (only [.samplingPacketInterval, .samplingPacketSpace] record) =
        some 10 := by
  obtain ⟨flows, options⟩ :=
    exporter_to_collector lossy 1 10 0 (fun _ => 0) (fun _ _ => Nat.zero_lt_one)
  have regular : ∀ flow ∈ [sixFlow, oneFlow], (toFlowData flow).Regular := by
    intro flow mem
    obtain rfl | rfl := List.mem_pair.mp mem
    · exact ⟨trivial, by decide, by decide⟩
    · exact ⟨trivial, by decide, by decide⟩
  exact ⟨flows [sixFlow, oneFlow] regular plainIpv4 none (.v4 0x0a000001) none, options (by decide)⟩

end Rustflow.Export
