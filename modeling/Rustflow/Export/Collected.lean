import Rustflow.Delivery
import Rustflow.Export.RunConservation

/-!
# From the wire to the collector

An exporter of flows is a sender as a processor expects one. Whatever becomes of its datagrams, the
flows of each that arrives in time are those that ended in the cache, which account for what was
captured.
-/

namespace Rustflow.Export
open Ipfix InformationElement Thinning
open NetflowProcessor (Arrival)

/-! ### The vocabulary -/

def vocabulary (sampling : Sampling) : Vocabulary where
  templates := createFlowTemplates
  optionsTemplates := [createOptionsTemplate sampling]

theorem vocabulary_eq (sampling : Sampling) : vocabulary sampling = vocabulary (.count 0) := by
  unfold vocabulary
  rw [createOptionsTemplate_eq]

theorem sound_vocabulary (sampling : Sampling) : (vocabulary sampling).Sound where
  readTemplates := many0_flowTemplates
  readOptionsTemplates := many0_optionsTemplate sampling
  usable kind := by
    rw [vocabulary_eq]
    cases kind <;> decide
  distinct := by
    rw [vocabulary_eq]
    decide
  room kind := by
    rw [vocabulary_eq]
    cases kind <;> decide

/-- What a message is about. -/
inductive About where
  | templates
  | options
  | data (template : TemplateRecord) (flows : List Flow)

namespace About

def sets (domain : UInt32) (sampling : Sampling) : About → List Ipfix.Set
  | .templates => templateSets .flow sampling
  | .options =>
    [⟨OPTIONS_TEMPLATE_ID, 0, [.optionsData (OptionsData.mk domain sampling).toDataRecord]⟩]
  | .data template flows =>
    [⟨template.templateId, 0, flows.map fun flow => .data (toFlowData flow).toDataRecord⟩]

def content (domain : UInt32) (sampling : Sampling) : About → Vocabulary.Content
  | .templates => .templates
  | .options => .rows .options (OPTIONS_TEMPLATE_ID, (createOptionsTemplate sampling).fields)
      [(OptionsData.mk domain sampling).toDataRecord.values]
  | .data template flows => .rows .data (template.templateId, template.fields)
      (flows.map fun flow => (toFlowData flow).wholeMillis.toDataRecord.values)

def carried : About → List Flow
  | .data _ flows => flows
  | _ => []

end About

/-- Each message tried, with what it is about. -/
def sender (E : Type) (domain interval : UInt32) : Sender (Attempt E × About) where
  vocabulary := vocabulary (.count interval)
  domain := domain
  rate := interval
  payload message := message.1.packet.encode
  content message := message.2.content domain (.count interval)

structure Worded (domain : UInt32) (sampling : Sampling) (packet : IpfixPacket) (about : About) :
    Prop where
  sets : packet.sets = about.sets domain sampling
  fits : packet.encode.length < 2 ^ 16
  template : ∀ template flows, about = .data template flows →
    template ∈ createFlowTemplates ∧ ∀ flow ∈ flows, (toFlowData flow).template = template

section
variable {domain interval : UInt32}

theorem Worded.describes {packet : IpfixPacket} {about : About}
    (worded : Worded domain (.count interval) packet about)
    (regular : ∀ flow ∈ about.carried, (toFlowData flow).Regular) :
    (vocabulary (.count interval)).Describes .newWithIanaElements domain packet.sets
      (about.content domain (.count interval)) := by
  obtain ⟨sets, -, sound⟩ := worded
  rw [sets]
  cases about with
  | templates => exact .templates
  | options =>
    let data := OptionsData.mk domain (.count interval)
    refine @Vocabulary.Describes.rows _ _ _ .options
      (OPTIONS_TEMPLATE_ID, (createOptionsTemplate (.count interval)).fields) [_] _
      ?_ ?_ ?_ ?_
    · exact List.mem_singleton_self _
    · rw [List.flatMap_singleton, List.flatMap_singleton]
      exact encodeRecord_new _
    · exact List.forall_mem_singleton.mpr (carries_options data)
    · exact fun _ => List.forall_mem_singleton.mpr (read_options data ..)
  | data template flows =>
    obtain ⟨known, one⟩ := sound template flows rfl
    refine @Vocabulary.Describes.rows _ _ _ .data (template.templateId, template.fields)
      (flows.map _) _ ?_ ?_ ?_ ?_
    · exact List.mem_map_of_mem (f := fun template : TemplateRecord =>
        (template.templateId, template.fields)) known
    · rw [List.flatMap_map, List.flatMap_map]
      exact List.flatMap_congr fun flow _ =>
        (FlowData.encode_wholeMillis _).symm.trans (encodeRecord_new _)
    · refine List.forall_mem_map.mpr fun flow mem => ?_
      rw [← one flow mem]
      exact (regular flow mem).carries
    · intro options
      cases options

theorem states_options (E : Type) (positive : 1 ≤ interval) : (sender E domain interval).States
    ((sender E domain interval).record .newWithIanaElements (OPTIONS_TEMPLATE_ID,
      (createOptionsTemplate (.count interval)).fields)
      (OptionsData.mk domain (.count interval)).toDataRecord.values) := by
  constructor
  · exact (rate_options domain interval positive _).1
  · show extractSamplerId ⟨_, _⟩ = _
    unfold extractSamplerId
    rw [iter_resolveFields]
    rfl
  · show extractSystemInitTime ⟨_, _⟩ = _
    unfold extractSystemInitTime
    rw [iter_resolveFields]
    rfl

theorem Worded.sends {E : Type} {attempt : Attempt E} {about : About}
    (worded : Worded domain (.count interval) attempt.packet about) (positive : 1 ≤ interval)
    (stamped : attempt.packet.header.version = IPFIX_VERSION ∧
      attempt.packet.header.observationDomainId = domain)
        (regular : ∀ flow ∈ about.carried, (toFlowData flow).Regular) :
    (sender E domain interval).Sends .newWithIanaElements (attempt, about) := by
  refine ⟨attempt.packet, rfl, ⟨stamped.1, stamped.2, worded.fits, worded.describes regular⟩, ?_⟩
  intro template rows content
  cases about with
  | templates | data => cases content
  | options =>
    cases content
    exact ⟨List.cons_ne_nil _ _, List.forall_mem_singleton.mpr (states_options E positive)⟩

/-- The rate is the exporter's, whatever flow is converted. -/
theorem context_convert_flow {flow : Flow} (regular : (toFlowData flow).Regular)
    (etherparse : Etherparse) (context : IpfixContext) (types : ElementTypes)
    (templateId : UInt16) :
    let converted :=
      context.convert etherparse ⟨resolveFields .newWithIanaElements types domain
        (toFlowData flow).template.fields,
      (toFlowData flow).wholeMillis.toDataRecord.values⟩ templateId
    converted.samplingRate = context.samplingRate ∧ converted.samplerAddress =
      context.samplerAddress := by
  have family := regular.family
  obtain ⟨⟨source, destination, _, _, _⟩, _, _, _, _, _, _, _, _⟩ := flow
  unfold IpfixContext.convert packetSection
  simp only [iter_resolveFields]
  cases source <;> cases destination
  case v4.v6 | v6.v4 => exact family.elim
  all_goals
    simp only [FlowData.template, ipv4Template, ipv6Template, FlowData.wholeMillis,
      FlowData.toDataRecord, toFlowData, flowTemplate, TemplateRecord.new, DataRecord.new, address,
      List.cons_append, List.nil_append, List.zipWith, List.filterMap_cons, List.filterMap_nil,
      List.foldl, IpfixContext.readField, ianaElement_fromIe, IpfixContext.setField]
    exact ⟨rfl, rfl⟩

end

/-- The flows of a message have arrived, with the rate if that was heard. -/
def Arrived {E : Type} (src : IpAddr) (rate : UInt32) :
    Option (Expected (Attempt E × About)) → IpAddr × Option NetflowPacket × List CommonFlow → Prop
  | none, _ => True
  | some expected, (from_, _, flows) =>
    from_ = src ∧ List.Forall₂ (fun sent flow => ArrivesAs sent flow ∧
      flow.samplerAddress = some src ∧ flow.timeReceivedNs = expected.timeReceivedNs ∧
      (expected.rated → flow.samplingRate = some rate)) expected.message.2.carried flows

theorem arrived_of_met {E : Type} {domain interval : UInt32} {etherparse : Etherparse}
    {src : IpAddr} {expected : Option (Expected (Attempt E × About))}
    {result : IpAddr × Option NetflowPacket × List CommonFlow}
    (own : ∀ arrival ∈ expected, Worded domain (.count interval) arrival.message.1.packet
      arrival.message.2 ∧
      ∀ flow ∈ arrival.message.2.carried, (toFlowData flow).Regular)
    (met : Expected.Met (sender E domain interval) .newWithIanaElements etherparse src
      expected result) :
    Arrived src interval expected result := by
  cases expected with
  | none => trivial
  | some expected =>
    obtain ⟨from_, _, flows⟩ := result
    obtain ⟨rfl, context, rfl, address, -, -, rated⟩ := met
    obtain ⟨worded, regular⟩ := own expected rfl
    have content : (sender E domain interval).content expected.message =
        expected.message.2.content domain (.count interval) := rfl
    refine ⟨rfl, ?_⟩
    unfold Expected.flows
    rw [content]
    have sound := worded.template
    generalize expected.message.2 = about at sound regular
    cases about with
    | templates | options => exact .nil
    | data template flows =>
      obtain ⟨-, one⟩ := sound template flows rfl
      dsimp only [About.content, About.carried]
      rw [List.map_map]
      refine List.forall₂_map_right_iff.mpr (List.forall₂_same.mpr fun flow mem => ?_)
      dsimp only [Function.comp_apply]
      rw [← one flow mem]
      have converted :=
        convert_flow (regular flow mem) etherparse context ElementTypes.default domain
        (toFlowData flow).template.templateId
      obtain ⟨rate, sampler⟩ :=
        @context_convert_flow domain _ (regular flow mem) etherparse context ElementTypes.default
        (toFlowData flow).template.templateId
      exact ⟨converted.received _, sampler.trans address, rfl,
        fun heard => rate.trans (rated heard)⟩

/-! ### What is journaled -/

section
variable {E : Type} (env : Surroundings E)

def config (w : World E) : Mode × Sampling := (w.exporter.mode, w.exporter.sampling)

theorem config_sendData (id : UInt16) (records : List Record) (w : World E) :
    config (sendData env id records w).2 = config w := by
  have sent : config (sendSets env [{ id, length := 0, records }] w).2 = config w := rfl
  unfold sendData
  dsimp only
  split
  case _ run => rwa [run] at sent
  case _ run => rwa [run] at sent

theorem config_call (w : World E) (call : Call) : config (w.call env call) = config w := by
  cases call with
  | sendTemplates =>
    have sent : config (sendSets env (templateSets w.exporter.mode w.exporter.sampling) w).2 =
        config w := rfl
    rw [World.call]
    unfold sendTemplates
    dsimp only
    split
    case _ run => rwa [templateSets, run] at sent
    case _ run => rwa [templateSets, run] at sent
  | sendOptionsData => exact config_sendData env _ _ w
  | send records =>
    rw [World.call, send_eq, sendRecords_eq]
    exact List.foldlRecOn (motive := fun sent => config sent.2 = config w)
      (b := (.ok (), w)) _ (sendHeld env) rfl
      fun sent same held _ => (config_sendData env _ _ sent.2).trans same

variable {domain : UInt32} {sampling : Sampling}

/-- Messages that flows are packed in are about them. -/
theorem told_flows {attempts : List (Attempt E)} {messages : List Message} {flows : List Flow}
    (packed : PackedAs (flows.map fun flow =>
      ((toFlowData flow).templateId, (toFlowData flow).toDataRecord)) messages)
    (sets : attempts.map (·.packet.sets) = messages.map Message.sets) :
    ∃ told : List (Attempt E × About), told.map Prod.fst = attempts ∧
      (∀ message ∈ told, Worded domain sampling message.1.packet message.2) ∧
      told.flatMap (·.2.carried) = flows := by
  obtain ⟨whole, nonempty, within, -⟩ := packed
  induction messages generalizing attempts flows with
  | nil =>
    obtain rfl := List.map_eq_nil_iff.mp sets
    obtain rfl := List.map_eq_nil_iff.mp whole.symm
    exact ⟨[], rfl, fun _ mem => absurd mem List.not_mem_nil, rfl⟩
  | cons message messages ih =>
    obtain ⟨attempt, attempts, rfl, here, others⟩ := List.map_eq_cons_iff.mp sets
    obtain ⟨first, later, rfl, records, rest⟩ := List.append_eq_map_iff.mp whole
    obtain ⟨template, known, one, id, data⟩ :=
      message_of_flows (nonempty message List.mem_cons_self) records
    obtain ⟨told, same, worded, carried⟩ :=
      ih others rest.symm (List.forall_mem_of_forall_mem_cons nonempty)
      (List.forall_mem_of_forall_mem_cons within)
    refine ⟨(attempt, .data template first) :: told, ?_,
      List.forall_mem_cons.mpr ⟨⟨?_, ?_, ?_⟩, worded⟩, ?_⟩
    · rw [List.map_cons, same]
    · rw [here, Message.sets, ← id, data, List.map_map]
      rfl
    · obtain ⟨⟨header, _⟩, _⟩ := attempt
      subst here
      exact Nat.lt_of_le_of_lt (within message List.mem_cons_self header) (by decide)
    · rintro _ _ ⟨⟩
      exact ⟨known, one⟩
    · rw [List.flatMap_cons, carried]
      rfl

/-- A call journals messages about the flows that it sends. -/
theorem told_call {w : World E} (numbered : Numbered w) (stamped : Stamped domain w)
    (configured : config w = (.flow, sampling)) (call : Call)
    (flows : ∀ records ∈ call.records?, records.mode = .flow)
    (regular : ∀ records ∈ call.records?, ∀ flow ∈ records.sentFlows, (toFlowData flow).Regular) :
    ∃ told : List (Attempt E × About), (w.call env call).journal = w.journal ++ told.map Prod.fst ∧
      (∀ message ∈ told, Worded domain sampling message.1.packet message.2) ∧
      told.flatMap (·.2.carried) = call.records?.elim [] Records.sentFlows := by
  obtain ⟨mode, interval⟩ : w.exporter.mode = .flow ∧ w.exporter.sampling = sampling :=
    Prod.mk.inj configured
  cases call with
  | sendTemplates =>
    obtain ⟨attempt, tried, -, -⟩ := sendTemplates_spec env w
    have sets := tried.sets
    rw [mode, interval] at sets
    refine ⟨[(attempt, .templates)], tried.journal,
      List.forall_mem_singleton.mpr ⟨sets, fits_templates sets, ?_⟩, rfl⟩
    intro _ _ same
    cases same
  | sendOptionsData =>
    obtain ⟨attempt, tried, -, -⟩ :=
      sendData_spec env OPTIONS_TEMPLATE_ID [.optionsData (OptionsData.mk
      w.exporter.observationDomainId w.exporter.sampling).toDataRecord] w
    have sets := tried.sets
    rw [stamped.exporter, interval] at sets
    refine ⟨[(attempt, .options)], tried.journal,
      List.forall_mem_singleton.mpr ⟨sets, fits_options sets, ?_⟩, rfl⟩
    intro _ _ same
    cases same
  | send records =>
    cases records with
    | packets _ => cases flows _ rfl
    | flows all =>
      have regular : ∀ flow ∈ ipv4First all, (toFlowData flow).Regular := regular _ rfl
      have small : ∀ r ∈ (Records.flows all).toList, (encodeRecord r.2).length ≤ MAX_SET_BODY := by
        rw [Records.toList, flowRecords_eq, List.forall_mem_map]
        exact fun flow mem => length_flowRecord (regular flow mem)
      obtain ⟨messages, attempts, packed, journal, sets, -⟩ :=
        send_packed env numbered (.flows all) small
      rw [Records.toList, flowRecords_eq] at packed
      obtain ⟨told, rfl, worded, carried⟩ := @told_flows _ domain sampling _ _ _ packed sets
      exact ⟨told, journal, worded, carried⟩

theorem told_run {w : World E} (numbered : Numbered w) (stamped : Stamped domain w)
    (configured : config w = (.flow, sampling)) (calls : List Call)
    (flows : ∀ records ∈ calls.filterMap Call.records?, records.mode = .flow)
    (regular : ∀ flow ∈ (calls.filterMap Call.records?).flatMap Records.sentFlows,
      (toFlowData flow).Regular) :
    ∃ told : List (Attempt E × About), (w.run env calls).journal = w.journal ++ told.map Prod.fst ∧
      (∀ message ∈ told, Worded domain sampling message.1.packet message.2) ∧
      told.flatMap (·.2.carried) = (calls.filterMap Call.records?).flatMap Records.sentFlows := by
  induction calls generalizing w with
  | nil => exact ⟨[], (List.append_nil _).symm, fun _ mem => absurd mem List.not_mem_nil, rfl⟩
  | cons call calls ih =>
    have split : (call :: calls).filterMap Call.records? = call.records?.toList ++
        calls.filterMap Call.records? := by
      cases given : call.records? <;> simp [given]
    rw [split, List.flatMap_append] at regular
    rw [split] at flows
    obtain ⟨now, after⟩ := List.forall_mem_append.mp regular
    obtain ⟨flowsNow, flowsAfter⟩ := List.forall_mem_append.mp flows
    obtain ⟨first, journal, wordedNow, carriedNow⟩ := told_call env numbered stamped configured call
      (fun records given => flowsNow records (Option.mem_toList.mpr given))
      (fun records given flow mem =>
        now flow (List.mem_flatMap.mpr ⟨records, Option.mem_toList.mpr given, mem⟩))
    obtain ⟨told, journal', worded, carried⟩ :=
      ih (numbered_run env [call] w numbered) (stamped_run env stamped [call])
      ((config_call env w call).trans configured) flowsAfter after
    refine ⟨first ++ told, ?_, List.forall_mem_append.mpr ⟨wordedNow, worded⟩, ?_⟩
    · rw [List.map_append, ← List.append_assoc, ← journal]
      exact journal'
    · rw [List.flatMap_append, carriedNow, carried, split, List.flatMap_append]
      cases call.records? <;> simp

end

/-! ### What is captured -/

theorem parse_family {etherparse : Etherparse} {link : Link} {data : List UInt8}
    {packet : PacketInfo} (parsed : parse etherparse link data = some packet) :
    packet.flowKey.sourceIp.SameFamily packet.flowKey.destinationIp := by
  obtain ⟨sliced, -, info⟩ := Option.bind_eq_some_iff.mp parsed
  obtain ⟨net, -, info⟩ := Option.bind_eq_some_iff.mp info
  obtain ⟨⟨source, destination, protocol, size⟩, network, info⟩ := Option.bind_eq_some_iff.mp info
  cases info
  cases net <;> cases network <;> trivial

theorem ofUpdates_times {P : DateTime → Prop} {key : FlowKey} {updates : List Update} {flow : Flow}
    (made : Flow.ofUpdates key updates = some flow) (each : ∀ u ∈ updates, P u.seen.time) :
    P flow.flowStart ∧ P flow.flowEnd := by
  induction updates using List.reverseRecOn generalizing flow with
  | nil => cases made
  | append_singleton updates u ih =>
    obtain ⟨before, last⟩ := List.forall_mem_append.mp each
    have last := List.forall_mem_singleton.mp last
    rw [Flow.ofUpdates_snoc, Flow.add, Option.some.injEq] at made
    subst made
    refine ⟨?_, last⟩
    cases given : Flow.ofUpdates key updates with
    | none => exact last
    | some flow => exact (ih given before).1

/-- A frame captured at a time that an `i64` of nanoseconds after the epoch holds. -/
def Frame.Dated (frame : Frame) : Prop := 0 ≤ frame.time.nanos ∧ frame.time.nanos < 2 ^ 63

theorem regular_ended {etherparse : Etherparse} {link : Link} {frames : List Frame}
    (dated : ∀ frame ∈ frames, frame.Dated) {key : FlowKey} {updates : List Update}
    {ended : List Flow} (packets : updates.map (Update.toPacket key) =
      packetsIn etherparse link key frames) (accounts : Accounts key updates ended none) :
    ∀ flow ∈ ended, (toFlowData flow).Regular := by
  have each : ∀ u ∈ updates, key.sourceIp.SameFamily key.destinationIp ∧ 0 ≤ u.seen.time.nanos ∧
      u.seen.time.nanos < 2 ^ 63 := by
    intro u mem
    have inside := List.mem_map_of_mem (f := Update.toPacket key) mem
    rw [packets] at inside
    obtain ⟨frame, captured, read⟩ := List.mem_filterMap.mp (List.mem_filter.mp inside).1
    obtain ⟨packet, parsed, same⟩ := Option.map_eq_some_iff.mp read
    have sameKey : packet.flowKey = key := congrArg (·.1.flowKey) same
    have time : frame.time = u.seen.time := congrArg Prod.snd same
    rw [← sameKey, ← time]
    exact ⟨parse_family parsed, dated frame captured⟩
  obtain ⟨past, current, whole, closed, -⟩ := accounts
  intro flow mem
  have listed :=
    List.mem_map_of_mem (f := fun flow : Flow => some { flow with flowEndReason := none }) mem
  rw [closed] at listed
  obtain ⟨stretch, inside, made⟩ := List.mem_map.mp listed
  have part : ∀ u ∈ stretch, u ∈ updates := fun u mem =>
    whole ▸ List.mem_append_left _ (List.mem_flatten_of_mem inside mem)
  have sameKey : flow.key = key := (Flow.ofUpdates_eq_some made).1
  have times := ofUpdates_times (P := fun t => 0 ≤ t.nanos ∧ t.nanos < 2 ^ 63) made fun u mem =>
    (each u (part u mem)).2
  obtain ⟨u, first⟩ := List.exists_mem_of_ne_nil stretch fun empty => by
    rw [Flow.ofUpdates_eq_none.mpr empty] at made
    cases made
  have family := (each u (part u first)).1
  rw [← sameKey] at family
  exact ⟨family, times.1, times.2⟩

theorem regular_sent {etherparse : Etherparse} {link : Link} {frames : List Frame}
    (dated : ∀ frame ∈ frames, frame.Dated) {flows : List Flow}
    (accounts : ∀ key, ∃ updates, updates.map (Update.toPacket key) =
      packetsIn etherparse link key frames ∧
      Accounts key updates (flows.filter (·.key = key)) none) : ∀ flow ∈ flows,
        (toFlowData flow).Regular := by
  intro flow mem
  obtain ⟨updates, packets, account⟩ := accounts flow.key
  exact regular_ended dated packets account flow (List.mem_filter.mpr ⟨mem, decide_eq_true rfl⟩)

/-! ### What arrives -/

/-- Of messages about regular flows, each that comes in time is made into its flows. -/
theorem told_arrives {E : Type} {domain interval : UInt32} (positive : 1 ≤ interval)
    {told : List (Attempt E × About)}
    (stamped : ∀ message ∈ told, message.1.packet.header.version = IPFIX_VERSION ∧
      message.1.packet.header.observationDomainId = domain)
    (worded : ∀ message ∈ told, Worded domain (.count interval) message.1.packet message.2)
    (regular : ∀ flow ∈ told.flatMap (·.2.carried), (toFlowData flow).Regular) {timeout : Duration}
    {src : IpAddr} {start : Instant} {arrivals : List Arrival}
    {expected : List (Option (Expected (Attempt E × About)))}
    (delivered : (sender E domain interval).Delivered told timeout src none start arrivals expected)
    (etherparse : Etherparse) (v9 ipfix : Instant) : List.Forall₂ (Arrived src interval) expected
      ((NetflowProcessor.new .newWithIanaElements timeout v9 ipfix).run etherparse arrivals) := by
  have each : ∀ message ∈ told, ∀ flow ∈ message.2.carried, (toFlowData flow).Regular :=
    fun message mem flow inside =>
    regular flow (List.mem_flatMap.mpr ⟨message, mem, inside⟩)
  have met :=
    (NetflowProcessor.follows_new (sender E domain interval) .newWithIanaElements timeout src start
      v9 ipfix).run etherparse
    delivered (sound_vocabulary _) fun message mem =>
      (worded message mem).sends positive (stamped message mem) (each message mem)
  refine List.Forall₂.imp (fun _ _ ⟨own, met⟩ => arrived_of_met own met)
    ((List.forall₂_and_left _ _).mpr ⟨?_, met⟩)
  intro arrival mem own inside
  have sent := delivered.sent arrival mem own inside
  exact ⟨worded own.message sent, each own.message sent⟩

/-! ### Main result -/

/-- What an exporter of flows captures, a collector gets: its messages carry flows that account for
the packets metered of every key, and however they are lost, repeated and reordered among others,
each that comes while the templates last is made into its flows, with the sampling interval as their
rate once the options came within the templates' time. -/
theorem captured_is_collected {E : Type} (etherparse : Etherparse) (env : Surroundings E)
    (args : RunArgs) (mode : args.mode = .flow) (link : Link) (localPort : UInt16)
    (collector : SocketAddr) (created now : Instant) (interval : 1 ≤ args.samplingPacketInterval)
    (room : 1 ≤ args.maxFlows) {first : Running E}
    (started : Running.start env args link localPort collector created now = .ok first)
    (rounds : List Round) (dated : ∀ round ∈ rounds, ∀ frame ∈ round.frame, frame.Dated)
    (order : IterationOrder Flow) :
    let metered :=
      Meter.metered etherparse args.toExportArgs link localPort collector
        (rounds.filterMap (·.frame))
    ∃ last, first.run etherparse env args rounds = some last ∧ ∃ told : List (Attempt E × About),
      (last.shutdown env order).journal = told.map Prod.fst ∧
      (∀ message ∈ told, Worded args.observationDomainId args.sampling message.1.packet message.2) ∧
      (∀ key, ∃ updates, updates.map (Update.toPacket key) = packetsIn etherparse link key metered ∧
        Accounts key updates ((told.flatMap (·.2.carried)).filter (·.key = key)) none) ∧
      ∀ {timeout : Duration} {src : IpAddr} {start : Instant} {arrivals : List Arrival}
        {expected : List (Option (Expected (Attempt E × About)))},
        (sender E args.observationDomainId args.samplingPacketInterval).Delivered
          (told.filter (·.1.outcome.isOk)) timeout src none start
          arrivals expected →
        ∀ (collecting : Etherparse) (v9 ipfix : Instant),
          List.Forall₂ (Arrived src args.samplingPacketInterval) expected
            ((NetflowProcessor.new .newWithIanaElements timeout v9 ipfix).run collecting
              arrivals) := by
  intro metered
  have total := Meter.run_isSome etherparse interval room link localPort collector
  obtain ⟨last, ran, traced⟩ := Running.traced_run (Running.traced_start started) total args rounds
  obtain ⟨metering, records, exporting, meteringRan, observed, journaled, sent⟩ :=
    (Running.traced_shutdown traced order).calls
  rw [List.nil_append] at observed
  have accounts :=
    Meter.exported_flows interval room mode meteringRan (last.meter.drained_takeAll order)
  rw [observed] at accounts
  have flows := Meter.mode_records mode meteringRan
  have timely : ∀ frame ∈ metered, frame.Dated := by
    intro frame mem
    obtain ⟨round, inside, given⟩ :=
      List.mem_filterMap.mp (mem_of_mem_everyNth (List.mem_filter.mp mem).1)
    exact dated round inside frame given
  have regular := regular_sent timely accounts
  rw [mode] at journaled
  have numbered :
      Numbered (World.new args.observationDomainId .flow args.sampling created : World E) :=
    numbered_new ..
  have stamped :
      Stamped args.observationDomainId
        (World.new args.observationDomainId .flow args.sampling created : World E) :=
    ⟨rfl, fun _ mem => absurd mem List.not_mem_nil⟩
  rw [← sent] at flows regular
  obtain ⟨told, journal, worded, carried⟩ :=
    told_run env numbered stamped rfl exporting flows regular
  rw [← journaled] at journal
  have stamps := stamped_run env stamped exporting
  rw [← journaled] at stamps
  refine ⟨last, ran, told, journal, worded, ?_, ?_⟩
  · rw [carried, sent]
    exact accounts
  · intro timeout src start arrivals expected delivered collecting v9 ipfix
    have sentOnes : ∀ message ∈ told.filter (·.1.outcome.isOk), message ∈ told :=
      fun message mem => (List.mem_filter.mp mem).1
    rw [← carried] at regular
    refine told_arrives interval (fun message mem => stamps.each message.1 ?_) (fun message mem =>
      worded message (sentOnes message mem))
      (fun flow mem => ?_) delivered collecting v9 ipfix
    · rw [journal]
      exact List.mem_map_of_mem (sentOnes message mem)
    · obtain ⟨message, inside, carries⟩ := List.mem_flatMap.mp mem
      exact regular flow (List.mem_flatMap.mpr ⟨message, sentOnes message inside, carries⟩)

/-- A network that loses nothing. -/
def calm : Surroundings Unit where
  utcNow _ := ⟨0⟩
  sendTo _ _ := .ok ()
  now n := n

def oneFrameArgs : RunArgs :=
  { Meter.everySecondFrame with mode := .flow, observationDomainId := 1, templateRefreshRate := 60 }

/-- A message as it arrives. -/
def arriving {E : Type} (message : Attempt E × About) : Arrival where
  datagram := { src := .v4 0x0a000001, payload := message.1.packet.encode, clock := fun _ => 0 }
  order := .listed
  timeReceivedNs := none

/-- The flow of a frame is collected twice, once its templates came. Its first message comes too
early. -/
theorem oneFrame_collected :
    ∃ templates message : Attempt Unit × About, message.2.carried.length = 1 ∧
      List.Forall₂ (Arrived (.v4 0x0a000001) 2)
        [none, some ⟨templates, false, none⟩, some ⟨message, false, none⟩,
          some ⟨message, false, none⟩]
        ((NetflowProcessor.new .newWithIanaElements 60 0 0).run plainIpv4
          ([message, templates, message, message].map arriving)) := by
  let order : IterationOrder Flow := ⟨id, fun _ => .refl _⟩
  have journal :
      ((Running.start calm oneFrameArgs .ip 1000 ⟨.v4 0xc6336407, 2055⟩ 0 0).toOption.bind
        fun first =>
      first.run plainIpv4 calm oneFrameArgs [secondly order 0]).map
        (fun last => (last.shutdown calm order).journal.map fun attempt =>
        (attempt.packet.sets.map fun set => (set.id, set.records.length), attempt.outcome.isOk)) =
      some [([(2, 2), (3, 1)], true), ([(258, 1)], true), ([(256, 1)], true)] := by decide +kernel
  have dated : ∀ round ∈ [secondly order 0], ∀ frame ∈ round.frame, frame.Dated := by
    simp [secondly, Meter.dnsFrame, Frame.Dated]
  cases started : Running.start calm oneFrameArgs .ip 1000 ⟨.v4 0xc6336407, 2055⟩ 0 0 with
  | error e =>
    rw [started] at journal
    cases journal
  | ok first =>
    obtain ⟨last, ran, told, same, worded, -, collects⟩ :=
      captured_is_collected plainIpv4 calm oneFrameArgs rfl .ip 1000
      ⟨.v4 0xc6336407, 2055⟩ 0 0 (by decide) (by decide) started [secondly order 0] dated order
    rw [started, Except.toOption, Option.bind_some, ran, Option.map_some, same,
      List.map_map] at journal
    obtain ⟨⟨templates, about⟩, others, rfl, one, journal⟩ :=
      List.map_eq_cons_iff.mp (Option.some.inj journal)
    obtain ⟨options, others, rfl, -, journal⟩ := List.map_eq_cons_iff.mp journal
    obtain ⟨⟨message, about'⟩, others, rfl, two, journal⟩ := List.map_eq_cons_iff.mp journal
    obtain rfl := List.map_eq_nil_iff.mp journal
    obtain ⟨sets, sent⟩ := Prod.mk.inj one
    obtain ⟨sets', sent'⟩ := Prod.mk.inj two
    have first := (worded (templates, about) (by simp)).sets
    have third := (worded (message, about') (by simp)).sets
    dsimp only at first third sets sets'
    rw [first] at sets
    rw [third] at sets'
    cases about with
    | options | data => simp [About.sets] at sets
    | templates =>
      cases about' with
      | templates => simp [About.sets, templateSets] at sets'
      | options => simp [About.sets, OPTIONS_TEMPLATE_ID] at sets'
      | data template flows =>
        refine ⟨(templates, .templates), (message, .data template flows), ?_, ?_⟩
        · simpa [About.sets, About.carried] using (Prod.mk.inj (List.head_eq_of_cons_eq sets')).2
        · have forward : Nat → (0 : Instant) ≤ 0 ∧ (0 : Instant) ≤ 0 :=
            fun _ => ⟨Nat.le_refl _, Nat.le_refl _⟩
          have recent : Nat → (0 : Instant) - 0 < 60 := fun _ => by decide
          refine @collects 60 (.v4 0x0a000001) 0 _ _ ?_ plainIpv4 0 0
          refine .late rfl (List.mem_filter.mpr ⟨by simp, sent'⟩) rfl (Nat.le_refl _) forward ?_ ?_
          · rintro ⟨_, ⟨⟩, _⟩
          refine .own rfl ?_ rfl (Nat.le_refl _) forward recent ?_
          · exact List.mem_filter.mpr ⟨by simp, sent⟩
          refine .own rfl ?_ rfl (Nat.le_refl _) forward ⟨_, rfl, recent⟩ ?_
          · exact List.mem_filter.mpr ⟨by simp, sent'⟩
          refine .own rfl ?_ rfl (Nat.le_refl _) forward ⟨_, rfl, recent⟩ .nil
          exact List.mem_filter.mpr ⟨by simp, sent'⟩

end Rustflow.Export
