import Rustflow.Delivery
import Rustflow.Export.Readable
import Rustflow.Generate.Runs

/-!
# From the generator to the collector

The generator is a sender as a processor expects one. Whatever becomes of its datagrams on the way,
and in whatever order they come, the flows of each that arrives in time are the flows generated for
it.
-/

namespace Rustflow.Generate
open Ipfix InformationElement
open NetflowProcessor (Arrival)

/-! ### The vocabulary -/

def vocabulary (family : AddressFamily) : Vocabulary where
  templates := [createFlowTemplate family]
  optionsTemplates := [createOptionsTemplate]

theorem sound_vocabulary (family : AddressFamily) : (vocabulary family).Sound where
  readTemplates := by cases family <;> decide +kernel
  readOptionsTemplates := by cases family <;> decide +kernel
  usable kind := by cases kind <;> cases family <;> decide
  distinct := by cases family <;> decide
  room kind := by cases kind <;> cases family <;> decide

/-- A flow with its times in whole milliseconds, as they are written. -/
def Flow.wholeMillis (self : Flow) : Flow :=
  { self with flowStart := self.flowStart.wholeMillis, flowEnd := self.flowEnd.wholeMillis }

def optionsRow (domain : UInt32) : List FieldValue := (createOptionsRecord domain 1).values

/-- What a message is about. -/
def Message.content (self : IpfixGenerator) : Message → Vocabulary.Content
  | .templates => .templates
  | .options =>
    .rows .options (OPTIONS_TEMPLATE_ID, createOptionsTemplate.fields)
      [optionsRow self.observationDomainId]
  | .data flows => .rows .data (FLOW_TEMPLATE_ID, (createFlowTemplate self.family).fields)
      (flows.map fun flow => (createFlowRecord flow.wholeMillis).values)

def sender (E : Type) (generator : IpfixGenerator) : Sender (Attempt E) where
  vocabulary := vocabulary generator.family
  domain := generator.observationDomainId
  rate := 1
  payload attempt := attempt.packet.encode
  content attempt := attempt.message.content generator

/-! ### Records -/

/-- An address of a family. -/
def AddressFamily.Has : AddressFamily → IpAddr → Prop
  | .v4, .v4 _ | .v6, .v6 _ => True
  | _, _ => False

theorem IpNet.Contains.family {cidr : IpNet} {addr : IpAddr} (inside : cidr.Contains addr) :
    (AddressFamily.of cidr).Has addr := by
  cases cidr <;> cases addr
  · trivial
  · exact inside.elim
  · exact inside.elim
  · trivial

/-- What is finer than a millisecond is not written. -/
theorem encode_wholeMillis (flow : Flow) :
    encodeRecord (createFlowRecord flow.wholeMillis) = encodeRecord (createFlowRecord flow) := by
  have same : ∀ t : DateTime, (FieldValue.dateTimeMilliseconds t.wholeMillis).encode =
      (FieldValue.dateTimeMilliseconds t).encode := by
    intro t
    have whole : t.wholeMillis.timestampMillis = t.timestampMillis :=
      Int.mul_ediv_cancel _ (by decide)
    rw [FieldValue.encode, FieldValue.encode, whole]
  unfold createFlowRecord
  rw [encodeRecord_new, encodeRecord_new]
  simp only [List.flatMap_cons, Flow.wholeMillis, same]

/-- A flow between addresses of a family, at times that an `i64` of nanoseconds after the epoch
holds. -/
structure Flow.Readable (family : AddressFamily) (flow : Flow) : Prop where
  source : family.Has flow.srcIp
  destination : family.Has flow.dstIp
  start : 0 ≤ flow.flowStart.nanos ∧ flow.flowStart.nanos < 2 ^ 63
  end_ : 0 ≤ flow.flowEnd.nanos ∧ flow.flowEnd.nanos < 2 ^ 63

theorem Generated.readable {generator : IpfixGenerator} {now : DateTime} {flow : Flow}
    (generated : Generated generator now flow) (late : 60000000000 ≤ now.nanos)
    (early : now.nanos < 2 ^ 63) : flow.Readable generator.family := by
  obtain ⟨started, ordered⟩ := generated.started
  have ended := generated.ended
  refine ⟨?_, ?_, by omega, by omega⟩
  · rw [← generator.sourceFamily]
    exact generated.source.family
  · rw [← generator.destinationFamily]
    exact generated.destination.family

/-- A flow as the collector gets it from `src`, with its times to the millisecond. -/
structure CollectedAs (src : IpAddr) (sent : Flow) (flow : CommonFlow) : Prop where
  srcAddr : flow.srcAddr = some sent.srcIp
  dstAddr : flow.dstAddr = some sent.dstIp
  proto : flow.proto = some sent.protocol
  tcpFlags : flow.tcpFlags = some sent.tcpFlags
  srcPort : flow.srcPort = some sent.srcPort
  dstPort : flow.dstPort = some sent.dstPort
  bytes : flow.bytes = sent.octets.toUInt64
  packets : flow.packets = sent.packets.toUInt64
  timeFlowStartNs : flow.timeFlowStartNs = some (sent.flowStart.nanos / 1000000 * 1000000)
  timeFlowEndNs : flow.timeFlowEndNs = some (sent.flowEnd.nanos / 1000000 * 1000000)
  samplerAddress : flow.samplerAddress = some src

theorem CollectedAs.received {src : IpAddr} {sent : Flow} {flow : CommonFlow}
    (collected : CollectedAs src sent flow) (timeReceivedNs : Option Int) :
    CollectedAs src sent { flow with timeReceivedNs } :=
  { collected with }

section
variable {family : AddressFamily} {flow : Flow}

theorem carries_flow (readable : flow.Readable family) :
    List.Forall₂ (Carries IERegistry.newWithIanaElements) (createFlowTemplate family).fields
      (createFlowRecord flow.wholeMillis).values := by
  have others :
      List.Forall₂ (Carries IERegistry.newWithIanaElements)
        ((createFlowTemplate family).fields.drop 2)
      ((createFlowRecord flow.wholeMillis).values.drop 2) := by
    refine .cons (Export.carries_unsigned8 (by decide) _) ?_
    refine .cons (Export.carries_unsigned16 (by decide) _) ?_
    refine .cons (Export.carries_unsigned16 (by decide) _) ?_
    refine .cons (Export.carries_unsigned16 (by decide) _) ?_
    refine .cons (Export.carries_unsigned64 (by decide) _) ?_
    refine .cons (Export.carries_unsigned64 (by decide) _) ?_
    refine .cons (Export.carries_wholeMillis (by decide) readable.start.1 readable.start.2) ?_
    exact .cons (Export.carries_wholeMillis (by decide) readable.end_.1 readable.end_.2) .nil
  have source := readable.source
  have destination := readable.destination
  obtain ⟨srcIp, dstIp⟩ := flow
  cases family <;> cases srcIp <;> cases dstIp
  case v4.v4.v4 =>
    exact .cons (Export.carries_ipv4Address (by decide) _)
      (.cons (Export.carries_ipv4Address (by decide) _) others)
  case v6.v6.v6 =>
    exact .cons (Export.carries_ipv6Address (by decide) _)
      (.cons (Export.carries_ipv6Address (by decide) _) others)
  all_goals first | exact source.elim | exact destination.elim

/-- A record read by the template of its family. -/
theorem convert_flow (readable : flow.Readable family) (etherparse : Etherparse)
    (context : IpfixContext) {src : IpAddr} (from_ : context.samplerAddress = some src)
    {record : Ipfix.DataRecord} {domain : UInt32}
    (entries : record.iter = (createFlowTemplate family).fields.zipWith (fun spec value =>
      (spec, (resolveField .newWithIanaElements .default domain spec).name, value))
        (createFlowRecord flow.wholeMillis).values)
    (templateId : UInt16) : CollectedAs src flow (context.convert etherparse record templateId) ∧
      (context.convert etherparse record templateId).samplingRate = context.samplingRate := by
  have source := readable.source
  have destination := readable.destination
  have start := DateTime.timestampNanosOpt_wholeMillis readable.start.1 readable.start.2
  have end_ := DateTime.timestampNanosOpt_wholeMillis readable.end_.1 readable.end_.2
  obtain ⟨srcIp, dstIp, _, _, _, _, _, _, _, _⟩ := flow
  unfold IpfixContext.convert packetSection
  simp only [entries]
  cases family <;> cases srcIp <;> cases dstIp
  case v4.v4.v4 | v6.v6.v6 =>
    simp only [createFlowTemplate, createFlowRecord, Flow.wholeMillis, addressField,
      TemplateRecord.new, DataRecord.new, List.zipWith, List.filterMap_cons, List.filterMap_nil,
      List.foldl, IpfixContext.readField, ianaElement_fromIe, IpfixContext.setField]
    exact ⟨⟨rfl, rfl, extractU8_unsigned8 _, extractU16_unsigned16 _, extractU16_unsigned16 _,
      extractU16_unsigned16 _, rfl, rfl, start, end_, from_⟩, rfl⟩
  all_goals first | exact source.elim | exact destination.elim

end

/-- The interval of packets is read as the rate. -/
theorem states_options {E : Type} (generator : IpfixGenerator) : (sender E generator).States
    ((sender E generator).record IERegistry.newWithIanaElements (OPTIONS_TEMPLATE_ID,
      createOptionsTemplate.fields)
      (optionsRow generator.observationDomainId)) := by
  constructor
  · show extractSamplingRate ⟨_, _⟩ = _
    unfold extractSamplingRate
    simp only [iter_resolveFields, createOptionsTemplate, OptionsTemplateRecord.new, optionsRow,
      createOptionsRecord, DataRecord.new, List.zipWith, List.foldl, ianaElement_fromIe,
      Option.elim_some, SamplingFields.observe, extractU32_unsigned32]
    rfl
  · show extractSamplerId ⟨_, _⟩ = _
    unfold extractSamplerId
    simp only [iter_resolveFields, createOptionsTemplate, OptionsTemplateRecord.new, optionsRow,
      createOptionsRecord, DataRecord.new, List.zipWith]
    rfl
  · show extractSystemInitTime ⟨_, _⟩ = _
    unfold extractSystemInitTime
    simp only [iter_resolveFields, createOptionsTemplate, OptionsTemplateRecord.new, optionsRow,
      createOptionsRecord, DataRecord.new, List.zipWith]
    rfl

/-! ### Messages -/

section
variable {E R : Type} {env : Surroundings E} {generator : IpfixGenerator}

theorem describes_message {message : Message}
    (readable : ∀ flows, message = .data flows → ∀ flow ∈ flows, flow.Readable generator.family) :
    (vocabulary generator.family).Describes IERegistry.newWithIanaElements
      generator.observationDomainId (message.sets generator)
      (message.content generator) := by
  cases message with
  | templates => exact .templates
  | options =>
    refine @Vocabulary.Describes.rows _ _ _ .options
      (OPTIONS_TEMPLATE_ID, createOptionsTemplate.fields) [_] _ ?_ ?_ ?_ ?_
    · exact List.mem_singleton_self _
    · rw [List.flatMap_singleton, List.flatMap_singleton]
      exact encodeRecord_new _
    · refine List.forall_mem_singleton.mpr (.cons (Export.carries_unsigned32 (by decide) _) ?_)
      exact .cons (Export.carries_unsigned32 (by decide) _) .nil
    · intro _
      refine List.forall_mem_singleton.mpr ?_
      unfold Description.read
      rw [iter_resolveFields]
      rfl
  | data flows =>
    refine @Vocabulary.Describes.rows _ _ _ .data
      (FLOW_TEMPLATE_ID, (createFlowTemplate generator.family).fields) (flows.map _) _
      ?_ ?_ ?_ nofun
    · exact List.mem_singleton_self _
    · rw [List.flatMap_map, List.flatMap_map]
      exact List.flatMap_congr fun flow _ =>
        (encode_wholeMillis flow).symm.trans (encodeRecord_new _)
    · exact List.forall_mem_map.mpr fun flow mem => carries_flow (readable flows rfl flow mem)

theorem sends_attempt {attempt : Attempt E} (made : Made env generator attempt)
    (dated : ∀ n, 60000000000 ≤ (env.utcNow n).nanos ∧ (env.utcNow n).nanos < 2 ^ 63)
    (fits : attempt.packet.encode.length < 2 ^ 16) :
    (sender E generator).Sends IERegistry.newWithIanaElements attempt := by
  refine ⟨attempt.packet, rfl, ⟨made.version, made.domain, fits, ?_⟩, ?_⟩
  · rw [made.sets]
    refine describes_message fun flows data flow mem => ?_
    obtain ⟨-, n, -, generated⟩ := made.flows flows data
    exact (generated flow mem).readable (dated n).1 (dated n).2
  · intro template rows about
    change attempt.message.content generator = _ at about
    cases message : attempt.message with
    | templates =>
      rw [message] at about
      cases about
    | options =>
      rw [message] at about
      cases about
      exact ⟨List.cons_ne_nil _ _, List.forall_mem_singleton.mpr (states_options generator)⟩
    | data flows =>
      rw [message] at about
      cases about

end

/-! ### Runs -/

def Message.flows : Message → List Flow
  | .data flows => flows
  | _ => []

/-- The flows of a message have arrived, with the rate if that was heard. -/
def Arrived {E : Type} (src : IpAddr) :
    Option (Expected (Attempt E)) → IpAddr × Option NetflowPacket × List CommonFlow → Prop
  | none, _ => True
  | some expected, (from_, _, flows) =>
    from_ = src ∧ List.Forall₂ (fun sent flow => CollectedAs src sent flow ∧
      flow.timeReceivedNs = expected.timeReceivedNs ∧ (expected.rated → flow.samplingRate = some 1))
        expected.message.message.flows flows

theorem arrived_of_met {E : Type} {env : Surroundings E} {generator : IpfixGenerator}
    {etherparse : Etherparse} {src : IpAddr} {expected : Option (Expected (Attempt E))}
    {result : IpAddr × Option NetflowPacket × List CommonFlow}
    (dated : ∀ n, 60000000000 ≤ (env.utcNow n).nanos ∧ (env.utcNow n).nanos < 2 ^ 63)
    (made : ∀ arrival ∈ expected, Made env generator arrival.message)
    (met : Expected.Met (sender E generator) .newWithIanaElements etherparse src expected result) :
    Arrived src expected result := by
  cases expected with
  | none => trivial
  | some expected =>
    obtain ⟨from_, _, flows⟩ := result
    obtain ⟨rfl, context, rfl, address, -, -, rated⟩ := met
    refine ⟨rfl, ?_⟩
    have made := made expected rfl
    have content : (sender E generator).content expected.message =
        expected.message.message.content generator := rfl
    unfold Expected.flows
    rw [content]
    cases message : expected.message.message with
    | templates | options => exact .nil
    | data flows =>
      obtain ⟨-, n, -, generated⟩ := made.flows flows message
      dsimp only [Message.content, Message.flows]
      rw [List.map_map]
      refine List.forall₂_map_right_iff.mpr (List.forall₂_same.mpr fun flow mem => ?_)
      dsimp only [Function.comp_apply]
      have readable := (generated flow mem).readable (dated n).1 (dated n).2
      obtain ⟨collected, rate⟩ :=
        convert_flow readable etherparse context address
          (iter_resolveFields _ _ generator.observationDomainId
        _ _) FLOW_TEMPLATE_ID
      exact ⟨collected.received _, rfl, fun heard => rate.trans (rated heard)⟩

/-- Of what a generator sends, every datagram that comes while the templates last is made into its
flows. -/
theorem generated_flows_arrive {E R : Type} {sockets : Sockets E} {args : GenerateArgs}
    {generator : IpfixGenerator} (made : IpfixGenerator.new sockets args = .ok generator)
    {rng : Rng R} (lawful : rng.Lawful) (env : Surroundings E)
    (short : ∀ n payload sent, env.sendTo n payload = .ok sent → payload.length < 2 ^ 16)
    (dated : ∀ n, 60000000000 ≤ (env.utcNow n).nanos ∧ (env.utcNow n).nanos < 2 ^ 63) (r : R)
    (started : Instant) (turns : Nat) {timeout : Duration} {src : IpAddr} {now : Instant}
    {arrivals : List Arrival} {expected : List (Option (Expected (Attempt E)))}
    (delivered : (sender E generator).Delivered
      ((Loop.after rng env args generator r started turns).world.journal.filter (·.outcome.isOk))
      timeout src none now arrivals expected)
    (etherparse : Etherparse) (v9 ipfix : Instant) :
    List.Forall₂ (Arrived src) expected
      ((NetflowProcessor.new .newWithIanaElements timeout v9 ipfix).run etherparse arrivals) := by
  have regular :
      Loop.Regular env generator args.count (Loop.after rng env args generator r started turns) :=
    regular_after (asAsked_new made).fresh lawful r started turns
  have each :
      ∀ attempt ∈ (Loop.after rng env args generator r started
        turns).world.journal.filter (·.outcome.isOk),
      Made env generator attempt ∧ attempt.packet.encode.length < 2 ^ 16 := by
    intro attempt mem
    obtain ⟨mem, sent⟩ := List.mem_filter.mp mem
    have made := regular.journaled.made attempt mem
    obtain ⟨n, outcome⟩ := made.outcome
    cases result : attempt.outcome with
    | error e =>
      rw [result] at sent
      cases sent
    | ok bytes => exact ⟨made, short n _ bytes (outcome.symm.trans result)⟩
  have met :=
    (NetflowProcessor.follows_new (sender E generator) .newWithIanaElements timeout src now v9
      ipfix).run
    etherparse delivered (sound_vocabulary generator.family)
    fun attempt mem => sends_attempt (each attempt mem).1 dated (each attempt mem).2
  refine List.Forall₂.imp (fun _ _ ⟨made, met⟩ => arrived_of_met dated made met)
    ((List.forall₂_and_left _ _).mpr ⟨?_, met⟩)
  exact fun arrival mem own inside => (each own.message (delivered.sent arrival mem own inside)).1

/-! ### Two flows -/

/-- The messages of the run, in order. -/
def twoFlowMessage (n : Nat) : Attempt Unit :=
  twoFlowLoop.world.journal.getD n ⟨.templates, packetOf sixSends twoFlowLoop.world .templates,
    .error ()⟩

theorem sent_twoFlows :
    ∀ n < 6, twoFlowMessage n ∈ twoFlowLoop.world.journal.filter (·.outcome.isOk) := by
  have length : twoFlowLoop.world.journal.length = 7 := by decide +kernel
  have sent : ∀ n < 6, (twoFlowMessage n).outcome.isOk := by decide +kernel
  intro n below
  refine List.mem_filter.mpr ⟨?_, sent n below⟩
  unfold twoFlowMessage
  rw [List.getD_eq_getElem _ _ (by omega)]
  exact List.getElem_mem _

/-- The second data packet comes before the templates, the first one before the options and after,
and once more when the templates are a minute old. -/
def twoFlowArrivals : List Arrival :=
  [(5, 0), (0, 0), (2, 1), (1, 2), (2, 3), (2, 60), (3, 61), (5, 62)].map fun (n, time) => {
    datagram := {
      src := .v4 0x0a000001, payload := (twoFlowMessage n).packet.encode, clock := fun _ => time }
    order := .listed
    timeReceivedNs := none }

def twoFlowExpected : List (Option (Expected (Attempt Unit))) := [
  none, some ⟨twoFlowMessage 0, false, none⟩, some ⟨twoFlowMessage 2, false, none⟩,
  some ⟨twoFlowMessage 1, false, none⟩, some ⟨twoFlowMessage 2, true, none⟩, none,
  some ⟨twoFlowMessage 3, true, none⟩, some ⟨twoFlowMessage 5, false, none⟩]

set_option maxRecDepth 1000 in
theorem twoFlows_arrive : List.Forall₂ (Arrived (.v4 0x0a000001)) twoFlowExpected
    ((NetflowProcessor.new .newWithIanaElements 60 0 0).run plainIpv4 twoFlowArrivals) := by
  refine @generated_flows_arrive Unit Nat openSockets twoFlowArgs twoFlowGenerator rfl countingRng
    lawful_countingRng sixSends ?_ ?_ 0 0 3 60 (.v4 0x0a000001) 0 twoFlowArrivals twoFlowExpected ?_
    plainIpv4 0 0
  · intro n payload sent result
    by_contra large
    exact nomatch result.symm.trans (if_neg fun fits => large fits.2)
  · intro n
    show (60000000000 : Int) ≤ 1700000000000000000 + min n 6 ∧
      (1700000000000000000 + min n 6 : Int) < 2 ^ 63
    omega
  · have forward : ∀ time : Instant, Nat → time ≤ time ∧ time ≤ time := fun time _ =>
      ⟨Nat.le_refl _, Nat.le_refl _⟩
    have recent : ∀ time since : Instant, time - since < 60 → Nat → time - since < 60 :=
      fun _ _ recent _ => recent
    have sent := sent_twoFlows
    unfold twoFlowLoop at sent
    refine .late rfl (sent 5 (by decide)) rfl (Nat.le_refl _) (forward 0) ?_ ?_
    · rintro ⟨_, ⟨⟩, _⟩
    refine .own rfl (sent 0 (by decide)) rfl (Nat.le_refl _) (forward 0) (recent 0 0 (by decide)) ?_
    refine .own rfl (sent 2 (by decide)) rfl (Nat.zero_le _) (forward 1)
      ⟨_, rfl, recent 1 0 (by decide)⟩ ?_
    refine .own rfl (sent 1 (by decide)) rfl (Nat.le_succ _) (forward 2)
      ⟨_, rfl, recent 2 0 (by decide)⟩ ?_
    refine .own rfl (sent 2 (by decide)) rfl (Nat.le_succ _) (forward 3)
      ⟨_, rfl, recent 3 0 (by decide)⟩ ?_
    refine .late rfl (sent 2 (by decide)) rfl (by decide) (forward 60) ?_ ?_
    · rintro ⟨_, ⟨⟩, within⟩
      exact absurd (within 0) (by decide)
    refine .own rfl (sent 3 (by decide)) rfl (Nat.le_succ _) (forward 61)
      (recent 61 61 (by decide)) ?_
    refine .own rfl (sent 5 (by decide)) rfl (Nat.le_succ _) (forward 62)
      ⟨_, rfl, recent 62 61 (by decide)⟩ .nil

end Rustflow.Generate
