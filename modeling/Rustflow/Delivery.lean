import Rustflow.ExporterIsolation
import Rustflow.Ipfix.Vocabulary

/-!
# Delivery over datagrams

What a processor makes of the messages of one IPFIX sender when its datagrams come in any order, at
any time, some not at all and some more than once, among those from other addresses. It makes the
sender's flows of each message that comes while the templates last, and gives them the sender's
sampling rate once that was heard.
-/

namespace Rustflow
open Ipfix (IpfixParser IpfixPacket IpfixContext Vocabulary)
open NetflowProcessor (Arrival)

/-- A sender's templates, its observation domain and the sampling rate that its options records
state. Its messages are of type `M`. -/
structure Sender (M : Type) where
  vocabulary : Vocabulary
  domain : UInt32
  rate : UInt32
  payload : M → List UInt8
  content : M → Vocabulary.Content

/-- When the templates last came, and whether the sampling rate came within their time. -/
structure Heard where
  since : Instant
  rated : Bool

def Heard.after (timeout : Duration) (now : Instant) (heard : Option Heard) : Vocabulary.Content →
    Option Heard
  | .templates => some ⟨now, heard.any fun heard => heard.rated && now - heard.since < timeout⟩
  | .rows .options _ _ => heard.map fun heard => { heard with rated := true }
  | .rows .data _ _ => heard

/-- After a message out of time. Templates that take longer to read than they last are not heard. -/
def Heard.afterLate (heard : Option Heard) : Vocabulary.Content → Option Heard
  | .templates => none
  | .rows .. => heard

theorem Heard.mem_of_mem_afterLate {heard : Option Heard} {content : Vocabulary.Content}
    {last : Heard} (mem : last ∈ Heard.afterLate heard content) : last ∈ heard := by
  cases content with
  | templates => cases mem
  | rows => exact mem

theorem Heard.since_after {timeout : Duration} {now : Instant} {heard : Option Heard}
    (past : ∀ last ∈ heard, last.since ≤ now) {content : Vocabulary.Content} {last : Heard}
    (mem : last ∈ Heard.after timeout now heard content) : last.since ≤ now := by
  unfold Heard.after at mem
  split at mem
  · cases mem
    exact Nat.le_refl _
  · obtain ⟨before, inside, rfl⟩ := Option.map_eq_some_iff.mp mem
    exact past before inside
  · exact past last mem

/-- A message of the sender, whether its rate was heard by then, and when it was received. -/
structure Expected (M : Type) where
  message : M
  rated : Bool
  timeReceivedNs : Option Int

namespace Sender
variable {M : Type}

/-- The record of some values of a template. -/
def record (self : Sender M) (registry : IERegistry) (template : UInt16 × List Ipfix.FieldSpecifier)
    (values : List Ipfix.FieldValue) :
    Ipfix.DataRecord :=
  ⟨Ipfix.resolveFields registry Ipfix.ElementTypes.default self.domain template.2, values⟩

/-- An options record that states the rate, for the whole domain. -/
structure States (sender : Sender M) (record : Ipfix.DataRecord) : Prop where
  rate : Ipfix.extractSamplingRate record = some sender.rate
  whole : Ipfix.extractSamplerId record = none
  noBoot : Ipfix.extractSystemInitTime record = none

/-- A packet in the sender's words. -/
structure SendsAs (sender : Sender M) (registry : IERegistry) (packet : IpfixPacket)
    (content : Vocabulary.Content) : Prop where
  worded : sender.vocabulary.Sends registry sender.domain packet content
  states : ∀ template rows, content = .rows .options template rows →
    rows ≠ [] ∧ ∀ values ∈ rows, sender.States (sender.record registry template values)

def Sends (self : Sender M) (registry : IERegistry) (message : M) : Prop :=
  ∃ packet : IpfixPacket, self.payload message = packet.encode ∧
    self.SendsAs registry packet (self.content message)

/-- The message is read while the templates last; that of the templates within their own time. -/
def InTime (timeout : Duration) (heard : Option Heard) (clock : Nat → Instant) :
    Vocabulary.Content → Prop
  | .templates => ∀ n, clock n - clock 0 < timeout
  | .rows .. => ∃ last ∈ heard, ∀ n, clock n - last.since < timeout

/-- Arrivals at a processor, those of IPFIX from one address being whole messages of a sender, in
time or not. Anything may come in between. -/
inductive Delivered (self : Sender M) (messages : List M) (timeout : Duration) (src : IpAddr) :
    Option Heard → Instant → List Arrival → List (Option (Expected M)) → Prop where
  | nil {heard : Option Heard} {now : Instant} : Delivered self messages timeout src heard now [] []
  | other {heard : Option Heard} {now : Instant} {arrival : Arrival} {arrivals : List Arrival}
      {expected : List (Option (Expected M))}
      (elsewhere : arrival.datagram.src = src → version arrival.datagram.payload ≠
        some Ipfix.IPFIX_VERSION)
      (later : now ≤ arrival.datagram.arrival)
      (rest : Delivered self messages timeout src heard arrival.datagram.arrival arrivals
        expected) :
      Delivered self messages timeout src heard now (arrival :: arrivals) (none :: expected)
  | own {heard : Option Heard} {now after : Instant} {arrival : Arrival} {arrivals : List Arrival}
      {expected : List (Option (Expected M))} {message : M}
      (from_ : arrival.datagram.src = src) (sent : message ∈ messages)
      (payload : arrival.datagram.payload = self.payload message)
      (later : now ≤ arrival.datagram.arrival)
      (forward : ∀ n, arrival.datagram.arrival ≤ arrival.datagram.clock n ∧
        arrival.datagram.clock n ≤ after)
      (inTime : InTime timeout heard arrival.datagram.clock (self.content message))
      (rest : Delivered self messages timeout src
        (Heard.after timeout arrival.datagram.arrival heard (self.content message)) after
        arrivals expected) :
      Delivered self messages timeout src heard now (arrival :: arrivals)
        (some ⟨message, heard.any (·.rated), arrival.timeReceivedNs⟩ :: expected)
  | late {heard : Option Heard} {now after : Instant} {arrival : Arrival} {arrivals : List Arrival}
      {expected : List (Option (Expected M))} {message : M}
      (from_ : arrival.datagram.src = src) (sent : message ∈ messages)
      (payload : arrival.datagram.payload = self.payload message)
      (later : now ≤ arrival.datagram.arrival)
      (forward : ∀ n, arrival.datagram.arrival ≤ arrival.datagram.clock n ∧
        arrival.datagram.clock n ≤ after)
      (outOfTime : ¬InTime timeout heard arrival.datagram.clock (self.content message))
      (rest : Delivered self messages timeout src
        (Heard.afterLate heard (self.content message)) after
        arrivals expected) :
      Delivered self messages timeout src heard now (arrival :: arrivals) (none :: expected)

theorem Delivered.sent {self : Sender M} {messages : List M} {timeout : Duration} {src : IpAddr}
    {heard : Option Heard} {now : Instant} {arrivals : List Arrival}
    {expected : List (Option (Expected M))}
    (delivered : self.Delivered messages timeout src heard now arrivals expected) :
    ∀ arrival ∈ expected, ∀ own ∈ arrival, own.message ∈ messages := by
  induction delivered with
  | nil => exact nofun
  | other _ _ _ ih => exact List.forall_mem_cons.mpr ⟨nofun, ih⟩
  | late _ _ _ _ _ _ _ ih => exact List.forall_mem_cons.mpr ⟨nofun, ih⟩
  | own _ sent _ _ _ _ _ ih =>
    refine List.forall_mem_cons.mpr ⟨?_, ih⟩
    rintro _ ⟨⟩
    exact sent

end Sender

section
variable {M : Type}

/-- The flows of a message: one for each data record. -/
def Expected.flows (self : Expected M) (sender : Sender M) (registry : IERegistry)
    (etherparse : Etherparse) (context : IpfixContext) : List CommonFlow :=
  match sender.content self.message with
  | .rows .data template rows => rows.map fun values =>
      { context.convert etherparse (sender.record registry template values) template.1 with
        timeReceivedNs := self.timeReceivedNs }
  | _ => []

/-- The result of a message is its flows, from the sender and with no rate but the sender's. -/
def Expected.Met (sender : Sender M) (registry : IERegistry) (etherparse : Etherparse)
    (src : IpAddr) :
    Option (Expected M) → IpAddr × Option NetflowPacket × List CommonFlow → Prop
  | none, _ => True
  | some expected, result =>
    result.1 = src ∧ ∃ context : IpfixContext, result.2.2 =
      expected.flows sender registry etherparse context ∧
      context.samplerAddress = some src ∧ context.systemInitTimeMs = none ∧
      (context.samplingRate = none ∨ context.samplingRate = some sender.rate) ∧
      (expected.rated → context.samplingRate = some sender.rate)

end

/-! ### What the sender has said of its domain -/

/-- A domain that knows of no sampling rate but the sender's. -/
structure Domain.RatedAs (rate : UInt32) (domain : Domain) : Prop where
  unnamed : domain.samplerRates = ∅
  own : domain.ownRate = none ∨ domain.ownRate = some rate
  noBoot : domain.systemInitTimeMs = none

namespace Domain
variable {M : Type} {rate : UInt32} {self : Domain}

theorem ratedAs_new (rate : UInt32) : RatedAs rate {} := ⟨rfl, .inl rfl, rfl⟩

theorem RatedAs.samplingRate (rated : self.RatedAs rate) (samplerId : Option UInt64) :
    self.samplingRate samplerId = self.ownRate := by
  unfold Domain.samplingRate
  rw [rated.unnamed]
  exact if_pos rfl

variable {order : IterationOrder UInt32}

theorem readIpfix_states {sender : Sender M} (rated : self.RatedAs sender.rate)
    {record : Ipfix.DataRecord} (states : sender.States record) :
    (self.readIpfix order (.optionsData record)).RatedAs sender.rate ∧
      (self.readIpfix order (.optionsData record)).ownRate = some sender.rate := by
  unfold readIpfix
  simp only [states.rate, states.whole, states.noBoot, setSamplingRate]
  exact ⟨⟨rated.unnamed, .inr rfl, rated.noBoot⟩, trivial⟩

/-- Records that are no options records say nothing of the domain. -/
theorem readIpfix_others {records : List Ipfix.Record}
    (others : ∀ record ∈ records, ∀ options, record ≠ .optionsData options) (self : Domain) :
    records.foldl (readIpfix order) self = self := by
  refine List.foldlRecOn (motive := (· = self)) records _ rfl fun domain same record mem => ?_
  subst same
  cases record with
  | optionsData options => exact absurd rfl (others _ mem options)
  | _ => rfl

theorem readIpfix_all (order : IterationOrder UInt32) {sender : Sender M}
    (rated : self.RatedAs sender.rate) (records : List Ipfix.DataRecord)
    (states : ∀ record ∈ records, sender.States record) (some_ : records ≠ []) :
    ((records.map Ipfix.Record.optionsData).foldl (readIpfix order) self).RatedAs sender.rate ∧
      ((records.map Ipfix.Record.optionsData).foldl (readIpfix order) self).ownRate =
        some sender.rate := by
  induction records using List.reverseRecOn with
  | nil => exact absurd rfl some_
  | append_singleton records last ih =>
    rw [List.map_append, List.foldl_append, List.map_singleton, List.foldl_cons, List.foldl_nil]
    have before :
        ((records.map Ipfix.Record.optionsData).foldl (readIpfix order) self).RatedAs
          sender.rate := by
      by_cases first : records = []
      · rw [first]
        exact rated
      · exact (ih (fun record mem => states record (List.mem_append_left _ mem)) first).1
    exact readIpfix_states before (states last (List.mem_append_right _ List.mem_cons_self))

end Domain

/-! ### The exporter -/

namespace Sender
variable {M : Type} {sender : Sender M} {registry : IERegistry} {timeout : Duration}

/-- An exporter that was told of nothing but what the sender says. -/
structure Understood (sender : Sender M) (registry : IERegistry) (timeout : Duration)
    (exporter : Exporter IpfixParser) : Prop where
  parser : sender.vocabulary.Understands registry timeout sender.domain exporter.parser
  domains : ∀ id domain, exporter.domains.lookup id = some domain → domain.RatedAs sender.rate

/-- What was heard of the sender is in the exporter. -/
structure HeardBy (sender : Sender M) (last : Heard) (exporter : Exporter IpfixParser) : Prop where
  told : sender.vocabulary.AllTold sender.domain last.since exporter.parser
  rate : last.rated → (exporter.domains.lookup sender.domain).bind Domain.ownRate = some sender.rate

theorem understood_new (sender : Sender M) (registry : IERegistry) (timeout : Duration)
    (clock : Nat → Instant) (now : Instant) :
    sender.Understood registry timeout
      (Exporters.seen now (Ipfix.World.new clock registry timeout).parser none) where
  parser := sender.vocabulary.understands_new registry timeout sender.domain clock
  domains _ _ found := nomatch found

/-- What parsing a message of the sender does to its exporter. -/
structure Parsed (sender : Sender M) (registry : IERegistry) (timeout : Duration)
    (content : Vocabulary.Content) (heard : Option Heard) (exporter : Exporter IpfixParser)
    (parsed : IpfixPacket) : Prop where
  understood : sender.Understood registry timeout exporter
  heardBy : ∀ last ∈ heard, sender.HeardBy last exporter
  stamped : parsed.header.observationDomainId = sender.domain
  records : parsed.sets.map (fun set => (set.id, set.records)) =
    content.records sender.vocabulary registry sender.domain
  present : ∃ domain, exporter.domains.lookup sender.domain = some domain

/-- The exporter with what a message has told of the sender's domain. -/
def taught (sender : Sender M) (exporter : Exporter IpfixParser) (parser : IpfixParser)
    (domain : Domain) :
    Exporter IpfixParser :=
  { exporter with parser, domains := exporter.domains.insert sender.domain domain }

/-- What is known of the sender's domain. -/
def known (sender : Sender M) (exporter : Exporter IpfixParser) : Domain :=
  (exporter.domains.lookup sender.domain).getD {}

theorem Understood.known {exporter : Exporter IpfixParser}
    (understood : sender.Understood registry timeout exporter) :
    (sender.known exporter).RatedAs sender.rate := by
  unfold Sender.known
  cases found : exporter.domains.lookup sender.domain with
  | none => exact Domain.ratedAs_new sender.rate
  | some domain => exact understood.domains _ domain found

theorem Understood.taught {exporter : Exporter IpfixParser}
    (understood : sender.Understood registry timeout exporter) {parser : IpfixParser}
    (understands : sender.vocabulary.Understands registry timeout sender.domain parser)
    {domain : Domain} (rated : domain.RatedAs sender.rate) :
    sender.Understood registry timeout (sender.taught exporter parser domain) where
  parser := understands
  domains id found inside := by
    change (exporter.domains.insert sender.domain domain).lookup id = _ at inside
    rw [Table.lookup_insert_eq] at inside
    split at inside
    · cases inside
      exact rated
    · exact understood.domains id found inside

theorem ownRate_taught (exporter : Exporter IpfixParser) (parser : IpfixParser) (domain : Domain) :
    ((sender.taught exporter parser domain).domains.lookup sender.domain).bind Domain.ownRate =
      domain.ownRate := by
  rw [Sender.taught, AList.lookup_insert, Option.bind_some]

theorem records_content {parsed : IpfixPacket} {content : Vocabulary.Content}
    (records : parsed.sets.map (fun set => (set.id, set.records)) =
      content.records sender.vocabulary registry sender.domain) :
    parsed.sets.flatMap (·.records) =
      (content.records sender.vocabulary registry sender.domain).flatMap Prod.snd := by
  rw [← records, List.flatMap_map]

theorem HeardBy.rate_known {last : Heard} {exporter : Exporter IpfixParser}
    (heardBy : sender.HeardBy last exporter) (rated : last.rated) :
    (sender.known exporter).ownRate = some sender.rate := by
  obtain ⟨domain, found, own⟩ := Option.bind_eq_some_iff.mp (heardBy.rate rated)
  rwa [Sender.known, found, Option.getD_some]

theorem parseIpfix_taught {exporter : Exporter IpfixParser} {datagram : Datagram}
    {packet : IpfixPacket} (payload : datagram.payload = packet.encode) {parsed : IpfixPacket}
    {w : Ipfix.World} (parsing : Ipfix.parse datagram.clock packet.encode ⟨exporter.parser, 3, []⟩ =
      (some ([], parsed), w))
    (stamped : parsed.header.observationDomainId = sender.domain) (order : IterationOrder UInt32) :
    exporter.parseIpfix order datagram = (sender.taught exporter w.parser
      ((parsed.sets.flatMap (·.records)).foldl (Domain.readIpfix order) (sender.known exporter)),
        some parsed) := by
  unfold Exporter.parseIpfix Sender.taught Sender.known
  rw [payload, parsing]
  dsimp only
  rw [stamped]

/-- The records of a message tell of no rate but the sender's, and of that where they are
options. -/
theorem SendsAs.rated {packet : IpfixPacket} {content : Vocabulary.Content}
    (sends : sender.SendsAs registry packet content) (order : IterationOrder UInt32)
    {domain : Domain} (rated : domain.RatedAs sender.rate) :
    let read := ((content.records sender.vocabulary registry sender.domain).flatMap Prod.snd).foldl
      (Domain.readIpfix order) domain
    read.RatedAs sender.rate ∧ (domain.ownRate = some sender.rate →
      read.ownRate = some sender.rate) ∧
      ∀ template rows, content = .rows .options template rows →
        read.ownRate = some sender.rate := by
  intro read
  have silent :
      (∀ record ∈ (content.records sender.vocabulary registry sender.domain).flatMap Prod.snd,
      ∀ options, record ≠ .optionsData options) → read = domain := fun others =>
    Domain.readIpfix_others others domain
  cases content with
  | templates =>
    rw [silent ?_]
    · exact ⟨rated, fun own => own, nofun⟩
    · intro record mem options same
      subst same
      simp [Vocabulary.Content.records] at mem
  | rows kind template rows =>
    cases kind with
    | data =>
      rw [silent ?_]
      · exact ⟨rated, fun own => own, nofun⟩
      · intro record mem options same
        subst same
        simp [Vocabulary.Content.records, Ipfix.TemplateKind.wrap] at mem
    | options =>
      obtain ⟨some_, states⟩ := sends.states template rows rfl
      obtain ⟨rated, rate⟩ := Domain.readIpfix_all order rated
        (rows.map (sender.record registry template)) (List.forall_mem_map.mpr states)
        (List.map_eq_nil_iff.not.mpr some_)
      have each : (rows.map (sender.record registry template)).map Ipfix.Record.optionsData =
          ((Vocabulary.Content.rows .options template rows).records sender.vocabulary registry
            sender.domain).flatMap Prod.snd := by
        rw [List.map_map]
        exact (List.flatMap_singleton ..).symm
      rw [each] at rated rate
      exact ⟨rated, fun _ => rate, fun _ _ _ => rate⟩

/-- A message of the sender, to an exporter that has what was heard of it lately. -/
theorem Understood.parse {exporter : Exporter IpfixParser}
    (understood : sender.Understood registry timeout exporter) (sound : sender.vocabulary.Sound)
    {heard : Option Heard} {datagram : Datagram}
    (heardBy : ∀ last ∈ heard, datagram.arrival - last.since < timeout →
      sender.HeardBy last exporter)
    {packet : IpfixPacket} (payload : datagram.payload = packet.encode)
    {content : Vocabulary.Content} (sends : sender.SendsAs registry packet content)
    (forward : ∀ n, datagram.arrival ≤ datagram.clock n)
    (inTime : InTime timeout heard datagram.clock content) (order : IterationOrder UInt32) :
    ∃ exporter' parsed, exporter.parseIpfix order datagram = (exporter', some parsed) ∧
      exporter'.lastSeen = exporter.lastSeen ∧ sender.Parsed registry timeout content
        (Heard.after timeout datagram.arrival heard content) exporter' parsed := by
  let w : Ipfix.World := { parser := exporter.parser, ticks := 3, journal := [] }
  have message := sends.worded
  obtain ⟨rated, keeps, states⟩ := sends.rated order understood.known
  cases content with
  | templates =>
    obtain ⟨parsed, w', parsing, records, understands, told⟩ :=
      understood.parser.parse_templates (w := w) sound message
    have stamped :=
      (Vocabulary.domain_parsed message.version message.fits parsing).trans message.stamped
    refine ⟨_, parsed, parseIpfix_taught payload parsing stamped order, rfl, ?_⟩
    rw [records_content records]
    refine ⟨understood.taught understands rated, ?_, stamped, records, _, AList.lookup_insert ..⟩
    rintro last ⟨⟩
    refine ⟨told _ forward inTime, fun heardRate => (ownRate_taught ..).trans (keeps ?_)⟩
    cases heard with
    | none => cases heardRate
    | some last =>
      obtain ⟨heardRate, recent⟩ := Bool.and_eq_true_iff.mp heardRate
      exact (heardBy last rfl (of_decide_eq_true recent)).rate_known heardRate
  | rows kind template rows =>
    obtain ⟨last, heard, recent⟩ := inTime
    cases heard
    have was := heardBy last rfl (recent 0)
    obtain ⟨parsed, ticks, parsing, records, -⟩ :=
      understood.parser.parse_rows (w := w) sound message
    have stamped :=
      (Vocabulary.domain_parsed message.version message.fits parsing).trans message.stamped
    have records := records ⟨last.since, was.told, recent⟩
    refine ⟨_, parsed, parseIpfix_taught payload parsing stamped order, rfl, ?_⟩
    rw [records_content records]
    refine ⟨understood.taught understood.parser rated, ?_, stamped, records, _,
      AList.lookup_insert ..⟩
    intro last' mem
    cases kind with
    | data =>
      cases mem
      exact ⟨was.told, fun heardRate =>
        (ownRate_taught ..).trans (keeps (was.rate_known heardRate))⟩
    | options =>
      cases mem
      exact ⟨was.told, fun _ => (ownRate_taught ..).trans (states template rows rfl)⟩

/-- A message out of time may be read or not. It tells of nothing but what the sender says. -/
theorem Understood.parse_late {exporter : Exporter IpfixParser}
    (understood : sender.Understood registry timeout exporter) (sound : sender.vocabulary.Sound)
    {datagram : Datagram} {packet : IpfixPacket} (payload : datagram.payload = packet.encode)
    {content : Vocabulary.Content} (sends : sender.SendsAs registry packet content)
    (order : IterationOrder UInt32) :
    ∃ exporter' parsed, exporter.parseIpfix order datagram = (exporter', some parsed) ∧
      exporter'.lastSeen = exporter.lastSeen ∧ sender.Understood registry timeout exporter' ∧
      ∀ heard, ∀ last ∈ Heard.afterLate heard content, sender.HeardBy last exporter →
        sender.HeardBy last exporter' := by
  let w : Ipfix.World := { parser := exporter.parser, ticks := 3, journal := [] }
  have message := sends.worded
  obtain ⟨rated, keeps, -⟩ := sends.rated order understood.known
  cases content with
  | templates =>
    obtain ⟨parsed, w', parsing, records, understands, -⟩ :=
      understood.parser.parse_templates (w := w) sound message
    have stamped :=
      (Vocabulary.domain_parsed message.version message.fits parsing).trans message.stamped
    refine ⟨_, parsed, parseIpfix_taught payload parsing stamped order, rfl, ?_, ?_⟩
    · rw [records_content records]
      exact understood.taught understands rated
    · intro heard last mem
      cases mem
  | rows kind template rows =>
    obtain ⟨parsed, ticks, parsing, -, records⟩ :=
      understood.parser.parse_rows (w := w) sound message
    have stamped :=
      (Vocabulary.domain_parsed message.version message.fits parsing).trans message.stamped
    have told : ((parsed.sets.flatMap (·.records)).foldl (Domain.readIpfix order)
          (sender.known exporter)).RatedAs sender.rate ∧
        ((sender.known exporter).ownRate = some sender.rate →
          ((parsed.sets.flatMap (·.records)).foldl (Domain.readIpfix order)
            (sender.known exporter)).ownRate = some sender.rate) := by
      obtain read | dropped := records
      · rw [records_content read]
        exact ⟨rated, keeps⟩
      · rw [dropped]
        exact ⟨understood.known, fun own => own⟩
    refine ⟨_, parsed, parseIpfix_taught payload parsing stamped order, rfl,
      understood.taught understood.parser told.1, fun heard last mem was =>
        ⟨was.told, fun heardRate => ?_⟩⟩
    exact (ownRate_taught ..).trans (told.2 (was.rate_known heardRate))

end Sender

/-! ### The processor -/

/-- A processor that has what was heard of the sender at `src`, unless too long ago. -/
structure NetflowProcessor.Follows {M : Type} (sender : Sender M) (registry : IERegistry)
    (timeout : Duration) (src : IpAddr) (heard : Option Heard) (now : Instant)
    (processor : NetflowProcessor) : Prop where
  sharing : processor.ieRegistry = registry
  timing : processor.templateTimeout = timeout
  past : ∀ last ∈ heard, last.since ≤ now
  session : ∃ session, Sessions.Holds Exporter.lastSeen timeout now src session processor.ipfix ∧
    (∀ exporter ∈ session, sender.Understood registry timeout exporter) ∧
    ∀ last ∈ heard, now - last.since < timeout →
      ∃ exporter ∈ session, sender.HeardBy last exporter ∧ last.since ≤ exporter.lastSeen

namespace NetflowProcessor
variable {M : Type} {sender : Sender M} {registry : IERegistry} {timeout : Duration} {src : IpAddr}
  {heard : Option Heard} {now : Instant}
  {self : NetflowProcessor}

theorem follows_new (sender : Sender M) (registry : IERegistry) (timeout : Duration) (src : IpAddr)
    (now v9 ipfix : Instant) :
    (new registry timeout v9 ipfix).Follows sender registry timeout src none now where
  sharing := rfl
  timing := rfl
  past := nofun
  session := ⟨none, .inl rfl, nofun, nofun⟩

theorem version_encode {packet : IpfixPacket}
    (named : packet.header.version = Ipfix.IPFIX_VERSION) :
    version packet.encode = some Ipfix.IPFIX_VERSION := by
  unfold IpfixPacket.encode
  rw [named]
  rfl

theorem Follows.other (follows : self.Follows sender registry timeout src heard now)
    {datagram : Datagram} (elsewhere : datagram.src = src →
      version datagram.payload ≠ some Ipfix.IPFIX_VERSION) (later : now ≤ datagram.arrival)
    (order : IterationOrder UInt32) :
    (self.parse order datagram).1.Follows sender registry timeout src heard datagram.arrival := by
  obtain ⟨sharing, timing, past, session, holds, understood, heardBy⟩ := follows
  have kept : ∀ {processor : NetflowProcessor}, processor.ieRegistry = self.ieRegistry →
      processor.templateTimeout = self.templateTimeout →
      Sessions.Holds Exporter.lastSeen timeout datagram.arrival src session processor.ipfix →
      processor.Follows sender registry timeout src heard datagram.arrival :=
    fun registry timeout holds =>
    ⟨registry.trans sharing, timeout.trans timing, fun last mem => (past last mem).trans later,
      session, holds, understood, fun last mem recent =>
        heardBy last mem ((Nat.sub_le_sub_right later _).trans_lt recent)⟩
  unfold NetflowProcessor.parse
  split
  · exact kept rfl rfl (holds.later later)
  · next named =>
    split_ifs with _ _ isIpfix
    · exact kept rfl rfl (holds.later later)
    · exact kept rfl rfl (holds.later later)
    · subst isIpfix
      subst timing
      exact kept rfl rfl (Exporters.holds_other holds (fun same => elsewhere same.symm named)
        later _ _)
    · exact kept rfl rfl (holds.later later)

/-- A datagram of the sender finds an exporter that has what was heard lately, and leaves in its
place what is made of it. -/
theorem Follows.arrive (follows : self.Follows sender registry timeout src heard now)
    {datagram : Datagram} (from_ : datagram.src = src) {packet : IpfixPacket}
    (payload : datagram.payload = packet.encode)
    (named : packet.header.version = Ipfix.IPFIX_VERSION) (later : now ≤ datagram.arrival)
    (order : IterationOrder UInt32) :
    ∃ entry : Exporter IpfixParser, entry.lastSeen = datagram.arrival ∧
      sender.Understood registry timeout entry ∧
      (∀ last ∈ heard, datagram.arrival - last.since < timeout → sender.HeardBy last entry) ∧
      ∀ exporter parsed, entry.parseIpfix order datagram = (exporter, some parsed) →
        (self.parse order datagram).2 = some (.ipfix parsed) ∧
        (self.parse order datagram).1.ieRegistry = registry ∧
        (self.parse order datagram).1.templateTimeout = timeout ∧
        ∃ sessions : Exporters IpfixParser,
          (self.parse order datagram).1.ipfix = sessions.put src exporter := by
  obtain ⟨sharing, timing, past, session, holds, understood, heardBy⟩ := follows
  let made := (Ipfix.World.new datagram.made registry timeout).parser
  let entry := self.ipfix.entry src datagram.arrival timeout made
  have swept : Sessions.Holds Exporter.lastSeen timeout datagram.arrival src session
      (self.ipfix.sweep Exporter.lastSeen SWEEP_INTERVAL timeout datagram.arrival) :=
    holds.sweep later
  have found : entry.1 = Exporters.seen datagram.arrival made
      ((self.ipfix.sweep Exporter.lastSeen SWEEP_INTERVAL timeout datagram.arrival).map.lookup
        src) := rfl
  refine ⟨entry.1, ?_, ?_, ?_, ?_⟩
  · rw [found, Exporters.seen]
  · rw [found]
    have new := Sender.understood_new sender registry timeout datagram.made datagram.arrival
    obtain same | ⟨gone, -⟩ := swept
    · rw [same]
      cases session with
      | none => exact new
      | some exporter => exact ⟨(understood exporter rfl).parser, (understood exporter rfl).domains⟩
    · rw [gone]
      exact new
  · intro last mem recent
    obtain ⟨exporter, rfl, there, seen⟩ :=
      heardBy last mem ((Nat.sub_le_sub_right later _).trans_lt recent)
    have same := swept.lookup fun left same => by
      cases same
      exact Nat.lt_of_le_of_lt (Nat.sub_le_sub_left seen _) recent
    rw [found, same]
    exact ⟨there.told, there.rate⟩
  · intro exporter parsed parsing
    have whole : self.parse order datagram =
        ({ self with ipfix := entry.2.put src exporter }, some (.ipfix parsed)) := by
      unfold NetflowProcessor.parse
      rw [payload, version_encode named]
      dsimp only
      rw [if_neg (by decide), if_neg (by decide), if_pos rfl, sharing, timing, from_]
      rw [show (self.ipfix.entry src datagram.arrival timeout
        (Ipfix.World.new datagram.made registry timeout).parser).1.parseIpfix order datagram =
          _ from parsing]
      rfl
    rw [whole]
    exact ⟨rfl, sharing, timing, entry.2, rfl⟩

/-- A message of the sender is parsed, and leaves its exporter as `Parsed` says. -/
theorem Follows.own (follows : self.Follows sender registry timeout src heard now)
    (sound : sender.vocabulary.Sound) {datagram : Datagram} (from_ : datagram.src = src)
    {packet : IpfixPacket} (payload : datagram.payload = packet.encode)
    {content : Vocabulary.Content} (sends : sender.SendsAs registry packet content)
    (later : now ≤ datagram.arrival) {after : Instant}
    (forward : ∀ n, datagram.arrival ≤ datagram.clock n ∧ datagram.clock n ≤ after)
    (inTime : Sender.InTime timeout heard datagram.clock content) (order : IterationOrder UInt32) :
    let heard := Heard.after timeout datagram.arrival heard content
    ∃ exporter parsed, (self.parse order datagram).2 = some (.ipfix parsed) ∧
      (self.parse order datagram).1.ipfix.map.lookup src = some exporter ∧
      sender.Parsed registry timeout content heard exporter parsed ∧
      (self.parse order datagram).1.Follows sender registry timeout src heard after := by
  intro heard'
  have before : ∀ last ∈ heard, last.since ≤ datagram.arrival := fun last mem =>
    (follows.past last mem).trans later
  obtain ⟨entry, seen, known, lately, left⟩ :=
    follows.arrive from_ payload sends.worded.version later order
  obtain ⟨exporter, parsed, parsing, lastSeen, result⟩ :=
    known.parse sound lately payload sends (fun n => (forward n).1) inTime order
  obtain ⟨returned, sharing, timing, sessions, put⟩ := left exporter parsed parsing
  refine ⟨exporter, parsed, returned, ?_, result, sharing, timing, ?_, some exporter, ?_, ?_, ?_⟩
  · rw [put]
    exact (Sessions.lookup_put _ _ _ _).trans (if_pos rfl)
  · exact fun last mem => (Heard.since_after before mem).trans (forward 0).2
  · rw [put]
    exact Sessions.holds_put _ _ _
  · rintro _ ⟨⟩
    exact result.understood
  · intro last mem _
    refine ⟨exporter, rfl, result.heardBy last mem, ?_⟩
    rw [lastSeen, seen]
    exact Heard.since_after before mem

/-- So is one out of time, from which nothing is learnt but what the sender says. -/
theorem Follows.late (follows : self.Follows sender registry timeout src heard now)
    (sound : sender.vocabulary.Sound) {datagram : Datagram} (from_ : datagram.src = src)
    {packet : IpfixPacket} (payload : datagram.payload = packet.encode)
    {content : Vocabulary.Content} (sends : sender.SendsAs registry packet content)
    (later : now ≤ datagram.arrival) {after : Instant} (forward : datagram.arrival ≤ after)
    (order : IterationOrder UInt32) :
    (self.parse order datagram).1.Follows sender registry timeout src
      (Heard.afterLate heard content) after := by
  have before : ∀ last ∈ Heard.afterLate heard content, last.since ≤ datagram.arrival :=
    fun last mem => (follows.past last (Heard.mem_of_mem_afterLate mem)).trans later
  obtain ⟨entry, seen, known, lately, left⟩ :=
    follows.arrive from_ payload sends.worded.version later order
  obtain ⟨exporter, parsed, parsing, lastSeen, understood, keeps⟩ :=
    known.parse_late sound payload sends order
  obtain ⟨-, sharing, timing, sessions, put⟩ := left exporter parsed parsing
  refine ⟨sharing, timing, fun last mem => (before last mem).trans forward, some exporter,
    ?_, ?_, ?_⟩
  · rw [put]
    exact Sessions.holds_put _ _ _
  · rintro _ ⟨⟩
    exact understood
  · intro last mem recent
    have was := lately last (Heard.mem_of_mem_afterLate mem)
      ((Nat.sub_le_sub_right forward _).trans_lt recent)
    refine ⟨exporter, rfl, keeps heard last mem was, ?_⟩
    rw [lastSeen, seen]
    exact before last mem

/-- The flows made of a message are those expected of it. -/
theorem met_parsed {exporter : Exporter IpfixParser} {parsed : IpfixPacket} {message : M}
    {heard : Option Heard} (found : self.ipfix.map.lookup src = some exporter) {now : Instant}
    (result : sender.Parsed registry timeout (sender.content message)
      (Heard.after timeout now heard (sender.content message))
      exporter parsed) (etherparse : Etherparse) (timeReceivedNs : Option Int) :
    Expected.Met sender registry etherparse src
      (some ⟨message, heard.any (·.rated), timeReceivedNs⟩)
      (src, some (.ipfix parsed), self.convert etherparse src (.ipfix parsed) timeReceivedNs) := by
  refine ⟨rfl, ?_⟩
  obtain ⟨domain, there⟩ := result.present
  have rated := result.understood.domains _ domain there
  have known : self.domain src (.ipfix parsed) = some domain := by
    rw [NetflowProcessor.domain, Exporters.domain, found, result.stamped]
    exact there
  have records := result.records
  have heardBy := result.heardBy
  unfold Expected.flows
  dsimp only
  rw [convert, known]
  unfold NetflowPacket.flows
  dsimp only
  let context : IpfixContext :=
    { header := parsed.header, samplerAddress := some src, samplingRate := some sender.rate,
      systemInitTimeMs := none }
  generalize sender.content message = content at records heardBy
  cases content with
  | templates =>
    obtain ⟨first, others, whole, head, tail⟩ := List.map_eq_cons_iff.mp records
    obtain ⟨second, others, rfl, head', nothing⟩ := List.map_eq_cons_iff.mp tail
    obtain rfl := List.map_eq_nil_iff.mp nothing
    refine ⟨context, ?_, rfl, rfl, .inr rfl, fun _ => rfl⟩
    rw [whole, List.flatMap_cons, List.flatMap_singleton, (Prod.mk.inj head).2,
      (Prod.mk.inj head').2, List.filterMap_map, List.filterMap_map]
    exact List.append_eq_nil_iff.mpr ⟨List.filterMap_eq_nil_iff.mpr fun _ _ => rfl,
      List.filterMap_eq_nil_iff.mpr fun _ _ => rfl⟩
  | rows kind template rows =>
    obtain ⟨set, others, whole, head, nothing⟩ := List.map_eq_cons_iff.mp records
    obtain rfl := List.map_eq_nil_iff.mp nothing
    obtain ⟨id, inside⟩ := Prod.mk.inj head
    rw [whole, List.flatMap_singleton, inside, List.filterMap_map]
    cases kind with
    | options =>
      refine ⟨context, ?_, rfl, rfl, .inr rfl, fun _ => rfl⟩
      exact List.filterMap_eq_nil_iff.mpr fun _ _ => rfl
    | data =>
      refine ⟨{ context with samplingRate := domain.ownRate }, ?_, rfl, rfl, rated.own, ?_⟩
      · refine (List.filterMap_congr fun values _ => ?_).trans (congrFun List.filterMap_eq_map rows)
        show some _ = some _
        rw [id, Option.bind_some, Option.bind_some, rated.samplingRate, rated.noBoot]
        rfl
      · intro heardRate
        cases heard with
        | none => cases heardRate
        | some last =>
          have rate := (heardBy last rfl).rate heardRate
          rwa [there] at rate

/-! ### Runs -/

/-- Each message of the sender is read to what it says, whatever comes in between. -/
theorem Follows.run (etherparse : Etherparse) {messages : List M} {arrivals : List Arrival}
    {expected : List (Option (Expected M))}
    (delivered : sender.Delivered messages timeout src heard now arrivals expected)
    (sound : sender.vocabulary.Sound) (sends : ∀ message ∈ messages, sender.Sends registry message)
    (follows : self.Follows sender registry timeout src heard now) :
    List.Forall₂ (Expected.Met sender registry etherparse src) expected
      (self.run etherparse arrivals) := by
  induction delivered generalizing self with
  | nil => exact .nil
  | other elsewhere later _ ih => exact .cons trivial (ih (follows.other elsewhere later _))
  | @late heard now after arrival arrivals expected message from_ sent payload later forward _ _
      ih =>
    obtain ⟨packet, encoded, worded⟩ := sends message sent
    exact .cons trivial (ih (follows.late sound from_ (payload.trans encoded) worded later
      ((forward 0).1.trans (forward 0).2) arrival.order))
  | @own heard now after arrival arrivals expected message from_ sent payload later forward inTime _
      ih =>
    obtain ⟨packet, encoded, worded⟩ := sends message sent
    obtain ⟨exporter, parsed, parsing, found, result, follows⟩ :=
      follows.own sound from_ (payload.trans encoded) worded later forward inTime arrival.order
    have met : Expected.Met sender registry etherparse src (some ⟨message, heard.any (·.rated),
        arrival.timeReceivedNs⟩)
        (arrival.datagram.src,
          (self.process etherparse arrival.order arrival.datagram arrival.timeReceivedNs).2) := by
      unfold process
      dsimp only
      rw [parsing, from_]
      exact met_parsed found result etherparse arrival.timeReceivedNs
    exact .cons met (ih follows)

end NetflowProcessor

end Rustflow
