import Rustflow.NetflowProcessor
import Rustflow.ParserRetention
import Mathlib.Data.Set.Card

/-!
# What one exporter makes the collector keep

Templates, learned elements and sampler rates are bounded, whatever an exporter sends, except for
templates without fields. A `Domain` is kept for each source ID that a packet names, said something
of or not.
-/

namespace Rustflow
open TemplateCache

/-! ### The domains -/

namespace Domain

/-- A rate or a boot time has been stated. -/
def Informed (self : Domain) : Prop :=
  self.ownRate ≠ none ∨ self.samplerRates.size ≠ 0 ∨ self.systemInitTimeMs ≠ none

theorem size_setSamplingRate_le {self : Domain} (few : self.samplerRates.size ≤ MAX_SAMPLERS)
    (order : IterationOrder UInt32) (samplerId : Option UInt64) (rate : UInt32) :
    (self.setSamplingRate order samplerId rate).samplerRates.size ≤ MAX_SAMPLERS := by
  rw [(self.setSamplingRate_parts order samplerId rate).2.1]
  cases samplerId with
  | none => exact few
  | some id => exact CappedTable.size_put_le few id rate

theorem informed_setSamplingRate (self : Domain) (order : IterationOrder UInt32)
    (samplerId : Option UInt64) (rate : UInt32) :
    (self.setSamplingRate order samplerId rate).Informed := by
  obtain ⟨own, samplers, _⟩ := self.setSamplingRate_parts order samplerId rate
  cases samplerId with
  | none => exact .inl (by rw [own]; simp)
  | some id =>
    refine .inr (.inl ?_)
    rw [samplers, Option.elim_some]
    exact CappedTable.size_put_ne_zero (by decide) _ id rate

section
variable {R : Type} {States : R → Prop} {read : Domain → R → Domain}

/-- What has been stated stays stated. -/
theorem informed_foldl (keeps : ∀ domain record, domain.Informed → (read domain record).Informed)
    (states : ∀ domain record, States record → (read domain record).Informed) (records : List R)
    (domain : Domain) (stated : domain.Informed ∨ ∃ record ∈ records, States record) :
    (records.foldl read domain).Informed := by
  induction records generalizing domain with
  | nil => exact stated.resolve_right fun ⟨_, mem, _⟩ => nomatch mem
  | cons record records ih =>
    refine ih (read domain record) ?_
    obtain before | ⟨stating, mem, here⟩ := stated
    · exact .inl (keeps domain record before)
    · obtain rfl | later := List.mem_cons.mp mem
      · exact .inl (states domain stating here)
      · exact .inr ⟨stating, later, here⟩

end

end Domain

/-- An options record states a rate. -/
def NetflowV9.Record.States : NetflowV9.Record → Prop
  | .optionsData record => NetflowV9.extractSamplingRate record ≠ none
  | _ => False

/-- An options record states a rate or a boot time. -/
def Ipfix.Record.States : Ipfix.Record → Prop
  | .optionsData record =>
    Ipfix.extractSamplingRate record ≠ none ∨ Ipfix.extractSystemInitTime record ≠ none
  | _ => False

namespace Domain
variable (order : IterationOrder UInt32) (self : Domain)

theorem readV9_keeps {I : Domain → Prop}
    (set : ∀ domain samplerId rate, I domain → I (domain.setSamplingRate order samplerId rate))
    (record : NetflowV9.Record) (start : I self) : I (self.readV9 order record) := by
  unfold readV9
  cases record with
  | optionsData record =>
    dsimp only
    split
    · exact set _ _ _ start
    · exact start
  | _ => exact start

theorem informed_readV9 (record : NetflowV9.Record) (states : record.States) :
    (self.readV9 order record).Informed := by
  cases record with
  | optionsData record =>
    obtain ⟨rate, stated⟩ := Option.ne_none_iff_exists'.mp states
    rw [readV9, stated]
    exact informed_setSamplingRate _ _ _ _
  | _ => exact states.elim

theorem readIpfix_keeps {I : Domain → Prop}
    (set : ∀ domain samplerId rate, I domain → I (domain.setSamplingRate order samplerId rate))
    (boot : ∀ domain boot, I domain → I { domain with systemInitTimeMs := some boot })
    (record : Ipfix.Record) (start : I self) : I (self.readIpfix order record) := by
  unfold readIpfix
  cases record with
  | optionsData record =>
    dsimp only
    cases Ipfix.extractSamplingRate record <;> cases Ipfix.extractSystemInitTime record <;>
      dsimp only
    · exact start
    · exact boot _ _ start
    · exact set _ _ _ start
    · exact boot _ _ (set _ _ _ start)
  | _ => exact start

theorem informed_readIpfix (record : Ipfix.Record) (states : record.States) :
    (self.readIpfix order record).Informed := by
  unfold readIpfix
  cases record with
  | optionsData record =>
    dsimp only
    cases booted : Ipfix.extractSystemInitTime record with
    | some boot => exact .inr (.inr (Option.some_ne_none boot))
    | none =>
      obtain ⟨rate, stated⟩ :=
        Option.ne_none_iff_exists'.mp (states.resolve_right fun some => some booted)
      rw [stated]
      exact informed_setSamplingRate _ _ _ _
  | _ => exact states.elim

end Domain

/-! ### One exporter -/

namespace Exporter
variable {P : Type}

/-- A rate or a boot time has been stated for a source ID. -/
def Stated (self : Exporter P) (id : UInt32) : Prop :=
  ∃ domain, self.domains.lookup id = some domain ∧ domain.Informed

/-- The limits on what is kept beside the parser, which stores templates for some IDs. -/
structure Bounded (stores : UInt32 → Prop) (exporter : Exporter P) : Prop where
  samplers : ∀ id domain, exporter.domains.lookup id = some domain →
    domain.samplerRates.size ≤ MAX_SAMPLERS
  domains : exporter.domains.size ≤ {id | stores id ∨ exporter.Stated id}.ncard

/-- Every entry is of an ID with a template, a rate or a boot time. -/
structure Speaks (stores : UInt32 → Prop) (exporter : Exporter P) : Prop where
  samplers : ∀ id domain, exporter.domains.lookup id = some domain →
    domain.samplerRates.size ≤ MAX_SAMPLERS
  said : ∀ id domain, exporter.domains.lookup id = some domain → stores id ∨ domain.Informed

theorem Speaks.bounded {stores : UInt32 → Prop} {self : Exporter P} (speaks : self.Speaks stores) :
    self.Bounded stores := by
  refine ⟨speaks.samplers, ?_⟩
  have finite : {id | stores id ∨ self.Stated id}.Finite := by
    have ids : Finite UInt32 := .of_injective UInt32.toFin fun _ _ => UInt32.toFin_inj.mp
    exact Set.toFinite _
  rw [Set.ncard_eq_toFinset_card _ finite]
  refine Table.size_le_card fun id domain found => finite.mem_toFinset.mpr ?_
  exact (speaks.said id domain found).imp_right fun informed => ⟨domain, found, informed⟩

/-- A packet of a source ID is of an ID that is worth an entry, and comes while the other entries
are: a rate or a boot time is stated, or a template of the ID outlasts the packet. -/
structure Justifies {F : Type} (caches : TemplateKind → TemplateCache F) (clock : Nat → Instant)
    (id : UInt32) (requests : TemplateKind → List Request) (states : Prop) (exporter : Exporter P) :
    Prop where
  own : exporter.Stated id ∨ states ∨ ∃ kind template,
    (caches kind).Outlasts clock (id, template) (requests kind)
  others : ∀ other domain, exporter.domains.lookup other = some domain → ¬domain.Informed →
    other ≠ id →
    ∃ kind template, (caches kind).Outlasts clock (other, template) (requests kind)

theorem Speaks.insert {stores stores' : UInt32 → Prop} {id : UInt32} {states : Prop}
    {self : Exporter P} (speaks : self.Speaks stores) (own : self.Stated id ∨ states ∨ stores' id)
    (others : ∀ other domain, self.domains.lookup other = some domain → ¬domain.Informed →
      other ≠ id → stores' other)
    (parser : P) {domain : Domain} (few : domain.samplerRates.size ≤ MAX_SAMPLERS)
    (informed : self.Stated id ∨ states → domain.Informed) :
    { self with parser, domains := self.domains.insert id domain }.Speaks stores' := by
  constructor
  · exact Table.forall_insert few fun other domain' found _ => speaks.samplers other domain' found
  · refine Table.forall_insert ((or_assoc.mpr own).symm.imp_right informed)
      fun other domain' found different => ?_
    by_cases said : domain'.Informed
    · exact .inr said
    · exact .inl (others other domain' found said different)

end Exporter

section
variable {P R : Type} {read : Domain → R → Domain} {States : R → Prop} {exporter : Exporter P}
  {id : UInt32} {records : List R}

theorem Exporter.foldl_few (keeps : ∀ domain, domain.samplerRates.size ≤ MAX_SAMPLERS → ∀ record,
      (read domain record).samplerRates.size ≤ MAX_SAMPLERS)
    (samplers : ∀ id domain, exporter.domains.lookup id = some domain →
      domain.samplerRates.size ≤ MAX_SAMPLERS)
    (id : UInt32) (records : List R) :
    (records.foldl read ((exporter.domains.lookup id).getD {})).samplerRates.size ≤
      MAX_SAMPLERS := by
  refine List.foldlRecOn (motive := fun domain : Domain => domain.samplerRates.size ≤ MAX_SAMPLERS)
    records _ ?_
    fun domain few record _ => keeps domain few record
  cases found : exporter.domains.lookup id with
  | none => exact Nat.zero_le _
  | some domain => exact samplers id domain found

theorem Exporter.foldl_informed
    (keeps : ∀ domain record, domain.Informed → (read domain record).Informed)
    (states : ∀ domain record, States record → (read domain record).Informed)
    (stated : exporter.Stated id ∨ ∃ record ∈ records, States record) :
    (records.foldl read ((exporter.domains.lookup id).getD {})).Informed := by
  refine Domain.informed_foldl keeps states records _ (stated.imp_left ?_)
  rintro ⟨domain, found, informed⟩
  rw [found]
  exact informed

end

/-- A template of either kind is stored for a source ID. -/
def StoresFor {F : Type} (caches : TemplateKind → TemplateCache F) (id : UInt32) : Prop :=
  ∃ kind template, (caches kind).find (id, template) ≠ none

section
variable {P R F : Type} {cacheOf : P → TemplateKind → TemplateCache F} {clock : Nat → Instant}
  {apply : Instant → P → R → P} {request : TemplateKind → R → Option Request} {id : UInt32}

variable (cacheOf) in
/-- Where a packet is justified, each entry after it is of an ID with a template or of one that
something was said of. -/
theorem Exporter.Justifies.stores {exporter : Exporter P} {records : List R} {states : Prop}
    (justifies : exporter.Justifies (cacheOf exporter.parser) clock id
      (fun kind => records.filterMap (request kind)) states)
    (made : ∀ kind now parser record, ∃ call, Request.MadeAs (request kind record) call ∧
      cacheOf (apply now parser record) kind = call.apply now (cacheOf parser kind))
    (within : ∀ kind, (cacheOf exporter.parser kind).Within) {first last : Nat} {parser : P}
    (applied : Applied clock apply exporter.parser first records parser last) :
    (exporter.Stated id ∨ states ∨ StoresFor (cacheOf parser) id) ∧
      ∀ other domain, exporter.domains.lookup other = some domain → ¬domain.Informed → other ≠ id →
        StoresFor (cacheOf parser) other := by
  have stored :
      ∀ {id}, (∃ kind template, (cacheOf exporter.parser kind).Outlasts clock (id, template)
      (records.filterMap (request kind))) → StoresFor (cacheOf parser) id := by
    rintro id ⟨kind, template, outlasts⟩
    exact ⟨kind, template, applied.find_ne_none (cacheOf · kind) (made kind) (within kind) outlasts⟩
  exact ⟨justifies.own.imp_right (Or.imp_right stored),
    fun other domain found said different =>
      stored (justifies.others other domain found said different)⟩

end

section
variable {order : IterationOrder UInt32} {datagram : Datagram}

/-- A parsed NetFlow v9 datagram asks for no more templates than the caches can afford, and
justifies the entry of its source ID. -/
def Exporter.JustifiesV9 (exporter : Exporter NetflowV9.NetflowV9Parser)
    (datagram : Datagram) : Prop :=
  ∀ rest packet w, NetflowV9.parse datagram.clock datagram.payload ⟨exporter.parser, 3, []⟩ =
    (some (rest, packet), w) →
    let records := packet.flowSets.flatMap (·.records)
    let requests kind := records.filterMap (NetflowV9.Record.request packet.header.sourceId kind)
    (∀ kind, (exporter.parser.cache kind).Affords (requests kind)) ∧
      exporter.Justifies exporter.parser.cache datagram.clock packet.header.sourceId requests
        (∃ record ∈ records, record.States)

def Exporter.JustifiesIpfix (exporter : Exporter Ipfix.IpfixParser) (datagram : Datagram) : Prop :=
  ∀ rest packet w, Ipfix.parse datagram.clock datagram.payload ⟨exporter.parser, 3, []⟩ =
    (some (rest, packet), w) →
    let records := packet.sets.flatMap (·.records)
    exporter.Justifies exporter.parser.cache datagram.clock packet.header.observationDomainId
      (fun kind => records.filterMap (Ipfix.Record.request packet.header.observationDomainId kind))
      (∃ record ∈ records, record.States)

theorem Exporter.parseV9_keeps {exporter : Exporter NetflowV9.NetflowV9Parser}
    (small : exporter.parser.Small) (speaks : exporter.Speaks (StoresFor exporter.parser.cache))
    (justifies : exporter.JustifiesV9 datagram) :
    (exporter.parseV9 order datagram).1.parser.Small ∧
      (exporter.parseV9 order datagram).1.Speaks
        (StoresFor (exporter.parseV9 order datagram).1.parser.cache) := by
  have leaves := @NetflowV9.parse_leaves datagram.clock datagram.payload ⟨exporter.parser, 3, []⟩
  unfold parseV9
  split
  · next w run =>
    rw [run] at leaves
    have same : w.parser = exporter.parser := leaves
    rw [same]
    exact ⟨small, speaks⟩
  · next rest packet w run =>
    rw [run] at leaves
    have applied :
        Applied datagram.clock (NetflowV9.applyRecord packet.header.sourceId) exporter.parser 3
      (packet.flowSets.flatMap (·.records)) w.parser w.ticks := leaves
    obtain ⟨affords, justifies⟩ := justifies rest packet w run
    have made := fun kind now parser record =>
      NetflowV9.applyRecord_makes packet.header.sourceId kind now parser record
    obtain ⟨own, others⟩ :=
      justifies.stores NetflowV9.NetflowV9Parser.cache made (fun kind => (small kind).1) applied
    refine ⟨fun kind => applied.few (NetflowV9.NetflowV9Parser.cache · kind) (made kind)
      (small kind).1 (affords kind),
      speaks.insert own others w.parser ?_ ?_⟩
    · refine foldl_few (fun domain few record => ?_) speaks.samplers _ _
      exact domain.readV9_keeps order (I := fun domain => domain.samplerRates.size ≤ MAX_SAMPLERS)
        (fun _ _ _ few => Domain.size_setSamplingRate_le few _ _ _) record few
    · refine foldl_informed (fun domain record => ?_) fun domain => domain.informed_readV9 order
      exact domain.readV9_keeps order (fun domain _ _ _ =>
        domain.informed_setSamplingRate order _ _) record

theorem Exporter.parseIpfix_keeps {exporter : Exporter Ipfix.IpfixParser}
    (small : exporter.parser.Small) (speaks : exporter.Speaks (StoresFor exporter.parser.cache))
    (justifies : exporter.JustifiesIpfix datagram) :
    (exporter.parseIpfix order datagram).1.parser.Small ∧
      (exporter.parseIpfix order datagram).1.Speaks
        (StoresFor (exporter.parseIpfix order datagram).1.parser.cache) := by
  have leaves := @Ipfix.parse_leaves datagram.clock datagram.payload ⟨exporter.parser, 3, []⟩
  unfold parseIpfix
  split
  · next w run =>
    rw [run] at leaves
    have same : w.parser = exporter.parser := leaves
    rw [same]
    exact ⟨small, speaks⟩
  · next rest packet w run =>
    rw [run] at leaves
    have applied :
        Applied datagram.clock (Ipfix.applyRecord packet.header.observationDomainId)
          exporter.parser 3
      (packet.sets.flatMap (·.records)) w.parser w.ticks := leaves
    obtain ⟨own, others⟩ := (justifies rest packet w run).stores Ipfix.IpfixParser.cache
      (fun kind now parser record => Ipfix.applyRecord_makes _ kind now parser record)
      (fun kind => (small.caches kind).1) applied
    refine ⟨applied.keeps (fun now parser record _ small => small.applyRecord _ now record) small,
      speaks.insert own others w.parser ?_ ?_⟩
    · refine foldl_few (fun domain few record => ?_) speaks.samplers _ _
      exact domain.readIpfix_keeps order (I := fun domain => domain.samplerRates.size ≤
        MAX_SAMPLERS)
        (fun _ _ _ few => Domain.size_setSamplingRate_le few _ _ _) (fun _ _ few => few) record few
    · refine foldl_informed (fun domain record => ?_) fun domain => domain.informed_readIpfix order
      exact domain.readIpfix_keeps order (fun domain _ _ _ =>
        domain.informed_setSamplingRate order _ _)
        (fun _ boot _ => .inr (.inr (Option.some_ne_none boot))) record

end

/-! ### The processor -/

/-- The datagram justifies what is kept for it at the exporter it is from. -/
structure NetflowProcessor.Justifies (processor : NetflowProcessor) (datagram : Datagram) :
    Prop where
  v9 : version datagram.payload = some NetflowV9.NETFLOW_V9_VERSION →
    (processor.v9.entry datagram.src datagram.arrival processor.templateTimeout
      (NetflowV9.World.new datagram.made processor.ieRegistry
        processor.templateTimeout).parser).1.JustifiesV9 datagram
  ipfix : version datagram.payload = some Ipfix.IPFIX_VERSION →
    (processor.ipfix.entry datagram.src datagram.arrival processor.templateTimeout
      (Ipfix.World.new datagram.made processor.ieRegistry
        processor.templateTimeout).parser).1.JustifiesIpfix datagram

namespace NetflowProcessor

/-- The limits on what is kept of each exporter. -/
structure Bounded (processor : NetflowProcessor) : Prop where
  v9 : ∀ src exporter, processor.v9.map.lookup src = some exporter →
    (∀ kind, (exporter.parser.cache kind).entries.length ≤ MAX_TEMPLATE_FIELDS) ∧
      exporter.Bounded (StoresFor exporter.parser.cache)
  ipfix : ∀ src exporter, processor.ipfix.map.lookup src = some exporter →
    (∀ kind, (exporter.parser.cache kind).entries.length ≤ MAX_TEMPLATE_FIELDS) ∧
      exporter.parser.elementTypes.held.size ≤ Ipfix.MAX_ELEMENTS ∧
      exporter.Bounded (StoresFor exporter.parser.cache)

/-- The states after datagrams that each meet a condition where they arrive. -/
inductive Reached (ieRegistry : IERegistry) (timeout : Duration)
    (Meets : NetflowProcessor → Datagram → Prop) :
    NetflowProcessor → Prop where
  | new (v9 ipfix : Instant) : Reached ieRegistry timeout Meets (.new ieRegistry timeout v9 ipfix)
  | parse {processor : NetflowProcessor} (order : IterationOrder UInt32) (datagram : Datagram)
      (before : Reached ieRegistry timeout Meets processor) (meets : Meets processor datagram) :
      Reached ieRegistry timeout Meets (processor.parse order datagram).1

/-- The invariant. -/
structure Modest (processor : NetflowProcessor) : Prop where
  v9 : processor.v9.Forall fun _ exporter => exporter.parser.Small ∧
    exporter.Speaks (StoresFor exporter.parser.cache)
  ipfix : processor.ipfix.Forall fun _ exporter => exporter.parser.Small ∧
    exporter.Speaks (StoresFor exporter.parser.cache)

theorem Modest.bounded {processor : NetflowProcessor} (modest : processor.Modest) :
    processor.Bounded where
  v9 src exporter found := by
    obtain ⟨small, speaks⟩ := modest.v9 src exporter found
    exact ⟨fun kind => (small kind).2, speaks.bounded⟩
  ipfix src exporter found := by
    obtain ⟨small, speaks⟩ := modest.ipfix src exporter found
    refine ⟨fun kind => TemplateCache.length_entries_le (small.caches kind).1 (small.caches kind).2,
      ?_, speaks.bounded⟩
    rw [small.elements.1]
    exact small.elements.2

end NetflowProcessor

/-- The exporter that `entry` finds or makes has what all have. -/
theorem Exporters.forall_entry {P : Type} {Q : Exporter P → Prop} {self : Exporters P}
    (all : self.Forall fun _ => Q) (src : IpAddr) (now : Instant) (timeout : Duration) (new : P)
    (fresh : Q ⟨new, ∅, now⟩) (later : ∀ exporter, Q exporter →
      Q { exporter with lastSeen := now }) :
    Q (self.entry src now timeout new).1 ∧ ∀ exporter, Q exporter →
      Sessions.Forall (fun _ => Q) ((self.entry src now timeout new).2.put src exporter) := by
  have swept : (self.sweep Exporter.lastSeen SWEEP_INTERVAL timeout now).Forall fun _ =>
      Q := all.sweep
  have found : Q (self.entry src now timeout new).1 := by
    unfold entry seen
    dsimp only
    cases there : (self.sweep Exporter.lastSeen SWEEP_INTERVAL timeout now).map.lookup src with
    | none => exact fresh
    | some exporter => exact later exporter (swept src exporter there)
  exact ⟨found, fun exporter holds => (swept.put found).put holds⟩

namespace NetflowProcessor

theorem Modest.new (ieRegistry : IERegistry) (timeout : Duration) (v9 ipfix : Instant) :
    (new ieRegistry timeout v9 ipfix).Modest :=
  ⟨fun _ _ found => by simp [NetflowProcessor.new, Exporters.new] at found,
    fun _ _ found => by simp [NetflowProcessor.new, Exporters.new] at found⟩

theorem Modest.parse {processor : NetflowProcessor} (modest : processor.Modest)
    {datagram : Datagram} (justifies : processor.Justifies datagram)
    (order : IterationOrder UInt32) : (processor.parse order datagram).1.Modest := by
  have silent : ∀ {P : Type} {stores : UInt32 → Prop} (parser : P) (now : Instant),
      Exporter.Speaks stores ⟨parser, ∅, now⟩ :=
    fun _ _ => ⟨fun _ _ found => by simp at found, fun _ _ found => by simp at found⟩
  obtain ⟨entered9, put9⟩ :=
    Exporters.forall_entry modest.v9 datagram.src datagram.arrival processor.templateTimeout
    (NetflowV9.World.new datagram.made processor.ieRegistry processor.templateTimeout).parser
    ⟨NetflowV9.small_new _ _ _, silent _ _⟩ fun _ holds => ⟨holds.1, holds.2.samplers, holds.2.said⟩
  obtain ⟨enteredIpfix, putIpfix⟩ :=
    Exporters.forall_entry modest.ipfix datagram.src datagram.arrival processor.templateTimeout
    (Ipfix.World.new datagram.made processor.ieRegistry processor.templateTimeout).parser
    ⟨Ipfix.small_new _ _ _, silent _ _⟩ fun _ holds => ⟨holds.1, holds.2.samplers, holds.2.said⟩
  unfold NetflowProcessor.parse
  cases named : version datagram.payload with
  | none => exact modest
  | some number =>
    dsimp only
    split_ifs with is5 is9 isIpfix
    · exact modest
    · subst is9
      exact ⟨put9 _ (Exporter.parseV9_keeps entered9.1 entered9.2 (justifies.v9 named)),
        modest.ipfix⟩
    · subst isIpfix
      exact ⟨modest.v9,
        putIpfix _ (Exporter.parseIpfix_keeps enteredIpfix.1 enteredIpfix.2
          (justifies.ipfix named))⟩
    · exact modest

end NetflowProcessor

/-- In every run whose datagrams all justify what is kept for them, what is kept of each exporter is
within its limits. -/
theorem retention_bounded {ieRegistry : IERegistry} {timeout : Duration}
    {processor : NetflowProcessor}
    (reached : NetflowProcessor.Reached ieRegistry timeout NetflowProcessor.Justifies processor) :
    processor.Bounded := by
  suffices processor.Modest from this.bounded
  induction reached with
  | new v9 ipfix => exact .new ieRegistry timeout v9 ipfix
  | parse order datagram _ meets ih => exact ih.parse meets order

/-- A NetFlow v9 packet of a source ID, its FlowSets after the header. -/
def packetOf (flowSets : List UInt8) : Datagram where
  src := .v4 1
  payload := [0, 9, 0, 0, 0, 0, 0, 1, 0, 0, 0, 2, 0, 0, 0, 3, 0, 0, 0, 4] ++ flowSets
  clock _ := 0

/-- A header alone makes an entry of its source ID, of which nothing has been said. -/
theorem unbounded_by_header :
    ¬∀ processor, NetflowProcessor.Reached .new (600 * 1000000000) (fun _ _ => True) processor →
      processor.Bounded := by
  intro all
  have new :
      NetflowProcessor.Reached .new (600 * 1000000000) (fun _ _ => True)
        (.new .new (600 * 1000000000) 0 0) := .new 0 0
  have reached := new.parse .listed (packetOf []) trivial
  have limit :=
    ((all _ reached).v9 (.v4 1) ⟨(NetflowV9.World.new (fun _ => 0) .new (600 * 1000000000)).parser,
    (∅ : Table UInt32 Domain).insert 4 {}, 0⟩ rfl).2.domains
  have none :
      {id | StoresFor (NetflowV9.World.new (fun _ => 0) .new (600 * 1000000000)).parser.cache id ∨
      Exporter.Stated (P := NetflowV9.NetflowV9Parser)
        ⟨(NetflowV9.World.new (fun _ => 0) .new (600 * 1000000000)).parser,
        (∅ : Table UInt32 Domain).insert 4 {}, 0⟩ id} = ∅ := by
    refine Set.eq_empty_of_forall_notMem fun id => ?_
    rintro (⟨kind, template, stored⟩ | ⟨domain, found, informed⟩)
    · cases kind <;> exact stored rfl
    · rw [Table.lookup_insert_eq] at found
      split at found
      · cases found
        obtain own | samplers | boot := informed
        · exact own rfl
        · exact samplers rfl
        · exact boot rfl
      · simp at found
  rw [none, Set.ncard_empty] at limit
  exact absurd limit (by decide)

/-- A template of one field, and one of none. -/
theorem template_bounded : ((NetflowProcessor.new .new (600 * 1000000000) 0 0).parse .listed
    (packetOf [0, 0, 0, 16, 1, 0, 0, 1, 0, 8, 0, 4, 1, 1, 0, 0])).1.Bounded := by
  refine retention_bounded (.parse _ _ (.new 0 0) ⟨fun _ rest packet w run => ?_,
    fun other => nomatch other⟩)
  cases (show some _ = _ from congrArg Prod.fst run)
  refine ⟨fun kind => .inr ?_, ?_, ?_⟩
  · have two : ({(4, 256), (4, 257)} : Set TemplateKey).ncard ≤ MAX_TEMPLATE_FIELDS :=
      (Set.ncard_insert_le _ _).trans (by rw [Set.ncard_singleton]; decide)
    refine (Set.ncard_le_ncard ?_ (finite_keys _)).trans two
    rintro key (held | ⟨size, mem⟩)
    · cases kind <;> exact absurd rfl held
    · cases kind with
      | data =>
        change _ ∈ [Request.define (4, 256) 1, .define (4, 257) 0] at mem
        obtain same | same := List.mem_pair.mp mem
        · exact .inl (Request.define.inj same).1
        · exact .inr (Request.define.inj same).1
      | options => cases mem
  · exact .inr (.inr ⟨.data, 256,
      .inr ⟨fun _ _ => (by decide : 0 < 600 * 1000000000), fun _ => by decide,
      .inr (.inl rfl)⟩⟩)
  · exact fun _ _ found => nomatch found

end Rustflow
