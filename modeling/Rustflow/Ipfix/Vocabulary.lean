import Rustflow.Common.TemplateLasting
import Rustflow.Ipfix.NaturalWidths

/-!
# The templates of a sender

A sender that describes its records by a fixed list of templates and sends the list now and then. A
parser that has been told of no other templates in the sender's domain reads whatever the sender
describes, as long as the list has reached it recently enough.
-/

namespace Rustflow.Ipfix
open TemplateCache Combinator

/-- The templates that a sender describes its records by. -/
structure Vocabulary where
  templates : List TemplateRecord
  optionsTemplates : List OptionsTemplateRecord

namespace Vocabulary

/-- The templates of a kind, by their IDs. -/
def described (self : Vocabulary) : TemplateKind → List (UInt16 × List FieldSpecifier)
  | .data => self.templates.map fun template => (template.templateId, template.fields)
  | .options => self.optionsTemplates.map fun template => (template.templateId, template.fields)

/-- The sets of a message that sends all of them. -/
def templateSets (self : Vocabulary) : List Set := [
  { id := IPFIX_TEMPLATE_SET_ID, length := 0, records := self.templates.map .template },
  { id := IPFIX_OPTIONS_TEMPLATE_SET_ID, length := 0,
    records := self.optionsTemplates.map .optionsTemplate }]

/-- The number of fields that the templates of a kind have. -/
def size (self : Vocabulary) (kind : TemplateKind) : Nat :=
  ((self.described kind).map (·.2.length)).sum

/-- Templates that are read as they are written, each of them usable and known by one ID, with room
for all of them in a cache that has them all. -/
structure Sound (vocabulary : Vocabulary) : Prop where
  readTemplates : parseTemplateRecord.many0
    ((vocabulary.templates.map Record.template).flatMap Record.encode) =
      some ([], vocabulary.templates)
  readOptionsTemplates : parseOptionsTemplateRecord.many0
    ((vocabulary.optionsTemplates.map Record.optionsTemplate).flatMap Record.encode) =
      some ([], vocabulary.optionsTemplates)
  usable : ∀ kind, ∀ template ∈ vocabulary.described kind,
    IPFIX_VALID_TEMPLATE_ID_MIN ≤ template.1 ∧ template.2 ≠ [] ∧ ∀ spec ∈ template.2,
      spec.fieldLength ≠ 0
  distinct : ((vocabulary.described .data ++ vocabulary.described .options).map Prod.fst).Nodup
  room : ∀ kind, vocabulary.size kind + vocabulary.size kind ≤ MAX_TEMPLATE_FIELDS

variable {vocabulary : Vocabulary}

theorem Sound.nodup (sound : vocabulary.Sound) (kind : TemplateKind) :
    ((vocabulary.described kind).map Prod.fst).Nodup := by
  have distinct := sound.distinct
  rw [List.map_append] at distinct
  cases kind with
  | data => exact distinct.of_append_left
  | options => exact distinct.of_append_right

/-- An ID is that of a template of one kind only. -/
theorem Sound.unique (sound : vocabulary.Sound) {kind kind' : TemplateKind}
    {template template' : UInt16 × List FieldSpecifier} (mem : template ∈ vocabulary.described kind)
    (mem' : template' ∈ vocabulary.described kind') (same : template.1 = template'.1) :
    kind = kind' ∧ template = template' := by
  have apart := sound.distinct
  rw [List.map_append] at apart
  have disjoint := List.disjoint_of_nodup_append apart
  have inside := List.mem_map_of_mem (f := Prod.fst) mem
  have inside' := List.mem_map_of_mem (f := Prod.fst) mem'
  rw [← same] at inside'
  have kinds : kind = kind' := by
    cases kind <;> cases kind'
    · rfl
    · exact (disjoint inside inside').elim
    · exact (disjoint inside' inside).elim
    · rfl
  subst kinds
  exact ⟨rfl, List.inj_on_of_nodup_map (sound.nodup kind) mem mem' same⟩

theorem length_le_size {kind : TemplateKind} {template : UInt16 × List FieldSpecifier}
    (mem : template ∈ vocabulary.described kind) :
    template.2.length ≤ vocabulary.size kind :=
  List.single_le_sum (fun _ _ => Nat.zero_le _)
    _ (List.mem_map_of_mem (f := fun t => t.2.length) mem)

/-! ### Parsers -/

/-- A parser that knows no templates but these in a domain, and has learned of no element. -/
structure Understands (vocabulary : Vocabulary) (registry : IERegistry) (timeout : Duration)
    (domain : UInt32) (parser : IpfixParser) :
    Prop where
  sharing : parser.ieRegistry = registry
  types : parser.elementTypes = ElementTypes.default
  within : ∀ kind, TemplateCache.Within (parser.cache kind)
  timing : ∀ kind, (parser.cache kind).timeout = timeout
  known : ∀ kind key entry, (parser.cache kind).find key = some entry →
    ∃ template ∈ vocabulary.described kind,
    key = (domain, template.1) ∧ entry.fields =
      resolveFields registry ElementTypes.default domain template.2

/-- A template that was sent at some time or after it. -/
def Told (domain : UInt32) (since : Instant) (parser : IpfixParser) (kind : TemplateKind)
    (id : UInt16) : Prop :=
  ∃ entry, (parser.cache kind).find (domain, id) = some entry ∧ since ≤ entry.sentAt

def AllTold (vocabulary : Vocabulary) (domain : UInt32) (since : Instant)
    (parser : IpfixParser) : Prop :=
  ∀ kind, ∀ template ∈ vocabulary.described kind, Told domain since parser kind template.1

section
variable {registry : IERegistry} {timeout : Duration} {domain : UInt32} {parser : IpfixParser}
  {since : Instant}

theorem understands_new (vocabulary : Vocabulary) (registry : IERegistry) (timeout : Duration)
    (domain : UInt32) (clock : Nat → Instant) :
    vocabulary.Understands registry timeout domain (World.new clock registry timeout).parser where
  sharing := rfl
  types := rfl
  within
    | .data => within_new timeout (clock 0)
    | .options => within_new timeout (clock 1)
  timing
    | .data => rfl
    | .options => rfl
  known kind key entry found := by
    cases kind <;> simp [World.new, IpfixParser.cache, TemplateCache.new, find] at found

theorem Understands.load_le (understands : vocabulary.Understands registry timeout domain parser)
    (sound : vocabulary.Sound) (kind : TemplateKind) :
    (parser.cache kind).load ≤ vocabulary.size kind := by
  let keys := ((vocabulary.described kind).map fun template => (domain, template.1))
  have nodup : keys.Nodup := by
    have distinct :=
      (sound.nodup kind).map (f := fun id => (domain, id)) fun _ _ same => (Prod.mk.inj same).2
    rwa [List.map_map] at distinct
  rw [load_eq_total, Table.total_eq_sum _ _ keys.toFinset, List.sum_toFinset _ nodup,
    List.map_map, size]
  · refine List.sum_le_sum fun template mem => ?_
    rw [Function.comp_apply, ← find_eq]
    cases found : (parser.cache kind).find (domain, template.1) with
    | none => exact Nat.zero_le _
    | some entry =>
      obtain ⟨template', mem', key, fields⟩ := understands.known kind _ entry found
      obtain ⟨-, rfl⟩ := sound.unique mem mem' (Prod.mk.inj key).2
      rw [Option.elim_some, fields, length_resolveFields]
  · intro key present
    rw [← find_eq] at present
    obtain ⟨entry, found⟩ := Option.ne_none_iff_exists'.mp present
    obtain ⟨template, mem, rfl, -⟩ := understands.known kind key entry found
    exact List.mem_toFinset.mpr (List.mem_map_of_mem mem)

variable {clock : Nat → Instant}

/-- A template in a cache is in effect until it times out. -/
theorem Understands.effective (understands : vocabulary.Understands registry timeout domain parser)
    (sound : vocabulary.Sound) (told : vocabulary.AllTold domain since parser)
    (recent : ∀ n, clock n - since < timeout) {kind : TemplateKind}
    {template : UInt16 × List FieldSpecifier} (mem : template ∈ vocabulary.described kind)
    (ticks : Nat) :
    Rustflow.effective clock parser.templates parser.optionsTemplates (domain, template.1) ticks =
      some (kind, resolveFields registry ElementTypes.default domain template.2) := by
  obtain ⟨entry, found, late⟩ := told kind template mem
  obtain ⟨template', mem', key, fields⟩ := understands.known kind _ entry found
  obtain ⟨-, rfl⟩ := sound.unique mem mem' (Prod.mk.inj key).2
  have alive : ∀ n, (parser.cache kind).get (clock n) (domain, template.1) =
      some (resolveFields registry ElementTypes.default domain template.2) := by
    intro n
    have fresh : clock n - entry.sentAt < (parser.cache kind).timeout := by
      rw [understands.timing kind]
      exact Nat.lt_of_le_of_lt (Nat.sub_le_sub_left late _) (recent n)
    rw [TemplateCache.get, found, Option.filter_some, if_pos (decide_eq_true fresh),
      Option.map_some, fields]
  unfold Rustflow.effective
  cases kind with
  | data => rw [show parser.templates.get _ _ = _ from alive ticks, Option.map_some, Option.some_or]
  | options =>
    have none : parser.templates.get (clock ticks) (domain, template.1) = none := by
      rw [TemplateCache.get, Option.map_eq_none_iff]
      cases other : parser.templates.find (domain, template.1) with
      | none => rfl
      | some entry =>
        obtain ⟨data, inside, key, -⟩ := understands.known .data _ entry other
        cases (sound.unique mem inside (Prod.mk.inj key).2).1
    rw [none, Option.map_none, Option.none_or,
      show parser.optionsTemplates.get _ _ = _ from alive (ticks + 1), Option.map_some]

/-- What is in effect under the ID of a template is the template. -/
theorem Understands.of_effective
    (understands : vocabulary.Understands registry timeout domain parser) (sound : vocabulary.Sound)
    {kind kind' : TemplateKind} {template : UInt16 × List FieldSpecifier}
    (mem : template ∈ vocabulary.described kind) {ticks : Nat} {fields : List ResolvedField}
    (found : Rustflow.effective clock parser.templates parser.optionsTemplates (domain, template.1)
      ticks = some (kind', fields)) :
    kind' = kind ∧ fields = resolveFields registry ElementTypes.default domain template.2 := by
  have held : ∃ entry, (parser.cache kind').find (domain, template.1) = some entry ∧
      entry.fields = fields := by
    unfold Rustflow.effective at found
    obtain there | ⟨-, there⟩ := Option.or_eq_some_iff.mp found
    all_goals
      obtain ⟨fields', got, same⟩ := Option.map_eq_some_iff.mp there
      cases same
      obtain ⟨entry, kept, rfl⟩ := Option.map_eq_some_iff.mp got
      exact ⟨entry, (Option.filter_eq_some_iff.mp kept).1, rfl⟩
  obtain ⟨entry, there, rfl⟩ := held
  obtain ⟨template', mem', key, fields⟩ := understands.known kind' _ entry there
  obtain ⟨rfl, rfl⟩ := sound.unique mem mem' (Prod.mk.inj key).2
  exact ⟨rfl, fields⟩

/-! ### Being told -/

theorem cache_setCache (parser : IpfixParser) (cache : Templates) (kind kind' : TemplateKind) :
    (parser.setCache cache kind).cache kind' = if kind' = kind then cache
    else parser.cache kind' := by
  cases kind <;> cases kind' <;> rfl

theorem Understands.cache_insertTemplate {w : World}
    (understands : vocabulary.Understands registry timeout domain w.parser) (kind : TemplateKind)
    (template : UInt16 × List FieldSpecifier) (kind' : TemplateKind) :
    (insertTemplate clock kind (domain, template.1) template.2 w).parser.cache kind' =
      if kind' = kind then (w.parser.cache kind).insert (clock w.ticks) (domain, template.1)
        (resolveFields registry ElementTypes.default domain template.2)
      else w.parser.cache kind' := by
  show (IpfixParser.setCache _ _ _).cache kind' = _
  rw [understands.sharing, understands.types]
  exact cache_setCache _ _ _ _

/-- A template of the list is stored at any time. -/
theorem Understands.insertTemplate {w : World}
    (understands : vocabulary.Understands registry timeout domain w.parser) {kind : TemplateKind}
    {template : UInt16 × List FieldSpecifier} (mem : template ∈ vocabulary.described kind) :
    vocabulary.Understands registry timeout domain
      (insertTemplate clock kind (domain, template.1) template.2 w).parser := by
  have cache := @Understands.cache_insertTemplate _ _ _ _ clock w understands kind template
  refine ⟨?_, ?_, ?_, ?_, ?_⟩
  · cases kind <;> exact understands.sharing
  · cases kind <;> exact understands.types
  · intro kind'
    rw [cache]
    split
    · exact (understands.within kind).insert _ _ _
    · exact understands.within kind'
  · intro kind'
    rw [cache]
    split
    · exact (timeout_apply _ _ (.insert _ _)).trans (understands.timing kind)
    · exact understands.timing kind'
  · intro kind' key entry found
    rw [cache] at found
    split at found
    · next same =>
      subst same
      obtain before | ⟨rfl, rfl⟩ := find_insert found
      · exact understands.known kind' key entry before
      · exact ⟨template, mem, rfl, rfl⟩
    · exact understands.known kind' key entry found

/-- Where the reading of the clock is recent enough, the templates before it are kept. -/
theorem Understands.told_insertTemplate {w : World}
    (understands : vocabulary.Understands registry timeout domain w.parser)
    (sound : vocabulary.Sound) {kind : TemplateKind} {template : UInt16 × List FieldSpecifier}
    (mem : template ∈ vocabulary.described kind) (later : since ≤ clock w.ticks)
    (recent : clock w.ticks - since < timeout) :
    let parser := (Ipfix.insertTemplate clock kind (domain, template.1) template.2 w).parser
    Told domain since parser kind template.1 ∧
      ∀ kind' id, Told domain since w.parser kind' id → Told domain since parser kind' id := by
  intro parser
  let fields := resolveFields registry ElementTypes.default domain template.2
  have cache : ∀ kind', parser.cache kind' = _ := understands.cache_insertTemplate kind template
  have room : (w.parser.cache kind).load + fields.length ≤ MAX_TEMPLATE_FIELDS := by
    have load := understands.load_le sound kind
    have length : fields.length = template.2.length := List.length_map ..
    have le := length_le_size mem
    have := sound.room kind
    omega
  have self : ((w.parser.cache kind).insert (clock w.ticks) (domain, template.1) fields).find
      (domain, template.1) = some ⟨fields, clock w.ticks⟩ :=
    (find_insert_of_room (understands.within kind) (clock w.ticks) _ _ room).trans (if_pos rfl)
  constructor
  · refine ⟨⟨fields, clock w.ticks⟩, ?_, later⟩
    rw [cache, if_pos rfl]
    exact self
  · rintro kind' id ⟨entry, found, late⟩
    unfold Told
    rw [cache]
    split
    · next same =>
      subst same
      by_cases again : (domain, id) = (domain, template.1)
      · rw [again]
        exact ⟨_, self, later⟩
      · refine ⟨entry, find_insert_fresh again found ?_, late⟩
        rw [understands.timing kind']
        exact Nat.lt_of_le_of_lt (Nat.sub_le_sub_left late _) recent
    · exact ⟨entry, found, late⟩

/-- So with any number of templates of a kind, one after the other. -/
theorem Understands.defineTemplates {kind : TemplateKind} {w : World}
    (understands : vocabulary.Understands registry timeout domain w.parser)
    (sound : vocabulary.Sound) (templates : List (UInt16 × List FieldSpecifier))
    (among : templates ⊆ vocabulary.described kind) :
    let parser := (templates.foldl (defineTemplate clock kind domain) w).parser
    vocabulary.Understands registry timeout domain parser ∧
      ∀ since, (∀ n, since ≤ clock n) → (∀ n, clock n - since < timeout) →
        (∀ template ∈ templates, Told domain since parser kind template.1) ∧
        ∀ kind' id, Told domain since w.parser kind' id → Told domain since parser kind' id := by
  induction templates generalizing w with
  | nil => exact ⟨understands, fun _ _ _ => ⟨nofun, fun _ _ told => told⟩⟩
  | cons template templates ih =>
    obtain ⟨mem, among⟩ := List.cons_subset.mp among
    obtain ⟨valid, nonempty, -⟩ := sound.usable kind template mem
    have defined := @defineTemplate_insert clock domain kind w _ _ nonempty valid
    have stored : vocabulary.Understands registry timeout domain
        (defineTemplate clock kind domain w template).parser := by
      rw [defined]
      exact understands.insertTemplate mem
    obtain ⟨understands', kept⟩ := ih stored among
    refine ⟨understands', fun since later recent => ?_⟩
    obtain ⟨told, before⟩ :=
      understands.told_insertTemplate sound mem (later w.ticks) (recent w.ticks)
    rw [← defined] at told before
    obtain ⟨each, kept⟩ := kept since later recent
    refine ⟨?_, fun kind' id there => kept kind' id (before kind' id there)⟩
    exact List.forall_mem_cons.mpr ⟨kept kind template.1 told, each⟩

/-- A message with all templates. -/
theorem Understands.readTemplates {w : World}
    (understands : vocabulary.Understands registry timeout domain w.parser)
    (sound : vocabulary.Sound) :
    ∃ w', ReadsContents clock domain w vocabulary.templateSets
        [(IPFIX_TEMPLATE_SET_ID, vocabulary.templates.map .template),
          (IPFIX_OPTIONS_TEMPLATE_SET_ID, vocabulary.optionsTemplates.map .optionsTemplate)] w' ∧
      vocabulary.Understands registry timeout domain w'.parser ∧
      ∀ since, (∀ n, since ≤ clock n) → (∀ n, clock n - since < timeout) →
        vocabulary.AllTold domain since w'.parser := by
  obtain ⟨understands, data⟩ :=
    understands.defineTemplates sound (vocabulary.described .data) (List.Subset.refl _)
  obtain ⟨understands, options⟩ :=
    understands.defineTemplates sound (vocabulary.described .options) (List.Subset.refl _)
  refine ⟨_, .cons (parseRecords_readTemplates sound.readTemplates)
    (.cons (parseRecords_readOptionsTemplates sound.readOptionsTemplates) (.nil _)), ?_⟩
  have folded : ∀ w : World, vocabulary.templates.foldl
      (fun w t => defineTemplate clock .data domain w (t.templateId, t.fields)) w =
        (vocabulary.described .data).foldl (defineTemplate clock .data domain) w :=
    fun w => List.foldl_map.symm
  have folded' : ∀ w : World, vocabulary.optionsTemplates.foldl
      (fun w t => defineTemplate clock .options domain w (t.templateId, t.fields)) w =
        (vocabulary.described .options).foldl (defineTemplate clock .options domain) w :=
    fun w => List.foldl_map.symm
  rw [folded', folded]
  refine ⟨understands, fun since later recent kind template mem => ?_⟩
  cases kind with
  | data => exact (options since later recent).2 .data _ ((data since later recent).1 template mem)
  | options => exact (options since later recent).1 template mem

/-! ### Messages -/

/-- What a message is about: all templates, or the values of records of one template. -/
inductive Content where
  | templates
  | rows (kind : TemplateKind) (template : UInt16 × List FieldSpecifier) (rows : List
      (List FieldValue))

/-- The records that it is read to, with the ID of their set. -/
def Content.records (vocabulary : Vocabulary) (registry : IERegistry) (domain : UInt32) : Content →
    List (UInt16 × List Record)
  | .templates => [(IPFIX_TEMPLATE_SET_ID, vocabulary.templates.map .template),
      (IPFIX_OPTIONS_TEMPLATE_SET_ID, vocabulary.optionsTemplates.map .optionsTemplate)]
  | .rows kind template lists => [(template.1, lists.map fun values =>
      TemplateKind.wrap kind ⟨resolveFields registry ElementTypes.default domain template.2,
        values⟩)]

/-- The sets of a message. Options records teach no element. -/
inductive Describes (vocabulary : Vocabulary) (registry : IERegistry) (domain : UInt32) : List Set →
    Content → Prop where
  | templates : Describes vocabulary registry domain vocabulary.templateSets .templates
  | rows {kind : TemplateKind} {template : UInt16 × List FieldSpecifier} {rows : List
      (List FieldValue)} {records : List Record}
      (mem : template ∈ vocabulary.described kind)
      (content : records.flatMap Record.encode = rows.flatMap (·.flatMap FieldValue.encode))
      (carries : ∀ row ∈ rows, List.Forall₂ (Carries registry) template.2 row)
      (plain : kind = .options → ∀ row ∈ rows,
        Description.read ⟨resolveFields registry ElementTypes.default domain template.2,
          row⟩ = none) :
      Describes vocabulary registry domain [⟨template.1, 0, records⟩] (.rows kind template rows)

/-- A message of a sender, short enough for its length field. -/
structure Sends (vocabulary : Vocabulary) (registry : IERegistry) (domain : UInt32)
    (packet : IpfixPacket) (content : Content) :
    Prop where
  version : packet.header.version = IPFIX_VERSION
  stamped : packet.header.observationDomainId = domain
  fits : packet.encode.length < 2 ^ 16
  describes : Describes vocabulary registry domain packet.sets content

/-- An encoded packet is parsed to one of its domain. -/
theorem domain_parsed {packet parsed : IpfixPacket}
    (version : packet.header.version = IPFIX_VERSION) (fits : packet.encode.length < 2 ^ 16)
    {w w' : World} {rest : List UInt8}
    (parsing : parse clock packet.encode w = (some (rest, parsed), w')) :
    parsed.header.observationDomainId = packet.header.observationDomainId := by
  obtain ⟨message, encoded, -, -, domain, -⟩ := encoded_message packet version fits
  have header : (liftM parseHeader : ParserM World Header) packet.encode w =
      (some (message.body, message.parsed), w) := by
    rw [encoded]
    exact Prod.ext (reads_header message _) rfl
  rw [parse, bindM_of_some header] at parsing
  obtain ⟨_, _, _, _, last⟩ := bindM_eq_some.mp parsing
  cases last
  exact domain

theorem Understands.parse_templates {w : World}
    (understands : vocabulary.Understands registry timeout domain w.parser)
    (sound : vocabulary.Sound) {packet : IpfixPacket}
    (sends : vocabulary.Sends registry domain packet .templates) :
    ∃ parsed w', parse clock packet.encode w = (some ([], parsed), w') ∧
      parsed.sets.map (fun set => (set.id, set.records)) =
        Content.templates.records vocabulary registry domain ∧
      vocabulary.Understands registry timeout domain w'.parser ∧
      ∀ since, (∀ n, since ≤ clock n) → (∀ n, clock n - since < timeout) →
        vocabulary.AllTold domain since w'.parser := by
  obtain ⟨w', read, understands, told⟩ :=
    @Understands.readTemplates _ _ _ _ clock w understands sound
  have sets : packet.sets = vocabulary.templateSets := by
    cases packet
    cases sends.describes
    rfl
  rw [← sets, ← sends.stamped] at read
  obtain ⟨parsed, parsing, records⟩ := parse_encoded packet sends.version sends.fits read
  exact ⟨parsed, w', parsing, records, understands, told⟩

/-- Records are read by their template as long as that is in effect, and dropped where it is not. -/
theorem Understands.parse_rows {w : World}
    (understands : vocabulary.Understands registry timeout domain w.parser)
    (sound : vocabulary.Sound) {packet : IpfixPacket} {kind : TemplateKind}
    {template : UInt16 × List FieldSpecifier} {rows : List (List FieldValue)}
    (sends : vocabulary.Sends registry domain packet (.rows kind template rows)) :
    ∃ parsed ticks, parse clock packet.encode w = (some ([], parsed), { w with ticks }) ∧
      ((∃ since, vocabulary.AllTold domain since w.parser ∧ ∀ n, clock n - since < timeout) →
        parsed.sets.map (fun set => (set.id, set.records)) =
          (Content.rows kind template rows).records vocabulary registry domain) ∧
      (parsed.sets.map (fun set => (set.id, set.records)) =
          (Content.rows kind template rows).records vocabulary registry domain ∨
        parsed.sets.flatMap (·.records) = []) := by
  obtain ⟨version, rfl, fits, describes⟩ := sends
  generalize same : packet.sets = sets at describes
  cases describes with
  | rows mem content carries plain =>
    obtain ⟨valid, nonempty, nonzero⟩ := sound.usable kind template mem
    cases inEffect : Rustflow.effective clock w.parser.templates w.parser.optionsTemplates
        (packet.header.observationDomainId, template.1) w.ticks with
    | some found =>
      obtain ⟨kind', fields⟩ := found
      obtain ⟨rfl, rfl⟩ := understands.of_effective sound mem inEffect
      obtain ⟨parsed, ticks, parsing, records⟩ :=
        Ipfix.parse_rows version same content valid inEffect nonempty nonzero carries plain fits
      exact ⟨parsed, ticks, parsing, fun _ => records, .inl records⟩
    | none =>
      obtain ⟨parsed, ticks, parsing, records⟩ := parse_dropped version same valid inEffect fits
      refine ⟨parsed, ticks, parsing, ?_, .inr records⟩
      rintro ⟨since, told, recent⟩
      rw [understands.effective sound told recent mem w.ticks] at inEffect
      cases inEffect

end

end Vocabulary

end Rustflow.Ipfix
