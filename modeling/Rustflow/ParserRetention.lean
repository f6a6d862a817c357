import Rustflow.Common.TemplateLasting
import Rustflow.Ipfix.LearnedTypes
import Rustflow.StateChanges

/-!
# What a parser keeps

However many packets it parses, a parser holds a bounded number of learned elements and of templates
with fields. How many templates it holds after a packet and which follows from the template records.
-/

namespace Rustflow
open TemplateCache

section
variable {P R S : Type} {clock : Nat → Instant} {apply : Instant → P → R → P} {I : P → Prop}

theorem Applied.keeps {parser parser' : P} {first last : Nat} {records : List R}
    (applied : Applied clock apply parser first records parser' last)
    (each : ∀ now parser, ∀ record ∈ records, I parser → I (apply now parser record))
    (start : I parser) : I parser' := by
  induction applied with
  | nil _ _ => exact start
  | cons _ _ ih =>
    exact ih (fun now parser record mem => each now parser record (List.mem_cons_of_mem _ mem))
      (each _ _ _ List.mem_cons_self start)

theorem filterMap_cons_toList {A B : Type} (f : A → Option B) (a : A) (as : List A) :
    (a :: as).filterMap f = (f a).toList ++ as.filterMap f := by
  cases found : f a with
  | none => exact List.filterMap_cons_none found
  | some _ => exact List.filterMap_cons_some found

section
variable {F : Type} (cacheOf : P → TemplateCache F) {request : R → Option Request}
  (made : ∀ now parser record, ∃ call, Request.MadeAs (request record) call ∧
    cacheOf (apply now parser record) = call.apply now (cacheOf parser))
  {parser parser' : P} {first last : Nat} {records : List R} {key : TemplateKey} {held : Prop}
include made

/-- What the records of a packet ask of a cache decides how many templates it holds after them. -/
theorem Applied.few (applied : Applied clock apply parser first records parser' last)
    (within : (cacheOf parser).Within)
    (affords : (cacheOf parser).Affords (records.filterMap request)) :
    (cacheOf parser').Within ∧ (cacheOf parser').entries.length ≤ MAX_TEMPLATE_FIELDS := by
  induction applied with
  | nil _ _ => exact ⟨within, affords.length_entries_le within⟩
  | @cons parser _ _ reading _ record records _ _ ih =>
    obtain ⟨call, made, after⟩ := made (clock reading) parser record
    rw [filterMap_cons_toList] at affords
    refine ih ?_ ?_
    · rw [after]
      exact (within.apply (clock reading) made).1
    · rw [after]
      exact affords.apply made

/-- So does it which ones: where nothing is defined, those that stay. -/
theorem Applied.stays (applied : Applied clock apply parser first records parser' last)
    (undefined : ∀ key size, .define key size ∉ records.filterMap request)
    (start : held → (cacheOf parser).find key ≠ none)
    (leaves : (records.filterMap request).foldl (Request.Leaves key) held) :
    (cacheOf parser').find key ≠ none := by
  induction applied generalizing held with
  | nil _ _ => exact start leaves
  | @cons parser _ _ reading _ record records _ _ ih =>
    obtain ⟨call, made, after⟩ := made (clock reading) parser record
    rw [filterMap_cons_toList] at undefined leaves
    rw [List.foldl_append] at leaves
    refine @ih _ (fun key size mem => undefined key size (List.mem_append_right _ mem)) ?_ leaves
    intro held
    rw [after]
    exact find_apply_ne_none made (fun key size mem =>
      undefined key size (List.mem_append_left _ mem)) start held

/-- And where something is, those that do not expire. -/
theorem Applied.fresh (applied : Applied clock apply parser first records parser' last)
    (within : (cacheOf parser).Within) (quick : ∀ n m, clock n - clock m < (cacheOf parser).timeout)
    (start : held → (cacheOf parser).Fresh clock key)
    (room : (cacheOf parser).Room key (records.filterMap request))
    (leaves : (records.filterMap request).foldl (Request.Leaves key) held) :
    (cacheOf parser').Fresh clock key := by
  induction applied generalizing held with
  | nil _ _ => exact start leaves
  | @cons parser _ _ reading _ record records _ _ ih =>
    rw [filterMap_cons_toList] at leaves room
    rw [List.foldl_append] at leaves
    obtain ⟨call, made, after⟩ := made (clock reading) parser record
    obtain ⟨within', le⟩ := within.apply (clock reading) made
    have timeout := timeout_apply (clock reading) (cacheOf parser) call
    have roomy : ∀ {size}, .define key size ∈ (request record).toList ++ records.filterMap request →
        (cacheOf parser).load + (((request record).toList.map Request.size).sum +
          ((records.filterMap request).map Request.size).sum) ≤ MAX_TEMPLATE_FIELDS := by
      intro size mem
      have total := room ⟨size, mem⟩
      rwa [List.map_append, List.sum_append] at total
    refine @ih _ ?_ ?_ ?_ ?_ leaves
    · rwa [after]
    · rwa [after, timeout]
    · intro held
      rw [after]
      refine Fresh.apply within quick made reading start ?_ held
      intro ⟨size, mem⟩
      have total := roomy (List.mem_append_left _ mem)
      omega
    · intro ⟨size, mem⟩
      have total := roomy (List.mem_append_right _ mem)
      rw [after]
      omega

theorem Applied.find_ne_none (applied : Applied clock apply parser first records parser' last)
    (within : (cacheOf parser).Within)
    (outlasts : (cacheOf parser).Outlasts clock key (records.filterMap request)) :
    (cacheOf parser').find key ≠ none := by
  obtain ⟨undefined, leaves⟩ | ⟨quick, room, leaves⟩ := outlasts
  · exact applied.stays cacheOf made undefined (fun there => there) leaves
  · obtain ⟨entry, found, _⟩ :=
      applied.fresh cacheOf made within quick (fun fresh => fresh) room leaves
    rw [found]
    exact Option.some_ne_none entry

end
end

/-- A cache that holds no more templates than fields. -/
def TemplateCache.Small {F : Type} (cache : TemplateCache F) : Prop :=
  cache.Within ∧ cache.HasFields

namespace Ipfix

/-- The learned elements are counted exactly and within their limit. -/
def ElementTypes.Few (types : ElementTypes) : Prop :=
  types.held.size = types.len ∧ types.len ≤ MAX_ELEMENTS

theorem ElementTypes.Few.learn {types : ElementTypes} (few : types.Few) (domain : UInt32)
    (record : DataRecord) (registry : IERegistry) : (types.learn domain record registry).1.Few := by
  obtain ⟨_, same⟩ | ⟨description, _,
    ⟨known, _, found, _, same⟩ | ⟨_, _, same⟩ | ⟨_, _, fresh, room, same⟩ | ⟨_, _, same⟩⟩ :=
    types.learn_cases domain record registry
  · rwa [same]
  · rw [same]
    refine ⟨?_, few.2⟩
    rw [size_held_put, found]
    exact few.1
  · rwa [same]
  · rw [same]
    refine ⟨?_, room⟩
    rw [size_held_put, fresh]
    exact congrArg (· + 1) few.1
  · rwa [same]

structure IpfixParser.Small (parser : IpfixParser) : Prop where
  caches : ∀ kind, (parser.cache kind).Small
  elements : parser.elementTypes.Few

theorem small_new (clock : Nat → Instant) (registry : IERegistry) (timeout : Duration) :
    (World.new clock registry timeout).parser.Small where
  caches kind := by
    cases kind <;> exact ⟨TemplateCache.within_new _ _, TemplateCache.hasFields_new _ _⟩
  elements := ⟨rfl, Nat.zero_le _⟩

theorem IpfixParser.Small.setCache {parser : IpfixParser} (small : parser.Small) {cache : Templates}
    (small' : cache.Small) (kind : TemplateKind) : (parser.setCache cache kind).Small where
  caches kind' := by
    rw [cache_setCache]
    by_cases same : kind' = kind
    · subst same
      rwa [Function.update_self]
    · rw [Function.update_of_ne same]
      exact small.caches kind'
  elements := by
    cases kind <;> exact small.elements

theorem IpfixParser.Small.applyRecord {parser : IpfixParser} (small : parser.Small)
    (domain : UInt32) (now : Instant) (record : Record) :
    (applyRecord domain now parser record).Small := by
  have defined : ∀ kind template, (parser.define now kind domain template).Small := by
    intro kind template
    obtain ⟨within, has⟩ := small.caches kind
    unfold IpfixParser.define
    split_ifs with empty all
    · exact small.setCache ⟨within.removeDomain domain, has.removeDomain domain⟩ kind
    · exact small.setCache ⟨within.remove _, has.remove _⟩ kind
    · refine small.setCache ⟨within.insert _ _ _, has.insert _ _ ?_⟩ kind
      rw [List.isEmpty_iff] at empty
      simpa [resolveFields] using empty
    · exact small
  cases record with
  | template t => exact defined .data _
  | optionsTemplate t => exact defined .options _
  | data record => exact small
  | optionsData record =>
    have few := small.elements.learn domain record parser.ieRegistry
    change (parser.learn domain record).Small
    unfold IpfixParser.learn
    generalize parser.elementTypes.learn domain record parser.ieRegistry = learned at few
    obtain ⟨elementTypes, changed⟩ := learned
    cases changed with
    | false => exact small
    | true =>
      have keeps := length_resolveFields_specs parser.ieRegistry elementTypes domain
      refine ⟨fun kind => ?_, few⟩
      obtain ⟨within, has⟩ := small.caches kind
      have refreshed :=
        And.intro (within.refreshDomain domain keeps) (has.refreshDomain domain keeps)
      cases kind <;> exact refreshed

/-- What a template record asks of the cache of a kind. Reserved IDs ask for nothing. -/
def Record.request (domain : UInt32) (kind : TemplateKind) (record : Record) : Option Request :=
  record.definition?.bind fun (kind', id, fields) =>
    if kind' ≠ kind then none
    else if fields.isEmpty then
      if id = TemplateKind.setId kind then some (.withdrawAll domain)
      else some (.withdraw (domain, id))
    else if IPFIX_VALID_TEMPLATE_ID_MIN ≤ id then some (.define (domain, id) fields.length)
    else none

/-- A definition is applied to the cache of its kind as its request is, and to no other. -/
theorem IpfixParser.define_makes (domain : UInt32) (kind : TemplateKind) (now : Instant)
    (parser : IpfixParser) {record : Record} {kind' : TemplateKind} {id : UInt16}
    {fields : List FieldSpecifier} (defines : record.definition? = some (kind', id, fields)) :
    ∃ call, Request.MadeAs (record.request domain kind) call ∧
      (parser.define now kind' domain (id, fields)).cache kind =
        call.apply now (parser.cache kind) := by
  rw [Record.request, defines, Option.bind_some]
  dsimp only
  by_cases same : kind' = kind
  · subst same
    rw [if_neg (not_not_intro rfl)]
    have own : ∀ cache, (parser.setCache cache kind').cache kind' = cache := fun cache => by
      rw [cache_setCache, Function.update_self]
    unfold IpfixParser.define
    dsimp only
    split_ifs
    · exact ⟨_, .withdrawAll domain, own _⟩
    · exact ⟨_, .withdraw (domain, id), own _⟩
    · have made :=
        Request.MadeAs.define (domain, id)
          (resolveFields parser.ieRegistry parser.elementTypes domain fields)
      rw [length_resolveFields] at made
      exact ⟨_, made, own _⟩
    · exact ⟨_, .get (domain, id), rfl⟩
  · rw [if_pos same]
    have other : ∀ cache, (parser.setCache cache kind').cache kind = parser.cache kind :=
      fun cache => by rw [cache_setCache, Function.update_of_ne (Ne.symm same)]
    refine ⟨_, .get (domain, id), ?_⟩
    unfold IpfixParser.define
    split_ifs
    · exact other _
    · exact other _
    · exact other _
    · rfl

theorem applyRecord_makes (domain : UInt32) (kind : TemplateKind) (now : Instant)
    (parser : IpfixParser) (record : Record) :
    ∃ call, Request.MadeAs (record.request domain kind) call ∧
      (applyRecord domain now parser record).cache kind = call.apply now (parser.cache kind) := by
  cases record with
  | template t => exact parser.define_makes domain kind now rfl
  | optionsTemplate t => exact parser.define_makes domain kind now rfl
  | data _ => exact ⟨_, .get (domain, 0), rfl⟩
  | optionsData record =>
    change ∃ call, Request.MadeAs none call ∧ (parser.learn domain record).cache kind =
      call.apply now (parser.cache kind)
    unfold IpfixParser.learn
    generalize parser.elementTypes.learn domain record parser.ieRegistry = learned
    obtain ⟨elementTypes, changed⟩ := learned
    cases changed with
    | false => exact ⟨_, .get (domain, 0), rfl⟩
    | true =>
      have keeps := length_resolveFields_specs parser.ieRegistry elementTypes domain
      exact ⟨_, .refresh domain keeps, by cases kind <;> rfl⟩

end Ipfix

namespace NetflowV9

/-- Each cache is within the budget, and holds no more templates than that. -/
def NetflowV9Parser.Small (parser : NetflowV9Parser) : Prop :=
  ∀ kind, (parser.cache kind).Within ∧ (parser.cache kind).entries.length ≤ MAX_TEMPLATE_FIELDS

theorem small_new (clock : Nat → Instant) (registry : IERegistry) (timeout : Duration) :
    (World.new clock registry timeout).parser.Small := by
  intro kind
  cases kind <;> exact ⟨TemplateCache.within_new _ _, Nat.zero_le _⟩

/-- What a template record asks of the cache of a kind. -/
def Record.request (sourceId : UInt32) (kind : TemplateKind) : Record → Option Request
  | .template t => if kind = .data then some (.define (sourceId, t.id) t.fields.length) else none
  | .optionsTemplate t =>
    if kind = .options then some (.define (sourceId, t.id) t.fields.length) else none
  | .data _ | .optionsData _ => none

theorem applyRecord_makes (sourceId : UInt32) (kind : TemplateKind) (now : Instant)
    (parser : NetflowV9Parser) (record : Record) :
    ∃ call, Request.MadeAs (record.request sourceId kind) call ∧
        (applyRecord sourceId now parser record).cache kind =
          call.apply now (parser.cache kind) := by
  have defined : ∀ kind' id size fields, fields.length = size → ∃ call,
      Request.MadeAs (if kind = kind' then some (.define (sourceId, id) size) else none) call ∧
        (parser.define now kind' sourceId id fields).cache kind =
          call.apply now (parser.cache kind) := by
    rintro kind' id _ fields rfl
    rw [NetflowV9Parser.define, cache_setCache]
    by_cases same : kind = kind'
    · subst same
      rw [if_pos rfl, Function.update_self]
      exact ⟨_, .define (sourceId, id) fields, rfl⟩
    · rw [if_neg same, Function.update_of_ne same]
      exact ⟨_, .get (sourceId, id), rfl⟩
  cases record with
  | template t => exact defined .data t.id _ _ (List.length_map _)
  | optionsTemplate t => exact defined .options t.id _ _ (List.length_map _)
  | data _ | optionsData _ => exact ⟨_, .get (sourceId, 0), rfl⟩

end NetflowV9

end Rustflow
