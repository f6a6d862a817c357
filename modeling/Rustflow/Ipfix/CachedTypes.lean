import Rustflow.Common.TemplateHistory
import Rustflow.Ipfix.Steps

/-!
# Cached types

Templates are resolved when they arrive, and again when a type record changes what is known of an
element. So what either cache holds is at all times what resolving now would give.
-/

namespace Rustflow.Ipfix
open Combinator

/-- The most recent template record of a kind for a key. -/
def lastDefinition (kind : TemplateKind) (key : TemplateKey) :
    List (TemplateEvent FieldSpecifier) → Option (Definition FieldSpecifier)
  | [] => none
  | .define definition :: past =>
    if definition.kind = kind ∧ definition.key = key then some definition
    else lastDefinition kind key past
  | _ :: past => lastDefinition kind key past

/-! ### What is learned -/

namespace ElementTypes

theorem lookup_put_other (self : ElementTypes) {domain domain' : UInt32} (other : domain' ≠ domain)
    (key : ElementKey) (learned : Learned) (len : Nat) :
    lookup ⟨self.put domain key learned, len⟩ domain' = self.lookup domain' := by
  funext id enterpriseNumber
  unfold lookup find put
  rw [Table.lookup_insert_eq, if_neg other]

/-- Unless it reports a change, learning changes nothing, and it never does in another domain. -/
theorem learn_changes (self : ElementTypes) (domain : UInt32) (record : DataRecord)
    (registry : IERegistry) :
    ((self.learn domain record registry).2 = false → (self.learn domain record registry).1 = self) ∧
      ∀ domain', domain' ≠ domain → (self.learn domain record registry).1.lookup domain' =
        self.lookup domain' := by
  unfold learn
  cases Description.read record with
  | none => exact ⟨fun _ => rfl, fun _ _ => rfl⟩
  | some description =>
    dsimp only
    split
    · exact ⟨fun _ => rfl, fun _ _ => rfl⟩
    · cases description.toDataType with
      | none => exact ⟨fun _ => rfl, fun _ _ => rfl⟩
      | some dataType =>
        dsimp only
        rcases self.find domain (description.id, description.enterpriseNumber) with _ | ⟨known,
          definition⟩ | _
        · dsimp only
          split
          · exact ⟨fun h => (Bool.noConfusion h), fun _ other => lookup_put_other self other _ _ _⟩
          · exact ⟨fun _ => rfl, fun _ _ => rfl⟩
        · dsimp only
          split
          · exact ⟨fun _ => rfl, fun _ _ => rfl⟩
          · exact ⟨fun h => (Bool.noConfusion h), fun _ other => lookup_put_other self other _ _ _⟩
        · exact ⟨fun _ => rfl, fun _ _ => rfl⟩

end ElementTypes

theorem learnAll_changes (registry : IERegistry) (domain : UInt32) (records : List Record)
    (types : ElementTypes) :
    ((learnAll registry domain records types).2 = false →
      (learnAll registry domain records types).1 = types) ∧
      ∀ domain', domain' ≠ domain → (learnAll registry domain records types).1.lookup domain' =
        types.lookup domain' := by
  unfold learnAll
  refine List.foldlRecOn (motive := fun now : ElementTypes × Bool =>
    (now.2 = false → now.1 = types) ∧
    ∀ domain', domain' ≠ domain → now.1.lookup domain' = types.lookup domain') records _
    ⟨fun _ => rfl, fun _ _ => rfl⟩ ?_
  rintro ⟨now, changed⟩ ⟨same, others⟩ record _
  cases record with
  | optionsData record =>
    obtain ⟨unchanged, elsewhere⟩ := ElementTypes.learn_changes now domain record registry
    refine ⟨fun quiet => ?_, fun domain' other =>
      (elsewhere domain' other).trans (others domain' other)⟩
    obtain ⟨before, here⟩ := Bool.or_eq_false_iff.mp quiet
    exact (unchanged here).trans (same before)
  | _ => exact ⟨same, others⟩

theorem resolveFields_congr {registry : IERegistry} {types types' : ElementTypes} {domain : UInt32}
    (same : types'.lookup domain = types.lookup domain) (specs : List FieldSpecifier) :
    resolveFields registry types' domain specs = resolveFields registry types domain specs := by
  have each : ∀ spec, resolveField registry types' domain spec =
      resolveField registry types domain spec := by
    intro spec
    unfold resolveField Ipfix.lookup
    rw [same]
  exact List.map_congr_left fun spec _ => each spec

/-! ### The invariant -/

/-- Each cached template is the last record of its kind for its key, resolved with the types known
now. -/
def CachesCurrent (w : World) : Prop :=
  ∀ kind key entry, (w.parser.cache kind).find key = some entry →
    ∃ definition, lastDefinition kind key w.journal = some definition ∧
      entry.fields = resolveFields w.parser.ieRegistry w.parser.elementTypes key.1 definition.specs

/-- Where entries only disappear and the journal has no new definition, what is left is current. -/
theorem CachesCurrent.drop {w : World} (current : CachesCurrent w) (kind : TemplateKind)
    {cache : Templates} (kept : ∀ key entry, cache.find key = some entry →
      (w.parser.cache kind).find key = some entry)
    {journal : List (TemplateEvent FieldSpecifier)}
    (same : ∀ kind key, lastDefinition kind key journal = lastDefinition kind key w.journal) :
    CachesCurrent { w with parser := w.parser.setCache cache kind, journal } := by
  intro kind' key entry found
  have parts : (w.parser.setCache cache kind).ieRegistry = w.parser.ieRegistry ∧
      (w.parser.setCache cache kind).elementTypes = w.parser.elementTypes := by
    cases kind <;> exact ⟨rfl, rfl⟩
  rw [cache_setCache, Function.update_apply] at found
  rw [same, parts.1, parts.2]
  split at found
  · next here =>
    cases here
    exact current kind key entry (kept key entry found)
  · exact current kind' key entry found

theorem CachesCurrent.insertTemplate {w : World} (clock : Nat → Instant) (current : CachesCurrent w)
    (kind : TemplateKind) (key : TemplateKey) (specs : List FieldSpecifier) :
    CachesCurrent (insertTemplate clock kind key specs w) := by
  intro kind' key' entry found
  have parts : ∀ cache, (w.parser.setCache cache kind).ieRegistry = w.parser.ieRegistry ∧
      (w.parser.setCache cache kind).elementTypes = w.parser.elementTypes := by
    intro cache
    cases kind <;> exact ⟨rfl, rfl⟩
  unfold Ipfix.insertTemplate at found ⊢
  dsimp only at found ⊢
  rw [(parts _).1, (parts _).2, lastDefinition]
  rw [cache_setCache, Function.update_apply] at found
  by_cases sameKey : key' = key
  · cases sameKey
    by_cases sameKind : kind' = kind
    · cases sameKind
      rw [if_pos rfl] at found
      refine ⟨_, if_pos ⟨rfl, rfl⟩, ?_⟩
      rcases TemplateCache.find_insert_self (w.parser.cache kind) (clock
        w.ticks) key _ with stored | refused
      · rw [stored] at found
        cases found
        rfl
      · rw [refused] at found
        cases found
    · rw [if_neg sameKind] at found
      rw [if_neg fun same => sameKind same.1.symm]
      exact current kind' key entry found
  · rw [if_neg fun same => sameKey same.2.symm]
    split at found
    · next sameKind =>
      cases sameKind
      exact current kind key' entry (TemplateCache.find_insert_other _ _ sameKey found)
    · exact current kind' key' entry found

theorem CachesCurrent.defineTemplate {w : World} (clock : Nat → Instant) (current : CachesCurrent w)
    (kind : TemplateKind) (domain : UInt32) (template : UInt16 × List FieldSpecifier) :
    CachesCurrent (defineTemplate clock kind domain w template) := by
  rcases defineTemplate_cases clock kind domain w template with step | step | step | step <;>
    rw [step]
  · exact current
  · refine current.drop kind (fun key entry found => ?_) fun _ _ => rfl
    rw [TemplateCache.find_removeDomain] at found
    split at found
    · cases found
    · exact found
  · refine current.drop kind (fun key entry found => ?_) fun _ _ => rfl
    rw [TemplateCache.find_remove] at found
    split at found
    · cases found
    · exact found
  · exact current.insertTemplate clock kind _ template.2

/-- Learning from type records keeps every cached template current. -/
theorem CachesCurrent.learnElementTypes {w : World} (current : CachesCurrent w) (domain : UInt32)
    (records : List Record) (ticks : Nat) :
    CachesCurrent { w with ticks, parser := learnElementTypes domain records w.parser } := by
  intro kind key entry found
  obtain ⟨registry, types, effect⟩ := cache_learnElementTypes domain records w.parser
  obtain ⟨quiet, elsewhere⟩ :=
    learnAll_changes w.parser.ieRegistry domain records w.parser.elementTypes
  dsimp only at found ⊢
  rw [registry, types]
  obtain ⟨unchanged, same⟩ | ⟨_, refreshed⟩ := effect
  · rw [same] at found
    rw [quiet unchanged]
    exact current kind key entry found
  · rw [refreshed, TemplateCache.find_refreshDomain, Option.map_eq_some_iff] at found
    obtain ⟨before, present, rfl⟩ := found
    obtain ⟨definition, last, fields⟩ := current kind key before present
    refine ⟨definition, last, ?_⟩
    by_cases here : key.1 = domain
    · rw [if_pos here, fields, specs_resolveFields, here]
    · rw [if_neg here, fields, resolveFields_congr (elsewhere key.1 here)]

theorem CachesCurrent.parseRecords {w : World} (clock : Nat → Instant) (current : CachesCurrent w)
    (domain : UInt32) (setId : UInt16) (content : List UInt8) :
    CachesCurrent (parseRecords clock domain setId content w).2 := by
  obtain ⟨kind, rfl⟩ | valid | ⟨notTemplates, invalid⟩ := setId_cases setId
  · obtain ⟨rest, records, definitions, run⟩ := parseRecords_templates clock domain content w kind
    rw [run]
    clear run
    induction definitions generalizing w with
    | nil => exact current
    | cons template definitions ih => exact ih (current.defineTemplate clock kind domain template)
  · rw [parseRecords_data valid]
    rcases parseDataSet clock w.parser domain setId content w.ticks
      with ⟨_ | ⟨rest, records⟩, ticks⟩
    · exact current
    · exact current.learnElementTypes domain records ticks
  · rw [parseRecords_other notTemplates invalid]
    exact current

/-- A set in one domain teaches nothing about another, and leaves the registry alone. -/
theorem parseRecords_elsewhere (clock : Nat → Instant) (domain : UInt32) (setId : UInt16)
    (content : List UInt8) (w : World) :
    (parseRecords clock domain setId content w).2.parser.ieRegistry = w.parser.ieRegistry ∧
      ∀ domain', domain' ≠ domain →
        (parseRecords clock domain setId content w).2.parser.elementTypes.lookup domain' =
          w.parser.elementTypes.lookup domain' := by
  obtain ⟨kind, rfl⟩ | valid | ⟨notTemplates, invalid⟩ := setId_cases setId
  · obtain ⟨rest, records, definitions, run⟩ := parseRecords_templates clock domain content w kind
    rw [run]
    clear run
    suffices ∀ w :
        World, (definitions.foldl (defineTemplate clock kind domain) w).parser.ieRegistry =
          w.parser.ieRegistry ∧
        (definitions.foldl (defineTemplate clock kind domain) w).parser.elementTypes =
          w.parser.elementTypes from
      ⟨(this w).1, fun domain' _ => by rw [(this w).2]⟩
    induction definitions with
    | nil => exact fun w => ⟨rfl, rfl⟩
    | cons template definitions ih =>
      intro w
      obtain ⟨registry, types⟩ := ih (defineTemplate clock kind domain w template)
      have step : (defineTemplate clock kind domain w template).parser.ieRegistry =
          w.parser.ieRegistry ∧
          (defineTemplate clock kind domain w template).parser.elementTypes =
            w.parser.elementTypes := by
        rcases defineTemplate_cases clock kind domain w template with step | step | step | step <;>
          rw [step] <;>
          cases kind <;> exact ⟨rfl, rfl⟩
      exact ⟨registry.trans step.1, types.trans step.2⟩
  · rw [parseRecords_data valid]
    rcases parseDataSet clock w.parser domain setId content w.ticks
      with ⟨_ | ⟨rest, records⟩, ticks⟩
    · exact ⟨rfl, fun _ _ => rfl⟩
    · obtain ⟨registry, types, _⟩ := cache_learnElementTypes domain records w.parser
      refine ⟨registry, fun domain' other => ?_⟩
      dsimp only
      rw [types]
      exact (learnAll_changes w.parser.ieRegistry domain records w.parser.elementTypes).2
        domain' other
  · rw [parseRecords_other notTemplates invalid]
    exact ⟨rfl, fun _ _ => rfl⟩

theorem cachesCurrent_reachable {clock : Nat → Instant} {registry : IERegistry} {timeout : Duration}
    {w : World} (reached : Reachable clock registry timeout w) :
    CachesCurrent w ∧ w.parser.ieRegistry = registry := by
  induction reached with
  | new => exact ⟨fun kind key entry found => (by cases kind <;> cases found), rfl⟩
  | set domain setId content _ ih =>
    exact ⟨ih.1.parseRecords clock domain setId content,
      (parseRecords_elsewhere clock domain setId content _).1.trans ih.2⟩

/-! ### Main result -/

/-- Whatever messages a parser has read, the fields of every template in either cache are what
resolving the last record that defined it would give now, and no set changes what is known of the
elements of another domain. -/
theorem cached_fields_resolve_now (clock : Nat → Instant) (registry : IERegistry)
    (timeout : Duration) (w : World) (reached : Reachable clock registry timeout w) :
    (∀ kind key entry, (w.parser.cache kind).find key = some entry →
      ∃ definition, lastDefinition kind key w.journal = some definition ∧
        entry.fields = resolveFields registry w.parser.elementTypes key.1 definition.specs) ∧
      ∀ domain setId content domain', domain' ≠ domain →
        (parseRecords clock domain setId content w).2.parser.elementTypes.lookup domain' =
          w.parser.elementTypes.lookup domain' := by
  obtain ⟨current, same⟩ := cachesCurrent_reachable reached
  subst same
  exact ⟨current, fun domain setId content =>
    (parseRecords_elsewhere clock domain setId content w).2⟩

/-- The elements that type records are made of. -/
def typeRecordRegistry : IERegistry :=
  ((IERegistry.new.addElement 303 none "informationElementId" .unsigned).addElement
    339 none "informationElementDataType" .unsigned).addElement 346 none
      "privateEnterpriseNumber" .unsigned

/-- A parser that has received template 256 with element 1 of enterprise 9, then options template
257 and with it the record that this element is an `unsigned32`. -/
def World.taught : World :=
  World.run id (World.new id typeRecordRegistry 600) [
    [0, 10, 0, 32, 0, 0, 0, 0, 0, 0, 0, 0, 0, 0, 0, 1, 0, 2, 0, 16, 1, 0, 0, 1, 128, 1, 0, 4,
      0, 0, 0, 9],
    [0, 10, 0, 49, 0, 0, 0, 0, 0, 0, 0, 0, 0, 0, 0, 1, 0, 3, 0, 22, 1, 1, 0, 3, 0, 1,
      1, 90, 0, 4, 1, 47, 0, 2, 1, 83, 0, 1, 1, 1, 0, 11, 0, 0, 0, 9, 0, 1, 3]]

theorem taught_fields_resolve_now :
    (World.taught.parser.templates.find (1, 256)).map (·.fields) =
        some [⟨⟨true, 1, 4, some 9⟩, .unsigned, "9.1"⟩] ∧
      ∃ definition, lastDefinition .data (1, 256) World.taught.journal = some definition ∧
        [⟨⟨true, 1, 4, some 9⟩, .unsigned, "9.1"⟩] =
          resolveFields typeRecordRegistry World.taught.parser.elementTypes 1 definition.specs := by
  have found : (World.taught.parser.cache .data).find (1, 256) =
      some ⟨[⟨⟨true, 1, 4, some 9⟩, .unsigned, "9.1"⟩], 2⟩ := by rfl
  have current := cached_fields_resolve_now id typeRecordRegistry 600 World.taught (reachable_run _)
  exact ⟨congrArg (Option.map (·.fields)) found, current.1 .data (1, 256) _ found⟩

end Rustflow.Ipfix
