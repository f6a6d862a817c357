import Rustflow.Common.TemplateHistory
import Rustflow.Ipfix.Steps
import Rustflow.NetflowV9.Steps

/-!
# The latest definition of a template

Both parsers ask the data templates before the options templates, and a definition of one kind
leaves a template of the other kind in place. So the latest definition of an ID is what its data
is read with in every run where no definition of the ID arrives while the other kind still has an
unexpired template under it, and not in every run.
-/

namespace Rustflow
open Combinator

section
variable {S : Type}

/-- The definition that data under a key is to be read with: the latest, of either kind, where it
holds when the cache of its kind is asked, which is the options cache second. -/
def definitionInForce (clock : Nat → Instant) (timeout : Duration) (ticks : Nat)
    (journal : List (TemplateEvent S)) (key : TemplateKey) : Option (Definition S) :=
  (latest key journal).bind fun (definition, gone) =>
    let asked := match definition.kind with
      | .data => ticks
      | .options => ticks + 1
    if Holds timeout (clock asked) definition gone then some definition else none

/-- The caches show the kind and the specifications of the definition in force. -/
theorem effective_eq_definitionInForce {F : Type} {specOf : F → S} {timeout : Duration}
    {caches : TemplateKind → TemplateCache F} {journal : List (TemplateEvent S)}
    {clock : Nat → Instant} {ticks : Nat} {key : TemplateKey}
    (agrees : ∀ t, ticks ≤ t → Agrees specOf timeout caches journal key (clock t)) :
    (effective clock (caches .data) (caches .options) key ticks).map (fun (kind, fields) =>
      (kind, fields.map specOf)) =
      (definitionInForce clock timeout ticks journal key).map fun definition =>
        (definition.kind, definition.specs) := by
  rw [effective_of_agrees (agrees ticks (Nat.le_refl _)) (agrees (ticks + 1) (Nat.le_succ _)),
    inForce, inForce, definitionInForce]
  cases latest key journal with
  | none => rfl
  | some found =>
    obtain ⟨definition, gone⟩ := found
    simp only [Option.bind_some]
    cases kind : definition.kind with
    | data =>
      by_cases holds : Holds timeout (clock ticks) definition gone <;> simp [holds, kind]
    | options =>
      by_cases holds : Holds timeout (clock (ticks + 1)) definition gone <;> simp [holds, kind]

end

/-! ### IPFIX -/

namespace Ipfix
section
variable (clock : Nat → Instant) (timeout : Duration)

/-- A data set under a key is read with the fields and as the kind of the definition in force, and
has no records where there is none. -/
def ReadsLatest (w : World) (domain : UInt32) (id : UInt16) (input : List UInt8) : Prop :=
  match definitionInForce clock timeout w.ticks w.journal (domain, id) with
  | none => ∃ ticks, parseDataSet clock w.parser domain id input w.ticks = (some (input, []), ticks)
  | some definition => ∃ fields ticks, fields.map (·.spec) = definition.specs ∧
      parseDataSet clock w.parser domain id input w.ticks =
        if fields = [] then (some (input, []), ticks)
        else
          let records :=
            many0 (parseRecordFromFields (parseFieldValue clock w.parser domain MAX_LIST_DEPTH)
              fields) input ticks
          (records.1.map fun r => (r.1, r.2.map (TemplateKind.wrap definition.kind)), records.2)

/-- From now on the caches show what the journal says of a key. -/
structure Follows (key : TemplateKey) (w : World) : Prop where
  timeouts : ∀ kind, (w.parser.cache kind).timeout = timeout
  agrees : ∀ t, w.ticks ≤ t → Agrees (·.spec) timeout w.parser.cache w.journal key (clock t)

variable {clock timeout} {key : TemplateKey}

theorem setCache_timeouts {parser : IpfixParser} {cache : Templates} {kind : TemplateKind}
    (timeouts : ∀ kind, (parser.cache kind).timeout = timeout) (same : cache.timeout = timeout)
    (kind' : TemplateKind) :
    ((parser.setCache cache kind).cache kind').timeout = timeout := by
  rw [cache_setCache, Function.update_apply]
  split
  · exact same
  · exact timeouts kind'

theorem follows_new (registry : IERegistry) :
    Follows clock timeout key (World.new clock registry timeout) where
  timeouts kind := by cases kind <;> rfl
  agrees t _ kind := by cases kind <;> rfl

/-- A template record keeps the caches in step, unless it crosses a template of the other kind. -/
theorem Follows.defineTemplate {w : World} (mono : Monotone clock) {kind : TemplateKind}
    {domain : UInt32} {template : UInt16 × List FieldSpecifier}
    (follows : Uncrossed key w.journal → Follows clock timeout key w)
    (uncrossed : Uncrossed key (defineTemplate clock kind domain w template).journal) :
    Follows clock timeout key (defineTemplate clock kind domain w template) := by
  rcases defineTemplate_cases clock kind domain w template with step | step | step | step <;>
    rw [step] at uncrossed ⊢
  · exact follows uncrossed
  · have before := follows uncrossed.of_cons
    refine ⟨setCache_timeouts before.timeouts ?_, fun t le => ?_⟩
    · exact (TemplateCache.timeout_apply 0 _ (.removeDomain domain)).trans (before.timeouts kind)
    · rw [withdrawDomain, cache_setCache]
      exact (before.agrees t le).withdrawAll kind domain
  · have before := follows uncrossed.of_cons
    refine ⟨setCache_timeouts before.timeouts ?_, fun t le => ?_⟩
    · exact (TemplateCache.timeout_remove _ _).trans (before.timeouts kind)
    · rw [withdrawTemplate, cache_setCache]
      exact (before.agrees t le).withdraw kind (domain, template.1)
  · have before := follows uncrossed.of_cons
    have alone := uncrossed _ List.mem_cons_self
    refine ⟨setCache_timeouts before.timeouts ?_, fun t le => ?_⟩
    · exact (TemplateCache.timeout_apply (clock w.ticks) _ (.insert (domain, template.1) _)).trans
        (before.timeouts kind)
    · rw [insertTemplate, cache_setCache]
      exact (before.agrees t (Nat.le_of_succ_le le)).define
        (mono (Nat.le_of_succ_le le)) before.timeouts
        ⟨kind, (domain, template.1), template.2, clock w.ticks, _, _⟩
        (resolveFields w.parser.ieRegistry w.parser.elementTypes domain template.2)
        (specs_resolveFields _ _ _ _).symm rfl rfl
        (by
          rintro rfl
          exact Option.isNone_iff_eq_none.mp (Option.isSome_eq_false_iff.mp (alone rfl)))

theorem Follows.parseRecords {w : World} (mono : Monotone clock) (domain : UInt32) (setId : UInt16)
    (content : List UInt8) (follows : Uncrossed key w.journal → Follows clock timeout key w)
    (uncrossed : Uncrossed key (parseRecords clock domain setId content w).2.journal) :
    Follows clock timeout key (parseRecords clock domain setId content w).2 := by
  obtain ⟨kind, rfl⟩ | valid | ⟨notTemplates, invalid⟩ := setId_cases setId
  · obtain ⟨rest, records, definitions, run⟩ := parseRecords_templates clock domain content w kind
    rw [run] at uncrossed ⊢
    clear run
    induction definitions generalizing w with
    | nil => exact follows uncrossed
    | cons template definitions ih => exact ih (Follows.defineTemplate mono follows) uncrossed
  · have later : w.ticks ≤ (parseDataSet clock w.parser domain setId content w.ticks).2 :=
      parseDataSet_keeps clock domain w.parser (fun n le => Nat.le_succ_of_le le) setId content
        w.ticks (Nat.le_refl _)
    rw [parseRecords_data valid] at uncrossed ⊢
    rcases run : parseDataSet clock w.parser domain setId content w.ticks
      with ⟨_ | ⟨rest, records⟩, ticks⟩ <;>
      rw [run] at later uncrossed
    · have before := follows uncrossed
      exact ⟨before.timeouts, fun t le => before.agrees t (Nat.le_trans later le)⟩
    · have before := follows uncrossed
      obtain ⟨_, _, ⟨_, same⟩ | ⟨_, refreshed⟩⟩ := cache_learnElementTypes domain records w.parser
      · refine ⟨fun kind => ?_, fun t le => ?_⟩
        · dsimp only
          rw [same]
          exact before.timeouts kind
        · dsimp only
          rw [same]
          exact before.agrees t (Nat.le_trans later le)
      · refine ⟨fun kind => ?_, fun t le => ?_⟩
        · dsimp only
          rw [refreshed]
          exact (TemplateCache.timeout_apply 0 _ (.refreshDomain domain _)).trans
            (before.timeouts kind)
        · dsimp only
          rw [refreshed]
          exact (before.agrees t (Nat.le_trans later le)).refresh domain fun fields =>
            specs_resolveFields _ _ _ _
  · rw [parseRecords_other notTemplates invalid] at uncrossed ⊢
    exact follows uncrossed

theorem follows_reachable (mono : Monotone clock) {registry : IERegistry} {w : World}
    (reached : Reachable clock registry timeout w) :
    Uncrossed key w.journal → Follows clock timeout key w := by
  induction reached with
  | new => exact fun _ => follows_new registry
  | set domain setId content _ ih => exact Follows.parseRecords mono domain setId content ih

theorem Follows.readsLatest {w : World} {domain : UInt32} {id : UInt16}
    (follows : Follows clock timeout (domain, id) w) (input : List UInt8) :
    ReadsLatest clock timeout w domain id input := by
  have shown := effective_eq_definitionInForce follows.agrees
  change (effective clock w.parser.templates w.parser.optionsTemplates _ _).map _ = _ at shown
  unfold ReadsLatest
  cases inForce : definitionInForce clock timeout w.ticks w.journal (domain, id) with
  | none =>
    rw [inForce, Option.map_none, Option.map_eq_none_iff] at shown
    exact parseDescribedRecords_none _ _ shown input
  | some definition =>
    rw [inForce, Option.map_some, Option.map_eq_some_iff] at shown
    obtain ⟨⟨kind, fields⟩, found, same⟩ := shown
    obtain ⟨rfl, specs⟩ := Prod.mk.inj same
    obtain ⟨ticks, read⟩ := parseDescribedRecords_some (parseRecordFromFields
      (parseFieldValue clock w.parser domain MAX_LIST_DEPTH)) TemplateKind.wrap found input
    exact ⟨fields, ticks, specs, read⟩

end
end Ipfix

/-! ### NetFlow v9 -/

namespace NetflowV9
section
variable (clock : Nat → Instant) (timeout : Duration)

/-- A data FlowSet under a key is read with the fields and as the kind of the definition in force,
and has no records where there is none. -/
def ReadsLatest (w : World) (sourceId : UInt32) (id : UInt16) (input : List UInt8) : Prop :=
  match definitionInForce clock timeout w.ticks w.journal (sourceId, id) with
  | none => ∃ ticks, parseTemplatedRecords clock w.parser sourceId id input w.ticks =
      (some (input, []), ticks)
  | some definition => ∃ fields ticks, fields.map (·.spec) = definition.specs ∧
      parseTemplatedRecords clock w.parser sourceId id input w.ticks =
        if fields = [] then (some (input, []), ticks)
        else
          let records := many0 (parseRecordFromFields fields) input ticks
          (records.1.map fun r => (r.1, r.2.map (TemplateKind.wrap definition.kind)), records.2)

/-- From now on the caches show what the journal says of a key. -/
structure Follows (key : TemplateKey) (w : World) : Prop where
  timeouts : ∀ kind, (w.parser.cache kind).timeout = timeout
  agrees : ∀ t, w.ticks ≤ t → Agrees (·.spec) timeout w.parser.cache w.journal key (clock t)

variable {clock timeout} {key : TemplateKey}

theorem follows_new (registry : IERegistry) :
    Follows clock timeout key (World.new clock registry timeout) where
  timeouts kind := by cases kind <;> rfl
  agrees t _ kind := by cases kind <;> rfl

/-- A template record keeps the caches in step, unless it crosses a template of the other kind. -/
theorem Follows.insertTemplate {w : World} (mono : Monotone clock) {kind : TemplateKind}
    {key' : TemplateKey} {fields : List ResolvedField}
    (follows : Uncrossed key w.journal → Follows clock timeout key w)
    (uncrossed : Uncrossed key (insertTemplate clock kind key' fields w).journal) :
    Follows clock timeout key (insertTemplate clock kind key' fields w) := by
  have before := follows uncrossed.of_cons
  have alone := uncrossed _ List.mem_cons_self
  refine ⟨fun kind' => ?_, fun t le => ?_⟩
  · rw [NetflowV9.insertTemplate, cache_setCache, Function.update_apply]
    split
    · exact (TemplateCache.timeout_apply (clock w.ticks) _ (.insert key' fields)).trans
        (before.timeouts kind)
    · exact before.timeouts kind'
  · rw [NetflowV9.insertTemplate, cache_setCache]
    exact (before.agrees t (Nat.le_of_succ_le le)).define
      (mono (Nat.le_of_succ_le le)) before.timeouts
      ⟨kind, key', _, clock w.ticks, _, _⟩ fields rfl rfl rfl
      (by
        rintro rfl
        exact Option.isNone_iff_eq_none.mp (Option.isSome_eq_false_iff.mp (alone rfl)))

theorem Follows.parseRecords {w : World} (mono : Monotone clock) (sourceId : UInt32)
    (flowSetId : UInt16) (content : List UInt8)
    (follows : Uncrossed key w.journal → Follows clock timeout key w)
    (uncrossed : Uncrossed key (parseRecords clock sourceId flowSetId content w).2.journal) :
    Follows clock timeout key (parseRecords clock sourceId flowSetId content w).2 := by
  by_cases isTemplates : ∃ kind, flowSetId = TemplateKind.flowSetId kind
  · obtain ⟨kind, rfl⟩ := isTemplates
    obtain ⟨rest, records, templates, run⟩ := parseRecords_templates clock sourceId content w kind
    rw [run] at uncrossed ⊢
    clear run
    induction templates generalizing w with
    | nil => exact follows uncrossed
    | cons template templates ih => exact ih (Follows.insertTemplate mono follows) uncrossed
  · rw [not_exists] at isTemplates
    have later :
        w.ticks ≤ (parseTemplatedRecords clock w.parser sourceId flowSetId content w.ticks).2 :=
      parseTemplatedRecords_keeps clock sourceId w.parser (fun n le => Nat.le_succ_of_le le)
        flowSetId content w.ticks
        (Nat.le_refl _)
    rw [parseRecords_data isTemplates] at uncrossed ⊢
    have before := follows uncrossed
    exact ⟨before.timeouts, fun t le => before.agrees t (Nat.le_trans later le)⟩

theorem follows_reachable (mono : Monotone clock) {registry : IERegistry} {w : World}
    (reached : Reachable clock registry timeout w) :
    Uncrossed key w.journal → Follows clock timeout key w := by
  induction reached with
  | new => exact fun _ => follows_new registry
  | flowSet sourceId flowSetId content _ ih =>
    exact Follows.parseRecords mono sourceId flowSetId content ih

theorem Follows.readsLatest {w : World} {sourceId : UInt32} {id : UInt16}
    (follows : Follows clock timeout (sourceId, id) w) (input : List UInt8) :
    ReadsLatest clock timeout w sourceId id input := by
  have shown := effective_eq_definitionInForce follows.agrees
  change (effective clock w.parser.templates w.parser.optionsTemplates _ _).map _ = _ at shown
  unfold ReadsLatest
  cases inForce : definitionInForce clock timeout w.ticks w.journal (sourceId, id) with
  | none =>
    rw [inForce, Option.map_none, Option.map_eq_none_iff] at shown
    exact parseDescribedRecords_none _ _ shown input
  | some definition =>
    rw [inForce, Option.map_some, Option.map_eq_some_iff] at shown
    obtain ⟨⟨kind, fields⟩, found, same⟩ := shown
    obtain ⟨rfl, specs⟩ := Prod.mk.inj same
    obtain ⟨ticks, read⟩ :=
      parseDescribedRecords_some parseRecordFromFields TemplateKind.wrap found input
    exact ⟨fields, ticks, specs, read⟩

end
end NetflowV9

/-! ### Main result -/

/-- In every run of either parser in which no definition of an ID arrives while the other kind's
cache holds an unexpired template under it, every data set of the ID is read as its latest
definition says. -/
theorem uncrossed_runs_read_latest (clock : Nat → Instant) (mono : Monotone clock)
    (registry : IERegistry) (timeout : Duration) :
    (∀ w, Ipfix.Reachable clock registry timeout w → ∀ domain id, Uncrossed (domain, id) w.journal →
      ∀ input, Ipfix.ReadsLatest clock timeout w domain id input) ∧
    (∀ w, NetflowV9.Reachable clock registry timeout w →
      ∀ sourceId id, Uncrossed (sourceId, id) w.journal →
      ∀ input, NetflowV9.ReadsLatest clock timeout w sourceId id input) :=
  ⟨fun _ reached _ _ uncrossed => (Ipfix.follows_reachable mono reached uncrossed).readsLatest,
    fun _ reached _ _ uncrossed => (NetflowV9.follows_reachable mono reached uncrossed).readsLatest⟩

/-- An IPFIX parser that has been sent data template 256, with one field of four bytes. -/
def Ipfix.World.oneTemplate : Ipfix.World :=
  (Ipfix.parseRecords id 1 2 [1, 0, 0, 1, 0, 1, 0, 4] (Ipfix.World.new id IERegistry.new 600)).2

/-- A NetFlow v9 parser that has been sent the same. -/
def NetflowV9.World.oneTemplate : NetflowV9.World :=
  (NetflowV9.parseRecords id 1 0 [1, 0, 0, 1, 0, 1, 0, 4]
    (NetflowV9.World.new id IERegistry.new 600)).2

theorem oneTemplate_reads_latest :
    Ipfix.ReadsLatest id 600 Ipfix.World.oneTemplate 1 256 [0, 0, 0, 7] ∧
      NetflowV9.ReadsLatest id 600 NetflowV9.World.oneTemplate 1 256 [0, 0, 0, 7] := by
  have journal : Ipfix.World.oneTemplate.journal =
      [.define ⟨.data, (1, 256), [.iana 1 4], 2, true, false⟩] := by rfl
  have journal' : NetflowV9.World.oneTemplate.journal =
      [.define ⟨.data, (1, 256), [⟨1, 4⟩], 2, true, false⟩] := by rfl
  have runs := uncrossed_runs_read_latest id monotone_id IERegistry.new 600
  refine ⟨runs.1 _ (.set 1 2 _ .new) 1 256 ?_ _, runs.2 _ (.flowSet 1 0 _ .new) 1 256 ?_ _⟩
  · intro definition mem _
    rw [show (Ipfix.parseRecords id 1 2 _ _).2.journal = _ from journal, List.mem_singleton] at mem
    cases mem
    rfl
  · intro definition mem _
    rw [show (NetflowV9.parseRecords id 1 0 _ _).2.journal = _ from journal',
      List.mem_singleton] at mem
    cases mem
    rfl

/-- Records of which every one is of a kind are not one record that is not. -/
theorem records_not_all {F A R : Type} (isKind : R → Bool) {wrap : A → R}
    (all : ∀ a, isKind (wrap a) = true) {fields : List F} {input : List UInt8} {ticks : Nat}
    {read : Option (List UInt8 × List A) × Nat}
    (one : (if fields = [] then (some (input, []), ticks)
      else (read.1.map fun r => (r.1, r.2.map wrap), read.2)).1.map (fun r => r.2.map isKind) =
        some [false]) :
    False := by
  by_cases empty : fields = []
  · rw [if_pos empty] at one
    simp at one
  · rw [if_neg empty] at one
    obtain ⟨_ | ⟨rest, records⟩, _⟩ := read
    · simp at one
    · cases records <;> simp [all] at one

/-- The record was read with an options template. -/
def Ipfix.Record.isOptions : Ipfix.Record → Bool
  | .optionsData _ => true
  | _ => false

/-- The record was read with an options template. -/
def NetflowV9.Record.isOptions : NetflowV9.Record → Bool
  | .optionsData _ => true
  | _ => false

/-- An IPFIX parser after two messages: data template 256 of four bytes, and options template 256 of
two. -/
def Ipfix.World.crossedTemplates : Ipfix.World :=
  Ipfix.World.run id (Ipfix.World.new id IERegistry.new 600) [
    [0, 10, 0, 28, 0, 0, 0, 0, 0, 0, 0, 0, 0, 0, 0, 1, 0, 2, 0, 12, 1, 0, 0, 1, 0, 1, 0, 4],
    [0, 10, 0, 30, 0, 0, 0, 0, 0, 0, 0, 0, 0, 0, 0, 1, 0, 3, 0, 14, 1, 0, 0, 1, 0, 1, 0, 2, 0, 2]]

/-- A NetFlow v9 parser after the same. -/
def NetflowV9.World.crossedTemplates : NetflowV9.World :=
  NetflowV9.World.run id (NetflowV9.World.new id IERegistry.new 600) [
    [0, 9, 0, 1, 0, 0, 0, 0, 0, 0, 0, 0, 0, 0, 0, 0, 0, 0, 0, 1, 0, 0, 0, 12, 1, 0, 0, 1,
      0, 1, 0, 4],
    [0, 9, 0, 1, 0, 0, 0, 0, 0, 0, 0, 0, 0, 0, 0, 0, 0, 0, 0, 1, 0, 1, 0, 14, 1, 0, 0, 4, 0, 0,
      0, 1, 0, 2]]

/-- Redefined as an options template, 256 is still read as the data template it was. -/
theorem crossed_runs_read_stale :
    (∃ w, Ipfix.Reachable id IERegistry.new 600 w ∧
      ¬ Ipfix.ReadsLatest id 600 w 1 256 [0, 0, 0, 7]) ∧
      ∃ w, NetflowV9.Reachable id IERegistry.new 600 w ∧
      ¬ NetflowV9.ReadsLatest id 600 w 1 256 [0, 0, 0, 7] := by
  constructor
  · refine ⟨Ipfix.World.crossedTemplates, Ipfix.reachable_run _, fun reads => ?_⟩
    have redefined : definitionInForce id 600 Ipfix.World.crossedTemplates.ticks
        Ipfix.World.crossedTemplates.journal (1, 256) = some ⟨.options, (1, 256), [.iana 2 2], 3,
          true, true⟩ := by rfl
    have asData : (Ipfix.parseDataSet id Ipfix.World.crossedTemplates.parser 1 256 [0, 0, 0, 7]
        Ipfix.World.crossedTemplates.ticks).1.map (fun r => r.2.map Ipfix.Record.isOptions) =
          some [false] := by rfl
    rw [Ipfix.ReadsLatest, redefined] at reads
    obtain ⟨fields, ticks, _, run⟩ := reads
    rw [run] at asData
    exact records_not_all Ipfix.Record.isOptions (fun _ => rfl) asData
  · refine ⟨NetflowV9.World.crossedTemplates, NetflowV9.reachable_run _, fun reads => ?_⟩
    have redefined : definitionInForce id 600 NetflowV9.World.crossedTemplates.ticks
        NetflowV9.World.crossedTemplates.journal (1, 256) =
          some ⟨.options, (1, 256), [⟨1, 2⟩], 3, true, true⟩ := by rfl
    have asData :
        (NetflowV9.parseTemplatedRecords id NetflowV9.World.crossedTemplates.parser 1 256
          [0, 0, 0, 7]
        NetflowV9.World.crossedTemplates.ticks).1.map
          (fun r => r.2.map NetflowV9.Record.isOptions) = some [false] := by
      rfl
    rw [NetflowV9.ReadsLatest, redefined] at reads
    obtain ⟨fields, ticks, _, run⟩ := reads
    rw [run] at asData
    exact records_not_all NetflowV9.Record.isOptions (fun _ => rfl) asData

end Rustflow
