import Rustflow.Collect.EnrichArg
import Rustflow.Collect.GroupedEnrichment
import Rustflow.Lib.Checked

/-!
# Enrichment without a panic

The engine indexes rows and output by positions it computed from the arguments. With rows of the
source's columns it never leaves them, and the keys of a group have room.
-/

namespace Rustflow.Collect
open Checked EnrichmentEngine

/-! ### The engine with its checks -/

/-- `Schema::row` asserts that there is a value for each column. -/
def schemaRow (columns : List (List Char)) (values : List (Option String)) : Checked Row := do
  assert (values.length = columns.length)
  return values

/-- Every row of the table was built for the columns. -/
def BuiltFor (columns : List (List Char)) (source : Source) : Prop :=
  ∀ keys row, source keys = some row → ∃ values, schemaRow columns values = .ok row

def addMappingChecked (columns : List (List Char)) (state : List (List Char) × List Group)
    (mapping : FieldMapping) :
    Checked (List (List Char) × List Group) := do
  let (output, outputFields) := outputIndex state.1 mapping.outputField
  let column ← expect (columns.findIdx? (· = mapping.sourceColumn))
  return (outputFields, Grouping.push state.2 (mapping.keys, (column, output)))

variable {E : Type}

def addChecked (self : EnrichmentEngine) (config : EnrichmentConfig) (loaded : Except E Nat) :
    Checked (Except E Nat × EnrichmentEngine) := do
  let (outputFields, groups) ← config.mappings.foldlM (addMappingChecked
      config.columns) (self.outputFields, [])
  match loaded with
  | .error e => return (.error e, { self with outputFields })
  | .ok rows => return (.ok rows, { lookups := self.lookups ++ [groups], outputFields })

def engineOfChecked (adds : List (EnrichmentConfig × Except E Nat)) : Checked EnrichmentEngine :=
  adds.foldlM (fun engine (config, loaded) => do return (← addChecked engine config loaded).2)
    EnrichmentEngine.new

/-- The keys are collected into a vector of a fixed capacity, up to the first that the flow does not
have. -/
def collectKeys (flow : CommonFlow) : List LookupKey → List Key → Checked (Option (List Key))
  | [], collected => return some collected
  | key :: keys, collected => do
    match key.extract flow with
    | some value => collectKeys flow keys (← push MAX_KEYS collected value)
    | none => return none

def putValueChecked (row : Row) (out : Enriched) (field : Nat × Nat) : Checked Enriched := do
  match ← index row field.1 with
  | some value => set out field.2 (some value)
  | none => return out

def enrichGroupChecked (source : Source) (flow : CommonFlow) (out : Enriched) (group : Group) :
    Checked Enriched := do
  match (← collectKeys flow group.1 []).bind source with
  | none => return out
  | some row => group.2.foldlM (putValueChecked row) out

def enrichChecked (self : EnrichmentEngine) (sources : List Source) (flow : CommonFlow)
    (out : Enriched) : Checked Enriched :=
  (self.lookups.zip sources).foldlM (fun out (groups, source) =>
    groups.foldlM (enrichGroupChecked source flow) out)
    (out.map fun _ => none)

/-! ### Adding -/

theorem findIdx?_eq_idxOf {columns : List (List Char)} {column : List Char}
    (mem : column ∈ columns) :
    columns.findIdx? (· = column) = some (columns.idxOf column) := by
  rw [List.findIdx?_eq_some_iff_findIdx_eq]
  refine ⟨List.idxOf_lt_length_iff.mpr mem, congrArg (List.findIdx · columns) (funext fun c => ?_)⟩
  rw [Bool.eq_iff_iff, decide_eq_true_eq, beq_iff_eq]

theorem addChecked_eq (self : EnrichmentEngine) (config : EnrichmentConfig)
    (loaded : Except E Nat) :
    addChecked self config loaded = .ok (self.add config loaded) := by
  have mappings :
      config.mappings.foldlM (addMappingChecked config.columns) (self.outputFields, []) =
      .ok (config.mappings.foldl (addMapping config.columns) (self.outputFields, [])) := by
    refine (foldlM_eq (fun _ => True) (fun state _ mapping mem => ⟨?_, trivial⟩) trivial).1
    unfold addMappingChecked
    rw [findIdx?_eq_idxOf (config.read mapping mem)]
    rfl
  unfold addChecked
  rw [mappings]
  cases loaded <;> rfl

theorem engineOfChecked_eq (adds : List (EnrichmentConfig × Except E Nat)) :
    engineOfChecked adds = .ok (engineOf adds) := by
  refine (foldlM_eq (fun _ => True) (fun engine _ add _ => ⟨?_, trivial⟩) trivial).1
  obtain ⟨config, loaded⟩ := add
  dsimp only
  rw [addChecked_eq]
  rfl

theorem nodup_outputIndex {outputFields : List (List Char)} (nodup : outputFields.Nodup)
    (name : List Char) :
    (outputIndex outputFields name).2.Nodup := by
  unfold outputIndex
  split
  · exact nodup
  · next fresh => exact List.nodup_append.mpr ⟨nodup, List.nodup_singleton name, by grind⟩

theorem nodup_addMappings (columns : List (List Char)) (mappings : List FieldMapping)
    {state : List (List Char) × List Group} (nodup : state.1.Nodup) :
    (mappings.foldl (addMapping columns) state).1.Nodup := by
  induction mappings generalizing state with
  | nil => exact nodup
  | cons mapping mappings ih => exact ih (nodup_outputIndex nodup mapping.outputField)

theorem nodup_outputFields (adds : List (EnrichmentConfig × Except E Nat)) :
    (engineOf adds).outputFields.Nodup := by
  induction adds using List.reverseRecOn with
  | nil => exact List.nodup_nil
  | append_singleton adds last ih =>
    obtain ⟨config, loaded⟩ := last
    unfold engineOf at ih ⊢
    rw [List.foldl_append, List.foldl_cons, List.foldl_nil]
    generalize adds.foldl _ EnrichmentEngine.new = engine at ih ⊢
    have nodup := @nodup_addMappings config.columns config.mappings (engine.outputFields, []) ih
    unfold EnrichmentEngine.add
    cases loaded <;> exact nodup

/-! ### Enriching -/

theorem length_of_builtFor {columns : List (List Char)} {source : Source}
    (built : BuiltFor columns source) {keys : List Key} {row : Row}
    (found : source keys = some row) : row.length = columns.length := by
  obtain ⟨values, made⟩ := built keys row found
  obtain ⟨length, same⟩ := assert_bind_eq_ok.mp made
  cases same
  exact of_decide_eq_true length

/-- The keys have room, and the columns and outputs are there. -/
structure Group.InRange (columns : Nat) (outputs : Nat) (group : Group) : Prop where
  keys : group.1.length ≤ MAX_KEYS
  column : ∀ field ∈ group.2, field.1 < columns
  output : ∀ field ∈ group.2, field.2 < outputs

theorem groupsOf_inRange {outputFields : List (List Char)} {config : EnrichmentConfig}
    (outputs : ∀ mapping ∈ config.mappings, mapping.outputField ∈ outputFields) :
    ∀ group ∈ groupsOf outputFields config,
      group.InRange config.columns.length outputFields.length := by
  intro group mem
  rw [groupsOf_eq] at mem
  obtain ⟨keys, known, rfl⟩ := List.mem_map.mp mem
  obtain ⟨mapping, there, rfl⟩ := Grouping.mem_keysOf.mp known
  have ofMapping :
      ∀ field ∈ (config.mappings.filter fun other => other.keys = mapping.keys).map fun other =>
      (fieldOf outputFields config.columns other).2, ∃ other ∈ config.mappings,
        field = (config.columns.idxOf other.sourceColumn,
          outputFields.idxOf other.outputField) := by
    intro field mem
    obtain ⟨other, among, rfl⟩ := List.mem_map.mp mem
    exact ⟨other, (List.mem_filter.mp among).1, rfl⟩
  refine ⟨config.few mapping there, fun field mem => ?_, fun field mem => ?_⟩
  · obtain ⟨other, among, rfl⟩ := ofMapping field mem
    exact List.idxOf_lt_length_iff.mpr (config.read other among)
  · obtain ⟨other, among, rfl⟩ := ofMapping field mem
    exact List.idxOf_lt_length_iff.mpr (outputs other among)

theorem collectKeys_eq {flow : CommonFlow} {keys : List LookupKey} {collected : List Key}
    (room : collected.length + keys.length ≤ MAX_KEYS) :
    collectKeys flow keys collected =
      .ok ((keys.mapM fun key : LookupKey => key.extract flow).map (collected ++ ·)) := by
  induction keys generalizing collected with
  | nil =>
    rw [List.mapM_nil]
    simp [collectKeys]
    rfl
  | cons key keys ih =>
    rw [List.mapM_cons, collectKeys]
    rw [List.length_cons] at room
    cases key.extract flow with
    | none => rfl
    | some value =>
      dsimp only
      rw [push_of_lt (by omega), ok_bind,
        ih (by rw [List.length_append, List.length_singleton]; omega)]
      cases keys.mapM fun key : LookupKey => key.extract flow with
      | none => rfl
      | some values => simp

variable {flow : CommonFlow} {out : Enriched} {outputs : Nat} {columns : List (List Char)}
  {source : Source}

theorem putValueChecked_eq {row : Row} {field : Nat × Nat} (column : field.1 < row.length)
    (output : field.2 < out.length) :
    putValueChecked row out field = .ok (putValue row out field) ∧ (putValue row out field).length =
      out.length := by
  unfold putValueChecked putValue
  rw [index_of_lt column, ok_bind, List.getElem?_eq_getElem column, Option.join_some]
  cases row[field.1] with
  | none => exact ⟨rfl, rfl⟩
  | some value => exact ⟨set_of_lt output _, List.length_set⟩

theorem enrichGroupChecked_eq (built : BuiltFor columns source) {group : Group}
    (inRange : group.InRange columns.length out.length) :
    enrichGroupChecked source flow out group = .ok (enrichGroup source flow out group) ∧
      (enrichGroup source flow out group).length = out.length := by
  have room : ([] : List Key).length + group.1.length ≤ MAX_KEYS := by
    rw [List.length_nil, Nat.zero_add]
    exact inRange.keys
  unfold enrichGroupChecked enrichGroup
  rw [collectKeys_eq room, ok_bind]
  simp only [List.nil_append, Option.map_id_fun', id_eq]
  cases found : (group.1.mapM fun key : LookupKey => key.extract flow).bind source with
  | none => exact ⟨rfl, rfl⟩
  | some row =>
    obtain ⟨keys, -, found⟩ := Option.bind_eq_some_iff.mp found
    have length := length_of_builtFor built found
    refine foldlM_eq (fun out' : Enriched => out'.length = out.length)
      (fun out' kept field mem => ?_) rfl
    obtain ⟨stored, same⟩ :=
      @putValueChecked_eq out' row field (by rw [length]; exact inRange.column field mem)
      (by rw [kept]; exact inRange.output field mem)
    exact ⟨stored, same.trans kept⟩

theorem enrichGroupsChecked_eq (built : BuiltFor columns source) {groups : List Group}
    (inRange : ∀ group ∈ groups, group.InRange columns.length out.length) :
    groups.foldlM (enrichGroupChecked source flow) out =
      .ok (groups.foldl (enrichGroup source flow) out) ∧
      (groups.foldl (enrichGroup source flow) out).length = out.length := by
  refine foldlM_eq (fun out' : Enriched => out'.length = out.length)
    (fun out' kept group mem => ?_) rfl
  obtain ⟨done, same⟩ :=
    @enrichGroupChecked_eq flow out' columns source built group (kept.symm ▸ inRange group mem)
  exact ⟨done, same.trans kept⟩

/-- The lookups are in range for the columns of their tables. -/
theorem enrichChecked_eq {configs : List EnrichmentConfig} {engine : EnrichmentEngine}
    (grouped : Grouped configs engine) {sources : List Source}
    (built : List.Forall₂ (fun config source => BuiltFor config.columns source) configs sources)
    (room : out.length = engine.outputFields.length) :
    enrichChecked engine sources flow out = .ok (engine.enrich sources flow out) := by
  unfold enrichChecked EnrichmentEngine.enrich
  rw [grouped.lookups, List.zip_map_left]
  refine (foldlM_eq (fun out' : Enriched => out'.length = engine.outputFields.length)
    (fun out' kept table mem => ?_) ?_).1
  · obtain ⟨⟨config, source⟩, there, rfl⟩ := List.mem_map.mp mem
    have outputs := grouped.outputs config (List.of_mem_zip there).1
    obtain ⟨done, same⟩ :=
      @enrichGroupsChecked_eq flow out' config.columns source
        ((List.forall₂_iff_zip.mp built).2 there)
      (groupsOf engine.outputFields config) (kept.symm ▸ groupsOf_inRange outputs)
    exact ⟨done, same.trans kept⟩
  · rw [List.length_map, room]

/-! ### Accepted arguments -/

/-- An argument that was accepted, with how its table loaded. -/
structure Added (E E' : Type) (parseDuration : List Char → Except String Duration)
    (absolute : List Char → Except E' (List Char)) where
  arg : List Char
  source : SourceConfig
  config : EnrichmentConfig
  accepted : parseEnrichArg parseDuration absolute arg = .ok (source, config)
  loaded : Except E Nat

variable {E' : Type} {parseDuration : List Char → Except String Duration}
  {absolute : List Char → Except E' (List Char)}

def Added.engine (added : List (Added E E' parseDuration absolute)) : EnrichmentEngine :=
  engineOf (added.map fun a => (a.config, a.loaded))

/-- Those whose tables the engine has. -/
def Added.stored (added : List (Added E E' parseDuration absolute)) :
    List (Added E E' parseDuration absolute) :=
  added.filter (·.loaded.toBool)

theorem Added.configs_stored (added : List (Added E E' parseDuration absolute)) :
    loadedConfigs (added.map fun a => (a.config, a.loaded)) =
      (Added.stored added).map (·.config) := by
  unfold loadedConfigs Added.stored
  induction added with
  | nil => rfl
  | cons a added ih =>
    rw [List.map_cons, List.filterMap_cons, List.filter_cons, ih]
    rcases a with ⟨_, _, _, _, _ | _⟩ <;> rfl

theorem Added.grouped (added : List (Added E E' parseDuration absolute)) :
    Grouped ((Added.stored added).map (·.config)) (Added.engine added) := by
  rw [← Added.configs_stored]
  exact grouped_engineOf _

theorem Added.columns_eq (a : Added E E' parseDuration absolute) :
    a.source.columns = a.config.columns :=
  parseEnrichArg_columns a.accepted

/-- Adding the configurations of accepted arguments and enriching by tables of their columns never
panics: the positions the engine has are in range, and no output field is there twice. -/
theorem enrichment_returns (added : List (Added E E' parseDuration absolute)) :
    engineOfChecked (added.map fun a => (a.config, a.loaded)) = .ok (Added.engine added) ∧
      (Added.engine added).outputFields.Nodup ∧
      List.Forall₂ (fun a groups => ∀ group ∈ groups,
        Group.InRange a.source.columns.length (Added.engine added).outputFields.length group)
        (Added.stored added) (Added.engine added).lookups ∧
      ∀ sources, List.Forall₂ (fun a source => BuiltFor a.source.columns source)
        (Added.stored added) sources →
        ∀ (flow : CommonFlow) (out : Enriched), out.length =
          (Added.engine added).outputFields.length →
          enrichChecked (Added.engine added) sources flow out =
            .ok ((Added.engine added).enrich sources flow out) := by
  have grouped := Added.grouped added
  refine ⟨engineOfChecked_eq _, nodup_outputFields _, ?_, fun sources built flow out room => ?_⟩
  · rw [grouped.lookups, List.map_map, List.forall₂_map_right_iff, List.forall₂_same]
    intro a mem group there
    rw [a.columns_eq]
    exact groupsOf_inRange (grouped.outputs a.config (List.mem_map_of_mem mem)) group there
  · refine enrichChecked_eq grouped ?_ room
    rw [List.forall₂_map_left_iff]
    simpa only [Added.columns_eq] using built

/-- Names of protocols by their numbers. -/
def protoNames : Added ConfigError ConfigError (fun _ => .error "") .ok where
  arg := "type=exact,source=/protos.csv,key_column=number,fields=proto@name:proto_name".toList
  source := ⟨.file "/protos.csv".toList, .csv ["number".toList] (.exact [.number]), .never,
    ["name".toList]⟩
  config := {
    columns := ["name".toList]
    mappings := [⟨[⟨.proto, rfl⟩], "name".toList, "proto_name".toList⟩]
    read := by decide
    few := by decide }
  accepted := rfl
  loaded := .ok 1

def tcpOnly : Source := fun keys => if keys = [.number 6] then some [some "tcp"] else none

set_option maxRecDepth 2000 in
/-- Names and owners of services by protocol and port, at either end of a flow. -/
def services : Added ConfigError ConfigError (fun _ => .error "") .ok where
  arg := "type=exact,source=/s.csv,key_column=proto+port,fields=".toList ++
    "proto+dst_port@name:dst_name|owner:dst_owner;proto+src_port@name:src_name".toList
  source :=
    ⟨.file "/s.csv".toList, .csv ["proto".toList, "port".toList] (.exact [.number, .number]),
    .never, ["name".toList, "owner".toList]⟩
  config := {
    columns := ["name".toList, "owner".toList]
    mappings := [
      ⟨[⟨.proto, rfl⟩, ⟨.dstPort, rfl⟩], "name".toList, "dst_name".toList⟩,
      ⟨[⟨.proto, rfl⟩, ⟨.dstPort, rfl⟩], "owner".toList, "dst_owner".toList⟩,
      ⟨[⟨.proto, rfl⟩, ⟨.srcPort, rfl⟩], "name".toList, "src_name".toList⟩]
    read := by decide
    few := by decide }
  accepted := rfl
  loaded := .ok 1

def httpsOnly : Source := fun keys =>
  if keys = [.number 6, .number 443] then some [some "https", some "web team"] else none

theorem protoNames_returns :
    enrichChecked (Added.engine [protoNames, services]) [tcpOnly, httpsOnly]
        { CommonFlow.new .ipfix with
          proto := some 6
          srcPort := some 50000
          dstPort := some 443 } (List.replicate 4 none) =
      .ok [some "tcp", some "https", some "web team", none] := by
  have built : BuiltFor protoNames.source.columns tcpOnly := by
    intro keys row found
    obtain ⟨_, same⟩ := Option.ite_none_right_eq_some.mp found
    cases same
    exact ⟨[some "tcp"], rfl⟩
  have built' : BuiltFor services.source.columns httpsOnly := by
    intro keys row found
    obtain ⟨_, same⟩ := Option.ite_none_right_eq_some.mp found
    cases same
    exact ⟨[some "https", some "web team"], rfl⟩
  exact (enrichment_returns [protoNames, services]).2.2.2 [tcpOnly, httpsOnly]
    (.cons built (.cons built' .nil)) _ _ rfl

end Rustflow.Collect
