import Rustflow.Collect.Enrichment
import Rustflow.Lib.Writes

/-!
# Enrichment mapping by mapping

The engine looks up the mappings of a source that have the same keys at once. What comes out is what
the mappings give one at a time, with those of the same keys right after the first of them.
-/

namespace Rustflow.Collect

/-- A mapping with the table it reads. -/
structure Mapped where
  columns : List (List Char)
  source : Source
  mapping : FieldMapping

/-- What the row of a flow has in the mapping's column. -/
def Mapped.value (flow : CommonFlow) (self : Mapped) : Option String := do
  let keys ← self.mapping.keys.mapM fun key => key.extract flow
  let row ← self.source keys
  ((self.columns.zip row).lookup self.mapping.sourceColumn).join

def Mapped.put (flow : CommonFlow) (output : List Char → Option String) (self : Mapped) :
    List Char → Option String :=
  match self.value flow with
  | some value => Function.update output self.mapping.outputField (some value)
  | none => output

/-- The output fields after mappings that are taken one at a time. -/
def oneByOne (flow : CommonFlow) (mapped : List Mapped) : List Char → Option String :=
  mapped.foldl (Mapped.put flow) fun _ => none

/-- The mappings config by config, in an order of those of one. -/
def mappedIn (order : List FieldMapping → List FieldMapping)
    (tables : List (EnrichmentConfig × Source)) : List Mapped :=
  tables.flatMap fun (config, source) => (order config.mappings).map fun mapping =>
    ⟨config.columns, source, mapping⟩

def asWritten : List (EnrichmentConfig × Source) → List Mapped := mappedIn id

def byKeys : List (EnrichmentConfig × Source) → List Mapped :=
  mappedIn (Grouping.grouped FieldMapping.keys)

/-! ### Adding -/

variable {E : Type}

/-- The engine after configs, each with how its table loaded. -/
def engineOf (adds : List (EnrichmentConfig × Except E Nat)) : EnrichmentEngine :=
  adds.foldl (fun engine (config, loaded) => (engine.add config loaded).2) EnrichmentEngine.new

def loadedConfigs (adds : List (EnrichmentConfig × Except E Nat)) : List EnrichmentConfig :=
  adds.filterMap fun (config, loaded) => loaded.toOption.map fun _ => config

/-- Where a mapping's value is and where it goes, with its keys. -/
def fieldOf (outputFields : List (List Char)) (columns : List (List Char))
    (mapping : FieldMapping) :
    List LookupKey × (Nat × Nat) :=
  (mapping.keys, columns.idxOf mapping.sourceColumn, outputFields.idxOf mapping.outputField)

def groupsOf (outputFields : List (List Char)) (config : EnrichmentConfig) : List Group :=
  (config.mappings.map (fieldOf outputFields config.columns)).foldl Grouping.push []

/-- The groups of the configs, by the positions of their output fields. -/
structure Grouped (configs : List EnrichmentConfig) (engine : EnrichmentEngine) : Prop where
  lookups : engine.lookups = configs.map (groupsOf engine.outputFields)
  outputs : ∀ config ∈ configs, ∀ mapping ∈ config.mappings, mapping.outputField ∈
    engine.outputFields

open EnrichmentEngine

theorem idxOf_of_more {names more : List (List Char)} (first : names <+: more) {name : List Char}
    (mem : name ∈ names) :
    more.idxOf name = names.idxOf name := by
  obtain ⟨rest, rfl⟩ := first
  exact List.idxOf_append_of_mem mem

theorem outputIndex_spec (names : List (List Char)) (name : List Char) :
    names <+: (outputIndex names name).2 ∧ name ∈ (outputIndex names name).2 ∧
      (outputIndex names name).1 = (outputIndex names name).2.idxOf name := by
  unfold outputIndex
  by_cases known : name ∈ names
  · rw [if_pos known]
    exact ⟨List.prefix_rfl, known, rfl⟩
  · rw [if_neg known]
    refine ⟨List.prefix_append _ _, by simp, ?_⟩
    rw [List.idxOf_append_of_notMem known, List.idxOf_cons_self]
    rfl

theorem fieldOf_of_more {names more columns : List (List Char)} (first : names <+: more)
    {mappings : List FieldMapping} (outputs : ∀ mapping ∈ mappings, mapping.outputField ∈ names) :
    mappings.map (fieldOf more columns) = mappings.map (fieldOf names columns) := by
  refine List.map_congr_left fun mapping mem => ?_
  unfold fieldOf
  rw [idxOf_of_more first (outputs mapping mem)]

theorem addMappings_spec (names columns : List (List Char)) (mappings : List FieldMapping) :
    names <+: (mappings.foldl (addMapping columns) (names, [])).1 ∧
      (∀ mapping ∈ mappings, mapping.outputField ∈
        (mappings.foldl (addMapping columns) (names, [])).1) ∧
      (mappings.foldl (addMapping columns) (names, [])).2 =
        (mappings.map (fieldOf (mappings.foldl (addMapping columns) (names, [])).1 columns)).foldl
          Grouping.push [] := by
  induction mappings using List.reverseRecOn with
  | nil => exact ⟨List.prefix_rfl, nofun, rfl⟩
  | append_singleton mappings last ih =>
    obtain ⟨first, outputs, groups⟩ := ih
    rw [List.foldl_append, List.foldl_cons, List.foldl_nil]
    generalize mappings.foldl (addMapping columns) (names, []) = state at first outputs groups
    obtain ⟨more, mem, index⟩ := outputIndex_spec state.1 last.outputField
    refine ⟨first.trans more, fun mapping there => ?_, ?_⟩
    · obtain there | there := List.mem_append.mp there
      · exact more.subset (outputs mapping there)
      · rw [List.mem_singleton.mp there]
        exact mem
    · show Grouping.push state.2 (last.keys, columns.idxOf last.sourceColumn,
        (outputIndex state.1 last.outputField).1) = _
      rw [List.map_append, List.foldl_append, groups, index]
      show _ =
        Grouping.push
          ((mappings.map (fieldOf (outputIndex state.1 last.outputField).2 columns)).foldl
            Grouping.push []) _
      rw [fieldOf_of_more more outputs]
      rfl

theorem Grouped.add {configs : List EnrichmentConfig} {engine : EnrichmentEngine}
    (grouped : Grouped configs engine) (config : EnrichmentConfig) (loaded : Except E Nat) :
    Grouped (configs ++ (loaded.toOption.map fun _ => config).toList)
      (engine.add config loaded).2 := by
  obtain ⟨more, outputs, groups⟩ :=
    addMappings_spec engine.outputFields config.columns config.mappings
  have older :
      configs.map
        (groupsOf (config.mappings.foldl (addMapping config.columns) (engine.outputFields, [])).1) =
      engine.lookups := by
    rw [grouped.lookups]
    refine List.map_congr_left fun other mem => ?_
    unfold groupsOf
    rw [fieldOf_of_more more (grouped.outputs other mem)]
  have known : ∀ other ∈ configs, ∀ mapping ∈ other.mappings,
      mapping.outputField ∈
        (config.mappings.foldl (addMapping config.columns) (engine.outputFields, [])).1 :=
    fun other mem mapping there => more.subset (grouped.outputs other mem mapping there)
  cases loaded with
  | error e =>
    show Grouped (configs ++ []) _
    rw [List.append_nil]
    exact ⟨older.symm, known⟩
  | ok rows =>
    constructor
    · show engine.lookups ++ [_] = _
      rw [List.map_append, ← older, groups]
      rfl
    · intro other mem
      obtain mem | mem := List.mem_append.mp mem
      · exact known other mem
      · rw [List.mem_singleton.mp mem]
        exact outputs

theorem grouped_engineOf (adds : List (EnrichmentConfig × Except E Nat)) :
    Grouped (loadedConfigs adds) (engineOf adds) := by
  induction adds using List.reverseRecOn with
  | nil => exact ⟨rfl, nofun⟩
  | append_singleton adds last ih =>
    obtain ⟨config, loaded⟩ := last
    have stepped := ih.add config loaded
    unfold loadedConfigs engineOf
    rw [List.filterMap_append, List.foldl_append]
    cases loaded <;> exact stepped

/-! ### Enriching -/

/-- Each output field has its value, where the field is. -/
structure Shows (outputFields : List (List Char)) (out : Enriched)
    (output : List Char → Option String) : Prop where
  length : out.length = outputFields.length
  values : ∀ field ∈ outputFields, out[outputFields.idxOf field]? = some (output field)

theorem lookup_zip {columns : List (List Char)} (row : Row) {column : List Char}
    (mem : column ∈ columns) :
    (columns.zip row).lookup column = row[columns.idxOf column]? := by
  induction columns generalizing row with
  | nil => cases mem
  | cons c columns ih =>
    cases row with
    | nil => rfl
    | cons value row =>
      rw [List.zip_cons_cons, List.lookup_cons, List.idxOf_cons]
      by_cases here : column = c
      · simp [here]
      · have mem : column ∈ columns := (List.mem_cons.mp mem).resolve_left here
        have other : (column == c) = false := beq_false_of_ne here
        have other' : (c == column) = false := beq_false_of_ne (Ne.symm here)
        rw [other, other', ih row mem]
        rfl

variable {outputFields : List (List Char)} {out : Enriched} {output : List Char → Option String}
  {flow : CommonFlow}

theorem Shows.set (shown : Shows outputFields out output) {field : List Char}
    (mem : field ∈ outputFields) (value : Option String) :
    Shows outputFields (out.set (outputFields.idxOf field) value)
      (Function.update output field value) := by
  refine ⟨by rw [List.length_set, shown.length], fun other mem' => ?_⟩
  by_cases same : other = field
  · subst same
    have bound : outputFields.idxOf other < out.length := by
      rw [shown.length]
      exact List.idxOf_lt_length_iff.mpr mem
    rw [List.getElem?_set_self bound, Function.update_self]
  · have apart : outputFields.idxOf field ≠ outputFields.idxOf other :=
      fun at_ => same ((List.idxOf_inj mem).mp at_).symm
    rw [List.getElem?_set_ne apart, Function.update_of_ne same]
    exact shown.values other mem'

theorem value_eq {columns : List (List Char)} {source : Source} {mapping : FieldMapping}
    (read : mapping.sourceColumn ∈ columns) :
    Mapped.value flow ⟨columns, source, mapping⟩ =
      ((mapping.keys.mapM fun key : LookupKey => key.extract flow).bind source).bind fun row =>
        row[columns.idxOf mapping.sourceColumn]?.join := by
  unfold Mapped.value
  dsimp only [Option.bind_eq_bind]
  rw [Option.bind_assoc]
  simp only [lookup_zip _ read]

/-- One lookup for mappings of the same keys does what a lookup for each does. -/
theorem Shows.enrichGroup (shown : Shows outputFields out output) {columns : List (List Char)}
    {source : Source} {keys : List LookupKey} {mappings : List FieldMapping}
    (keyed : ∀ mapping ∈ mappings, mapping.keys = keys)
    (read : ∀ mapping ∈ mappings, mapping.sourceColumn ∈ columns)
    (outputs : ∀ mapping ∈ mappings, mapping.outputField ∈ outputFields) :
    Shows outputFields
      (EnrichmentEngine.enrichGroup source flow out (keys, mappings.map fun mapping =>
        (fieldOf outputFields columns mapping).2))
      ((mappings.map fun mapping => (⟨columns, source, mapping⟩ : Mapped)).foldl
        (Mapped.put flow) output) := by
  unfold EnrichmentEngine.enrichGroup
  dsimp only
  cases found : (keys.mapM fun key : LookupKey => key.extract flow).bind source with
  | none =>
    dsimp only
    induction mappings generalizing output with
    | nil => exact shown
    | cons mapping mappings ih =>
      have none : Mapped.value flow ⟨columns, source, mapping⟩ = none := by
        rw [value_eq (read mapping List.mem_cons_self), keyed mapping List.mem_cons_self, found]
        rfl
      rw [List.map_cons, List.foldl_cons, Mapped.put, none]
      exact ih shown (fun other mem => keyed other (List.mem_cons_of_mem _ mem))
        (fun other mem => read other (List.mem_cons_of_mem _ mem)) fun other mem =>
          outputs other (List.mem_cons_of_mem _ mem)
  | some row =>
    dsimp only
    induction mappings generalizing out output with
    | nil => exact shown
    | cons mapping mappings ih =>
      have value : Mapped.value flow ⟨columns, source, mapping⟩ =
          row[columns.idxOf mapping.sourceColumn]?.join := by
        rw [value_eq (read mapping List.mem_cons_self), keyed mapping List.mem_cons_self, found]
        rfl
      rw [List.map_cons, List.foldl_cons, List.map_cons, List.foldl_cons]
      refine ih ?_ (fun other mem => keyed other (List.mem_cons_of_mem _ mem))
        (fun other mem => read other (List.mem_cons_of_mem _ mem)) fun other mem =>
          outputs other (List.mem_cons_of_mem _ mem)
      unfold putValue Mapped.put
      rw [value]
      dsimp only [fieldOf]
      cases row[columns.idxOf mapping.sourceColumn]?.join with
      | none => exact shown
      | some v => exact shown.set (outputs mapping List.mem_cons_self) (some v)

theorem groupsOf_eq (outputFields : List (List Char)) (config : EnrichmentConfig) :
    groupsOf outputFields config =
      (Grouping.keysOf FieldMapping.keys config.mappings).map fun keys =>
        (keys, (config.mappings.filter fun mapping => mapping.keys = keys).map fun mapping =>
          (fieldOf outputFields config.columns mapping).2) := by
  unfold groupsOf
  rw [Grouping.foldl_push, Grouping.keysOf, List.map_map]
  refine List.map_congr_left fun keys _ => ?_
  rw [List.filter_map, List.map_map]
  rfl

theorem Shows.enrichGroups (shown : Shows outputFields out output) {config : EnrichmentConfig}
    (source : Source) (outputs : ∀ mapping ∈ config.mappings, mapping.outputField ∈ outputFields) :
    Shows outputFields ((groupsOf outputFields config).foldl
      (EnrichmentEngine.enrichGroup source flow) out)
      (((Grouping.grouped FieldMapping.keys config.mappings).map fun mapping =>
        (⟨config.columns, source, mapping⟩ : Mapped)).foldl (Mapped.put flow) output) := by
  rw [groupsOf_eq, Grouping.grouped, List.map_flatMap, List.foldl_flatMap, List.foldl_map]
  generalize Grouping.keysOf FieldMapping.keys config.mappings = groups
  induction groups generalizing out output with
  | nil => exact shown
  | cons keys groups ih =>
    rw [List.foldl_cons, List.foldl_cons]
    refine ih (shown.enrichGroup ?_ ?_ ?_)
    · intro mapping mem
      exact of_decide_eq_true (List.mem_filter.mp mem).2
    · intro mapping mem
      exact config.read mapping (List.mem_filter.mp mem).1
    · intro mapping mem
      exact outputs mapping (List.mem_filter.mp mem).1

theorem Shows.enrichTables (shown : Shows outputFields out output)
    {tables : List (EnrichmentConfig × Source)}
    (outputs : ∀ table ∈ tables, ∀ mapping ∈ table.1.mappings, mapping.outputField ∈ outputFields) :
    Shows outputFields
      ((tables.map fun table => (groupsOf outputFields table.1, table.2)).foldl
        (fun out (groups, source) => groups.foldl (EnrichmentEngine.enrichGroup source flow) out)
        out)
      ((byKeys tables).foldl (Mapped.put flow) output) := by
  unfold byKeys mappedIn
  rw [List.foldl_flatMap, List.foldl_map]
  induction tables generalizing out output with
  | nil => exact shown
  | cons table tables ih =>
    rw [List.foldl_cons, List.foldl_cons]
    refine ih ?_ fun other mem => outputs other (List.mem_cons_of_mem _ mem)
    exact shown.enrichGroups table.2 (outputs table List.mem_cons_self)

/-- The mappings for an output field come in the order in which their keys first occur in the
config. -/
def InOrder (field : List Char) (config : EnrichmentConfig) : Prop :=
  ((config.mappings.filter fun mapping => mapping.outputField = field).map
    (Grouping.groupIndex FieldMapping.keys config.mappings)).Pairwise (· ≤ ·)

/-- The last value counts that a mapping for the field has. -/
theorem oneByOne_eq (flow : CommonFlow) (mapped : List Mapped) (field : List Char) :
    oneByOne flow mapped field =
      ((mapped.filter fun m => m.mapping.outputField = field).filterMap
        (Mapped.value flow)).getLast? := by
  have puts : ∀ (output : List Char → Option String) (m : Mapped) (field : List Char),
      Mapped.put flow output m field =
      (if m.mapping.outputField = field then (m.value flow).map some else none).getD
        (output field) := by
    intro output m field
    unfold Mapped.put
    cases m.value flow with
    | none => split <;> rfl
    | some value =>
      by_cases same : m.mapping.outputField = field
      · rw [if_pos same, ← same]
        exact Function.update_self ..
      · rw [if_neg same]
        exact Function.update_of_ne (Ne.symm same) ..
  have written : (mapped.filterMap fun m => if m.mapping.outputField = field then
      (m.value flow).map some else none) =
      ((mapped.filter fun m => m.mapping.outputField = field).filterMap (Mapped.value flow)).map
        some := by
    rw [List.map_filterMap, List.filterMap_filter]
    simp only [decide_eq_true_eq]
  have last :=
    Writes.foldl_last (r := fun (output : List Char → Option String) field =>
      output field) puts mapped
    (fun _ => none) field
  refine last.trans ?_
  rw [written, List.getLast?_map]
  cases ((mapped.filter fun m => m.mapping.outputField = field).filterMap
    (Mapped.value flow)).getLast? <;> rfl

theorem oneByOne_inOrder (flow : CommonFlow) {tables : List (EnrichmentConfig × Source)}
    {field : List Char} (inOrder : ∀ table ∈ tables, InOrder field table.1) :
    oneByOne flow (byKeys tables) field = oneByOne flow (asWritten tables) field := by
  rw [oneByOne_eq, oneByOne_eq]
  unfold byKeys asWritten mappedIn
  rw [List.filter_flatMap, List.filter_flatMap]
  refine congrArg (fun mapped => (mapped.filterMap (Mapped.value flow)).getLast?)
    (List.flatMap_congr fun table mem => ?_)
  have same :
      (Grouping.grouped FieldMapping.keys table.1.mappings).filter
        (fun mapping => mapping.outputField = field) =
      table.1.mappings.filter fun mapping => mapping.outputField = field :=
    Grouping.filter_grouped (inOrder table mem)
  rw [List.filter_map, List.filter_map]
  exact congrArg _ same

/-- Each output field has what the mappings give one at a time, config by config and in each config
those of the same keys together. Where the keys of the mappings for a field are in order, this is
the order written. -/
theorem enrich_byKeys (adds : List (EnrichmentConfig × Except E Nat)) (sources : List Source)
    (flow : CommonFlow) {out : Enriched} (room : out.length = (engineOf adds).outputFields.length) :
    Shows (engineOf adds).outputFields ((engineOf adds).enrich sources flow out)
        (oneByOne flow (byKeys ((loadedConfigs adds).zip sources))) ∧
      ∀ field, (∀ config ∈ loadedConfigs adds, InOrder field config) →
        oneByOne flow (byKeys ((loadedConfigs adds).zip sources)) field =
          oneByOne flow (asWritten ((loadedConfigs adds).zip sources)) field := by
  obtain ⟨lookups, outputs⟩ := grouped_engineOf adds
  constructor
  · have blank : Shows (engineOf adds).outputFields (out.map fun _ => none) fun _ => none := by
      refine ⟨by rw [List.length_map, room], fun field mem => ?_⟩
      have bound : (engineOf adds).outputFields.idxOf field < out.length := by
        rw [room]
        exact List.idxOf_lt_length_iff.mpr mem
      rw [List.getElem?_map, List.getElem?_eq_getElem bound]
      rfl
    unfold EnrichmentEngine.enrich
    rw [lookups, List.zip_map_left]
    exact blank.enrichTables fun table mem => outputs table.1 (List.of_mem_zip mem).1
  · intro field inOrder
    exact oneByOne_inOrder flow fun table mem => inOrder table.1 (List.of_mem_zip mem).1

/-- Source and destination are looked up for one field, and then the source again. -/
def sourceAgain : List Char := "src_addr@a:x;dst_addr@b:x;src_addr@c:x".toList

def sourceAgainConfig : EnrichmentConfig where
  columns := [['a'], ['b'], ['c']]
  mappings := [⟨[⟨.srcAddr, rfl⟩], ['a'], ['x']⟩, ⟨[⟨.dstAddr, rfl⟩], ['b'], ['x']⟩,
    ⟨[⟨.srcAddr, rfl⟩], ['c'], ['x']⟩]
  read := by decide
  few := by decide

def twoRows : Source := fun keys =>
  if keys = [.ip (.v4 1)] then some [some "A", none, some "C"]
  else if keys = [.ip (.v4 2)] then some [none, some "B", none]
  else none

def oneToTwo : CommonFlow :=
  { CommonFlow.new .ipfix with srcAddr := some (.v4 1), dstAddr := some (.v4 2) }

theorem sourceAgain_enriched :
    Shows [['x']] ((engineOf [(sourceAgainConfig, (.ok 2 : Except ConfigError Nat))]).enrich
      [twoRows] oneToTwo [none])
      (oneByOne oneToTwo (byKeys [(sourceAgainConfig, twoRows)])) :=
  (enrich_byKeys [(sourceAgainConfig, (.ok 2 : Except ConfigError Nat))] [twoRows] oneToTwo  rfl).1

/-- The destination's value stands, though the source's is written after it. -/
theorem sourceAgain_swapped :
    ¬∀ (adds : List (EnrichmentConfig × Except ConfigError Nat)) (sources : List Source)
      (flow : CommonFlow) (out : Enriched),
      (∀ add ∈ adds, ∃ fields, parseEnrichFields fields = .ok add.1) →
        out.length = (engineOf adds).outputFields.length →
          Shows (engineOf adds).outputFields ((engineOf adds).enrich sources flow out)
            (oneByOne flow (asWritten ((loadedConfigs adds).zip sources))) := by
  intro inOrder
  have parsed : parseEnrichFields sourceAgain = .ok sourceAgainConfig := rfl
  have shown := inOrder [(sourceAgainConfig, .ok 2)] [twoRows] oneToTwo [none]
    (fun add mem => ⟨sourceAgain, List.mem_singleton.mp mem ▸ parsed⟩) rfl
  exact absurd (shown.values ['x'] (by decide)) (by decide)

end Rustflow.Collect
