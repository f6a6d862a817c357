import Rustflow.Common.FlowField
import Rustflow.Collect.Encoder
import Rustflow.Lib.Grouping
import Rustflow.Lib.Text

/-!
# Enrichment

`enrich/engine.rs` and the mappings of `enrich/config.rs` of the collector: which columns of a table
go to which output fields, and by which fields of a flow a row of the table is looked up.
-/

namespace Rustflow.Collect

/-- The most lookup keys one group may combine. -/
def MAX_KEYS : Nat := 4

inductive Key where
  | ip (addr : IpAddr)
  | number (n : UInt64)
  deriving DecidableEq

inductive KeyType where
  | ip | number
  deriving DecidableEq

structure ConfigError where
  message : String
  deriving DecidableEq

/-! ### Keys -/

/-- Flow types, times and MAC addresses are no keys. -/
def FlowField.keyType (field : FlowField) : Option KeyType :=
  match field.kind with
  | .flowType | .timestamp | .mac => none
  | .ip => some .ip
  | .u8 | .u16 | .u32 | .u64 => some .number

structure LookupKey where
  field : FlowField
  isKey : (FlowField.keyType field).isSome
  deriving DecidableEq

namespace LookupKey

def all : List LookupKey :=
  FlowField.all.filterMap fun field => if isKey : (FlowField.keyType field).isSome then
    some ⟨field, isKey⟩ else none

def name (self : LookupKey) : String := self.field.name

def keyType (self : LookupKey) : KeyType := (FlowField.keyType self.field).get self.isKey

def extract (self : LookupKey) (flow : CommonFlow) : Option Key :=
  let number8 (v : Option UInt8) : Option Key := v.map fun v => .number v.toUInt64
  let number16 (v : Option UInt16) : Option Key := v.map fun v => .number v.toUInt64
  let number32 (v : Option UInt32) : Option Key := v.map fun v => .number v.toUInt64
  match self.field with
  | .sequenceNum => number32 (some flow.sequenceNum)
  | .samplingRate => number32 flow.samplingRate
  | .samplerAddress => flow.samplerAddress.map .ip
  | .bytes => some (.number flow.bytes)
  | .packets => some (.number flow.packets)
  | .srcAddr => flow.srcAddr.map .ip
  | .dstAddr => flow.dstAddr.map .ip
  | .etype => number16 flow.etype
  | .proto => number8 flow.proto
  | .srcPort => number16 flow.srcPort
  | .dstPort => number16 flow.dstPort
  | .inIf => number32 flow.inIf
  | .outIf => number32 flow.outIf
  | .ipTos => number8 flow.ipTos
  | .ipTtl => number8 flow.ipTtl
  | .tcpFlags => number16 flow.tcpFlags
  | .icmpType => number8 flow.icmpType
  | .icmpCode => number8 flow.icmpCode
  | .ipv6FlowLabel => number32 flow.ipv6FlowLabel
  | .fragmentId => number32 flow.fragmentId
  | .fragmentOffset => number16 flow.fragmentOffset
  | .srcAs => number32 flow.srcAs
  | .dstAs => number32 flow.dstAs
  | .nextHop => flow.nextHop.map .ip
  | .srcNet => number8 flow.srcNet
  | .dstNet => number8 flow.dstNet
  | .bgpNextHop => flow.bgpNextHop.map .ip
  | .srcVlan => number16 flow.srcVlan
  | .dstVlan => number16 flow.dstVlan
  | .observationDomainId => number32 flow.observationDomainId
  | .templateId => number16 flow.templateId
  | .forwardingStatus => number32 flow.forwardingStatus
  | .flowType | .timeReceivedNs | .timeFlowStartNs | .timeFlowEndNs | .srcMac | .dstMac => none

def parse (value : List Char) : Except ConfigError LookupKey :=
  match all.find? fun key => key.name.toList = value with
  | some key => .ok key
  | none =>
    .error ⟨"Unknown lookup key '" ++ String.ofList value ++ "'. Valid keys: " ++
      ", ".intercalate (all.map name)⟩

end LookupKey

/-! ### Mappings -/

structure FieldMapping where
  /-- The flow fields that together form the lookup key. -/
  keys : List LookupKey
  sourceColumn : List Char
  outputField : List Char
  deriving DecidableEq

/-- `collect` into a `Result`: up to the first error. -/
def collect {A B E : Type} (f : A → Except E B) : List A → Except E (List B)
  | [] => .ok []
  | a :: as => do
    let b ← f a
    let bs ← collect f as
    .ok (b :: bs)

theorem bind_ok {A B E : Type} {x : Except E A} {f : A → Except E B} {b : B}
    (ok : (x >>= f) = .ok b) :
    ∃ a, x = .ok a ∧ f a = .ok b := by
  cases x with
  | error e => cases ok
  | ok a => exact ⟨a, rfl, ok⟩

theorem collect_mem {A B E : Type} {f : A → Except E B} {as : List A} {bs : List B}
    (collected : collect f as = .ok bs) :
    ∀ b ∈ bs, ∃ a ∈ as, f a = .ok b := by
  induction as generalizing bs with
  | nil =>
    cases collected
    exact nofun
  | cons a as ih =>
    obtain ⟨b, first, collected⟩ := bind_ok collected
    obtain ⟨bs, rest, collected⟩ := bind_ok collected
    cases collected
    intro b' mem
    obtain rfl | mem := List.mem_cons.mp mem
    · exact ⟨a, List.mem_cons_self, first⟩
    · obtain ⟨a', mem', is⟩ := ih rest b' mem
      exact ⟨a', List.mem_cons_of_mem _ mem', is⟩

def parseKeys (key : List Char) : Except ConfigError (List LookupKey) := do
  let keys ← collect (fun key => LookupKey.parse (Text.trim key)) (key.splitOn '+')
  if keys.length > MAX_KEYS then
    .error ⟨"At most 4 lookup keys can be combined: '" ++ String.ofList key ++ "'"⟩
  else .ok keys

def parseSpec (keys : List LookupKey) (spec : List Char) : Except ConfigError FieldMapping :=
  match (Text.splitOnce ':' spec).map fun (source, output) =>
    (Text.trim source, Text.trim output) with
  | some (sourceColumn, outputField) =>
    if sourceColumn ≠ [] ∧ outputField ≠ [] then .ok { keys, sourceColumn, outputField }
    else .error ⟨"Invalid field mapping, expected source:output: '" ++ String.ofList spec ++ "'"⟩
  | none => .error ⟨"Invalid field mapping, expected source:output: '" ++ String.ofList spec ++ "'"⟩

/-- The parts between separators, trimmed, without those that are empty then. -/
def parts (separator : Char) (text : List Char) : List (List Char) :=
  ((text.splitOn separator).map Text.trim).filter (· ≠ [])

def parseGroup (group : List Char) : Except ConfigError (List FieldMapping) := do
  match Text.splitOnce '@' group with
  | none =>
    .error ⟨"Invalid field group, expected <key>@<source>:<output>[|<source>:<output>...]: '" ++
      String.ofList group ++ "'"⟩
  | some (key, specs) =>
    let keys ← parseKeys key
    let mappings ← collect (parseSpec keys) (parts '|' specs)
    if mappings = [] then .error ⟨"Field group has no mappings: '" ++ String.ofList group ++ "'"⟩
    else .ok mappings

def parseFieldMappings (value : List Char) : Except ConfigError (List FieldMapping) := do
  let groups ← collect parseGroup (parts ';' value)
  if groups.flatten = [] then .error ⟨"'fields' has no field mappings"⟩ else .ok groups.flatten

theorem parseKeys_few {key : List Char} {keys : List LookupKey}
    (parsed : parseKeys key = .ok keys) :
    keys.length ≤ MAX_KEYS := by
  obtain ⟨found, _, parsed⟩ := bind_ok parsed
  split at parsed
  · cases parsed
  · next few =>
    cases parsed
    exact Nat.not_lt.mp few

theorem parseSpec_keys {keys : List LookupKey} {spec : List Char} {mapping : FieldMapping}
    (parsed : parseSpec keys spec = .ok mapping) : mapping.keys = keys := by
  unfold parseSpec at parsed
  split at parsed
  · split at parsed
    · cases parsed
      rfl
    · cases parsed
  · cases parsed

theorem parseGroup_few {group : List Char} {mappings : List FieldMapping}
    (parsed : parseGroup group = .ok mappings) :
    ∀ mapping ∈ mappings, mapping.keys.length ≤ MAX_KEYS := by
  unfold parseGroup at parsed
  split at parsed
  · cases parsed
  · obtain ⟨keys, keyed, parsed⟩ := bind_ok parsed
    obtain ⟨found, collected, parsed⟩ := bind_ok parsed
    split at parsed
    · cases parsed
    · cases parsed
      intro mapping mem
      obtain ⟨spec, _, is⟩ := collect_mem collected mapping mem
      rw [parseSpec_keys is]
      exact parseKeys_few keyed

theorem parseFieldMappings_few {value : List Char} {mappings : List FieldMapping}
    (parsed : parseFieldMappings value = .ok mappings) :
    ∀ mapping ∈ mappings, mapping.keys.length ≤ MAX_KEYS := by
  obtain ⟨groups, collected, parsed⟩ := bind_ok parsed
  split at parsed
  · cases parsed
  · cases parsed
    intro mapping mem
    obtain ⟨group, there, mem⟩ := List.mem_flatten.mp mem
    obtain ⟨text, _, is⟩ := collect_mem collected group there
    exact parseGroup_few is mapping mem

/-! ### Sources -/

def sourceColumns (mappings : List FieldMapping) : List (List Char) :=
  mappings.foldl (fun columns mapping =>
    if mapping.sourceColumn ∈ columns then columns else columns ++ [mapping.sourceColumn]) []

theorem mem_sourceColumns {mappings : List FieldMapping} {mapping : FieldMapping}
    (mem : mapping ∈ mappings) :
    mapping.sourceColumn ∈ sourceColumns mappings := by
  unfold sourceColumns
  induction mappings using List.reverseRecOn with
  | nil => cases mem
  | append_singleton mappings last ih =>
    rw [List.foldl_append, List.foldl_cons, List.foldl_nil]
    obtain mem | mem := List.mem_append.mp mem
    · split
      · exact ih mem
      · exact List.mem_append_left _ (ih mem)
    · obtain rfl := List.mem_singleton.mp mem
      split
      · assumption
      · exact List.mem_append_right _ List.mem_cons_self

/-- A source's columns, and what is mapped from them. -/
structure EnrichmentConfig where
  columns : List (List Char)
  mappings : List FieldMapping
  read : ∀ mapping ∈ mappings, mapping.sourceColumn ∈ columns
  few : ∀ mapping ∈ mappings, mapping.keys.length ≤ MAX_KEYS

/-- What `parse_enrich_arg` makes of the parameter `fields`. -/
def parseEnrichFields (fields : List Char) : Except ConfigError EnrichmentConfig :=
  match parsed : parseFieldMappings fields with
  | .error e => .error e
  | .ok mappings =>
    let keyTypes := (mappings.head?.map FieldMapping.keys).getD [] |>.map LookupKey.keyType
    if mappings.any fun mapping => mapping.keys.map LookupKey.keyType ≠ keyTypes then
      .error ⟨"All lookup groups of one source must use the same key types in the same order"⟩
    else
      .ok
        { columns := sourceColumns mappings
          mappings
          read := fun _ mem => mem_sourceColumns mem
          few := parseFieldMappings_few parsed }

/-! ### The engine -/

/-- The values of a table's columns. -/
abbrev Row : Type := List (Option String)

/-- A table as it was loaded last. -/
abbrev Source : Type := List Key → Option Row

/-- Lookup keys, and from which column to which output field their row's values go. -/
abbrev Group : Type := List LookupKey × List (Nat × Nat)

structure EnrichmentEngine where
  lookups : List (List Group)
  outputFields : List (List Char)

namespace EnrichmentEngine

def new : EnrichmentEngine := { lookups := [], outputFields := [] }

def outputIndex (outputFields : List (List Char)) (name : List Char) : Nat × List (List Char) :=
  if name ∈ outputFields then (outputFields.idxOf name, outputFields)
  else (outputFields.length, outputFields ++ [name])

def addMapping (columns : List (List Char)) (state : List (List Char) × List Group)
    (mapping : FieldMapping) :
    List (List Char) × List Group :=
  let (output, outputFields) := outputIndex state.1 mapping.outputField
  (outputFields, Grouping.push state.2 (mapping.keys, (columns.idxOf mapping.sourceColumn, output)))

/-- `loaded` is how loading the table went, and its rows. -/
def add {E : Type} (self : EnrichmentEngine) (config : EnrichmentConfig) (loaded : Except E Nat) :
    Except E Nat × EnrichmentEngine :=
  let (outputFields, groups) :=
    config.mappings.foldl (addMapping config.columns) (self.outputFields, [])
  match loaded with
  | .error e => (.error e, { self with outputFields })
  | .ok rows => (.ok rows, { lookups := self.lookups ++ [groups], outputFields })

def putValue (row : Row) (out : Enriched) (field : Nat × Nat) : Enriched :=
  match row[field.1]?.join with
  | some value => out.set field.2 (some value)
  | none => out

/-- Every key field must be present for the group to match. -/
def enrichGroup (source : Source) (flow : CommonFlow) (out : Enriched) (group : Group) : Enriched :=
  match (group.1.mapM fun key : LookupKey => key.extract flow).bind source with
  | none => out
  | some row => group.2.foldl (putValue row) out

/-- The sources are those of a snapshot, one a lookup. -/
def enrich (self : EnrichmentEngine) (sources : List Source) (flow : CommonFlow) (out : Enriched) :
    Enriched :=
  (self.lookups.zip sources).foldl (fun out (groups, source) =>
    groups.foldl (enrichGroup source flow) out)
    (out.map fun _ => none)

end EnrichmentEngine

end Rustflow.Collect
