import Rustflow.Common.Parser
import Rustflow.Common.Registry
import Rustflow.Common.SetFraming
import Rustflow.Common.World

/-!
# The NetFlow v9 parser

`netflow_v9/parser.rs`, modelled as the IPFIX parser is. There are no withdrawals, no variable
lengths and no lists, and any ID but those of the template FlowSets can name a template.
-/

namespace Rustflow.NetflowV9
open Combinator

def NETFLOW_V9_VERSION : UInt16 := 9
def NETFLOW_V9_TEMPLATE_FLOW_SET_ID : UInt16 := 0
def NETFLOW_V9_OPTIONS_TEMPLATE_FLOW_SET_ID : UInt16 := 1

/-- 2 (id) + 2 (length). -/
def FLOW_SET_HEADER_SIZE : Nat := 4

/-! ### Packets -/

structure Header where
  version : UInt16
  count : UInt16
  systemUptime : UInt32
  unixSeconds : DateTime
  sequenceNumber : UInt32
  sourceId : UInt32
  deriving DecidableEq

structure TemplateField where
  type : UInt16
  length : UInt16
  deriving DecidableEq

abbrev ResolvedField : Type := Rustflow.ResolvedField TemplateField

structure TemplateRecord where
  id : UInt16
  fields : List TemplateField
  deriving DecidableEq

inductive ScopeFieldType where
  | system | interface | lineCard | cache | template
  | unknown (type : UInt16)
  deriving DecidableEq

structure ScopeField where
  type : ScopeFieldType
  length : UInt16
  deriving DecidableEq

inductive OptionsTemplateField where
  | scope (field : ScopeField)
  | option (field : TemplateField)
  deriving DecidableEq

structure OptionsTemplateRecord where
  id : UInt16
  optionScopeLength : UInt16
  optionLength : UInt16
  fields : List OptionsTemplateField
  deriving DecidableEq

inductive FieldValue where
  | unsigned8 (v : UInt8)
  | unsigned16 (v : UInt16)
  | unsigned32 (v : UInt32)
  | unsigned64 (v : UInt64)
  | signed8 (v : Int8)
  | signed16 (v : Int16)
  | signed32 (v : Int32)
  | signed64 (v : Int64)
  | float32 (bits : UInt32)
  | float64 (bits : UInt64)
  | macAddress (v : MacAddr6)
  | octetArray (v : List UInt8)
  | string (v : String)
  | dateTimeSeconds (v : DateTime)
  | dateTimeMilliseconds (v : DateTime)
  | dateTimeMicroseconds (v : DateTime)
  | dateTimeNanoseconds (v : DateTime)
  | ipv4Address (v : Ipv4Addr)
  | ipv6Address (v : Ipv6Addr)
  | null
  deriving DecidableEq

abbrev DataRecord : Type := Rustflow.DataRecord TemplateField FieldValue

inductive Record where
  | template (record : TemplateRecord)
  | optionsTemplate (record : OptionsTemplateRecord)
  | data (record : DataRecord)
  | optionsData (record : DataRecord)

structure FlowSet where
  id : UInt16
  length : UInt16
  records : List Record

structure NetFlowV9Packet where
  header : Header
  flowSets : List FlowSet

/-! ### Headers and templates -/

def parseHeader : Parser Header := do
  let version ← verifyVersion NETFLOW_V9_VERSION
  let count ← beU16
  let systemUptime ← beU32
  let unixSeconds ← timestampSecs
  let sequenceNumber ← beU32
  let sourceId ← beU32
  return { version, count, systemUptime, unixSeconds, sequenceNumber, sourceId }

def parseTemplateField : Parser TemplateField := do
  let type ← beU16
  let length ← beU16
  return { type, length }

def parseTemplateRecord : Parser TemplateRecord := do
  let id ← beU16
  let fieldCount ← beU16
  let fields ← count parseTemplateField fieldCount.toNat
  return { id, fields }

def ScopeFieldType.ofU16 (type : UInt16) : ScopeFieldType :=
  match type with
  | 1 => .system
  | 2 => .interface
  | 3 => .lineCard
  | 4 => .cache
  | 5 => .template
  | type => .unknown type

def ScopeFieldType.toU16 : ScopeFieldType → UInt16
  | .system => 1
  | .interface => 2
  | .lineCard => 3
  | .cache => 4
  | .template => 5
  | .unknown type => type

def ScopeFieldType.toString : ScopeFieldType → String
  | .system => "System"
  | .interface => "Interface"
  | .lineCard => "LineCard"
  | .cache => "Cache"
  | .template => "Template"
  | .unknown _ => "Unknown"

def parseScopeField : Parser ScopeField := do
  let type ← beU16
  let length ← beU16
  return { type := ScopeFieldType.ofU16 type, length }

/-- A pure parser on the slice that another returns. -/
def parseSlice {α : Type} (slice : Parser (List UInt8)) (p : Parser α) : Parser α := fun input =>
  (slice input).bind fun (rest, data) => (p data).map fun r => (rest, r.2)

def parseOptionsTemplateRecord : Parser OptionsTemplateRecord := do
  let id ← beU16
  let optionScopeLength ← beU16
  let optionLength ← beU16
  let scope ← parseSlice (take optionScopeLength.toNat)
    (Parser.many0 do return OptionsTemplateField.scope (← parseScopeField))
  let options ← parseSlice (take optionLength.toNat)
    (Parser.many0 do return OptionsTemplateField.option (← parseTemplateField))
  return { id, optionScopeLength, optionLength, fields := scope ++ options }

def ResolvedField.fromRegistry (registry : IERegistry) (type length : UInt16) : ResolvedField :=
  match registry.lookup type none with
  | some ie => { spec := { type, length }, dataType := ie.dataType, name := ie.name }
  | none => { spec := { type, length }, dataType := .octetArray, name := toString type.toNat }

def TemplateRecord.resolve (self : TemplateRecord) (registry : IERegistry) : List ResolvedField :=
  self.fields.map fun field => ResolvedField.fromRegistry registry field.type field.length

/-- The field of an options template as the field of the records it describes. -/
def OptionsTemplateField.resolve (registry : IERegistry) : OptionsTemplateField → ResolvedField
  | .scope field =>
    { spec := { type := field.type.toU16, length := field.length }, dataType := .unsigned
      name := field.type.toString }
  | .option field => ResolvedField.fromRegistry registry field.type field.length

def OptionsTemplateRecord.resolve (self : OptionsTemplateRecord) (registry : IERegistry) :
    List ResolvedField :=
  self.fields.map (OptionsTemplateField.resolve registry)

/-! ### Records -/

def parseFieldValue (dataType : DataType) (length : Nat) : Parser FieldValue :=
  match dataType, length with
  | _, 0 => return .null
  | .unsigned, 1 => do return .unsigned8 (← beU8)
  | .unsigned, 2 => do return .unsigned16 (← beU16)
  | .unsigned, 4 => do return .unsigned32 (← beU32)
  | .unsigned, 8 => do return .unsigned64 (← beU64)
  | .unsigned, 3 => do return .unsigned32 (← beU24)
  | .unsigned, 5 | .unsigned, 6 | .unsigned, 7 => do return .unsigned64 (← beUint length)
  | .signed, 1 => do return .signed8 (← beI8)
  | .signed, 2 => do return .signed16 (← beI16)
  | .signed, 4 => do return .signed32 (← beI32)
  | .signed, 8 => do return .signed64 (← beI64)
  | .signed, 3 => do return .signed32 (← beI24)
  | .signed, 5 | .signed, 6 | .signed, 7 => do return .signed64 (← beInt length)
  | .float, 4 => do return .float32 (← beU32)
  | .float, 8 => do return .float64 (← beU64)
  | .macAddress, 6 => do return .macAddress (← macaddr6)
  | .ipv4Address, 4 => do return .ipv4Address (← ipv4Addr)
  | .ipv6Address, 16 => do return .ipv6Address (← ipv6Addr)
  | .string, length => do return (← string length).elim .null .string
  | .dateTimeSeconds, 4 => do return .dateTimeSeconds (← timestampSecs)
  | .dateTimeMilliseconds, 8 => do return (← timestampMillis).elim .null .dateTimeMilliseconds
  | .dateTimeMicroseconds, 8 => do return .dateTimeMicroseconds (← timestampMicros)
  | .dateTimeNanoseconds, 8 => do return .dateTimeNanoseconds (← timestampNanos)
  | _, length => do return .octetArray (← vector length)

def parseDataRecord : List ResolvedField → Parser (List FieldValue)
  | [] => return []
  | field :: fields => do
    let value ← parseFieldValue field.dataType field.spec.length.toNat
    return value :: (← parseDataRecord fields)

/-- The record parser that `parse_templated_records` repeats. -/
def parseRecordFromFields (fields : List ResolvedField) : ParserM Nat DataRecord := do
  return { fields, values := ← parseDataRecord fields }

abbrev Templates : Type := TemplateCache ResolvedField

structure NetflowV9Parser where
  ieRegistry : IERegistry
  templates : Templates
  optionsTemplates : Templates

abbrev World : Type := Rustflow.World NetflowV9Parser TemplateField

def TemplateKind.wrap : TemplateKind → DataRecord → Record
  | .data => .data
  | .options => .optionsData

def NetflowV9Parser.cache (self : NetflowV9Parser) : TemplateKind → Templates
  | .data => self.templates
  | .options => self.optionsTemplates

def NetflowV9Parser.setCache (self : NetflowV9Parser) (cache : Templates) :
    TemplateKind → NetflowV9Parser
  | .data => { self with templates := cache }
  | .options => { self with optionsTemplates := cache }

section
variable (clock : Nat → Instant) (self : NetflowV9Parser)

def parseTemplatedRecords (sourceId : UInt32) (templateId : UInt16) : ParserM Nat (List Record) :=
  parseDescribedRecords clock self.templates self.optionsTemplates (sourceId, templateId)
    parseRecordFromFields TemplateKind.wrap

end

def TemplateKind.flowSetId : TemplateKind → UInt16
  | .data => NETFLOW_V9_TEMPLATE_FLOW_SET_ID
  | .options => NETFLOW_V9_OPTIONS_TEMPLATE_FLOW_SET_ID

section
variable (clock : Nat → Instant)

def insertTemplate (kind : TemplateKind) (key : TemplateKey) (fields : List ResolvedField)
    (w : World) : World :=
  let now := clock w.ticks
  let cache := (w.parser.cache kind).insert now key fields
  let definition := {
    kind, key
    specs := fields.map (·.spec)
    sentAt := now
    stored := (cache.find key).isSome
    crossed := ((w.parser.cache kind.other).get now key).isSome }
  { parser := w.parser.setCache cache kind
    ticks := w.ticks + 1
    journal := .define definition :: w.journal }

/-- Stores the templates of a FlowSet in order. -/
def insertTemplates (kind : TemplateKind) (sourceId : UInt32)
    (templates : List (UInt16 × List ResolvedField)) (w : World) : World :=
  templates.foldl (fun w t => insertTemplate clock kind (sourceId, t.1) t.2 w) w

def parseRecords (sourceId : UInt32) (flowSetId : UInt16) : ParserM World (List Record) := do
  if flowSetId = NETFLOW_V9_TEMPLATE_FLOW_SET_ID then
    let templates ← parseTemplateRecord.many0
    World.update fun w =>
      insertTemplates clock .data sourceId (templates.map fun t =>
        (t.id, t.resolve w.parser.ieRegistry)) w
    return templates.map .template
  else if flowSetId = NETFLOW_V9_OPTIONS_TEMPLATE_FLOW_SET_ID then
    let templates ← parseOptionsTemplateRecord.many0
    World.update fun w =>
      insertTemplates clock .options sourceId (templates.map fun t =>
        (t.id, t.resolve w.parser.ieRegistry)) w
    return templates.map .optionsTemplate
  else World.borrow fun self => parseTemplatedRecords clock self sourceId flowSetId

def parseFlowSet (sourceId : UInt32) : ParserM World FlowSet :=
  parseFramedSet FLOW_SET_HEADER_SIZE (parseRecords clock sourceId) fun id length records =>
    { id, length, records }

def parse : ParserM World NetFlowV9Packet := do
  let header ← parseHeader
  let flowSets ← many0 (parseFlowSet clock header.sourceId)
  return { header, flowSets }

/-- A new parser: each of its caches reads the clock. -/
def World.new (ieRegistry : IERegistry) (timeout : Duration) : World where
  parser := {
    ieRegistry
    templates := TemplateCache.new timeout (clock 0)
    optionsTemplates := TemplateCache.new timeout (clock 1) }
  ticks := 2
  journal := []

def World.run (w : World) (messages : List (List UInt8)) : World :=
  messages.foldl (fun w message => (parse clock message w).2) w

/-- The states of a parser at work: a new one, and what reading one more FlowSet of a packet,
whatever it holds, makes of any of them. -/
inductive Reachable (ieRegistry : IERegistry) (timeout : Duration) : World → Prop where
  | new : Reachable ieRegistry timeout (World.new clock ieRegistry timeout)
  | flowSet {w : World} (sourceId : UInt32) (flowSetId : UInt16) (content : List UInt8)
      (before : Reachable ieRegistry timeout w) :
      Reachable ieRegistry timeout (parseRecords clock sourceId flowSetId content w).2

end

end Rustflow.NetflowV9
