import Rustflow.Common.SetFraming
import Rustflow.Common.World
import Rustflow.Ipfix.ElementTypes

/-!
# The IPFIX parser

`ipfix/parser.rs`. What only reads the parser (`&self` in the source) takes it as an argument and
counts readings of the clock; what changes it runs in a `World`. Log messages are left out.

Lists nest: the parser of a list's values is that of one level down, and `parseFieldValue` is
structural in the number of levels left, `MAX_LIST_DEPTH` less the source's `depth`.
-/

namespace Rustflow.Ipfix
open Combinator

abbrev Templates : Type := TemplateCache ResolvedField

structure IpfixParser where
  ieRegistry : IERegistry
  elementTypes : ElementTypes
  templates : Templates
  optionsTemplates : Templates

abbrev World : Type := Rustflow.World IpfixParser FieldSpecifier

/-! ### Headers and templates -/

def parseHeader : Parser Header := do
  let version ← verifyVersion IPFIX_VERSION
  let length ← beU16
  let exportTime ← timestampSecs
  let sequenceNumber ← beU32
  let observationDomainId ← beU32
  return { version, length, exportTime, sequenceNumber, observationDomainId }

def parseFieldSpecifier : Parser FieldSpecifier := do
  let bits ← beU16
  let enterpriseBit := bits &&& 0x8000 != 0
  let informationElementIdentifier := bits &&& 0x7fff
  let fieldLength ← beU16
  let enterpriseNumber ← cond enterpriseBit beU32
  return { enterpriseBit, informationElementIdentifier, fieldLength, enterpriseNumber }

def parseTemplateRecord : Parser TemplateRecord := do
  let templateId ← beU16
  let fieldCount ← beU16
  let fields ← count parseFieldSpecifier fieldCount.toNat
  return { templateId, fieldCount, fields }

/-- A withdrawal record is only template ID and field count. -/
def parseScopeFieldCount (fieldCount : UInt16) : Parser UInt16 := if fieldCount = 0 then pure 0
  else beU16

def parseOptionsTemplateRecord : Parser OptionsTemplateRecord := do
  let templateId ← beU16
  let fieldCount ← beU16
  let scopeFieldCount ← parseScopeFieldCount fieldCount
  let fields ← count parseFieldSpecifier fieldCount.toNat
  return { templateId, fieldCount, scopeFieldCount, fields }

def parseFieldLength (fieldLength : UInt16) : Parser Nat :=
  if fieldLength ≠ IPFIX_VARIABLE_LENGTH then return fieldLength.toNat
  else do
    let firstByte ← beU8
    if firstByte < 255 then return firstByte.toNat else return (← beU16).toNat

/-- The registry's definition of an element, or else the one the exporter's type records gave for
the domain. -/
def lookup (registry : IERegistry) (elementTypes : ElementTypes) (observationDomainId : UInt32)
    (spec : FieldSpecifier) : Option IEDefinition :=
  (registry.lookup spec.informationElementIdentifier spec.enterpriseNumber).or
    (elementTypes.lookup observationDomainId spec.informationElementIdentifier
      spec.enterpriseNumber)

/-- A field of a template with what is known of its element. -/
def resolveField (registry : IERegistry) (elementTypes : ElementTypes)
    (observationDomainId : UInt32) (spec : FieldSpecifier) : ResolvedField :=
  match lookup registry elementTypes observationDomainId spec with
  | some ie => { spec, dataType := ie.dataType, name := ie.name }
  | none =>
    { spec, dataType := .octetArray
      name := unknownElementName spec.informationElementIdentifier spec.enterpriseNumber }

def resolveFields (registry : IERegistry) (elementTypes : ElementTypes)
    (observationDomainId : UInt32) (fields : List FieldSpecifier) : List ResolvedField :=
  fields.map (resolveField registry elementTypes observationDomainId)

/-! ### Records -/

/-- The values that are not lists. Anything of an unexpected length is kept as it is. -/
def parseScalar (dataType : DataType) (length : Nat) : Parser FieldValue :=
  match dataType, length with
  | .boolean, 1 => do return (← boolean).elim .null .boolean
  | .unsigned, 1 => do return .unsigned8 (← beU8)
  | .unsigned, 2 => do return .unsigned16 (← beU16)
  | .unsigned, 4 => do return .unsigned32 (← beU32)
  | .unsigned, 8 => do return .unsigned64 (← beU64)
  | .unsigned, 3 => do return .unsigned32 (← beU24)
  | .unsigned, 5 | .unsigned, 6 | .unsigned, 7 => do return .unsigned64 (← beUint length)
  | .signed, 1 => do return .signed8 (← beI8)
  | .signed, 2 => do return .signed16 (← beI16)
  | .signed, 4 => do return .signed32 (← beI32)
  | .signed, 8 => do return .signed64 (← beI64)
  | .signed, 3 => do return .signed32 (← beI24)
  | .signed, 5 | .signed, 6 | .signed, 7 => do return .signed64 (← beInt length)
  | .float, 4 => do return .float32 (← beU32)
  | .float, 8 => do return .float64 (← beU64)
  | .macAddress, 6 => do return .macAddress (← macaddr6)
  | .ipv4Address, 4 => do return .ipv4Address (← ipv4Addr)
  | .ipv6Address, 16 => do return .ipv6Address (← ipv6Addr)
  | .string, length => do return (← string length).elim .null .string
  | .dateTimeSeconds, 4 => do return .dateTimeSeconds (← timestampSecs)
  | .dateTimeMilliseconds, 8 => do return (← timestampMillis).elim .null .dateTimeMilliseconds
  | .dateTimeMicroseconds, 8 => do return .dateTimeMicroseconds (← timestampMicros)
  | .dateTimeNanoseconds, 8 => do return .dateTimeNanoseconds (← timestampNanos)
  | _, length => do return .octetArray (← vector length)

abbrev ValueParser : Type := DataType → Nat → ParserM Nat FieldValue

def parseFields (parseValue : ValueParser) : List ResolvedField → ParserM Nat (List FieldValue)
  | [] => return []
  | field :: fields => do
    let length ← parseFieldLength field.spec.fieldLength
    let value ← parseValue field.dataType length
    return value :: (← parseFields parseValue fields)

def parseRecordFromFields (parseValue : ValueParser) (fields : List ResolvedField) :
    ParserM Nat DataRecord := do
  return { fields, values := ← parseFields parseValue fields }

def TemplateKind.wrap : TemplateKind → DataRecord → Record
  | .data => .data
  | .options => .optionsData

section
variable (clock : Nat → Instant) (self : IpfixParser)

def parseTemplatedRecords (parseValue : ValueParser) (observationDomainId : UInt32)
    (templateId : UInt16) :
    ParserM Nat (List Record) :=
  parseDescribedRecords clock self.templates self.optionsTemplates (observationDomainId, templateId)
    (parseRecordFromFields parseValue) TemplateKind.wrap

/-- One element of a basic list. -/
def basicListTurn (parseValue : ValueParser) (field : FieldSpecifier) (dataType : DataType) :
    ParserM Nat (Turn FieldValue) := do
  let actualLength ← parseFieldLength field.fieldLength
  let left ← remaining
  if field.fieldLength = 0 ∨ left < actualLength then return .stop
  else return .next (some (← parseValue dataType actualLength))

def parseBasicList (parseValue : ValueParser) (observationDomainId : UInt32) (length : Nat) :
    ParserM Nat FieldValue :=
  mapParser (take length) do
    let semantic ← beU8
    let field ← parseFieldSpecifier
    let dataType :=
      ((lookup self.ieRegistry self.elementTypes observationDomainId field).map (·.dataType)).getD
        .octetArray
    let content ← untilEmpty (basicListTurn parseValue field dataType)
    return .basicList (Semantic.ofU8 semantic) field content

def parseSubTemplateList (parseValue : ValueParser) (observationDomainId : UInt32) (length : Nat) :
    ParserM Nat FieldValue :=
  mapParser (take length) do
    let semantic ← beU8
    let templateId ← beU16
    let records ← parseTemplatedRecords clock self parseValue observationDomainId templateId
    return .subTemplateList (Semantic.ofU8 semantic) templateId
      (records.filterMap Record.dataRecord?)

/-- One item of a multi-list. One without content is passed over. -/
def multiListTurn (parseValue : ValueParser) (observationDomainId : UInt32) :
    ParserM Nat (Turn (SubTemplateMultiItem FieldValue)) := do
  let templateId ← beU16
  let length ← beU16
  let contentLength := length.toNat - 4
  if contentLength = 0 then return .next none
  else
    let records ← mapParser (take contentLength)
      (parseTemplatedRecords clock self parseValue observationDomainId templateId)
    return .next (some { templateId, length, data := records.filterMap Record.dataRecord? })

def parseSubTemplateMultiList (parseValue : ValueParser) (observationDomainId : UInt32)
    (length : Nat) :
    ParserM Nat FieldValue :=
  mapParser (take length) do
    let semantic ← beU8
    let items ← untilEmpty (multiListTurn clock self parseValue observationDomainId)
    return .subTemplateMultiList (Semantic.ofU8 semantic) items

/-- A value, with `levels` of lists left to decode. -/
def parseFieldValue (observationDomainId : UInt32) : Nat → ValueParser
  | 0, dataType, length => liftM (parseScalar dataType length)
  | levels + 1, .basicList, length =>
    parseBasicList self (parseFieldValue observationDomainId levels) observationDomainId length
  | levels + 1, .subTemplateList, length =>
    parseSubTemplateList clock self (parseFieldValue observationDomainId levels)
      observationDomainId length
  | levels + 1, .subTemplateMultiList, length =>
    parseSubTemplateMultiList clock self (parseFieldValue observationDomainId levels)
      observationDomainId length
  | _ + 1, dataType, length => liftM (parseScalar dataType length)

end

/-! ### Sets and messages -/

def IpfixParser.cache (self : IpfixParser) : TemplateKind → Templates
  | .data => self.templates
  | .options => self.optionsTemplates

def IpfixParser.setCache (self : IpfixParser) (cache : Templates) : TemplateKind → IpfixParser
  | .data => { self with templates := cache }
  | .options => { self with optionsTemplates := cache }

def TemplateKind.setId : TemplateKind → UInt16
  | .data => IPFIX_TEMPLATE_SET_ID
  | .options => IPFIX_OPTIONS_TEMPLATE_SET_ID

section
variable (clock : Nat → Instant)

def withdrawDomain (kind : TemplateKind) (domain : UInt32) (w : World) : World :=
  { w with
    parser := w.parser.setCache ((w.parser.cache kind).removeDomain domain) kind
    journal := .withdrawAll kind domain :: w.journal }

def withdrawTemplate (kind : TemplateKind) (key : TemplateKey) (w : World) : World :=
  { w with
    parser := w.parser.setCache ((w.parser.cache kind).remove key) kind
    journal := .withdraw kind key :: w.journal }

/-- A template record without fields withdraws that template, and one carrying the set ID itself
withdraws every template of that kind for the domain. -/
def withdrawTemplates (kind : TemplateKind) (observationDomainId : UInt32) (templateId : UInt16)
    (w : World) :
    World :=
  if templateId = TemplateKind.setId kind then withdrawDomain kind observationDomainId w
  else withdrawTemplate kind (observationDomainId, templateId) w

def insertTemplate (kind : TemplateKind) (key : TemplateKey) (specs : List FieldSpecifier)
    (w : World) : World :=
  let now := clock w.ticks
  let fields := resolveFields w.parser.ieRegistry w.parser.elementTypes key.1 specs
  let cache := (w.parser.cache kind).insert now key fields
  let definition := {
    kind, key, specs
    sentAt := now
    stored := (cache.find key).isSome
    crossed := ((w.parser.cache kind.other).get now key).isSome }
  { parser := w.parser.setCache cache kind
    ticks := w.ticks + 1
    journal := .define definition :: w.journal }

/-- What a template record does, of either kind. Reserved template IDs are skipped. -/
def defineTemplate (kind : TemplateKind) (observationDomainId : UInt32) (w : World)
    (template : UInt16 × List FieldSpecifier) : World :=
  let (templateId, fields) := template
  if fields.isEmpty then withdrawTemplates kind observationDomainId templateId w
  else if IPFIX_VALID_TEMPLATE_ID_MIN ≤ templateId then
    insertTemplate clock kind (observationDomainId, templateId) fields w
  else w

/-- What the type records among `records` teach, and whether any lookup changed. -/
def learnAll (registry : IERegistry) (observationDomainId : UInt32) (records : List Record)
    (elementTypes : ElementTypes) : ElementTypes × Bool :=
  records.foldl
    (fun (elementTypes, changed) record =>
      match record with
      | .optionsData record =>
        let (elementTypes, learned) := elementTypes.learn observationDomainId record registry
        (elementTypes, changed || learned)
      | _ => (elementTypes, changed))
    (elementTypes, false)

/-- Learns from the type records among `records`. What they describe applies to the domain's
templates from then on, those already cached included. -/
def learnElementTypes (observationDomainId : UInt32) (records : List Record)
    (parser : IpfixParser) :
    IpfixParser :=
  let (elementTypes, changed) :=
    learnAll parser.ieRegistry observationDomainId records parser.elementTypes
  if !changed then { parser with elementTypes }
  else
    let resolve := fun fields : List ResolvedField =>
      resolveFields parser.ieRegistry elementTypes observationDomainId (fields.map (·.spec))
    { parser with
      elementTypes
      templates := parser.templates.refreshDomain observationDomainId resolve
      optionsTemplates := parser.optionsTemplates.refreshDomain observationDomainId resolve }

def parseRecords (observationDomainId : UInt32) (setId : UInt16) : ParserM World (List Record) := do
  if setId = IPFIX_TEMPLATE_SET_ID then
    let templates ← parseTemplateRecord.many0
    World.update fun w =>
      templates.foldl (fun w t => defineTemplate clock .data observationDomainId w
        (t.templateId, t.fields)) w
    return templates.map .template
  else if setId = IPFIX_OPTIONS_TEMPLATE_SET_ID then
    let templates ← parseOptionsTemplateRecord.many0
    World.update fun w =>
      templates.foldl (fun w t => defineTemplate clock .options observationDomainId w
        (t.templateId, t.fields)) w
    return templates.map .optionsTemplate
  else if IPFIX_VALID_TEMPLATE_ID_MIN ≤ setId then
    let records ← World.borrow fun self =>
      parseTemplatedRecords clock self
        (parseFieldValue clock self observationDomainId MAX_LIST_DEPTH)
        observationDomainId setId
    World.update fun w =>
      { w with parser := learnElementTypes observationDomainId records w.parser }
    return records
  else return []

def parseSet (observationDomainId : UInt32) : ParserM World Set :=
  parseFramedSet SET_HEADER_SIZE (parseRecords clock observationDomainId) fun id length records =>
    { id, length, records }

def parse : ParserM World IpfixPacket := do
  let header ← parseHeader
  let dataLength := header.length.toNat - IPFIX_HEADER_SIZE
  let sets ← mapParser (take dataLength) (many0 (parseSet clock header.observationDomainId))
  return { header, sets }

/-- A new parser: each of its caches reads the clock. -/
def World.new (ieRegistry : IERegistry) (timeout : Duration) : World where
  parser := {
    ieRegistry
    elementTypes := ElementTypes.default
    templates := TemplateCache.new timeout (clock 0)
    optionsTemplates := TemplateCache.new timeout (clock 1) }
  ticks := 2
  journal := []

def World.run (w : World) (messages : List (List UInt8)) : World :=
  messages.foldl (fun w message => (parse clock message w).2) w

/-- The states of a parser at work: a new one, and what reading one more set of a message, whatever
it holds, makes of any of them. -/
inductive Reachable (ieRegistry : IERegistry) (timeout : Duration) : World → Prop where
  | new : Reachable ieRegistry timeout (World.new clock ieRegistry timeout)
  | set {w : World} (observationDomainId : UInt32) (setId : UInt16) (content : List UInt8)
      (before : Reachable ieRegistry timeout w) :
      Reachable ieRegistry timeout (parseRecords clock observationDomainId setId content w).2

end

end Rustflow.Ipfix
