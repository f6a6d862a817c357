import Rustflow.Ipfix.Types

/-!
# The IPFIX encoder

`ipfix/encoder.rs`: the bytes each `encode` appends to its buffer.
-/

namespace Rustflow.Ipfix
open BigEndian (bytes)

def putU8 (v : UInt8) : List UInt8 := [v]
def putU16 (v : UInt16) : List UInt8 := bytes 2 v.toNat
def putU32 (v : UInt32) : List UInt8 := bytes 4 v.toNat
def putU64 (v : UInt64) : List UInt8 := bytes 8 v.toNat

def FieldSpecifier.encode (self : FieldSpecifier) : List UInt8 :=
  let idWithEnterpriseBit :=
    if self.enterpriseBit then self.informationElementIdentifier ||| 0x8000
    else self.informationElementIdentifier
  putU16 idWithEnterpriseBit ++ putU16 self.fieldLength ++ self.enterpriseNumber.elim [] putU32

def TemplateRecord.encode (self : TemplateRecord) : List UInt8 :=
  putU16 self.templateId ++ putU16 self.fieldCount ++ self.fields.flatMap FieldSpecifier.encode

def OptionsTemplateRecord.encode (self : OptionsTemplateRecord) : List UInt8 :=
  putU16 self.templateId ++ putU16 self.fieldCount ++ putU16 self.scopeFieldCount ++
    self.fields.flatMap FieldSpecifier.encode

/-- `data` cut to `length`, or padded to it with zeros. -/
def putFixed (data : List UInt8) (length : Nat) : List UInt8 :=
  let data := data.take length
  data ++ List.replicate (length - data.length) 0

def putUint (value : UInt64) (length : Nat) : List UInt8 :=
  let data := putU64 value
  if length ≤ data.length then data.drop (data.length - length)
  else List.replicate (length - data.length) 0 ++ data

def putInt (value : Int64) (length : Nat) : List UInt8 :=
  let data := putU64 value.toUInt64
  if length ≤ data.length then data.drop (data.length - length)
  else List.replicate (length - data.length) (if value < 0 then 0xff else 0) ++ data

/-- A value, whose own encoding is `natural`, in a field of exactly `length` bytes. -/
def encodeFixed (value : FieldValue) (natural : List UInt8) (length : Nat) : List UInt8 :=
  match value with
  | .unsigned8 v => putUint v.toUInt64 length
  | .unsigned16 v => putUint v.toUInt64 length
  | .unsigned32 v => putUint v.toUInt64 length
  | .unsigned64 v => putUint v length
  | .signed8 v => putInt v.toInt64 length
  | .signed16 v => putInt v.toInt64 length
  | .signed32 v => putInt v.toInt64 length
  | .signed64 v => putInt v length
  | .octetArray v => putFixed v length
  -- Cut at a character boundary, so the string stays UTF-8.
  | .string v =>
    putFixed ((Utf8.bytes v).take (Utf8.floorCharBoundary (Utf8.bytes v) length)) length
  | .null => List.replicate length 0
  | _ => natural

def lengthPrefix (length : Nat) : List UInt8 :=
  if length < 255 then putU8 (UInt8.ofNat length) else putU8 255 ++ putU16 (UInt16.ofNat length)

/-- Encodes a value at the width its template field declares: length-prefixed for variable-length
fields, at its natural width where no length is declared, and otherwise exactly `fieldLength`
bytes. -/
def encodeFieldValue (value : FieldValue) (natural : List UInt8) (fieldLength : UInt16) :
    List UInt8 :=
  if fieldLength = IPFIX_VARIABLE_LENGTH then lengthPrefix natural.length ++ natural
  else if fieldLength = 0 then natural
  else encodeFixed value natural fieldLength.toNat

mutual

def FieldValue.encode : FieldValue → List UInt8
  | .unsigned8 v => putU8 v
  | .unsigned16 v => putU16 v
  | .unsigned32 v => putU32 v
  | .unsigned64 v => putU64 v
  | .unsigned256 v => bytes 32 v.toNat
  | .signed8 v => putU8 v.toUInt8
  | .signed16 v => putU16 v.toUInt16
  | .signed32 v => putU32 v.toUInt32
  | .signed64 v => putU64 v.toUInt64
  | .float32 v => putU32 v
  | .float64 v => putU64 v
  | .boolean v => putU8 (if v then 1 else 2)
  | .macAddress v => bytes 6 v.toNat
  | .octetArray v => v
  | .string v => Utf8.bytes v
  | .dateTimeSeconds v => putU32 (asU32 v.timestamp)
  | .dateTimeMilliseconds v => putU64 (asU64 v.timestampMillis)
  | .dateTimeMicroseconds v => putU32 (datetimeToNtp v).1 ++ putU32 (datetimeToNtp v).2
  | .dateTimeNanoseconds v => putU32 (datetimeToNtp v).1 ++ putU32 (datetimeToNtp v).2
  | .ipv4Address v => putU32 v
  | .ipv6Address v => bytes 16 v.toNat
  | .basicList semantic field content =>
    -- Every element uses the width of the list's field specifier.
    putU8 semantic.toU8 ++ field.encode ++ encodeElements field.fieldLength content
  | .subTemplateList semantic templateId data =>
    putU8 semantic.toU8 ++ putU16 templateId ++ encodeRecords data
  | .subTemplateMultiList semantic data => putU8 semantic.toU8 ++ encodeItems data
  | .null => []

def encodeElements (fieldLength : UInt16) : List FieldValue → List UInt8
  | [] => []
  | value :: content =>
    encodeFieldValue value value.encode fieldLength ++ encodeElements fieldLength content

def encodeValues : List ResolvedField → List FieldValue → List UInt8
  | field :: fields, value :: values =>
    encodeFieldValue value value.encode field.spec.fieldLength ++ encodeValues fields values
  | _, _ => []

def encodeRecord : DataRecord → List UInt8
  | ⟨fields, values⟩ => encodeValues fields values

def encodeRecords : List DataRecord → List UInt8
  | [] => []
  | record :: data => encodeRecord record ++ encodeRecords data

def encodeItem : SubTemplateMultiItem FieldValue → List UInt8
  | ⟨templateId, length, data⟩ => putU16 templateId ++ putU16 length ++ encodeRecords data

def encodeItems : List (SubTemplateMultiItem FieldValue) → List UInt8
  | [] => []
  | item :: data => encodeItem item ++ encodeItems data

end

def Record.encode : Record → List UInt8
  | .template t => t.encode
  | .optionsTemplate t => t.encode
  | .data d | .optionsData d => encodeRecord d

def Set.encode (self : Set) : List UInt8 :=
  let recordsData := self.records.flatMap Record.encode
  putU16 self.id ++ putU16 (UInt16.ofNat SET_HEADER_SIZE + UInt16.ofNat recordsData.length) ++
    recordsData

def IpfixPacket.encode (self : IpfixPacket) : List UInt8 :=
  let setsData := self.sets.flatMap Set.encode
  putU16 self.header.version ++ putU16
    (UInt16.ofNat IPFIX_HEADER_SIZE + UInt16.ofNat setsData.length) ++
    putU32 (asU32 self.header.exportTime.timestamp) ++ putU32 self.header.sequenceNumber ++
    putU32 self.header.observationDomainId ++ setsData

end Rustflow.Ipfix
