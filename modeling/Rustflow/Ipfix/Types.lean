import Rustflow.Common.InformationElement
import Rustflow.Common.Parser
import Rustflow.Common.Registry

/-!
# IPFIX packets

The data types of `ipfix/parser.rs`. Floating-point values are their bit patterns.
-/

namespace Rustflow.Ipfix

def IPFIX_VERSION : UInt16 := 10
def IPFIX_TEMPLATE_SET_ID : UInt16 := 2
def IPFIX_OPTIONS_TEMPLATE_SET_ID : UInt16 := 3
def IPFIX_VARIABLE_LENGTH : UInt16 := 0xffff

/-- `IPFIX_VALID_TEMPLATE_ID` starts here and has no upper end. -/
def IPFIX_VALID_TEMPLATE_ID_MIN : UInt16 := 256

/-- 2 (set_id) + 2 (length). -/
def SET_HEADER_SIZE : Nat := 4

/-- 2 (version) + 2 (length) + 4 (export_time) + 4 (sequence_number) + 4 (observation_domain_id). -/
def IPFIX_HEADER_SIZE : Nat := 16

/-- How deep lists may nest before the rest is kept undecoded. -/
def MAX_LIST_DEPTH : Nat := 8

structure FieldSpecifier where
  enterpriseBit : Bool
  informationElementIdentifier : UInt16
  fieldLength : UInt16
  enterpriseNumber : Option UInt32
  deriving DecidableEq

/-- A field specifier for an IANA-registered element. -/
def FieldSpecifier.iana (informationElementIdentifier fieldLength : UInt16) : FieldSpecifier :=
  { enterpriseBit := false, informationElementIdentifier, fieldLength, enterpriseNumber := none }

def FieldSpecifier.fromIe (informationElement : InformationElement) (fieldLength : UInt16) :
    FieldSpecifier :=
  FieldSpecifier.iana informationElement.toId fieldLength

abbrev ResolvedField : Type := Rustflow.ResolvedField FieldSpecifier

inductive Semantic where
  | noneOf | exactlyOneOf | oneOrMoreOf | allOf | ordered | undefined
  deriving DecidableEq

def Semantic.ofU8 (b : UInt8) : Semantic :=
  match b with
  | 0x00 => .noneOf
  | 0x01 => .exactlyOneOf
  | 0x02 => .oneOrMoreOf
  | 0x03 => .allOf
  | 0x04 => .ordered
  | _ => .undefined

def Semantic.toU8 : Semantic → UInt8
  | .noneOf => 0x00
  | .exactlyOneOf => 0x01
  | .oneOrMoreOf => 0x02
  | .allOf => 0x03
  | .ordered => 0x04
  | .undefined => 0xff

structure SubTemplateMultiItem (V : Type) where
  templateId : UInt16
  length : UInt16
  data : List (Rustflow.DataRecord FieldSpecifier V)

inductive FieldValue where
  | unsigned8 (v : UInt8)
  | unsigned16 (v : UInt16)
  | unsigned32 (v : UInt32)
  | unsigned64 (v : UInt64)
  | unsigned256 (v : BitVec 256)
  | signed8 (v : Int8)
  | signed16 (v : Int16)
  | signed32 (v : Int32)
  | signed64 (v : Int64)
  | float32 (bits : UInt32)
  | float64 (bits : UInt64)
  | boolean (v : Bool)
  | macAddress (v : MacAddr6)
  | octetArray (v : List UInt8)
  | string (v : String)
  | dateTimeSeconds (v : DateTime)
  | dateTimeMilliseconds (v : DateTime)
  | dateTimeMicroseconds (v : DateTime)
  | dateTimeNanoseconds (v : DateTime)
  | ipv4Address (v : Ipv4Addr)
  | ipv6Address (v : Ipv6Addr)
  | basicList (semantic : Semantic) (field : FieldSpecifier) (content : List FieldValue)
  | subTemplateList (semantic : Semantic) (templateId : UInt16)
      (data : List (Rustflow.DataRecord FieldSpecifier FieldValue))
  | subTemplateMultiList (semantic : Semantic) (data : List (SubTemplateMultiItem FieldValue))
  /-- A value the collector ignores. -/
  | null

abbrev DataRecord : Type := Rustflow.DataRecord FieldSpecifier FieldValue

/-- A record with placeholder field specifiers, for building packets to send. -/
def DataRecord.new (values : List FieldValue) : DataRecord where
  fields :=
    values.map fun _ => { spec := FieldSpecifier.iana 0 0, dataType := .octetArray, name := "" }
  values := values

structure TemplateRecord where
  templateId : UInt16
  fieldCount : UInt16
  fields : List FieldSpecifier
  deriving DecidableEq

def TemplateRecord.new (templateId : UInt16) (fields : List FieldSpecifier) : TemplateRecord :=
  { templateId, fieldCount := UInt16.ofNat fields.length, fields }

structure OptionsTemplateRecord where
  templateId : UInt16
  fieldCount : UInt16
  scopeFieldCount : UInt16
  fields : List FieldSpecifier
  deriving DecidableEq

def OptionsTemplateRecord.new (templateId scopeFieldCount : UInt16) (fields : List FieldSpecifier) :
    OptionsTemplateRecord :=
  { templateId, fieldCount := UInt16.ofNat fields.length, scopeFieldCount, fields }

inductive Record where
  | template (record : TemplateRecord)
  | optionsTemplate (record : OptionsTemplateRecord)
  | data (record : DataRecord)
  | optionsData (record : DataRecord)

/-- The values of a data record of either kind. -/
def Record.dataRecord? : Record → Option DataRecord
  | .data record | .optionsData record => some record
  | _ => none

structure Set where
  id : UInt16
  length : UInt16
  records : List Record

/-- A set to be encoded, which computes its own length. -/
def Set.new (id : UInt16) (records : List Record) : Set := { id, length := 0, records }

structure Header where
  version : UInt16
  length : UInt16
  exportTime : DateTime
  sequenceNumber : UInt32
  observationDomainId : UInt32
  deriving DecidableEq

structure IpfixPacket where
  header : Header
  sets : List Set

def IpfixPacket.new (exportTime : DateTime) (sequenceNumber observationDomainId : UInt32)
    (sets : List Set) :
    IpfixPacket :=
  { header := {
      version := IPFIX_VERSION
      length := 0
      exportTime
      sequenceNumber
      observationDomainId }, sets }

end Rustflow.Ipfix
