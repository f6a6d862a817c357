import Rustflow.Ipfix.Types
import Rustflow.Common.InformationElement

/-!
# Type records

`ipfix/element_types.rs`: an exporter describing the information elements it sends, in options
records called type records (RFC 5610).
-/

namespace Rustflow.Ipfix

/-- Elements one exporter may describe across its domains. -/
def MAX_ELEMENTS : Nat := 1024

/-- Longest name kept, in bytes. -/
def MAX_NAME_LENGTH : Nat := 256

/-- An element's ID and enterprise number. -/
abbrev ElementKey : Type := UInt16 × Option UInt32

/-- The parts of a type record a collector uses. -/
structure Description where
  id : UInt16
  enterpriseNumber : Option UInt32
  dataType : UInt8
  semantics : UInt8
  name : Option String
  deriving DecidableEq

inductive Learned where
  | defined (description : Description) (definition : IEDefinition)
  /-- Type records disagreed, so the element is treated as unknown. -/
  | conflicting
  deriving DecidableEq

/-- What type records said about the elements of each observation domain. -/
structure ElementTypes where
  domains : Table UInt32 (Table ElementKey Learned)
  len : Nat

def ElementTypes.default : ElementTypes := ⟨∅, 0⟩

def unknownElementName (id : UInt16) (enterpriseNumber : Option UInt32) : String :=
  match enterpriseNumber with
  | some enterprise => toString enterprise.toNat ++ "." ++ toString id.toNat
  | none => toString id.toNat

def unsigned (value : FieldValue) : Option Nat :=
  match value with
  | .unsigned8 v => some v.toNat
  | .unsigned16 v => some v.toNat
  | .unsigned32 v => some v.toNat
  | .unsigned64 v => some v.toNat
  | _ => none

namespace Description

/-- What `read` has gathered from the fields so far. -/
structure Draft where
  id : Option UInt16 := none
  enterpriseNumber : Option UInt32 := none
  dataType : Option UInt8 := none
  semantics : UInt8 := 0
  name : Option String := none

/-- `u8::try_from` and its like: `none` where the value does not fit. -/
def narrow (bits : Nat) (value : FieldValue) : Option Nat := (unsigned value).filter (· < 2 ^ bits)

/-- The name, where it can be used. -/
def usableName (value : FieldValue) : Option String :=
  match value with
  | .string name =>
    if name ≠ "" ∧ (Utf8.bytes name).length ≤ MAX_NAME_LENGTH ∧ '\x00' ∉ name.toList then
      some name else none
  | _ => none

/-- Semantics that do not fit end the reading. -/
def readField (draft : Draft) (field : FieldSpecifier) (value : FieldValue) : Option Draft :=
  if field.enterpriseNumber.isSome then some draft
  else
    match InformationElement.fromId field.informationElementIdentifier with
    | some .informationElementId =>
      some { draft with id := (narrow 16 value).map fun v => UInt16.ofNat v &&& 0x7fff }
    | some .privateEnterpriseNumber =>
      some { draft with enterpriseNumber := (narrow 32 value).map UInt32.ofNat }
    | some .informationElementDataType =>
      some { draft with dataType := (narrow 8 value).map UInt8.ofNat }
    | some .informationElementSemantics =>
      (narrow 8 value).map fun v => { draft with semantics := UInt8.ofNat v }
    | some .informationElementName => some { draft with name := usableName value }
    | _ => some draft

/-- A type record names the element and its data type; semantics default to 0, and a name that is
not usable is left out. -/
def read (record : DataRecord) : Option Description := do
  let draft ← record.iter.foldlM (fun draft (field, _, value) => readField draft field value) {}
  return {
    id := ← draft.id
    enterpriseNumber := draft.enterpriseNumber.filter (· ≠ 0)
    dataType := ← draft.dataType
    semantics := draft.semantics
    name := draft.name }

/-- The semantics fit the type (RFC 5610 section 3.10). -/
def fits (self : Description) : Bool :=
  let dataType := self.dataType.toNat
  let semantics := self.semantics.toNat
  if 1 ≤ dataType ∧ dataType ≤ 4 then semantics ≤ 5 ∨ semantics = 7 ∨ semantics = 8
  else if 5 ≤ dataType ∧ dataType ≤ 8 then semantics ≤ 4
  else if dataType = 9 ∨ dataType = 10 then semantics ≤ 3
  else if 20 ≤ dataType ∧ dataType ≤ 22 then semantics = 0 ∨ semantics = 6
  else semantics = 0

/-- `none` for an unknown type or one its semantics do not fit. -/
def toDataType (self : Description) : Option DataType :=
  if !self.fits then none
  else
    match self.dataType.toNat with
    | 0 => some .octetArray
    | 1 | 2 | 3 | 4 => some .unsigned
    | 5 | 6 | 7 | 8 => some .signed
    | 9 | 10 => some .float
    | 11 => some .boolean
    | 12 => some .macAddress
    | 13 => some .string
    | 14 => some .dateTimeSeconds
    | 15 => some .dateTimeMilliseconds
    | 16 => some .dateTimeMicroseconds
    | 17 => some .dateTimeNanoseconds
    | 18 => some .ipv4Address
    | 19 => some .ipv6Address
    | 20 => some .basicList
    | 21 => some .subTemplateList
    | 22 => some .subTemplateMultiList
    | _ => none

end Description

namespace ElementTypes

/-- What has been learned of an element, conflicts included. -/
def find (self : ElementTypes) (domain : UInt32) (key : ElementKey) : Option Learned :=
  (self.domains.lookup domain).bind fun elements => elements.lookup key

def lookup (self : ElementTypes) (domain : UInt32) (id : UInt16)
    (enterpriseNumber : Option UInt32) :
    Option IEDefinition :=
  match self.find domain (id, enterpriseNumber) with
  | some (.defined _ definition) => some definition
  | _ => none

def put (self : ElementTypes) (domain : UInt32) (key : ElementKey) (learned : Learned) :
    Table UInt32 (Table ElementKey Learned) :=
  self.domains.insert domain (((self.domains.lookup domain).getD ∅).insert key learned)

/-- Learns from `record` if it is a type record. True when what `lookup` gives for an element
changed. -/
def learn (self : ElementTypes) (domain : UInt32) (record : DataRecord) (registry : IERegistry) :
    ElementTypes × Bool :=
  match Description.read record with
  | none => (self, false)
  | some description =>
    let key := (description.id, description.enterpriseNumber)
    if (registry.lookup key.1 key.2).isSome then (self, false)
    else
      match description.toDataType with
      | none => (self, false)
      | some dataType =>
        match self.find domain key with
        | some (.defined known _) =>
          if known = description then (self, false)
          else ({ self with domains := self.put domain key .conflicting }, true)
        | some .conflicting => (self, false)
        | none =>
          if self.len < MAX_ELEMENTS then
            let definition := {
              id := key.1
              enterpriseNumber := key.2
              name := description.name.getD (unknownElementName key.1 key.2)
              dataType }
            ({ domains := self.put domain key (.defined description definition),
               len := self.len + 1 }, true)
          else (self, false)

end ElementTypes

end Rustflow.Ipfix
