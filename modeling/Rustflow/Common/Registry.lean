import Rustflow.Lib.Table
import Mathlib.Data.UInt

/-!
# The registry of information elements

`common/ie_registry.rs` and the resolved fields of `common/data_record.rs`.
-/

namespace Rustflow

inductive DataType where
  | unsigned | signed | float | boolean | macAddress | octetArray | string
  | dateTimeSeconds | dateTimeMilliseconds | dateTimeMicroseconds | dateTimeNanoseconds
  | ipv4Address | ipv6Address | basicList | subTemplateList | subTemplateMultiList
  deriving DecidableEq

/-- One of the structured types of RFC 6313. -/
def DataType.isList : DataType → Bool
  | .basicList | .subTemplateList | .subTemplateMultiList => true
  | _ => false

structure IEDefinition where
  id : UInt16
  enterpriseNumber : Option UInt32
  name : String
  dataType : DataType
  deriving DecidableEq

structure IERegistry where
  elements : Table (UInt16 × Option UInt32) IEDefinition

namespace IERegistry

def new : IERegistry := ⟨∅⟩

def addElement (registry : IERegistry) (id : UInt16) (enterpriseNumber : Option UInt32)
    (name : String) (dataType : DataType) : IERegistry :=
  ⟨registry.elements.insert (id, enterpriseNumber) { id, enterpriseNumber, name, dataType }⟩

def lookup (registry : IERegistry) (id : UInt16) (enterpriseNumber : Option UInt32) :
    Option IEDefinition :=
  registry.elements.lookup (id, enterpriseNumber)

theorem lookup_addElement (registry : IERegistry) (id id' : UInt16)
    (enterprise enterprise' : Option UInt32) (name : String) (dataType : DataType) :
    (registry.addElement id enterprise name dataType).lookup id' enterprise' =
      if (id', enterprise') = (id, enterprise) then some ⟨id, enterprise, name, dataType⟩
      else registry.lookup id' enterprise' :=
  Table.lookup_insert_eq registry.elements (id, enterprise) (id', enterprise') _

end IERegistry

/-- A protocol field specification with its resolved registry metadata. -/
structure ResolvedField (S : Type) where
  spec : S
  dataType : DataType
  name : String
  deriving DecidableEq

/-- Values in template order, sharing field descriptions with the template cache. -/
structure DataRecord (S V : Type) where
  fields : List (ResolvedField S)
  values : List V

/-- Each field's specification, registry name, and value, in template order. -/
def DataRecord.iter {S V : Type} (record : DataRecord S V) : List (S × String × V) :=
  record.fields.zipWith (fun field value => (field.spec, field.name, value)) record.values

end Rustflow
