import Rustflow.Ipfix.Message
import Rustflow.Ipfix.Reading
import Rustflow.Ipfix.Values

/-!
# Declared lengths

What an encoded packet says about lengths, at every nesting level of its lists, and when it is
true. The encoder computes every length but one from what it writes: the length of a multi-list
item is carried over from the wire. It writes every value at the declared width but lists, which
have no other width than their own.
-/

namespace Rustflow.Ipfix
open Combinator BigEndian

/-! ### The values within a packet -/

def FieldValue.isList : FieldValue → Bool
  | .basicList .. | .subTemplateList .. | .subTemplateMultiList .. => true
  | _ => false

def entries (record : DataRecord) : List (UInt16 × FieldValue) :=
  record.fields.zipWith (fun field value => (field.spec.fieldLength, value)) record.values

/-- The values one level down, each with the declared length of its field. -/
def FieldValue.children : FieldValue → List (UInt16 × FieldValue)
  | .basicList _ field content => content.map (field.fieldLength, ·)
  | .subTemplateList _ _ data => data.flatMap entries
  | .subTemplateMultiList _ data => data.flatMap fun item => item.data.flatMap entries
  | _ => []

def FieldValue.items : FieldValue → List (SubTemplateMultiItem FieldValue)
  | .subTemplateMultiList _ data => data
  | _ => []

def IpfixPacket.entries (packet : IpfixPacket) : List (UInt16 × FieldValue) :=
  packet.sets.flatMap fun set => (set.records.filterMap Record.dataRecord?).flatMap Ipfix.entries

/-- A value is among some others or nested in one of them, in a field of a declared length. -/
inductive Within (values : List (UInt16 × FieldValue)) : UInt16 → FieldValue → Prop where
  | top {fieldLength : UInt16} {value : FieldValue} (mem : (fieldLength, value) ∈ values) : Within
      values fieldLength value
  | nested {fieldLength fieldLength' : UInt16} {outer value : FieldValue} (list : Within values
      fieldLength' outer)
      (mem : (fieldLength, value) ∈ outer.children) : Within values fieldLength value

section
variable {values : List (UInt16 × FieldValue)} {P : UInt16 → FieldValue → Prop}

theorem Within.of_child {fieldLength fieldLength' : UInt16} {outer value : FieldValue}
    (within : Within outer.children fieldLength value) (mem : (fieldLength', outer) ∈ values) :
    Within values fieldLength value := by
  induction within with
  | top inside => exact .nested (.top mem) inside
  | nested _ inside ih => exact .nested ih inside

theorem Within.cases_top {fieldLength : UInt16} {value : FieldValue}
    (within : Within values fieldLength value) :
    (fieldLength, value) ∈ values ∨
      ∃ fieldLength' outer, (fieldLength', outer) ∈ values ∧
      Within outer.children fieldLength value := by
  induction within with
  | top mem => exact .inl mem
  | nested _ inside ih =>
    obtain mem | ⟨fieldLength', outer, mem, deep⟩ := ih
    · exact .inr ⟨_, _, mem, .top inside⟩
    · exact .inr ⟨fieldLength', outer, mem, .nested deep inside⟩

theorem forall_within :
    (∀ fieldLength value, Within values fieldLength value → P fieldLength value) ↔
      ∀ fieldLength value, (fieldLength, value) ∈ values → P fieldLength value ∧
        ∀ fieldLength' value', Within value.children fieldLength' value' →
          P fieldLength' value' := by
  constructor
  · intro all fieldLength value mem
    exact ⟨all _ _ (.top mem), fun _ _ within => all _ _ (within.of_child mem)⟩
  · intro all fieldLength value within
    obtain mem | ⟨_, _, mem, deep⟩ := within.cases_top
    · exact (all _ _ mem).1
    · exact (all _ _ mem).2 _ _ deep

end

/-! ### What the bytes say -/

/-- The length after the first two bytes, where messages, sets and multi-list items have theirs. -/
def declaredLength (bs : List UInt8) : Nat := value ((bs.drop 2).take 2)

/-- The bytes of a value in its field say how long they are: a variable-length value has a prefix
that leads to the value's own bytes, and a value of fixed non-zero length takes exactly that. -/
def FieldTrue (fieldLength : UInt16) (value : FieldValue) : Prop :=
  let written := encodeFieldValue value value.encode fieldLength
  (fieldLength = IPFIX_VARIABLE_LENGTH → parseFieldLength fieldLength written =
    some (value.encode, value.encode.length)) ∧
    (fieldLength ≠ IPFIX_VARIABLE_LENGTH → fieldLength ≠ 0 → written.length = fieldLength.toNat)

/-- Every length the encoded packet declares is the real one. -/
structure IpfixPacket.LengthsTrue (packet : IpfixPacket) : Prop where
  message : declaredLength packet.encode = packet.encode.length
  sets : ∀ set ∈ packet.sets, declaredLength set.encode = set.encode.length
  fields : ∀ fieldLength value, Within packet.entries fieldLength value →
    FieldTrue fieldLength value
  items : ∀ fieldLength value, Within packet.entries fieldLength value →
    ∀ item ∈ value.items, declaredLength (encodeItem item) = (encodeItem item).length

/-! ### Sizes -/

def FieldSpecifier.size (field : FieldSpecifier) : Nat :=
  4 + if field.enterpriseNumber.isSome then 4 else 0

/-- The variants that can be written at any width. -/
def FieldValue.adapts : FieldValue → Bool
  | .unsigned8 _ | .unsigned16 _ | .unsigned32 _ | .unsigned64 _
  | .signed8 _ | .signed16 _ | .signed32 _ | .signed64 _
  | .octetArray _ | .string _ | .null => true
  | _ => false

/-- The size of a value in its field, from its natural size. -/
def sizeIn (fieldLength : UInt16) (value : FieldValue) (natural : Nat) : Nat :=
  if fieldLength = IPFIX_VARIABLE_LENGTH then (if natural < 255 then 1 else 3) + natural
  else if fieldLength = 0 ∨ !value.adapts then natural
  else fieldLength.toNat

mutual

/-- The natural size of a value, added up from the values within it. -/
def FieldValue.size : FieldValue → Nat
  | .unsigned8 _ | .signed8 _ | .boolean _ => 1
  | .unsigned16 _ | .signed16 _ => 2
  | .unsigned32 _ | .signed32 _ | .float32 _ | .dateTimeSeconds _ | .ipv4Address _ => 4
  | .unsigned64 _ | .signed64 _ | .float64 _ | .dateTimeMilliseconds _ | .dateTimeMicroseconds _
  | .dateTimeNanoseconds _ => 8
  | .unsigned256 _ => 32
  | .macAddress _ => 6
  | .ipv6Address _ => 16
  | .octetArray v => v.length
  | .string v => (Utf8.bytes v).length
  | .null => 0
  | .basicList _ field content => 1 + field.size + sizeElements field.fieldLength content
  | .subTemplateList _ _ data => 3 + sizeRecords data
  | .subTemplateMultiList _ data => 1 + sizeItems data

def sizeElements (fieldLength : UInt16) : List FieldValue → Nat
  | [] => 0
  | value :: content => sizeIn fieldLength value value.size + sizeElements fieldLength content

def sizeValues : List ResolvedField → List FieldValue → Nat
  | field :: fields, value :: values =>
    sizeIn field.spec.fieldLength value value.size + sizeValues fields values
  | _, _ => 0

def sizeRecord : DataRecord → Nat
  | ⟨fields, values⟩ => sizeValues fields values

def sizeRecords : List DataRecord → Nat
  | [] => 0
  | record :: data => sizeRecord record + sizeRecords data

def sizeItem : SubTemplateMultiItem FieldValue → Nat
  | ⟨_, _, data⟩ => 4 + sizeRecords data

def sizeItems : List (SubTemplateMultiItem FieldValue) → Nat
  | [] => 0
  | item :: data => sizeItem item + sizeItems data

end

theorem length_putUint (v : UInt64) (n : Nat) : (putUint v n).length = n := by
  have eight : (putU64 v).length = 8 := length_bytes 8 _
  rw [putUint, eight]
  split
  · rw [List.length_drop, eight]; omega
  · rw [List.length_append, List.length_replicate, eight]; omega

theorem length_putInt (v : Int64) (n : Nat) : (putInt v n).length = n := by
  have eight : (putU64 v.toUInt64).length = 8 := length_bytes 8 _
  rw [putInt, eight]
  split
  · rw [List.length_drop, eight]; omega
  · rw [List.length_append, List.length_replicate, eight]; omega

theorem length_putFixed (data : List UInt8) (n : Nat) : (putFixed data n).length = n := by
  rw [putFixed, List.length_append, List.length_replicate, List.length_take]
  omega

/-- A value is written at the declared width where it can be, and otherwise at its own. -/
theorem length_encodeFixed (value : FieldValue) (natural : List UInt8) (n : Nat) :
    (encodeFixed value natural n).length = if value.adapts then n else natural.length := by
  cases value with
  | unsigned8 | unsigned16 | unsigned32 | unsigned64 => exact length_putUint _ n
  | signed8 | signed16 | signed32 | signed64 => exact length_putInt _ n
  | octetArray | string => exact length_putFixed _ n
  | null => exact List.length_replicate
  | _ => rfl

theorem length_encodeFieldValue (value : FieldValue) (natural : List UInt8) (fieldLength : UInt16) :
    (encodeFieldValue value natural fieldLength).length =
      sizeIn fieldLength value natural.length := by
  rw [encodeFieldValue, sizeIn]
  by_cases var : fieldLength = IPFIX_VARIABLE_LENGTH
  · rw [if_pos var, if_pos var, List.length_append, lengthPrefix]
    split <;> rfl
  · rw [if_neg var, if_neg var]
    by_cases zero : fieldLength = 0
    · simp [zero]
    · rw [if_neg zero, length_encodeFixed]
      cases value.adapts <;> simp [zero]

theorem mem_values_of_entries {record : DataRecord} {fieldLength : UInt16} {value : FieldValue}
    (mem : (fieldLength, value) ∈ entries record) : value ∈ record.values := by
  rw [entries, ← List.map_uncurry_zip_eq_zipWith] at mem
  obtain ⟨⟨field, value'⟩, inside, same⟩ := List.mem_map.mp mem
  cases same
  exact (List.of_mem_zip inside).2

theorem sizeOf_entries {data : List DataRecord} {fieldLength : UInt16} {value : FieldValue}
    (mem : (fieldLength, value) ∈ data.flatMap entries) : sizeOf value < sizeOf data := by
  obtain ⟨record, inside, mem⟩ := List.mem_flatMap.mp mem
  have first := List.sizeOf_lt_of_mem (mem_values_of_entries mem)
  have second : sizeOf record.values < sizeOf record := by
    cases record
    simp only [Rustflow.DataRecord.mk.sizeOf_spec]
    omega
  have third := List.sizeOf_lt_of_mem inside
  omega

theorem sizeOf_children {outer value : FieldValue} {fieldLength : UInt16}
    (mem : (fieldLength, value) ∈ outer.children) :
    sizeOf value < sizeOf outer := by
  cases outer with
  | basicList semantic field content =>
    obtain ⟨_, inside, same⟩ := List.mem_map.mp mem
    cases same
    have := List.sizeOf_lt_of_mem inside
    simp only [FieldValue.basicList.sizeOf_spec]
    omega
  | subTemplateList semantic templateId data =>
    have := sizeOf_entries mem
    simp only [FieldValue.subTemplateList.sizeOf_spec]
    omega
  | subTemplateMultiList semantic data =>
    obtain ⟨item, inside, mem⟩ := List.mem_flatMap.mp mem
    have first := sizeOf_entries mem
    have second := List.sizeOf_lt_of_mem inside
    have third : sizeOf item.data < sizeOf item := by
      cases item
      simp only [SubTemplateMultiItem.mk.sizeOf_spec]
      omega
    simp only [FieldValue.subTemplateMultiList.sizeOf_spec]
    omega
  | _ => cases mem

/-- Induction over the levels of lists. -/
theorem FieldValue.induct {motive : FieldValue → Prop}
    (step : ∀ outer, (∀ fieldLength value, (fieldLength, value) ∈ outer.children → motive value) →
      motive outer)
    (outer : FieldValue) : motive outer :=
  step outer fun _ value _ => FieldValue.induct step value
termination_by sizeOf outer
decreasing_by
  rename_i inside
  exact sizeOf_children inside

section
variable {content : List FieldValue} {data : List DataRecord}
  {items : List (SubTemplateMultiItem FieldValue)}

theorem length_encodeElements (fieldLength : UInt16)
    (each : ∀ value ∈ content, value.encode.length = value.size) :
    (encodeElements fieldLength content).length = sizeElements fieldLength content := by
  induction content with
  | nil => rfl
  | cons value content ih =>
    rw [encodeElements, sizeElements, List.length_append, length_encodeFieldValue,
      each value List.mem_cons_self, ih fun value mem => each value (List.mem_cons_of_mem _ mem)]

theorem length_encodeValues {fields : List ResolvedField} {values : List FieldValue}
    (each : ∀ fieldLength value, (fieldLength, value) ∈ entries ⟨fields, values⟩ →
      value.encode.length = value.size) :
    (encodeValues fields values).length = sizeValues fields values := by
  induction fields generalizing values with
  | nil => cases values <;> rfl
  | cons field fields ih =>
    cases values with
    | nil => rfl
    | cons value values =>
      rw [encodeValues, sizeValues, List.length_append, length_encodeFieldValue,
        each _ value List.mem_cons_self, ih fun fieldLength value mem =>
          each fieldLength value (List.mem_cons_of_mem _ mem)]

theorem length_encodeRecords
    (each : ∀ fieldLength value, (fieldLength, value) ∈ data.flatMap entries →
      value.encode.length = value.size) :
    (encodeRecords data).length = sizeRecords data := by
  induction data with
  | nil => rfl
  | cons record data ih =>
    obtain ⟨fields, values⟩ := record
    simp only [List.flatMap_cons, List.mem_append] at each
    rw [encodeRecords, encodeRecord, sizeRecords, sizeRecord, List.length_append,
      length_encodeValues fun fieldLength value mem => each fieldLength value (.inl mem),
      ih fun fieldLength value mem => each fieldLength value (.inr mem)]

theorem length_encodeItem_of (item : SubTemplateMultiItem FieldValue)
    (each : ∀ fieldLength value, (fieldLength, value) ∈ item.data.flatMap entries →
      value.encode.length = value.size) :
    (encodeItem item).length = sizeItem item := by
  obtain ⟨templateId, length, data⟩ := item
  rw [encodeItem, sizeItem, List.length_append, List.length_append, length_encodeRecords each,
    putU16, putU16, length_bytes, length_bytes]

theorem length_encodeItems
    (each : ∀ fieldLength value, (fieldLength, value) ∈
      items.flatMap (fun item => item.data.flatMap entries) →
      value.encode.length = value.size) : (encodeItems items).length = sizeItems items := by
  induction items with
  | nil => rfl
  | cons item items ih =>
    rw [List.flatMap_cons] at each
    rw [encodeItems, sizeItems, List.length_append,
      length_encodeItem_of item fun fieldLength value mem =>
        each fieldLength value (List.mem_append_left _ mem),
      ih fun fieldLength value mem => each fieldLength value (List.mem_append_right _ mem)]

end

theorem FieldSpecifier.length_encode (field : FieldSpecifier) :
    field.encode.length = field.size := by
  cases found : field.enterpriseNumber <;> simp [FieldSpecifier.encode, FieldSpecifier.size, found,
    putU16, putU32]

theorem length_encode (value : FieldValue) : value.encode.length = value.size := by
  induction value using FieldValue.induct with
  | step outer ih =>
    cases outer with
    | basicList semantic field content =>
      have elements := length_encodeElements field.fieldLength fun value mem =>
        ih field.fieldLength value (List.mem_map_of_mem mem)
      rw [FieldValue.encode, FieldValue.size, List.length_append, List.length_append,
        field.length_encode, elements]
      rfl
    | subTemplateList semantic templateId data =>
      rw [FieldValue.encode, FieldValue.size, List.length_append, List.length_append,
        length_encodeRecords ih, putU16, length_bytes]
      rfl
    | subTemplateMultiList semantic data =>
      rw [FieldValue.encode, FieldValue.size, List.length_append, length_encodeItems ih]
      rfl
    | _ => simp [FieldValue.encode, FieldValue.size, putU8, putU16, putU32, putU64]

theorem length_encodeItem (item : SubTemplateMultiItem FieldValue) :
    (encodeItem item).length = sizeItem item :=
  length_encodeItem_of item fun _ value _ => length_encode value

/-! ### Parts of the bytes -/

theorem length_entries_le {record : DataRecord} {fieldLength : UInt16} {value : FieldValue}
    (mem : (fieldLength, value) ∈ entries record) :
    (encodeFieldValue value value.encode fieldLength).length ≤ (encodeRecord record).length := by
  obtain ⟨fields, values⟩ := record
  rw [encodeRecord]
  induction fields generalizing values with
  | nil => cases mem
  | cons field fields ih =>
    cases values with
    | nil => cases mem
    | cons value' values =>
      rw [encodeValues, List.length_append]
      obtain same | mem := List.mem_cons.mp mem
      · cases same
        omega
      · have := ih values mem
        omega

theorem length_records_le {data : List DataRecord} {record : DataRecord} (mem : record ∈ data) :
    (encodeRecord record).length ≤ (encodeRecords data).length := by
  induction data with
  | nil => cases mem
  | cons record' data ih =>
    rw [encodeRecords, List.length_append]
    obtain rfl | mem := List.mem_cons.mp mem
    · omega
    · have := ih mem
      omega

theorem length_flatMap_entries_le {data : List DataRecord} {fieldLength : UInt16}
    {value : FieldValue} (mem : (fieldLength, value) ∈ data.flatMap entries) :
    (encodeFieldValue value value.encode fieldLength).length ≤ (encodeRecords data).length := by
  obtain ⟨record, inside, mem⟩ := List.mem_flatMap.mp mem
  exact Nat.le_trans (length_entries_le mem) (length_records_le inside)

theorem length_items_le {items : List (SubTemplateMultiItem FieldValue)}
    {item : SubTemplateMultiItem FieldValue} (mem : item ∈ items) :
    (encodeItem item).length ≤ (encodeItems items).length := by
  induction items with
  | nil => cases mem
  | cons item' items ih =>
    rw [encodeItems, List.length_append]
    obtain rfl | mem := List.mem_cons.mp mem
    · omega
    · have := ih mem
      omega

theorem length_children_le {outer value : FieldValue} {fieldLength : UInt16}
    (mem : (fieldLength, value) ∈ outer.children) :
    (encodeFieldValue value value.encode fieldLength).length ≤ outer.encode.length := by
  cases outer with
  | basicList semantic field content =>
    obtain ⟨value', inside, same⟩ := List.mem_map.mp mem
    cases same
    have part : (encodeFieldValue value value.encode field.fieldLength).length ≤
        (encodeElements field.fieldLength content).length := by
      induction content with
      | nil => cases inside
      | cons value' content ih =>
        rw [encodeElements, List.length_append]
        obtain rfl | inside := List.mem_cons.mp inside
        · omega
        · have := ih (List.mem_map_of_mem inside) inside
          omega
    rw [FieldValue.encode, List.length_append]
    omega
  | subTemplateList semantic templateId data =>
    have := length_flatMap_entries_le mem
    rw [FieldValue.encode, List.length_append]
    omega
  | subTemplateMultiList semantic data =>
    obtain ⟨item, inside, mem⟩ := List.mem_flatMap.mp mem
    have records := length_flatMap_entries_le mem
    have items := length_items_le inside
    obtain ⟨templateId, length, data⟩ := item
    rw [encodeItem, List.length_append] at items
    rw [FieldValue.encode, List.length_append]
    dsimp only at records
    omega
  | _ => cases mem

theorem isList_of_child {outer value : FieldValue} {fieldLength : UInt16}
    (mem : (fieldLength, value) ∈ outer.children) :
    outer.isList = true := by
  cases outer <;> first | rfl | cases mem

theorem adapts_of_isList {value : FieldValue} (list : value.isList = true) :
    value.adapts = false := by
  cases value <;> first | rfl | cases list

theorem length_list_le {value : FieldValue} (list : value.isList = true) (fieldLength : UInt16) :
    value.encode.length ≤ (encodeFieldValue value value.encode fieldLength).length := by
  rw [length_encodeFieldValue, sizeIn, adapts_of_isList list]
  split
  · omega
  · simp

/-- Wherever a value is nested, its bytes are part of the packet. -/
theorem length_within_le {values : List (UInt16 × FieldValue)} {bound : Nat}
    (top : ∀ fieldLength value, (fieldLength, value) ∈ values →
      (encodeFieldValue value value.encode fieldLength).length ≤ bound)
    {fieldLength : UInt16} {value : FieldValue} (within : Within values fieldLength value) :
    (encodeFieldValue value value.encode fieldLength).length ≤ bound := by
  induction within with
  | top mem => exact top _ _ mem
  | nested _ mem ih =>
    exact Nat.le_trans (length_children_le mem)
      (Nat.le_trans (length_list_le (isList_of_child mem) _) ih)

theorem length_packet_le {packet : IpfixPacket} {fieldLength : UInt16} {value : FieldValue}
    (mem : (fieldLength, value) ∈ packet.entries) :
    (encodeFieldValue value value.encode fieldLength).length ≤ packet.encode.length := by
  obtain ⟨set, inside, mem⟩ := List.mem_flatMap.mp mem
  obtain ⟨data, inside', mem⟩ := List.mem_flatMap.mp mem
  obtain ⟨record, inside'', found⟩ := List.mem_filterMap.mp inside'
  have written : record.encode = encodeRecord data := by
    cases record <;> cases found <;> rfl
  have first := length_entries_le mem
  have second :=
    List.Sublist.length_le (List.sublist_flatten_of_mem
      (List.mem_map_of_mem (f := Record.encode) inside''))
  have third :=
    List.Sublist.length_le (List.sublist_flatten_of_mem
      (List.mem_map_of_mem (f := Set.encode) inside))
  rw [← List.flatMap_def] at second third
  rw [written] at second
  change _ ≤ set.content.length at second
  rw [Set.length_encode] at third
  rw [IpfixPacket.encode, List.length_append]
  omega

/-! ### When the bytes are right -/

theorem declaredLength_eq (first length : UInt16) (rest : List UInt8) :
    declaredLength (putU16 first ++ putU16 length ++ rest) = length.toNat := by
  have skip : (putU16 first ++ putU16 length ++ rest).drop 2 = putU16 length ++ rest := by
    rw [List.append_assoc]
    exact List.drop_left' (length_bytes 2 _)
  have next : (putU16 length ++ rest).take 2 = bytes 2 length.toNat :=
    List.take_left' (length_bytes 2 _)
  rw [declaredLength, skip, next, value_bytes_of_lt length.toNat_lt]

theorem declaredLength_encodeItem (item : SubTemplateMultiItem FieldValue) :
    declaredLength (encodeItem item) = item.length.toNat := by
  obtain ⟨templateId, length, data⟩ := item
  exact declaredLength_eq templateId length _

theorem toNat_ofNat_add {header content : Nat} (fits : header + content < 2 ^ 16) :
    (UInt16.ofNat header + UInt16.ofNat content).toNat = header + content := by
  rw [← UInt16.ofNat_add]
  exact UInt16.toNat_ofNat_of_lt' fits

theorem declaredLength_set {set : Set} (fits : set.encode.length < 2 ^ 16) :
    declaredLength set.encode = set.encode.length := by
  rw [Set.length_encode] at fits ⊢
  exact (declaredLength_eq set.id _ _).trans (toNat_ofNat_add fits)

theorem length_packet (packet : IpfixPacket) :
    packet.encode.length = IPFIX_HEADER_SIZE + (packet.sets.flatMap Set.encode).length := by
  simp only [IpfixPacket.encode, putU16, putU32, List.length_append, length_bytes]
  rfl

theorem declaredLength_packet {packet : IpfixPacket} (fits : packet.encode.length < 2 ^ 16) :
    declaredLength packet.encode = packet.encode.length := by
  rw [length_packet] at fits ⊢
  refine Eq.trans ?_ (toNat_ofNat_add fits)
  rw [IpfixPacket.encode]
  simp only [List.append_assoc]
  rw [← List.append_assoc]
  exact declaredLength_eq packet.header.version _ _

theorem fieldTrue_iff {fieldLength : UInt16} {value : FieldValue}
    (short : (encodeFieldValue value value.encode fieldLength).length < 2 ^ 16) :
    FieldTrue fieldLength value ↔
      (fieldLength ≠ IPFIX_VARIABLE_LENGTH → fieldLength ≠ 0 → value.adapts = false →
        value.size = fieldLength.toNat) := by
  have prefixed : fieldLength = IPFIX_VARIABLE_LENGTH →
      parseFieldLength fieldLength (encodeFieldValue value value.encode fieldLength) =
        some (value.encode, value.encode.length) := by
    rintro rfl
    rw [encodeFieldValue, if_pos rfl] at short ⊢
    rw [List.length_append] at short
    exact reads_lengthPrefix (by omega) value.encode
  constructor
  · rintro ⟨-, fixed⟩ var nonzero own
    have width := fixed var nonzero
    rwa [length_encodeFieldValue, sizeIn, if_neg var, if_pos (by simp [own]),
      length_encode] at width
  · refine fun sized => ⟨prefixed, fun var nonzero => ?_⟩
    rw [length_encodeFieldValue, sizeIn, if_neg var]
    cases own : value.adapts with
    | false => rw [if_pos (by simp), length_encode, sized var nonzero own]
    | true => rw [if_neg (by simp [nonzero])]

/-! ### What the parser returns -/

/-- A value of the parser is of the declared size, unless its variant can be written at any width
or it is a list. -/
def ScalarSized (fieldLength : UInt16) (value : FieldValue) : Prop :=
  value.isList = false → value.adapts = false → fieldLength ≠ IPFIX_VARIABLE_LENGTH →
    fieldLength ≠ 0 →
    value.size = fieldLength.toNat

def AllSized (values : List (UInt16 × FieldValue)) : Prop :=
  ∀ fieldLength value, Within values fieldLength value → ScalarSized fieldLength value

structure ReadAt (length : Nat) (value : FieldValue) : Prop where
  size : value.isList = false → value.adapts = false → value.size = length
  within : AllSized value.children

theorem allSized_of_readAt {values : List (UInt16 × FieldValue)}
    (each : ∀ fieldLength value, (fieldLength, value) ∈ values →
      ∃ length, (fieldLength ≠ IPFIX_VARIABLE_LENGTH → length = fieldLength.toNat) ∧
        ReadAt length value) :
    AllSized values := by
  refine forall_within.mpr fun fieldLength value mem => ?_
  obtain ⟨length, fixed, read⟩ := each fieldLength value mem
  exact ⟨fun scalar own var _ => (read.size scalar own).trans (fixed var), read.within⟩

theorem readAt_scalar {length : Nat} {value : FieldValue} (leaf : value.children = [])
    (size : value.adapts = false → value.size = length) : ReadAt length value := by
  refine ⟨fun _ own => size own, fun fieldLength inner within => ?_⟩
  rw [leaf] at within
  obtain mem | ⟨_, _, mem, _⟩ := within.cases_top <;> cases mem

theorem isList_parseScalar {dataType : DataType} {length : Nat} {input rest : List UInt8}
    {value : FieldValue} (run : parseScalar dataType length input = some (rest, value)) :
    value.isList = false := by
  unfold parseScalar at run
  split at run
  · refine map_forall (Q := fun value => value.isList = false) (fun v => ?_) run
    cases v <;> rfl
  iterate 21 exact map_forall (Q := fun value => value.isList = false) (fun _ => rfl) run
  · refine map_forall (Q := fun value => value.isList = false) (fun v => ?_) run
    cases v <;> rfl
  · exact map_forall (Q := fun value => value.isList = false) (fun _ => rfl) run
  · refine map_forall (Q := fun value => value.isList = false) (fun v => ?_) run
    cases v <;> rfl
  iterate 3 exact map_forall (Q := fun value => value.isList = false) (fun _ => rfl) run

theorem children_of_scalar {value : FieldValue} (scalar : value.isList = false) :
    value.children = [] := by
  cases value <;> first | rfl | cases scalar

theorem readAt_parseScalar {dataType : DataType} {length : Nat} {input rest : List UInt8}
    {value : FieldValue} (run : parseScalar dataType length input = some (rest, value)) :
    ReadAt length value := by
  unfold parseScalar at run
  split at run
  · refine map_forall (fun v => ?_) run
    cases v <;> exact readAt_scalar rfl fun own => by first | rfl | cases own
  iterate 21 exact map_forall (fun v => readAt_scalar rfl fun own => by first | rfl | cases own) run
  · refine map_forall (fun v => ?_) run
    cases v <;> exact readAt_scalar rfl fun own => by cases own
  · exact map_forall (fun v => readAt_scalar rfl fun _ => by rfl) run
  · refine map_forall (fun v => ?_) run
    cases v <;> exact readAt_scalar rfl fun own => by first | rfl | cases own
  iterate 2 exact map_forall (fun v => readAt_scalar rfl fun _ => by rfl) run
  · exact map_forall (fun v => readAt_scalar rfl fun own => by cases own) run

section
variable {clock : Nat → Instant} {self : IpfixParser} {domain : UInt32} {parseValue : ValueParser}

theorem RecordRead.entry {record : DataRecord} (read : RecordRead parseValue record)
    {fieldLength : UInt16} {value : FieldValue} (mem : (fieldLength, value) ∈ entries record) :
    ∃ dataType, ReadIn parseValue fieldLength dataType value := by
  rw [entries, ← List.map_uncurry_zip_eq_zipWith] at mem
  obtain ⟨⟨field, value'⟩, inside, same⟩ := List.mem_map.mp mem
  cases same
  exact ⟨field.dataType, (List.forall₂_iff_zip.mp read).2 inside⟩

theorem RecordRead.flatMap_entry {data : List DataRecord}
    (read : ∀ record ∈ data, RecordRead parseValue record) {fieldLength : UInt16}
    {value : FieldValue} (mem : (fieldLength, value) ∈ data.flatMap entries) :
    ∃ dataType, ReadIn parseValue fieldLength dataType value := by
  obtain ⟨record, inside, mem⟩ := List.mem_flatMap.mp mem
  exact (read record inside).entry mem

/-- Values that were each read at their length, in fields of a declared length. -/
theorem allSized_of_readIn {values : List (UInt16 × FieldValue)}
    (reads : ∀ dataType length input s rest value s',
      parseValue dataType length input s = (some (rest, value), s') → ReadAt length value)
    (each : ∀ fieldLength value, (fieldLength, value) ∈ values →
      ∃ dataType, ReadIn parseValue fieldLength dataType value) :
    AllSized values := by
  refine allSized_of_readAt fun fieldLength value mem => ?_
  obtain ⟨dataType, input, mid, length, t, rest, t', first, read⟩ := each fieldLength value mem
  exact ⟨length, fun fixed => parseFieldLength_fixed first fixed, reads _ _ _ _ _ _ _ read⟩

theorem readAt_parseFieldValue (levels : Nat) {dataType : DataType} {length : Nat}
    {input rest : List UInt8} {s s' : Nat} {value : FieldValue}
    (run : parseFieldValue clock self domain levels dataType length input s =
      (some (rest, value), s')) :
    ReadAt length value := by
  induction levels generalizing dataType length input s rest value s' with
  | zero => exact readAt_parseScalar (congrArg Prod.fst run)
  | succ levels ih =>
    have below : ∀ dataType length input s rest value s',
        parseFieldValue clock self domain levels dataType length input s =
          (some (rest, value), s') →
          ReadAt length value := fun _ _ _ _ _ _ _ run => ih run
    have list : ∀ {value : FieldValue}, value.isList = true →
        (∀ fieldLength inner, (fieldLength, inner) ∈ value.children →
          ∃ dataType, ReadIn (parseFieldValue clock self domain levels) fieldLength dataType
            inner) → ReadAt length value :=
      fun list each => ⟨fun scalar => absurd list (Bool.not_eq_true _ ▸ scalar),
        allSized_of_readIn below each⟩
    rcases parseFieldValue_read levels run with scalar | ⟨semantic, field, content, elementType,
      rfl, each⟩ |
      ⟨semantic, templateId, data, rfl, each⟩ | ⟨semantic, items, rfl, each⟩
    · exact readAt_parseScalar scalar
    · refine list rfl fun fieldLength element mem => ?_
      obtain ⟨_, inside, same⟩ := List.mem_map.mp mem
      cases same
      exact ⟨elementType, each _ inside⟩
    · exact list rfl fun fieldLength inner mem => RecordRead.flatMap_entry each mem
    · refine list rfl fun fieldLength inner mem => ?_
      obtain ⟨item, inside, mem⟩ := List.mem_flatMap.mp mem
      exact RecordRead.flatMap_entry (each item inside) mem

theorem allSized_parse {input rest : List UInt8} {w w' : World} {packet : IpfixPacket}
    (run : parse clock input w = (some (rest, packet), w')) : AllSized packet.entries := by
  refine allSized_of_readAt fun fieldLength value mem => ?_
  obtain ⟨set, inside, mem⟩ := List.mem_flatMap.mp mem
  obtain ⟨record, inside', mem⟩ := List.mem_flatMap.mp mem
  obtain ⟨self, domain, read⟩ := parse_read run set inside record inside'
  obtain ⟨dataType, _, _, length, _, _, _, first, read⟩ := read.entry mem
  exact ⟨length, fun fixed => parseFieldLength_fixed first fixed,
    readAt_parseFieldValue MAX_LIST_DEPTH read⟩

end

/-- The sizes that are carried over, or that the field declares and the encoder cannot choose, are
those the values add up to. -/
structure IpfixPacket.ListsFit (packet : IpfixPacket) : Prop where
  items : ∀ fieldLength value, Within packet.entries fieldLength value →
    ∀ item ∈ value.items, item.length.toNat = sizeItem item
  fields : ∀ fieldLength value, Within packet.entries fieldLength value → value.isList = true →
    fieldLength ≠ IPFIX_VARIABLE_LENGTH → fieldLength ≠ 0 → value.size = fieldLength.toNat

/-- Encoding a packet that was parsed tells the truth about lengths exactly where its lists fit. -/
theorem lengthsTrue_iff_listsFit {clock : Nat → Instant} {input rest : List UInt8} {w w' : World}
    {packet : IpfixPacket} (run : parse clock input w = (some (rest, packet), w'))
    (short : packet.encode.length ≤ 65535) :
    packet.LengthsTrue ↔ packet.ListsFit := by
  have sized := allSized_parse run
  have fits : packet.encode.length < 2 ^ 16 := Nat.lt_succ_of_le short
  have part : ∀ fieldLength value, Within packet.entries fieldLength value →
      (encodeFieldValue value value.encode fieldLength).length < 2 ^ 16 := fun _ _ within =>
    Nat.lt_of_le_of_lt (length_within_le (fun _ _ mem => length_packet_le mem) within) fits
  constructor
  · rintro ⟨-, -, fields, items⟩
    refine ⟨fun fieldLength value within item mem => ?_,
      fun fieldLength value within list var nonzero => ?_⟩
    · have declared := items fieldLength value within item mem
      rwa [declaredLength_encodeItem, length_encodeItem] at declared
    · exact (fieldTrue_iff (part _ _ within)).mp (fields _ _ within) var nonzero
        (adapts_of_isList list)
  · rintro ⟨items, fields⟩
    refine ⟨declaredLength_packet fits, fun set mem => declaredLength_set ?_,
      fun fieldLength value within => ?_, fun fieldLength value within item mem => ?_⟩
    · have part :=
        List.Sublist.length_le (List.sublist_flatten_of_mem
          (List.mem_map_of_mem (f := Set.encode) mem))
      rw [← List.flatMap_def] at part
      rw [length_packet] at fits
      omega
    · refine (fieldTrue_iff (part _ _ within)).mpr fun var nonzero own => ?_
      cases list : value.isList with
      | true => exact fields _ _ within list var nonzero
      | false => exact sized _ _ within list own var nonzero
    · rw [declaredLength_encodeItem, length_encodeItem]
      exact items _ _ within item mem

def multiListRegistry : IERegistry :=
  IERegistry.new.addElement 293 none "subTemplateMultiList" .subTemplateMultiList

/-- Template 256 with a multi-list, and a record whose list has an item of eight bytes under a
template that was never sent. -/
def unknownItemMessage : List UInt8 :=
  [0x00, 0x0a, 0x00, 0x2a, 0, 0, 0, 0, 0, 0, 0, 1, 0, 0, 0, 7,
    0x00, 0x02, 0x00, 0x0c, 0x01, 0x00, 0x00, 0x01, 0x01, 0x25, 0xff, 0xff,
    0x01, 0x00, 0x00, 0x0e, 0x09, 0xff, 0x03, 0xe7, 0x00, 0x08, 1, 2, 3, 4]

/-- The item is read without its content and written with its old length. -/
theorem unknownItem_lies :
    ¬ ∀ (clock : Nat → Instant) (w : World) (input rest : List
      UInt8) (packet : IpfixPacket) (w' : World),
      parse clock input w = (some (rest, packet), w') → packet.encode.length ≤ 65535 →
        packet.LengthsTrue := by
  intro claim
  have shape :
      (parse (fun _ => 0) unknownItemMessage (World.new (fun _ => 0) multiListRegistry 1)).1.map
      (fun r => (r.2.entries.map fun entry => entry.2.items.map fun item =>
        (item.length.toNat, (encodeItem item).length),
        decide (r.2.encode.length ≤ 65535))) = some ([[(8, 4)]], true) := by decide +kernel
  rcases run : parse (fun _ => 0) unknownItemMessage (World.new (fun _ => 0) multiListRegistry 1)
    with
    ⟨_ | ⟨rest, packet⟩, w'⟩ <;> rw [run] at shape
  · cases shape
  · obtain ⟨entries, short⟩ := Prod.mk.inj (Option.some.inj shape)
    obtain ⟨⟨fieldLength, value⟩, others, found, items, -⟩ := List.map_eq_cons_iff.mp entries
    obtain ⟨item, _, found', lengths, -⟩ := List.map_eq_cons_iff.mp items
    have declared := (claim _ _ _ _ _ _ run (of_decide_eq_true short)).items fieldLength value
      (.top (found ▸ List.mem_cons_self)) item (found' ▸ List.mem_cons_self)
    rw [declaredLength_encodeItem, (Prod.mk.inj lengths).1, (Prod.mk.inj lengths).2] at declared
    cases declared

theorem unknownItem_decided :
    ∃ packet w', parse (fun _ => 0) unknownItemMessage
      (World.new (fun _ => 0) multiListRegistry 1) = (some ([], packet), w') ∧
      (packet.LengthsTrue ↔ packet.ListsFit) := by
  have shape :
      (parse (fun _ => 0) unknownItemMessage (World.new (fun _ => 0) multiListRegistry 1)).1.map
      (fun r => (r.1, decide (r.2.encode.length ≤ 65535))) = some ([], true) := by decide +kernel
  rcases run : parse (fun _ => 0) unknownItemMessage (World.new (fun _ => 0) multiListRegistry 1)
    with
    ⟨_ | ⟨rest, packet⟩, w'⟩ <;> rw [run] at shape
  · cases shape
  · obtain ⟨rfl, short⟩ := Prod.mk.inj (Option.some.inj shape)
    exact ⟨packet, w', rfl, lengthsTrue_iff_listsFit run (of_decide_eq_true short)⟩

end Rustflow.Ipfix
