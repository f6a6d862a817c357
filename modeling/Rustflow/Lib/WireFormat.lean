import Rustflow.Lib.Combinator

/-!
# The protobuf wire format

A message is a sequence of numbered fields. Each is written as a key, which holds its number and the
kind of its value, and the value. Integers are written in base 128, and bytes come after their
length. Messages in a stream each come after their length, too.

`readFields_encode` and `readStream_encode` read back what was written.
-/

namespace WireFormat
open Combinator

/-! ### Integers -/

/-- The least significant digit comes first, and all but the last byte have the top bit set. -/
def varintLoop : Nat → Nat → List UInt8
  | 0, _ => []
  | fuel + 1, n =>
    if n < 128 then [UInt8.ofNat n] else UInt8.ofNat (n % 128 + 128) :: varintLoop fuel (n / 128)

/-- An integer of 64 bits has ten digits. -/
def varintBytes (n : Nat) : List UInt8 := varintLoop 10 n

def readVarintLoop : Nat → Parser Nat
  | 0 => fail
  | fuel + 1 => do
    let byte ← beU8
    if byte < 128 then return byte.toNat
    else do
      let high ← readVarintLoop fuel
      return byte.toNat % 128 + 128 * high

def varint : Parser Nat := readVarintLoop 10

theorem reads_byte (b : UInt8) : Reads beU8 [b] b := by
  have read := reads_beU8 b
  have one : BigEndian.bytes 1 b.toNat = [b] := by simp [BigEndian.bytes]
  rwa [one] at read

theorem reads_varintLoop {fuel n : Nat} (small : n < 128 ^ fuel) (positive : 0 < fuel) :
    Reads (readVarintLoop fuel) (varintLoop fuel n) n := by
  induction fuel generalizing n with
  | zero => cases positive
  | succ fuel ih =>
    unfold varintLoop readVarintLoop
    split
    · next digit =>
      have same : (UInt8.ofNat n).toNat = n := by
        rw [UInt8.toNat_ofNat']
        omega
      have low : UInt8.ofNat n < 128 := UInt8.lt_iff_toNat_lt.mpr (by rw [same]; exact digit)
      refine (reads_byte (UInt8.ofNat n)).bind ?_
      rw [if_pos low, same]
      exact reads_pure n
    · next more =>
      have same : (UInt8.ofNat (n % 128 + 128)).toNat = n % 128 + 128 := by
        rw [UInt8.toNat_ofNat']
        omega
      have high : ¬UInt8.ofNat (n % 128 + 128) < 128 := by
        rw [UInt8.lt_iff_toNat_lt, same]
        show ¬n % 128 + 128 < 128
        omega
      have less : n / 128 < 128 ^ fuel := by
        rw [Nat.div_lt_iff_lt_mul (by omega), ← pow_succ]
        exact small
      have some : 0 < fuel := by
        refine Nat.pos_of_ne_zero fun zero => ?_
        subst zero
        exact more small
      refine (reads_byte (UInt8.ofNat (n % 128 + 128))).bind ?_
      rw [if_neg high, same]
      have rest := (ih less some).map fun high => (n % 128 + 128) % 128 + 128 * high
      rwa [show (n % 128 + 128) % 128 + 128 * (n / 128) = n by omega] at rest

theorem reads_varint {n : Nat} (small : n < 2 ^ 64) : Reads varint (varintBytes n) n :=
  reads_varintLoop (Nat.lt_trans small (by norm_num)) (by omega)

theorem varintBytes_ne_nil (n : Nat) : varintBytes n ≠ [] := by
  unfold varintBytes varintLoop
  split <;> exact List.cons_ne_nil _ _

/-! ### Fields -/

inductive Value where
  | varint (n : Nat)
  | delimited (bytes : List UInt8)
  deriving DecidableEq

def Value.wireType : Value → Nat
  | .varint _ => 0
  | .delimited _ => 2

/-- Bytes after their length. -/
def delimit (bytes : List UInt8) : List UInt8 := varintBytes bytes.length ++ bytes

def delimited : Parser (List UInt8) := do
  let length ← varint
  take length

def Value.encode : Value → List UInt8
  | .varint n => varintBytes n
  | .delimited bytes => delimit bytes

structure WireField where
  number : Nat
  value : Value
  deriving DecidableEq

def WireField.encode (self : WireField) : List UInt8 :=
  varintBytes (self.number * 8 + self.value.wireType) ++ self.value.encode

def field : Parser WireField := do
  let key ← varint
  match key % 8 with
  | 0 => do
    let n ← varint
    return ⟨key / 8, .varint n⟩
  | 2 => do
    let bytes ← delimited
    return ⟨key / 8, .delimited bytes⟩
  | _ => fail

/-- What can be written. -/
def Value.Fits : Value → Prop
  | .varint n => n < 2 ^ 64
  | .delimited bytes => bytes.length < 2 ^ 64

def WireField.Fits (self : WireField) : Prop := self.number < 2 ^ 29 ∧ self.value.Fits

theorem reads_delimit {bytes : List UInt8} (short : bytes.length < 2 ^ 64) :
    Reads delimited (delimit bytes) bytes :=
  (reads_varint short).bind (reads_take rfl)

theorem reads_field {self : WireField} (fits : self.Fits) : Reads field self.encode self := by
  obtain ⟨number, value⟩ := self
  obtain ⟨small, fits⟩ := fits
  dsimp only at small
  cases value with
  | varint n =>
    refine (reads_varint (n := number * 8 + 0) (by omega)).bind ?_
    rw [show (number * 8 + 0) % 8 = 0 by omega, show (number * 8 + 0) / 8 = number by omega]
    exact (reads_varint fits).map fun n => WireField.mk number (.varint n)
  | delimited bytes =>
    refine (reads_varint (n := number * 8 + 2) (by omega)).bind ?_
    rw [show (number * 8 + 2) % 8 = 2 by omega, show (number * 8 + 2) / 8 = number by omega]
    exact (reads_delimit fits).map fun bytes => WireField.mk number (.delimited bytes)

theorem length_value_le {self : WireField} {bytes : List UInt8}
    (value : self.value = .delimited bytes) :
    bytes.length ≤ self.encode.length := by
  unfold WireField.encode
  rw [value]
  show _ ≤ (_ ++ (varintBytes bytes.length ++ bytes)).length
  rw [List.length_append, List.length_append]
  omega

/-- In a message that is short enough, so are the fields. -/
theorem fits_of_short {fields : List WireField}
    (short : (fields.flatMap WireField.encode).length < 2 ^ 64)
    (numbers : ∀ field ∈ fields, field.number < 2 ^ 29)
    (integers : ∀ field ∈ fields, ∀ n, field.value = .varint n → n < 2 ^ 64) :
    ∀ field ∈ fields, field.Fits := by
  intro field mem
  refine ⟨numbers field mem, ?_⟩
  cases value : field.value with
  | varint n => exact integers field mem n value
  | delimited bytes =>
    have part : field.encode.length ≤ (fields.flatMap WireField.encode).length :=
      (List.sublist_flatten_of_mem (List.mem_map_of_mem mem)).length_le
    exact Nat.lt_of_le_of_lt ((length_value_le value).trans part) short

theorem encode_ne_nil (self : WireField) : self.encode ≠ [] := by
  unfold WireField.encode
  exact List.append_ne_nil_of_left_ne_nil (varintBytes_ne_nil _) _

/-! ### Messages -/

/-- The value of a parser that uses up all of the input. -/
def whole {α : Type} (p : Parser α) (input : List UInt8) : Option α :=
  match p input with
  | some ([], a) => some a
  | _ => none

def readFields (input : List UInt8) : Option (List WireField) := whole field.many0 input

/-- The messages of a stream. -/
def readStream (input : List UInt8) : Option (List (List UInt8)) := whole delimited.many0 input

theorem varint_nil : varint [] = none := rfl

theorem readFields_encode {fields : List WireField} (fits : ∀ field ∈ fields, field.Fits) :
    readFields (fields.flatMap WireField.encode) = some fields := by
  have read : field.many0 (fields.flatMap WireField.encode ++ []) = some ([], fields) :=
    Parser.many0_reads
    (fun self mem => reads_field (fits self mem)) (fun self _ => encode_ne_nil self)
    (bind_of_none varint_nil)
  rw [List.append_nil] at read
  rw [readFields, whole, read]

theorem readStream_encode {messages : List (List UInt8)}
    (short : ∀ message ∈ messages, message.length < 2 ^ 64) :
    readStream (messages.flatMap delimit) = some messages := by
  have read : delimited.many0 (messages.flatMap delimit ++ []) = some ([], messages) :=
    Parser.many0_reads
    (fun message mem => reads_delimit (short message mem))
    (fun message _ => List.append_ne_nil_of_left_ne_nil (varintBytes_ne_nil _) _)
    (bind_of_none varint_nil)
  rw [List.append_nil] at read
  rw [readStream, whole, read]

/-! ### Values by number -/

/-- The values of the fields with a number, in order. -/
def valuesOf (number : Nat) (fields : List WireField) : List Value :=
  fields.filterMap fun field => if field.number = number then some field.value else none

/-- The last value counts. -/
def valueOf (number : Nat) (fields : List WireField) : Option Value :=
  (valuesOf number fields).getLast?

/-- The fields of a table that have a value. -/
def present (table : List (Nat × Option Value)) : List WireField :=
  table.filterMap fun (number, value) => value.map (WireField.mk number)

theorem mem_present {table : List (Nat × Option Value)} {field : WireField} :
    field ∈ present table ↔ (field.number, some field.value) ∈ table := by
  unfold present
  rw [List.mem_filterMap]
  constructor
  · rintro ⟨⟨_, _⟩, mem, some⟩
    obtain ⟨_, rfl, rfl⟩ := Option.map_eq_some_iff.mp some
    exact mem
  · intro mem
    exact ⟨_, mem, rfl⟩

theorem valuesOf_absent {table : List (Nat × Option Value)} {number : Nat}
    (absent : number ∉ table.map Prod.fst) :
    valuesOf number (present table) = [] := by
  refine List.filterMap_eq_nil_iff.mpr fun field mem => if_neg ?_
  rintro rfl
  exact absent (List.mem_map_of_mem (f := Prod.fst) (mem_present.mp mem))

theorem valuesOf_present {table : List (Nat × Option Value)} (distinct : (table.map Prod.fst).Nodup)
    {number : Nat} {value : Option Value} (mem : (number, value) ∈ table) :
    valuesOf number (present table) = value.toList := by
  induction table with
  | nil => cases mem
  | cons entry table ih =>
    obtain ⟨first, there⟩ := entry
    rw [List.map_cons, List.nodup_cons] at distinct
    rcases List.mem_cons.mp mem with same | mem
    · cases same
      have rest := valuesOf_absent distinct.1
      unfold present valuesOf at rest ⊢
      cases value with
      | none => simpa using rest
      | some value => simpa using rest
    · have ne : first ≠ number := by
        intro same
        have key := List.mem_map_of_mem (f := Prod.fst) mem
        exact distinct.1 (same ▸ key)
      have rest := ih distinct.2 mem
      unfold present valuesOf at rest ⊢
      cases there with
      | none => simpa using rest
      | some there => simpa [ne] using rest

theorem valueOf_of_perm {number : Nat} {value : Option Value} {fields : List WireField}
    (perm : (valuesOf number fields).Perm value.toList) : valueOf number fields = value := by
  unfold valueOf
  cases value with
  | none => rw [List.perm_nil.mp perm]; rfl
  | some value => rw [List.perm_singleton.mp perm]; rfl

theorem valuesOf_append (number : Nat) (fields fields' : List WireField) :
    valuesOf number (fields ++ fields') = valuesOf number fields ++ valuesOf number fields' :=
  List.filterMap_append

theorem valuesOf_repeated (number number' : Nat) (values : List Value) :
    valuesOf number (values.map (WireField.mk number')) = if number' = number then values
    else [] := by
  unfold valuesOf
  induction values with
  | nil => exact (ite_self []).symm
  | cons value values ih =>
    rw [List.map_cons, List.filterMap_cons, ih]
    by_cases same : number' = number <;> simp [same]

/-- A message of single fields, and of one that is repeated, in any order. -/
theorem values_of_perm {table : List (Nat × Option Value)} {number : Nat} {values : List Value}
    {fields : List WireField} (distinct : (number :: table.map Prod.fst).Nodup)
    (perm : fields.Perm (present table ++ values.map (WireField.mk number))) :
    (∀ entry ∈ table, valueOf entry.1 fields = entry.2) ∧ (valuesOf number fields).Perm values := by
  obtain ⟨repeated, distinct⟩ := List.nodup_cons.mp distinct
  constructor
  · rintro ⟨single, value⟩ mem
    have ne : number ≠ single := by
      intro same
      rw [same] at repeated
      exact repeated (List.mem_map_of_mem (f := Prod.fst) mem)
    have there : (valuesOf single fields).Perm _ := perm.filterMap _
    rw [← valuesOf, valuesOf_append, valuesOf_present distinct mem, valuesOf_repeated, if_neg ne,
      List.append_nil] at there
    exact valueOf_of_perm there
  · have there : (valuesOf number fields).Perm _ := perm.filterMap _
    rw [← valuesOf, valuesOf_append, valuesOf_repeated, if_pos rfl] at there
    rwa [valuesOf_absent repeated, List.nil_append] at there

end WireFormat
