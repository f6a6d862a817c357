import Rustflow.Ipfix.Encoder
import Rustflow.Ipfix.Parser

/-!
# Values on the wire

Which values a field of a type and a width carries unchanged. `Matches` lists them, each variant
with the widths at which the parser reads it and the range it has there.
-/

namespace Rustflow.Ipfix
open Combinator
open BigEndian

/-- The widths at which values of a type are decoded; one of any other width is kept as its
octets. -/
def decodes : DataType → Nat → Bool
  | .octetArray, _ => false
  | .unsigned, n | .signed, n => 1 ≤ n ∧ n ≤ 8
  | .float, n => n = 4 ∨ n = 8
  | .boolean, n => n = 1
  | .macAddress, n => n = 6
  | .dateTimeSeconds, n | .ipv4Address, n => n = 4
  | .dateTimeMilliseconds, n | .dateTimeMicroseconds, n | .dateTimeNanoseconds, n => n = 8
  | .ipv6Address, n => n = 16
  | .string, _ | .basicList, _ | .subTemplateList, _ | .subTemplateMultiList, _ => true

/-- A value that a field of a type carries in so many bytes. -/
inductive Matches : DataType → Nat → FieldValue → Prop where
  | unsigned8 (v : UInt8) : Matches .unsigned 1 (.unsigned8 v)
  | unsigned16 (v : UInt16) : Matches .unsigned 2 (.unsigned16 v)
  | unsigned24 (v : UInt32) (fits : v.toNat < 256 ^ 3) : Matches .unsigned 3 (.unsigned32 v)
  | unsigned32 (v : UInt32) : Matches .unsigned 4 (.unsigned32 v)
  | unsigned64 (n : Nat) (v : UInt64) (wide : 5 ≤ n ∧ n ≤ 8) (fits : v.toNat < 256 ^ n) :
      Matches .unsigned n (.unsigned64 v)
  | signed8 (v : Int8) : Matches .signed 1 (.signed8 v)
  | signed16 (v : Int16) : Matches .signed 2 (.signed16 v)
  | signed24 (v : Int32) (fits : SignedFits 3 v.toInt) : Matches .signed 3 (.signed32 v)
  | signed32 (v : Int32) : Matches .signed 4 (.signed32 v)
  | signed64 (n : Nat) (v : Int64) (wide : 5 ≤ n ∧ n ≤ 8) (fits : SignedFits n v.toInt) :
      Matches .signed n (.signed64 v)
  | float32 (bits : UInt32) : Matches .float 4 (.float32 bits)
  | float64 (bits : UInt64) : Matches .float 8 (.float64 bits)
  | boolean (v : Bool) : Matches .boolean 1 (.boolean v)
  | macAddress (v : MacAddr6) : Matches .macAddress 6 (.macAddress v)
  | ipv4Address (v : Ipv4Addr) : Matches .ipv4Address 4 (.ipv4Address v)
  | ipv6Address (v : Ipv6Addr) : Matches .ipv6Address 16 (.ipv6Address v)
  | string (n : Nat) (v : String) (fits : (Utf8.bytes v).length ≤ n) (clean : v.toList.getLast? ≠
      some '\x00') :
      Matches .string n (.string v)
  | octetArray (dataType : DataType) (n : Nat) (v : List UInt8) (raw : decodes dataType n = false)
      (whole : v.length = n) : Matches dataType n (.octetArray v)
  | dateTimeSeconds (v : UInt32) : Matches .dateTimeSeconds 4
      (.dateTimeSeconds ⟨v.toNat * 1000000000⟩)
  | dateTimeMilliseconds (millis : Nat) (date : (millis : Int) / 1000 ≤ DateTime.MAX_SECS) :
      Matches .dateTimeMilliseconds 8 (.dateTimeMilliseconds ⟨millis * 1000000⟩)
  | dateTimeMicroseconds (v : DateTime) (lossless : ntpToDatetime (datetimeToNtp v).1
      (datetimeToNtp v).2 = some v) :
      Matches .dateTimeMicroseconds 8 (.dateTimeMicroseconds v)
  | dateTimeNanoseconds (v : DateTime) (lossless : ntpToDatetime (datetimeToNtp v).1
      (datetimeToNtp v).2 = some v) :
      Matches .dateTimeNanoseconds 8 (.dateTimeNanoseconds v)

/-! ### Integers -/

theorem putUint_eq {n : Nat} (le : n ≤ 8) (v : UInt64) : putUint v n = bytes n v.toNat := by
  have whole : putU64 v = bytes (8 - n + n) v.toNat := by rw [Nat.sub_add_cancel le, putU64]
  have length : (putU64 v).length = 8 := length_bytes 8 _
  rw [putUint, length, if_pos le, whole, drop_bytes]

theorem putInt_eq {n : Nat} (le : n ≤ 8) (v : Int64) : putInt v n = signedBytes n v.toInt := by
  have residue : v.toUInt64.toNat = (v.toInt % 256 ^ 8).toNat := toNat_eq_residue v.toBitVec
  have same : putInt v n = putUint v.toUInt64 n := by
    have length : (putU64 v.toUInt64).length = 8 := length_bytes 8 _
    rw [putInt, putUint, length, if_pos le, if_pos le]
  rw [same, putUint_eq le, residue, bytes_residue le]

theorem putU8_eq (v : UInt8) : putU8 v = bytes 1 v.toNat := by
  simp [putU8, bytes]

theorem encode_signed8 (v : Int8) : (FieldValue.signed8 v).encode = signedBytes 1 v.toInt :=
  (putU8_eq v.toUInt8).trans (congrArg (bytes 1) (toNat_eq_residue v.toBitVec))

theorem encode_signed16 (v : Int16) : (FieldValue.signed16 v).encode = signedBytes 2 v.toInt :=
  congrArg (bytes 2) (toNat_eq_residue v.toBitVec)

theorem encode_signed32 (v : Int32) : (FieldValue.signed32 v).encode = signedBytes 4 v.toInt :=
  congrArg (bytes 4) (toNat_eq_residue v.toBitVec)

theorem encode_signed64 (v : Int64) : (FieldValue.signed64 v).encode = signedBytes 8 v.toInt :=
  congrArg (bytes 8) (toNat_eq_residue v.toBitVec)

theorem putFixed_eq {data : List UInt8} {length : Nat} (fits : data.length ≤ length) :
    putFixed data length = data ++ List.replicate (length - data.length) 0 := by
  rw [putFixed, List.take_of_length_le fits]

theorem encodeFixed_string {v : String} {n : Nat} (fits : (Utf8.bytes v).length ≤ n)
    (natural : List UInt8) :
    encodeFixed (.string v) natural n = Utf8.bytes v ++
      List.replicate (n - (Utf8.bytes v).length) 0 := by
  rw [encodeFixed, Utf8.floorCharBoundary_of_le fits, List.take_length, putFixed_eq fits]

theorem parseScalar_raw {dataType : DataType} {n : Nat} (raw : decodes dataType n = false) :
    parseScalar dataType n = (do return .octetArray (← vector n)) := by
  unfold parseScalar
  split <;> first | rfl | cases raw

theorem reads_ntp {v back : DateTime}
    (value : ntpToDatetime (datetimeToNtp v).1 (datetimeToNtp v).2 = some back) :
    Reads timestampMicros (putU32 (datetimeToNtp v).1 ++ putU32 (datetimeToNtp v).2) back := by
  have pair := (reads_beU32 (datetimeToNtp v).1).bind (f := fun secs => do return (secs, ← beU32))
    ((reads_beU32 (datetimeToNtp v).2).map fun fraction => ((datetimeToNtp v).1, fraction))
  exact pair.mapOpt value

theorem reads_timestampMillis {millis : Nat} (date : (millis : Int) / 1000 ≤ DateTime.MAX_SECS) :
    Reads timestampMillis (putU64 (asU64 millis)) (some ⟨millis * 1000000⟩) := by
  unfold DateTime.MAX_SECS at date
  have value : (asU64 millis).toNat = millis := by
    exact_mod_cast toNat_asU64 (x := millis) (by omega) (by omega)
  have secs : (⟨millis * 1000000⟩ : DateTime).timestamp = millis / 1000 := by
    show (millis : Int) * 1000000 / 1000000000 = millis / 1000
    omega
  have millis_ : (⟨millis * 1000000⟩ : DateTime).timestampMillis = millis :=
    Int.mul_ediv_cancel _ (by decide)
  have kept := DateTime.fromTimestampMillis_timestampMillis (t := ⟨millis * 1000000⟩)
    (by rw [secs]; unfold DateTime.MIN_SECS; omega) (by rw [secs]; exact date)
  rw [millis_, Int.mul_ediv_cancel _ (by decide)] at kept
  have signed : millis < 2 ^ 63 := by omega
  have result :
      (if (asU64 millis).toNat < 2 ^ 63 then DateTime.fromTimestampMillis (asU64 millis).toNat
        else none) =
      some ⟨millis * 1000000⟩ := by rw [value, if_pos signed, kept]
  rw [← result]
  exact (reads_beU64 (asU64 millis)).map fun v =>
    if v.toNat < 2 ^ 63 then DateTime.fromTimestampMillis v.toNat else none

theorem reads_unsigned {n : Nat} {v : UInt64} (wide : 5 ≤ n ∧ n ≤ 8) (fits : v.toNat < 256 ^ n) :
    Reads (parseScalar .unsigned n) (bytes n v.toNat) (.unsigned64 v) := by
  obtain rfl | rfl | rfl | rfl : n = 5 ∨ n = 6 ∨ n = 7 ∨ n = 8 := by omega
  · exact (reads_beUint fits).map _
  · exact (reads_beUint fits).map _
  · exact (reads_beUint fits).map _
  · exact (reads_beU64 v).map _

theorem reads_signed64 {n : Nat} {v : Int64} (wide : 5 ≤ n ∧ n ≤ 8) (fits : SignedFits n v.toInt) :
    Reads (parseScalar .signed n) (signedBytes n v.toInt) (.signed64 v) := by
  obtain rfl | rfl | rfl | rfl : n = 5 ∨ n = 6 ∨ n = 7 ∨ n = 8 := by omega
  · exact (reads_beInt (by omega) (by omega) fits).map _
  · exact (reads_beInt (by omega) (by omega) fits).map _
  · exact (reads_beInt (by omega) (by omega) fits).map _
  · exact (reads_beI64 v).map _

theorem Matches.reads {dataType : DataType} {n : Nat} {value : FieldValue}
    (h : Matches dataType n value) :
    Reads (parseScalar dataType n) (encodeFixed value value.encode n) value := by
  have uint : ∀ {n : Nat} (v : UInt64), n ≤ 8 → putUint v n = bytes n v.toNat :=
    fun v le => putUint_eq le v
  have int : ∀ {n : Nat} (v : Int64), n ≤ 8 → putInt v n = signedBytes n v.toInt :=
    fun v le => putInt_eq le v
  cases h with
  | unsigned8 v =>
    rw [encodeFixed, uint _ (by omega)]
    exact (reads_beU8 v).map _
  | unsigned16 v =>
    rw [encodeFixed, uint _ (by omega)]
    exact (reads_beU16 v).map _
  | unsigned24 v fits =>
    rw [encodeFixed, uint _ (by omega)]
    exact (reads_beU24 fits).map _
  | unsigned32 v =>
    rw [encodeFixed, uint _ (by omega)]
    exact (reads_beU32 v).map _
  | unsigned64 n v wide fits =>
    rw [encodeFixed, uint _ wide.2]
    exact reads_unsigned wide fits
  | signed8 v =>
    rw [encodeFixed, int _ (by omega), Int8.toInt_toInt64]
    exact (reads_beI8 v).map _
  | signed16 v =>
    rw [encodeFixed, int _ (by omega), Int16.toInt_toInt64]
    exact (reads_beI16 v).map _
  | signed24 v fits =>
    rw [encodeFixed, int _ (by omega), Int32.toInt_toInt64]
    exact (reads_beI24 fits).map _
  | signed32 v =>
    rw [encodeFixed, int _ (by omega), Int32.toInt_toInt64]
    exact (reads_beI32 v).map _
  | signed64 n v wide fits =>
    rw [encodeFixed, int _ wide.2]
    exact reads_signed64 wide fits
  | float32 bits => exact (reads_beU32 bits).map _
  | float64 bits => exact (reads_beU64 bits).map _
  | boolean v => exact (reads_boolean v).map _
  | macAddress v => exact (reads_macaddr6 v).map _
  | ipv4Address v => exact (reads_beU32 v).map _
  | ipv6Address v => exact (reads_ipv6Addr v).map _
  | string n v fits clean =>
    have read := reads_string clean (n - (Utf8.bytes v).length)
    rw [Nat.add_sub_cancel' fits] at read
    rw [encodeFixed_string fits]
    exact read.map _
  | octetArray dataType n v raw whole =>
    rw [parseScalar_raw raw, encodeFixed, putFixed_eq whole.le, whole, Nat.sub_self,
      List.replicate_zero, List.append_nil]
    exact (reads_take whole).map _
  | dateTimeSeconds v =>
    have whole : (⟨v.toNat * 1000000000⟩ : DateTime).timestamp = v.toNat :=
      Int.mul_ediv_cancel _ (by decide)
    show Reads _ (putU32 (asU32 (DateTime.timestamp _))) _
    rw [whole, asU32_toNat]
    exact (reads_timestampSecs v).map _
  | dateTimeMilliseconds millis date =>
    have whole : (⟨millis * 1000000⟩ : DateTime).timestampMillis = millis :=
      Int.mul_ediv_cancel _ (by decide)
    show Reads _ (putU64 (asU64 (DateTime.timestampMillis _))) _
    rw [whole]
    exact (reads_timestampMillis date).map _
  | dateTimeMicroseconds v lossless => exact (reads_ntp lossless).map _
  | dateTimeNanoseconds v lossless => exact (reads_ntp lossless).map _

theorem Matches.natural {dataType : DataType} {n : Nat} {value : FieldValue}
    (h : Matches dataType n value) (length : value.encode.length = n) :
    encodeFixed value value.encode n = value.encode := by
  have uint : ∀ {n : Nat} (v : UInt64), n ≤ 8 → putUint v n = bytes n v.toNat :=
    fun v le => putUint_eq le v
  have int : ∀ {n : Nat} (v : Int64), n ≤ 8 → putInt v n = signedBytes n v.toInt :=
    fun v le => putInt_eq le v
  cases h with
  | unsigned8 v => exact (uint (n := 1) _ (by omega)).trans (putU8_eq v).symm
  | unsigned16 v => exact uint (n := 2) _ (by omega)
  | unsigned24 v => exact absurd length (by simp [FieldValue.encode, putU32])
  | unsigned32 v => exact uint (n := 4) _ (by omega)
  | unsigned64 n v wide fits =>
    obtain rfl : 8 = n := by simpa [FieldValue.encode, putU64] using length
    exact uint (n := 8) _ (by omega)
  | signed8 v => rw [encode_signed8, encodeFixed, int _ (by omega), Int8.toInt_toInt64]
  | signed16 v => rw [encode_signed16, encodeFixed, int _ (by omega), Int16.toInt_toInt64]
  | signed24 v => exact absurd length (by simp [FieldValue.encode, putU32])
  | signed32 v => rw [encode_signed32, encodeFixed, int _ (by omega), Int32.toInt_toInt64]
  | signed64 n v wide fits =>
    obtain rfl : 8 = n := by simpa [FieldValue.encode, putU64] using length
    rw [encode_signed64, encodeFixed, int _ (by omega)]
  | string n v fits clean =>
    rw [encodeFixed_string fits, ← length, FieldValue.encode, Nat.sub_self, List.replicate_zero,
      List.append_nil]
  | octetArray dataType n v raw whole =>
    rw [encodeFixed, putFixed_eq whole.le, whole, Nat.sub_self, List.replicate_zero,
      List.append_nil, FieldValue.encode]
  | _ => rfl

theorem reads_lengthPrefix {n : Nat} (small : n < 2 ^ 16) :
    Reads (parseFieldLength IPFIX_VARIABLE_LENGTH) (lengthPrefix n) n := by
  rw [parseFieldLength, if_neg (not_not.mpr rfl), lengthPrefix]
  by_cases fits : n < 255
  · have byte : (UInt8.ofNat n).toNat = n := UInt8.toNat_ofNat_of_lt' (by unfold UInt8.size; omega)
    have less : UInt8.ofNat n < 255 := by rw [UInt8.lt_iff_toNat_lt, byte]; exact fits
    rw [if_pos fits, putU8_eq, ← List.append_nil (bytes 1 _)]
    refine (reads_beU8 (UInt8.ofNat n)).bind ?_
    rw [if_pos less, byte]
    exact reads_pure n
  · have long : (UInt16.ofNat n).toNat = n := UInt16.toNat_ofNat_of_lt' small
    have read := (reads_beU16 (UInt16.ofNat n)).map UInt16.toNat
    rw [long] at read
    rw [if_neg fits, putU8_eq, putU16, long]
    refine (reads_beU8 255).bind ?_
    rw [if_neg (by decide)]
    exact read

end Rustflow.Ipfix
