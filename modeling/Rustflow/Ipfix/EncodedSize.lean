import Rustflow.Ipfix.Lengths
import Rustflow.Ipfix.NtpRoundTrip
import Rustflow.Ipfix.TemplateCodec

/-!
# How long a packet is when it is encoded again

The encoder counts in 16 bits and NTP seconds in 64. Two things make a packet longer than the
message it was read from: a withdrawal of an options template, written with a scope field count it
did not come with, and an integer of a variable-length field, written at the width of its type. A
timestamp from before 1970 wraps.
-/

namespace Rustflow.Ipfix
open Combinator BigEndian

/-! ### Sizes -/

def Record.size : Record → Nat
  | .template t => 4 + (t.fields.map FieldSpecifier.size).sum
  | .optionsTemplate t => 6 + (t.fields.map FieldSpecifier.size).sum
  | .data d | .optionsData d => sizeRecord d

def Set.size (set : Set) : Nat := SET_HEADER_SIZE + (set.records.map Record.size).sum

/-- What the parts of a packet add up to, each at the width it is written in. -/
def IpfixPacket.size (packet : IpfixPacket) : Nat :=
  IPFIX_HEADER_SIZE + (packet.sets.map Set.size).sum

theorem length_encodeRecord (record : DataRecord) :
    (encodeRecord record).length = sizeRecord record := by
  obtain ⟨fields, values⟩ := record
  exact length_encodeValues fun _ value _ => length_encode value

theorem length_encode_fields (fields : List FieldSpecifier) :
    (fields.flatMap FieldSpecifier.encode).length = (fields.map FieldSpecifier.size).sum := by
  rw [List.length_flatMap]
  simp only [FieldSpecifier.length_encode]

theorem Record.length_encode (record : Record) : record.encode.length = record.size := by
  cases record with
  | template t =>
    simp only [Record.encode, TemplateRecord.encode, Record.size, putU16, List.length_append,
      length_bytes, length_encode_fields]
  | optionsTemplate t =>
    simp only [Record.encode, OptionsTemplateRecord.encode, Record.size, putU16, List.length_append,
      length_bytes, length_encode_fields]
  | data d => exact length_encodeRecord d
  | optionsData d => exact length_encodeRecord d

theorem Set.length_content (set : Set) :
    set.content.length = (set.records.map Record.size).sum := by
  rw [Set.content, List.length_flatMap]
  simp only [Record.length_encode]

theorem Set.length_encode_eq (set : Set) : set.encode.length = set.size := by
  rw [Set.length_encode, Set.length_content]
  rfl

theorem IpfixPacket.length_encode (packet : IpfixPacket) : packet.encode.length = packet.size := by
  rw [length_packet, List.length_flatMap]
  simp only [Set.length_encode_eq]
  rfl

theorem Set.size_le {packet : IpfixPacket} {set : Set} (mem : set ∈ packet.sets) :
    IPFIX_HEADER_SIZE + set.size ≤ packet.size :=
  Nat.add_le_add_left (List.le_sum_of_mem (List.mem_map_of_mem mem)) _

/-! ### Timestamps -/

/-- The values that start with 32 bits of seconds. -/
def FieldValue.isTimestamp : FieldValue → Bool
  | .dateTimeSeconds _ | .dateTimeMicroseconds _ | .dateTimeNanoseconds _ => true
  | _ => false

/-- The time of a value that is written in NTP format. -/
def FieldValue.ntpTime? : FieldValue → Option DateTime
  | .dateTimeMicroseconds t | .dateTimeNanoseconds t => some t
  | _ => none

theorem timestampSecs_spelled {input rest : List UInt8} {t : DateTime}
    (run : timestampSecs input = some (rest, t)) :
    ∃ seconds : UInt32, input = bytes 4 seconds.toNat ++ rest ∧
      t = ⟨seconds.toNat * 1000000000⟩ := by
  obtain ⟨seconds, first, value⟩ := mapOpt_eq_some.mp run
  rw [DateTime.fromTimestampSecs_u32] at value
  cases value
  exact ⟨seconds, beU32_spelled _ _ _ first, rfl⟩

theorem timestampMicros_spelled {input rest : List UInt8} {t : DateTime}
    (run : timestampMicros input = some (rest, t)) :
    ∃ seconds fraction : UInt32, input = bytes 4 seconds.toNat ++ (bytes 4 fraction.toNat ++ rest) ∧
      t.timestamp = (seconds.toNat : Int) - NTP_UNIX_EPOCH_DIFF := by
  obtain ⟨⟨seconds, fraction⟩, pair, date⟩ := mapOpt_eq_some.mp run
  obtain ⟨mid, seconds', first, pair⟩ := beU32_spelled.bind pair
  obtain ⟨_, fraction', second, pair⟩ := beU32_spelled.bind pair
  cases pair
  exact ⟨seconds, fraction, by rw [first, second], DateTime.timestamp_fromTimestamp date⟩

theorem parseScalar_timestamp {dataType : DataType} {length : Nat} {input rest : List UInt8}
    {value : FieldValue} (run : parseScalar dataType length input = some (rest, value))
    (timestamp : value.isTimestamp = true) :
    (∃ t, value = .dateTimeSeconds t ∧ timestampSecs input = some (rest, t)) ∨
      ∃ t, (value = .dateTimeMicroseconds t ∨ value = .dateTimeNanoseconds t) ∧
      timestampMicros input = some (rest, t) := by
  have other : value.isTimestamp ≠ false := by
    rw [timestamp]
    decide
  unfold parseScalar at run
  split at run
  · refine absurd (map_forall (Q := fun value => value.isTimestamp = false) (fun v => ?_) run) other
    cases v <;> rfl
  iterate 21 exact absurd (map_forall (Q := fun value => value.isTimestamp = false)
    (fun _ => rfl) run) other
  · refine absurd (map_forall (Q := fun value => value.isTimestamp = false) (fun v => ?_) run) other
    cases v <;> rfl
  · obtain ⟨_, t, first, last⟩ := bind_eq_some.mp run
    cases last
    exact .inl ⟨t, rfl, first⟩
  · refine absurd (map_forall (Q := fun value => value.isTimestamp = false) (fun v => ?_) run) other
    cases v <;> rfl
  · obtain ⟨_, t, first, last⟩ := bind_eq_some.mp run
    cases last
    exact .inr ⟨t, .inl rfl, first⟩
  · obtain ⟨_, t, first, last⟩ := bind_eq_some.mp run
    cases last
    exact .inr ⟨t, .inr rfl, first⟩
  · exact absurd (map_forall (Q := fun value => value.isTimestamp = false) (fun _ => rfl) run) other

/-- The first four bytes a timestamp is written in are those it was read from, whatever its year. -/
theorem parseScalar_seconds {dataType : DataType} {length : Nat} {input rest : List UInt8}
    {value : FieldValue} (run : parseScalar dataType length input = some (rest, value))
    (timestamp : value.isTimestamp = true) :
    value.encode.take 4 = input.take 4 := by
  have four : ∀ (v : UInt32) (rest : List UInt8), (bytes 4 v.toNat ++ rest).take 4 =
      bytes 4 v.toNat :=
    fun v rest => List.take_left' (length_bytes 4 _)
  obtain ⟨t, rfl, read⟩ | ⟨t, kind, read⟩ := parseScalar_timestamp run timestamp
  · obtain ⟨seconds, rfl, rfl⟩ := timestampSecs_spelled read
    rw [FieldValue.encode, DateTime.timestamp_whole, asU32_toNat, four, putU32]
    exact List.take_of_length_le (Nat.le_of_eq (length_bytes 4 _))
  · obtain ⟨seconds, fraction, rfl, second⟩ := timestampMicros_spelled read
    have written : value.encode.take 4 = putU32 (datetimeToNtp t).1 := by
      obtain rfl | rfl :=
        kind <;> rw [FieldValue.encode] <;> exact List.take_left' (length_bytes 4 _)
    rw [written, four, datetimeToNtp, second, Int.sub_add_cancel, asU32_toNat, putU32]

/-! ### Values within a packet -/

section
variable {clock : Nat → Instant} {w w' : World} {input rest : List UInt8} {packet : IpfixPacket}

theorem children_read {self : IpfixParser} {domain : UInt32} {levels : Nat}
    {fieldLength fieldLength' : UInt16} {dataType : DataType} {outer value : FieldValue}
    (read : ReadIn (parseFieldValue clock self domain levels) fieldLength' dataType outer)
    (mem : (fieldLength, value) ∈ outer.children) :
    ∃ levels dataType, ReadIn (parseFieldValue clock self domain levels) fieldLength dataType
      value := by
  obtain ⟨_, mid, length, ticks, left, ticks', -, run⟩ := read
  have scalar : ∀ {value : FieldValue}, parseScalar dataType length mid = some (left, value) →
      value.children = [] :=
    fun run => children_of_scalar (isList_parseScalar run)
  cases levels with
  | zero =>
    rw [scalar (congrArg Prod.fst run)] at mem
    cases mem
  | succ levels =>
    rcases parseFieldValue_read levels run with here | ⟨semantic, field, content, elementType,
      rfl, each⟩ |
      ⟨semantic, templateId, data, rfl, each⟩ | ⟨semantic, items, rfl, each⟩
    · rw [scalar here] at mem
      cases mem
    · obtain ⟨_, inside, same⟩ := List.mem_map.mp mem
      cases same
      exact ⟨levels, elementType, each _ inside⟩
    · exact ⟨levels, RecordRead.flatMap_entry each mem⟩
    · obtain ⟨item, inside, mem⟩ := List.mem_flatMap.mp mem
      exact ⟨levels, RecordRead.flatMap_entry (each item inside) mem⟩

/-- Every value in a packet was read, at some level of its lists. -/
theorem within_read (run : parse clock input w = (some (rest, packet), w')) {fieldLength : UInt16}
    {value : FieldValue} (within : Within packet.entries fieldLength value) :
    ∃ self domain levels dataType,
      ReadIn (parseFieldValue clock self domain levels) fieldLength dataType value := by
  induction within with
  | top mem =>
    obtain ⟨set, inside, mem⟩ := List.mem_flatMap.mp mem
    obtain ⟨record, inside', mem⟩ := List.mem_flatMap.mp mem
    obtain ⟨self, domain, read⟩ := parse_read run set inside record inside'
    obtain ⟨dataType, read⟩ := read.entry mem
    exact ⟨self, domain, _, dataType, read⟩
  | nested _ mem ih =>
    obtain ⟨self, domain, levels, dataType, read⟩ := ih
    obtain ⟨levels, dataType, read⟩ := children_read read mem
    exact ⟨self, domain, levels, dataType, read⟩

theorem within_scalar (run : parse clock input w = (some (rest, packet), w')) {fieldLength : UInt16}
    {value : FieldValue} (within : Within packet.entries fieldLength value)
    (scalar : value.isList = false) :
    ∃ dataType length bs left, parseScalar dataType length bs = some (left, value) := by
  obtain ⟨self, domain, levels, dataType, _, mid, length, ticks, left, ticks', -, read⟩ :=
    within_read run within
  cases levels with
  | zero => exact ⟨dataType, length, mid, left, congrArg Prod.fst read⟩
  | succ levels =>
    rcases parseFieldValue_read levels read with here | ⟨_, _, _, _, rfl, -⟩ | ⟨_, _,
      _, rfl, -⟩ | ⟨_, _, rfl, -⟩
    · exact ⟨dataType, length, mid, left, here⟩
    · cases scalar
    · cases scalar
    · cases scalar

theorem ntpTime_range (run : parse clock input w = (some (rest, packet), w')) {fieldLength : UInt16}
    {value : FieldValue} (within : Within packet.entries fieldLength value) {t : DateTime}
    (time : value.ntpTime? = some t) :
    -(NTP_UNIX_EPOCH_DIFF : Int) ≤ t.timestamp ∧ t.timestamp < 2 ^ 32 := by
  obtain ⟨dataType, length, bs, left, read⟩ :=
    within_scalar run within (by cases value <;> first | rfl | cases time)
  have timestamp : value.isTimestamp = true := by cases value <;> first | rfl | cases time
  obtain ⟨t', rfl, -⟩ | ⟨t', kind, ntp⟩ := parseScalar_timestamp read timestamp
  · cases time
  · obtain rfl : t' = t := by obtain rfl | rfl := kind <;> exact Option.some.inj time
    obtain ⟨seconds, _, -, second⟩ := timestampMicros_spelled ntp
    have := seconds.toNat_lt
    omega

end

/-! ### Counting in the widths of the encoder -/

/-- The cast of a length to 16 bits drops none, and neither does adding the header's. -/
def FitsU16 (header content : Nat) : Prop :=
  content < 2 ^ 16 ∧ (UInt16.ofNat header).toNat + (UInt16.ofNat content).toNat < 2 ^ 16

theorem fitsU16_iff {header content : Nat} (small : header < 2 ^ 16) : FitsU16 header content ↔
    header + content < 2 ^ 16 := by
  have cast : (UInt16.ofNat header).toNat = header := UInt16.toNat_ofNat_of_lt' small
  rw [FitsU16, cast]
  constructor
  · rintro ⟨low, sum⟩
    rwa [UInt16.toNat_ofNat_of_lt' low] at sum
  · intro fits
    have low : content < 2 ^ 16 := by omega
    exact ⟨low, by rwa [UInt16.toNat_ofNat_of_lt' low]⟩

/-- The sum of the NTP seconds stays within 64 bits. -/
def NtpSumFits (t : DateTime) : Prop := (asU64 t.timestamp).toNat + NTP_UNIX_EPOCH_DIFF < 2 ^ 64

theorem ntpSumFits_iff {t : DateTime} (low : -(NTP_UNIX_EPOCH_DIFF : Int) ≤ t.timestamp)
    (high : t.timestamp < 2 ^ 32) :
    NtpSumFits t ↔ 0 ≤ t.timestamp := by
  unfold NtpSumFits
  unfold NTP_UNIX_EPOCH_DIFF at low ⊢
  constructor
  · intro fits
    by_contra early
    have wrapped : t.timestamp % 2 ^ 64 = t.timestamp + 2 ^ 64 := by omega
    have cast : (asU64 t.timestamp).toNat = (t.timestamp + 2 ^ 64).toNat := by
      rw [asU64, wrapped]
      exact UInt64.toNat_ofNat_of_lt' (by unfold UInt64.size; omega)
    omega
  · intro epoch
    have whole := toNat_asU64 epoch (by omega : t.timestamp < 2 ^ 64)
    omega

/-! ### Safety -/

/-- Encoding the packet that was read from `input` adds up and casts without a loss, and writes the
seconds that were read. -/
structure IpfixPacket.EncodesSafely (packet : IpfixPacket) (input : List UInt8) : Prop where
  setLengths : ∀ set ∈ packet.sets, FitsU16 SET_HEADER_SIZE set.content.length
  messageLength : FitsU16 IPFIX_HEADER_SIZE (packet.sets.flatMap Set.encode).length
  valueLengths : ∀ value, Within packet.entries IPFIX_VARIABLE_LENGTH value →
    value.encode.length < 2 ^ 16
  ntpSums : ∀ fieldLength value t, Within packet.entries fieldLength value →
    value.ntpTime? = some t → NtpSumFits t
  sets : ∀ set ∈ packet.sets, set.encode.length ≤ 65535
  message : packet.encode.length ≤ 65535
  exportTime : putU32 (asU32 packet.header.exportTime.timestamp) = (input.drop 4).take 4
  seconds : ∀ fieldLength value, Within packet.entries fieldLength value →
    value.isTimestamp = true →
    (∃ dataType length bs left, parseScalar dataType length bs = some (left, value)) ∧
      ∀ dataType length bs left, parseScalar dataType length bs = some (left, value) →
        value.encode.take 4 = bs.take 4

/-- No timestamp of the packet that is written in NTP format is from before 1970. -/
def IpfixPacket.NoEarlyNtp (packet : IpfixPacket) : Prop :=
  ∀ fieldLength value t, Within packet.entries fieldLength value → value.ntpTime? = some t →
    0 ≤ t.timestamp

theorem parseHeader_exportTime {input rest : List UInt8} {header : Header}
    (run : parseHeader input = some (rest, header)) :
    putU32 (asU32 header.exportTime.timestamp) = (input.drop 4).take 4 := by
  obtain ⟨_, version, first, run⟩ := (verifyVersion_spelled _).bind run
  obtain ⟨_, length, second, run⟩ := beU16_spelled.bind run
  obtain ⟨_, exportTime, third, run⟩ := bind_eq_some.mp run
  obtain ⟨seconds, spelled, same⟩ := timestampSecs_spelled third
  obtain ⟨_, sequenceNumber, _, run⟩ := bind_eq_some.mp run
  obtain ⟨_, observationDomainId, _, run⟩ := bind_eq_some.mp run
  cases run
  rw [first, second, spelled, ← List.append_assoc, List.drop_left' (by simp),
    List.take_left' (by simp), same, DateTime.timestamp_whole, asU32_toNat, putU32]

section
variable {clock : Nat → Instant} {w w' : World} {input rest : List UInt8} {packet : IpfixPacket}

theorem length_variable_le {value : FieldValue}
    (within : Within packet.entries IPFIX_VARIABLE_LENGTH value) :
    value.encode.length ≤ packet.encode.length := by
  have part := length_within_le (fun _ _ mem => length_packet_le mem) within
  rw [encodeFieldValue, if_pos rfl, List.length_append] at part
  omega

/-- A packet that was read is encoded safely exactly when it is not too long and has no early
timestamp. -/
theorem encodesSafely_iff (run : parse clock input w = (some (rest, packet), w')) :
    packet.EncodesSafely input ↔ packet.NoEarlyNtp ∧ packet.size ≤ 65535 := by
  constructor
  · intro safe
    refine ⟨fun fieldLength value t within time => ?_, packet.length_encode ▸ safe.message⟩
    obtain ⟨low, high⟩ := ntpTime_range run within time
    exact (ntpSumFits_iff low high).mp (safe.ntpSums _ _ _ within time)
  · rintro ⟨late, short⟩
    have setSize : ∀ set ∈ packet.sets, set.encode.length ≤ 65535 := by
      intro set mem
      have := Set.size_le mem
      rw [set.length_encode_eq]
      omega
    have message : packet.encode.length ≤ 65535 := by rwa [packet.length_encode]
    constructor
    · intro set mem
      have := setSize set mem
      rw [Set.length_encode] at this
      exact (fitsU16_iff (by decide)).mpr (by unfold SET_HEADER_SIZE; omega)
    · rw [length_packet] at message
      exact (fitsU16_iff (by decide)).mpr (by omega)
    · intro value within
      have := length_variable_le within
      omega
    · intro fieldLength value t within time
      obtain ⟨low, high⟩ := ntpTime_range run within time
      exact (ntpSumFits_iff low high).mpr (late _ _ _ within time)
    · exact setSize
    · exact message
    · obtain ⟨_, header, _, first, run⟩ := bindM_eq_some.mp run
      obtain ⟨_, sets, _, _, run⟩ := bindM_eq_some.mp run
      cases run
      exact parseHeader_exportTime (congrArg Prod.fst first)
    · intro fieldLength value within timestamp
      have scalar : value.isList = false := by cases value <;> first | rfl | cases timestamp
      exact ⟨within_scalar run within scalar,
        fun _ _ _ _ read => parseScalar_seconds read timestamp⟩

end

end Rustflow.Ipfix
