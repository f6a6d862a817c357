import Rustflow.NetflowV5.Parser
import Rustflow.Ipfix.Encoder

/-!
# The NetFlow v5 codec

`netflow_v5/encoder.rs`, and the encoder and the parser as inverses of each other.

A record leaves three bytes of its frame unread. A `RawRecord` is the record with some bytes
there: the encoder writes the frame with zeros, the parser accepts every frame and nothing else.
-/

namespace Rustflow.NetflowV5
open Combinator
open BigEndian (bytes)
open Ipfix (putU8 putU16 putU32)

def Header.encode (self : Header) : List UInt8 :=
  putU16 self.version ++ putU16 self.count ++ putU32 self.sysUptime ++ putU32 self.unixSecs ++
    putU32 self.unixNsecs ++ putU32 self.flowSequence ++ putU8 self.engineType ++
    putU8 self.engineId ++
    putU16 (self.samplingMode <<< 14 ||| self.samplingInterval &&& 0x3fff)

def FlowRecord.encode (self : FlowRecord) : List UInt8 :=
  putU32 self.srcaddr ++ putU32 self.dstaddr ++ putU32 self.nexthop ++ putU16 self.input ++
    putU16 self.output ++ putU32 self.dPkts ++ putU32 self.dOckts ++ putU32 self.first ++
    putU32 self.last ++ putU16 self.srcport ++ putU16 self.dstport ++ putU8 0 ++
    putU8 self.tcpFlags ++
    putU8 self.prot ++ putU8 self.tos ++ putU16 self.srcAs ++ putU16 self.dstAs ++
    putU8 self.srcMask ++
    putU8 self.dstMask ++ putU16 0

/-- The count in the header is the number of records, whatever the header said. -/
def NetFlowV5Packet.encode (self : NetFlowV5Packet) : List UInt8 :=
  { self.header with count := UInt16.ofNat self.flowRecords.length }.encode ++
    self.flowRecords.flatMap FlowRecord.encode

theorem putU8_eq (v : UInt8) : putU8 v = bytes 1 v.toNat := by
  simp [putU8, bytes]

/-! ### The packed sampling word -/

theorem toNat_low (word : UInt16) : (word &&& 0x3fff).toNat = word.toNat % 2 ^ 14 := by
  rw [UInt16.toNat_and]
  exact Nat.and_two_pow_sub_one_eq_mod word.toNat 14

theorem toNat_high (word : UInt16) : (word >>> 14).toNat = word.toNat / 2 ^ 14 := by
  rw [UInt16.toNat_shiftRight]
  exact Nat.shiftRight_eq_div_pow word.toNat 14

/-- Two bits of mode above fourteen bits of interval. -/
theorem toNat_packed {mode : UInt16} (narrow : mode.toNat < 4) (interval : UInt16) :
    (mode <<< 14 ||| interval &&& 0x3fff).toNat = mode.toNat * 2 ^ 14 + interval.toNat %
      2 ^ 14 := by
  have shifted : (mode <<< 14).toNat = 2 ^ 14 * mode.toNat := by
    rw [UInt16.toNat_shiftLeft, Nat.mul_comm]
    show mode.toNat <<< 14 % 2 ^ 16 = _
    rw [Nat.shiftLeft_eq]
    omega
  rw [UInt16.toNat_or, shifted, toNat_low, ← Nat.two_pow_add_eq_or_of_lt (by omega)]
  omega

theorem packed_sampling {mode interval : UInt16} (narrow : mode.toNat < 4)
    (short : interval.toNat < 2 ^ 14) :
    (mode <<< 14 ||| interval &&& 0x3fff) >>> 14 = mode ∧
      (mode <<< 14 ||| interval &&& 0x3fff) &&& 0x3fff = interval := by
  constructor <;> apply UInt16.toNat_inj.mp
  · rw [toNat_high, toNat_packed narrow]
    omega
  · rw [toNat_low, toNat_packed narrow]
    omega

theorem unpacked_sampling (word : UInt16) :
    (word >>> 14) <<< 14 ||| (word &&& 0x3fff) &&& 0x3fff = word := by
  have narrow : (word >>> 14).toNat < 4 := by
    have := word.toNat_lt
    rw [toNat_high]
    omega
  apply UInt16.toNat_inj.mp
  rw [toNat_packed narrow, toNat_high, toNat_low]
  omega

/-! ### The header -/

theorem reads_header {header : Header} (version : header.version = NETFLOW_V5_VERSION)
    (mode : header.samplingMode.toNat < 4) (interval : header.samplingInterval.toNat < 2 ^ 14) :
    Reads parseHeader header.encode header := by
  obtain ⟨high, low⟩ := packed_sampling mode interval
  obtain ⟨_, count, sysUptime, unixSecs, unixNsecs, flowSequence, engineType, engineId,
    samplingMode, samplingInterval⟩ := header
  dsimp only at version high low
  subst version
  simp only [Header.encode, putU8_eq, List.append_assoc]
  refine (reads_verifyVersion NETFLOW_V5_VERSION).bind ?_
  refine (reads_beU16 count).bind ?_
  refine (reads_beU32 sysUptime).bind ?_
  refine (reads_beU32 unixSecs).bind ?_
  refine (reads_beU32 unixNsecs).bind ?_
  refine (reads_beU32 flowSequence).bind ?_
  refine (reads_beU8 engineType).bind ?_
  refine (reads_beU8 engineId).bind ?_
  have packed :=
    (reads_beU16 (samplingMode <<< 14 ||| samplingInterval &&& 0x3fff)).map fun word : UInt16 =>
    (⟨NETFLOW_V5_VERSION, count, sysUptime, unixSecs, unixNsecs, flowSequence, engineType, engineId,
      word >>> 14, word &&& 0x3fff⟩ : Header)
  rwa [high, low] at packed

theorem header_spelled : Spelled parseHeader Header.encode := by
  intro input rest header run
  obtain ⟨_, version, spelled, run⟩ := (verifyVersion_spelled NETFLOW_V5_VERSION).bind run
  obtain ⟨_, count, spelled, run⟩ := beU16_spelled.bind run
  obtain ⟨_, sysUptime, spelled, run⟩ := beU32_spelled.bind run
  obtain ⟨_, unixSecs, spelled, run⟩ := beU32_spelled.bind run
  obtain ⟨_, unixNsecs, spelled, run⟩ := beU32_spelled.bind run
  obtain ⟨_, flowSequence, spelled, run⟩ := beU32_spelled.bind run
  obtain ⟨_, engineType, spelled, run⟩ := beU8_spelled.bind run
  obtain ⟨_, engineId, spelled, run⟩ := beU8_spelled.bind run
  obtain ⟨_, word, spelled, run⟩ := beU16_spelled.bind run
  cases run
  subst_vars
  simp only [Header.encode, putU8_eq, unpacked_sampling, List.append_assoc]
  rfl

/-! ### Records -/

/-- The fields of a record before the byte that the parser skips. -/
def FlowRecord.front (self : FlowRecord) : List UInt8 :=
  putU32 self.srcaddr ++ putU32 self.dstaddr ++ putU32 self.nexthop ++ putU16 self.input ++
    putU16 self.output ++ putU32 self.dPkts ++ putU32 self.dOckts ++ putU32 self.first ++
    putU32 self.last ++ putU16 self.srcport ++ putU16 self.dstport

/-- The fields between that byte and the two that the parser skips at the end. -/
def FlowRecord.back (self : FlowRecord) : List UInt8 :=
  putU8 self.tcpFlags ++ putU8 self.prot ++ putU8 self.tos ++ putU16 self.srcAs ++
    putU16 self.dstAs ++
    putU8 self.srcMask ++ putU8 self.dstMask

/-- A record with what stands in the bytes that the parser skips. -/
structure RawRecord where
  record : FlowRecord
  pad1 : List UInt8
  pad2 : List UInt8
  length1 : pad1.length = 1
  length2 : pad2.length = 2

def RawRecord.frame (raw : RawRecord) : List UInt8 :=
  raw.record.front ++ (raw.pad1 ++ (raw.record.back ++ raw.pad2))

theorem FlowRecord.length_front (record : FlowRecord) : record.front.length = 36 := by
  unfold FlowRecord.front
  simp only [putU16, putU32, List.length_append, BigEndian.length_bytes]

theorem FlowRecord.length_back (record : FlowRecord) : record.back.length = 9 := by
  unfold FlowRecord.back
  simp only [putU8_eq, putU16, List.length_append, BigEndian.length_bytes]

theorem RawRecord.length_frame (raw : RawRecord) : raw.frame.length = 48 := by
  simp only [RawRecord.frame, List.length_append, raw.length1, raw.length2, FlowRecord.length_front,
    FlowRecord.length_back]

/-- The encoder fills the skipped bytes with zeros. -/
def FlowRecord.padded (record : FlowRecord) : RawRecord := ⟨record, [0], [0, 0], rfl, rfl⟩

theorem FlowRecord.encode_eq_frame (record : FlowRecord) : record.encode = record.padded.frame := by
  have pad1 : putU8 0 = [0] := rfl
  have pad2 : putU16 0 = [0, 0] := rfl
  unfold FlowRecord.encode RawRecord.frame FlowRecord.padded FlowRecord.front FlowRecord.back
  rw [pad1, pad2]
  simp only [List.append_assoc]

theorem reads_frame (raw : RawRecord) : Reads parseFlowRecord raw.frame raw.record := by
  obtain ⟨record, pad1, pad2, length1, length2⟩ := raw
  unfold RawRecord.frame FlowRecord.front FlowRecord.back
  simp only [putU8_eq, List.append_assoc]
  refine (reads_beU32 record.srcaddr).bind ?_
  refine (reads_beU32 record.dstaddr).bind ?_
  refine (reads_beU32 record.nexthop).bind ?_
  refine (reads_beU16 record.input).bind ?_
  refine (reads_beU16 record.output).bind ?_
  refine (reads_beU32 record.dPkts).bind ?_
  refine (reads_beU32 record.dOckts).bind ?_
  refine (reads_beU32 record.first).bind ?_
  refine (reads_beU32 record.last).bind ?_
  refine (reads_beU16 record.srcport).bind ?_
  refine (reads_beU16 record.dstport).bind ?_
  refine (reads_take length1).bind ?_
  refine (reads_beU8 record.tcpFlags).bind ?_
  refine (reads_beU8 record.prot).bind ?_
  refine (reads_beU8 record.tos).bind ?_
  refine (reads_beU16 record.srcAs).bind ?_
  refine (reads_beU16 record.dstAs).bind ?_
  refine (reads_beU8 record.srcMask).bind ?_
  refine (reads_beU8 record.dstMask).bind ?_
  exact (reads_take length2).map _

theorem record_spelled {input rest : List UInt8} {record : FlowRecord}
    (run : parseFlowRecord input = some (rest, record)) :
    ∃ raw : RawRecord, input = raw.frame ++ rest ∧ record = raw.record := by
  obtain ⟨_, srcaddr, spelled, run⟩ := beU32_spelled.bind run
  obtain ⟨_, dstaddr, spelled, run⟩ := beU32_spelled.bind run
  obtain ⟨_, nexthop, spelled, run⟩ := beU32_spelled.bind run
  obtain ⟨_, input, spelled, run⟩ := beU16_spelled.bind run
  obtain ⟨_, output, spelled, run⟩ := beU16_spelled.bind run
  obtain ⟨_, dPkts, spelled, run⟩ := beU32_spelled.bind run
  obtain ⟨_, dOckts, spelled, run⟩ := beU32_spelled.bind run
  obtain ⟨_, first, spelled, run⟩ := beU32_spelled.bind run
  obtain ⟨_, last, spelled, run⟩ := beU32_spelled.bind run
  obtain ⟨_, srcport, spelled, run⟩ := beU16_spelled.bind run
  obtain ⟨_, dstport, spelled, run⟩ := beU16_spelled.bind run
  obtain ⟨_, pad1, skipped1, run⟩ := bind_eq_some.mp run
  obtain ⟨spelled, length1⟩ := take_spelled skipped1
  obtain ⟨_, tcpFlags, spelled, run⟩ := beU8_spelled.bind run
  obtain ⟨_, prot, spelled, run⟩ := beU8_spelled.bind run
  obtain ⟨_, tos, spelled, run⟩ := beU8_spelled.bind run
  obtain ⟨_, srcAs, spelled, run⟩ := beU16_spelled.bind run
  obtain ⟨_, dstAs, spelled, run⟩ := beU16_spelled.bind run
  obtain ⟨_, srcMask, spelled, run⟩ := beU8_spelled.bind run
  obtain ⟨_, dstMask, spelled, run⟩ := beU8_spelled.bind run
  obtain ⟨_, pad2, skipped2, run⟩ := bind_eq_some.mp run
  obtain ⟨spelled, length2⟩ := take_spelled skipped2
  cases run
  subst_vars
  refine ⟨⟨_, pad1, pad2, length1, length2⟩, ?_, rfl⟩
  unfold RawRecord.frame FlowRecord.front FlowRecord.back
  simp only [putU8_eq, putU16, putU32, List.append_assoc]

/-! ### Clearing the padding -/

/-- Whether a byte of a packet is one of the three of its record that the parser skips. -/
def isPad (i : Nat) : Bool := 24 ≤ i ∧ (i - 24) % 48 ∈ [36, 46, 47]

/-- What stands at `offset` in a packet, with zeros for the padding. -/
def clearPads (offset : Nat) (bs : List UInt8) : List UInt8 :=
  bs.mapIdx fun i b => if isPad (i + offset) then 0 else b

theorem clearPads_append (offset : Nat) (as bs : List UInt8) :
    clearPads offset (as ++ bs) = clearPads offset as ++ clearPads (offset + as.length) bs := by
  simp only [clearPads, List.mapIdx_append, Nat.add_assoc, Nat.add_comm as.length]

theorem clearPads_fields {offset : Nat} {bs : List UInt8}
    (fields : ∀ i < bs.length, isPad (i + offset) = false) :
    clearPads offset bs = bs := by
  apply List.ext_getElem
  · simp [clearPads]
  · intro i short within
    simp [clearPads, fields i within]

theorem clearPads_padding {offset : Nat} {bs : List UInt8}
    (padding : ∀ i < bs.length, isPad (i + offset) = true) :
    clearPads offset bs = List.replicate bs.length 0 := by
  apply List.ext_getElem
  · simp [clearPads]
  · intro i short within
    simp [clearPads, padding i (by simpa using within)]

theorem Header.length_encode (header : Header) : header.encode.length = 24 := by
  simp only [Header.encode, putU8_eq, putU16, putU32, List.length_append, BigEndian.length_bytes]

theorem clearPads_header (header : Header) : clearPads 0 header.encode = header.encode := by
  apply clearPads_fields
  intro i within
  rw [Header.length_encode] at within
  simp [isPad]
  omega

/-- Every record starts a multiple of forty-eight bytes after the header. -/
theorem clearPads_frame (raw : RawRecord) (k : Nat) :
    clearPads (24 + 48 * k) raw.frame = raw.record.encode := by
  have front : clearPads (24 + 48 * k) raw.record.front = raw.record.front := by
    apply clearPads_fields
    intro i within
    rw [FlowRecord.length_front] at within
    simp [isPad]
    omega
  have pad1 : clearPads (24 + 48 * k + 36) raw.pad1 = [0] := by
    have cleared : clearPads (24 + 48 * k + 36) raw.pad1 = List.replicate raw.pad1.length 0 := by
      apply clearPads_padding
      intro i within
      rw [raw.length1] at within
      simp [isPad]
      omega
    rwa [raw.length1] at cleared
  have back : clearPads (24 + 48 * k + 36 + 1) raw.record.back = raw.record.back := by
    apply clearPads_fields
    intro i within
    rw [FlowRecord.length_back] at within
    simp [isPad]
    omega
  have pad2 : clearPads (24 + 48 * k + 36 + 1 + 9) raw.pad2 = [0, 0] := by
    have cleared :
        clearPads (24 + 48 * k + 36 + 1 + 9) raw.pad2 = List.replicate raw.pad2.length 0 := by
      apply clearPads_padding
      intro i within
      rw [raw.length2] at within
      simp [isPad]
      omega
    rwa [raw.length2] at cleared
  rw [FlowRecord.encode_eq_frame, RawRecord.frame, RawRecord.frame, clearPads_append,
    clearPads_append, clearPads_append, FlowRecord.length_front, raw.length1,
    FlowRecord.length_back, front, pad1, back, pad2]
  rfl

theorem clearPads_frames (raws : List RawRecord) (k : Nat) :
    clearPads (24 + 48 * k) (raws.flatMap RawRecord.frame) =
      (raws.map RawRecord.record).flatMap FlowRecord.encode := by
  induction raws generalizing k with
  | nil => rfl
  | cons raw raws ih =>
    have later : 24 + 48 * k + 48 = 24 + 48 * (k + 1) := by omega
    rw [List.flatMap_cons, clearPads_append, clearPads_frame, RawRecord.length_frame, later, ih,
      List.map_cons, List.flatMap_cons]

/-! ### Packets -/

theorem reads_packet {packet : NetFlowV5Packet}
    (version : packet.header.version = NETFLOW_V5_VERSION)
    (count : packet.header.count.toNat = packet.flowRecords.length)
    (mode : packet.header.samplingMode.toNat < 4)
    (interval : packet.header.samplingInterval.toNat < 2 ^ 14) :
    Reads parse packet.encode packet := by
  have counted : UInt16.ofNat packet.flowRecords.length = packet.header.count := by
    rw [← count, UInt16.ofNat_toNat]
  have records := reads_count_map reads_frame (packet.flowRecords.map FlowRecord.padded)
  have same : packet.flowRecords.flatMap FlowRecord.encode =
      (packet.flowRecords.map FlowRecord.padded).flatMap RawRecord.frame := by
    rw [List.flatMap_map]
    exact List.flatMap_congr fun record _ => record.encode_eq_frame
  have back : (packet.flowRecords.map FlowRecord.padded).map RawRecord.record =
      packet.flowRecords := by
    rw [List.map_map]
    exact List.map_id _
  rw [back, List.length_map, ← same, ← count] at records
  rw [NetFlowV5Packet.encode, counted]
  exact (reads_header version mode interval).bind (records.map _)

/-- The encoder and the parser are inverse up to the padding, whatever the number of records. -/
theorem codec_exact :
    (∀ packet : NetFlowV5Packet, packet.header.version = NETFLOW_V5_VERSION →
      packet.header.count.toNat = packet.flowRecords.length →
      packet.header.samplingMode.toNat < 4 → packet.header.samplingInterval.toNat < 2 ^ 14 →
      ∀ rest, parse (packet.encode ++ rest) = some (rest, packet)) ∧
    (∀ input rest packet, parse input = some (rest, packet) →
      ∃ consumed, input = consumed ++ rest ∧ packet.encode = clearPads 0 consumed) := by
  constructor
  · intro packet version count mode interval rest
    exact reads_packet version count mode interval rest
  · intro input rest packet run
    obtain ⟨_, header, spelled, run⟩ := header_spelled.bind run
    obtain ⟨_, records, counted, last⟩ := bind_eq_some.mp run
    cases last
    obtain ⟨raws, length, frames, rfl⟩ := count_spelled (fun _ _ _ => record_spelled) counted
    have count : UInt16.ofNat (raws.map RawRecord.record).length = header.count := by
      rw [List.length_map, length, UInt16.ofNat_toNat]
    refine ⟨header.encode ++ raws.flatMap RawRecord.frame, ?_, ?_⟩
    · rw [spelled, frames, List.append_assoc]
    · rw [NetFlowV5Packet.encode, count, clearPads_append, clearPads_header, Header.length_encode]
      exact congrArg _ (clearPads_frames raws 0).symm

def sampledPacket : NetFlowV5Packet where
  header := ⟨5, 1, 1000, 1700000000, 0, 42, 1, 2, 1, 100⟩
  flowRecords :=
    [⟨0x0a000001, 0x0a000002, 0, 1, 2, 10, 840, 100, 900, 443, 50000, 0x1b, 6, 0, 64500,
      64501, 24, 16⟩]

theorem codec_exact_sampled :
    parse (sampledPacket.encode ++ [7]) = some ([7], sampledPacket) ∧
      ∃ consumed, sampledPacket.encode ++ [7] = consumed ++ [7] ∧
      sampledPacket.encode = clearPads 0 consumed :=
  have read := codec_exact.1 sampledPacket rfl rfl (by decide) (by decide) [7]
  ⟨read, codec_exact.2 _ _ _ read⟩

end Rustflow.NetflowV5
