import Rustflow.Ipfix.Encoder
import Rustflow.Ipfix.Steps

/-!
# IPFIX messages on the wire

A message is a header and framed sets. An encoded packet that fits its length fields is one, and
reading a message reads the contents of its sets in turn.
-/

namespace Rustflow.Ipfix
open Combinator BigEndian

/-- A message with a valid header and a body made of sets, whatever is in them. -/
structure RawMessage where
  exportTime : UInt32
  sequenceNumber : UInt32
  observationDomainId : UInt32
  sets : List RawSet
  fits : IPFIX_HEADER_SIZE + (sets.flatMap RawSet.frame).length < 2 ^ 16

namespace RawMessage

def body (message : RawMessage) : List UInt8 := message.sets.flatMap RawSet.frame

def length (message : RawMessage) : UInt16 := UInt16.ofNat (IPFIX_HEADER_SIZE + message.body.length)

def header (message : RawMessage) : List UInt8 :=
  bytes 2 IPFIX_VERSION.toNat ++ bytes 2 message.length.toNat ++ bytes 4 message.exportTime.toNat ++
    bytes 4 message.sequenceNumber.toNat ++ bytes 4 message.observationDomainId.toNat

theorem toNat_length (message : RawMessage) :
    message.length.toNat = IPFIX_HEADER_SIZE + message.body.length := by
  exact (UInt16.toNat_ofNat' ..).trans (Nat.mod_eq_of_lt message.fits)

end RawMessage

def RawMessage.parsed (message : RawMessage) : Header where
  version := IPFIX_VERSION
  length := message.length
  exportTime := ⟨message.exportTime.toNat * 1000000000⟩
  sequenceNumber := message.sequenceNumber
  observationDomainId := message.observationDomainId

theorem reads_header (message : RawMessage) : Reads parseHeader message.header message.parsed := by
  simp only [RawMessage.header, List.append_assoc]
  refine (reads_verifyVersion IPFIX_VERSION).bind ?_
  refine (reads_beU16 message.length).bind ?_
  refine (reads_timestampSecs message.exportTime).bind ?_
  refine (reads_beU32 message.sequenceNumber).bind ?_
  exact (reads_beU32 message.observationDomainId).map _

section
variable (clock : Nat → Instant)

/-- The contents of each set are read in turn, from one world to the next. -/
inductive ReadsSets (domain : UInt32) : World → List RawSet → List Set → World → Prop where
  | nil (w : World) : ReadsSets domain w [] [] w
  | cons {w mid w' : World} {raw : RawSet} {raws : List RawSet} {rest : List UInt8} {records : List
      Record} {sets : List Set}
      (contents : parseRecords clock domain raw.id raw.content w = (some (rest, records), mid))
      (others : ReadsSets domain mid raws sets w') :
      ReadsSets domain w (raw :: raws) ({ id := raw.id, length := raw.length, records } :: sets) w'

variable {clock}

theorem ReadsSets.many0 {domain : UInt32} {w w' : World} {raws : List RawSet} {sets : List Set}
    (read : ReadsSets clock domain w raws sets w') :
    many0 (parseSet clock domain) (raws.flatMap RawSet.frame) w = (some ([], sets), w') := by
  induction read with
  | nil w => exact many0_stop (parseFramedSet_nil w)
  | @cons w mid w' raw raws rest records sets contents _ ih =>
    have first : parseSet clock domain (raw.frame ++ raws.flatMap RawSet.frame) w =
        (some (raws.flatMap RawSet.frame, { id := raw.id, length := raw.length, records }), mid) :=
      (parseFramedSet_frame raw _ w).trans (by rw [contents]; rfl)
    have longer := List.length_pos_iff.mpr raw.frame_ne_nil
    rw [List.flatMap_cons]
    exact many0_step first (by rw [List.length_append]; omega) ih

theorem parse_message {message : RawMessage} {w w' : World} {sets : List Set}
    (read : ReadsSets clock message.observationDomainId w message.sets sets w')
    (rest : List UInt8) :
    parse clock (message.header ++ message.body ++ rest) w =
      (some (rest, { header := message.parsed, sets }), w') := by
  have header :
      (liftM parseHeader : ParserM World Header) (message.header ++ message.body ++ rest) w =
      (some (message.body ++ rest, message.parsed), w) := by
    rw [List.append_assoc]
    exact Prod.ext (reads_header message _) rfl
  have body : take (message.length.toNat - IPFIX_HEADER_SIZE) (message.body ++ rest) =
      some (rest, message.body) :=
    take_append rest (by rw [message.toNat_length]; omega)
  rw [parse, bindM_of_some header]
  refine bindM_of_some ((mapParser_of_some body).trans ?_)
  rw [show many0 (parseSet clock message.parsed.observationDomainId) message.body w =
    _ from read.many0]
  rfl

end

/-! ### Encoded packets -/

def Set.content (set : Set) : List UInt8 := set.records.flatMap Record.encode

theorem Set.encode_eq (set : Set) (fits : 4 + set.content.length < 2 ^ 16) :
    set.encode = RawSet.frame ⟨set.id, set.content, fits⟩ := by
  have length : UInt16.ofNat SET_HEADER_SIZE + UInt16.ofNat set.content.length =
      UInt16.ofNat (4 + set.content.length) := (UInt16.ofNat_add 4 set.content.length).symm
  rw [Set.encode, RawSet.frame, RawSet.length]
  show putU16 set.id ++ putU16 (UInt16.ofNat SET_HEADER_SIZE + UInt16.ofNat set.content.length) ++
    set.content = _
  rw [length]
  rfl

theorem Set.length_encode (set : Set) : set.encode.length = 4 + set.content.length := by
  simp only [Set.encode, putU16, List.length_append, length_bytes]
  rfl

theorem IpfixPacket.length_encode_sets (packet : IpfixPacket) :
    packet.encode.length = IPFIX_HEADER_SIZE + (packet.sets.flatMap Set.encode).length := by
  simp only [IpfixPacket.encode, putU16, putU32, List.length_append, length_bytes]
  rfl

theorem framed_sets (sets : List Set) (fits : (sets.flatMap Set.encode).length < 2 ^ 16) :
    ∃ raws : List RawSet, sets.flatMap Set.encode = raws.flatMap RawSet.frame ∧
      raws.map (fun raw => (raw.id, raw.content)) = sets.map fun set => (set.id, set.content) := by
  induction sets with
  | nil => exact ⟨[], rfl, rfl⟩
  | cons set sets ih =>
    rw [List.flatMap_cons, List.length_append, Set.length_encode] at fits
    obtain ⟨raws, framed, same⟩ := ih (by omega)
    refine ⟨⟨set.id, set.content, by omega⟩ :: raws, ?_, ?_⟩
    · rw [List.flatMap_cons, List.flatMap_cons, framed, Set.encode_eq]
    · rw [List.map_cons, List.map_cons, same]

theorem encoded_message (packet : IpfixPacket) (version : packet.header.version = IPFIX_VERSION)
    (fits : packet.encode.length < 2 ^ 16) :
    ∃ message : RawMessage, packet.encode = message.header ++ message.body ∧
      message.exportTime = asU32 packet.header.exportTime.timestamp ∧
      message.sequenceNumber = packet.header.sequenceNumber ∧
      message.observationDomainId = packet.header.observationDomainId ∧
      message.sets.map (fun raw => (raw.id, raw.content)) = packet.sets.map fun set =>
        (set.id, set.content) := by
  have whole := packet.length_encode_sets
  obtain ⟨raws, framed, same⟩ := framed_sets packet.sets (by omega)
  have short : IPFIX_HEADER_SIZE + (raws.flatMap RawSet.frame).length < 2 ^ 16 := by
    rw [← framed]; omega
  refine ⟨⟨asU32 packet.header.exportTime.timestamp, packet.header.sequenceNumber,
    packet.header.observationDomainId, raws, short⟩, ?_, rfl, rfl, rfl, same⟩
  have length :
      UInt16.ofNat IPFIX_HEADER_SIZE + UInt16.ofNat (packet.sets.flatMap Set.encode).length =
      UInt16.ofNat (IPFIX_HEADER_SIZE + (raws.flatMap RawSet.frame).length) := by
    rw [framed]
    exact (UInt16.ofNat_add IPFIX_HEADER_SIZE _).symm
  rw [IpfixPacket.encode, length, framed, version]
  rfl

section
variable (clock : Nat → Instant)

/-- The contents of some sets are read in turn, to the records given with the ID of each. -/
inductive ReadsContents (domain : UInt32) : World → List Set → List (UInt16 × List Record) → World →
    Prop where
  | nil (w : World) : ReadsContents domain w [] [] w
  | cons {w mid w' : World} {set : Set} {sets : List Set} {rest : List
      UInt8} {records : List Record}
      {results : List (UInt16 × List Record)}
      (contents : parseRecords clock domain set.id set.content w = (some (rest, records), mid))
      (others : ReadsContents domain mid sets results w') :
      ReadsContents domain w (set :: sets) ((set.id, records) :: results) w'

variable {clock}

theorem ReadsContents.framed {domain : UInt32} {w w' : World} {sets : List Set}
    {results : List (UInt16 × List Record)} (read : ReadsContents clock domain w sets results w')
    {raws : List RawSet} (same : raws.map (fun raw => (raw.id, raw.content)) = sets.map fun set =>
      (set.id, set.content)) :
    ∃ parsed, ReadsSets clock domain w raws parsed w' ∧
      parsed.map (fun set => (set.id, set.records)) = results := by
  induction read generalizing raws with
  | nil w =>
    obtain rfl := List.map_eq_nil_iff.mp same
    exact ⟨[], .nil w, rfl⟩
  | @cons w mid w' set sets rest records results contents _ ih =>
    obtain ⟨raw, raws, rfl, head, tail⟩ := List.map_eq_cons_iff.mp same
    obtain ⟨id, content⟩ := Prod.mk.inj head
    obtain ⟨parsed, read, rfl⟩ := ih tail
    rw [← id, ← content] at contents
    exact ⟨_, .cons contents read, by rw [List.map_cons, id]⟩

/-- A packet that was encoded is parsed by reading the contents of its sets. -/
theorem parse_encoded (packet : IpfixPacket) (version : packet.header.version = IPFIX_VERSION)
    (fits : packet.encode.length < 2 ^ 16) {w w' : World} {results : List (UInt16 × List Record)}
    (read : ReadsContents clock packet.header.observationDomainId w packet.sets results w') :
    ∃ parsed, parse clock packet.encode w = (some ([], parsed), w') ∧
      parsed.sets.map (fun set => (set.id, set.records)) = results := by
  obtain ⟨message, encoded, -, -, domain, sets⟩ := encoded_message packet version fits
  obtain ⟨parsed, read, same⟩ := read.framed sets
  rw [← domain] at read
  refine ⟨{ header := message.parsed, sets := parsed }, ?_, same⟩
  rw [encoded, ← List.append_nil (message.header ++ message.body)]
  exact parse_message read []

end

end Rustflow.Ipfix
