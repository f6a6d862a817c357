import Rustflow.SflowV5.Parser

/-!
# Samples and records in their frames

`Frame` is a sample or a record as it is on the wire: a format, a length and that many bytes. Every
frame is read whole, whatever its body is, so a sequence of frames is read frame by frame. What a
sample is beyond its records comes from its first fields alone (`ownFields`).
-/

namespace Rustflow.SflowV5
open Combinator BigEndian

/-- A format and a body whose length fits its length field. -/
structure Frame where
  format : UInt32
  body : List UInt8
  fits : body.length < 2 ^ 32

namespace Frame
variable (frame : Frame)

def length : UInt32 := UInt32.ofNat frame.body.length

def bytes : List UInt8 :=
  BigEndian.bytes 4 frame.format.toNat ++ (BigEndian.bytes 4 frame.length.toNat ++ frame.body)

theorem toNat_length : frame.length.toNat = frame.body.length :=
  UInt32.toNat_ofNat_of_lt' frame.fits

theorem drop_bytes : frame.bytes.drop 8 = frame.body := by
  rw [bytes, ← List.append_assoc]
  exact List.drop_left' (by simp)

theorem header_of_bytes {α : Type} (f : UInt32 → UInt32 → Parser α) (rest : List UInt8) :
    (beU32 >>= fun format => beU32 >>= fun length => f format length) (frame.bytes ++ rest) =
      f frame.format frame.length (frame.body ++ rest) := by
  rw [bytes, List.append_assoc, List.append_assoc, bind_of_some (reads_beU32 frame.format _),
    bind_of_some (reads_beU32 frame.length _)]

theorem of_header {input mid mid' rest body : List UInt8} {format length : UInt32}
    (first : beU32 input = some (mid, format)) (second : beU32 mid = some (mid', length))
    (third : take length.toNat mid' = some (rest, body)) :
    ∃ frame : Frame, frame.format = format ∧ input = frame.bytes ++ rest := by
  obtain ⟨enough, rfl, rfl⟩ := take_eq_some.mp third
  have whole : (mid'.take length.toNat).length = length.toNat := List.length_take_of_le enough
  refine ⟨⟨format, mid'.take length.toNat, ?_⟩, rfl, ?_⟩
  · rw [whole]
    exact length.toNat_lt
  · have declared : UInt32.ofNat (mid'.take length.toNat).length = length := by
      rw [whole, UInt32.ofNat_toNat]
    rw [bytes, Frame.length, declared, List.append_assoc, List.append_assoc, List.take_append_drop,
      ← beU32_eq_some second, ← beU32_eq_some first]

end Frame

/-! ### Records -/

def flowRecordOf (frame : Frame) : FlowRecord :=
  { header := { dataFormat := frame.format, length := frame.length },
    data := (flowRecordData frame.format frame.body).getD (.unknown frame.body) }

def counterRecordOf (frame : Frame) : CounterRecord :=
  { header := { dataFormat := frame.format, length := frame.length },
    data := [(counterRecordData frame.format frame.body).getD (.unknown frame.body)] }

theorem reads_parseFlowRecord (frame : Frame) :
    Reads parseFlowRecord frame.bytes (flowRecordOf frame) := by
  intro rest
  have flat : parseFlowRecord = beU32 >>= fun format => beU32 >>= fun length =>
      take length.toNat >>= fun data =>
        pure ⟨⟨format, length⟩, (flowRecordData format data).getD (.unknown data)⟩ := by
    simp only [parseFlowRecord, parseRecordHeader, bind_assoc, pure_bind]
  rw [flat, frame.header_of_bytes, bind_of_some (take_append rest frame.toNat_length.symm)]
  rfl

theorem reads_parseCounterRecord (frame : Frame) :
    Reads parseCounterRecord frame.bytes (counterRecordOf frame) := by
  intro rest
  have flat : parseCounterRecord = beU32 >>= fun format => beU32 >>= fun length =>
      take length.toNat >>= fun data =>
        pure ⟨⟨format, length⟩, [(counterRecordData format data).getD (.unknown data)]⟩ := by
    simp only [parseCounterRecord, parseRecordHeader, bind_assoc, pure_bind]
  rw [flat, frame.header_of_bytes, bind_of_some (take_append rest frame.toNat_length.symm)]
  rfl

/-- Reading a header and then the bytes it declares is reading a frame. -/
theorem framed_of_parseRecordHeader {α : Type} {f : RecordHeader → List UInt8 → Parser α}
    (keeps : ∀ header data input rest a, f header data input = some (rest, a) → rest = input)
    {input rest : List UInt8} {a : α}
    (run : (parseRecordHeader >>= fun header => take header.length.toNat >>= f header) input =
      some (rest, a)) :
    ∃ frame : Frame, input = frame.bytes ++ rest := by
  obtain ⟨mid, header, first, next⟩ := bind_eq_some.mp run
  obtain ⟨left, data, slice, last⟩ := bind_eq_some.mp next
  rw [keeps _ _ _ _ _ last]
  obtain ⟨mid', format, readFormat, more⟩ := bind_eq_some.mp first
  obtain ⟨mid'', length, readLength, made⟩ := bind_eq_some.mp more
  cases made
  obtain ⟨frame, -, whole⟩ := Frame.of_header readFormat readLength slice
  exact ⟨frame, whole⟩

theorem parseFlowRecord_framed {input rest : List UInt8} {a : FlowRecord}
    (run : parseFlowRecord input = some (rest, a)) :
    ∃ frame : Frame, input = frame.bytes ++ rest := by
  apply framed_of_parseRecordHeader _ run
  intro header data input rest a made
  cases made
  rfl

theorem parseCounterRecord_framed {input rest : List UInt8} {a : CounterRecord}
    (run : parseCounterRecord input = some (rest, a)) :
    ∃ frame : Frame, input = frame.bytes ++ rest := by
  apply framed_of_parseRecordHeader _ run
  intro header data input rest a made
  cases made
  rfl

namespace SampleFormat

abbrev Record : SampleFormat → Type
  | .flow | .expandedFlow | .drop => FlowRecord
  | .counter | .expandedCounter => CounterRecord

def parseRecord : (k : SampleFormat) → Parser k.Record
  | .flow | .expandedFlow | .drop => parseFlowRecord
  | .counter | .expandedCounter => parseCounterRecord

def recordOf : (k : SampleFormat) → Frame → k.Record
  | .flow | .expandedFlow | .drop => flowRecordOf
  | .counter | .expandedCounter => counterRecordOf

/-- The record that keeps the bytes of its frame. -/
def unknownRecord : (k : SampleFormat) → Frame → k.Record
  | .flow | .expandedFlow | .drop => fun frame =>
    ⟨⟨frame.format, frame.length⟩, .unknown frame.body⟩
  | .counter | .expandedCounter => fun frame =>
    ⟨⟨frame.format, frame.length⟩, [.unknown frame.body]⟩

/-- A record of unknown format, or whose body does not parse. -/
def DamagedRecord : (k : SampleFormat) → Frame → Prop
  | .flow | .expandedFlow | .drop => fun frame =>
      FlowType.tryFrom frame.format = none ∨ flowRecordData frame.format frame.body = none
  | .counter | .expandedCounter => fun frame =>
      CounterType.tryFrom frame.format = none ∨ counterRecordData frame.format frame.body = none

variable (k : SampleFormat)

theorem reads_parseRecord (frame : Frame) : Reads k.parseRecord frame.bytes (k.recordOf frame) := by
  cases k with
  | flow | expandedFlow | drop => exact reads_parseFlowRecord frame
  | counter | expandedCounter => exact reads_parseCounterRecord frame

theorem parseRecord_framed {input rest : List UInt8} {a : k.Record}
    (run : k.parseRecord input = some (rest, a)) :
    ∃ frame : Frame, input = frame.bytes ++ rest := by
  cases k with
  | flow | expandedFlow | drop => exact parseFlowRecord_framed run
  | counter | expandedCounter => exact parseCounterRecord_framed run

theorem flowRecordOf_damaged {frame : Frame}
    (damaged : FlowType.tryFrom frame.format = none ∨
      flowRecordData frame.format frame.body = none) :
    flowRecordOf frame = ⟨⟨frame.format, frame.length⟩, .unknown frame.body⟩ := by
  rcases damaged with unknown | lost
  · simp only [flowRecordOf, flowRecordData, unknown, Option.getD_some]
  · simp only [flowRecordOf, lost, Option.getD_none]

theorem counterRecordOf_damaged {frame : Frame}
    (damaged : CounterType.tryFrom frame.format = none ∨
      counterRecordData frame.format frame.body = none) :
    counterRecordOf frame = ⟨⟨frame.format, frame.length⟩, [.unknown frame.body]⟩ := by
  rcases damaged with unknown | lost
  · simp only [counterRecordOf, counterRecordData, unknown, Option.getD_some]
  · simp only [counterRecordOf, lost, Option.getD_none]

theorem recordOf_damaged {frame : Frame} (damaged : k.DamagedRecord frame) :
    k.recordOf frame = k.unknownRecord frame := by
  cases k with
  | flow | expandedFlow | drop => exact flowRecordOf_damaged damaged
  | counter | expandedCounter => exact counterRecordOf_damaged damaged

/-! ### Samples -/

def code : SampleFormat → UInt32
  | .flow => 1
  | .counter => 2
  | .expandedFlow => 3
  | .expandedCounter => 4
  | .drop => 5

theorem tryFrom_code : tryFrom k.code = some k := by
  cases k <;> rfl

variable {k} in
theorem tryFrom_eq_some {value : UInt32} (known : tryFrom value = some k) : value = k.code := by
  unfold tryFrom at known
  split at known <;> rename_i number <;> cases known <;> exact UInt32.toNat_inj.mp number

/-- The fields of a sample before its records, after its format and length: what the sample is,
given its length and its records, and how many records it counts. -/
def ownFields : (k : SampleFormat) → Parser ((UInt32 → List k.Record → Sample) × UInt32)
  | .flow => do
    let sampleSequenceNumber ← beU32
    let sourceId ← beU32
    let samplingRate ← beU32
    let samplePool ← beU32
    let drops ← beU32
    let input ← beU32
    let output ← beU32
    let n ← beU32
    return (fun length records => .flow {
      header := { format := 1, length, sampleSequenceNumber, sourceIdType := sourceId >>> 24,
                  sourceIdValue := sourceId &&& 0x00ffffff },
      samplingRate, samplePool, drops, input, output, records }, n)
  | .counter => do
    let sampleSequenceNumber ← beU32
    let sourceId ← beU32
    let n ← beU32
    return (fun length records => .counter {
      header := { format := 2, length, sampleSequenceNumber, sourceIdType := sourceId >>> 24,
                  sourceIdValue := sourceId &&& 0x00ffffff },
      records }, n)
  | .expandedFlow => do
    let sampleSequenceNumber ← beU32
    let sourceIdType ← beU32
    let sourceIdValue ← beU32
    let samplingRate ← beU32
    let samplePool ← beU32
    let drops ← beU32
    let inputIfFormat ← beU32
    let inputIfValue ← beU32
    let outputIfFormat ← beU32
    let outputIfValue ← beU32
    let n ← beU32
    return (fun length records => .expandedFlow {
      header := { format := 3, length, sampleSequenceNumber, sourceIdType, sourceIdValue },
      samplingRate, samplePool, drops, inputIfFormat, inputIfValue, outputIfFormat, outputIfValue,
      records }, n)
  | .expandedCounter => do
    let sampleSequenceNumber ← beU32
    let sourceIdType ← beU32
    let sourceIdValue ← beU32
    let n ← beU32
    return (fun length records => .expandedCounter {
      header := { format := 4, length, sampleSequenceNumber, sourceIdType, sourceIdValue },
      records }, n)
  | .drop => do
    let sampleSequenceNumber ← beU32
    let sourceIdType ← beU32
    let sourceIdValue ← beU32
    let drops ← beU32
    let input ← beU32
    let output ← beU32
    let reason ← beU32
    let n ← beU32
    return (fun length records => .drop {
      header := { format := 5, length, sampleSequenceNumber, sourceIdType, sourceIdValue },
      drops, input, output, reason := DropReason.from reason, records }, n)

theorem local_ownFields : Local k.ownFields := by
  -- Every field is a word, for every kind of sample.
  cases k <;> unfold ownFields <;>
    repeat' first | exact local_pure _ | refine Local.bind local_beU32 fun _ => ?_

/-- The whole sample, from the bytes after its format and length. -/
def wholeSample (length : UInt32) : Parser Sample := do
  let (assemble, n) ← k.ownFields
  let records ← count k.parseRecord n.toNat
  return assemble length records

theorem valueOf_map {α β : Type} (p : Parser α) (g : α → β) (slice : List UInt8) :
    (valueOf p slice).map g = valueOf (p >>= fun a => pure (g a)) slice := by
  rcases run : p slice with _ | ⟨rest, a⟩
  · simp only [valueOf, run, bind_of_none run, Option.map_none]
  · simp only [valueOf, run, bind_of_some run, Option.map_some, pure_apply]

variable {k} in
theorem sampleData_eq {frame : Frame} (format : frame.format = k.code) :
    sampleData k frame.bytes = valueOf (k.wholeSample frame.length) frame.body := by
  have after : ∀ f : UInt32 → UInt32 → Parser Sample,
      valueOf (beU32 >>= fun format => beU32 >>= fun length => f format length) frame.bytes =
        valueOf (f k.code frame.length) frame.body := by
    intro f
    have read := frame.header_of_bytes f []
    rw [List.append_nil, List.append_nil, format] at read
    rw [valueOf, valueOf, read]
  cases k with
  | flow =>
    simp only [sampleData, valueOf_map, parseFlowSample, parseSampleHeader, bind_assoc]
    rw [after]
    simp only [tryFrom_code, wholeSample, ownFields, bind_assoc, pure_bind]
    rfl
  | counter =>
    simp only [sampleData, valueOf_map, parseCounterSample, parseSampleHeader, bind_assoc]
    rw [after]
    simp only [tryFrom_code, wholeSample, ownFields, bind_assoc, pure_bind]
    rfl
  | expandedFlow =>
    simp only [sampleData, valueOf_map, parseExpandedFlowSample, parseSampleHeader, bind_assoc]
    rw [after]
    simp only [tryFrom_code, wholeSample, ownFields, bind_assoc, pure_bind]
    rfl
  | expandedCounter =>
    simp only [sampleData, valueOf_map, parseCounterSample, parseSampleHeader, bind_assoc]
    rw [after]
    simp only [tryFrom_code, wholeSample, ownFields, bind_assoc, pure_bind]
    rfl
  | drop =>
    simp only [sampleData, valueOf_map, parseDropSample, parseSampleHeader, bind_assoc]
    rw [after]
    simp only [tryFrom_code, wholeSample, ownFields, bind_assoc, pure_bind]
    rfl

end SampleFormat
end Rustflow.SflowV5
