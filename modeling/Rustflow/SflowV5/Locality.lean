import Rustflow.SflowV5.Framing

/-!
# Damage stays local

A datagram is a header and the frames of its samples, and a sample is its own fields and the
frames of its records. What a frame holds is read from that frame alone, and a frame whose body
does not parse is kept as bytes, so it changes nothing around it.
-/

namespace Rustflow.SflowV5
open Combinator

/-! ### Datagrams -/

/-- The fields of a datagram before its samples. -/
structure Head where
  version : UInt32
  agentAddress : Option IpAddr
  subAgentId : UInt32
  sequenceNumber : UInt32
  uptime : UInt32
  sampleCount : UInt32

def parseHead : Parser Head := do
  let version ← verify beU32 (· = SFLOW_V5_VERSION)
  let agentAddress ← parseAddress
  let subAgentId ← beU32
  let sequenceNumber ← beU32
  let uptime ← beU32
  let sampleCount ← beU32
  return { version, agentAddress, subAgentId, sequenceNumber, uptime, sampleCount }

def Head.packet (head : Head) (samples : List Sample) : SFlowV5 :=
  { version := head.version, agentAddress := head.agentAddress, subAgentId := head.subAgentId,
    sequenceNumber := head.sequenceNumber, uptime := head.uptime, samples }

theorem parseSflowV5_eq :
    parseSflowV5 = parseHead >>= fun head =>
      count parseSample head.sampleCount.toNat >>= fun samples => pure (head.packet samples) := by
  simp only [parseSflowV5, parseHead, bind_assoc, pure_bind]
  rfl

theorem local_parseAddress : Local parseAddress := by
  unfold parseAddress
  refine Local.bind local_beU32 fun addressType => ?_
  split
  · exact local_pure _
  split
  · exact local_beU32.bind fun _ => local_pure _
  split
  · exact ((local_beUint 16).bind fun _ => local_pure _).bind fun _ => local_pure _
  · exact local_fail

theorem local_parseHead : Local parseHead := by
  have version : Local (verify beU32 (· = SFLOW_V5_VERSION)) := by
    refine Local.bind local_beU32 fun v => ?_
    split
    · exact local_pure v
    · exact local_fail
  exact version.bind fun _ => local_parseAddress.bind fun _ => local_beU32.bind fun _ =>
    local_beU32.bind fun _ => local_beU32.bind fun _ => local_beU32.bind fun _ => local_pure _

/-! ### Samples -/

def sampleOf (frame : Frame) : Sample := sampleOrUnknown frame.format frame.bytes

/-- A sample of unknown format, or whose body does not parse. -/
def DamagedSample (frame : Frame) : Prop :=
  SampleFormat.tryFrom frame.format = none ∨
    ∃ k, SampleFormat.tryFrom frame.format = some k ∧ sampleData k frame.bytes = none

theorem sampleOf_damaged {frame : Frame} (damaged : DamagedSample frame) :
    sampleOf frame = .unknown frame.body := by
  rw [sampleOf, sampleOrUnknown, frame.drop_bytes]
  rcases damaged with unknown | ⟨k, known, lost⟩
  · rw [unknown]
  · simp only [known, lost, Option.getD_none]

theorem reads_parseSample (frame : Frame) : Reads parseSample frame.bytes (sampleOf frame) := by
  intro rest
  have ahead : peek (do return (← beU32, ← beU32)) (frame.bytes ++ rest) =
      some (frame.bytes ++ rest, (frame.format, frame.length)) := by
    have read := frame.header_of_bytes (fun format length => pure (format, length)) rest
    rw [peek, read]
    rfl
  have whole : frame.bytes.length = frame.length.toNat + 8 := by
    rw [Frame.bytes, List.length_append, List.length_append, BigEndian.length_bytes,
      BigEndian.length_bytes, frame.toNat_length]
    omega
  rw [parseSample, bind_of_some ahead]
  exact bind_of_some (take_append rest whole)

/-- A sample of the format whose own fields parse and are followed by exactly the records they
count, and then perhaps by more bytes. -/
structure FramedSample (k : SampleFormat) (sample : Frame)
    (assemble : UInt32 → List k.Record → Sample) (records : List Frame) (trailing : List UInt8) :
    Prop where
  format : SampleFormat.tryFrom sample.format = some k
  fields : ∃ n : UInt32, records.length = n.toNat ∧
    k.ownFields sample.body = some (records.flatMap Frame.bytes ++ trailing, (assemble, n))

section
variable {k : SampleFormat} {sample : Frame} {assemble : UInt32 → List k.Record → Sample}
  {records : List Frame} {trailing : List UInt8}

theorem FramedSample.sampleData_eq (framed : FramedSample k sample assemble records trailing) :
    sampleData k sample.bytes = some (assemble sample.length (records.map k.recordOf)) := by
  obtain ⟨n, counted, fields⟩ := framed.fields
  have read := reads_count_map k.reads_parseRecord records trailing
  rw [SampleFormat.sampleData_eq (SampleFormat.tryFrom_eq_some framed.format), valueOf,
    SampleFormat.wholeSample, bind_of_some fields]
  rw [counted] at read
  show ((count k.parseRecord n.toNat >>= fun records => pure (assemble sample.length records))
    _).map _ = _
  rw [bind_of_some read]
  rfl

theorem FramedSample.sampleOf_eq (framed : FramedSample k sample assemble records trailing) :
    sampleOf sample = assemble sample.length (records.map k.recordOf) := by
  rw [sampleOf, sampleOrUnknown, framed.format]
  simp only [framed.sampleData_eq, Option.getD_some]

/-- A sample that parses is well framed: only its framing can damage it. -/
theorem exists_framedSample (known : SampleFormat.tryFrom sample.format = some k)
    (parses : sampleData k sample.bytes ≠ none) :
    ∃ assemble records trailing, FramedSample k sample assemble records trailing := by
  obtain ⟨value, run⟩ := Option.ne_none_iff_exists'.mp parses
  rw [SampleFormat.sampleData_eq (SampleFormat.tryFrom_eq_some known)] at run
  obtain ⟨⟨rest, whole⟩, run, -⟩ := Option.map_eq_some_iff.mp run
  obtain ⟨mid, ⟨assemble, n⟩, fields, next⟩ := bind_eq_some.mp run
  obtain ⟨trailing, values, counted, -⟩ := bind_eq_some.mp next
  obtain ⟨records, length, rfl⟩ := count_frames (fun _ _ _ => k.parseRecord_framed) counted
  exact ⟨assemble, records, trailing, known, n, length, fields⟩

theorem exists_framedSample_of_sound (sound : ¬ DamagedSample sample) :
    ∃ k assemble records trailing, FramedSample k sample assemble records trailing := by
  rw [DamagedSample, not_or] at sound
  obtain ⟨named, parses⟩ := sound
  obtain ⟨k, known⟩ := Option.ne_none_iff_exists'.mp named
  exact ⟨k, exists_framedSample known fun lost => parses ⟨k, known, lost⟩⟩

/-- The same own fields stand before any other records, as many as before. -/
theorem FramedSample.with_records (framed : FramedSample k sample assemble records trailing)
    {others : List Frame} (many : others.length = records.length)
    (fits : sample.body.length + (others.flatMap Frame.bytes).length <
      2 ^ 32 + (records.flatMap Frame.bytes).length) :
    ∃ changed, FramedSample k changed assemble others trailing := by
  obtain ⟨n, counted, fields⟩ := framed.fields
  obtain ⟨used, body, reads⟩ := k.local_ownFields _ _ _ fields
  have short : (used ++ (others.flatMap Frame.bytes ++ trailing)).length < 2 ^ 32 := by
    rw [body, List.length_append, List.length_append] at fits
    rw [List.length_append, List.length_append]
    omega
  exact ⟨⟨sample.format, _, short⟩, framed.format, n, many.trans counted, reads _⟩

end

/-! ### Whole datagrams -/

/-- The header parses and is followed by exactly the frames that it counts. -/
structure Framed (input : List UInt8) (head : Head) (samples : List Frame) (rest : List UInt8) :
    Prop where
  counted : samples.length = head.sampleCount.toNat
  header : parseHead input = some (samples.flatMap Frame.bytes ++ rest, head)

section
variable {input rest : List UInt8} {head : Head} {samples : List Frame}

theorem Framed.parse (framed : Framed input head samples rest) :
    parseSflowV5 input = some (rest, head.packet (samples.map sampleOf)) := by
  have read := reads_count_map reads_parseSample samples rest
  rw [framed.counted] at read
  rw [parseSflowV5_eq, bind_of_some framed.header, bind_of_some read]
  rfl

/-- The same header stands before any other samples, as many as before. -/
theorem Framed.with_samples (framed : Framed input head samples rest) {others : List Frame}
    (many : others.length = samples.length) : ∃ input', Framed input' head others rest := by
  obtain ⟨used, -, reads⟩ := local_parseHead _ _ _ framed.header
  exact ⟨_, many.trans framed.counted, reads _⟩

end

theorem length_flatMap_set {records : List Frame} {i : Nat} {record : Frame}
    (there : records[i]? = some record) (other : Frame) :
    ((records.set i other).flatMap Frame.bytes).length + record.body.length =
      (records.flatMap Frame.bytes).length + other.body.length := by
  induction records generalizing i with
  | nil => cases there
  | cons first records ih =>
    cases i with
    | zero =>
      cases there
      simp [Frame.bytes]
      omega
    | succ i =>
      have tail := ih there
      rw [List.set_cons_succ, List.flatMap_cons, List.flatMap_cons, List.length_append,
        List.length_append]
      omega

/-- Any other content in the place of record `i` of sample `s` makes a datagram that parses to the
same in all other places. -/
theorem Framed.replace_record {input rest : List UInt8} {head : Head} {samples : List Frame}
    (framed : Framed input head samples rest) {k : SampleFormat} {sample : Frame}
    {assemble : UInt32 → List k.Record → Sample} {records : List Frame} {trailing : List UInt8}
    (inside : FramedSample k sample assemble records trailing) (s : Nat) {i : Nat} {record : Frame}
    (there : records[i]? = some record) (other : Frame)
    (fits : sample.body.length + other.body.length < 2 ^ 32 + record.body.length) :
    ∃ input' changed, FramedSample k changed assemble (records.set i other) trailing ∧
      Framed input' head (samples.set s changed) rest ∧
      parseSflowV5 input' = some (rest, head.packet ((samples.map sampleOf).set s
        (assemble changed.length ((records.map k.recordOf).set i (k.recordOf other))))) := by
  have sizes := length_flatMap_set there other
  obtain ⟨changed, inside'⟩ :=
    inside.with_records (List.length_set : (records.set i other).length = _) (by omega)
  obtain ⟨input', framed'⟩ :=
    framed.with_samples (List.length_set : (samples.set s changed).length = _)
  refine ⟨input', changed, inside', framed', ?_⟩
  rw [framed'.parse, List.map_set, inside'.sampleOf_eq, List.map_set]

/-- A well-framed datagram parses to one sample for each frame, each from its own frame alone. A
damaged sample keeps its body, and any other is well framed. There each record comes from its own
frame alone, and a damaged record keeps its body. Any other content in the place of a record makes
a datagram that parses to the same in all other places. -/
theorem damage_stays_local {input rest : List UInt8} {head : Head} {samples : List Frame}
    (framed : Framed input head samples rest) :
    parseSflowV5 input = some (rest, head.packet (samples.map sampleOf)) ∧
    (samples.map sampleOf).length = head.sampleCount.toNat ∧
    ∀ s sample, samples[s]? = some sample →
      (DamagedSample sample → sampleOf sample = .unknown sample.body) ∧
      (¬ DamagedSample sample → ∃ k assemble records trailing,
        FramedSample k sample assemble records trailing) ∧
      ∀ k assemble records trailing, FramedSample k sample assemble records trailing →
        sampleOf sample = assemble sample.length (records.map k.recordOf) ∧
        ∀ i record, records[i]? = some record →
          (k.DamagedRecord record → k.recordOf record = k.unknownRecord record) ∧
          ∀ other : Frame, sample.body.length + other.body.length < 2 ^ 32 + record.body.length →
            ∃ input' changed, FramedSample k changed assemble (records.set i other) trailing ∧
              Framed input' head (samples.set s changed) rest ∧
              parseSflowV5 input' = some (rest, head.packet ((samples.map sampleOf).set s
                (assemble changed.length ((records.map k.recordOf).set i
                  (k.recordOf other))))) := by
  refine ⟨framed.parse, ?_, ?_⟩
  · rw [List.length_map, framed.counted]
  intro s sample place
  refine ⟨sampleOf_damaged, exists_framedSample_of_sound, ?_⟩
  intro k assemble records trailing inside
  refine ⟨inside.sampleOf_eq, ?_⟩
  intro i record there
  exact ⟨k.recordOf_damaged, fun other fits => framed.replace_record inside s there other fits⟩

/-- A flow sample with one sampled header, whose protocol 15 is not one that has a name. -/
def strangeHeader : Frame :=
  { format := 1, body := [0, 0, 0, 15, 0, 0, 0, 64, 0, 0, 0, 4, 0, 0, 0, 4, 0, 0, 0, 0],
    fits := by decide }

def strangeSample : Frame where
  format := 1
  body := [0, 0, 0, 1, 0, 0, 0, 3, 0, 0, 0, 100, 0, 0, 0, 100, 0, 0, 0, 0, 0, 0, 0, 3, 0, 0, 0, 4,
           0, 0, 0, 1] ++ strangeHeader.bytes
  fits := by decide

/-- A sample of a format that has no name. -/
def foreignSample : Frame := { format := 9, body := [1, 2, 3, 4], fits := by decide }

def strangeHead : Head :=
  { version := 5, agentAddress := some (.v4 0xc0000201), subAgentId := 0, sequenceNumber := 1,
    uptime := 1000, sampleCount := 2 }

theorem strangeDatagram_framed :
    Framed ([0, 0, 0, 5, 0, 0, 0, 1, 192, 0, 2, 1, 0, 0, 0, 0, 0, 0, 0, 1, 0, 0, 3, 232,
      0, 0, 0, 2] ++
      (strangeSample.bytes ++ foreignSample.bytes)) strangeHead
        [strangeSample, foreignSample] [] where
  counted := rfl
  header := by rfl

/-- Neither the header that does not parse nor the foreign sample takes anything else down. -/
theorem strangeDatagram_kept :
    parseSflowV5 ([0, 0, 0, 5, 0, 0, 0, 1, 192, 0, 2, 1, 0, 0, 0, 0, 0, 0, 0, 1, 0, 0, 3, 232,
      0, 0, 0, 2] ++
        (strangeSample.bytes ++ foreignSample.bytes)) =
      some ([], strangeHead.packet [sampleOf strangeSample, sampleOf foreignSample]) ∧
    sampleOf foreignSample = .unknown [1, 2, 3, 4] ∧
    ∃ sample : FlowSample, sampleOf strangeSample = .flow sample ∧ sample.input = 3 ∧
      sample.records = [SampleFormat.unknownRecord .flow strangeHeader] := by
  obtain ⟨parse, -, each⟩ := damage_stays_local strangeDatagram_framed
  refine ⟨parse, (each 1 foreignSample rfl).1 (.inl rfl), ?_⟩
  have inside : FramedSample .flow strangeSample
      (fun length records => .flow ⟨⟨1, length, 1, 0, 3⟩, 100, 100, 0, 3, 4, records⟩)
      [strangeHeader] [] :=
    ⟨rfl, 1, rfl, by rfl⟩
  obtain ⟨whole, records⟩ := (each 0 strangeSample rfl).2.2 .flow _ [strangeHeader] [] inside
  have kept := (records 0 strangeHeader rfl).1 (.inr (by rfl))
  refine ⟨_, whole, rfl, ?_⟩
  rw [List.map_singleton, kept]

end Rustflow.SflowV5
