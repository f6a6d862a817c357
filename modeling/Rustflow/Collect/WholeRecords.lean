import Rustflow.Collect.Encoder

/-!
# Whole records on a failing disk

What the CSV and NDJSON encoders get to a sink that may fail in any way. A record that fits the
buffer gets there whole or not at all. One that does not goes past it, and can be cut.
-/

namespace Rustflow.Collect
open BufWriter

/-- After a header there are whole records, in their order and each once at most. -/
def Whole (header : List UInt8) (offered : List (List UInt8)) (written : List UInt8) : Prop :=
  ∃ kept : List (List UInt8), kept.Sublist offered ∧ written = header ++ kept.flatten

/-- What a flush that succeeds has left in a sink, of calls that made these requests. -/
structure Flushed (header : List UInt8) (out : BufWriter UInt8) (requests : List (Request UInt8))
    (written : List UInt8) :
    Prop where
  whole : out.UncutRun requests → Whole header (requests.flatMap Request.pieces) written
  /-- There are the records that were accepted and no more, unless one was cut. -/
  accepted : written = header ++ (out.kept requests).flatten ↔ out.UncutRun requests
  uncut : (∀ record ∈ requests.flatMap Request.pieces, record.length < WRITE_BUFFER_BYTES) →
    out.UncutRun requests

theorem flushed_of_run {header : List UInt8} {out : BufWriter UInt8}
    {requests : List (Request UInt8)} (content : out.content = header)
    (capacity : out.capacity = WRITE_BUFFER_BYTES) (ok : (out.run requests).flush.1 = true) :
    Flushed header out requests (out.run requests).flush.2.sink.written := by
  have accepted := flushed_iff ok
  rw [content] at accepted
  refine ⟨fun uncut => ⟨_, kept_sublist out requests, accepted.mpr uncut⟩, accepted,
    fun short => uncutRun_of_short ?_⟩
  intro request mem piece mem'
  rw [capacity]
  exact short piece (List.mem_flatMap.mpr ⟨request, mem, mem'⟩)

variable (formats : Formats)

/-! ### CSV -/

namespace Csv

def header (enrichedFields : List String) : List UInt8 :=
  formats.csvRecord ((HEADERS ++ enrichedFields).map Utf8.bytes)

def row (flow : CommonFlow) (enriched : Enriched) : List UInt8 :=
  formats.csvRecord ((FlowField.all.map fun field => formats.text field flow) ++
    enriched.map fun value => Utf8.bytes (value.getD ""))

def request : EncoderCall → Request UInt8
  | .encode flow enriched => .offer [row formats flow enriched]
  | .writeRaw _ => .offer []
  | .flush => .flush

/-- Flows come with a value, which may be none, for each field of enrichment. -/
def Fits (enrichedFields : List String) : EncoderCall → Prop
  | .encode _ enriched => enriched.length = enrichedFields.length
  | _ => True

def Between (enrichedFields : List String) (csv : Csv) : Prop :=
  csv.record =
    { fields := [], firstFieldCount := some (HEADERS.length + enrichedFields.length), record := [] }

theorem writeFields_eq (self : CsvWriter) (fields : List (List UInt8)) :
    self.writeFields fields = { self with fields := self.fields ++ fields } := by
  unfold CsvWriter.writeFields
  induction fields generalizing self with
  | nil => rw [List.append_nil]; rfl
  | cons field fields ih =>
    rw [List.foldl_cons, ih]
    simp [CsvWriter.writeField]

variable {formats} {enrichedFields : List String}

theorem endRecord_eq {csv : Csv} (empty : csv.record.record = [])
    (counted : csv.record.firstFieldCount.all (· = csv.record.fields.length)) :
    csv.endRecord formats =
      ((csv.out.writeAll (formats.csvRecord csv.record.fields)).1,
        { out := (csv.out.writeAll (formats.csvRecord csv.record.fields)).2
          record := {
            fields := []
            firstFieldCount := some csv.record.fields.length
            record := [] } }) := by
  unfold endRecord CsvWriter.terminate
  rw [if_pos counted]
  unfold writeRecord
  simp only [empty, List.nil_append]

variable (formats enrichedFields) in
theorem openAt_eq (disk : Sink UInt8) :
    Csv.openAt formats disk enrichedFields =
      let wrote := (withCapacity WRITE_BUFFER_BYTES disk).writeAll (header formats enrichedFields)
      let record : CsvWriter :=
        { fields := [], firstFieldCount := some (HEADERS.length + enrichedFields.length),
          record := [] }
      if wrote.1 then some { out := wrote.2, record } else none := by
  unfold Csv.openAt header
  dsimp only
  rw [writeFields_eq, endRecord_eq rfl rfl]
  simp only [List.nil_append, List.length_map, List.length_append]
  generalize (withCapacity WRITE_BUFFER_BYTES disk).writeAll _ = wrote
  obtain ⟨ok, out⟩ := wrote
  cases ok <;> rfl

theorem openAt_spec {disk : Sink UInt8} {csv : Csv}
    (opened : Csv.openAt formats disk enrichedFields = some csv) :
    csv.out.content = disk.written ++ header formats enrichedFields ∧
      csv.out.capacity = WRITE_BUFFER_BYTES ∧
      Between enrichedFields csv := by
  rw [openAt_eq] at opened
  dsimp only at opened
  split at opened
  · next ok =>
    obtain ⟨taken, content, whole, _⟩ :=
      content_writeAll (withCapacity WRITE_BUFFER_BYTES disk) (header formats enrichedFields)
    obtain rfl := Option.some.inj opened
    rw [(whole ok).1, content_withCapacity] at content
    exact ⟨content, capacity_writeAll _ _, rfl⟩
  · cases opened

theorem call_refines {csv : Csv} (between : Between enrichedFields csv) {call : EncoderCall}
    (fits : Fits enrichedFields call) :
    (csv.call formats call).2.out = (csv.out.step (request formats call)).2 ∧
      Between enrichedFields (csv.call formats call).2 := by
  cases call with
  | writeRaw lines => exact ⟨rfl, between⟩
  | flush => exact ⟨rfl, between⟩
  | encode flow enriched =>
    show (csv.encode formats flow enriched).2.out = _ ∧
      Between enrichedFields (csv.encode formats flow enriched).2
    unfold Csv.encode
    dsimp only
    rw [between, writeFields_eq, writeFields_eq, endRecord_eq rfl]
    · refine ⟨(offer_one csv.out _).symm, ?_⟩
      simp [Between, HEADERS, show enriched.length = _ from fits]
    · simp [HEADERS, show enriched.length = _ from fits]

theorem after_refines {csv : Csv} (between : Between enrichedFields csv) {calls : List EncoderCall}
    (fits : ∀ call ∈ calls, Fits enrichedFields call) :
    (csv.after formats calls).out = csv.out.run (calls.map (request formats)) := by
  induction calls generalizing csv with
  | nil => rfl
  | cons call calls ih =>
    obtain ⟨stepped, between⟩ := call_refines between (fits call List.mem_cons_self)
    refine (ih between fun other mem => fits other (List.mem_cons_of_mem _ mem)).trans ?_
    rw [stepped]
    rfl

end Csv

/-! ### NDJSON -/

namespace Ndjson

def objectLine : Bool × List UInt8 → List (List UInt8)
  | (true, object) => [object ++ [0x0a]]
  | (false, _) => []

def request (enrichedFields : List String) : EncoderCall → Request UInt8
  | .encode flow enriched =>
    .offer (objectLine (formats.toJson flow (enrichedMap enrichedFields enriched)))
  | .writeRaw lines => .offer (splitLines lines)
  | .flush => .flush

variable {formats}

theorem writeLine_refines (self : Ndjson) (value : Bool × List UInt8) :
    (self.writeLine value).2.out = (self.out.offer (objectLine value)).2 ∧
      (self.writeLine value).2.names = self.names := by
  obtain ⟨made, object⟩ := value
  cases made with
  | true => exact ⟨(offer_one self.out _).symm, rfl⟩
  | false => exact ⟨rfl, rfl⟩

theorem call_refines (ndjson : Ndjson) (call : EncoderCall) :
    (ndjson.call formats call).2.out = (ndjson.out.step (request formats ndjson.names call)).2 ∧
      (ndjson.call formats call).2.names = ndjson.names := by
  cases call with
  | encode flow enriched => exact writeLine_refines ndjson _
  | writeRaw lines => exact ⟨rfl, rfl⟩
  | flush => exact ⟨rfl, rfl⟩

theorem after_refines (ndjson : Ndjson) (calls : List EncoderCall) :
    (ndjson.after formats calls).out =
      ndjson.out.run (calls.map (request formats ndjson.names)) := by
  induction calls generalizing ndjson with
  | nil => rfl
  | cons call calls ih =>
    obtain ⟨stepped, names⟩ := call_refines ndjson call
    refine (ih _).trans ?_
    rw [stepped, names]
    rfl

end Ndjson

/-! ### Both -/

/-- What the encoders leave whole in any run of calls up to a flush that succeeds. -/
def CsvWhole (enrichedFields : List String) (answers : List Answer)
    (calls : List EncoderCall) : Prop :=
  ∀ csv, Csv.openAt formats ⟨[], answers⟩ enrichedFields = some csv →
    (∀ call ∈ calls, Csv.Fits enrichedFields call) →
    (csv.after formats calls).flush.1 = true →
      Whole (Csv.header formats enrichedFields)
        ((calls.map (Csv.request formats)).flatMap Request.pieces)
        (csv.after formats calls).flush.2.out.sink.written

def NdjsonWhole (enrichedFields : List String) (answers : List Answer)
    (calls : List EncoderCall) : Prop :=
  ((Ndjson.openAt ⟨[], answers⟩ enrichedFields).after formats calls).flush.1 = true →
    Whole [] ((calls.map (Ndjson.request formats enrichedFields)).flatMap Request.pieces)
      ((Ndjson.openAt ⟨[], answers⟩ enrichedFields).after formats calls).flush.2.out.sink.written

/-- Where no record is cut past the buffer, there are whole records after every flush that
succeeds. -/
theorem flushed_records (enrichedFields : List String) (answers : List Answer)
    (calls : List EncoderCall) :
    (∀ csv, Csv.openAt formats ⟨[], answers⟩ enrichedFields = some csv →
      (∀ call ∈ calls, Csv.Fits enrichedFields call) →
        (csv.after formats calls).flush.1 = true →
          Flushed (Csv.header formats enrichedFields) csv.out (calls.map (Csv.request formats))
            (csv.after formats calls).flush.2.out.sink.written) ∧
      (((Ndjson.openAt ⟨[], answers⟩ enrichedFields).after formats calls).flush.1 = true →
        Flushed [] (Ndjson.openAt ⟨[], answers⟩ enrichedFields).out
          (calls.map (Ndjson.request formats enrichedFields))
          ((Ndjson.openAt ⟨[], answers⟩ enrichedFields).after formats
            calls).flush.2.out.sink.written) := by
  constructor
  · intro csv opened fits ok
    obtain ⟨content, capacity, between⟩ := Csv.openAt_spec opened
    have refined : (csv.after formats calls).out = _ := Csv.after_refines between fits
    have flushed : (csv.after formats calls).out.flush.1 = true := ok
    show Flushed _ _ _ (csv.after formats calls).out.flush.2.sink.written
    rw [refined] at flushed ⊢
    exact flushed_of_run content capacity flushed
  · intro ok
    have refined : ((Ndjson.openAt ⟨[], answers⟩ enrichedFields).after formats calls).out = _ :=
      Ndjson.after_refines (Ndjson.openAt ⟨[], answers⟩ enrichedFields) calls
    have flushed : ((Ndjson.openAt ⟨[], answers⟩ enrichedFields).after formats calls).out.flush.1 =
        true := ok
    show Flushed _ _ _ ((Ndjson.openAt ⟨[], answers⟩ enrichedFields).after formats
      calls).out.flush.2.sink.written
    rw [refined] at flushed ⊢
    exact flushed_of_run rfl rfl flushed

/-- The number of a protocol below ten is all that is known of a flow. -/
def protoDigits : Formats where
  text
    | .proto, flow => (flow.proto.map fun proto => 0x30 + proto).toList
    | _, _ => []
  csvRecord fields := (fields.intersperse [0x2c]).flatten ++ [0x0a]
  toJson flow _ := (true, [0x7b] ++ (flow.proto.map fun proto => 0x30 + proto).toList ++ [0x7d])

def flowOf (proto : UInt8) : CommonFlow := { CommonFlow.new .ipfix with proto := some proto }

/-- Three records, and a flush after two. -/
def flushBetween : List EncoderCall :=
  [.encode (flowOf 6) [], .encode (flowOf 1) [], .flush, .encode (flowOf 2) []]

/-- A disk that is full after one byte, for once. -/
def fullForOnce : Sink UInt8 := ⟨[], [.took 1, .failed, .took 4096, .took 0]⟩

theorem protoDigits_whole :
    (∃ csv, Csv.openAt protoDigits fullForOnce [] = some csv ∧
        Whole (Csv.header protoDigits []) ([6, 1, 2].map fun proto =>
          Csv.row protoDigits (flowOf proto) [])
          (csv.after protoDigits flushBetween).flush.2.out.sink.written) ∧
      Whole [] [[0x7b, 0x36, 0x7d, 0x0a], [0x7b, 0x31, 0x7d, 0x0a], [0x7b, 0x32, 0x7d, 0x0a]]
        ((Ndjson.openAt fullForOnce []).after protoDigits
          flushBetween).flush.2.out.sink.written := by
  obtain ⟨csv, ndjson⟩ := flushed_records protoDigits [] fullForOnce.answers flushBetween
  have room :
      ((withCapacity WRITE_BUFFER_BYTES fullForOnce).writeAll (Csv.header protoDigits [])).1 =
        true := by
    decide +kernel
  have opened := Csv.openAt_eq protoDigits [] fullForOnce
  dsimp only at opened
  rw [if_pos room] at opened
  have rows := csv _ opened (by simp [flushBetween, Csv.Fits]) (by decide +kernel)
  have lines := ndjson (by decide +kernel)
  have short : ∀ row ∈ [6, 1, 2].map fun proto => Csv.row protoDigits (flowOf proto) [],
      row.length < WRITE_BUFFER_BYTES := by decide +kernel
  exact ⟨⟨_, opened, rows.whole (rows.uncut short)⟩, lines.whole (lines.uncut (by decide +kernel))⟩

theorem splitLines_line {line : List UInt8} (plain : (0x0a : UInt8) ∉ line) :
    splitLines (line ++ [0x0a]) = [line ++ [0x0a]] := by
  induction line with
  | nil => rfl
  | cons byte line ih =>
    rw [List.mem_cons, not_or] at plain
    rw [List.cons_append, splitLines, if_neg (Ne.symm plain.1), ih plain.2]

theorem offer_torn {capacity : Nat} {byte next : UInt8} {line : List UInt8}
    (long : capacity ≤ (byte :: next :: line).length) :
    ((withCapacity capacity fullForOnce).offer [byte :: next :: line]).2 =
      withCapacity capacity ⟨[byte], [.took 4096, .took 0]⟩ := by
  have cold : ¬(byte :: next :: line).length < (withCapacity capacity fullForOnce).spareCapacity :=
    Nat.not_lt.mpr long
  have ready : (withCapacity capacity fullForOnce).makeRoom (byte :: next :: line) =
      (true, withCapacity capacity fullForOnce) := by
    unfold makeRoom
    split <;> rfl
  rw [offer_one, writeAll, if_neg cold, writeAllCold, ready]
  dsimp only
  rw [if_pos (show (withCapacity capacity fullForOnce).capacity ≤ _ from long)]
  rfl

variable {formats} in
theorem not_whole_torn {byte next : UInt8} {line : List UInt8}
    (plain : (0x0a : UInt8) ∉ byte :: next :: line)
    (long : WRITE_BUFFER_BYTES ≤ (byte :: next :: (line ++ [0x0a])).length) :
    ¬NdjsonWhole formats [] fullForOnce.answers [.writeRaw (byte :: next :: (line ++ [0x0a])),
      .writeRaw [0x62, 0x0a]] := by
  intro whole
  have lines : splitLines (byte :: next :: (line ++ [0x0a])) = [byte :: next :: (line ++ [0x0a])] :=
    splitLines_line plain
  have torn :
      ((Ndjson.openAt fullForOnce []).call formats
        (.writeRaw (byte :: next :: (line ++ [0x0a])))).2 =
      { out := withCapacity WRITE_BUFFER_BYTES ⟨[byte], [.took 4096, .took 0]⟩, names := [],
        line := [] } := by
    show Ndjson.mk ((Ndjson.openAt fullForOnce []).out.offer
      (splitLines (byte :: next :: (line ++ [0x0a])))).2 [] [] = _
    rw [lines]
    exact congrArg (Ndjson.mk · [] []) (offer_torn long)
  have after : (Ndjson.openAt ⟨[], fullForOnce.answers⟩ []).after formats
      [.writeRaw (byte :: next :: (line ++ [0x0a])), .writeRaw [0x62, 0x0a]] =
        { out := {
            capacity := WRITE_BUFFER_BYTES
            buffer := [0x62, 0x0a]
            sink := ⟨[byte], [.took 4096, .took 0]⟩ }
          names := []
          line := [] } := by
    show (((Ndjson.openAt fullForOnce []).call formats _).2.call formats _).2 = _
    rw [torn]
    rfl
  unfold NdjsonWhole at whole
  rw [after] at whole
  obtain ⟨kept, sublist, written⟩ := whole rfl
  have bytes : kept.flatten = [byte, 0x62, 0x0a] := written.symm
  have offered : kept.Sublist [byte :: next :: (line ++ [0x0a]), [0x62, 0x0a]] := by
    simp only [List.map_cons, List.map_nil, Ndjson.request, List.flatMap_cons,
      Request.pieces, lines] at sublist
    exact sublist
  cases offered with
  | cons _ short =>
    cases short with
    | cons _ none =>
      obtain rfl := List.sublist_nil.mp none
      cases bytes
    | cons_cons _ none =>
      obtain rfl := List.sublist_nil.mp none
      cases bytes
  | cons_cons _ rest =>
    have length : (byte :: next :: (line ++ [0x0a])).length + _ = 3 :=
      List.length_append.symm.trans (congrArg List.length bytes)
    have short : 3 < WRITE_BUFFER_BYTES := by decide
    omega

/-- Half a line can be followed by another. -/
theorem torn_line : ¬∀ formats enrichedFields answers calls,
    CsvWhole formats enrichedFields answers calls ∧
      NdjsonWhole formats enrichedFields answers calls := by
  intro whole
  have formats : Formats :=
    { text := fun _ _ => [], csvRecord := fun _ => [], toJson := fun _ _ => (true, []) }
  refine @not_whole_torn formats 0x61 0x61 (List.replicate 262141 0x61) ?_ ?_
    (whole formats [] _ _).2
  · intro mem
    rw [List.mem_cons, List.mem_cons] at mem
    obtain same | same | mem := mem
    · cases same
    · cases same
    · cases List.eq_of_mem_replicate mem
  · rw [List.length_cons, List.length_cons, List.length_append, List.length_replicate]
    decide

end Rustflow.Collect
