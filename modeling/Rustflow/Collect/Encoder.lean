import Rustflow.Common.FlowField
import Rustflow.Lib.BufWriter
import Rustflow.Lib.Utf8

/-!
# Encoders

`sink/encoder/mod.rs`, `sink/encoder/csv.rs` and `sink/encoder/ndjson.rs`: records as bytes, through
a buffer to a sink that may fail. An operation returns whether it succeeded, and the encoder that is
left either way.
-/

namespace Rustflow.Collect

def WRITE_BUFFER_BYTES : Nat := 256 * 1024

/-- What enrichment adds to a flow, in the order of its fields. -/
abbrev Enriched : Type := List (Option String)

/-- The libraries that print values. -/
structure Formats where
  /-- A field of a flow, and nothing for one that is not set. -/
  text : FlowField → CommonFlow → List UInt8
  /-- The quoted fields of a record, with its terminator. -/
  csvRecord : List (List UInt8) → List UInt8
  /-- An object. What it got to before a failure is left behind. -/
  toJson : CommonFlow → List (String × String) → Bool × List UInt8

inductive EncoderCall where
  | encode (flow : CommonFlow) (enriched : Enriched)
  | writeRaw (lines : List UInt8)
  | flush

/-! ### CSV -/

def HEADERS : List String := FlowField.all.map FlowField.name

/-- A `csv::Writer` over memory: the fields of the record begun, how many the first had, and the
bytes of records that were ended. -/
structure CsvWriter where
  fields : List (List UInt8) := []
  firstFieldCount : Option Nat := none
  record : List UInt8 := []

namespace CsvWriter

def writeField (self : CsvWriter) (field : List UInt8) : CsvWriter :=
  { self with fields := self.fields ++ [field] }

def writeFields (self : CsvWriter) (fields : List (List UInt8)) : CsvWriter :=
  fields.foldl writeField self

/-- Ends the record, which must have as many fields as the first. -/
def terminate (formats : Formats) (self : CsvWriter) : Bool × CsvWriter :=
  if self.firstFieldCount.all (· = self.fields.length) then
    (true, {
      fields := []
      firstFieldCount := some self.fields.length
      record := self.record ++ formats.csvRecord self.fields })
  else (false, self)

end CsvWriter

structure Csv where
  out : BufWriter UInt8
  record : CsvWriter

namespace Csv
variable (formats : Formats)

/-- Moves the record encoded so far to `out`, and starts the next. -/
def writeRecord (self : Csv) : Bool × Csv :=
  let (written, out) := self.out.writeAll self.record.record
  (written, { out, record := { self.record with record := [] } })

def endRecord (self : Csv) : Bool × Csv :=
  match self.record.terminate formats with
  | (false, record) => (false, { self with record })
  | (true, record) => writeRecord { self with record }

def openAt (out : Sink UInt8) (enrichedFields : List String) : Option Csv :=
  let csv : Csv :=
    { out := BufWriter.withCapacity WRITE_BUFFER_BYTES out
      record := CsvWriter.writeFields {} ((HEADERS ++ enrichedFields).map Utf8.bytes) }
  match csv.endRecord formats with
  | (true, csv) => some csv
  | (false, _) => none

def encode (self : Csv) (flow : CommonFlow) (enriched : Enriched) : Bool × Csv :=
  let record := self.record.writeFields (FlowField.all.map fun field => formats.text field flow)
  let record := record.writeFields (enriched.map fun value => Utf8.bytes (value.getD ""))
  endRecord formats { self with record }

def flush (self : Csv) : Bool × Csv := (self.out.flush.1, { self with out := self.out.flush.2 })

def call (self : Csv) : EncoderCall → Bool × Csv
  | .encode flow enriched => self.encode formats flow enriched
  -- Raw records need NDJSON.
  | .writeRaw _ => (false, self)
  | .flush => self.flush

def after (self : Csv) (calls : List EncoderCall) : Csv :=
  calls.foldl (fun csv call => (csv.call formats call).2) self

end Csv

/-! ### NDJSON -/

structure Ndjson where
  out : BufWriter UInt8
  names : List String
  line : List UInt8

def enrichedMap (names : List String) (values : Enriched) : List (String × String) :=
  (names.zip values).filterMap fun (name, value) => value.map fun value => (name, value)

/-- `split_inclusive` at line ends. -/
def splitLines : List UInt8 → List (List UInt8)
  | [] => []
  | byte :: bytes =>
    if byte = 0x0a then [byte] :: splitLines bytes
    else
      match splitLines bytes with
      | [] => [[byte]]
      | line :: lines => (byte :: line) :: lines

namespace Ndjson
variable (formats : Formats)

def openAt (out : Sink UInt8) (enrichedFields : List String) : Ndjson :=
  { out := BufWriter.withCapacity WRITE_BUFFER_BYTES out, names := enrichedFields, line := [] }

def writeLine (self : Ndjson) (value : Bool × List UInt8) : Bool × Ndjson :=
  match value with
  | (false, part) => (false, { self with line := part })
  | (true, object) =>
    let line := object ++ [0x0a]
    let (written, out) := self.out.writeAll line
    (written, { self with out, line })

def encode (self : Ndjson) (flow : CommonFlow) (enriched : Enriched) : Bool × Ndjson :=
  self.writeLine (formats.toJson flow (enrichedMap self.names enriched))

/-- One write per line, up to the first that fails. -/
def writeRaw (self : Ndjson) (lines : List UInt8) : Bool × Ndjson :=
  let (written, out) := self.out.offer (splitLines lines)
  (written, { self with out })

def flush (self : Ndjson) : Bool × Ndjson :=
  (self.out.flush.1, { self with out := self.out.flush.2 })

def call (self : Ndjson) : EncoderCall → Bool × Ndjson
  | .encode flow enriched => self.encode formats flow enriched
  | .writeRaw lines => self.writeRaw lines
  | .flush => self.flush

def after (self : Ndjson) (calls : List EncoderCall) : Ndjson :=
  calls.foldl (fun ndjson call => (ndjson.call formats call).2) self

end Ndjson

end Rustflow.Collect
