import Rustflow.Export.Data
import Rustflow.Ipfix.Encoder

/-!
# The exporter

`exporter.rs`: messages to one collector over UDP. The clock and the outcome of each send come from
outside; every message tried is kept in a journal with its outcome.
-/

namespace Rustflow.Export
open Ipfix

/-- Keeps a message within one Ethernet MTU, with room for IPv6 and UDP headers. -/
def MAX_MESSAGE_SIZE : Nat := 1400
def MAX_SET_BODY : Nat := MAX_MESSAGE_SIZE - IPFIX_HEADER_SIZE - SET_HEADER_SIZE

structure Exporter where
  observationDomainId : UInt32
  mode : Mode
  sampling : Sampling
  sequenceNumber : UInt32
  lastTemplateSend : Instant

/-- What `send_to` is called with and the error it may return, of type `E`. -/
structure Attempt (E : Type) where
  packet : IpfixPacket
  outcome : Except E Unit

/-- The `n`-th message tried: the time it is stamped with, what comes of sending its bytes, and the
monotonic clock after. -/
structure Surroundings (E : Type) where
  utcNow : Nat → DateTime
  sendTo : Nat → List UInt8 → Except E Unit
  now : Nat → Instant

structure World (E : Type) where
  exporter : Exporter
  journal : List (Attempt E)

inductive Records where
  | flows (flows : List Flow)
  | packets (packets : List PacketData)

section
variable {E : Type} (env : Surroundings E)

/-- Sends one message with `sets`; returns its size. -/
def sendSets (sets : List Ipfix.Set) (w : World E) : Except E Nat × World E :=
  let packet := {
    header := {
      version := IPFIX_VERSION
      length := 0
      exportTime := env.utcNow w.journal.length
      sequenceNumber := w.exporter.sequenceNumber
      observationDomainId := w.exporter.observationDomainId }
    sets }
  let encoded := packet.encode
  let outcome := env.sendTo w.journal.length encoded
  (outcome.map fun _ => encoded.length, { w with journal := w.journal ++ [⟨packet, outcome⟩] })

/-- Sends one message with one set of data records of `templateId`. -/
def sendData (templateId : UInt16) (records : List Record) (w : World E) :
    Except E Unit × World E :=
  let count := UInt32.ofNat records.length
  match sendSets env [{ id := templateId, length := 0, records }] w with
  | (.error e, w) => (.error e, w)
  | (.ok _, w) => (.ok (), { w with exporter.sequenceNumber := w.exporter.sequenceNumber + count })

def sendTemplates (w : World E) : Except E Unit × World E :=
  let sets := [
    { id := IPFIX_TEMPLATE_SET_ID, length := 0,
      records := (createTemplates w.exporter.mode).map .template },
    { id := IPFIX_OPTIONS_TEMPLATE_SET_ID, length := 0
      records := [.optionsTemplate (createOptionsTemplate w.exporter.sampling)] }]
  match sendSets env sets w with
  | (.error e, w) => (.error e, w)
  | (.ok _, w) => (.ok (), { w with exporter.lastTemplateSend := env.now w.journal.length })

def sendOptionsData (w : World E) : Except E Unit × World E :=
  let optionsData := OptionsData.mk w.exporter.observationDomainId w.exporter.sampling
  sendData env OPTIONS_TEMPLATE_ID [.optionsData optionsData.toDataRecord] w

/-- What `send_records` carries from one record to the next. -/
structure Packing (E : Type) where
  result : Except E Unit
  pending : List Record
  templateId : UInt16
  size : Nat
  world : World E

/-- `Result::and`: the first error. -/
def andThen (result other : Except E Unit) : Except E Unit :=
  match result with
  | .ok _ => other
  | .error e => .error e

def Packing.flush (self : Packing E) : Packing E :=
  let (result, world) := sendData env self.templateId self.pending self.world
  { self with result := andThen self.result result, pending := [], size := 0, world }

def Packing.add (self : Packing E) : UInt16 × Ipfix.DataRecord → Packing E
  | (id, record) =>
    let len := (encodeRecord record).length
    let self := if self.pending ≠ [] ∧ (self.size + len > MAX_SET_BODY ∨ id ≠ self.templateId) then
      self.flush env
      else self
    { self with
      templateId := id
      size := self.size + len
      pending := self.pending ++ [.data record] }

/-- Sends each record with its template ID, filling every message by bytes up to
`MAX_MESSAGE_SIZE`; a new template starts a new message. Every message is tried, and the first error
is returned. -/
def sendRecords (records : List (UInt16 × Ipfix.DataRecord)) (w : World E) :
    Except E Unit × World E :=
  let packing := records.foldl (Packing.add env)
    { result := .ok (), pending := [], templateId := 0, size := 0, world := w }
  let packing := if packing.pending ≠ [] then packing.flush env else packing
  (packing.result, packing.world)

/-- A set holds records of one template, so IPv4 and IPv6 flows are sent apart rather than
interleaved. -/
def flowRecords (flows : List Flow) : List (UInt16 × Ipfix.DataRecord) :=
  let (ipv4, ipv6) := (flows.map toFlowData).partition FlowData.isIpv4
  (ipv4 ++ ipv6).map fun data => (data.templateId, data.toDataRecord)

def sendFlows (flows : List Flow) (w : World E) : Except E Unit × World E :=
  if flows.isEmpty then (.ok (), w) else sendRecords env (flowRecords flows) w

def packetRecords (packets : List PacketData) : List (UInt16 × Ipfix.DataRecord) :=
  packets.map fun packet => (packet.templateId, packet.toDataRecord)

def sendPackets (packets : List PacketData) (w : World E) : Except E Unit × World E :=
  sendRecords env (packetRecords packets) w

def send (records : Records) (w : World E) : Except E Unit × World E :=
  match records with
  | .flows flows => sendFlows env flows w
  | .packets packets => sendPackets env packets w

/-! ### Runs -/

def World.new (observationDomainId : UInt32) (mode : Mode) (sampling : Sampling) (now : Instant) :
    World E where
  exporter := { observationDomainId, mode, sampling, sequenceNumber := 0, lastTemplateSend := now }
  journal := []

inductive Call where
  | sendTemplates
  | sendOptionsData
  | send (records : Records)

def World.call (w : World E) : Call → World E
  | .sendTemplates => (sendTemplates env w).2
  | .sendOptionsData => (sendOptionsData env w).2
  | .send records => (send env records w).2

def World.run (w : World E) (calls : List Call) : World E := calls.foldl (World.call env) w

end

end Rustflow.Export
