import Rustflow.Common.TemplateCache

/-!
# The pipeline

`sink/pipeline/mod.rs` of the collector: producers that batch records into chunks, the bounded
channel, and the encoder that drains it. `F` is the type of a decoded flow and `X` that of what
enrichment adds to one. The channel keeps the order of each sender's chunks and no other.

An action of the system is one call on a producer, one chunk entering the channel, or one turn of
the encoder loop. The readings of the clock and the lookup tables of enrichment come with it.
-/

namespace Rustflow.Collect

def CHUNK_RECORDS : Nat := 256

/-- 100 ms and 250 ms. -/
def CHUNK_FLUSH_TIMEOUT : Duration := 100000000
def FLUSH_INTERVAL : Duration := 250000000

def PIPELINE_DEPTH : Nat := 1024

/-- What crosses the channel. -/
inductive Chunk (F : Type) where
  | flows (flows : List F)
  /-- JSON lines, and the flows the packets they hold carry. -/
  | raw (lines : List UInt8) (flows : Nat)

structure Producer (F : Type) where
  flows : List F
  raw : List UInt8
  rawRecords : Nat
  rawFlows : Nat
  discard : Bool
  /-- When the first record of the current chunk arrived. -/
  chunkStarted : Instant

namespace Producer
variable {F : Type}

def new (discard : Bool) (now : Instant) : Producer F :=
  { flows := [], raw := [], rawRecords := 0, rawFlows := 0, discard, chunkStarted := now }

def startChunk (self : Producer F) (now : Instant) : Producer F :=
  if self.flows = [] ∧ self.rawRecords = 0 then { self with chunkStarted := now } else self

def flushFlows (self : Producer F) : Producer F × List (Chunk F) :=
  if self.flows = [] then (self, []) else ({ self with flows := [] }, [.flows self.flows])

def flushRaw (self : Producer F) : Producer F × List (Chunk F) :=
  if self.rawRecords > 0 then
    ({ self with raw := [], rawFlows := 0, rawRecords := 0 }, [.raw self.raw self.rawFlows])
  else (self, [])

/-- Empties the producer, and the chunks to send, in order. -/
def flush (self : Producer F) : Producer F × List (Chunk F) :=
  let (self, flows) := self.flushFlows
  let (self, raw) := self.flushRaw
  (self, flows ++ raw)

def sendIfReady (self : Producer F) (records : Nat) (now : Instant) : Producer F × List (Chunk F) :=
  if records ≥ CHUNK_RECORDS ∨ now - self.chunkStarted ≥ CHUNK_FLUSH_TIMEOUT then self.flush
  else (self, [])

/-- `decode` adds to the flows of the chunk. -/
def push (self : Producer F) (decode : List F → List F) (start now : Instant) :
    Producer F × List (Chunk F) :=
  let self := self.startChunk start
  let self := { self with flows := decode self.flows }
  self.sendIfReady self.flows.length now

/-- `record` is the packet as JSON. -/
def pushRaw (self : Producer F) (record : List UInt8) (flows : Nat) (start now : Instant) :
    Producer F × List (Chunk F) :=
  let self := self.startChunk start
  let self := { self with
    raw := if !self.discard then self.raw ++ record ++ [0x0a] else self.raw
    rawRecords := self.rawRecords + 1
    rawFlows := self.rawFlows + flows }
  self.sendIfReady self.rawRecords now

end Producer

/-! ### The encoder -/

/-- A deadline that fires once per interval however often it is polled. Its deadlines are taken
to be representable: adding to an `Instant` panics on overflow, far beyond the one interval of
`FLUSH_INTERVAL`. -/
structure FlushTimer where
  next : Instant
  interval : Duration

def FlushTimer.new (interval : Duration) (now : Instant) : FlushTimer :=
  { next := now + interval, interval }

def FlushTimer.due (self : FlushTimer) (now : Instant) : FlushTimer × Bool :=
  if now < self.next then (self, false)
  else
    let anchored := self.next + self.interval
    ({ self with next := if anchored > now then anchored else now + self.interval }, true)

/-- The calls the encoder makes on its sink. What they return is only counted and logged. -/
inductive SinkCall (F X : Type) where
  | rotateIfDue
  | write (flow : F) (enriched : X)
  | writeRaw (lines : List UInt8)
  | flush
  | finish

structure Encoder (F X : Type) where
  /-- The calls made so far. -/
  sink : List (SinkCall F X)
  /-- The `flows` counter. -/
  flows : UInt64
  timer : FlushTimer

namespace Encoder
variable {F X : Type}

def new (now : Instant) : Encoder F X :=
  { sink := [], flows := 0, timer := { next := now + FLUSH_INTERVAL, interval := FLUSH_INTERVAL } }

def handle (self : Encoder F X) (tables : F → X) : Chunk F → Encoder F X
  | .flows flows =>
    { self with
      sink := self.sink ++ .rotateIfDue :: flows.map fun flow => .write flow (tables flow)
      flows := self.flows + UInt64.ofNat flows.length }
  | .raw lines flows =>
    { self with
      sink := self.sink ++ [.rotateIfDue, .writeRaw lines]
      flows := self.flows + UInt64.ofNat flows }

/-- What follows every message and every timeout. -/
def tick (self : Encoder F X) (now : Instant) : Encoder F X :=
  let (timer, due) := self.timer.due now
  if due then { self with timer, sink := self.sink ++ [.rotateIfDue, .flush] }
  else { self with timer }

def finish (self : Encoder F X) : Encoder F X := { self with sink := self.sink ++ [.finish] }

end Encoder

/-! ### The system -/

/-- A producer with the chunks it has yet to send, in order, which the call that made them waits
for, and those of its chunks that are in the channel. -/
structure Sender (F : Type) where
  producer : Producer F
  outbox : List (Chunk F)
  queue : List (Chunk F)
  dropped : Bool

/-- The sending half is gone and all it sent was received. -/
def Sender.gone {F : Type} (self : Sender F) : Bool :=
  self.dropped && self.outbox.isEmpty && self.queue.isEmpty

/-- What a call on a producer was given. -/
inductive Pushed (F : Type) where
  | flows (added : List F)
  | raw (record : List UInt8) (flows : Nat)

/-- The pipeline, and two records that nothing reads: what was pushed on which producer, and which
chunks the encoder received from whom. -/
structure System (F X : Type) where
  discard : Bool
  senders : Table Nat (Sender F)
  /-- `drain` was called. -/
  closed : Bool
  encoder : Encoder F X
  /-- The encoder loop has ended, and so `drain` returns. -/
  ended : Bool
  pushed : List (Nat × Pushed F)
  received : List (Nat × Chunk F)

inductive Action (F X : Type) where
  | producer (id : Nat) (now : Instant)
  | push (id : Nat) (added : List F) (start now : Instant)
  | pushRaw (id : Nat) (record : List UInt8) (flows : Nat) (start now : Instant)
  | flush (id : Nat)
  | drop (id : Nat)
  | send (id : Nat)
  | receive (id : Nat) (tables : F → X) (now : Instant)
  | timeout (now : Instant)
  | drain
  | disconnected

namespace System
variable {F X : Type}

def new (discard : Bool) (now : Instant) : System F X where
  discard := discard
  senders := ∅
  closed := false
  encoder := .new now
  ended := false
  pushed := []
  received := []

def queued (self : System F X) : Nat := self.senders.total fun _ sender => sender.queue.length

/-- The producer, when no call on it is under way. -/
def ready (self : System F X) (id : Nat) : Option (Sender F) :=
  (self.senders.lookup id).filter fun sender => !sender.dropped && sender.outbox.isEmpty

/-- A call has left the producer so, with chunks to send. -/
def call (self : System F X) (id : Nat) (sender : Sender F) (after : Producer F × List (Chunk F)) :
    System F X :=
  { self with
    senders := self.senders.insert id
      { sender with producer := after.1, outbox := sender.outbox ++ after.2 } }

/-- `none` where the action cannot be taken. The encoder thread does not panic. -/
def step (self : System F X) : Action F X → Option (System F X)
  | .producer id now =>
    if self.closed ∨ (self.senders.lookup id).isSome then none
    else some { self with
      senders := self.senders.insert id
        { producer := .new self.discard now, outbox := [], queue := [], dropped := false } }
  | .push id added start now =>
    (self.ready id).map fun sender =>
      { self.call id sender (sender.producer.push (· ++ added) start now) with
        pushed := self.pushed ++ [(id, .flows added)] }
  | .pushRaw id record flows start now =>
    (self.ready id).map fun sender =>
      { self.call id sender (sender.producer.pushRaw record flows start now) with
        pushed := self.pushed ++ [(id, .raw record flows)] }
  | .flush id => (self.ready id).map fun sender => self.call id sender sender.producer.flush
  | .drop id =>
    (self.ready id).map fun sender =>
      self.call id { sender with dropped := true } sender.producer.flush
  | .send id =>
    -- A send blocks while the channel is full.
    match self.senders.lookup id with
    | some { producer, outbox := chunk :: outbox, queue, dropped } =>
      if self.queued < PIPELINE_DEPTH then
        some { self with
          senders := self.senders.insert id
            { producer, outbox, queue := queue ++ [chunk], dropped } }
      else none
    | _ => none
  | .receive id tables now =>
    match self.senders.lookup id with
    | some { producer, outbox, queue := chunk :: queue, dropped } =>
      if self.ended then none
      else some { self with
        senders := self.senders.insert id { producer, outbox, queue, dropped }
        encoder := (self.encoder.handle tables chunk).tick now
        received := self.received ++ [(id, chunk)] }
    | _ => none
  | .timeout now => if self.ended then none else some { self with encoder := self.encoder.tick now }
  | .drain => if self.closed then none else some { self with closed := true }
  | .disconnected =>
    if self.closed ∧ !self.ended ∧ self.senders.values.all Sender.gone then
      some { self with ended := true, encoder := self.encoder.finish }
    else none

def run (self : System F X) (actions : List (Action F X)) : Option (System F X) :=
  actions.foldlM step self

end System

end Rustflow.Collect
