import Rustflow.Common.Peeling
import Rustflow.FlowProcessor
import Rustflow.Lib.Expansion

/-!
# Readers

`reader.rs`, `async_reader.rs` and `pcap_reader.rs` of `rustflow/src`: one family of protocols read
from a socket or a capture file, as packets or flow by flow. What the socket or the file is going to
return is a list; at its end a socket keeps its reader waiting.
-/

namespace Rustflow

open NetflowProcessor (Arrival)

inductive ErrorKind where
  | wouldBlock
  | timedOut
  | interrupted
  | invalidData
  | other

structure IoError where
  kind : ErrorKind
  message : String

/-- Transient `recv` outcomes that mean "no datagram this time, try again". -/
def isRetryable (e : IoError) : Bool :=
  match e.kind with
  | .wouldBlock | .timedOut | .interrupted => true
  | _ => false

/-- What one datagram turned out to be. -/
inductive ReadResult (K : Type) where
  | packet (len : Nat) (src : IpAddr) (packet : K)
  | parseError (len : Nat) (src : IpAddr) (version : Option FlowType)
  | timeout
  | atEnd

/-- What reading a flow turned up. -/
inductive ReadEvent where
  | flow (flow : CommonFlow)
  | timeout
  | atEnd

section
variable {P K : Type} (processor : Processor P K)

def Processor.readResult (order : IterationOrder UInt32) (self : P) (datagram : Datagram) :
    P × ReadResult K :=
  match processor.parse order self datagram with
  | (self, some packet) => (self, .packet datagram.payload.length datagram.src packet)
  | (self, none) =>
    (self, .parseError datagram.payload.length datagram.src (processor.versionOf datagram.payload))

/-! ### From a socket -/

/-- `state` is the processor, `queue` holds the pending flows, and `inputs` is what `recv_from`
returns. -/
abbrev Reader (P : Type) : Type := Expansion.Reading P (Except IoError Arrival) CommonFlow

namespace Reader

def readRaw (self : Reader P) : Option (Except IoError (ReadResult K) × Reader P) :=
  match self.inputs with
  | [] => none
  | .ok arrival :: inputs =>
    let (state, result) := processor.readResult arrival.order self.state arrival.datagram
    some (.ok result, { self with state, inputs })
  | .error e :: inputs =>
    some (if isRetryable e then .ok .timeout else .error e, { self with inputs })

def receive (self : P) : Except IoError Arrival → P × (List CommonFlow ⊕ Except IoError ReadEvent)
  | .ok arrival =>
    let (self, pending) := processor.processInto self arrival []
    (self, .inl pending)
  | .error e => (self, .inr (if isRetryable e then .ok .timeout else .error e))

/-- Datagrams that carry no flows are read past. -/
def read : Reader P → Option (Except IoError ReadEvent × Reader P) :=
  Expansion.read (fun flow => .ok (.flow flow)) (receive processor) none

def isTimeout : Except IoError ReadEvent → Bool
  | .ok .timeout => true
  | _ => false

/-- What the iterator makes of what is returned. -/
def iterated : Except IoError ReadEvent → Option (Except IoError CommonFlow)
  | .ok (.flow flow) => some (.ok flow)
  | .error e => some (.error e)
  | _ => none

/-- Of the iterator. It reads on after a timeout, each of which is an outcome of its own. -/
def next (self : Reader P) : Option (Except IoError CommonFlow × Reader P) := do
  let (event, self) ← Expansion.skipping (read processor) isTimeout (self.inputs.length + 1) self
  return (← iterated event, self)

end Reader

namespace AsyncReader

def receive (self : P) : Except IoError Arrival → P × (List CommonFlow ⊕ Except IoError CommonFlow)
  | .ok arrival =>
    let (self, pending) := processor.processInto self arrival []
    (self, .inl pending)
  | .error e => (self, .inr (.error e))

def read : Reader P → Option (Except IoError CommonFlow × Reader P) :=
  Expansion.read .ok (receive processor) none

end AsyncReader

/-! ### From a capture file -/

/-- A frame of a capture file, or what is wrong with it, and what the processor needs besides its
bytes. -/
structure CapturedFrame where
  timestampNanos : Nat
  data : List UInt8
  clock : Nat → Instant
  order : IterationOrder UInt32

/-- `i64::try_from` of a timestamp. -/
def CapturedFrame.timeReceivedNs (self : CapturedFrame) : Option Int :=
  if self.timestampNanos < 2 ^ 63 then some self.timestampNanos else none

/-- The file's link type, and how its frames are sliced. -/
structure Slicing where
  etherparse : Etherparse
  fromEtherType : UInt16 → List UInt8 → LaxSlicedPacket
  linkType : UInt32

/-- The datagram in a frame, received when it was captured. -/
def Slicing.arrival (self : Slicing) (frame : CapturedFrame) : Option Arrival :=
  (parseUdpPacket self.etherparse self.fromEtherType self.linkType frame.data).map
    fun (src, payload) =>
    { datagram := { src, payload, clock := frame.clock }, order := frame.order,
      timeReceivedNs := frame.timeReceivedNs }

abbrev PcapReader (P : Type) : Type := Expansion.Reading P (Except String CapturedFrame) CommonFlow

namespace PcapReader
variable (slicing : Slicing)

def invalidData (message : String) : IoError := { kind := .invalidData, message }

def readRawLoop (state : P) (queue : List CommonFlow) :
    List (Except String CapturedFrame) → Except IoError (ReadResult K) × PcapReader P
  | [] => (.ok .atEnd, { state, queue, inputs := [] })
  | .error e :: inputs => (.error (invalidData e), { state, queue, inputs })
  | .ok frame :: inputs =>
    match slicing.arrival frame with
    | none => readRawLoop state queue inputs
    | some arrival =>
      let (state, result) := processor.readResult arrival.order state arrival.datagram
      (.ok result, { state, queue, inputs })

def readRaw (self : PcapReader P) : Except IoError (ReadResult K) × PcapReader P :=
  readRawLoop processor slicing self.state self.queue self.inputs

def nextPacket (self : P) :
    Except String CapturedFrame → P × (List CommonFlow ⊕ Except IoError ReadEvent)
  | .ok frame =>
    match slicing.arrival frame with
    | some arrival =>
      let (self, pending) := processor.processInto self arrival []
      (self, .inl pending)
    | none => (self, .inl [])
  | .error e => (self, .inr (.error (invalidData e)))

def read : PcapReader P → Option (Except IoError ReadEvent × PcapReader P) :=
  Expansion.read (fun flow => .ok (.flow flow)) (nextPacket processor slicing) (some (.ok .atEnd))

def next (self : PcapReader P) : Option (Except IoError CommonFlow × PcapReader P) := do
  let (event, self) ← Expansion.skipping (read processor
      slicing) Reader.isTimeout (self.inputs.length + 1) self
  return (← Reader.iterated event, self)

end PcapReader

/-! ### What there is to read -/

/-- The flows of each datagram in turn, in packet order, with what went wrong between them. -/
def Processor.produced : P → List (Except IoError Arrival) → List (Except IoError CommonFlow)
  | _, [] => []
  | self, .ok arrival :: outcomes =>
    let (self, flows) := processor.process self arrival
    flows.map .ok ++ produced self outcomes
  | self, .error e :: outcomes => .error e :: produced self outcomes

/-- Each datagram as a packet, in the same way. -/
def Processor.packets : P → List (Except IoError Arrival) → List (Except IoError (ReadResult K))
  | _, [] => []
  | self, .ok arrival :: outcomes =>
    let (self, result) := processor.readResult arrival.order self arrival.datagram
    .ok result :: packets self outcomes
  | self, .error e :: outcomes => .error e :: packets self outcomes

/-- What is still to come of a reader. -/
def Reader.left (self : Reader P) : List (Except IoError CommonFlow) :=
  self.queue.map .ok ++ processor.produced self.state self.inputs

/-- What a capture file amounts to: its UDP datagrams, and what is wrong with it. -/
def Slicing.outcomes (self : Slicing) (frames : List (Except String CapturedFrame)) :
    List (Except IoError Arrival) :=
  frames.filterMap fun
    | .ok frame => (self.arrival frame).map .ok
    | .error e => some (.error (PcapReader.invalidData e))

def PcapReader.left (slicing : Slicing) (self : PcapReader P) : List (Except IoError CommonFlow) :=
  self.queue.map .ok ++ processor.produced self.state (slicing.outcomes self.inputs)

/-- How a reader of a socket returns one of these. -/
def Reader.event : Except IoError CommonFlow → Except IoError ReadEvent
  | .ok flow => .ok (.flow flow)
  | .error e => if isRetryable e then .ok .timeout else .error e

def retried : Except IoError CommonFlow → Bool
  | .ok _ => false
  | .error e => isRetryable e

namespace Reader

theorem all_receive (self : P) (outcomes : List (Except IoError Arrival)) :
    Expansion.all (fun flow => .ok (.flow flow)) (receive processor) self outcomes =
      (processor.produced self outcomes).map event := by
  induction outcomes generalizing self with
  | nil => rfl
  | cons outcome outcomes ih =>
    cases outcome with
    | error e =>
      have came : receive processor self (.error e) = (self, .inr (event (.error e))) := rfl
      rw [Expansion.all_of_event came, ih, Processor.produced, List.map_cons]
    | ok arrival =>
      have came : receive processor self (.ok arrival) =
          ((processor.process self arrival).1, .inl (processor.process self arrival).2) := by
        rw [receive, processor.processInto_eq, List.nil_append]
      rw [Expansion.all_of_items came, ih, Processor.produced, List.map_append, List.map_map]
      rfl

theorem left_eq (self : Reader P) :
    Expansion.Reading.left (fun flow => .ok (.flow flow)) (receive processor) self =
      (left processor self).map event := by
  rw [Expansion.Reading.left, all_receive, left, List.map_append, List.map_map]
  rfl

theorem takesFirst_read :
    Expansion.TakesFirst (read processor) fun self => (left processor self).map event := by
  have first :
      Expansion.TakesFirst (read processor) (Expansion.Reading.left _ (receive processor)) :=
    Expansion.takesFirst_read
  rwa [funext (left_eq processor)] at first

/-- A timeout is what a retryable error is returned as, and nothing else is. -/
theorem isTimeout_event (made : Except IoError CommonFlow) :
    isTimeout (event made) = retried made := by
  cases made with
  | ok flow => rfl
  | error e =>
    unfold event retried
    dsimp only
    split
    · next retryable => exact retryable.symm
    · next fatal => exact (Bool.not_eq_true _ ▸ fatal).symm

theorem iterated_event {made : Except IoError CommonFlow} (kept : retried made = false) :
    iterated (event made) = some made := by
  cases made with
  | ok flow => rfl
  | error e =>
    have fatal : ¬isRetryable e := by rw [show isRetryable e = false from kept]; decide
    show iterated (if isRetryable e then .ok .timeout else .error e) = _
    rw [if_neg fatal]
    rfl

theorem filterMap_iterated (made : List (Except IoError CommonFlow)) :
    ((made.map event).filter (!isTimeout ·)).filterMap iterated = made.filter (!retried ·) := by
  induction made with
  | nil => rfl
  | cons first made ih =>
    rw [List.map_cons, List.filter_cons, List.filter_cons, isTimeout_event]
    cases kept : retried first with
    | true => exact ih
    | false =>
      have same := iterated_event kept
      simpa [same] using ih

theorem takesFirst_next : Expansion.TakesFirst (next processor) fun self =>
    (left processor self).filter (!retried ·) := by
  intro self
  have first :=
    @Expansion.left_of_skipping P _ CommonFlow _ (fun flow => .ok (.flow flow))
      (receive processor) isTimeout
    (fun _ => rfl) _ self (Nat.lt_succ_self _)
  unfold next read
  cases run : Expansion.skipping (Expansion.read (fun flow => .ok (.flow flow))
    (receive processor) none) isTimeout
      (self.inputs.length + 1) self with
  | none =>
    rw [run, left_eq] at first
    show (left processor self).filter (!retried ·) = []
    rw [← filterMap_iterated, first]
    rfl
  | some result =>
    obtain ⟨returned, after⟩ := result
    rw [run] at first
    obtain ⟨other, first⟩ := first
    rw [left_eq, left_eq] at first
    have kept : returned ∈ ((left processor self).map event).filter (!isTimeout ·) := by
      rw [first]
      exact List.mem_cons_self
    obtain ⟨made, _, rfl⟩ := List.mem_map.mp (List.mem_of_mem_filter kept)
    rw [isTimeout_event] at other
    have same := iterated_event other
    have here : (left processor self).filter (!retried ·) =
        made :: (left processor after).filter (!retried ·) := by
      rw [← filterMap_iterated, first, List.filterMap_cons_some same, filterMap_iterated]
    simp [same, here]

end Reader

namespace AsyncReader

theorem all_receive (self : P) (outcomes : List (Except IoError Arrival)) :
    Expansion.all .ok (receive processor) self outcomes = processor.produced self outcomes := by
  induction outcomes generalizing self with
  | nil => rfl
  | cons outcome outcomes ih =>
    cases outcome with
    | error e =>
      have came : receive processor self (.error e) = (self, .inr (.error e)) := rfl
      rw [Expansion.all_of_event came, ih, Processor.produced]
    | ok arrival =>
      have came : receive processor self (.ok arrival) =
          ((processor.process self arrival).1, .inl (processor.process self arrival).2) := by
        rw [receive, processor.processInto_eq, List.nil_append]
      rw [Expansion.all_of_items came, ih, Processor.produced]

theorem left_eq (self : Reader P) :
    Expansion.Reading.left .ok (receive processor) self = Reader.left processor self := by
  rw [Expansion.Reading.left, all_receive, Reader.left]

theorem takesFirst_read : Expansion.TakesFirst (read processor) (Reader.left processor) := by
  have first :
      Expansion.TakesFirst (read processor) (Expansion.Reading.left _ (receive processor)) :=
    Expansion.takesFirst_read
  rwa [funext (left_eq processor)] at first

end AsyncReader

namespace PcapReader
variable (slicing : Slicing)

/-- How a reader of a file returns what there is. -/
def event : Except IoError CommonFlow → Except IoError ReadEvent := Except.map .flow

theorem all_nextPacket (self : P) (frames : List (Except String CapturedFrame)) :
    Expansion.all (fun flow => .ok (.flow flow)) (nextPacket processor slicing) self frames =
      (processor.produced self (slicing.outcomes frames)).map event := by
  induction frames generalizing self with
  | nil => rfl
  | cons frame frames ih =>
    cases frame with
    | error e =>
      have came : nextPacket processor slicing self (.error e) =
          (self, .inr (event (.error (invalidData e)))) := rfl
      rw [Expansion.all_of_event came, ih]
      rfl
    | ok frame =>
      cases inside : slicing.arrival frame with
      | none =>
        have came : nextPacket processor slicing self (.ok frame) = (self, .inl []) := by
          rw [nextPacket, inside]
        have none : slicing.outcomes (.ok frame :: frames) = slicing.outcomes frames := by
          simp [Slicing.outcomes, inside]
        rw [Expansion.all_of_items came, ih, none]
        rfl
      | some arrival =>
        have came : nextPacket processor slicing self (.ok frame) =
            ((processor.process self arrival).1, .inl (processor.process self arrival).2) := by
          rw [nextPacket, inside]
          dsimp only
          rw [processor.processInto_eq, List.nil_append]
        have one :
            slicing.outcomes (.ok frame :: frames) = .ok arrival :: slicing.outcomes frames := by
          simp [Slicing.outcomes, inside]
        rw [Expansion.all_of_items came, ih, one, Processor.produced, List.map_append, List.map_map]
        rfl

theorem left_eq (self : PcapReader P) :
    Expansion.Reading.left (fun flow => .ok (.flow flow)) (nextPacket processor slicing) self =
      (left processor slicing self).map event := by
  rw [Expansion.Reading.left, all_nextPacket, left, List.map_append, List.map_map]
  rfl

theorem iterated_event (made : Except IoError CommonFlow) :
    Reader.iterated (event made) = some made := by
  cases made <;> rfl

theorem event_injective : Function.Injective event := fun made other same =>
  Option.some.inj ((iterated_event made).symm.trans
    ((congrArg _ same).trans (iterated_event other)))

theorem isTimeout_event (made : Except IoError CommonFlow) :
    Reader.isTimeout (event made) = false := by
  cases made <;> rfl

theorem takesFirst_next :
    Expansion.TakesFirst (next processor slicing) (left processor slicing) := by
  intro self
  unfold next Expansion.skipping
  cases run : read processor slicing self with
  | none =>
    have nothing := (Expansion.left_of_read_none run).1
    rw [left_eq] at nothing
    exact List.map_eq_nil_iff.mp nothing
  | some result =>
    obtain ⟨returned, after⟩ := result
    rcases Expansion.left_of_read run with first | ⟨nothing, _, ended⟩
    · rw [left_eq, left_eq] at first
      obtain ⟨made, more, here, rfl, same⟩ := List.map_eq_cons_iff.mp first
      obtain rfl := List.map_injective_iff.mpr event_injective same
      simp [isTimeout_event, iterated_event, here]
    · rw [left_eq] at nothing
      cases Option.some.inj ended
      exact List.map_eq_nil_iff.mp nothing

end PcapReader

/-! ### The readers agree -/

end

/-- Called any number of times in any state, the readers return what is left, in order: timeouts
stand for retryable errors, which the iterator reads past and the asynchronous reader returns. -/
theorem reads_from_socket {P K : Type} (processor : Processor P K) (self : Reader P) (n : Nat) :
    (Expansion.calls (Reader.read processor) n self).1 =
      ((Reader.left processor self).take n).map Reader.event ∧
      (Expansion.calls (Reader.next processor) n self).1 =
        ((Reader.left processor self).filter (!retried ·)).take n ∧
      (Expansion.calls (AsyncReader.read processor) n self).1 =
        (Reader.left processor self).take n := by
  refine ⟨?_, ((Reader.takesFirst_next processor).calls n self).1,
    ((AsyncReader.takesFirst_read processor).calls n self).1⟩
  rw [List.map_take]
  exact ((Reader.takesFirst_read processor).calls n self).1

/-- A file is read as the socket its UDP datagrams arrive at, and then ends. -/
theorem reads_from_file {P K : Type} (processor : Processor P K) (slicing : Slicing)
    (self : PcapReader P) (n : Nat) :
    let left := self.queue.map .ok ++ processor.produced self.state (slicing.outcomes self.inputs)
    (Expansion.calls (PcapReader.read processor slicing) n self).1 =
        (left.take n).map (Except.map .flow) ++ List.replicate (n - left.length) (.ok .atEnd) ∧
      (Expansion.calls (PcapReader.next processor slicing) n self).1 = left.take n := by
  refine ⟨?_, ((PcapReader.takesFirst_next processor slicing).calls n self).1⟩
  have reads : (Expansion.calls (PcapReader.read processor slicing) n self).1 = _ :=
    (Expansion.reads_eq n self).1
  rw [PcapReader.left_eq, ← List.map_take, List.length_map, Option.toList_some,
    List.flatMap_singleton] at reads
  exact reads

/-- The version of each flow a packet says it has. -/
def Processor.announced {P K : Type} (processor : Processor P K) : Except IoError (ReadResult K) →
    List FlowType
  | .ok (.packet _ _ packet) =>
    List.replicate (processor.flowCount packet) (processor.version packet)
  | _ => []

section
variable {P K : Type} {processor : Processor P K}

theorem Processor.Lawful.flowTypes (lawful : processor.Lawful) (self : P) (arrival : Arrival) :
    (processor.process self arrival).2.map CommonFlow.flowType =
        processor.announced (.ok (processor.readResult arrival.order self arrival.datagram).2) ∧
      (processor.process self arrival).1 =
        (processor.readResult arrival.order self arrival.datagram).1 := by
  unfold Processor.process Processor.readResult
  obtain ⟨after, packet⟩ := processor.parse arrival.order self arrival.datagram
  cases packet with
  | none => exact ⟨rfl, rfl⟩
  | some packet =>
    refine ⟨List.eq_replicate_iff.mpr ⟨?_, ?_⟩, rfl⟩
    · rw [List.length_map]
      exact lawful.flowCount after arrival.datagram.src packet arrival.timeReceivedNs
    · intro version mem
      obtain ⟨flow, made, rfl⟩ := List.mem_map.mp mem
      exact (lawful.flows after arrival.datagram.src packet arrival.timeReceivedNs flow made).1

theorem Processor.Lawful.produced (lawful : processor.Lawful) (self : P)
    (outcomes : List (Except IoError Arrival)) :
    ((processor.produced self outcomes).filterMap Except.toOption).map CommonFlow.flowType =
      (processor.packets self outcomes).flatMap processor.announced := by
  induction outcomes generalizing self with
  | nil => rfl
  | cons outcome outcomes ih =>
    cases outcome with
    | error e => exact ih self
    | ok arrival =>
      obtain ⟨here, after⟩ := lawful.flowTypes self arrival
      rw [Processor.produced, Processor.packets, List.filterMap_append, List.map_append,
        List.flatMap_cons, ih, after, ← here, List.filterMap_map]
      exact congrArg (fun flows => flows.map CommonFlow.flowType ++ _) List.filterMap_some

/-- How a reader of a socket returns a packet. -/
def Reader.result : Except IoError (ReadResult K) → Except IoError (ReadResult K)
  | .ok result => .ok result
  | .error e => if isRetryable e then .ok .timeout else .error e

theorem Reader.takesFirst_readRaw (processor : Processor P K) :
    Expansion.TakesFirst (readRaw processor)
      fun self => (processor.packets self.state self.inputs).map result := by
  rintro ⟨state, queue, inputs⟩
  match inputs with
  | [] => rfl
  | .ok arrival :: inputs => rfl
  | .error e :: inputs => rfl

theorem Processor.announced_result (result : Except IoError (ReadResult K)) :
    processor.announced (Reader.result result) = processor.announced result := by
  cases result with
  | ok result => rfl
  | error e =>
    unfold Reader.result
    dsimp only
    split <;> rfl

/-- A raw read returns the first packet there is, or that there is none. -/
theorem PcapReader.packets_of_readRaw (processor : Processor P K) (slicing : Slicing)
    (self : PcapReader P) :
    let after := (readRaw processor slicing self).2
    processor.packets self.state (slicing.outcomes self.inputs) =
        (readRaw processor slicing self).1 ::
          processor.packets after.state (slicing.outcomes after.inputs) ∨
      processor.packets self.state (slicing.outcomes self.inputs) = [] ∧
        (readRaw processor slicing self).1 = .ok .atEnd ∧
        processor.packets after.state (slicing.outcomes after.inputs) = [] := by
  obtain ⟨state, queue, inputs⟩ := self
  unfold readRaw
  dsimp only
  induction inputs with
  | nil => exact Or.inr ⟨rfl, rfl, rfl⟩
  | cons frame inputs ih =>
    cases frame with
    | error e => exact Or.inl rfl
    | ok frame =>
      unfold readRawLoop
      cases inside : slicing.arrival frame with
      | none =>
        have none : slicing.outcomes (.ok frame :: inputs) = slicing.outcomes inputs := by
          simp [Slicing.outcomes, inside]
        rw [none]
        exact ih
      | some arrival =>
        have one :
            slicing.outcomes (.ok frame :: inputs) = .ok arrival :: slicing.outcomes inputs := by
          simp [Slicing.outcomes, inside]
        rw [one]
        exact Or.inl rfl

theorem PcapReader.rawReads (processor : Processor P K) (slicing : Slicing) (n : Nat)
    (self : PcapReader P) :
    (Expansion.calls (fun self => some (readRaw processor slicing self)) n self).1 =
      (processor.packets self.state (slicing.outcomes self.inputs)).take n ++
        List.replicate (n - (processor.packets self.state (slicing.outcomes self.inputs)).length)
          (.ok .atEnd) := by
  induction n generalizing self with
  | zero => simp [Expansion.calls]
  | succ n ih =>
    unfold Expansion.calls
    dsimp only
    rw [ih]
    rcases packets_of_readRaw processor slicing self with first | ⟨none, ended, after⟩
    · rw [first, List.length_cons, Nat.add_sub_add_right]
      rfl
    · rw [none, ended, after, List.take_nil, List.take_nil]
      rfl

end

/-- Of a lawful processor, the flows read one by one are as many, of the same versions and in the
same order as the packets say that are read raw, from a file to its end or from a socket as long as
it has any. -/
theorem flows_of_packets {P K : Type} {processor : Processor P K} (lawful : processor.Lawful) :
    (∀ (slicing : Slicing) (self : PcapReader P), self.queue = [] → ∃ enough, ∀ n ≥ enough,
      ((Expansion.calls (PcapReader.next processor slicing) n self).1.filterMap Except.toOption).map
        CommonFlow.flowType =
        (Expansion.calls (fun self => some (PcapReader.readRaw processor slicing self)) n
          self).1.flatMap processor.announced) ∧
      ∀ self : Reader P, self.queue = [] → ∃ enough, ∀ n ≥ enough,
        ((Expansion.calls (Reader.next processor) n self).1.filterMap Except.toOption).map
          CommonFlow.flowType =
          (Expansion.calls (Reader.readRaw processor) n self).1.flatMap processor.announced := by
  constructor
  · intro slicing self fresh
    refine ⟨max (PcapReader.left processor slicing self).length
      (processor.packets self.state (slicing.outcomes self.inputs)).length, fun n enough => ?_⟩
    rw [((PcapReader.takesFirst_next processor slicing).calls n self).1, PcapReader.rawReads,
      List.take_of_length_le (le_of_max_le_left enough),
      List.take_of_length_le (le_of_max_le_right enough), PcapReader.left, fresh, List.map_nil,
      List.nil_append, lawful.produced, List.flatMap_append, List.flatMap_replicate]
    show _ = _ ++ (List.replicate _ []).flatten
    rw [List.flatten_replicate_nil, List.append_nil]
  · intro self fresh
    refine ⟨max (Reader.left processor self).length
      (processor.packets self.state self.inputs).length, fun n enough => ?_⟩
    have few : ((processor.packets self.state self.inputs).map Reader.result).length ≤ n := by
      rw [List.length_map]
      exact le_of_max_le_right enough
    have fewer :=
      (List.length_filter_le (!retried ·) (Reader.left processor self)).trans
        (le_of_max_le_left enough)
    rw [((Reader.takesFirst_next processor).calls n self).1,
      ((Reader.takesFirst_readRaw processor).calls n self).1, List.take_of_length_le few,
      List.take_of_length_le fewer, List.flatMap_map, funext processor.announced_result,
      Reader.left, fresh, List.map_nil, List.nil_append, ← lawful.produced, List.filterMap_filter]
    congr 2
    funext made
    cases made with
    | ok flow => rfl
    | error e => exact ite_self none

def arrivalOf (payload : List UInt8) : Arrival where
  datagram := { src := .v4 1, payload, clock := fun _ => 0 }
  order := .listed
  timeReceivedNs := none

/-- Two flows of version 5, a read that fails, and one flow of IPFIX after its template. -/
def twoVersions : List (Except IoError Arrival) :=
  [.ok (arrivalOf ([0, 5, 0, 2] ++ List.replicate 116 0)), .error { kind := .other, message := "" },
    .ok (arrivalOf ([0, 10, 0, 33] ++ List.replicate 12 0 ++ [0, 2, 0, 12, 1, 0, 0, 1, 0, 4, 0, 1,
      1, 0, 0, 5, 6]))]

theorem flows_of_twoVersions : (netflow plainIpv4).Lawful ∧ ∃ enough, ∀ n ≥ enough,
    ((Expansion.calls (Reader.next (netflow plainIpv4)) n ⟨.new .new 60 1 1, [],
      twoVersions⟩).1.filterMap Except.toOption).map
        CommonFlow.flowType =
      (Expansion.calls (Reader.readRaw (netflow plainIpv4)) n ⟨.new .new 60 1 1, [],
        twoVersions⟩).1.flatMap
        (netflow plainIpv4).announced :=
  ⟨netflow_lawful plainIpv4, (flows_of_packets (netflow_lawful plainIpv4)).2 _ rfl⟩

end Rustflow
