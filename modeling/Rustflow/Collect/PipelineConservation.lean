import Rustflow.Collect.Pipeline

/-!
# The pipeline loses and duplicates nothing

For each producer, what it was given is what the encoder has received from it, what is in the
channel, what waits to be sent and what it still holds, in that order. Once the encoder loop has
ended nothing is left but what was received.
-/

namespace Rustflow.Collect

/-- A packet as JSON, and the flows it carries. -/
abbrev Line : Type := List UInt8 × Nat

variable {F : Type}

namespace Chunk

def flowList : Chunk F → List F
  | .flows all => all
  | .raw _ _ => []

def rawPart : Chunk F → Option (List UInt8 × Nat)
  | .flows _ => none
  | .raw lines carried => some (lines, carried)

def count : Chunk F → Nat
  | .flows all => all.length
  | .raw _ carried => carried

end Chunk

/-- Lines as they are sent: each ended by a newline, or not at all to a sink that discards. -/
def payload (discard : Bool) (lines : List Line) : List UInt8 × Nat :=
  (if discard then [] else lines.flatMap fun line => line.1 ++ [0x0a], (lines.map Prod.snd).sum)

theorem payload_snoc (discard : Bool) (lines : List Line) (line : Line) :
    payload discard (lines ++ [line]) =
      ((payload discard lines).1 ++ (if discard then [] else line.1 ++ [0x0a]),
        (payload discard lines).2 + line.2) := by
  cases discard <;> simp [payload]

/-- What a producer was given is in its chunks, in order, or still held by it. Each raw chunk holds
whole lines. -/
structure Ledger (discard : Bool) (flows : List F) (lines : List Line) (chunks : List (Chunk F))
    (producer : Producer F) : Prop where
  mode : producer.discard = discard
  flows : chunks.flatMap Chunk.flowList ++ producer.flows = flows
  raw : ∃ (groups : List (List Line)) (pending : List Line), groups.flatten ++ pending = lines ∧
    chunks.filterMap Chunk.rawPart = groups.map (payload discard) ∧
    (producer.raw, producer.rawFlows) = payload discard pending ∧
    producer.rawRecords = pending.length

namespace Ledger
variable {discard : Bool} {flows : List F} {lines : List Line} {chunks : List (Chunk F)}
  {producer : Producer F}

theorem new (discard : Bool) (now : Instant) :
    Ledger discard [] [] [] (.new discard now : Producer F) where
  mode := rfl
  flows := rfl
  raw := ⟨[], [], rfl, rfl, by cases discard <;> rfl, rfl⟩

theorem startChunk (ledger : Ledger discard flows lines chunks producer) (now : Instant) :
    Ledger discard flows lines chunks (producer.startChunk now) := by
  unfold Producer.startChunk
  split
  · exact ⟨ledger.mode, ledger.flows, ledger.raw⟩
  · exact ledger

theorem flushFlows (ledger : Ledger discard flows lines chunks producer) :
    Ledger discard flows lines (chunks ++ producer.flushFlows.2) producer.flushFlows.1 ∧
      producer.flushFlows.1.flows = [] := by
  obtain ⟨mode, given, groups, pending, whole, sent, held, records⟩ := ledger
  unfold Producer.flushFlows
  split
  · next empty =>
      exact ⟨⟨mode, by simpa using given, groups, pending, whole, by simpa using sent, held,
        records⟩, empty⟩
  · refine ⟨⟨mode, ?_, groups, pending, whole, ?_, held, records⟩, rfl⟩
    · simpa [Chunk.flowList] using given
    · rw [List.filterMap_append, sent]
      exact List.append_nil _

theorem flushRaw (ledger : Ledger discard flows lines chunks producer) :
    Ledger discard flows lines (chunks ++ producer.flushRaw.2) producer.flushRaw.1 ∧
      producer.flushRaw.1.flows = producer.flows ∧ producer.flushRaw.1.rawRecords = 0 := by
  obtain ⟨mode, given, groups, pending, whole, sent, held, records⟩ := ledger
  unfold Producer.flushRaw
  split
  · refine ⟨⟨mode, ?_, groups ++ [pending], [], ?_, ?_, ?_, rfl⟩, rfl, rfl⟩
    · simpa [Chunk.flowList] using given
    · simpa using whole
    · rw [List.filterMap_append, sent, List.map_append, List.map_singleton, ← held]
      rfl
    · cases discard <;> rfl
  · next none =>
    exact ⟨⟨mode, by simpa using given, groups, pending, whole, by simpa using sent, held, records⟩,
      rfl, Nat.eq_zero_of_not_pos none⟩

theorem flush (ledger : Ledger discard flows lines chunks producer) :
    Ledger discard flows lines (chunks ++ producer.flush.2) producer.flush.1 ∧
      producer.flush.1.flows = [] ∧ producer.flush.1.rawRecords = 0 := by
  obtain ⟨first, empty⟩ := ledger.flushFlows
  obtain ⟨second, same, none⟩ := first.flushRaw
  rw [List.append_assoc] at second
  exact ⟨second, same.trans empty, none⟩

theorem sendIfReady (ledger : Ledger discard flows lines chunks producer) (records : Nat)
    (now : Instant) :
    Ledger discard flows lines (chunks ++ (producer.sendIfReady records now).2)
      (producer.sendIfReady records now).1 := by
  unfold Producer.sendIfReady
  split
  · exact ledger.flush.1
  · rw [List.append_nil]
    exact ledger

theorem push (ledger : Ledger discard flows lines chunks producer) (added : List F)
    (start now : Instant) :
    Ledger discard (flows ++ added) lines (chunks ++ (producer.push (· ++ added) start now).2)
      (producer.push (· ++ added) start now).1 := by
  have started := ledger.startChunk start
  have added : Ledger discard (flows ++ added) lines chunks
      { producer.startChunk start with flows := (producer.startChunk start).flows ++ added } :=
    ⟨started.mode, by rw [← started.flows, List.append_assoc], started.raw⟩
  exact added.sendIfReady _ now

theorem pushRaw (ledger : Ledger discard flows lines chunks producer) (record : List UInt8)
    (count : Nat) (start now : Instant) : Ledger discard flows (lines ++ [(record, count)])
      (chunks ++ (producer.pushRaw record count start now).2)
      (producer.pushRaw record count start now).1 := by
  obtain ⟨mode, given, groups, pending, whole, sent, held, counted⟩ := ledger.startChunk start
  unfold Producer.pushRaw
  dsimp only
  generalize producer.startChunk start = producer at mode given held counted
  have added : Ledger discard flows (lines ++ [(record, count)]) chunks { producer with
      raw := if !producer.discard then producer.raw ++ record ++ [0x0a] else producer.raw
      rawRecords := producer.rawRecords + 1
      rawFlows := producer.rawFlows + count } := by
    refine ⟨mode, given, groups, pending ++ [(record, count)], ?_, sent, ?_, ?_⟩
    · rw [← whole, List.append_assoc]
    · rw [payload_snoc, ← held]
      dsimp only
      rw [mode]
      cases discard <;> simp
    · rw [List.length_append, counted]
      rfl
  exact added.sendIfReady _ now

theorem count (ledger : Ledger discard flows lines chunks producer) :
    (chunks.map Chunk.count).sum + producer.flows.length + producer.rawFlows =
      flows.length + (lines.map Prod.snd).sum := by
  obtain ⟨_, given, groups, pending, whole, sent, held, _⟩ := ledger
  have split : ∀ chunks : List (Chunk F), (chunks.map Chunk.count).sum =
      (chunks.flatMap Chunk.flowList).length +
        ((chunks.filterMap Chunk.rawPart).map Prod.snd).sum := by
    intro chunks
    induction chunks with
    | nil => rfl
    | cons chunk chunks ih =>
      cases chunk with
      | flows all =>
        rw [List.map_cons, List.sum_cons, ih, List.flatMap_cons, List.length_append,
          List.filterMap_cons_none rfl]
        exact (Nat.add_assoc _ _ _).symm
      | raw bytes carried =>
        have part : (Chunk.raw bytes carried :: chunks).filterMap Chunk.rawPart =
            (bytes, carried) :: chunks.filterMap Chunk.rawPart := rfl
        rw [List.map_cons, List.sum_cons, ih, List.flatMap_cons, part, List.map_cons, List.sum_cons]
        exact Nat.add_left_comm _ _ _
  have grouped :
      ((groups.map (payload discard)).map Prod.snd).sum = (groups.flatten.map Prod.snd).sum := by
    rw [List.map_flatten, List.sum_flatten, List.map_map, List.map_map]
    rfl
  have carried : producer.rawFlows = (pending.map Prod.snd).sum := (Prod.mk.inj held).2
  rw [split, sent, grouped, carried, ← given, ← whole, List.length_append, List.map_append,
    List.sum_append]
  omega

end Ledger

/-! ### The encoder -/

section
variable {X : Type}

def SinkCall.written : SinkCall F X → Option F
  | .write flow _ => some flow
  | _ => none

def SinkCall.writtenRaw : SinkCall F X → Option (List UInt8)
  | .writeRaw lines => some lines
  | _ => none

/-- The sink was handed exactly the chunks received, and the counter counts their flows. -/
structure Handed (encoder : Encoder F X) (received : List (Nat × Chunk F)) : Prop where
  flows : encoder.sink.filterMap SinkCall.written = received.flatMap (·.2.flowList)
  raw : encoder.sink.filterMap SinkCall.writtenRaw = (received.filterMap (·.2.rawPart)).map Prod.fst
  counter : encoder.flows = UInt64.ofNat (received.map (·.2.count)).sum

theorem Handed.handle {encoder : Encoder F X} {received : List (Nat × Chunk F)}
    (handed : Handed encoder received) (id : Nat) (tables : F → X) (chunk : Chunk F) :
    Handed (encoder.handle tables chunk) (received ++ [(id, chunk)]) := by
  have counter : ∀ n : Nat, encoder.flows + UInt64.ofNat n =
      UInt64.ofNat ((received.map (·.2.count)).sum + n) := by
    intro n
    rw [handed.counter, UInt64.ofNat_add]
  cases chunk with
  | flows all =>
    have written :
        (all.map fun flow => (SinkCall.write flow (tables flow) : SinkCall F X)).filterMap
          SinkCall.written = all := by
      rw [List.filterMap_map]
      exact List.filterMap_some
    have none :
        (all.map fun flow => (SinkCall.write flow (tables flow) : SinkCall F X)).filterMap
          SinkCall.writtenRaw = [] := by
      rw [List.filterMap_map]
      exact List.filterMap_eq_nil_iff.mpr fun _ _ => rfl
    refine ⟨?_, ?_, ?_⟩
    · rw [Encoder.handle, List.filterMap_append, handed.flows, List.flatMap_append,
        List.filterMap_cons_none rfl, written]
      simp [Chunk.flowList]
    · rw [Encoder.handle, List.filterMap_append, handed.raw, List.filterMap_append,
        List.filterMap_cons_none rfl, none]
      simp [Chunk.rawPart]
    · rw [Encoder.handle, counter, List.map_append, List.sum_append]
      simp [Chunk.count]
  | raw lines carried =>
    refine ⟨?_, ?_, ?_⟩
    · rw [Encoder.handle, List.filterMap_append, handed.flows, List.flatMap_append]
      simp [SinkCall.written, Chunk.flowList]
    · rw [Encoder.handle, List.filterMap_append, handed.raw, List.filterMap_append]
      simp [Chunk.rawPart]
      rfl
    · rw [Encoder.handle, counter, List.map_append, List.sum_append]
      simp [Chunk.count]

/-- Calls that write nothing. -/
theorem Handed.calls {encoder : Encoder F X} {received : List (Nat × Chunk F)}
    (handed : Handed encoder received) {calls : List (SinkCall F X)}
    (quiet : ∀ call ∈ calls, call.written = none ∧ call.writtenRaw = none) (timer : FlushTimer) :
    Handed { encoder with sink := encoder.sink ++ calls, timer } received := by
  have flows : calls.filterMap SinkCall.written = [] :=
    List.filterMap_eq_nil_iff.mpr fun call mem => (quiet call mem).1
  have raw : calls.filterMap SinkCall.writtenRaw = [] :=
    List.filterMap_eq_nil_iff.mpr fun call mem => (quiet call mem).2
  refine ⟨?_, ?_, handed.counter⟩
  · rw [List.filterMap_append, flows, List.append_nil, handed.flows]
  · rw [List.filterMap_append, raw, List.append_nil, handed.raw]

theorem Handed.tick {encoder : Encoder F X} {received : List (Nat × Chunk F)}
    (handed : Handed encoder received) (now : Instant) : Handed (encoder.tick now) received := by
  unfold Encoder.tick
  dsimp only
  split
  · exact handed.calls (by simp [SinkCall.written, SinkCall.writtenRaw]) _
  · exact ⟨handed.flows, handed.raw, handed.counter⟩

theorem Handed.finish {encoder : Encoder F X} {received : List (Nat × Chunk F)}
    (handed : Handed encoder received) :
    Handed encoder.finish received :=
  handed.calls (by simp [SinkCall.written, SinkCall.writtenRaw]) _

end

/-! ### The system -/

namespace Pushed

def flowList : Pushed F → List F
  | .flows added => added
  | .raw _ _ => []

def line : Pushed F → Option Line
  | .flows _ => none
  | .raw record carried => some (record, carried)

def count : Pushed F → Nat
  | .flows added => added.length
  | .raw _ carried => carried

end Pushed

/-- What one producer was given, or the chunks received from it, in order. -/
def ofSender {A : Type} (id : Nat) (entries : List (Nat × A)) : List A :=
  entries.filterMap fun entry => if entry.1 = id then some entry.2 else none

theorem ofSender_append {A : Type} (id id' : Nat) (entries : List (Nat × A)) (more : List A) :
    ofSender id' (entries ++ more.map (id, ·)) = if id' = id then ofSender id' entries ++ more
    else ofSender id' entries := by
  unfold ofSender
  rw [List.filterMap_append, List.filterMap_map]
  by_cases same : id' = id
  · subst same
    rw [if_pos rfl]
    congr 1
    simp
  · rw [if_neg same]
    have none :
        more.filterMap ((fun entry : Nat × A => if entry.1 = id' then some entry.2 else none) ∘
          (id, ·)) = [] :=
      List.filterMap_eq_nil_iff.mpr fun a _ => if_neg (Ne.symm same)
    rw [none, List.append_nil]

/-- Flows of a sender that the encoder has yet to count. -/
def Sender.count (self : Sender F) : Nat :=
  ((self.queue ++ self.outbox).map Chunk.count).sum + self.producer.flows.length +
    self.producer.rawFlows

namespace System
variable {X : Type} {discard : Bool} {s : System F X}

/-- The ledger of a sender, of what it was given and what was received from it. -/
def Accounted (discard : Bool) (pushed : List (Pushed F)) (received : List (Chunk F))
    (sender : Sender F) : Prop :=
  Ledger discard (pushed.flatMap Pushed.flowList) (pushed.filterMap Pushed.line)
    (received ++ (sender.queue ++ sender.outbox)) sender.producer

/-- Every sender's account is right, and so are the encoder's. -/
structure Conserved (discard : Bool) (s : System F X) : Prop where
  mode : s.discard = discard
  absent : ∀ id, s.senders.lookup id = none → ofSender id s.pushed = [] ∧
    ofSender id s.received = []
  accounted : ∀ id sender, s.senders.lookup id = some sender →
    Accounted s.discard (ofSender id s.pushed) (ofSender id s.received) sender
  dropped : ∀ id sender, s.senders.lookup id = some sender → sender.dropped = true →
    sender.producer.flows = [] ∧ sender.producer.rawRecords = 0
  total : (s.received.map (·.2.count)).sum + s.senders.total (fun _ sender => sender.count) =
    (s.pushed.map (·.2.count)).sum
  handed : Handed s.encoder s.received
  ended : s.ended = true → s.closed = true ∧ ∀ id sender, s.senders.lookup id = some sender →
    sender.gone = true

theorem conserved_new (discard : Bool) (now : Instant) :
    Conserved discard (.new discard now : System F X) where
  mode := rfl
  absent _ _ := ⟨rfl, rfl⟩
  accounted _ _ found := by cases found
  dropped _ _ found := by cases found
  total := rfl
  handed := ⟨rfl, rfl, rfl⟩
  ended h := by cases h

theorem Accounted.count {discard : Bool} {pushed : List (Pushed F)} {received : List (Chunk F)}
    {sender : Sender F} (accounted : Accounted discard pushed received sender) :
    (received.map Chunk.count).sum + sender.count = (pushed.map Pushed.count).sum := by
  have given : (pushed.map Pushed.count).sum =
      (pushed.flatMap Pushed.flowList).length +
        ((pushed.filterMap Pushed.line).map Prod.snd).sum := by
    clear accounted
    induction pushed with
    | nil => rfl
    | cons p pushed ih =>
      cases p with
      | flows added =>
        have part : (Pushed.flows added :: pushed).filterMap Pushed.line =
            pushed.filterMap Pushed.line := rfl
        rw [List.map_cons, List.sum_cons, ih, List.flatMap_cons, List.length_append, part]
        exact (Nat.add_assoc _ _ _).symm
      | raw record carried =>
        have part : (Pushed.raw record carried :: pushed).filterMap Pushed.line =
            (record, carried) :: pushed.filterMap Pushed.line := rfl
        rw [List.map_cons, List.sum_cons, ih, List.flatMap_cons, part, List.map_cons, List.sum_cons]
        exact Nat.add_left_comm _ _ _
  have counted := Ledger.count accounted
  rw [List.map_append, List.sum_append] at counted
  rw [given, ← counted, Sender.count]
  omega

/-- One sender changes, with what it is given and what is received from it. -/
theorem Conserved.change (conserved : Conserved discard s) (id : Nat) (sender : Sender F)
    (given : List (Pushed F)) (arrived : List (Chunk F)) (encoder : Encoder F X)
    (accounted : Accounted s.discard (ofSender id s.pushed ++ given)
      (ofSender id s.received ++ arrived) sender)
    (dropped : sender.dropped = true → sender.producer.flows = [] ∧ sender.producer.rawRecords = 0)
    (handed : Handed encoder (s.received ++ arrived.map (id, ·))) (running : s.ended = false) :
    Conserved discard { s with
      senders := s.senders.insert id sender
      pushed := s.pushed ++ given.map (id, ·)
      received := s.received ++ arrived.map (id, ·)
      encoder } := by
  refine ⟨conserved.mode, fun id' none => ?_, fun id' sender' found => ?_, ?_, ?_, handed,
    fun ended => ?_⟩
  · dsimp only at none ⊢
    rw [Table.lookup_insert_eq] at none
    rw [ofSender_append, ofSender_append]
    split at none
    · cases none
    · next other =>
      rw [if_neg other, if_neg other]
      exact conserved.absent id' none
  · dsimp only at found ⊢
    rw [Table.lookup_insert_eq] at found
    rw [ofSender_append, ofSender_append]
    split at found
    · next same =>
      cases found
      rw [if_pos same, if_pos same, same]
      exact accounted
    · next other =>
      rw [if_neg other, if_neg other]
      exact conserved.accounted id' sender' found
  · exact Table.forall_insert dropped fun id' sender' found _ => conserved.dropped id' sender' found
  · have before : ((ofSender id s.received).map Chunk.count).sum +
        ((s.senders.lookup id).elim 0 fun sender => sender.count) =
        ((ofSender id s.pushed).map Pushed.count).sum := by
      cases found : s.senders.lookup id with
      | none =>
        obtain ⟨pushed, received⟩ := conserved.absent id found
        rw [pushed, received]
        rfl
      | some sender => exact (conserved.accounted id sender found).count
    have after := accounted.count
    have inserted := Table.total_insert (fun _ sender => Sender.count sender) s.senders id sender
    have total := conserved.total
    simp only [List.map_append, List.sum_append, List.map_map] at after ⊢
    have countsGiven : ((fun entry : Nat × Pushed F => entry.2.count) ∘ fun p => (id, p)) =
        Pushed.count := rfl
    have countsArrived : ((fun entry : Nat × Chunk F => entry.2.count) ∘ fun chunk => (id, chunk)) =
        Chunk.count := rfl
    rw [countsGiven, countsArrived]
    omega
  · rw [running] at ended
    cases ended

theorem ready_eq_some {id : Nat} {sender : Sender F} : s.ready id = some sender ↔
    s.senders.lookup id = some sender ∧ sender.dropped = false ∧ sender.outbox = [] := by
  rw [ready, Option.filter_eq_some_iff]
  simp

/-! ### What a step can do -/

section
variable {s' : System F X} {id : Nat} {now : Instant}

theorem step_producer (taken : s.step (.producer id now) = some s') :
    ¬ s.closed = true ∧ s.senders.lookup id = none ∧
      s' = { s with
        senders := s.senders.insert id
          { producer := .new s.discard now, outbox := [], queue := [], dropped := false } } := by
  obtain ⟨fresh, same⟩ := Option.ite_none_left_eq_some.mp taken
  rw [not_or, Option.not_isSome_iff_eq_none] at fresh
  exact ⟨fresh.1, fresh.2, (Option.some.inj same).symm⟩

theorem step_send (taken : s.step (.send id) = some s') :
    ∃ producer chunk outbox queue dropped,
      s.senders.lookup id = some { producer, outbox := chunk :: outbox, queue, dropped } ∧
        s.queued < PIPELINE_DEPTH ∧
        s' = { s with
          senders := s.senders.insert id
            { producer, outbox, queue := queue ++ [chunk], dropped } } := by
  unfold System.step at taken
  dsimp only at taken
  split at taken
  · rename_i producer chunk outbox queue dropped found
    obtain ⟨room, same⟩ := Option.ite_none_right_eq_some.mp taken
    exact ⟨producer, chunk, outbox, queue, dropped, found, room, (Option.some.inj same).symm⟩
  · cases taken

theorem step_receive {tables : F → X} (taken : s.step (.receive id tables now) = some s') :
    ∃ producer outbox chunk queue dropped,
      s.senders.lookup id = some { producer, outbox, queue := chunk :: queue, dropped } ∧
        s.ended = false ∧
        s' = { s with
          senders := s.senders.insert id { producer, outbox, queue, dropped }
          encoder := (s.encoder.handle tables chunk).tick now
          received := s.received ++ [(id, chunk)] } := by
  unfold System.step at taken
  dsimp only at taken
  split at taken
  · rename_i producer outbox chunk queue dropped found
    obtain ⟨running, same⟩ := Option.ite_none_left_eq_some.mp taken
    exact ⟨producer, outbox, chunk, queue, dropped, found, Bool.eq_false_iff.mpr running,
      (Option.some.inj same).symm⟩
  · cases taken

theorem step_timeout (taken : s.step (.timeout now) = some s') :
    s.ended = false ∧ s' = { s with encoder := s.encoder.tick now } := by
  obtain ⟨running, same⟩ := Option.ite_none_left_eq_some.mp taken
  exact ⟨Bool.eq_false_iff.mpr running, (Option.some.inj same).symm⟩

theorem step_drain (taken : s.step .drain = some s') :
    s.closed = false ∧ s' = { s with closed := true } := by
  obtain ⟨open_, same⟩ := Option.ite_none_left_eq_some.mp taken
  exact ⟨Bool.eq_false_iff.mpr open_, (Option.some.inj same).symm⟩

theorem step_disconnected (taken : s.step .disconnected = some s') :
    (s.closed = true ∧ (!s.ended) = true ∧ s.senders.values.all Sender.gone = true) ∧
      s' = { s with ended := true, encoder := s.encoder.finish } := by
  obtain ⟨atEnd, same⟩ := Option.ite_none_right_eq_some.mp taken
  exact ⟨atEnd, (Option.some.inj same).symm⟩

end

/-! ### Conservation -/

/-- A sender with something left to do keeps the encoder running. -/
theorem Conserved.running (conserved : Conserved discard s) {id : Nat} {sender : Sender F}
    (found : s.senders.lookup id = some sender) (left : sender.gone = false) : s.ended = false := by
  cases ended : s.ended with
  | false => rfl
  | true =>
    rw [(conserved.ended ended).2 id sender found] at left
    cases left

/-- A call on a producer, given `given`, that its ledger follows. -/
theorem Conserved.call (conserved : Conserved discard s) {id : Nat} {sender : Sender F}
    (found : s.ready id = some sender) (given : List (Pushed F)) (dropped : Bool)
    {after : Producer F × List (Chunk F)}
    (follows : ∀ {flows lines chunks}, Ledger s.discard flows lines chunks sender.producer →
      Ledger s.discard (flows ++ given.flatMap Pushed.flowList) (lines ++ given.filterMap
        Pushed.line) (chunks ++ after.2)
        after.1)
    (emptied : dropped = true → after.1.flows = [] ∧ after.1.rawRecords = 0) :
    Conserved discard { s.call id { sender with dropped }
      after with pushed := s.pushed ++ given.map (id, ·) } := by
  obtain ⟨present, live, idle⟩ := ready_eq_some.mp found
  have running := conserved.running present (by simp [Sender.gone, live])
  have accounted := follows (conserved.accounted id sender present)
  have changed := conserved.change id
    { producer := after.1, outbox := sender.outbox ++ after.2, queue := sender.queue,
      dropped } given [] s.encoder
    (by
      rw [Accounted, List.flatMap_append, List.filterMap_append, List.append_nil]
      simpa only [List.append_assoc] using accounted)
    emptied (by simpa using conserved.handed) running
  rw [List.map_nil, List.append_nil] at changed
  exact changed

theorem Conserved.step (conserved : Conserved discard s) {action : Action F X} {s' : System F X}
    (taken : s.step action = some s') : Conserved discard s' := by
  cases action with
  | producer id now =>
    obtain ⟨open_, fresh, rfl⟩ := step_producer taken
    obtain ⟨pushed, received⟩ := conserved.absent id fresh
    have running : s.ended = false := by
      cases ended : s.ended with
      | false => rfl
      | true => exact absurd (conserved.ended ended).1 open_
    have changed := conserved.change id
      { producer := .new s.discard now, outbox := [], queue := [], dropped := false }
      [] []
      s.encoder (by rw [pushed, received]; exact Ledger.new s.discard now) (fun h => by cases h)
      (by simpa using conserved.handed) running
    simpa using changed
  | push id added start now =>
    obtain ⟨sender, found, rfl⟩ := Option.map_eq_some_iff.mp taken
    refine conserved.call found [.flows added] sender.dropped (fun ledger => ?_) fun gone => ?_
    · have flows : [Pushed.flows added].flatMap Pushed.flowList = added := List.append_nil _
      have lines : [Pushed.flows added].filterMap Pushed.line = [] := rfl
      rw [flows, lines, List.append_nil]
      exact ledger.push added start now
    · rw [(ready_eq_some.mp found).2.1] at gone
      cases gone
  | pushRaw id record carried start now =>
    obtain ⟨sender, found, rfl⟩ := Option.map_eq_some_iff.mp taken
    refine conserved.call found [.raw record carried] sender.dropped (fun ledger => ?_)
      fun gone => ?_
    · have flows : [Pushed.raw record carried].flatMap Pushed.flowList = ([] : List F) := rfl
      have lines :
          [(Pushed.raw record carried : Pushed F)].filterMap Pushed.line =
            [(record, carried)] := rfl
      rw [flows, lines, List.append_nil]
      exact ledger.pushRaw record carried start now
    · rw [(ready_eq_some.mp found).2.1] at gone
      cases gone
  | flush id =>
    obtain ⟨sender, found, rfl⟩ := Option.map_eq_some_iff.mp taken
    have changed := conserved.call found [] sender.dropped
      (fun ledger => (by simpa using ledger.flush.1))
      fun _ => (conserved.accounted id sender (ready_eq_some.mp found).1).flush.2
    rw [List.map_nil, List.append_nil] at changed
    exact changed
  | drop id =>
    obtain ⟨sender, found, rfl⟩ := Option.map_eq_some_iff.mp taken
    have changed := conserved.call found [] true (fun ledger => (by simpa using ledger.flush.1))
      fun _ => (conserved.accounted id sender (ready_eq_some.mp found).1).flush.2
    rw [List.map_nil, List.append_nil] at changed
    exact changed
  | send id =>
    obtain ⟨producer, chunk, outbox, queue, dropped, found, -, rfl⟩ := step_send taken
    have running := conserved.running found (by simp [Sender.gone])
    have emptied := conserved.dropped id _ found
    have changed := conserved.change id
      { producer, outbox, queue := queue ++ [chunk], dropped } [] [] s.encoder
      (by
        have accounted := conserved.accounted id _ found
        rw [Accounted] at accounted ⊢
        simpa using accounted)
      emptied (by simpa using conserved.handed) running
    simpa using changed
  | receive id tables now =>
    obtain ⟨producer, outbox, chunk, queue, dropped, found, running, rfl⟩ := step_receive taken
    have emptied := conserved.dropped id _ found
    have changed := conserved.change id { producer, outbox, queue, dropped } [] [chunk]
      ((s.encoder.handle tables chunk).tick now)
      (by
        have accounted := conserved.accounted id _ found
        rw [Accounted] at accounted ⊢
        simpa using accounted)
      emptied ((conserved.handed.handle id tables chunk).tick now) running
    simpa using changed
  | timeout now =>
    obtain ⟨-, rfl⟩ := step_timeout taken
    exact ⟨conserved.mode, conserved.absent, conserved.accounted,
      conserved.dropped, conserved.total, conserved.handed.tick now, conserved.ended⟩
  | drain =>
    obtain ⟨-, rfl⟩ := step_drain taken
    exact ⟨conserved.mode, conserved.absent, conserved.accounted,
      conserved.dropped, conserved.total, conserved.handed, fun ended =>
        ⟨rfl, (conserved.ended ended).2⟩⟩
  | disconnected =>
    obtain ⟨⟨closed, -, gone⟩, rfl⟩ := step_disconnected taken
    refine ⟨conserved.mode, conserved.absent, conserved.accounted,
      conserved.dropped, conserved.total, conserved.handed.finish, fun _ =>
        ⟨closed, fun id sender found => ?_⟩⟩
    exact List.all_eq_true.mp gone sender (Table.mem_values.mpr ⟨id, found⟩)

theorem Conserved.run {actions : List (Action F X)} {s s' : System F X}
    (conserved : Conserved discard s) (ran : s.run actions = some s') : Conserved discard s' := by
  induction actions generalizing s with
  | nil =>
    cases ran
    exact conserved
  | cons action actions ih =>
    obtain ⟨mid, taken, rest⟩ := Option.bind_eq_some_iff.mp ran
    exact ih (conserved.step taken) rest

/-- Once the encoder has ended, a sender has nothing left. -/
theorem Conserved.spent (conserved : Conserved discard s) (atEnd : s.ended = true) {id : Nat}
    {sender : Sender F} (found : s.senders.lookup id = some sender) :
    sender.queue = [] ∧ sender.outbox = [] ∧ sender.producer.flows = [] ∧
      sender.producer.rawRecords = 0 := by
  have gone := (conserved.ended atEnd).2 id sender found
  simp only [Sender.gone, Bool.and_eq_true, List.isEmpty_iff] at gone
  obtain ⟨⟨dropped, sent⟩, received⟩ := gone
  obtain ⟨flows, raw⟩ := conserved.dropped id sender found dropped
  exact ⟨received, sent, flows, raw⟩

end System

/-! ### Main result -/

/-- In every run, once the encoder loop has ended and `drain` returns: the encoder has received from
each producer the flows pushed on it, in order, and its raw lines, whole and in order; the sink was
handed just what was received; and the counter is that of the flows pushed, in 64 bits. -/
theorem pipeline_conserves {X : Type} (discard : Bool) (now : Instant) (actions : List (Action F X))
    (s : System F X) (ran : (System.new discard now).run actions = some s)
    (atEnd : s.ended = true) :
    (∀ id,
      (ofSender id s.received).flatMap Chunk.flowList =
        (ofSender id s.pushed).flatMap Pushed.flowList ∧
      ∃ groups : List (List Line), groups.flatten = (ofSender id s.pushed).filterMap Pushed.line ∧
        (ofSender id s.received).filterMap Chunk.rawPart = groups.map (payload discard)) ∧
    s.encoder.sink.filterMap SinkCall.written = s.received.flatMap (·.2.flowList) ∧
    s.encoder.sink.filterMap SinkCall.writtenRaw =
      (s.received.filterMap (·.2.rawPart)).map Prod.fst ∧
    s.encoder.flows = UInt64.ofNat (s.pushed.map (·.2.count)).sum := by
  have conserved := (System.conserved_new discard now).run ran
  refine ⟨fun id => ?_, conserved.handed.flows, conserved.handed.raw, ?_⟩
  · cases found : s.senders.lookup id with
    | none =>
      obtain ⟨pushed, received⟩ := conserved.absent id found
      rw [pushed, received]
      exact ⟨rfl, [], rfl, rfl⟩
    | some sender =>
      obtain ⟨queue, outbox, held, records⟩ := conserved.spent atEnd found
      obtain ⟨_, flows, groups, pending, whole, sent, _, counted⟩ :=
        conserved.accounted id sender found
      rw [queue, outbox, List.append_nil, List.append_nil] at flows sent
      rw [held, List.append_nil] at flows
      rw [records] at counted
      cases List.length_eq_zero_iff.mp counted.symm
      rw [List.append_nil] at whole
      rw [conserved.mode] at sent
      exact ⟨flows, groups, whole, sent⟩
  · have nothing : s.senders.total (fun _ sender => sender.count) = 0 := by
      rw [Table.total_values]
      refine List.sum_eq_zero fun n mem => ?_
      obtain ⟨sender, inside, rfl⟩ := List.mem_map.mp mem
      obtain ⟨id, found⟩ := Table.mem_values.mp inside
      obtain ⟨queue, outbox, held, records⟩ := conserved.spent atEnd found
      obtain ⟨_, _, _, pending, _, _, buffered, counted⟩ := conserved.accounted id sender found
      rw [records] at counted
      cases List.length_eq_zero_iff.mp counted.symm
      have carried : sender.producer.rawFlows = 0 := (Prod.mk.inj buffered).2
      rw [Sender.count, queue, outbox, held, carried]
      rfl
    rw [conserved.handed.counter, ← conserved.total, nothing, Nat.add_zero]

/-- Two producers, one of which is dropped with a line buffered. -/
def twoProducers : List (Action Nat Unit) := [
  .producer 0 0, .producer 1 0, .push 0 [7, 8] 1 2, .pushRaw 1 [0x7b, 0x7d] 3 1 2, .flush 0,
  .send 0, .drop 1, .receive 0 (fun _ => ()) 5, .send 1, .timeout 300000000, .drop 0, .drain,
  .receive 1 (fun _ => ()) 6, .disconnected]

theorem twoProducers_conserved :
    ∃ s : System Nat Unit, (System.new false 0).run twoProducers = some s ∧ s.ended = true ∧
      s.encoder.flows = UInt64.ofNat (s.pushed.map (·.2.count)).sum := by
  have ended : ((System.new false 0 : System Nat Unit).run twoProducers).map System.ended =
      some true := by rfl
  obtain ⟨s, ran, atEnd⟩ := Option.map_eq_some_iff.mp ended
  exact ⟨s, ran, atEnd, (pipeline_conserves false 0 twoProducers s ran atEnd).2.2.2⟩

end Rustflow.Collect
