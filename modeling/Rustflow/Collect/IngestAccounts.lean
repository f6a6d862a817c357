import Mathlib.Algebra.BigOperators.Group.Finset.Piecewise
import Rustflow.Collect.Ingest

/-!
# What the collector counts

In every run, with any number of threads: each counter is the sum of what the datagrams heard add to
it, each gauge is the time of the last datagram of its source, and the flows counted as processed
are those pushed into the pipeline, so that at its end they are the flows it has counted as written.
-/

namespace Rustflow.Collect

open NetflowProcessor (Arrival)

/-! ### Packets and their flows -/

/-- A packet has the flows it says it has. -/
def Decoded.Lawful : Decoded → Prop
  | .packet version flowCount flows _ =>
    flows.length = flowCount ∧ ∀ flow ∈ flows, flow.flowType = version
  | _ => True

theorem lawful_decode {P K : Type} {processor : Processor P K} (lawful : processor.Lawful)
    (json : K → List UInt8) (self : P) (arrival : Arrival) :
    Decoded.Lawful (decode processor json self arrival).2 := by
  unfold decode
  obtain ⟨after, packet⟩ := processor.parse arrival.order self arrival.datagram
  cases packet with
  | some packet =>
    exact ⟨lawful.flowCount after arrival.datagram.src packet arrival.timeReceivedNs,
      fun flow mem =>
        (lawful.flows after arrival.datagram.src packet arrival.timeReceivedNs flow mem).1⟩
  | none =>
    dsimp only
    split <;> trivial

theorem Decoder.lawful_decode (outside : Outside) (self : Decoder) (arrival : Arrival) :
    Decoded.Lawful (self.decode outside arrival).2 := by
  cases self with
  | netflow self =>
    exact Collect.lawful_decode (netflow_lawful outside.etherparse) outside.netflowJson self arrival
  | sflow self =>
    exact Collect.lawful_decode (sflow_lawful outside.etherparse) outside.sflowJson self arrival

/-! ### What a datagram comes to -/

namespace Heard

/-- What is counted of a datagram. -/
def additions (display : IpAddr → String) (self : Heard) : List (Series × Nat) :=
  let sourceIp := display self.arrival.datagram.src
  ExporterMetrics.arrived display self.family self.arrival.datagram.src
    self.arrival.datagram.payload.length ++
    match self.decoded with
    | .packet version flowCount _ _ =>
      [(.flowsProcessed { type := version.name, sourceIp }, flowCount)]
    | .parseError version => [(.parseErrors { type := version.name, sourceIp }, 1)]
    | .unknownVersion => [(.unknownVersion { sourceIp }, 1)]

def label (display : IpAddr → String) (self : Heard) : TypeSourceLabel :=
  { type := self.family, sourceIp := display self.arrival.datagram.src }

def seconds (self : Heard) : Int := self.arrival.timeReceivedNs.elim self.now (· / 1000000000)

end Heard

/-- What is pushed of a datagram. -/
def Decoded.pushed (format : OutputFormat) : Decoded → Option (Pushed CommonFlow)
  | .packet _ flowCount flows json =>
    match format with
    | .common => some (.flows flows)
    | .raw => some (.raw json flowCount)
  | _ => none

/-- The time of the last of them under a label. -/
def lastSeen (display : IpAddr → String) (heard : List (Nat × Heard)) (label : TypeSourceLabel) :
    Option Int :=
  ((heard.filter fun h => h.2.label display = label).getLast?).map fun h => h.2.seconds

theorem lastSeen_snoc (display : IpAddr → String) (heard : List (Nat × Heard)) (id : Nat)
    (h : Heard) (label : TypeSourceLabel) :
    lastSeen display (heard ++ [(id, h)]) label =
      if label = h.label display then some h.seconds else lastSeen display heard label := by
  unfold lastSeen
  rw [List.filter_append]
  split
  · next same => simp [same]
  · next other => simp [Ne.symm other]

namespace Ingest
variable {X : Type} {outside : Outside} {s s' : Ingest X}

/-- All that is counted and pushed is what was heard comes to. -/
structure Accounted (outside : Outside) (s : Ingest X) : Prop where
  added : Gained .new s.metrics (s.heard.flatMap fun h => h.2.additions outside.display)
  kept : ∀ id thread, s.threads.lookup id = some thread →
    ExporterMetrics.Kept outside.display s.metrics thread.exporters
  lastSeen : ∀ label, s.metrics.exporterLastSeen.view.lookup label =
    lastSeen outside.display s.heard label
  pushed : s.pipeline.pushed = s.heard.filterMap fun h => (h.2.decoded.pushed s.format).map (h.1, ·)
  lawful : ∀ h ∈ s.heard, Decoded.Lawful h.2.decoded

theorem accounted_new (format : OutputFormat) (discard : Bool) (now : Instant) :
    Accounted outside (.new format discard now : Ingest X) where
  added := .refl _
  kept _ _ found := by cases found
  lastSeen _ := rfl
  pushed := rfl
  lawful _ mem := by cases mem

end Ingest

theorem ExporterMetrics.Kept.count {display : IpAddr → String} {metrics : InputMetrics}
    {exporters : ExporterMetrics} (kept : Kept display metrics exporters) (h : Heard)
    (family : h.family = exporters.family) :
    ∃ exporters' after, exporters.count display metrics h.arrival.datagram h.decoded =
      (exporters', after) ∧
      Kept display after exporters' ∧ exporters'.family = exporters.family ∧
      after.exporterLastSeen = metrics.exporterLastSeen ∧
      Gained metrics after (h.additions display) := by
  obtain ⟨_, arrival, now, decoded⟩ := h
  obtain rfl := family
  cases decoded with
  | packet version flowCount flows json => exact kept.recordPacket _ _ _ flowCount
  | parseError version => exact kept.recordParseError _ _ _
  | unknownVersion =>
    have added : Gained metrics (exporters.recordUnknownVersion display metrics _ _) _ :=
      exporters.recordUnknownVersion_added metrics arrival.datagram.src
        arrival.datagram.payload.length
    exact ⟨exporters, _, rfl, kept.mono added, rfl, rfl, added⟩

namespace Ingest
variable {X : Type} {outside : Outside} {s s' : Ingest X}

/-- A push leaves a record of what was pushed. -/
theorem pushed_of_push {format : OutputFormat} {pipeline after : System CommonFlow X} {id : Nat}
    {clocks : Clocks} {decoded : Decoded}
    (taken : push format pipeline id clocks decoded = some after) :
    after.pushed = pipeline.pushed ++ ((decoded.pushed format).map (id, ·)).toList := by
  cases decoded with
  | packet version flowCount flows json =>
    cases format <;>
    · obtain ⟨sender, _, rfl⟩ := Option.map_eq_some_iff.mp taken
      rfl
  | _ =>
    cases taken
    exact (List.append_nil _).symm

theorem conserved_push {format : OutputFormat} {discard : Bool}
    {pipeline after : System CommonFlow X} {id : Nat} {clocks : Clocks} {decoded : Decoded}
    (conserved : System.Conserved discard pipeline)
    (taken : push format pipeline id clocks decoded = some after) :
    System.Conserved discard after := by
  cases decoded with
  | packet version flowCount flows json =>
    cases format with
    | common =>
      have taken : pipeline.step (.push id flows clocks.start clocks.now) = some after := taken
      exact conserved.step taken
    | raw =>
      have taken : pipeline.step (.pushRaw id json flowCount clocks.start clocks.now) =
          some after := taken
      exact conserved.step taken
  | _ =>
    cases taken
    exact conserved

/-- What the rest of a turn does. -/
theorem record_cases {id : Nat} {thread : Thread} {exporters : ExporterMetrics}
    {metrics : InputMetrics} {arrival : Arrival} {clocks : Clocks}
    (kept : ExporterMetrics.Kept outside.display metrics exporters)
    (taken : s.record outside id thread exporters metrics arrival clocks = some s') :
    ∃ exporters' metrics' pipeline, let decoded := (thread.decoder.decode outside arrival).2
      let h : Heard := { family := exporters.family, arrival, now := clocks.seconds, decoded }
      ExporterMetrics.Kept outside.display metrics' exporters' ∧ metrics'.exporterLastSeen =
        metrics.exporterLastSeen ∧
        Gained metrics metrics' (h.additions outside.display) ∧
        push s.format s.pipeline id clocks decoded = some pipeline ∧
        s' = { s with
          metrics := metrics'
          threads := s.threads.insert id { thread with
            decoder := (thread.decoder.decode outside arrival).1
            exporters := exporters' }
          pipeline
          heard := s.heard ++ [(id, h)] } := by
  obtain ⟨exporters', metrics', counted, kept, family, gauges, added⟩ := kept.count
    { family := exporters.family, arrival, now := clocks.seconds,
      decoded := (thread.decoder.decode outside arrival).2 } rfl
  unfold record at taken
  dsimp only at taken counted
  rw [counted] at taken
  obtain ⟨pipeline, pushes, rfl⟩ := Option.map_eq_some_iff.mp taken
  rw [family]
  exact ⟨exporters', metrics', pipeline, kept, gauges, added, pushes, rfl⟩

/-- What a turn does. -/
theorem turn_cases {id : Nat} {received : Except IoError Arrival} {clocks : Clocks}
    (taken : s.turn outside id received clocks = some s') :
    ∃ thread sender datagram source, s.threads.lookup id = some thread ∧
      s.pipeline.ready id = some sender ∧
      thread.source.next s.shutdown received = (datagram, source) ∧
      match datagram with
      | .atEnd => ∃ pipeline, s.pipeline.step (.drop id) = some pipeline ∧
          s' =
            { s with
              threads := s.threads.insert id { thread with source, toldToEnd := s.shutdown }
              pipeline }
      | .idle => ∃ pipeline, s.pipeline.step (.flush id) = some pipeline ∧
          s' = { s with threads := s.threads.insert id { thread with source }, pipeline }
      | .packet arrival => ∃ exporters metrics,
          thread.exporters.heardFrom outside.display s.metrics arrival.datagram.src
            arrival.timeReceivedNs clocks.seconds =
              (exporters, metrics) ∧
            s.record outside id { thread with source } exporters metrics arrival clocks =
              some s' := by
  obtain ⟨thread, found, taken⟩ := Option.bind_eq_some_iff.mp taken
  obtain ⟨sender, ready, taken⟩ := Option.bind_eq_some_iff.mp taken
  obtain ⟨datagram, source, came⟩ : ∃ datagram source, thread.source.next s.shutdown received =
    (datagram, source) := ⟨_, _, rfl⟩
  rw [came] at taken
  refine ⟨thread, sender, datagram, source, found, ready, came, ?_⟩
  cases datagram with
  | atEnd =>
    obtain ⟨pipeline, drops, same⟩ := Option.bind_eq_some_iff.mp taken
    exact ⟨pipeline, drops, (Option.some.inj same).symm⟩
  | idle =>
    obtain ⟨pipeline, flushes, same⟩ := Option.bind_eq_some_iff.mp taken
    exact ⟨pipeline, flushes, (Option.some.inj same).symm⟩
  | packet arrival => exact ⟨_, _, rfl, taken⟩

/-- Steps of the pipeline that push nothing. -/
theorem pushed_of_quiet {pipeline after : System CommonFlow X} {action : Action CommonFlow X}
    (taken : pipeline.step action = some after)
    (quiet : match action with | .push .. | .pushRaw .. => False | _ => True) :
    after.pushed = pipeline.pushed := by
  cases action with
  | producer id now =>
    obtain ⟨_, _, rfl⟩ := System.step_producer taken
    rfl
  | push | pushRaw => cases quiet
  | flush | drop =>
    obtain ⟨sender, _, rfl⟩ := Option.map_eq_some_iff.mp taken
    rfl
  | send id =>
    obtain ⟨_, _, _, _, _, _, _, rfl⟩ := System.step_send taken
    rfl
  | receive id tables now =>
    obtain ⟨_, _, _, _, _, _, _, rfl⟩ := System.step_receive taken
    rfl
  | timeout now =>
    obtain ⟨_, rfl⟩ := System.step_timeout taken
    rfl
  | drain =>
    obtain ⟨_, rfl⟩ := System.step_drain taken
    rfl
  | disconnected =>
    obtain ⟨_, rfl⟩ := System.step_disconnected taken
    rfl

/-- Steps without a datagram. -/
theorem Accounted.quiet (accounted : Accounted outside s) {threads : Table Nat Thread}
    {pipeline : System CommonFlow X} (kept : ∀ id thread, threads.lookup id = some thread →
      ExporterMetrics.Kept outside.display s.metrics thread.exporters)
    (pushed : pipeline.pushed = s.pipeline.pushed) (shutdown : Bool) :
    Accounted outside { s with threads, pipeline, shutdown } where
  added := accounted.added
  kept := kept
  lastSeen := accounted.lastSeen
  pushed := pushed.trans accounted.pushed
  lawful := accounted.lawful

theorem Accounted.turn (accounted : Accounted outside s)
    {id : Nat} {received : Except IoError Arrival} {clocks : Clocks}
    (taken : s.turn outside id received clocks = some s') : Accounted outside s' := by
  obtain ⟨thread, sender, datagram, source, found, -, -, taken⟩ := turn_cases taken
  have kept := accounted.kept id thread found
  have all :
      ∀ toldToEnd id' thread', (s.threads.insert id { thread with source, toldToEnd }).lookup id' =
        some thread' →
      ExporterMetrics.Kept outside.display s.metrics thread'.exporters :=
    fun toldToEnd => Table.forall_insert kept fun id' thread' found _ => accounted.kept id'
      thread' found
  cases datagram with
  | atEnd =>
    obtain ⟨pipeline, drops, rfl⟩ := taken
    exact accounted.quiet (all s.shutdown) (pushed_of_quiet drops trivial) s.shutdown
  | idle =>
    obtain ⟨pipeline, flushes, rfl⟩ := taken
    exact accounted.quiet (all thread.toldToEnd) (pushed_of_quiet flushes trivial) s.shutdown
  | packet arrival =>
    obtain ⟨exporters, metrics, hears, taken⟩ := taken
    obtain ⟨exporters', metrics', heard, kept, family, nothing, set⟩ :=
      kept.heardFrom arrival.datagram.src arrival.timeReceivedNs clocks.seconds
    cases hears.symm.trans heard
    obtain ⟨exporters', metrics', pipeline, kept, gauges, added,
      pushes, rfl⟩ := record_cases kept taken
    have added := nothing.trans added
    refine ⟨?_, ?_, fun label => ?_, ?_, fun h mem => ?_⟩
    · rw [List.flatMap_append, List.flatMap_singleton]
      exact accounted.added.trans added
    · exact Table.forall_insert kept
        fun id' thread' found _ => (accounted.kept id' thread' found).mono added
    · rw [gauges, set, accounted.lastSeen, lastSeen_snoc, family]
      rfl
    · rw [pushed_of_push pushes, accounted.pushed, List.filterMap_append,
        List.filterMap_cons, List.filterMap_nil]
      cases (thread.decoder.decode outside arrival).2.pushed s.format <;> rfl
    · rcases List.mem_append.mp mem with mem | mem
      · exact accounted.lawful h mem
      · rw [List.mem_singleton.mp mem]
        exact thread.decoder.lawful_decode outside arrival

theorem Accounted.step (accounted : Accounted outside s) {action : IngestAction X}
    (taken : s.step outside action = some s') :
    Accounted outside s' := by
  cases action with
  | start id source decoder now =>
    obtain ⟨pipeline, made, same⟩ := Option.bind_eq_some_iff.mp taken
    cases same
    exact accounted.quiet (Table.forall_insert (.new _) fun id' thread' found _ =>
      accounted.kept id' thread' found)
      (pushed_of_quiet made trivial) s.shutdown
  | turn id received clocks => exact accounted.turn taken
  | shutdown =>
    cases taken
    exact accounted.quiet accounted.kept rfl true
  | send | receive | timeout | disconnected =>
    obtain ⟨pipeline, steps, rfl⟩ := Option.map_eq_some_iff.mp taken
    exact accounted.quiet accounted.kept (pushed_of_quiet steps trivial) s.shutdown
  | drain =>
    obtain ⟨_, taken⟩ := Option.ite_none_right_eq_some.mp taken
    obtain ⟨pipeline, steps, rfl⟩ := Option.map_eq_some_iff.mp taken
    exact accounted.quiet accounted.kept (pushed_of_quiet steps trivial) s.shutdown

/-! ### The pipeline -/

theorem conserved_step {discard : Bool}
    (conserved : System.Conserved discard s.pipeline) {action : IngestAction X}
    (taken : s.step outside action = some s') : System.Conserved discard s'.pipeline := by
  cases action with
  | start id source decoder now =>
    obtain ⟨pipeline, made, same⟩ := Option.bind_eq_some_iff.mp taken
    cases same
    exact conserved.step made
  | turn id received clocks =>
    obtain ⟨thread, sender, datagram, source, -, -, -, taken⟩ := turn_cases taken
    cases datagram with
    | atEnd | idle =>
      obtain ⟨pipeline, steps, rfl⟩ := taken
      exact conserved.step steps
    | packet arrival =>
      obtain ⟨exporters, metrics, -, taken⟩ := taken
      obtain ⟨pipeline, pushes, rfl⟩ := Option.map_eq_some_iff.mp taken
      exact conserved_push conserved pushes
  | shutdown =>
    cases taken
    exact conserved
  | send | receive | timeout | disconnected =>
    obtain ⟨pipeline, steps, rfl⟩ := Option.map_eq_some_iff.mp taken
    exact conserved.step steps
  | drain =>
    obtain ⟨_, taken⟩ := Option.ite_none_right_eq_some.mp taken
    obtain ⟨pipeline, steps, rfl⟩ := Option.map_eq_some_iff.mp taken
    exact conserved.step steps

/-- What every step keeps, a run keeps. -/
theorem run_keeps {P : Ingest X → Prop}
    (keeps : ∀ {s s' action}, P s → s.step outside action = some s' → P s')
    {actions : List (IngestAction X)} (start : P s) (ran : s.run outside actions = some s') :
    P s' := by
  induction actions generalizing s with
  | nil =>
    cases ran
    exact start
  | cons action actions ih =>
    obtain ⟨mid, taken, rest⟩ := Option.bind_eq_some_iff.mp ran
    exact ih (keeps start taken) rest

end Ingest

/-! ### What the encoder has counted -/

/-- Counting over all senders is counting for each of them. -/
theorem countP_ofSender {A B : Type} (p : B → Bool) (f : A → List B) (entries : List (Nat × A))
    (S : Finset Nat) (cover : ∀ entry ∈ entries, entry.1 ∈ S) :
    (entries.flatMap fun entry => f entry.2).countP p = ∑ id ∈ S,
      ((ofSender id entries).flatMap f).countP p := by
  induction entries with
  | nil => exact (Finset.sum_eq_zero fun _ _ => rfl).symm
  | cons entry entries ih =>
    have each : ∀ id, ((ofSender id (entry :: entries)).flatMap f).countP p =
        (if entry.1 = id then (f entry.2).countP p else 0) +
          ((ofSender id entries).flatMap f).countP p := by
      intro id
      unfold ofSender
      by_cases same : entry.1 = id
      · simp [same]
      · simp [same]
    rw [List.flatMap_cons, List.countP_append, ih fun e mem => cover e (List.mem_cons_of_mem _ mem)]
    simp only [each]
    rw [Finset.sum_add_distrib, Finset.sum_ite_eq, if_pos (cover entry List.mem_cons_self)]

namespace System
variable {F X : Type} {discard : Bool} {s : System F X}

/-- Once the encoder has ended, its counter is that of everything pushed. -/
theorem Conserved.counted (conserved : Conserved discard s) (ended : s.ended = true) :
    s.encoder.flows = UInt64.ofNat (s.pushed.map (·.2.count)).sum := by
  have nothing : s.senders.total (fun _ sender => sender.count) = 0 := by
    rw [Table.total_values]
    refine List.sum_eq_zero fun n mem => ?_
    obtain ⟨sender, inside, rfl⟩ := List.mem_map.mp mem
    obtain ⟨id, found⟩ := Table.mem_values.mp inside
    obtain ⟨queue, outbox, held, records⟩ := conserved.spent ended found
    obtain ⟨_, _, _, pending, _, _, buffered, counted⟩ := conserved.accounted id sender found
    rw [records] at counted
    cases List.length_eq_zero_iff.mp counted.symm
    have carried : sender.producer.rawFlows = 0 := (Prod.mk.inj buffered).2
    rw [Sender.count, queue, outbox, held, carried]
    rfl
  rw [conserved.handed.counter, ← conserved.total, nothing, Nat.add_zero]

/-- Once the encoder has ended, it has received from each producer what was pushed on it. -/
theorem Conserved.flowsOf (conserved : Conserved discard s) (ended : s.ended = true) (id : Nat) :
    (ofSender id s.received).flatMap Chunk.flowList =
      (ofSender id s.pushed).flatMap Pushed.flowList := by
  cases found : s.senders.lookup id with
  | none =>
    obtain ⟨pushed, received⟩ := conserved.absent id found
    rw [pushed, received]
    rfl
  | some sender =>
    obtain ⟨queue, outbox, held, _⟩ := conserved.spent ended found
    have flows := (conserved.accounted id sender found).flows
    rw [queue, outbox, held, List.append_nil, List.append_nil, List.append_nil] at flows
    exact flows

/-- Once the encoder has ended, it has handed its sink as many flows of any kind as were pushed. -/
theorem Conserved.countP_written (conserved : Conserved discard s) (ended : s.ended = true)
    (p : F → Bool) :
    (s.encoder.sink.filterMap SinkCall.written).countP p =
      (s.pushed.flatMap (·.2.flowList)).countP p := by
  let S := (s.received.map Prod.fst ++ s.pushed.map Prod.fst).toFinset
  have received : ∀ entry ∈ s.received, entry.1 ∈ S := fun entry mem =>
    List.mem_toFinset.mpr (List.mem_append_left _ (List.mem_map_of_mem mem))
  have pushed : ∀ entry ∈ s.pushed, entry.1 ∈ S := fun entry mem =>
    List.mem_toFinset.mpr (List.mem_append_right _ (List.mem_map_of_mem mem))
  rw [conserved.handed.flows, countP_ofSender p Chunk.flowList s.received S received,
    countP_ofSender p Pushed.flowList s.pushed S pushed]
  exact Finset.sum_congr rfl fun id _ => by rw [conserved.flowsOf ended id]

end System

/-! ### Flows counted and flows pushed -/

theorem FlowType.name_injective : Function.Injective FlowType.name := by
  intro version other same
  cases version <;> cases other <;> first | rfl | exact absurd same (by decide)

/-- What is pushed of packets is as much as what is counted of them as processed. -/
theorem count_pushed (display : IpAddr → String) (format : OutputFormat)
    (heard : List (Nat × Heard)) (lawful : ∀ h ∈ heard, Decoded.Lawful h.2.decoded) :
    ((heard.filterMap fun h => (h.2.decoded.pushed format).map (h.1, ·)).map (·.2.count)).sum =
      ((heard.flatMap fun h => h.2.additions display).map
        (Series.processed fun _ => true)).sum := by
  induction heard with
  | nil => rfl
  | cons h heard ih =>
    obtain ⟨id, family, arrival, now, decoded⟩ := h
    have ih := ih fun h mem => lawful h (List.mem_cons_of_mem _ mem)
    rw [List.flatMap_cons, List.map_append, List.sum_append, ← ih]
    have here : Decoded.Lawful decoded := lawful _ List.mem_cons_self
    cases decoded with
    | packet version flowCount flows json =>
      cases format with
      | common => simp [Decoded.pushed, Heard.additions, ExporterMetrics.arrived, Series.processed,
          Pushed.count, here.1]
      | raw => simp [Decoded.pushed, Heard.additions, ExporterMetrics.arrived, Series.processed,
          Pushed.count]
    | _ => simp [Decoded.pushed, Heard.additions, ExporterMetrics.arrived, Series.processed]

/-- As much of each version. -/
theorem countP_pushed (display : IpAddr → String) (heard : List (Nat × Heard))
    (lawful : ∀ h ∈ heard, Decoded.Lawful h.2.decoded) (version : FlowType) :
    ((heard.filterMap fun h => (h.2.decoded.pushed .common).map (h.1, ·)).flatMap
      (·.2.flowList)).countP
        (·.flowType = version) =
      ((heard.flatMap fun h => h.2.additions display).map
        (Series.processed (· = version.name))).sum := by
  induction heard with
  | nil => rfl
  | cons h heard ih =>
    obtain ⟨id, family, arrival, now, decoded⟩ := h
    have ih := ih fun h mem => lawful h (List.mem_cons_of_mem _ mem)
    rw [List.flatMap_cons, List.map_append, List.sum_append, ← ih]
    have here : Decoded.Lawful decoded := lawful _ List.mem_cons_self
    cases decoded with
    | packet other flowCount flows json =>
      have counted : flows.countP (·.flowType = version) = if other.name = version.name then
          flowCount else 0 := by
        split
        · next same =>
          rw [← here.1]
          refine List.countP_eq_length.mpr fun flow mem => decide_eq_true ?_
          exact (here.2 flow mem).trans (FlowType.name_injective same)
        · next different =>
          refine List.countP_eq_zero.mpr fun flow mem equal => different ?_
          rw [← here.2 flow mem, of_decide_eq_true equal]
      simp [Decoded.pushed, Heard.additions, ExporterMetrics.arrived, Series.processed,
        Pushed.flowList, counted]
    | _ => simp [Decoded.pushed, Heard.additions, ExporterMetrics.arrived, Series.processed]

/-! ### Main results -/

/-- In every run, each counter is the sum of what the datagrams heard add to it, whichever threads
heard them, and each gauge is the time of the last datagram of its source. -/
theorem metrics_account {X : Type} (outside : Outside) (format : OutputFormat) (discard : Bool)
    (now : Instant) (actions : List (IngestAction X)) (s : Ingest X)
    (ran : (Ingest.new format discard now).run outside actions = some s) :
    (∀ series, s.metrics.count series =
      UInt64.ofNat (added series (s.heard.flatMap fun h => h.2.additions outside.display))) ∧
    ∀ label, s.metrics.exporterLastSeen.view.lookup label =
      lastSeen outside.display s.heard label := by
  have accounted :=
    Ingest.run_keeps (fun accounted taken => accounted.step taken)
      (Ingest.accounted_new format discard now) ran
  refine ⟨fun series => ?_, accounted.lastSeen⟩
  rw [accounted.added.count]
  exact UInt64.zero_add _

/-- A NetFlow v5 packet of a record for each protocol, in a UDP datagram. -/
def v5Frame (protos : List UInt8) : CapturedFrame where
  timestampNanos := 1700000000000000000
  data :=
    [0x45, 0, 0, UInt8.ofNat (52 + 48 * protos.length), 0, 1, 0, 0, 64, 17, 0, 0, 192, 0, 2, 1, 198,
      51, 100, 7] ++
      [0x03, 0xe8, 0x08, 0x07, 0, UInt8.ofNat (32 + 48 * protos.length), 0, 0] ++
      [0, 5, 0, UInt8.ofNat protos.length] ++ List.replicate 20 0 ++
      protos.flatMap fun proto => List.replicate 38 0 ++ proto :: List.replicate 9 0
  clock := fun _ => 0
  order := .listed

/-- A capture file of three flows in two packets. -/
def v5File : List (Except String CapturedFrame) := [.ok (v5Frame [6, 17]), .ok (v5Frame [1])]

def rawIp : Slicing where
  etherparse := plainIpv4
  fromEtherType _ _ := ⟨none, none, none, none, none, none⟩
  linkType := 101

def plainOutside : Outside where
  etherparse := plainIpv4
  netflowJson _ := []
  sflowJson _ := []
  display _ := "192.0.2.1"

/-- A thread with a file, and one with a socket that hears half a header and is then told to end. -/
def fileAndSocket : List (IngestAction Unit) :=
  let clocks : Clocks := ⟨1700000001, 0, 0⟩
  let idle : Except IoError Arrival := .error ⟨.timedOut, ""⟩
  [.start 0 (.pcap rawIp v5File) (.netflow (.new .new 0 0 0)) 0, .start 1 .socket (.sflow {}) 0,
    .turn 0 idle clocks, .turn 1 (.ok ⟨⟨.v4 1, [0, 0], fun _ => 0⟩, .listed, none⟩) clocks,
    .turn 0 idle clocks, .turn 0 idle clocks, .send 0, .shutdown, .receive 0 (fun _ => ()) 5,
    .turn 1 idle clocks, .drain, .disconnected]

set_option maxRecDepth 2000 in
theorem fileAndSocket_ends :
    ∃ s : Ingest Unit, (Ingest.new .common false 0).run plainOutside fileAndSocket = some s ∧
      s.pipeline.ended = true ∧ s.format = .common ∧ ∃ thread, s.threads.lookup 0 = some thread ∧
      thread.toldToEnd = false ∧
        thread.startedSource = .pcap rawIp v5File ∧
          ((ofSender 0 s.pipeline.received).flatMap Chunk.flowList).map CommonFlow.proto =
            [some 6, some 17, some 1] := by
  have ended :
      ((Ingest.new .common false 0).run plainOutside fileAndSocket).map (fun s : Ingest Unit =>
      (s.pipeline.ended, s.format, ((ofSender 0 s.pipeline.received).flatMap Chunk.flowList).map
        CommonFlow.proto,
        (s.threads.lookup 0).map fun thread => (thread.toldToEnd, thread.startedSource))) =
    some (true, .common, [some 6, some 17, some 1], some (false, .pcap rawIp v5File)) := by rfl
  obtain ⟨s, ran, same⟩ := Option.map_eq_some_iff.mp ended
  obtain ⟨ended, same⟩ := Prod.mk.inj same
  obtain ⟨common, same⟩ := Prod.mk.inj same
  obtain ⟨protos, same⟩ := Prod.mk.inj same
  obtain ⟨thread, found, same⟩ := Option.map_eq_some_iff.mp same
  obtain ⟨calm, file⟩ := Prod.mk.inj same
  exact ⟨s, ran, ended, common, thread, found, calm, file, protos⟩

theorem fileAndSocket_accounts : ∃ s : Ingest Unit,
    (Ingest.new .common false 0).run plainOutside fileAndSocket = some s ∧
      ∀ series, s.metrics.count series =
        UInt64.ofNat (added series (s.heard.flatMap fun h =>
          h.2.additions plainOutside.display)) := by
  obtain ⟨s, ran, -⟩ := fileAndSocket_ends
  exact ⟨s, ran, (metrics_account plainOutside .common false 0 fileAndSocket s ran).1⟩

/-- In every run, once the encoder has ended and `drain` returns: the flows it has counted as
written are all those counted as processed, and of each version the sink was handed as many flows as
were. -/
theorem processed_are_written {X : Type} (outside : Outside) (format : OutputFormat)
    (discard : Bool) (now : Instant) (actions : List (IngestAction X)) (s : Ingest X)
    (ran : (Ingest.new format discard now).run outside actions = some s)
    (ended : s.pipeline.ended = true) :
    s.pipeline.encoder.flows = s.metrics.processed (fun _ => true) ∧
      (s.format = .common → ∀ version : FlowType,
        UInt64.ofNat ((s.pipeline.encoder.sink.filterMap SinkCall.written).countP
          (·.flowType = version)) =
          s.metrics.processed (· = version.name)) := by
  have accounted :=
    Ingest.run_keeps (fun accounted taken => accounted.step taken)
      (Ingest.accounted_new format discard now) ran
  have conserved : System.Conserved discard s.pipeline :=
    Ingest.run_keeps (fun conserved taken => Ingest.conserved_step conserved taken)
      (System.conserved_new discard now) ran
  refine ⟨?_, fun common version => ?_⟩
  · rw [conserved.counted ended, accounted.pushed,
      count_pushed outside.display s.format s.heard accounted.lawful, accounted.added.processed]
    exact (UInt64.zero_add _).symm
  · rw [conserved.countP_written ended, accounted.pushed, common,
      countP_pushed outside.display s.heard accounted.lawful, accounted.added.processed]
    exact (UInt64.zero_add _).symm

theorem fileAndSocket_written : ∃ s : Ingest Unit,
    (Ingest.new .common false 0).run plainOutside fileAndSocket = some s ∧ s.pipeline.ended = true ∧
      s.pipeline.encoder.flows = s.metrics.processed (fun _ => true) := by
  obtain ⟨s, ran, ended, -⟩ := fileAndSocket_ends
  exact ⟨s, ran, ended,
    (processed_are_written plainOutside .common false 0 fileAndSocket s ran ended).1⟩

end Rustflow.Collect
