import Rustflow.Collect.IngestAccounts

/-!
# Capture files through the collector

A thread that reads a capture file to its end, with any other threads beside it, hands the encoder
the flows that a reader of the library reads from the file.
-/

namespace Rustflow.Collect

open NetflowProcessor (Arrival)

/-- The datagrams of a file, up to an error in it. -/
def Slicing.datagrams (slicing : Slicing) : List (Except String CapturedFrame) → List Arrival
  | [] => []
  | .error _ :: _ => []
  | .ok frame :: frames =>
    match slicing.arrival frame with
    | none => datagrams slicing frames
    | some arrival => arrival :: datagrams slicing frames

/-- What datagrams come to one after the other. -/
def Decoder.decodeAll (outside : Outside) : Decoder → List Arrival → List Decoded
  | _, [] => []
  | self, arrival :: arrivals =>
    let (self, decoded) := self.decode outside arrival
    decoded :: decodeAll outside self arrivals

/-- A file is read one datagram at a time, and the end comes after the last. -/
theorem nextFrame_cases (slicing : Slicing) (frames : List (Except String CapturedFrame)) :
    ∃ left, (∃ arrival, DatagramSource.nextFrame slicing frames =
      (.packet arrival, .pcap slicing left) ∧
        Slicing.datagrams slicing frames = arrival :: Slicing.datagrams slicing left) ∨
      DatagramSource.nextFrame slicing frames = (.atEnd, .pcap slicing left) ∧
        Slicing.datagrams slicing frames = [] := by
  induction frames with
  | nil => exact ⟨[], Or.inr ⟨rfl, rfl⟩⟩
  | cons frame frames ih =>
    cases frame with
    | error e => exact ⟨frames, Or.inr ⟨rfl, rfl⟩⟩
    | ok frame =>
      cases inside : slicing.arrival frame with
      | none =>
        have next : DatagramSource.nextFrame slicing (.ok frame :: frames) =
            DatagramSource.nextFrame slicing frames := by
          rw [DatagramSource.nextFrame, inside]
        have same :
            Slicing.datagrams slicing (.ok frame :: frames) = Slicing.datagrams slicing frames := by
          rw [Slicing.datagrams, inside]
        rw [next, same]
        exact ih
      | some arrival =>
        refine ⟨frames, Or.inl ⟨arrival, ?_, ?_⟩⟩
        · rw [DatagramSource.nextFrame, inside]
        · rw [Slicing.datagrams, inside]

/-- A turn with a file, unless shutdown is requested. -/
theorem next_cases {slicing : Slicing} {frames : List (Except String CapturedFrame)}
    {requested : Bool} {received : Except IoError Arrival} {datagram : Datagram}
    {source : DatagramSource} (came : (DatagramSource.pcap slicing frames).next requested received =
      (datagram, source)) :
    match datagram with
    | .packet arrival => ∃ left, source = .pcap slicing left ∧
        Slicing.datagrams slicing frames = arrival :: Slicing.datagrams slicing left
    | .idle => False
    | .atEnd => requested = false → Slicing.datagrams slicing frames = [] := by
  unfold DatagramSource.next at came
  dsimp only at came
  split at came
  · next requested =>
    cases came
    exact fun calm => absurd requested (by rw [calm]; decide)
  · obtain ⟨left, ⟨arrival, framed, datagrams⟩ | ⟨framed, none⟩⟩ := nextFrame_cases slicing frames
    · cases framed.symm.trans came
      exact ⟨left, rfl, datagrams⟩
    · cases framed.symm.trans came
      exact fun _ => none

/-! ### Producers -/

namespace System
variable {F X : Type} {s s' : System F X}

/-- Whether a producer has been dropped, if there is one. -/
def status (s : System F X) (id : Nat) : Option Bool := (s.senders.lookup id).map Sender.dropped

theorem status_insert {senders : Table Nat (Sender F)} {id : Nat} {sender : Sender F} (id' : Nat) :
    ((senders.insert id sender).lookup id').map Sender.dropped =
      if id' = id then some sender.dropped else (senders.lookup id').map Sender.dropped := by
  rw [Table.lookup_insert_eq]
  exact apply_ite ..

theorem status_of_ready {id : Nat} {sender : Sender F} (ready : s.ready id = some sender) :
    s.status id = some false := by
  obtain ⟨found, live, _⟩ := ready_eq_some.mp ready
  rw [status, found, Option.map_some, live]

/-- A call leaves a producer as it was, if it does not drop it. -/
theorem status_call {id : Nat} {sender : Sender F} (ready : s.ready id = some sender)
    {sender' : Sender F} (same : sender'.dropped = sender.dropped) (id' : Nat) :
    ((s.senders.insert id sender').lookup id').map Sender.dropped = s.status id' := by
  rw [status_insert]
  split
  · next here => rw [here, status_of_ready ready, same, (ready_eq_some.mp ready).2.1]
  · rfl

theorem status_of_step {action : Action F X} (taken : s.step action = some s') (id : Nat) :
    s'.status id = match action with
      | .producer made _ => if id = made then some false else s.status id
      | .drop gone => if id = gone then some true else s.status id
      | _ => s.status id := by
  cases action with
  | producer made now =>
    obtain ⟨_, _, rfl⟩ := step_producer taken
    exact status_insert id
  | drop gone =>
    obtain ⟨sender, ready, rfl⟩ := Option.map_eq_some_iff.mp taken
    exact status_insert id
  | push id' | pushRaw id' | flush id' =>
    obtain ⟨sender, ready, rfl⟩ := Option.map_eq_some_iff.mp taken
    refine status_call ready ?_ id
    rfl
  | send id' =>
    obtain ⟨_, _, _, _, _, found, _, rfl⟩ := step_send taken
    refine (status_insert id).trans ?_
    split
    · next here =>
      rw [here, status, found]
      rfl
    · rfl
  | receive id' tables now =>
    obtain ⟨_, _, _, _, _, found, _, rfl⟩ := step_receive taken
    refine (status_insert id).trans ?_
    split
    · next here =>
      rw [here, status, found]
      rfl
    · rfl
  | timeout now =>
    obtain ⟨_, rfl⟩ := step_timeout taken
    rfl
  | drain =>
    obtain ⟨_, rfl⟩ := step_drain taken
    rfl
  | disconnected =>
    obtain ⟨_, rfl⟩ := step_disconnected taken
    rfl

end System

/-! ### Threads -/

/-- What a thread has heard of its file, and what is left of it. -/
def ReadsFile (outside : Outside) (thread : Thread) (heard : List Heard) : Prop :=
  ∀ slicing frames, thread.startedSource = .pcap slicing frames →
    ∃ left, thread.source = .pcap slicing left ∧
    thread.startedDecoder.decodeAll outside (Slicing.datagrams slicing frames) =
      heard.map Heard.decoded ++ thread.decoder.decodeAll outside (Slicing.datagrams slicing left)

/-- A thread has heard its whole file. -/
def HasReadFile (outside : Outside) (thread : Thread) (heard : List Heard) : Prop :=
  ∀ slicing frames, thread.startedSource = .pcap slicing frames →
    thread.startedDecoder.decodeAll outside (Slicing.datagrams slicing frames) =
      heard.map Heard.decoded

namespace Ingest
variable {X : Type} {outside : Outside} {s s' : Ingest X}

/-- Every thread with a file reads through it, and those that have ended have read it, unless they
were told to end. -/
structure Sourced (outside : Outside) (s : Ingest X) : Prop where
  producers : ∀ id, (s.threads.lookup id).isSome = (s.pipeline.status id).isSome
  silent : ∀ id, s.pipeline.status id = none → ofSender id s.heard = []
  running : ∀ id thread, s.threads.lookup id = some thread → s.pipeline.status id = some false →
    ReadsFile outside thread (ofSender id s.heard)
  ended : ∀ id thread, s.threads.lookup id = some thread → s.pipeline.status id = some true →
    thread.toldToEnd = false →
    HasReadFile outside thread (ofSender id s.heard)

theorem sourced_new (format : OutputFormat) (discard : Bool) (now : Instant) :
    Sourced outside (.new format discard now : Ingest X) where
  producers _ := rfl
  silent _ _ := rfl
  running _ _ found := by cases found
  ended _ _ _ found := by cases found

theorem status_of_push {format : OutputFormat} {pipeline after : System CommonFlow X} {id : Nat}
    {clocks : Clocks} {decoded : Decoded}
    (taken : push format pipeline id clocks decoded = some after) (id' : Nat) :
    after.status id' = pipeline.status id' := by
  cases decoded with
  | packet version flowCount flows json =>
    cases format with
    | common =>
      have taken : pipeline.step (.push id flows clocks.start clocks.now) = some after := taken
      exact System.status_of_step taken id'
    | raw =>
      have taken : pipeline.step (.pushRaw id json flowCount clocks.start clocks.now) =
          some after := taken
      exact System.status_of_step taken id'
  | _ =>
    cases taken
    rfl

theorem status_same {before after : System CommonFlow X} {id : Nat} {gone : Bool}
    (here : before.status id = some gone) (same : ∀ id', after.status id' = before.status id')
    (id' : Nat) :
    after.status id' = if id' = id then some gone else before.status id' := by
  rw [same]
  split
  · next this => rw [this, here]
  · rfl

/-- Steps that only concern the pipeline. -/
theorem Sourced.quiet (sourced : Sourced outside s) {pipeline : System CommonFlow X}
    (same : ∀ id, pipeline.status id = s.pipeline.status id) :
    Sourced outside { s with pipeline } where
  producers id := (sourced.producers id).trans (by rw [same])
  silent id none := sourced.silent id ((same id).symm.trans none)
  running id thread found live := sourced.running id thread found ((same id).symm.trans live)
  ended id thread found gone := sourced.ended id thread found ((same id).symm.trans gone)

/-- The change of one thread, and of the status of its producer. -/
theorem Sourced.change (sourced : Sourced outside s) (id : Nat) (thread : Thread)
    (given : List Heard) {pipeline : System CommonFlow X} {gone : Bool}
    (status : ∀ id', pipeline.status id' = if id' = id then some gone else s.pipeline.status id')
    (running : gone = false → ReadsFile outside thread (ofSender id s.heard ++ given))
    (ended : gone = true → thread.toldToEnd = false →
      HasReadFile outside thread (ofSender id s.heard ++ given)) (metrics : InputMetrics) :
    Sourced outside { s with
      metrics
      threads := s.threads.insert id thread
      pipeline
      heard := s.heard ++ given.map (id, ·) } := by
  refine ⟨fun id' => ?_, fun id' none => ?_, fun id' thread' found live => ?_,
    fun id' thread' found gone calm => ?_⟩
  · rw [Table.lookup_insert_eq, status]
    split
    · rfl
    · exact sourced.producers id'
  · rw [status] at none
    rw [ofSender_append]
    split at none
    · cases none
    · next other =>
      rw [if_neg other]
      exact sourced.silent id' none
  · rw [status] at live
    rw [Table.lookup_insert_eq] at found
    rw [ofSender_append]
    split at found
    · next here =>
      rw [if_pos here] at live ⊢
      rw [here, ← Option.some.inj found]
      exact running (Option.some.inj live)
    · next other =>
      rw [if_neg other] at live ⊢
      exact sourced.running id' thread' found live
  · rw [status] at gone
    rw [Table.lookup_insert_eq] at found
    rw [ofSender_append]
    split at found
    · next here =>
      rw [if_pos here] at gone ⊢
      rw [here, ← Option.some.inj found]
      rw [← Option.some.inj found] at calm
      exact ended (Option.some.inj gone) calm
    · next other =>
      rw [if_neg other] at gone ⊢
      exact sourced.ended id' thread' found gone calm

theorem Sourced.turn (sourced : Sourced outside s) {id : Nat} {received : Except IoError Arrival}
    {clocks : Clocks} (taken : s.turn outside id received clocks = some s') :
    Sourced outside s' := by
  obtain ⟨thread, sender, datagram, source, found, ready, came, taken⟩ := turn_cases taken
  have live := System.status_of_ready ready
  have reads := sourced.running id thread found live
  cases datagram with
  | atEnd =>
    obtain ⟨pipeline, drops, rfl⟩ := taken
    have changed :=
      sourced.change id
        { thread with source, toldToEnd := s.shutdown } [] (System.status_of_step drops)
      (fun never => by cases never) (fun _ calm slicing frames started => by
        obtain ⟨left, here, decoded⟩ := reads slicing frames started
        rw [here] at came
        rw [next_cases came calm] at decoded
        exact decoded.trans (by rw [List.append_nil]; exact List.append_nil _)) s.metrics
    simpa using changed
  | idle =>
    obtain ⟨pipeline, flushes, rfl⟩ := taken
    have same := status_same live (System.status_of_step flushes)
    have changed := sourced.change id { thread with source } [] same
      (fun _ slicing frames started => by
        obtain ⟨left, here, _⟩ := reads slicing frames started
        rw [here] at came
        exact (next_cases came).elim) (fun never => by cases never) s.metrics
    simpa using changed
  | packet arrival =>
    obtain ⟨exporters, metrics, hears, taken⟩ := taken
    obtain ⟨pipeline, pushes, rfl⟩ := Option.map_eq_some_iff.mp taken
    have same := status_same live (status_of_push pushes)
    refine sourced.change id _ [_] same (fun _ slicing frames started => ?_)
      (fun never => by cases never) _
    obtain ⟨left, here, decoded⟩ := reads slicing frames started
    rw [here] at came
    obtain ⟨rest, rfl, first⟩ := next_cases came
    refine ⟨rest, rfl, ?_⟩
    rw [first] at decoded
    rw [decoded, List.map_append, List.append_assoc]
    rfl

theorem Sourced.step (sourced : Sourced outside s) {action : IngestAction X}
    (taken : s.step outside action = some s') :
    Sourced outside s' := by
  cases action with
  | start id source decoder now =>
    obtain ⟨pipeline, made, same⟩ := Option.bind_eq_some_iff.mp taken
    cases same
    obtain ⟨_, fresh, _⟩ := System.step_producer made
    have silent := sourced.silent id (by rw [System.status, fresh]; rfl)
    have changed := sourced.change id
      { source, decoder, exporters := .new (decoder.name outside), startedSource := source,
        startedDecoder := decoder, toldToEnd := false } []
      (System.status_of_step made) (fun _ slicing frames started =>
        ⟨frames, started, by rw [silent]; rfl⟩)
      (fun never => by cases never) s.metrics
    simpa using changed
  | turn id received clocks => exact sourced.turn taken
  | shutdown =>
    cases taken
    exact ⟨sourced.producers, sourced.silent, sourced.running, sourced.ended⟩
  | send | receive | timeout | disconnected =>
    obtain ⟨pipeline, steps, rfl⟩ := Option.map_eq_some_iff.mp taken
    exact sourced.quiet (System.status_of_step steps)
  | drain =>
    obtain ⟨_, taken⟩ := Option.ite_none_right_eq_some.mp taken
    obtain ⟨pipeline, steps, rfl⟩ := Option.map_eq_some_iff.mp taken
    exact sourced.quiet (System.status_of_step steps)

end Ingest

/-! ### Main result -/

def Decoded.flows : Decoded → List CommonFlow
  | .packet _ _ flows _ => flows
  | _ => []

/-- The library's reader of capture files, called so many times. -/
def Decoder.readFile (outside : Outside) (slicing : Slicing)
    (frames : List (Except String CapturedFrame)) (n : Nat) :
    Decoder → List (Except IoError CommonFlow)
  | .netflow self =>
    (Expansion.calls (PcapReader.next (Rustflow.netflow outside.etherparse) slicing) n
      { state := self, queue := [], inputs := frames }).1
  | .sflow self =>
    (Expansion.calls (PcapReader.next (Rustflow.sflow outside.etherparse) slicing) n
      { state := self, queue := [], inputs := frames }).1

theorem process_eq_decode {P K : Type} (processor : Processor P K) (json : K → List UInt8)
    (self : P) (arrival : Arrival) :
    processor.process self arrival = ((decode processor json self arrival).1,
      Decoded.flows (decode processor json self arrival).2) := by
  unfold Processor.process decode
  obtain ⟨after, packet⟩ := processor.parse arrival.order self arrival.datagram
  cases packet with
  | some packet => rfl
  | none =>
    dsimp only
    split <;> rfl

theorem produced_netflow (outside : Outside) (self : NetflowProcessor) (arrivals : List Arrival) :
    (Rustflow.netflow outside.etherparse).produced self (arrivals.map .ok) =
      (((Decoder.netflow self).decodeAll outside arrivals).flatMap Decoded.flows).map .ok := by
  induction arrivals generalizing self with
  | nil => rfl
  | cons arrival arrivals ih =>
    rw [List.map_cons, Processor.produced, process_eq_decode _ outside.netflowJson]
    dsimp only
    rw [ih, Decoder.decodeAll, List.flatMap_cons, List.map_append]
    rfl

theorem produced_sflow (outside : Outside) (self : SflowProcessor) (arrivals : List Arrival) :
    (Rustflow.sflow outside.etherparse).produced self (arrivals.map .ok) =
      (((Decoder.sflow self).decodeAll outside arrivals).flatMap Decoded.flows).map .ok := by
  induction arrivals generalizing self with
  | nil => rfl
  | cons arrival arrivals ih =>
    rw [List.map_cons, Processor.produced, process_eq_decode _ outside.sflowJson]
    dsimp only
    rw [ih, Decoder.decodeAll, List.flatMap_cons, List.map_append]
    rfl

/-- Without errors in it, a file amounts to its datagrams. -/
theorem outcomes_eq (slicing : Slicing) {frames : List (Except String CapturedFrame)}
    (whole : ∀ frame ∈ frames, ∃ captured, frame = .ok captured) :
    slicing.outcomes frames = (Slicing.datagrams slicing frames).map .ok := by
  induction frames with
  | nil => rfl
  | cons frame frames ih =>
    have ih := ih fun frame mem => whole frame (List.mem_cons_of_mem _ mem)
    obtain ⟨captured, rfl⟩ := whole frame List.mem_cons_self
    cases inside : slicing.arrival captured with
    | none =>
      have none : slicing.outcomes (.ok captured :: frames) = slicing.outcomes frames := by
        simp [Rustflow.Slicing.outcomes, inside]
      rw [none, ih, Slicing.datagrams, inside]
    | some arrival =>
      have one :
          slicing.outcomes (.ok captured :: frames) = .ok arrival :: slicing.outcomes frames := by
        simp [Rustflow.Slicing.outcomes, inside]
      rw [one, ih, Slicing.datagrams, inside]
      rfl

theorem calls_next {P K : Type} (processor : Processor P K) (slicing : Slicing) (self : P)
    (frames : List (Except String CapturedFrame)) {n : Nat}
    (enough : (processor.produced self (slicing.outcomes frames)).length ≤ n) :
    (Expansion.calls (PcapReader.next processor slicing) n
      { state := self, queue := [], inputs := frames }).1 =
      processor.produced self (slicing.outcomes frames) :=
  (((PcapReader.takesFirst_next processor slicing).calls n _).1).trans
    (List.take_of_length_le enough)

theorem readFile_eq (outside : Outside) (slicing : Slicing)
    {frames : List (Except String CapturedFrame)}
    (whole : ∀ frame ∈ frames, ∃ captured, frame = .ok captured) (self : Decoder) :
    ∃ enough, ∀ n ≥ enough, self.readFile outside slicing frames n =
      ((self.decodeAll outside (Slicing.datagrams slicing frames)).flatMap Decoded.flows).map
        .ok := by
  refine ⟨((self.decodeAll outside (Slicing.datagrams slicing frames)).flatMap
    Decoded.flows).length, fun n enough => ?_⟩
  cases self with
  | netflow self =>
    have same :=
      (congrArg _ (outcomes_eq slicing whole)).trans
        (produced_netflow outside self (Slicing.datagrams slicing frames))
    exact (calls_next _ slicing self frames (by rw [same, List.length_map]; exact enough)).trans
      same
  | sflow self =>
    have same :=
      (congrArg _ (outcomes_eq slicing whole)).trans
        (produced_sflow outside self (Slicing.datagrams slicing frames))
    exact (calls_next _ slicing self frames (by rw [same, List.length_map]; exact enough)).trans
      same

/-- What is pushed by one thread is what its datagrams came to. -/
theorem flows_of_pushed (heard : List (Nat × Heard)) (id : Nat) :
    (ofSender id (heard.filterMap fun h => (h.2.decoded.pushed .common).map (h.1, ·))).flatMap
      Pushed.flowList =
      ((ofSender id heard).map Heard.decoded).flatMap Decoded.flows := by
  induction heard with
  | nil => rfl
  | cons h heard ih =>
    obtain ⟨sender, family, arrival, now, decoded⟩ := h
    have here : ofSender id ((sender, (⟨family, arrival, now, decoded⟩ : Heard)) :: heard) =
        (if sender = id then [⟨family, arrival, now, decoded⟩] else []) ++ ofSender id heard := by
      by_cases same : sender = id <;> simp [ofSender, same]
    rw [here, List.map_append, List.flatMap_append, ← ih]
    cases decoded with
    | packet version flowCount flows json =>
      by_cases same : sender = id <;> simp [ofSender, same, Decoded.pushed, Decoded.flows,
        Pushed.flowList]
    | _ => by_cases same : sender = id <;> simp [same, Decoded.pushed, Decoded.flows]

/-- In every run, with whatever threads beside it: once the encoder has ended, it has received from
a thread that read an undamaged capture file, and was not told to end early, exactly the flows that
the library's reader returns from that file, in order; and it has handed its sink what it
received. -/
theorem file_is_collected {X : Type} (outside : Outside) (format : OutputFormat) (discard : Bool)
    (now : Instant) (actions : List (IngestAction X)) (s : Ingest X)
    (ran : (Ingest.new format discard now).run outside actions = some s)
    (ended : s.pipeline.ended = true) (common : s.format = .common) (id : Nat) (thread : Thread)
    (found : s.threads.lookup id = some thread) (calm : thread.toldToEnd = false)
    (slicing : Slicing) (frames : List (Except String CapturedFrame))
    (file : thread.startedSource = .pcap slicing frames)
    (whole : ∀ frame ∈ frames, ∃ captured, frame = .ok captured) :
    (∃ enough, ∀ n ≥ enough, thread.startedDecoder.readFile outside slicing frames n =
      ((ofSender id s.pipeline.received).flatMap Chunk.flowList).map .ok) ∧
    s.pipeline.encoder.sink.filterMap SinkCall.written =
      s.pipeline.received.flatMap (·.2.flowList) := by
  have accounted :=
    Ingest.run_keeps (fun accounted taken => accounted.step taken)
      (Ingest.accounted_new format discard now) ran
  have conserved : System.Conserved discard s.pipeline :=
    Ingest.run_keeps (fun conserved taken => Ingest.conserved_step conserved taken)
      (System.conserved_new discard now) ran
  have sourced :=
    Ingest.run_keeps (fun sourced taken => sourced.step taken)
      (Ingest.sourced_new format discard now) ran
  refine ⟨?_, conserved.handed.flows⟩
  have gone : s.pipeline.status id = some true := by
    have present := sourced.producers id
    rw [found] at present
    obtain ⟨sender, there⟩ := Option.isSome_iff_exists.mp (Option.isSome_map ▸ present.symm)
    have spent := (conserved.ended ended).2 id sender there
    simp only [Sender.gone, Bool.and_eq_true] at spent
    rw [System.status, there, Option.map_some, spent.1.1]
  have read := sourced.ended id thread found gone calm slicing frames file
  obtain ⟨enough, same⟩ := readFile_eq outside slicing whole thread.startedDecoder
  refine ⟨enough, fun n large => ?_⟩
  rw [same n large, conserved.flowsOf ended, accounted.pushed, common, flows_of_pushed, read]

theorem fileAndSocket_collected : ∃ (s : Ingest Unit) (thread : Thread),
    (Ingest.new .common false 0).run plainOutside fileAndSocket = some s ∧
      ((ofSender 0 s.pipeline.received).flatMap Chunk.flowList).map CommonFlow.proto =
        [some 6, some 17, some 1] ∧
      ∃ enough, ∀ n ≥ enough, thread.startedDecoder.readFile plainOutside rawIp v5File n =
        ((ofSender 0 s.pipeline.received).flatMap Chunk.flowList).map .ok := by
  obtain ⟨s, ran, ended, common, thread, found, calm, file, protos⟩ := fileAndSocket_ends
  have whole : ∀ frame ∈ v5File, ∃ captured, frame = .ok captured := by
    intro frame mem
    obtain same | same := List.mem_pair.mp mem
    · exact ⟨_, same⟩
    · exact ⟨_, same⟩
  exact ⟨s, thread, ran, protos,
    (file_is_collected plainOutside .common false 0 fileAndSocket s ran ended common 0 thread
    found calm rawIp v5File file whole).1⟩

end Rustflow.Collect
