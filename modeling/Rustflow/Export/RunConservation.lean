import Rustflow.Export.ExporterRuns
import Rustflow.Export.FlowConservation
import Rustflow.Export.MeterSampling
import Rustflow.Export.RoundTrip
import Rustflow.Export.Run

/-!
# What is captured is exported

A run of the exporter calls the meter and passes what is drained on to be sent. Once it has shut
down, the records of the messages tried account for every frame that was metered, whichever messages
were lost.
-/

namespace Rustflow.Export
open Ipfix Thinning

/-! ### Records of messages -/

/-- The flow and packet records of a message. -/
def dataOf (packet : IpfixPacket) : List (UInt16 × Ipfix.DataRecord) :=
  packet.sets.flatMap fun set => set.records.filterMap fun
    | .data record => some (set.id, record)
    | _ => none

def Call.records? : Call → Option Records
  | .sendTemplates | .sendOptionsData => none
  | .send records => some records

def Call.toList (call : Call) : List (UInt16 × Ipfix.DataRecord) :=
  call.records?.elim [] Records.toList

section
variable {E : Type} (env : Surroundings E)

def exportedIn (journal : List (Attempt E)) : List (UInt16 × Ipfix.DataRecord) :=
  journal.flatMap fun attempt => dataOf attempt.packet

theorem exportedIn_append (journal more : List (Attempt E)) :
    exportedIn (journal ++ more) = exportedIn journal ++ exportedIn more :=
  List.flatMap_append

theorem held_same {records held : List (UInt16 × Ipfix.DataRecord)}
    (mem : held ∈ greedy joins [] records) :
    ∀ r ∈ held, r.1 = heldId held := by
  refine (greedy_forall joins [] (P := fun held => ∀ r ∈ held, r.1 = heldId held) ?_ ?_
    (fun filled => absurd rfl filled) held mem).2
  · intro r _ r' mem
    cases List.mem_singleton.mp mem
    rfl
  · intro held _ same r _ joined r' mem
    rw [heldId_snoc]
    rcases List.mem_append.mp mem with before | last
    · exact (same r' before).trans (of_decide_eq_true joined).2.symm
    · rw [List.mem_singleton.mp last]

theorem dataOf_held {packet : IpfixPacket} {held : List (UInt16 × Ipfix.DataRecord)}
    (same : ∀ r ∈ held, r.1 = heldId held)
    (sets : packet.sets = [⟨heldId held, 0, held.map fun r => .data r.2⟩]) :
    dataOf packet = held := by
  unfold dataOf
  rw [sets, List.flatMap_singleton, List.filterMap_map]
  refine (List.filterMap_congr (g := some) fun r mem => ?_).trans List.filterMap_some
  show some (heldId held, r.2) = some r
  rw [← same r mem]

theorem exportedIn_send {w : World E} (numbered : Numbered w) (records : Records) :
    exportedIn (send env records w).2.journal = exportedIn w.journal ++ records.toList := by
  obtain ⟨attempts, journal, sets, -, -⟩ :=
    foldl_sendHeld env (greedy joins [] records.toList) (.ok ()) w numbered
  rw [send_eq, sendRecords_eq, journal, exportedIn_append, List.append_cancel_left_eq]
  have each : ∀ {attempts : List (Attempt E)} {bins : List (List (UInt16 × Ipfix.DataRecord))},
      (∀ held ∈ bins, ∀ r ∈ held, r.1 = heldId held) →
      attempts.map (·.packet.sets) =
        bins.map (fun held => [⟨heldId held, 0, held.map fun r => .data r.2⟩]) →
      exportedIn attempts = bins.flatten := by
    intro attempts bins same sets
    induction bins generalizing attempts with
    | nil =>
      obtain rfl := List.map_eq_nil_iff.mp sets
      rfl
    | cons held bins ih =>
      obtain ⟨attempt, attempts, rfl, here, others⟩ := List.map_eq_cons_iff.mp sets
      obtain ⟨now, later⟩ := List.forall_mem_cons.mp same
      rw [exportedIn, List.flatMap_cons, dataOf_held now here, List.flatten_cons]
      exact congrArg (held ++ ·) (ih later others)
  rw [each (fun held mem => held_same mem) sets, greedy_flatten, List.nil_append]

theorem exportedIn_call {w : World E} (numbered : Numbered w) (call : Call) :
    exportedIn (w.call env call).journal = exportedIn w.journal ++ call.toList := by
  cases call with
  | sendTemplates =>
    obtain ⟨attempt, tried, -, -⟩ := sendTemplates_spec env w
    have none : dataOf attempt.packet = [] := by
      unfold dataOf
      rw [tried.sets]
      simp [templateSets]
    rw [World.call, tried.journal, exportedIn_append, exportedIn, exportedIn,
      List.flatMap_singleton, none]
    rfl
  | sendOptionsData =>
    obtain ⟨attempt, tried, -, -⟩ :=
      sendData_spec env OPTIONS_TEMPLATE_ID [.optionsData (OptionsData.mk
      w.exporter.observationDomainId w.exporter.sampling).toDataRecord] w
    have none : dataOf attempt.packet = [] := by
      unfold dataOf
      rw [tried.sets]
      rfl
    rw [World.call, sendOptionsData, tried.journal, exportedIn_append, exportedIn, exportedIn,
      List.flatMap_singleton, none]
    rfl
  | send records => exact exportedIn_send env numbered records

theorem toList_records (calls : List Call) :
    (calls.filterMap Call.records?).flatMap Records.toList = calls.flatMap Call.toList := by
  induction calls with
  | nil => rfl
  | cons call calls ih =>
    rw [List.flatMap_cons, ← ih]
    cases call <;> rfl

theorem exportedIn_run {w : World E} (numbered : Numbered w) (calls : List Call) :
    exportedIn (w.run env calls).journal = exportedIn w.journal ++ calls.flatMap Call.toList := by
  induction calls generalizing w with
  | nil => exact (List.append_nil _).symm
  | cons call calls ih =>
    have one := numbered_run env [call] w numbered
    rw [List.flatMap_cons, ← List.append_assoc, ← exportedIn_call env numbered call]
    exact ih one

end

/-! ### What a run of the meter returns -/

def Output.mode : Output → Mode
  | .flows _ => .flow
  | .packets .. => .packet

def Records.mode : Records → Mode
  | .flows _ => .flow
  | .packets _ => .packet

/-- Flows in the order they are sent in. -/
def Records.sentFlows : Records → List Flow
  | .flows all => ipv4First all
  | .packets _ => []

/-- Nothing is left to export. -/
def Output.Drained : Output → Prop
  | .flows cache => cache.flows = ∅ ∧ cache.evicted = []
  | .packets _ pending => pending = []

def Update.toPacket (key : FlowKey) (u : Update) : PacketInfo × DateTime :=
  (⟨key, u.packetSize, u.tcpFlags⟩, u.seen.time)

/-- The packets of a flow among frames, with their times. -/
def packetsIn (etherparse : Etherparse) (link : Link) (key : FlowKey) (frames : List Frame) :
    List (PacketInfo × DateTime) :=
  (frames.filterMap fun frame => (parse etherparse link frame.data).map fun packet =>
    (packet, frame.time)).filter
    fun packet => packet.1.flowKey = key

theorem filter_ipv4First (flows : List Flow) (key : FlowKey) :
    (ipv4First flows).filter (·.key = key) = flows.filter (·.key = key) := by
  obtain ⟨ipv4, version⟩ : ∃ ipv4, ∀ flow : Flow, flow.key = key →
    (toFlowData flow).isIpv4 = ipv4 := by
    refine ⟨(toFlowData (.new key ⟨⟨0⟩, 0⟩)).isIpv4, ?_⟩
    rintro flow rfl
    rfl
  have each : ∀ flow : Flow, (decide (flow.key = key) && (toFlowData flow).isIpv4) =
      (decide (flow.key = key) && ipv4) := by
    intro flow
    by_cases same : flow.key = key <;> simp [same, version]
  have others : ∀ flow : Flow, (decide (flow.key = key) && !(toFlowData flow).isIpv4) =
      (decide (flow.key = key) && !ipv4) := by
    intro flow
    by_cases same : flow.key = key <;> simp [same, version]
  unfold ipv4First
  simp only [List.filter_append, List.filter_filter, each, others]
  cases ipv4 <;> simp

namespace Meter
variable {etherparse : Etherparse} {self meter : Meter} {records : List Records}

theorem run_append {calls : List (IterationOrder Flow × Instant × Call)}
    (ran : self.run etherparse calls = some (meter, records))
    (more : List (IterationOrder Flow × Instant × Call)) :
    self.run etherparse (calls ++ more) = (meter.run etherparse more).map fun r =>
      (r.1, records ++ r.2) := by
  induction calls generalizing self records with
  | nil =>
    cases ran
    simp
  | cons call calls ih =>
    obtain ⟨⟨next, first⟩, called, rest⟩ := Option.bind_eq_some_iff.mp ran
    obtain ⟨⟨last, later⟩, following, same⟩ := Option.bind_eq_some_iff.mp rest
    cases same
    rw [List.cons_append, run, called, Option.bind_eq_bind, Option.bind_some]
    dsimp only
    rw [ih following]
    cases meter.run etherparse more <;> simp

/-- No call panics, in either mode. -/
theorem run_isSome (etherparse : Etherparse) {args : ExportArgs}
    (interval : 1 ≤ args.samplingPacketInterval) (room : 1 ≤ args.maxFlows) (link : Link)
    (localPort : UInt16) (collector : SocketAddr)
    (calls : List (IterationOrder Flow × Instant × Call)) :
    ((Meter.new args link localPort collector).run etherparse calls).isSome := by
  have counts :
      (Meter.new args link localPort collector).sampler.Counts
        args.samplingPacketInterval.toNat 0 :=
    Sampler.counts_new interval
  have positive : 0 < args.samplingPacketInterval.toNat := UInt32.le_iff_toNat_le.mp interval
  cases mode : args.mode with
  | packet =>
    have output :
        (Meter.new args link localPort collector).output = .packets args.clipLength.toNat [] := by
      simp only [Meter.new, mode]
    obtain ⟨meter, records, _, ran, -⟩ :=
      @run_packets etherparse _ _ _ _ positive calls _ counts output
    rw [ran]
    rfl
  | flow =>
    have output : (Meter.new args link localPort collector).output =
        .flows (.new args.activeTimeout args.inactiveTimeout args.maxFlows) := by
      simp only [Meter.new, mode]
    have ran := congrArg Option.isSome (@run_flows etherparse _ _ _ positive calls _ counts output)
    obtain ⟨cache, flows, cacheRan, -⟩ :=
      (FlowCache.balanced_new args.activeTimeout args.inactiveTimeout args.maxFlows).run room
      ((sampled args.samplingPacketInterval.toNat 0 calls).filterMap
        ((Meter.new args link localPort collector).cacheCall etherparse))
    rw [cacheRan, Option.isSome_map, Option.isSome_map] at ran
    exact ran

/-- The records of a run are all of one kind. -/
theorem call_mode {call : IterationOrder Flow × Instant × Call}
    (called : self.call etherparse call = some (meter, records)) :
    meter.output.mode = self.output.mode ∧ ∀ r ∈ records, r.mode = self.output.mode := by
  obtain ⟨order, now, call⟩ := call
  cases call with
  | observe frame =>
    obtain ⟨next, observed, same⟩ := Option.map_eq_some_iff.mp called
    cases same
    refine ⟨?_, fun r mem => absurd mem List.not_mem_nil⟩
    unfold observe at observed
    dsimp only at observed
    split at observed
    · cases observed
      rfl
    · split at observed
      · cases observed
        rfl
      · split at observed
        · next cache output =>
          split at observed
          · obtain ⟨cache', -, same⟩ := Option.bind_eq_some_iff.mp observed
            cases same
            rw [output]
            rfl
          · cases observed
            rfl
        · next clipLength pending output =>
          cases observed
          rw [output]
          rfl
  | takeDue | takeAll =>
    cases output : self.output <;>
      · simp only [Meter.call, takeDue, takeAll, output] at called
        cases called
        exact ⟨rfl, fun r mem => by rw [List.mem_singleton.mp mem]; rfl⟩

theorem run_mode {calls : List (IterationOrder Flow × Instant × Call)}
    (ran : self.run etherparse calls = some (meter, records)) :
    ∀ r ∈ records, r.mode = self.output.mode := by
  induction calls generalizing self records with
  | nil =>
    cases ran
    exact fun r mem => absurd mem List.not_mem_nil
  | cons call calls ih =>
    obtain ⟨⟨next, first⟩, called, rest⟩ := Option.bind_eq_some_iff.mp ran
    obtain ⟨⟨last, later⟩, following, same⟩ := Option.bind_eq_some_iff.mp rest
    cases same
    obtain ⟨kept, here⟩ := call_mode called
    intro r mem
    rcases List.mem_append.mp mem with now | after
    · exact here r now
    · exact (ih following r after).trans kept

theorem drained_takeAll (self : Meter) (order : IterationOrder Flow) :
    (self.takeAll order).1.output.Drained := by
  unfold takeAll
  cases self.output with
  | flows cache => exact ⟨rfl, rfl⟩
  | packets clipLength pending => rfl

theorem toList_packets (packets : ∀ r ∈ records, r.mode = .packet) :
    records.flatMap Records.toList = packetRecords (packetsOf records) := by
  induction records with
  | nil => rfl
  | cons r records ih =>
    obtain ⟨here, others⟩ := List.forall_mem_cons.mp packets
    cases r with
    | flows _ => cases here
    | packets all =>
      rw [List.flatMap_cons, ih others]
      exact (List.map_append ..).symm

theorem toList_flows (flows : ∀ r ∈ records, r.mode = .flow) : records.flatMap Records.toList =
    (records.flatMap Records.sentFlows).map (fun flow =>
      ((toFlowData flow).templateId, (toFlowData flow).toDataRecord)) := by
  induction records with
  | nil => rfl
  | cons r records ih =>
    obtain ⟨here, others⟩ := List.forall_mem_cons.mp flows
    cases r with
    | packets _ => cases here
    | flows all =>
      rw [List.flatMap_cons, List.flatMap_cons, List.map_append, ← ih others, Records.sentFlows,
        ← flowRecords_eq]
      rfl

/-- The flows of each batch are regrouped, but those of one key stay in order. -/
theorem filter_sentFlows (records : List Records) (key : FlowKey) :
    (records.flatMap Records.sentFlows).filter (·.key = key) =
      (flowsOf records).filter (·.key = key) := by
  induction records with
  | nil => rfl
  | cons r records ih =>
    cases r with
    | packets _ => exact ih
    | flows all =>
      rw [List.flatMap_cons, List.filter_append, ih, Records.sentFlows, filter_ipv4First]
      exact (List.filter_append ..).symm

theorem updatesOf_key (key : FlowKey) (calls : List (IterationOrder Flow × FlowCache.Call)) :
    (FlowCache.updatesOf key calls).map (Update.toPacket key) =
      (updatesOf calls).filter fun packet => packet.1.flowKey = key := by
  unfold FlowCache.updatesOf updatesOf
  rw [List.map_filterMap, List.filter_filterMap]
  refine List.filterMap_congr fun call _ => ?_
  obtain ⟨order, call⟩ := call
  cases call with
  | updateFlow flowKey packetSize tcpFlags seen =>
    by_cases same : flowKey = key
    · subst same
      simp [Update.toPacket, Option.filter_some]
    · simp [Option.filter_some, same]
  | checkExpiredFlows | exportAll => rfl

/-! ### A drained meter -/

section
variable (etherparse : Etherparse) (args : ExportArgs) (link : Link) (localPort : UInt16)
  (collector : SocketAddr)

/-- The frames that are metered: one in so many, but none of the exporter's own. -/
def metered (frames : List Frame) : List Frame :=
  (everyNth args.samplingPacketInterval.toNat 0 frames).filter
    fun frame => !(Meter.new args link localPort collector).isOwn etherparse frame

variable {etherparse args link localPort collector}
  {calls : List (IterationOrder Flow × Instant × Call)}

theorem exported_packets (interval : 1 ≤ args.samplingPacketInterval) (mode : args.mode = .packet)
    (ran : (Meter.new args link localPort collector).run etherparse calls = some (meter, records))
    (drained : meter.output.Drained) :
    records.flatMap Records.toList =
      packetRecords ((metered etherparse args link localPort collector (framesOf calls)).map
        ((Meter.new args link localPort collector).clipped args.clipLength.toNat)) := by
  have output :
      (Meter.new args link localPort collector).output = .packets args.clipLength.toNat [] := by
    simp only [Meter.new, mode]
  obtain ⟨_, _, pending, ran', left, kept⟩ :=
    @run_packets etherparse _ _ _ _ (UInt32.le_iff_toNat_le.mp interval) calls
      _ (Sampler.counts_new interval) output
  cases ran.symm.trans ran'
  rw [left] at drained
  obtain rfl : pending = [] := drained
  rw [List.append_nil, List.nil_append] at kept
  have packets : ∀ r ∈ records, r.mode = .packet := by
    have modes := run_mode ran
    rwa [output] at modes
  rw [toList_packets packets, kept]
  rfl

theorem mode_records (mode : args.mode = .flow)
    (ran : (Meter.new args link localPort collector).run etherparse calls = some (meter, records)) :
    ∀ r ∈ records, r.mode = .flow := by
  have modes := run_mode ran
  rw [Meter.new, mode] at modes
  exact modes

theorem exported_flows (interval : 1 ≤ args.samplingPacketInterval) (room : 1 ≤ args.maxFlows)
    (mode : args.mode = .flow)
    (ran : (Meter.new args link localPort collector).run etherparse calls = some (meter, records))
    (drained : meter.output.Drained) :
    ∀ key, ∃ updates,
      updates.map (Update.toPacket key) =
        packetsIn etherparse link key (metered etherparse args link localPort collector
          (framesOf calls)) ∧
      Accounts key updates ((records.flatMap Records.sentFlows).filter (·.key = key)) none := by
  have output : (Meter.new args link localPort collector).output =
      .flows (.new args.activeTimeout args.inactiveTimeout args.maxFlows) := by
    simp only [Meter.new, mode]
  refine fun key =>
    ⟨FlowCache.updatesOf key ((sampled args.samplingPacketInterval.toNat 0 calls).filterMap
    ((Meter.new args link localPort collector).cacheCall etherparse)), ?_, ?_⟩
  · rw [updatesOf_key, updatesOf_cacheCall, framesOf_sampled]
    rfl
  · obtain ⟨cache, returned, cacheRan, balanced⟩ :=
      (FlowCache.balanced_new args.activeTimeout args.inactiveTimeout args.maxFlows).run room
        ((sampled args.samplingPacketInterval.toNat 0 calls).filterMap
          ((Meter.new args link localPort collector).cacheCall etherparse))
    have through :=
      @run_flows etherparse _ _ _ (UInt32.le_iff_toNat_le.mp interval) calls
        _ (Sampler.counts_new interval) output
    rw [ran, cacheRan, Option.map_some, Option.map_some, Option.some.injEq,
      Prod.mk.injEq] at through
    obtain ⟨here, whole⟩ : meter.output.cache? = some cache ∧ flowsOf records = returned := through
    have accounts := balanced.accounts key
    rw [List.nil_append, List.nil_append] at accounts
    cases left : meter.output with
    | packets clipLength pending =>
      rw [left] at here
      cases here
    | flows cache' =>
      rw [left] at here drained
      obtain rfl : cache' = cache := Option.some.inj here
      obtain ⟨empty, none⟩ := drained
      rw [empty, none, List.append_nil, ← whole, ← filter_sentFlows] at accounts
      exact accounts

end

end Meter

/-- What a run has done so far: some calls of the meter, and of the exporter with the records that
these returned. -/
structure Traced {E : Type} (etherparse : Etherparse) (env : Surroundings E) (meter : Meter)
    (world : World E) (frames : List Frame) (meter' : Meter) (world' : World E) : Prop where
  calls : ∃ metering records exporting, meter.run etherparse metering = some (meter', records) ∧
    Meter.framesOf metering = frames ∧
    world' = world.run env exporting ∧ exporting.filterMap Call.records? = records

namespace Traced
variable {E : Type} {etherparse : Etherparse} {env : Surroundings E} {meter meter' : Meter}
  {world world' : World E}
  {frames : List Frame}

theorem start (etherparse : Etherparse) (env : Surroundings E) (meter : Meter) (world : World E)
    (calls : List Call) (silent : calls.filterMap Call.records? = []) :
    Traced etherparse env meter world [] meter (world.run env calls) :=
  ⟨[], [], calls, rfl, rfl, rfl, silent⟩

theorem meter_call (traced : Traced etherparse env meter world frames meter' world')
    {call : IterationOrder Flow × Instant × Meter.Call} {next : Meter}
    (called : meter'.call etherparse call = some (next, [])) :
    Traced etherparse env meter world (frames ++ call.2.2.frame?.toList) next world' := by
  obtain ⟨metering, records, exporting, ran, observed, same, sent⟩ := traced
  refine ⟨metering ++ [call], records, exporting, ?_, ?_, same, sent⟩
  · rw [Meter.run_append ran]
    simp [Meter.run, called]
  · rw [Meter.framesOf, List.filterMap_append, ← Meter.framesOf, observed]
    cases given : call.2.2.frame? <;> simp [given]

/-- The records of a call are sent. -/
theorem drain (traced : Traced etherparse env meter world frames meter' world')
    {call : IterationOrder Flow × Instant × Meter.Call} (silent : call.2.2.frame? = none)
    {next : Meter} {drained : Records}
    (called : meter'.call etherparse call = some (next, [drained])) :
    Traced etherparse env meter world frames next (send env drained world').2 := by
  obtain ⟨metering, records, exporting, ran, observed, rfl, sent⟩ := traced
  refine ⟨metering ++ [call], records ++ [drained], exporting ++ [.send drained], ?_, ?_, ?_, ?_⟩
  · rw [Meter.run_append ran]
    simp [Meter.run, called]
  · rw [Meter.framesOf, List.filterMap_append, ← Meter.framesOf, observed]
    simp [silent]
  · rw [World.run, World.run, List.foldl_append]
    rfl
  · rw [List.filterMap_append, sent]
    rfl

theorem export_calls (traced : Traced etherparse env meter world frames meter' world')
    (calls : List Call) (silent : calls.filterMap Call.records? = []) :
    Traced etherparse env meter world frames meter' (world'.run env calls) := by
  obtain ⟨metering, records, exporting, ran, observed, rfl, sent⟩ := traced
  refine ⟨metering, records, exporting ++ calls, ran, observed, ?_, ?_⟩
  · rw [World.run, World.run, World.run, List.foldl_append]
  · rw [List.filterMap_append, silent, List.append_nil, sent]

theorem observe (traced : Traced etherparse env meter world frames meter' world')
    (total : ∀ calls, (meter.run etherparse calls).isSome) (order : IterationOrder Flow)
    (now : Instant) (frame : Frame) :
    ∃ next, meter'.observe etherparse order now frame = some next ∧
      Traced etherparse env meter world (frames ++ [frame]) next world' := by
  cases observed : meter'.observe etherparse order now frame with
  | none =>
    obtain ⟨metering, records, -, ran, -⟩ := traced
    have panics := total (metering ++ [(order, now, .observe frame)])
    rw [Meter.run_append ran] at panics
    simp [Meter.run, Meter.call, observed] at panics
  | some next =>
    have called : meter'.call etherparse (order, now, .observe frame) = some (next, []) := by
      rw [Meter.call, observed, Option.map_some]
    exact ⟨next, rfl, traced.meter_call called⟩

/-- What was tried to be sent is what the meter returned. -/
theorem exported (traced : Traced etherparse env meter world frames meter' world')
    (numbered : Numbered world) :
    ∃ metering records, meter.run etherparse metering = some (meter', records) ∧
      Meter.framesOf metering = frames ∧
      exportedIn world'.journal = exportedIn world.journal ++ records.flatMap Records.toList := by
  obtain ⟨metering, records, exporting, ran, observed, rfl, sent⟩ := traced
  refine ⟨metering, records, ran, observed, ?_⟩
  rw [exportedIn_run env numbered, ← sent, toList_records]

end Traced

namespace Running
variable {E : Type} {etherparse : Etherparse} {env : Surroundings E} {meter : Meter}
  {world : World E} {frames : List Frame}
  {self : Running E}

theorem traced_sendDue (traced : Traced etherparse env meter world frames self.meter self.world)
    (round : Round) :
    Traced etherparse env meter world frames (self.sendDue env round).meter
      (self.sendDue env round).world :=
  @Traced.drain _ _ _ _ _ _ _ _ traced (round.drainOrder, round.drained, .takeDue) rfl _ _ rfl

theorem run_descriptions (env : Surroundings E) (w : World E) :
    w.run env [.sendTemplates, .sendOptionsData] =
      (sendOptionsData env (sendTemplates env w).2).2 := rfl

theorem traced_refresh (traced : Traced etherparse env meter world frames self.meter self.world)
    (templateRefreshRate : Nat) (round : Round) :
    Traced etherparse env meter world frames (self.refresh env templateRefreshRate round).meter
        (self.refresh env templateRefreshRate round).world := by
  unfold refresh
  split
  · cases result : sendTemplates env self.world with
    | mk outcome world' =>
      cases outcome with
      | error e =>
        have tried := traced.export_calls [.sendTemplates] rfl
        have same : self.world.run env [.sendTemplates] = (sendTemplates env self.world).2 := rfl
        rwa [same, result] at tried
      | ok _ =>
        have tried := traced.export_calls [.sendTemplates, .sendOptionsData] rfl
        rwa [run_descriptions, result] at tried
  · exact traced

theorem traced_sendNow (traced : Traced etherparse env meter world frames self.meter self.world)
    (templateRefreshRate : Nat) (round : Round) :
    Traced etherparse env meter world frames (self.sendNow env templateRefreshRate round).meter
        (self.sendNow env templateRefreshRate round).world := by
  have sent : ∀ drained : Bool, Traced etherparse env meter world frames
      (if drained then self.sendDue env round else self).meter (if drained then
        self.sendDue env round else self).world := by
    intro drained
    by_cases full : drained = true
    · rw [if_pos full]
      exact traced_sendDue traced round
    · rw [if_neg full]
      exact traced
  unfold sendNow
  dsimp only
  have sent := sent (self.isTick round || self.meter.isFull)
  generalize (if self.isTick round || self.meter.isFull then self.sendDue env round else self) =
    next at sent ⊢
  by_cases tick : self.isTick round = true
  · rw [if_pos tick, meter_checkedAt, world_checkedAt]
    exact traced_refresh sent templateRefreshRate round
  · rw [if_neg tick]
    exact sent

theorem traced_turn (traced : Traced etherparse env meter world frames self.meter self.world)
    (total : ∀ calls, (meter.run etherparse calls).isSome) (args : RunArgs) (round : Round) :
    ∃ self', self.turn etherparse env args round = some self' ∧
      Traced etherparse env meter world (frames ++ round.frame.toList) self'.meter self'.world := by
  have observed : ∃ next, self.observe etherparse round = some next ∧
      Traced etherparse env meter world (frames ++ round.frame.toList) next.meter next.world := by
    unfold observe
    cases round.frame with
    | none => exact ⟨self, rfl, by simpa using traced⟩
    | some frame =>
      obtain ⟨next, observed, traced⟩ := traced.observe total round.order round.observed frame
      exact ⟨{ self with meter := next }, by dsimp only; rw [observed, Option.map_some], traced⟩
  obtain ⟨next, observed, traced⟩ := observed
  exact ⟨_, (congrArg _ observed).trans (Option.map_some ..),
    traced_sendNow traced args.templateRefreshRate round⟩

theorem traced_run (traced : Traced etherparse env meter world frames self.meter self.world)
    (total : ∀ calls, (meter.run etherparse calls).isSome) (args : RunArgs) (rounds : List Round) :
    ∃ self', self.run etherparse env args rounds = some self' ∧
      Traced etherparse env meter world (frames ++ rounds.filterMap (·.frame)) self'.meter
        self'.world := by
  induction rounds generalizing self frames with
  | nil => exact ⟨self, rfl, by simpa using traced⟩
  | cons round rounds ih =>
    obtain ⟨next, turned, traced⟩ := traced_turn traced total args round
    obtain ⟨last, ran, traced⟩ := ih traced
    refine ⟨last, ?_, ?_⟩
    · rw [run, turned]
      exact ran
    · rw [List.append_assoc] at traced
      cases given : round.frame <;> simpa [given] using traced

theorem traced_start {args : RunArgs} {link : Link} {localPort : UInt16} {collector : SocketAddr}
    {created now : Instant} (started : start env args link localPort collector created now =
      .ok self) :
    Traced etherparse env (.new args.toExportArgs link localPort collector)
      (World.new args.observationDomainId args.mode args.sampling created)
      [] self.meter self.world := by
  unfold start at started
  split at started
  · cases started
  · next world templates =>
    split at started
    · cases started
    · next world' options =>
      cases started
      have tried := Traced.start etherparse env (.new args.toExportArgs link localPort collector)
        (World.new args.observationDomainId args.mode args.sampling created) [.sendTemplates,
          .sendOptionsData] rfl
      rwa [run_descriptions, templates, options] at tried

theorem traced_shutdown (traced : Traced etherparse env meter world frames self.meter self.world)
    (order : IterationOrder Flow) :
    Traced etherparse env meter world frames (self.meter.takeAll order).1
      (self.shutdown env order) :=
  @Traced.drain _ _ _ _ _ _ _ _ traced (order, 0, .takeAll) rfl _ _ rfl

end Running

/-! ### Main result -/

theorem packets_totals {key : FlowKey} {updates : List Update}
    {packets : List (PacketInfo × DateTime)} {ended : List Flow}
    (same : updates.map (Update.toPacket key) = packets)
    (accounts : Accounts key updates ended none) :
    (packets.length < 2 ^ 64 → (ended.map (·.packetCount.toNat)).sum = packets.length) ∧
      ((packets.map (·.1.packetSize.toNat)).sum < 2 ^ 64 →
        (ended.map (·.octetCount.toNat)).sum = (packets.map (·.1.packetSize.toNat)).sum) ∧
      Flow.allFlags (ended.map (·.tcpFlags)) = Flow.allFlags (packets.map (·.1.tcpFlags)) := by
  subst same
  have totals := accounts.totals
  rw [Option.toList_none, List.append_nil] at totals
  rw [List.length_map, List.map_map, List.map_map]
  exact totals

/-- However long it runs, whatever the clocks and whichever messages are lost, the exporter does not
panic, and once it has shut down the messages tried carry, in packet mode, the packets metered,
clipped and in order, and in flow mode flows that account for the packets metered of every key, each
for a stretch of its own. -/
theorem captured_is_exported {E : Type} (etherparse : Etherparse) (env : Surroundings E)
    (args : RunArgs) (link : Link) (localPort : UInt16) (collector : SocketAddr)
    (created now : Instant) (interval : 1 ≤ args.samplingPacketInterval) (room : 1 ≤ args.maxFlows)
    {first : Running E} (started : Running.start env args link localPort collector created now =
      .ok first) (rounds : List Round)
    (order : IterationOrder Flow) :
    let meter := Meter.new args.toExportArgs link localPort collector
    let metered :=
      Meter.metered etherparse args.toExportArgs link localPort collector
        (rounds.filterMap (·.frame))
    ∃ last, first.run etherparse env args rounds = some last ∧
      (args.mode = .packet →
        exportedIn (last.shutdown env order).journal =
          packetRecords (metered.map (meter.clipped args.clipLength.toNat))) ∧
      (args.mode = .flow → ∃ flows : List Flow,
        exportedIn (last.shutdown env order).journal =
          flows.map (fun flow => ((toFlowData flow).templateId, (toFlowData flow).toDataRecord)) ∧
        ∀ key,
          let packets := packetsIn etherparse link key metered
          let ended := flows.filter (·.key = key)
          (∃ updates, updates.map (Update.toPacket key) = packets ∧
            Accounts key updates ended none) ∧
            (packets.length < 2 ^ 64 → (ended.map (·.packetCount.toNat)).sum = packets.length) ∧
            ((packets.map (·.1.packetSize.toNat)).sum < 2 ^ 64 →
              (ended.map (·.octetCount.toNat)).sum = (packets.map (·.1.packetSize.toNat)).sum) ∧
            Flow.allFlags (ended.map (·.tcpFlags)) =
              Flow.allFlags (packets.map (·.1.tcpFlags))) := by
  intro meter metered
  have total := Meter.run_isSome etherparse interval room link localPort collector
  obtain ⟨last, ran, traced⟩ := Running.traced_run (Running.traced_start started) total args rounds
  obtain ⟨metering, records, metering_ran, observed, exported⟩ :=
    (Running.traced_shutdown traced order).exported (numbered_new _ _ _ _)
  have drained := last.meter.drained_takeAll order
  rw [List.nil_append] at observed
  have journal :
      exportedIn (last.shutdown env order).journal = records.flatMap Records.toList := exported
  refine ⟨last, ran, fun mode => ?_, fun mode => ?_⟩
  · rw [journal, Meter.exported_packets interval mode metering_ran drained, observed]
  · have each := Meter.exported_flows interval room mode metering_ran drained
    rw [observed] at each
    refine ⟨records.flatMap Records.sentFlows,
      journal.trans (Meter.toList_flows (Meter.mode_records mode metering_ran)), fun key => ?_⟩
    obtain ⟨updates, packets, accounts⟩ := each key
    exact ⟨⟨updates, packets, accounts⟩, packets_totals packets accounts⟩

/-- The first message after the descriptions is lost. -/
def faulty : Surroundings Unit where
  utcNow _ := ⟨0⟩
  sendTo n _ := if n = 2 then .error () else .ok ()
  now n := n

def secondly (order : IterationOrder Flow) (second : Nat) : Round where
  frame := some (Meter.dnsFrame second)
  order := order
  observed := Duration.fromSecs second
  checked := Duration.fromSecs second
  drainOrder := order
  drained := Duration.fromSecs second
  refreshed := Duration.fromSecs second
  reset := Duration.fromSecs second

/-- Of four frames the first and the third are exported, though the message with the first is
lost. -/
theorem faulty_exports_every_second_frame :
    let order : IterationOrder Flow := ⟨id, fun _ => .refl _⟩
    let args : RunArgs :=
      { Meter.everySecondFrame with observationDomainId := 1, templateRefreshRate := 60 }
    let meter := Meter.new Meter.everySecondFrame .ip 1000 ⟨.v4 0xc6336407, 2055⟩
    ∃ first last, Running.start faulty args .ip 1000 ⟨.v4 0xc6336407, 2055⟩ 0 0 = .ok first ∧
      first.run plainIpv4 faulty args ([0, 1, 2, 3].map (secondly order)) = some last ∧
      exportedIn (last.shutdown faulty order).journal =
        packetRecords ([Meter.dnsFrame 0, Meter.dnsFrame 2].map (meter.clipped 20)) := by
  intro order args meter
  obtain ⟨first, started⟩ : ∃ first, Running.start faulty args .ip 1000 ⟨.v4 0xc6336407, 2055⟩ 0 0 =
    .ok first := ⟨_, rfl⟩
  obtain ⟨last, ran, packets, -⟩ :=
    captured_is_exported plainIpv4 faulty args .ip 1000 ⟨.v4 0xc6336407, 2055⟩ 0 0
    (by decide) (by decide) started ([0, 1, 2, 3].map (secondly order)) order
  have frames : ([0, 1, 2, 3].map (secondly order)).filterMap (·.frame) =
      [0, 1, 2, 3].map Meter.dnsFrame := rfl
  have metered : Meter.metered plainIpv4 Meter.everySecondFrame .ip 1000 ⟨.v4 0xc6336407, 2055⟩
      ([0, 1, 2, 3].map Meter.dnsFrame) = [Meter.dnsFrame 0, Meter.dnsFrame 2] := rfl
  have exported := packets rfl
  rw [frames, metered] at exported
  exact ⟨first, last, started, ran, exported⟩

end Rustflow.Export
