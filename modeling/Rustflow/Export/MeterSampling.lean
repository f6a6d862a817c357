import Rustflow.Common.Peeling
import Rustflow.Export.Meter
import Rustflow.Lib.Thinning

/-!
# One frame in n

The frames that are metered are those at every n-th position, whatever is drained between them. Of
these the exporter's own datagrams are left out.
-/

namespace Rustflow.Export
open Thinning

/-! ### The countdown -/

/-- So many frames of each `n` are left before the next is selected. -/
def Sampler.Counts (n position : Nat) : Sampler → Prop
  | .count interval countdown => interval.toNat = n ∧ countdown.toNat = remaining n position + 1

theorem Sampler.counts_new {interval : UInt32} (positive : 1 ≤ interval) :
    (Sampler.new (.count interval)).Counts interval.toNat 0 := by
  have greater : max interval 1 = interval := by
    change (if interval ≤ 1 then 1 else interval) = interval
    split
    · next low => exact UInt32.le_antisymm positive low
    · rfl
  refine ⟨congrArg UInt32.toNat greater, ?_⟩
  rw [remaining, if_pos (Nat.zero_mod _)]
  rfl

/-- A frame is selected at the multiples of the interval. -/
theorem Sampler.Counts.select {n position : Nat} (positive : 0 < n) {sampler : Sampler}
    (counts : sampler.Counts n position) :
    sampler.select.1 = decide (position % n = 0) ∧ sampler.select.2.Counts n (position + 1) := by
  obtain ⟨interval, countdown⟩ := sampler
  obtain ⟨rfl, left⟩ := counts
  have due := remaining_eq_zero_iff positive position
  have next := remaining_succ positive position
  by_cases more : countdown > 1
  · have selected : (Sampler.count interval countdown).select =
        (false, .count interval (countdown - 1)) := if_pos more
    have later : 1 < countdown.toNat := UInt32.lt_iff_toNat_lt.mp more
    have passed : ¬position % interval.toNat = 0 := fun start => by omega
    have counted : (countdown - 1).toNat = countdown.toNat - 1 :=
      UInt32.toNat_sub_of_le _ _ (UInt32.le_iff_toNat_le.mpr (Nat.le_of_lt later))
    rw [if_neg passed] at next
    rw [selected]
    refine ⟨(decide_eq_false passed).symm, rfl, ?_⟩
    rw [counted]
    omega
  · have selected : (Sampler.count interval countdown).select = (true, .count interval interval) :=
      if_neg more
    have last : ¬1 < countdown.toNat := fun later => more (UInt32.lt_iff_toNat_lt.mpr later)
    have start : position % interval.toNat = 0 := due.mp (by omega)
    rw [if_pos start] at next
    rw [selected]
    refine ⟨(decide_eq_true start).symm, rfl, ?_⟩
    omega

def Output.cache? : Output → Option FlowCache
  | .flows cache => some cache
  | .packets .. => none

namespace Meter

/-! ### What is metered -/

def Call.frame? : Call → Option Frame
  | .observe frame => some frame
  | .takeDue | .takeAll => none

/-- The frames that were observed. -/
def framesOf (calls : List (IterationOrder Flow × Instant × Call)) : List Frame :=
  calls.filterMap fun call => call.2.2.frame?

def packetsOf (records : List Records) : List PacketData :=
  records.flatMap fun
    | .flows _ => []
    | .packets packets => packets

def flowsOf (records : List Records) : List Flow :=
  records.flatMap fun
    | .flows flows => flows
    | .packets _ => []

section
variable (etherparse : Etherparse) (self : Meter)

/-- The frame carries one of the exporter's own datagrams. -/
def isOwn (frame : Frame) : Bool := (parse etherparse self.link frame.data).any self.isExport

def clipped (clipLength : Nat) (frame : Frame) : PacketData where
  link := self.link
  length := frame.length
  sectionBytes := frame.data.take (min clipLength frame.data.length)

/-- What is kept of frames, the first being at a position. -/
def exported (n position clipLength : Nat) (frames : List Frame) : List PacketData :=
  ((everyNth n position frames).filter fun frame => !self.isOwn etherparse frame).map
    (self.clipped clipLength)

theorem exported_cons (n position clipLength : Nat) (frame : Frame) (frames : List Frame) :
    self.exported etherparse n position clipLength (frame :: frames) =
      (if position % n = 0 ∧ ¬self.isOwn etherparse frame then [self.clipped clipLength frame]
        else []) ++
        self.exported etherparse n (position + 1) clipLength frames := by
  unfold exported
  rw [everyNth_cons]
  by_cases due : position % n = 0
  · cases own : self.isOwn etherparse frame <;> simp [due, own]
  · simp [due]

end

variable {etherparse : Etherparse} {self : Meter} {n position clipLength : Nat}

/-- A frame between the positions, or one of the exporter's own, only counts. -/
theorem observe_passed (positive : 0 < n) (counts : self.sampler.Counts n position) {frame : Frame}
    (passed : ¬(position % n = 0 ∧ ¬self.isOwn etherparse frame)) (order : IterationOrder Flow)
    (now : Instant) :
    self.observe etherparse order now frame =
      some { self with sampler := self.sampler.select.2 } := by
  have selected := (counts.select positive).1
  unfold observe
  generalize self.sampler.select = choice at selected ⊢
  obtain ⟨chosen, sampler⟩ := choice
  obtain rfl : chosen = decide (position % n = 0) := selected
  by_cases due : position % n = 0
  · have own : self.isOwn etherparse frame = true := by
      by_contra other
      exact passed ⟨due, other⟩
    simp only [due, decide_true, Bool.not_true, Bool.false_eq_true, if_false]
    exact if_pos own
  · simp only [due, decide_false, Bool.not_false, if_true]

theorem observe_metered (positive : 0 < n) (counts : self.sampler.Counts n position) {frame : Frame}
    (due : position % n = 0) (other : ¬self.isOwn etherparse frame) (order : IterationOrder Flow)
    (now : Instant) :
    self.observe etherparse order now frame =
      match self.output with
      | .flows cache =>
        match parse etherparse self.link frame.data with
        | some packet =>
          (cache.updateFlow order packet.flowKey packet.packetSize packet.tcpFlags
            { time := frame.time, instant := now }).map
            fun cache => { self with sampler := self.sampler.select.2, output := .flows cache }
        | none => some { self with sampler := self.sampler.select.2 }
      | .packets clipLength pending =>
        some { self with
          sampler := self.sampler.select.2
          output := .packets clipLength (pending ++ [self.clipped clipLength frame]) } := by
  have selected := (counts.select positive).1
  unfold observe
  generalize self.sampler.select = choice at selected ⊢
  obtain ⟨chosen, sampler⟩ := choice
  obtain rfl : chosen = decide (position % n = 0) := selected
  simp only [due, decide_true, Bool.not_true, Bool.false_eq_true, if_false]
  refine (if_neg other).trans ?_
  cases self.output with
  | flows cache =>
    cases parse etherparse self.link frame.data with
    | none => rfl
    | some packet =>
      dsimp only
      cases cache.updateFlow order packet.flowKey packet.packetSize packet.tcpFlags
        { time := frame.time, instant := now } <;> rfl
  | packets clipLength pending =>
    dsimp only
    rw [clipped, Nat.min_comm]

theorem run_observe {frame : Frame} {order : IterationOrder Flow} {now : Instant} {meter : Meter}
    (observed : self.observe etherparse order now frame = some meter)
    (calls : List (IterationOrder Flow × Instant × Call)) :
    self.run etherparse ((order, now, .observe frame) :: calls) = meter.run etherparse calls := by
  simp [run, Meter.call, observed]

/-- A drain returns its records first. -/
theorem run_drain {call : IterationOrder Flow × Instant × Call} {meter : Meter} {records : Records}
    (called : self.call etherparse call = some (meter, [records]))
    (calls : List (IterationOrder Flow × Instant × Call)) :
    self.run etherparse (call :: calls) = (meter.run etherparse calls).map fun r =>
      (r.1, records :: r.2) := by
  cases ran : meter.run etherparse calls <;> simp [run, called, ran]

/-! ### Packet mode -/

/-- What was pending, what is pending and what was returned are the packets kept of the frames. -/
theorem run_packets (positive : 0 < n) (calls : List (IterationOrder Flow × Instant × Call))
    {pending : List PacketData} (counts : self.sampler.Counts n position)
    (output : self.output = .packets clipLength pending) :
    ∃ meter records pending', self.run etherparse calls = some (meter, records) ∧
      meter.output = .packets clipLength pending' ∧
      packetsOf records ++ pending' = pending ++ self.exported etherparse n position clipLength
        (framesOf calls) := by
  induction calls generalizing self position pending with
  | nil => exact ⟨self, [], pending, rfl, output, (List.append_nil pending).symm⟩
  | cons call calls ih =>
    obtain ⟨order, now, call⟩ := call
    cases call with
    | observe frame =>
      have frames :
          framesOf ((order, now, .observe frame) :: calls) = frame :: framesOf calls := rfl
      rw [frames, exported_cons]
      by_cases metered : position % n = 0 ∧ ¬self.isOwn etherparse frame
      · obtain ⟨meter, records, pending', ran, left, kept⟩ := @ih
          { self with
            sampler := self.sampler.select.2
            output := .packets clipLength (pending ++ [self.clipped clipLength frame]) }
          (position + 1) _ (counts.select positive).2 rfl
        have observed := observe_metered positive counts metered.1 metered.2 order now
        rw [output] at observed
        refine ⟨meter, records, pending', (run_observe observed calls).trans ran, left, ?_⟩
        rw [if_pos metered, kept, List.append_assoc]
        rfl
      · obtain ⟨meter, records, pending', ran, left, kept⟩ :=
          @ih { self with sampler := self.sampler.select.2 }
          (position + 1) _ (counts.select positive).2 output
        have observed := observe_passed positive counts metered order now
        refine ⟨meter, records, pending', (run_observe observed calls).trans ran, left, ?_⟩
        rw [if_neg metered, kept]
        rfl
    | takeDue | takeAll =>
      -- A drain does not touch the countdown.
      obtain ⟨meter, records, pending', ran, left, kept⟩ :=
        @ih { self with output := .packets clipLength [] } position [] counts rfl
      refine ⟨meter, .packets pending :: records, pending', ?_, left, ?_⟩
      · refine (@run_drain _ _ _ { self with output := .packets clipLength [] }
          (.packets pending) ?_ calls).trans ?_
        · simp only [Meter.call, takeDue, takeAll, output]
        · rw [ran]
          rfl
      · change (pending ++ packetsOf records) ++ pending' = _
        rw [List.append_assoc, kept]
        rfl

/-! ### Flow mode -/

/-- The call of the flow cache that a call makes, unless the frame has no IP layer or is one of the
exporter's own. -/
def cacheCall (etherparse : Etherparse) (self : Meter) :
    IterationOrder Flow × Instant × Call → Option (IterationOrder Flow × FlowCache.Call)
  | (order, now, .observe frame) =>
    (parse etherparse self.link frame.data).bind fun packet =>
      if self.isExport packet then none
      else some (order, .updateFlow packet.flowKey packet.packetSize packet.tcpFlags
        { time := frame.time, instant := now })
  | (order, now, .takeDue) => some (order, .checkExpiredFlows now)
  | (order, _, .takeAll) => some (order, .exportAll)

/-- The calls with the frames that are not selected left out. -/
def sampled (n position : Nat) (calls : List (IterationOrder Flow × Instant × Call)) :
    List (IterationOrder Flow × Instant × Call) :=
  thin (fun call => call.2.2.frame?) n position calls

/-- A selected frame is one call of the cache, or none. -/
theorem observe_flows (positive : 0 < n) (counts : self.sampler.Counts n position)
    (due : position % n = 0) {cache : FlowCache} (output : self.output = .flows cache)
    (order : IterationOrder Flow) (now : Instant) (frame : Frame) :
    self.observe etherparse order now frame =
      match self.cacheCall etherparse (order, now, .observe frame) with
      | some cached => (cache.call cached).map fun r =>
        { self with sampler := self.sampler.select.2, output := .flows r.1 }
      | none => some { self with sampler := self.sampler.select.2 } := by
  by_cases own : self.isOwn etherparse frame
  · rw [observe_passed positive counts (fun both => both.2 own)]
    unfold isOwn at own
    cases parsed : parse etherparse self.link frame.data with
    | none => simp only [cacheCall, parsed, Option.bind_none]
    | some packet =>
      rw [parsed, Option.any_some] at own
      simp only [cacheCall, parsed, Option.bind_some, own, if_true]
  · rw [observe_metered positive counts due own, output]
    unfold isOwn at own
    cases parsed : parse etherparse self.link frame.data with
    | none => simp only [cacheCall, parsed, Option.bind_none]
    | some packet =>
      rw [parsed, Option.any_some] at own
      simp only [cacheCall, parsed, Option.bind_some, if_neg own, FlowCache.call, Option.map_map]
      rfl

theorem cacheCall_observe {order : IterationOrder Flow} {now : Instant} {frame : Frame}
    {cached : IterationOrder Flow × FlowCache.Call}
    (made : self.cacheCall etherparse (order, now, .observe frame) = some cached) :
    ∃ key packetSize tcpFlags seen, cached = (order, .updateFlow key packetSize tcpFlags seen) := by
  obtain ⟨packet, -, made⟩ := Option.bind_eq_some_iff.mp made
  split at made
  · cases made
  · exact ⟨_, _, _, _, (Option.some.inj made).symm⟩

theorem run_flows_step {call : IterationOrder Flow × Instant × Call}
    {calls : List (IterationOrder Flow × Instant × Call)}
    {cached : IterationOrder Flow × FlowCache.Call}
    {cacheCalls : List (IterationOrder Flow × FlowCache.Call)} {meter : Meter}
    {records : List Records} {cache cache' : FlowCache}
    (called : self.call etherparse call = some (meter, records))
    (cacheCalled : cache.call cached = some (cache', flowsOf records))
    (rest : (meter.run etherparse calls).map (fun r => (r.1.output.cache?, flowsOf r.2)) =
      (cache'.run cacheCalls).map fun r => (some r.1, r.2)) :
    (self.run etherparse (call :: calls)).map (fun r => (r.1.output.cache?, flowsOf r.2)) =
      (cache.run (cached :: cacheCalls)).map fun r => (some r.1, r.2) := by
  cases ran : meter.run etherparse calls <;> cases cacheRan : cache'.run cacheCalls <;>
    simp_all [run, FlowCache.run, flowsOf]

/-- The flow cache is called for the sampled frames and for each drain, and what it returns is
returned. -/
theorem run_flows (positive : 0 < n) (calls : List (IterationOrder Flow × Instant × Call))
    {cache : FlowCache} (counts : self.sampler.Counts n position)
    (output : self.output = .flows cache) :
    (self.run etherparse calls).map (fun r => (r.1.output.cache?, flowsOf r.2)) =
      (cache.run ((sampled n position calls).filterMap (self.cacheCall etherparse))).map fun r =>
        (some r.1, r.2) := by
  induction calls generalizing self position cache with
  | nil => simp [run, sampled, thin, FlowCache.run, Output.cache?, output, flowsOf]
  | cons call calls ih =>
    obtain ⟨order, now, call⟩ := call
    cases call with
    | observe frame =>
      have counts' := (counts.select positive).2
      have rest := @ih { self with sampler := self.sampler.select.2 }
        (position + 1) cache counts' output
      by_cases due : position % n = 0
      · have kept : sampled n position ((order, now, .observe frame) :: calls) =
          (order, now, .observe frame) :: sampled n (position + 1) calls := if_pos due
        have observed :=
          @observe_flows etherparse _ _ _ positive counts due _ output order now frame
        rw [kept, List.filterMap_cons]
        cases made : self.cacheCall etherparse (order, now, .observe frame) with
        | none =>
          rw [made] at observed
          rw [run_observe observed]
          exact rest
        | some cached =>
          obtain ⟨key, packetSize, tcpFlags, seen, rfl⟩ := cacheCall_observe made
          rw [made] at observed
          cases updated : cache.updateFlow order key packetSize tcpFlags seen with
          | none =>
            have panicked : cache.call (order, .updateFlow key packetSize tcpFlags seen) =
                none := by
              rw [FlowCache.call, updated, Option.map_none]
            simp only [panicked] at observed
            simp [run, Meter.call, observed, FlowCache.run, panicked]
          | some cache' =>
            have called : cache.call (order, .updateFlow key packetSize tcpFlags seen) = some
                (cache', []) := by
              rw [FlowCache.call, updated, Option.map_some]
            simp only [called] at observed
            have metered : self.call etherparse (order, now, .observe frame) =
                some ({ self with sampler := self.sampler.select.2, output := .flows cache' },
                  []) := by
              rw [Meter.call, observed, Option.map_some, Option.map_some]
            exact run_flows_step metered called
              (@ih { self with sampler := self.sampler.select.2, output := .flows cache' }
                _ _ counts' rfl)
      · have left : sampled n position ((order, now, .observe frame) :: calls) =
            sampled n (position + 1) calls := if_neg due
        rw [left, run_observe (observe_passed positive counts (fun both => due both.1) order now)]
        exact rest
    | takeDue =>
      have called : self.call etherparse (order, now, .takeDue) =
          some ({ self with output := .flows (cache.checkExpiredFlows order now).1 },
            [.flows (cache.checkExpiredFlows order now).2]) := by
        unfold Meter.call takeDue
        rw [output]
      refine run_flows_step called ?_
        (@ih { self with output := .flows (cache.checkExpiredFlows order now).1 } _ _ counts rfl)
      rw [flowsOf, List.flatMap_singleton]
      rfl
    | takeAll =>
      have called : self.call etherparse (order, now, .takeAll) =
          some ({ self with output := .flows (cache.exportAll order).1 },
            [.flows (cache.exportAll order).2]) := by
        unfold Meter.call takeAll
        rw [output]
      refine run_flows_step called ?_
        (@ih { self with output := .flows (cache.exportAll order).1 } _ _ counts rfl)
      rw [flowsOf, List.flatMap_singleton]
      rfl

/-! ### What reaches the flow cache -/

/-- The packets that calls of the cache add, with their times. -/
def updatesOf (calls : List (IterationOrder Flow × FlowCache.Call)) :
    List (PacketInfo × DateTime) :=
  calls.filterMap fun call =>
    match call.2 with
    | .updateFlow flowKey packetSize tcpFlags seen =>
      some ({ flowKey, packetSize, tcpFlags }, seen.time)
    | .checkExpiredFlows _ | .exportAll => none

theorem updatesOf_cacheCall (etherparse : Etherparse) (self : Meter)
    (calls : List (IterationOrder Flow × Instant × Call)) :
    updatesOf (calls.filterMap (self.cacheCall etherparse)) =
      ((framesOf calls).filter fun frame => !self.isOwn etherparse frame).filterMap fun frame =>
        (parse etherparse self.link frame.data).map fun packet => (packet, frame.time) := by
  unfold updatesOf framesOf
  rw [List.filterMap_filterMap, List.filter_filterMap, List.filterMap_filterMap]
  refine List.filterMap_congr fun call _ => ?_
  obtain ⟨order, now, call⟩ := call
  cases call with
  | observe frame =>
    unfold cacheCall isOwn Call.frame?
    cases parsed : parse etherparse self.link frame.data with
    | none => simp [Option.filter_some, parsed]
    | some packet => cases own : self.isExport packet <;> simp [Option.filter_some, parsed, own]
  | takeDue | takeAll => rfl

theorem framesOf_sampled (calls : List (IterationOrder Flow × Instant × Call)) :
    framesOf (sampled n position calls) = everyNth n position (framesOf calls) :=
  filterMap_thin _ position calls

/-- One frame in `n` is metered, from the first on, whatever is drained in between: in packet mode
it is exported clipped, in flow mode it updates the cache. -/
theorem meters_one_in_n (etherparse : Etherparse) (args : ExportArgs) (link : Link)
    (localPort : UInt16) (collector : SocketAddr) (positive : 1 ≤ args.samplingPacketInterval)
    (calls : List (IterationOrder Flow × Instant × Call)) :
    let n := args.samplingPacketInterval.toNat
    let meter := Meter.new args link localPort collector
    let metered := (everyNth n 0 (framesOf calls)).filter fun frame => !meter.isOwn etherparse frame
    (args.mode = .packet → ∃ meter' records pending,
      meter.run etherparse calls = some (meter', records) ∧
        meter'.output = .packets args.clipLength.toNat pending ∧
      packetsOf records ++ pending = metered.map (meter.clipped args.clipLength.toNat)) ∧
    (args.mode = .flow →
      let cacheCalls := (sampled n 0 calls).filterMap (meter.cacheCall etherparse)
      (meter.run etherparse calls).map (fun r => (r.1.output.cache?, flowsOf r.2)) =
        ((FlowCache.new args.activeTimeout args.inactiveTimeout args.maxFlows).run cacheCalls).map
          (fun r => (some r.1, r.2)) ∧
      updatesOf cacheCalls = metered.filterMap fun frame =>
        (parse etherparse link frame.data).map fun packet => (packet, frame.time)) := by
  intro n meter metered
  have counts : meter.sampler.Counts n 0 := Sampler.counts_new positive
  have nonzero : 0 < n := UInt32.le_iff_toNat_le.mp positive
  refine ⟨fun mode => ?_, fun mode => ?_⟩
  · have output : meter.output = .packets args.clipLength.toNat [] := by
      simp only [meter, Meter.new, mode]
    exact run_packets nonzero calls counts output
  · have output :
        meter.output = .flows (.new args.activeTimeout args.inactiveTimeout args.maxFlows) := by
      simp only [meter, Meter.new, mode]
    refine ⟨run_flows nonzero calls counts output, ?_⟩
    rw [updatesOf_cacheCall, framesOf_sampled]
    rfl

/-- A datagram from port 1000 to port 53. -/
def dnsFrame (second : Nat) : Frame where
  data := [0x45, 0, 0, 30, 0, 1, 0, 0, 64, 17, 0x66, 0xcc, 10, 0, 0, 1, 10, 0, 0, 2, 0x03, 0xe8, 0,
    53, 0, 10, 0, 0, 7, 8]
  length := 30
  time := ⟨1000000000 * second⟩

/-- One of the exporter's own datagrams, which it captures as well. -/
def ownFrame (second : Nat) : Frame where
  data := [0x45, 0, 0, 30, 0, 1, 0, 0, 64, 17, 0x66, 0xcc, 10, 0, 0, 1, 198, 51, 100, 7, 0x03, 0xe8,
    0x08, 0x07, 0, 10, 0, 0, 7, 8]
  length := 30
  time := ⟨1000000000 * second⟩

def everySecondFrame : ExportArgs where
  mode := .packet
  clipLength := 20
  activeTimeout := 60
  inactiveTimeout := 15
  maxFlows := 4096
  samplingPacketInterval := 2

def withOwnFrame : List Call :=
  [.observe (dnsFrame 0), .observe (dnsFrame 1), .takeDue, .observe (ownFrame 2),
    .observe (dnsFrame 3), .observe (dnsFrame 4)]

/-- The drain after two frames does not change which ones are selected. The exporter's own datagram
is counted and left out. -/
theorem meters_every_second_frame :
    let calls :=
      withOwnFrame.map fun call => ((⟨id, fun _ => .refl _⟩ : IterationOrder Flow), 0, call)
    let meter := Meter.new everySecondFrame .ip 1000 ⟨.v4 0xc6336407, 2055⟩
    let flows := Meter.new { everySecondFrame with mode := .flow } .ip 1000 ⟨.v4 0xc6336407, 2055⟩
    (∃ meter' records pending, meter.run plainIpv4 calls = some (meter', records) ∧
      meter'.output = .packets 20 pending ∧
      packetsOf records ++ pending = [dnsFrame 0, dnsFrame 4].map (meter.clipped 20)) ∧
    updatesOf ((sampled 2 0 calls).filterMap (flows.cacheCall plainIpv4)) =
      [dnsFrame 0, dnsFrame 4].filterMap fun frame =>
        (parse plainIpv4 .ip frame.data).map fun packet => (packet, frame.time) :=
  ⟨(meters_one_in_n plainIpv4 everySecondFrame .ip 1000 ⟨.v4 0xc6336407, 2055⟩ (by decide) _).1 rfl,
    ((meters_one_in_n plainIpv4 { everySecondFrame with mode := .flow } .ip 1000
      ⟨.v4 0xc6336407, 2055⟩ (by decide)
      _).2 rfl).2⟩

end Meter

end Rustflow.Export
