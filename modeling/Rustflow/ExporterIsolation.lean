import Rustflow.Common.Peeling
import Rustflow.NetflowProcessor

/-!
# Exporters do not interfere

What comes of an exporter's datagrams is what comes of them where they are the only ones, as long as
it is heard from before it is forgotten. Sweeps, which any datagram can set off, are all that is
shared.
-/

namespace Rustflow

/-! ### The order of visit does not matter -/

theorem commonRate_perm {rates rates' : List UInt32} (perm : rates.Perm rates') :
    commonRate rates = commonRate rates' := by
  refine Option.ext fun rate => ?_
  rw [Domain.commonRate_eq_some, Domain.commonRate_eq_some, ← List.length_pos_iff,
    ← List.length_pos_iff, perm.length_eq]
  simp only [perm.mem_iff]

namespace Domain
variable (order order' : IterationOrder UInt32)

theorem setSamplingRate_order (self : Domain) (samplerId : Option UInt64) (rate : UInt32) :
    self.setSamplingRate order samplerId rate = self.setSamplingRate order' samplerId rate := by
  unfold setSamplingRate
  dsimp only
  congr 1
  exact commonRate_perm ((order.perm _).trans (order'.perm _).symm)

theorem readV9_order : readV9 order = readV9 order' := by
  funext self record
  unfold readV9
  cases record <;> simp only [setSamplingRate_order order order']

theorem readIpfix_order : readIpfix order = readIpfix order' := by
  funext self record
  unfold readIpfix
  cases record <;> simp only [setSamplingRate_order order order']

end Domain

namespace Exporter
variable (order order' : IterationOrder UInt32)

theorem parseV9_order (self : Exporter NetflowV9.NetflowV9Parser) (datagram : Datagram) :
    self.parseV9 order datagram = self.parseV9 order' datagram := by
  unfold parseV9
  rw [Domain.readV9_order order order']

theorem parseIpfix_order (self : Exporter Ipfix.IpfixParser) (datagram : Datagram) :
    self.parseIpfix order datagram = self.parseIpfix order' datagram := by
  unfold parseIpfix
  rw [Domain.readIpfix_order order order']

theorem lastSeen_parseV9 (self : Exporter NetflowV9.NetflowV9Parser) (datagram : Datagram) :
    (self.parseV9 order datagram).1.lastSeen = self.lastSeen := by
  unfold parseV9
  split <;> rfl

theorem lastSeen_parseIpfix (self : Exporter Ipfix.IpfixParser) (datagram : Datagram) :
    (self.parseIpfix order datagram).1.lastSeen = self.lastSeen := by
  unfold parseIpfix
  split <;> rfl

end Exporter

/-! ### An exporter on its own -/

/-- What one exporter has left behind for each protocol version. -/
structure Alone where
  v9 : Option (Exporter NetflowV9.NetflowV9Parser) := none
  ipfix : Option (Exporter Ipfix.IpfixParser) := none

namespace Alone
variable (ieRegistry : IERegistry) (timeout : Duration)

/-- A datagram of an exporter that is never forgotten. -/
def parse (order : IterationOrder UInt32) (self : Alone) (datagram : Datagram) :
    Alone × Option NetflowPacket :=
  match version datagram.payload with
  | none => (self, none)
  | some version =>
    if version = NetflowV5.NETFLOW_V5_VERSION then
      (self, (NetflowV5.parse datagram.payload).map fun parsed => .v5 parsed.2)
    else if version = NetflowV9.NETFLOW_V9_VERSION then
      let new := NetflowV9.World.new datagram.made ieRegistry timeout
      let (exporter, parsed) :=
        (Exporters.seen datagram.arrival new.parser self.v9).parseV9 order datagram
      ({ self with v9 := some exporter }, parsed.map .v9)
    else if version = Ipfix.IPFIX_VERSION then
      let new := Ipfix.World.new datagram.made ieRegistry timeout
      let (exporter, parsed) :=
        (Exporters.seen datagram.arrival new.parser self.ipfix).parseIpfix order datagram
      ({ self with ipfix := some exporter }, parsed.map .ipfix)
    else (self, none)

def domain (self : Alone) : NetflowPacket → Option Domain
  | .v5 _ => none
  | .v9 parsed => self.v9.bind fun exporter => exporter.domains.lookup parsed.header.sourceId
  | .ipfix parsed => self.ipfix.bind fun exporter =>
    exporter.domains.lookup parsed.header.observationDomainId

end Alone

/-! ### One datagram -/

section
variable {src : IpAddr} {now : Instant} {alone : Alone} {self : NetflowProcessor}

/-- What an exporter has left behind is there, or has timed out. -/
structure NetflowProcessor.Serves (src : IpAddr) (now : Instant) (alone : Alone)
    (self : NetflowProcessor) : Prop where
  v9 : Sessions.Holds Exporter.lastSeen self.templateTimeout now src alone.v9 self.v9
  ipfix : Sessions.Holds Exporter.lastSeen self.templateTimeout now src alone.ipfix self.ipfix

theorem Exporters.holds_other {P : Type} {session : Option (Exporter P)} {self : Exporters P}
    {src' : IpAddr} {now' : Instant} {timeout : Duration}
    (holds : Sessions.Holds Exporter.lastSeen timeout now src session self) (other : src ≠ src')
    (later : now ≤ now') (new : P) (exporter : Exporter P) :
    Sessions.Holds Exporter.lastSeen timeout now' src session
      ((self.entry src' now' timeout new).2.put src' exporter) :=
  ((holds.sweep later).put_other other _).put_other other _

/-- An exporter that comes back in time finds what it left. -/
theorem Exporters.entry_own {P : Type} {session : Option (Exporter P)} {self : Exporters P}
    {now' : Instant} {timeout : Duration}
    (holds : Sessions.Holds Exporter.lastSeen timeout now src session self) (later : now ≤ now')
    (recent : ∀ left, session = some left → now' - left.lastSeen < timeout) (new : P) :
    (self.entry src now' timeout new).1 = seen now' new session :=
  congrArg (seen now' new) ((holds.sweep later).lookup recent)

theorem NetflowProcessor.Serves.other (serves : self.Serves src now alone) {datagram : Datagram}
    (other : src ≠ datagram.src) (later : now ≤ datagram.arrival) (order : IterationOrder UInt32) :
    (self.parse order datagram).1.Serves src datagram.arrival alone := by
  obtain ⟨v9, ipfix⟩ := serves
  unfold NetflowProcessor.parse
  split
  · exact ⟨v9.later later, ipfix.later later⟩
  · split_ifs
    · exact ⟨v9.later later, ipfix.later later⟩
    · exact ⟨Exporters.holds_other v9 other later _ _, ipfix.later later⟩
    · exact ⟨v9.later later, Exporters.holds_other ipfix other later _ _⟩
    · exact ⟨v9.later later, ipfix.later later⟩

/-- A datagram of the exporter's own has the result it has on its own. -/
theorem NetflowProcessor.Serves.own (serves : self.Serves src now alone) {datagram : Datagram}
    (own : datagram.src = src) (later : now ≤ datagram.arrival)
    (recent9 : version datagram.payload = some NetflowV9.NETFLOW_V9_VERSION →
      ∀ left, alone.v9 = some left → datagram.arrival - left.lastSeen < self.templateTimeout)
    (recentIpfix : version datagram.payload = some Ipfix.IPFIX_VERSION →
      ∀ left, alone.ipfix = some left → datagram.arrival - left.lastSeen < self.templateTimeout)
    (order order' : IterationOrder UInt32) :
    let parsed := self.parse order datagram
    let parsed' := alone.parse self.ieRegistry self.templateTimeout order' datagram
    parsed.1.Serves src datagram.arrival parsed'.1 ∧ parsed.2 = parsed'.2 ∧
      ∀ packet ∈ parsed.2, parsed.1.domain src packet = parsed'.1.domain packet := by
  obtain ⟨v9, ipfix⟩ := serves
  subst own
  intro parsed parsed'
  unfold parsed parsed' NetflowProcessor.parse Alone.parse
  cases named : version datagram.payload with
  | none => exact ⟨⟨v9.later later, ipfix.later later⟩, rfl, fun _ none => nomatch none⟩
  | some version =>
    dsimp only
    split_ifs with is5 is9 isIpfix
    · refine ⟨⟨v9.later later, ipfix.later later⟩, rfl, fun packet mem => ?_⟩
      obtain ⟨_, _, rfl⟩ := Option.map_eq_some_iff.mp mem
      rfl
    · subst is9
      rw [Exporters.entry_own v9 later (recent9 named), Exporter.parseV9_order order order']
      refine ⟨⟨Sessions.holds_put _ _ _, ipfix.later later⟩, rfl, fun packet mem => ?_⟩
      obtain ⟨packet, _, rfl⟩ := Option.map_eq_some_iff.mp mem
      rw [NetflowProcessor.domain, Exporters.domain, Sessions.lookup_put, if_pos rfl]
      rfl
    · subst isIpfix
      rw [Exporters.entry_own ipfix later (recentIpfix named),
        Exporter.parseIpfix_order order order']
      refine ⟨⟨v9.later later, Sessions.holds_put _ _ _⟩, rfl, fun packet mem => ?_⟩
      obtain ⟨packet, _, rfl⟩ := Option.map_eq_some_iff.mp mem
      rw [NetflowProcessor.domain, Exporters.domain, Sessions.lookup_put, if_pos rfl]
      rfl
    · exact ⟨⟨v9.later later, ipfix.later later⟩, rfl, fun _ none => nomatch none⟩

end

/-! ### Runs -/

/-- A flow without the time that the caller says it was received. -/
def CommonFlow.unreceived (self : CommonFlow) : CommonFlow := { self with timeReceivedNs := none }

theorem NetflowPacket.flows_unreceived (etherparse : Etherparse) (domain : Option Domain)
    (src : IpAddr) (timeReceivedNs : Option Int) (packet : NetflowPacket) :
    (packet.flows etherparse domain src timeReceivedNs).map CommonFlow.unreceived =
      (packet.flows etherparse domain src none).map CommonFlow.unreceived := by
  cases packet with
  | v5 parsed =>
    unfold flows
    rw [List.map_map, List.map_map]
    rfl
  | v9 parsed | ipfix parsed =>
    unfold flows
    rw [List.map_flatMap, List.map_flatMap]
    refine List.flatMap_congr fun set _ => ?_
    rw [List.map_filterMap, List.map_filterMap]
    refine List.filterMap_congr fun record _ => ?_
    cases record <;> rfl

/-- What came of the datagrams of one exporter. -/
def resultsFor (src : IpAddr) (results : List (IpAddr × Option NetflowPacket × List CommonFlow)) :
    List (Option NetflowPacket × List CommonFlow) :=
  results.filterMap fun result =>
    if result.1 = src then some (result.2.1, result.2.2.map CommonFlow.unreceived) else none

def datagramsOf (src : IpAddr) (arrivals : List NetflowProcessor.Arrival) : List Datagram :=
  (arrivals.map NetflowProcessor.Arrival.datagram).filter fun datagram => datagram.src = src

theorem resultsFor_cons (src : IpAddr) (result : IpAddr × Option NetflowPacket × List CommonFlow)
    (results : List (IpAddr × Option NetflowPacket × List CommonFlow)) :
    resultsFor src (result :: results) =
      (if result.1 = src then [(result.2.1, result.2.2.map CommonFlow.unreceived)] else []) ++
        resultsFor src results := by
  unfold resultsFor
  rw [List.filterMap_cons]
  split <;> simp_all

theorem datagramsOf_cons (src : IpAddr) (arrival : NetflowProcessor.Arrival)
    (arrivals : List NetflowProcessor.Arrival) :
    datagramsOf src (arrival :: arrivals) =
      (if arrival.datagram.src = src then [arrival.datagram] else []) ++
        datagramsOf src arrivals := by
  unfold datagramsOf
  rw [List.map_cons, List.filter_cons]
  split <;> simp_all

namespace Alone

def process (etherparse : Etherparse) (ieRegistry : IERegistry) (timeout : Duration) (src : IpAddr)
    (self : Alone) (datagram : Datagram) : Alone × Option NetflowPacket × List CommonFlow :=
  let (self, packet) := self.parse ieRegistry timeout .listed datagram
  (self, packet, (packet.map fun packet =>
    packet.flows etherparse (self.domain packet) src none).getD [])

/-- What comes of the datagrams of an exporter that is never forgotten. -/
def results (etherparse : Etherparse) (ieRegistry : IERegistry) (timeout : Duration) (src : IpAddr)
    (self : Alone) :
    List Datagram → List (Option NetflowPacket × List CommonFlow)
  | [] => []
  | datagram :: datagrams =>
    let (self, packet, flows) := self.process etherparse ieRegistry timeout src datagram
    (packet, flows.map CommonFlow.unreceived) ::
      results etherparse ieRegistry timeout src self datagrams

end Alone

/-- When the datagrams of a version arrived. -/
def heard (number : UInt16) (datagrams : List Datagram) : List Instant :=
  (datagrams.filter fun datagram => version datagram.payload = some number).map Datagram.arrival

theorem heard_cons (number : UInt16) (datagram : Datagram) (datagrams : List Datagram) :
    heard number (datagram :: datagrams) =
      (if version datagram.payload = some number then [datagram.arrival] else []) ++
        heard number datagrams := by
  unfold heard
  rw [List.filter_cons]
  split <;> simp_all

section
variable {ieRegistry : IERegistry} {timeout : Duration} {order : IterationOrder UInt32}
  {alone : Alone} {datagram : Datagram}
  {datagrams : List Datagram}

theorem Alone.lastSeen_v9 :
    (alone.parse ieRegistry timeout order datagram).1.v9.map Exporter.lastSeen =
      if version datagram.payload = some NetflowV9.NETFLOW_V9_VERSION then some datagram.arrival
      else alone.v9.map Exporter.lastSeen := by
  unfold parse
  cases version datagram.payload with
  | none => rfl
  | some number =>
    dsimp only
    simp only [Option.some_inj]
    split_ifs with is5 is9
    · subst is5
      contradiction
    · rfl
    · exact congrArg some (Exporter.lastSeen_parseV9 _ _ _)
    · rfl
    · rfl

theorem Alone.lastSeen_ipfix :
    (alone.parse ieRegistry timeout order datagram).1.ipfix.map Exporter.lastSeen =
      if version datagram.payload = some Ipfix.IPFIX_VERSION then some datagram.arrival
      else alone.ipfix.map Exporter.lastSeen := by
  unfold parse
  cases version datagram.payload with
  | none => rfl
  | some number =>
    dsimp only
    simp only [Option.some_inj]
    split_ifs with is5 isIpfix is9 isIpfix
    · subst is5
      contradiction
    · rfl
    · subst is9
      contradiction
    · rfl
    · exact congrArg some (Exporter.lastSeen_parseIpfix _ _ _)
    · rfl

/-- What is left of a steady series after a datagram, and how long before it the last one of its
version was. -/
theorem steady_heard_cons {number : UInt16} {last next : Option Instant}
    (steady : Sessions.Steady timeout (last.toList ++ heard number (datagram :: datagrams)))
    (passed : next = if version datagram.payload = some number then some datagram.arrival
      else last) :
    Sessions.Steady timeout (next.toList ++ heard number datagrams) ∧
      (version datagram.payload = some number → ∀ time, last = some time →
        datagram.arrival - time < timeout) := by
  subst passed
  rw [heard_cons] at steady
  split at steady
  · next same =>
    rw [if_pos same]
    refine ⟨List.IsChain.right_of_append steady, fun _ time there => ?_⟩
    subst there
    exact (List.isChain_cons_cons.mp steady).1
  · next other =>
    rw [if_neg other]
    exact ⟨steady, fun same => absurd same other⟩

end

theorem NetflowProcessor.settings_parse (order : IterationOrder UInt32) (self : NetflowProcessor)
    (datagram : Datagram) :
    (self.parse order datagram).1.ieRegistry = self.ieRegistry ∧
      (self.parse order datagram).1.templateTimeout = self.templateTimeout := by
  unfold parse
  split
  · exact ⟨rfl, rfl⟩
  · split_ifs <;> exact ⟨rfl, rfl⟩

theorem NetflowProcessor.Serves.process_own {src : IpAddr} {now : Instant} {alone : Alone}
    {self : NetflowProcessor} (serves : self.Serves src now alone) (etherparse : Etherparse)
    {arrival : Arrival} (own : arrival.datagram.src = src) (later : now ≤ arrival.datagram.arrival)
    (recent9 : version arrival.datagram.payload = some NetflowV9.NETFLOW_V9_VERSION →
      ∀ left, alone.v9 = some left → arrival.datagram.arrival - left.lastSeen <
        self.templateTimeout)
    (recentIpfix : version arrival.datagram.payload = some Ipfix.IPFIX_VERSION →
      ∀ left, alone.ipfix = some left → arrival.datagram.arrival - left.lastSeen <
        self.templateTimeout) :
    let processed := self.process etherparse arrival.order arrival.datagram arrival.timeReceivedNs
    let processed' :=
      alone.process etherparse self.ieRegistry self.templateTimeout src arrival.datagram
    processed.1.Serves src arrival.datagram.arrival processed'.1 ∧ processed.2.1 = processed'.2.1 ∧
      processed.2.2.map CommonFlow.unreceived = processed'.2.2.map CommonFlow.unreceived := by
  obtain ⟨serves, packet, said⟩ := serves.own own later recent9 recentIpfix arrival.order .listed
  refine ⟨serves, packet, ?_⟩
  unfold process Alone.process
  dsimp only
  rw [← packet]
  cases parsed : (self.parse arrival.order arrival.datagram).2 with
  | none => rfl
  | some packet =>
    rw [Option.map_some, Option.map_some, Option.getD_some, Option.getD_some, convert, own,
      said packet parsed]
    exact packet.flows_unreceived etherparse _ src _

theorem NetflowProcessor.Serves.results {src : IpAddr} {now : Instant} {alone : Alone}
    {self : NetflowProcessor} (serves : self.Serves src now alone) (etherparse : Etherparse)
    {arrivals : List Arrival}
    (ordered : (now :: arrivals.map (·.datagram.arrival)).Pairwise (· ≤ ·))
    (steady9 : Sessions.Steady self.templateTimeout
      ((alone.v9.map Exporter.lastSeen).toList ++
        heard NetflowV9.NETFLOW_V9_VERSION (datagramsOf src arrivals)))
    (steadyIpfix : Sessions.Steady self.templateTimeout
      ((alone.ipfix.map Exporter.lastSeen).toList ++
        heard Ipfix.IPFIX_VERSION (datagramsOf src arrivals))) :
    resultsFor src (self.run etherparse arrivals) =
      alone.results etherparse self.ieRegistry self.templateTimeout src
        (datagramsOf src arrivals) := by
  induction arrivals generalizing self now alone with
  | nil => rfl
  | cons arrival arrivals ih =>
    let processed := self.process etherparse arrival.order arrival.datagram arrival.timeReceivedNs
    obtain ⟨registry, timeout⟩ : processed.1.ieRegistry = self.ieRegistry ∧
      processed.1.templateTimeout = self.templateTimeout :=
      self.settings_parse arrival.order arrival.datagram
    have later : now ≤ arrival.datagram.arrival :=
      (List.pairwise_cons.mp ordered).1 _ List.mem_cons_self
    have rest := (List.pairwise_cons.mp ordered).2
    have ran : self.run etherparse (arrival :: arrivals) =
      (arrival.datagram.src, processed.2) :: processed.1.run etherparse arrivals := rfl
    rw [datagramsOf_cons] at steady9 steadyIpfix ⊢
    rw [ran, resultsFor_cons]
    by_cases own : arrival.datagram.src = src
    · rw [if_pos own] at steady9 steadyIpfix ⊢
      obtain ⟨steady9, recent9⟩ := steady_heard_cons steady9 Alone.lastSeen_v9
      obtain ⟨steadyIpfix, recentIpfix⟩ := steady_heard_cons steadyIpfix Alone.lastSeen_ipfix
      obtain ⟨serves, packet, flows⟩ := serves.process_own etherparse own later
        (fun is9 left there => recent9 is9 _ (congrArg (Option.map Exporter.lastSeen) there))
        (fun isIpfix left there =>
          recentIpfix isIpfix _ (congrArg (Option.map Exporter.lastSeen) there))
      have others :=
        @ih _ _ processed.1 serves
          rest (by rw [timeout]; exact steady9) (by rw [timeout]; exact steadyIpfix)
      rw [registry, timeout] at others
      rw [if_pos own, packet, flows]
      exact congrArg (_ :: ·) others
    · rw [if_neg own] at steady9 steadyIpfix ⊢
      have kept : processed.1.Serves src arrival.datagram.arrival alone :=
        serves.other (Ne.symm own) later arrival.order
      have others := ih kept rest (by rwa [timeout]) (by rwa [timeout])
      rw [registry, timeout] at others
      rw [if_neg own]
      exact others

/-- Two runs of a processor with the same datagrams from an exporter, arriving at the same times,
parse them the same and make the same flows of them, whatever arrives from others, as long as the
exporter never is quiet in a protocol version for the template timeout. -/
theorem exporters_do_not_interfere (etherparse : Etherparse) (ieRegistry : IERegistry)
    (timeout : Duration) (src : IpAddr) {start9 startIpfix start9' startIpfix' : Instant}
    {arrivals arrivals' : List NetflowProcessor.Arrival}
    (ordered : (arrivals.map (·.datagram.arrival)).Pairwise (· ≤ ·))
    (ordered' : (arrivals'.map (·.datagram.arrival)).Pairwise (· ≤ ·))
    (same : datagramsOf src arrivals = datagramsOf src arrivals')
    (steady9 : Sessions.Steady timeout
      (heard NetflowV9.NETFLOW_V9_VERSION (datagramsOf src arrivals)))
      (steadyIpfix : Sessions.Steady timeout
        (heard Ipfix.IPFIX_VERSION (datagramsOf src arrivals))) :
    resultsFor src ((NetflowProcessor.new ieRegistry timeout start9 startIpfix).run etherparse
      arrivals) =
      resultsFor src ((NetflowProcessor.new ieRegistry timeout start9' startIpfix').run etherparse
        arrivals') := by
  have alone : ∀ {start9 startIpfix : Instant},
      (NetflowProcessor.new ieRegistry timeout start9 startIpfix).Serves src 0 {} :=
    ⟨.inl rfl, .inl rfl⟩
  have first : ∀ {times : List Instant}, times.Pairwise (· ≤ ·) → (0 :: times).Pairwise (· ≤ ·) :=
    fun sorted =>
    List.pairwise_cons.mpr ⟨fun _ _ => Nat.zero_le _, sorted⟩
  rw [alone.results etherparse (first ordered) steady9 steadyIpfix]
  rw [same] at steady9 steadyIpfix
  rw [alone.results etherparse (first ordered') steady9 steadyIpfix, same]
  rfl

/-- A NetFlow v9 packet from an address at a second, its FlowSets after the header. -/
def packetFrom (src : UInt32) (second : Nat) (flowSets : List UInt8) :
    NetflowProcessor.Arrival where
  datagram := {
    src := .v4 src
    payload := [0, 9, 0, 1, 0, 0, 0, 1, 0, 0, 0, 2, 0, 0, 0, 3, 0, 0, 0, 4] ++ flowSets
    clock := fun _ => second * 1000000000 }
  order := .listed
  timeReceivedNs := none

/-- Template 256, with the source address. -/
def addresses (src : UInt32) (second : Nat) : NetflowProcessor.Arrival :=
  packetFrom src second [0, 0, 0, 12, 1, 0, 0, 1, 0, 8, 0, 4]

/-- Template 256, with a count of bytes. -/
def counts (src : UInt32) (second : Nat) : NetflowProcessor.Arrival :=
  packetFrom src second [0, 0, 0, 12, 1, 0, 0, 1, 0, 1, 0, 4]

/-- Two records of template 256. -/
def twoRecords (src : UInt32) (second : Nat) : NetflowProcessor.Arrival :=
  packetFrom src second [1, 0, 0, 12, 10, 0, 0, 1, 10, 0, 0, 2]

def addressRegistry : IERegistry :=
  IERegistry.new.addElement 8 none "sourceIPv4Address" .ipv4Address

/-- Another exporter has the template in other words, and sets off a sweep before the records
come. -/
theorem swept_past_undisturbed :
    let processor := NetflowProcessor.new addressRegistry (600 * 1000000000) 0 0
    let disturbed := resultsFor (.v4 1) (processor.run plainIpv4
      [addresses 1 0, counts 2 300, twoRecords 2 301, twoRecords 1 599])
    disturbed = resultsFor (.v4 1) (processor.run plainIpv4 [addresses 1 0, twoRecords 1 599]) ∧
      disturbed.map (fun result => result.2.map CommonFlow.srcAddr) =
        [[], [some (.v4 0x0a000001), some (.v4 0x0a000002)]] := by
  refine ⟨?_, by decide +kernel⟩
  exact exporters_do_not_interfere plainIpv4 addressRegistry (600 * 1000000000)
    (.v4 1) (by decide) (by decide) rfl
    (by unfold Sessions.Steady; decide) (by unfold Sessions.Steady; decide)

end Rustflow
