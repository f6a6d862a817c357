import Rustflow.Generate.Generator

/-!
# Runs of the generator

The flows of every data packet are within the networks and the ranges asked for. The messages are
numbered by the data records before them, and the first that fails is the last.
-/

namespace Rustflow.Generate
open Ipfix

/-! ### Random flows -/

/-- A flow as the arguments ask for it, ended within the second before `now` and started within the
minute before. -/
structure Generated (generator : IpfixGenerator) (now : DateTime) (flow : Flow) : Prop where
  source : generator.srcCidr.Contains flow.srcIp
  destination : generator.dstCidr.Contains flow.dstIp
  protocol : flow.protocol ∈ generator.protocols
  tcpFlags : flow.protocol = IPPROTO_TCP ∧ flow.tcpFlags ∈ generator.tcpFlags ∨
    flow.tcpFlags = 0 ∧ (flow.protocol = IPPROTO_TCP → generator.tcpFlags = [])
  srcPort : generator.srcPortRange.start ≤ flow.srcPort ∧ flow.srcPort ≤ generator.srcPortRange.end_
  dstPort : generator.dstPortRange.start ≤ flow.dstPort ∧ flow.dstPort ≤ generator.dstPortRange.end_
  octets : generator.octetRange.start ≤ flow.octets ∧ flow.octets ≤ generator.octetRange.end_
  packets : generator.packetRange.start ≤ flow.packets ∧ flow.packets ≤ generator.packetRange.end_
  started : now.nanos - 60000000000 < flow.flowStart.nanos ∧
    flow.flowStart.nanos < flow.flowEnd.nanos
  ended : flow.flowEnd.nanos ≤ now.nanos

section
variable {R : Type} {rng : Rng R}

theorem contains_randomIp (rng : Rng R) (cidr : IpNet) (r : R) :
    cidr.Contains (randomIpInCidr rng cidr r).1 := by
  cases cidr with
  | v4 net => exact net.contains_fill _
  | v6 net => exact net.contains_fill _

theorem Rng.Lawful.sample (lawful : rng.Lawful) (range : InclusiveRange) (r : R) :
    range.start ≤ (range.sample rng r).1 ∧ (range.sample rng r).1 ≤ range.end_ := by
  obtain ⟨low, high⟩ :=
    lawful.inRange range.start.toNat range.end_.toNat r (UInt16.le_iff_toNat_le.mp range.ordered)
  have below := range.end_.toNat_lt
  have kept :
      ((range.sample rng r).1).toNat = (rng.randomRange range.start.toNat range.end_.toNat r).1 :=
    UInt16.toNat_ofNat_of_lt' (Nat.lt_of_le_of_lt high below)
  rw [UInt16.le_iff_toNat_le, UInt16.le_iff_toNat_le, kept]
  exact ⟨low, high⟩

theorem Rng.Lawful.protocol (lawful : rng.Lawful) (generator : IpfixGenerator) (r : R) :
    generator.protocols.getD (rng.randomRange 0 (generator.protocols.length - 1) r).1 0 ∈
      generator.protocols := by
  have below := (lawful.inRange 0 (generator.protocols.length - 1) r (Nat.zero_le _)).2
  have positive := List.length_pos_iff.mpr generator.some_
  rw [List.getD_eq_getElem _ _ (by omega)]
  exact List.getElem_mem _

theorem Rng.Lawful.tcpFlags (lawful : rng.Lawful) (generator : IpfixGenerator)
    (protocol : UInt8) (r : R) :
    protocol = IPPROTO_TCP ∧ (randomTcpFlags rng generator protocol r).1 ∈ generator.tcpFlags ∨
      (randomTcpFlags rng generator protocol r).1 = 0 ∧
      (protocol = IPPROTO_TCP → generator.tcpFlags = []) := by
  unfold randomTcpFlags
  split
  · next tcp =>
    have chosen := lawful.chosen generator.tcpFlags r
    dsimp only
    cases choice : (rng.choose generator.tcpFlags r).1 with
    | none =>
      rw [choice] at chosen
      exact .inr ⟨rfl, fun _ => chosen⟩
    | some flags =>
      rw [choice] at chosen
      exact .inl ⟨tcp, chosen⟩
  · next other => exact .inr ⟨rfl, fun tcp => absurd tcp other⟩

theorem generated_randomFlow (lawful : rng.Lawful) (generator : IpfixGenerator)
    (now : DateTime) (r : R) :
    Generated generator now (randomFlow rng generator now r).1 := by
  have times :
      ∀ r r', now.nanos - 60000000000 < (before now (rng.randomRange 1000 59999 r).1).nanos ∧
      (before now (rng.randomRange 1000 59999 r).1).nanos <
        (before now (rng.randomRange 0 999 r').1).nanos ∧
      (before now (rng.randomRange 0 999 r').1).nanos ≤ now.nanos := by
    intro r r'
    have started := lawful.inRange 1000 59999 r (by decide)
    have ended := lawful.inRange 0 999 r' (by decide)
    unfold before
    dsimp only
    omega
  constructor
  · exact contains_randomIp rng generator.srcCidr _
  · exact contains_randomIp rng generator.dstCidr _
  · exact lawful.protocol generator _
  · exact lawful.tcpFlags generator _ _
  · exact lawful.sample generator.srcPortRange _
  · exact lawful.sample generator.dstPortRange _
  · exact lawful.sample generator.octetRange _
  · exact lawful.sample generator.packetRange _
  · exact ⟨(times _ r).1, (times _ _).2.1⟩
  · exact (times r _).2.2

theorem generated_randomFlows (lawful : rng.Lawful) (generator : IpfixGenerator) (now : DateTime)
    (n : Nat) (r : R) :
    (randomFlows rng generator now n r).1.length = n ∧
      ∀ flow ∈ (randomFlows rng generator now n r).1, Generated generator now flow := by
  induction n generalizing r with
  | zero => exact ⟨rfl, nofun⟩
  | succ n ih =>
    obtain ⟨length, each⟩ := ih (randomFlow rng generator now r).2
    exact ⟨congrArg (· + 1) length,
      List.forall_mem_cons.mpr ⟨generated_randomFlow lawful generator now r, each⟩⟩

end

/-! ### Messages -/

/-- The data records of a message, of either kind. -/
def Message.records : Message → Nat
  | .templates => 0
  | .options => 1
  | .data flows => flows.length

def recordsIn {E : Type} (journal : List (Attempt E)) : Nat := (journal.map (·.message.records)).sum

/-- The generator as it was made, but for the numbering. -/
def IpfixGenerator.numbered (self : IpfixGenerator) (sequenceNumber : UInt32) : IpfixGenerator :=
  { self with sequenceNumber }

theorem Generated.of_numbered {generator : IpfixGenerator} {sequenceNumber : UInt32}
    {now : DateTime} {flow : Flow}
    (generated : Generated (generator.numbered sequenceNumber) now flow) :
    Generated generator now flow :=
  { generated with }

section
variable {E R : Type}

/-- A message of the generator, stamped with a reading of the clock. -/
structure Made (env : Surroundings E) (generator : IpfixGenerator) (attempt : Attempt E) :
    Prop where
  version : attempt.packet.header.version = IPFIX_VERSION
  domain : attempt.packet.header.observationDomainId = generator.observationDomainId
  sets : attempt.packet.sets = attempt.message.sets generator
  outcome : ∃ n, attempt.outcome = env.sendTo n attempt.packet.encode
  flows : ∀ flows, attempt.message = .data flows → flows.length = generator.flowsPerPacket.toNat ∧
    ∃ n, attempt.packet.header.exportTime = env.utcNow n ∧ ∀ flow ∈ flows,
      Generated generator (env.utcNow n) flow

/-- Every message tried was made by the generator and is numbered by the data records before it. -/
structure Journaled (env : Surroundings E) (generator : IpfixGenerator) (w : World E R) : Prop where
  same : ∃ sequenceNumber, w.generator = generator.numbered sequenceNumber
  made : ∀ attempt ∈ w.journal, Made env generator attempt
  next : w.generator.sequenceNumber = UInt32.ofNat (recordsIn w.journal)
  each : ∀ before attempt after, w.journal = before ++ attempt :: after →
    attempt.packet.header.sequenceNumber = UInt32.ofNat (recordsIn before)

variable {env : Surroundings E} {generator : IpfixGenerator} {w : World E R} {rng : Rng R}

theorem recordsIn_snoc (journal : List (Attempt E)) (attempt : Attempt E) :
    recordsIn (journal ++ [attempt]) = recordsIn journal + attempt.message.records := by
  simp [recordsIn]

/-- One more message, counted in what comes after it. -/
theorem Journaled.sendPacket (journaled : Journaled env generator w) (message : Message)
    (flows : ∀ flows, message = .data flows → flows.length = generator.flowsPerPacket.toNat ∧
      ∀ flow ∈ flows, Generated generator (env.utcNow w.journal.length) flow)
    {w' : World E R} (journal : w'.journal = w.journal)
    (counted : w'.generator = w.generator.numbered
      (w.generator.sequenceNumber + UInt32.ofNat message.records)) :
    Journaled env generator (sendPacket env message (packetOf env w message) w').2 := by
  obtain ⟨⟨sequenceNumber, same⟩, made, next, each⟩ := journaled
  have after : (Generate.sendPacket env message (packetOf env w message) w').2.journal =
      w.journal ++ [⟨message, packetOf env w message,
        (Generate.sendPacket env message (packetOf env w message) w').1⟩] := by
    rw [← journal]
    rfl
  refine ⟨⟨_, counted.trans (by rw [same]; rfl)⟩, ?_, ?_, ?_⟩
  · rw [after]
    refine List.forall_mem_append.mpr ⟨made,
      List.forall_mem_singleton.mpr ⟨rfl, ?_, ?_, ⟨_, rfl⟩, ?_⟩⟩
    · show w.generator.observationDomainId = generator.observationDomainId
      rw [same]
      rfl
    · show message.sets w.generator = message.sets generator
      rw [same]
      cases message <;> rfl
    · rintro _ rfl
      obtain ⟨length, all⟩ := flows _ rfl
      exact ⟨length, w.journal.length, rfl, all⟩
  · rw [after, recordsIn_snoc, UInt32.ofNat_add, ← next]
    exact congrArg IpfixGenerator.sequenceNumber counted
  · intro before attempt rest split
    rw [after] at split
    rcases List.eq_nil_or_concat rest with rfl | ⟨init, last, rfl⟩
    · obtain ⟨rfl, tail⟩ := List.append_inj' split rfl
      cases tail
      exact next
    · have whole : w.journal ++ [_] = (before ++ attempt :: init) ++ [last] := split.trans (by simp)
      exact each before attempt init (List.append_inj' whole rfl).1

theorem Journaled.sendTemplates (journaled : Journaled env generator w) :
    Journaled env generator (sendTemplates env w).2 :=
  journaled.sendPacket .templates nofun rfl (congrArg w.generator.numbered (UInt32.add_zero _).symm)

theorem Journaled.sendOptions (journaled : Journaled env generator w) :
    Journaled env generator (sendOptions env w).2 :=
  journaled.sendPacket .options nofun rfl rfl

theorem Journaled.sendDataPacket (journaled : Journaled env generator w) (lawful : rng.Lawful) :
    Journaled env generator (sendDataPacket rng env w).2 := by
  obtain ⟨sequenceNumber, same⟩ := journaled.same
  obtain ⟨length, all⟩ :=
    generated_randomFlows lawful w.generator
      (env.utcNow w.journal.length) w.generator.flowsPerPacket.toNat w.rng
  refine journaled.sendPacket (.data _) ?_ rfl ?_
  · rintro _ ⟨⟩
    rw [same] at length all ⊢
    exact ⟨length, fun flow mem => (all flow mem).of_numbered⟩
  · show w.generator.numbered (w.generator.sequenceNumber + w.generator.flowsPerPacket.toUInt32) = _
    rw [Message.records, length]
    simp

/-! ### The loop -/

def Message.isData : Message → Bool
  | .data _ => true
  | _ => false

def AllSent (journal : List (Attempt E)) : Prop := ∀ attempt ∈ journal, attempt.outcome.isOk

/-- The data messages that were sent. -/
def dataSent (journal : List (Attempt E)) : Nat :=
  journal.countP fun attempt => attempt.message.isData && attempt.outcome.isOk

/-- Some messages were sent, or all of them but the last, which is what went wrong. -/
def EndsWith (journal : List (Attempt E)) : Except E Unit → Prop
  | .ok _ => AllSent journal
  | .error e => ∃ sent last, journal = sent ++ [last] ∧ AllSent sent ∧ last.outcome = .error e

/-- Data messages come after templates and options. -/
def Introduced (journal : List (Attempt E)) : Prop :=
  ∀ before attempt after, journal = before ++ attempt :: after → attempt.message.isData →
    .templates ∈ before.map (·.message) ∧ .options ∈ before.map (·.message)

/-- What there is to say of a loop, whether it has ended or not. -/
structure Loop.Regular (env : Surroundings E) (generator : IpfixGenerator) (count : UInt64)
    (loop : Loop E R) : Prop where
  journaled : Journaled env generator loop.world
  ends : EndsWith loop.world.journal (loop.ended.getD (.ok ()))
  introduced : Introduced loop.world.journal
  counted : dataSent loop.world.journal = loop.packetsSent
  described : loop.ended = none → .templates ∈ loop.world.journal.map (·.message) ∧
    .options ∈ loop.world.journal.map (·.message)
  limit : 0 < count → loop.packetsSent ≤ count.toNat ∧
    (loop.ended = none → loop.packetsSent < count.toNat)
  finished : loop.ended = some (.ok ()) → 0 < count ∧ loop.packetsSent = count.toNat

theorem EndsWith.append {journal more : List (Attempt E)} (sent : AllSent journal)
    {result : Except E Unit} (ends : EndsWith more result) :
    EndsWith (journal ++ more) result := by
  cases result with
  | ok => exact List.forall_mem_append.mpr ⟨sent, ends⟩
  | error e =>
    obtain ⟨first, last, rfl, all, failed⟩ := ends
    exact ⟨journal ++ first, last, (List.append_assoc ..).symm,
      List.forall_mem_append.mpr ⟨sent, all⟩, failed⟩

theorem endsWith_singleton (attempt : Attempt E) :
    EndsWith [attempt] (attempt.outcome.map fun _ => ()) := by
  cases outcome : attempt.outcome with
  | ok n => exact List.forall_mem_singleton.mpr (by rw [outcome]; rfl)
  | error e => exact ⟨[], attempt, rfl, nofun, outcome⟩

/-- Templates and options are sent, or one of them fails. -/
theorem sendDescriptions_spec (journaled : Journaled env generator w) :
    ∃ attempts, (sendDescriptions env w).2.journal = w.journal ++ attempts ∧
      Journaled env generator (sendDescriptions env w).2 ∧
      EndsWith attempts (sendDescriptions env w).1 ∧
      (∀ attempt ∈ attempts, attempt.message.isData = false) ∧
      ((sendDescriptions env w).1 = .ok () → .templates ∈ attempts.map (·.message) ∧
        .options ∈ attempts.map (·.message)) := by
  let w₁ := (sendTemplates env w).2
  let w₂ := (sendOptions env w₁).2
  let templates : Attempt E := ⟨.templates, packetOf env w .templates, (sendTemplates env w).1⟩
  let options : Attempt E := ⟨.options, packetOf env w₁ .options, (sendOptions env w₁).1⟩
  have first : sendTemplates env w = (templates.outcome, w₁) := rfl
  have second : sendOptions env w₁ = (options.outcome, w₂) := rfl
  unfold sendDescriptions
  rw [first]
  cases sent : templates.outcome with
  | error e =>
    refine ⟨[templates], rfl, journaled.sendTemplates, ?_, List.forall_mem_singleton.mpr rfl, nofun⟩
    have ends := endsWith_singleton templates
    rwa [sent] at ends
  | ok n =>
    dsimp only
    rw [second]
    have both : EndsWith [templates, options] (options.outcome.map fun _ => ()) :=
      .append (List.forall_mem_singleton.mpr (by rw [sent]; rfl)) (endsWith_singleton options)
    have journal : w₂.journal = w.journal ++ [templates, options] := List.append_assoc ..
    have none : ∀ attempt ∈ [templates, options], attempt.message.isData = false :=
      List.forall_mem_cons.mpr ⟨rfl, List.forall_mem_singleton.mpr rfl⟩
    cases outcome : options.outcome with
    | error e =>
      rw [outcome] at both
      exact ⟨[templates, options], journal, journaled.sendTemplates.sendOptions, both, none, nofun⟩
    | ok n =>
      rw [outcome] at both
      exact ⟨[templates, options], journal, journaled.sendTemplates.sendOptions, both,
        none, fun _ =>
        ⟨List.mem_cons_self, List.mem_cons_of_mem _ List.mem_cons_self⟩⟩

theorem introduced_append {journal more : List (Attempt E)} (introduced : Introduced journal)
    (each : ∀ attempt ∈ more, attempt.message.isData →
      .templates ∈ journal.map (·.message) ∧ .options ∈ journal.map (·.message)) : Introduced
        (journal ++ more) := by
  intro before attempt after split data
  obtain ⟨rest, rfl, tail⟩ | ⟨rest, rfl, tail⟩ := List.append_eq_append_iff.mp split
  · have inside : attempt ∈ more := tail ▸ List.mem_append_right _ List.mem_cons_self
    obtain ⟨templates, options⟩ := each attempt inside data
    rw [List.map_append]
    exact ⟨List.mem_append_left _ templates, List.mem_append_left _ options⟩
  · cases rest with
    | nil =>
      have inside : attempt ∈ more := by
        rw [← (List.nil_append more), ← tail]
        exact List.mem_cons_self
      rw [List.append_nil] at each
      exact each attempt inside data
    | cons found rest =>
      cases tail
      exact introduced before attempt rest rfl data

theorem dataSent_append (journal more : List (Attempt E)) :
    dataSent (journal ++ more) = dataSent journal + dataSent more :=
  List.countP_append

theorem dataSent_eq_zero {more : List (Attempt E)}
    (none : ∀ attempt ∈ more, attempt.message.isData = false) : dataSent more = 0 :=
  List.countP_eq_zero.mpr fun attempt mem => by simp [none attempt mem]

theorem dataSent_singleton {attempt : Attempt E} (data : attempt.message.isData) :
    dataSent [attempt] = if attempt.outcome.isOk then 1 else 0 := by
  simp [dataSent, List.countP_singleton, data]

/-- A loop that sends a data packet. -/
theorem Loop.Regular.sendData {count : UInt64} {loop : Loop E R}
    (regular : loop.Regular env generator count) (lawful : rng.Lawful)
    (running : loop.ended = none) : (loop.sendData rng env count).Regular env generator count := by
  obtain ⟨journaled, ends, introduced, counted, described, limit, finished⟩ := regular
  rw [running] at ends
  let flows :=
    (randomFlows rng loop.world.generator (env.utcNow loop.world.journal.length)
      loop.world.generator.flowsPerPacket.toNat
    loop.world.rng).1
  let data : Attempt E :=
    ⟨.data flows, packetOf env loop.world (.data flows), (sendDataPacket rng env loop.world).1⟩
  have sent : sendDataPacket rng env loop.world =
      (data.outcome, (sendDataPacket rng env loop.world).2) := rfl
  have journal : (sendDataPacket rng env loop.world).2.journal = loop.world.journal ++ [data] := rfl
  have introduced : Introduced (loop.world.journal ++ [data]) :=
    introduced_append introduced fun _ _ _ => described running
  have both : EndsWith (loop.world.journal ++ [data]) (data.outcome.map fun _ => ()) :=
    .append ends (endsWith_singleton data)
  have more := dataSent_append loop.world.journal [data]
  unfold Loop.sendData
  rw [sent]
  cases outcome : data.outcome with
  | error e =>
    rw [outcome] at both
    refine ⟨journaled.sendDataPacket lawful, both, introduced, ?_, nofun,
      fun positive => ⟨(limit positive).1, nofun⟩, nofun⟩
    have none : dataSent [data] = 0 := by
      rw [dataSent_singleton rfl, outcome]
      rfl
    show dataSent (sendDataPacket rng env loop.world).2.journal = _
    rw [journal, more, none, counted]
    rfl
  | ok n =>
    rw [outcome] at both
    have one : dataSent [data] = 1 := by
      rw [dataSent_singleton rfl, outcome]
      rfl
    have sum : dataSent (sendDataPacket rng env loop.world).2.journal = loop.packetsSent + 1 := by
      rw [journal, more, one, counted]
    dsimp only
    refine ⟨journaled.sendDataPacket lawful, ?_, introduced, sum, fun _ => ?_, fun positive => ?_,
      fun done => ?_⟩
    · split
      · exact both
      · exact both
    · obtain ⟨templates, options⟩ := described running
      show _ ∈ (sendDataPacket rng env loop.world).2.journal.map _ ∧
        _ ∈ (sendDataPacket rng env loop.world).2.journal.map _
      rw [journal, List.map_append]
      exact ⟨List.mem_append_left _ templates, List.mem_append_left _ options⟩
    · have below := (limit positive).2 running
      refine ⟨below, fun going => ?_⟩
      split at going
      · cases going
      · next more => exact Nat.not_le.mp fun reached => more ⟨positive, reached⟩
    · split at done
      · next reached => exact ⟨reached.1, Nat.le_antisymm ((limit reached.1).2 running) reached.2⟩
      · cases done

/-- A loop that tries to send templates and options, also the first time. -/
theorem regular_sendDescriptions {count : UInt64} (journaled : Journaled env generator w)
    (sent : AllSent w.journal) (introduced : Introduced w.journal)
    (limit : 0 < count → dataSent w.journal < count.toNat) (lastTemplate : Instant) :
    Loop.Regular env generator count {
      world := (sendDescriptions env w).2
      lastTemplate
      packetsSent := dataSent w.journal
      ended :=
        match (sendDescriptions env w).1 with
        | .ok _ => none
        | .error e => some (.error e) } := by
  obtain ⟨attempts, journal, journaled, ends, none, both⟩ := sendDescriptions_spec journaled
  have ends := EndsWith.append sent ends
  rw [← journal] at ends
  have introduced : Introduced (w.journal ++ attempts) :=
    introduced_append introduced fun attempt mem data => by
    rw [none attempt mem] at data
    cases data
  rw [← journal] at introduced
  have counted : dataSent (sendDescriptions env w).2.journal = dataSent w.journal := by
    rw [journal, dataSent_append, dataSent_eq_zero none, Nat.add_zero]
  cases result : (sendDescriptions env w).1 with
  | error e =>
    rw [result] at ends
    exact ⟨journaled, ends, introduced, counted, nofun,
      fun positive => ⟨Nat.le_of_lt (limit positive), nofun⟩, nofun⟩
  | ok _ =>
    rw [result] at ends
    refine ⟨journaled, ends, introduced, counted, fun _ => ?_,
      fun positive => ⟨Nat.le_of_lt (limit positive), fun _ => limit positive⟩, nofun⟩
    obtain ⟨templates, options⟩ := both result
    show _ ∈ (sendDescriptions env w).2.journal.map _ ∧ _ ∈ (sendDescriptions env w).2.journal.map _
    rw [journal, List.map_append]
    exact ⟨List.mem_append_right _ templates, List.mem_append_right _ options⟩

theorem regular_start (env : Surroundings E) (count : UInt64)
    (fresh : generator.sequenceNumber = 0) (r : R) (now : Instant) :
    (Loop.start env generator r now).Regular env generator count := by
  have journaled : Journaled env generator (⟨generator, r, []⟩ : World E R) := by
    refine ⟨⟨generator.sequenceNumber, rfl⟩, nofun, fresh, ?_⟩
    intro before attempt after split
    exact absurd split.symm (List.append_ne_nil_of_right_ne_nil _ (List.cons_ne_nil _ _))
  have positive : 0 < count → 0 < count.toNat := UInt64.lt_iff_toNat_lt.mp
  refine regular_sendDescriptions journaled nofun ?_ positive now
  intro before attempt after split
  exact absurd split.symm (List.append_ne_nil_of_right_ne_nil _ (List.cons_ne_nil _ _))

theorem Loop.Regular.turn {args : GenerateArgs} {loop : Loop E R}
    (regular : loop.Regular env generator args.count) (lawful : rng.Lawful)
    (n : Nat) : (loop.turn rng env args n).Regular env generator args.count := by
  unfold Loop.turn
  split
  · exact regular
  · next running =>
    split
    · have ends := regular.ends
      rw [running] at ends
      have counted := regular.counted
      have again := regular_sendDescriptions regular.journaled ends regular.introduced
        (fun positive => counted ▸ (regular.limit positive).2 running)
      rw [counted] at again
      split
      · next e world failed =>
        have again := again loop.lastTemplate
        rwa [failed] at again
      · next world sent =>
        have again := again (env.refreshed n)
        rw [sent] at again
        have regular := again.sendData lawful rfl
        rwa [running]
    · exact regular.sendData lawful running

/-- Whatever the numbers drawn, the clocks and the outcomes, a run keeps to all of it after every
turn. -/
theorem regular_after {args : GenerateArgs} (fresh : generator.sequenceNumber = 0)
    (lawful : rng.Lawful) (r : R) (now : Instant) (turns : Nat) :
    (Loop.after rng env args generator r now turns).Regular env generator args.count := by
  induction turns with
  | zero => exact regular_start env args.count fresh r now
  | succ turns ih => exact ih.turn lawful turns

/-- A generator that has not sent anything, of what the arguments ask for. -/
structure IpfixGenerator.AsAsked (args : GenerateArgs) (generator : IpfixGenerator) : Prop where
  fresh : generator.sequenceNumber = 0
  observationDomainId : generator.observationDomainId = args.observationDomainId
  flowsPerPacket : generator.flowsPerPacket = args.flowsPerPacket
  srcCidr : generator.srcCidr = args.srcCidr
  dstCidr : generator.dstCidr = args.dstCidr
  protocols : generator.protocols = args.protocols
  tcpFlags : generator.tcpFlags = args.tcpFlags
  srcPortRange : generator.srcPortRange = args.srcPortRange
  dstPortRange : generator.dstPortRange = args.dstPortRange
  octetRange : generator.octetRange = args.octetRange
  packetRange : generator.packetRange = args.packetRange

theorem asAsked_new {E : Type} {sockets : Sockets E} {args : GenerateArgs}
    {generator : IpfixGenerator} (made : IpfixGenerator.new sockets args = .ok generator) :
    generator.AsAsked args := by
  unfold IpfixGenerator.new at made
  simp only [bind, Except.bind] at made
  repeat' split at made
  all_goals cases made
  exact ⟨rfl, rfl, rfl, rfl, rfl, rfl, rfl, rfl, rfl, rfl, rfl⟩

/-- So does a run of a generator as it is made of its arguments, with what these ask for. -/
theorem regular_run {sockets : Sockets E} {args : GenerateArgs}
    (made : IpfixGenerator.new sockets args = .ok generator) (lawful : rng.Lawful)
    (env : Surroundings E) (r : R) (now : Instant) (turns : Nat) : generator.AsAsked args ∧
      (Loop.after rng env args generator r now turns).Regular env generator args.count :=
  ⟨asAsked_new made, regular_after (asAsked_new made).fresh lawful r now turns⟩

end

/-! ### Two flows -/

/-- Numbers that count up. -/
def countingRng : Rng Nat where
  random w r := (BitVec.ofNat w r, r + 1)
  randomRange low high r := (low + r % (high - low + 1), r + 1)
  choose choices r := (choices[r % choices.length]?, r + 1)

theorem lawful_countingRng : countingRng.Lawful where
  inRange low high r ordered := by
    have below : r % (high - low + 1) < high - low + 1 := Nat.mod_lt r (Nat.succ_pos _)
    dsimp only [countingRng]
    omega
  chosen choices r := by
    dsimp only [countingRng]
    cases choices with
    | nil => rfl
    | cons choice choices =>
      have below : r % (choice :: choices).length < (choice :: choices).length :=
        Nat.mod_lt r (Nat.succ_pos _)
      rw [List.getElem?_eq_getElem below]
      exact List.getElem_mem _

def twoFlowArgs : GenerateArgs where
  host := "127.0.0.1"
  port := 2055
  flowsPerPacket := 2
  count := 9
  observationDomainId := 1
  templateInterval := 60
  srcCidr := .v4 (.around 0x0A000000 8 (by decide))
  dstCidr := .v4 (.around 0xC0A80000 16 (by decide))
  protocols := [IPPROTO_TCP, 17]
  srcPortRange := ⟨1024, 65535, by decide⟩
  dstPortRange := ⟨443, 443, by decide⟩
  tcpFlags := [0x002, 0x010]
  octetRange := ⟨64, 1500, by decide⟩
  packetRange := ⟨1, 10, by decide⟩

def openSockets : Sockets Unit where
  toSocketAddrs _ port := .ok [(.v4 0x7F000001, port)]
  bind _ := .ok ()

def twoFlowGenerator : IpfixGenerator where
  observationDomainId := 1
  sequenceNumber := 0
  flowsPerPacket := 2
  family := .v4
  srcCidr := twoFlowArgs.srcCidr
  dstCidr := twoFlowArgs.dstCidr
  protocols := [IPPROTO_TCP, 17]
  tcpFlags := [0x002, 0x010]
  octetRange := twoFlowArgs.octetRange
  packetRange := twoFlowArgs.packetRange
  srcPortRange := twoFlowArgs.srcPortRange
  dstPortRange := twoFlowArgs.dstPortRange
  sourceFamily := rfl
  destinationFamily := rfl
  some_ := by decide

/-- Six datagrams go out whole if they fit. A turn takes a minute. -/
def sixSends : Surroundings Unit where
  utcNow n := ⟨1700000000000000000 + min n 6⟩
  sendTo n payload := if n < 6 ∧ payload.length < 2 ^ 16 then .ok payload.length else .error ()
  checked n := n * 60000000000
  refreshed n := n * 60000000000

def twoFlowLoop : Loop Unit Nat :=
  Loop.after countingRng sixSends twoFlowArgs twoFlowGenerator 0 0 3

/-- Two data packets go out, templates and options are sent once more between them, and the
templates after them fail. -/
theorem twoFlows_regular :
    twoFlowLoop.world.journal.map (fun attempt => (attempt.message.records, attempt.outcome.isOk)) =
      [(0, true), (1, true), (2, true), (0, true), (1, true), (2, true), (0, false)] ∧
    twoFlowLoop.ended = some (.error ()) ∧
    twoFlowGenerator.AsAsked twoFlowArgs ∧ twoFlowLoop.Regular sixSends twoFlowGenerator 9 :=
  ⟨by decide +kernel, by decide +kernel,
    @regular_run Unit Nat twoFlowGenerator countingRng openSockets twoFlowArgs rfl lawful_countingRng
      sixSends 0 0 3⟩

end Rustflow.Generate
