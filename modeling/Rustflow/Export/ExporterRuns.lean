import Rustflow.Export.Exporter
import Rustflow.Lib.Greedy

/-!
# What the exporter sends

The records of a call are packed greedily, whatever becomes of each message, and every message is
numbered by the data records that got through before it.
-/

namespace Rustflow.Export
open Ipfix

/-! ### Packing -/

def bodySize (held : List (UInt16 × Ipfix.DataRecord)) : Nat :=
  (held.map fun r => (encodeRecord r.2).length).sum

/-- The template ID of the records held, that of the last. -/
def heldId (held : List (UInt16 × Ipfix.DataRecord)) : UInt16 := (held.getLast?.map Prod.fst).getD 0

/-- A record joins the message being filled. -/
def joins (held : List (UInt16 × Ipfix.DataRecord)) (r : UInt16 × Ipfix.DataRecord) : Bool :=
  decide (bodySize held + (encodeRecord r.2).length ≤ MAX_SET_BODY ∧ r.1 = heldId held)

theorem bodySize_snoc (held : List (UInt16 × Ipfix.DataRecord)) (r : UInt16 × Ipfix.DataRecord) :
    bodySize (held ++ [r]) = bodySize held + (encodeRecord r.2).length := by
  simp [bodySize]

theorem heldId_snoc (held : List (UInt16 × Ipfix.DataRecord)) (r : UInt16 × Ipfix.DataRecord) :
    heldId (held ++ [r]) = r.1 := by
  simp [heldId]

section
variable {E : Type} (env : Surroundings E)

/-- Sends the records held, as one message. -/
def sendHeld (sent : Except E Unit × World E) (held : List (UInt16 × Ipfix.DataRecord)) :
    Except E Unit × World E :=
  let (result, w) := sendData env (heldId held) (held.map fun r => .data r.2) sent.2
  (andThen sent.1 result, w)

theorem foldl_add (records held : List (UInt16 × Ipfix.DataRecord)) (packing : Packing E)
    (pending : packing.pending = held.map fun r => .data r.2) (size : packing.size = bodySize held)
    (id : held ≠ [] → packing.templateId = heldId held) :
    let packed := records.foldl (Packing.add env) packing
    let packed := if packed.pending ≠ [] then packed.flush env else packed
    (packed.result, packed.world) = (greedy joins held records).foldl (sendHeld env)
    (packing.result, packing.world) := by
  induction records generalizing held packing with
  | nil =>
    have empty : packing.pending = [] ↔ held = [] := by rw [pending, List.map_eq_nil_iff]
    unfold greedy
    dsimp only [List.foldl_nil]
    by_cases nothing : held = []
    · rw [if_neg (not_not.mpr (empty.mpr nothing)), if_pos nothing, List.foldl_nil]
    · rw [if_pos (empty.not.mpr nothing), if_neg nothing, List.foldl_cons, List.foldl_nil,
        Packing.flush, sendHeld, pending, id nothing]
  | cons r records ih =>
    have closes :
        (packing.pending ≠ [] ∧ (packing.size + (encodeRecord r.2).length > MAX_SET_BODY ∨
          r.1 ≠ packing.templateId)) ↔
        (held ≠ [] ∧ joins held r = false) := by
      rw [pending, size, Ne, Ne, List.map_eq_nil_iff]
      refine and_congr_right fun filled => ?_
      rw [id filled, joins, decide_eq_false_iff_not, not_and_or, Nat.not_le]
    unfold greedy
    rw [List.foldl_cons]
    by_cases closed : held ≠ [] ∧ joins held r = false
    · rw [if_pos closed, List.foldl_cons]
      have step : Packing.add env packing r = { packing.flush env with
          templateId := r.1
          size := 0 + (encodeRecord r.2).length
          pending := [] ++ [.data r.2] } := by
        unfold Packing.add
        dsimp only
        rw [if_pos (closes.mpr closed)]
        rfl
      have next : (sendHeld env (packing.result, packing.world) held) =
          ((packing.flush env).result, (packing.flush env).world) := by
        rw [sendHeld, Packing.flush, pending, id closed.1]
      rw [step, next]
      exact ih [r] _ rfl (by simp [bodySize]) fun _ => rfl
    · rw [if_neg closed]
      have step : Packing.add env packing r = { packing with
          templateId := r.1
          size := packing.size + (encodeRecord r.2).length
          pending := packing.pending ++ [.data r.2] } := by
        unfold Packing.add
        dsimp only
        rw [if_neg (closes.not.mpr closed)]
      rw [step]
      refine ih (held ++ [r]) _ ?_ ?_ fun _ => (heldId_snoc held r).symm
      · rw [List.map_append, pending]
        rfl
      · rw [bodySize_snoc, size]

/-- The messages are those of greedy packing, each tried whatever became of the ones before. -/
theorem sendRecords_eq (records : List (UInt16 × Ipfix.DataRecord)) (w : World E) :
    sendRecords env records w = (greedy joins [] records).foldl (sendHeld env) (.ok (), w) :=
  foldl_add env records [] _ rfl rfl fun filled => absurd rfl filled

end

/-! ### Sizes -/

theorem length_encode (header : Header) (id : UInt16) (records : List Record) :
    (IpfixPacket.encode ⟨header, [⟨id, 0, records⟩]⟩).length =
      IPFIX_HEADER_SIZE + SET_HEADER_SIZE + (records.flatMap Record.encode).length := by
  simp only [IpfixPacket.encode, Ipfix.Set.encode, List.flatMap_cons, List.flatMap_nil,
    List.length_append, List.length_nil, putU16, putU32, BigEndian.length_bytes, IPFIX_HEADER_SIZE,
    SET_HEADER_SIZE]
  omega

theorem length_encode_held (header : Header) (id : UInt16)
    (held : List (UInt16 × Ipfix.DataRecord)) :
    (IpfixPacket.encode ⟨header, [⟨id, 0, held.map fun r => .data r.2⟩]⟩).length =
      IPFIX_HEADER_SIZE + SET_HEADER_SIZE + bodySize held := by
  have body : ((held.map fun r => Record.data r.2).flatMap Record.encode).length =
      bodySize held := by
    rw [List.length_flatMap, List.map_map]
    rfl
  rw [length_encode, body]

/-! ### Sequence numbers -/

/-- The data records in a message, of either kind. -/
def dataRecords (packet : IpfixPacket) : Nat :=
  (packet.sets.map fun set => (set.records.filterMap Record.dataRecord?).length).sum

section
variable {E : Type} (env : Surroundings E)

/-- The data records of the messages that were sent. -/
def dataRecordsSent (journal : List (Attempt E)) : Nat :=
  (journal.map fun attempt => if attempt.outcome.isOk then dataRecords attempt.packet else 0).sum

/-- Every message tried is numbered by what was sent before it, and so will the next one be. -/
structure Numbered (w : World E) : Prop where
  next : w.exporter.sequenceNumber = UInt32.ofNat (dataRecordsSent w.journal)
  each : ∀ before attempt after, w.journal = before ++ attempt :: after →
    attempt.packet.header.sequenceNumber = UInt32.ofNat (dataRecordsSent before)

theorem dataRecordsSent_snoc (journal : List (Attempt E)) (attempt : Attempt E) :
    dataRecordsSent (journal ++ [attempt]) =
      dataRecordsSent journal + if attempt.outcome.isOk then dataRecords attempt.packet else 0 := by
  simp [dataRecordsSent]

theorem Numbered.each_snoc {w : World E} (numbered : Numbered w) {attempt : Attempt E}
    (stamped : attempt.packet.header.sequenceNumber = w.exporter.sequenceNumber)
    (before : List (Attempt E)) (found : Attempt E) (after : List (Attempt E))
    (split : w.journal ++ [attempt] = before ++ found :: after) :
    found.packet.header.sequenceNumber = UInt32.ofNat (dataRecordsSent before) := by
  rcases List.eq_nil_or_concat after with rfl | ⟨init, last, rfl⟩
  · obtain ⟨rfl, same⟩ := List.append_inj' split rfl
    cases same
    exact stamped.trans numbered.next
  · have whole : w.journal ++ [attempt] = (before ++ found :: init) ++ [last] := by
      rw [split]
      simp
    have inner : w.journal = before ++ found :: init := (List.append_inj' whole rfl).1
    exact numbered.each before found init inner

/-- One more message in the journal, with the given sets. -/
structure Tried (w w' : World E) (sets : List Ipfix.Set) (attempt : Attempt E) : Prop where
  sets : attempt.packet.sets = sets
  stamped : attempt.packet.header.sequenceNumber = w.exporter.sequenceNumber
  journal : w'.journal = w.journal ++ [attempt]

theorem sendData_spec (id : UInt16) (records : List Record) (w : World E) :
    ∃ attempt, Tried w (sendData env id records w).2 [⟨id, 0, records⟩] attempt ∧
      (sendData env id records w).1 = attempt.outcome ∧
      (sendData env id records w).2.exporter.sequenceNumber = w.exporter.sequenceNumber +
        if attempt.outcome.isOk then UInt32.ofNat records.length else 0 := by
  unfold sendData sendSets
  dsimp only
  generalize hpacket : IpfixPacket.mk _ _ = packet
  have stamped : packet.header.sequenceNumber = w.exporter.sequenceNumber := by rw [← hpacket]
  have sets : packet.sets = [⟨id, 0, records⟩] := by rw [← hpacket]
  rcases outcome : env.sendTo w.journal.length packet.encode with e | ⟨⟩
  · exact ⟨⟨packet, .error e⟩, ⟨sets, stamped, rfl⟩, rfl, (UInt32.add_zero _).symm⟩
  · exact ⟨⟨packet, .ok ()⟩, ⟨sets, stamped, rfl⟩, rfl, rfl⟩

/-- The sets of the template message. -/
def templateSets (mode : Mode) (sampling : Sampling) : List Ipfix.Set := [
  { id := IPFIX_TEMPLATE_SET_ID, length := 0, records := (createTemplates mode).map .template },
  { id := IPFIX_OPTIONS_TEMPLATE_SET_ID, length := 0,
    records := [.optionsTemplate (createOptionsTemplate sampling)] }]

theorem sendTemplates_spec (w : World E) :
    ∃ attempt, Tried w (sendTemplates env w).2
      (templateSets w.exporter.mode w.exporter.sampling) attempt ∧
      dataRecords attempt.packet = 0 ∧ (sendTemplates env w).2.exporter.sequenceNumber =
        w.exporter.sequenceNumber := by
  unfold sendTemplates sendSets
  dsimp only
  generalize hpacket : IpfixPacket.mk _ _ = packet
  have stamped : packet.header.sequenceNumber = w.exporter.sequenceNumber := by rw [← hpacket]
  have sets : packet.sets = templateSets w.exporter.mode w.exporter.sampling := by
    rw [← hpacket]
    rfl
  have none : dataRecords packet = 0 := by
    have templates : ∀ records : List TemplateRecord,
        (records.map Record.template).filterMap Record.dataRecord? = [] := by
      intro records
      induction records with
      | nil => rfl
      | cons record records ih => exact ih
    rw [dataRecords, sets, templateSets, List.map_cons, templates]
    rfl
  rcases outcome : env.sendTo w.journal.length packet.encode with e | ⟨⟩
  · exact ⟨⟨packet, .error e⟩, ⟨sets, stamped, rfl⟩, none, rfl⟩
  · exact ⟨⟨packet, .ok ()⟩, ⟨sets, stamped, rfl⟩, none, rfl⟩

theorem sampling_sendTemplates (w : World E) :
    (sendTemplates env w).2.exporter.sampling = w.exporter.sampling := by
  unfold sendTemplates sendSets
  dsimp only
  split
  case _ run => exact congrArg (fun sent => sent.2.exporter.sampling) run.symm
  case _ run => exact congrArg (fun sent => sent.2.exporter.sampling) run.symm

theorem sendData_numbered {w : World E} (numbered : Numbered w) (id : UInt16)
    {records : List Record} (all : (records.filterMap Record.dataRecord?).length = records.length) :
    Numbered (sendData env id records w).2 := by
  obtain ⟨attempt, tried, _, count⟩ := sendData_spec env id records w
  have held : dataRecords attempt.packet = records.length := by
    rw [dataRecords, tried.sets]
    simpa using all
  constructor
  · rw [count, numbered.next, tried.journal, dataRecordsSent_snoc, UInt32.ofNat_add, held]
    split <;> rfl
  · rw [tried.journal]
    exact numbered.each_snoc tried.stamped

theorem sendTemplates_numbered {w : World E} (numbered : Numbered w) :
    Numbered (sendTemplates env w).2 := by
  obtain ⟨attempt, tried, none, count⟩ := sendTemplates_spec env w
  constructor
  · rw [count, numbered.next, tried.journal, dataRecordsSent_snoc, none, ite_self, Nat.add_zero]
  · rw [tried.journal]
    exact numbered.each_snoc tried.stamped

/-- The messages tried for some bins, each with its records, and what comes of them together. -/
theorem foldl_sendHeld (bins : List (List (UInt16 × Ipfix.DataRecord))) (result : Except E Unit)
    (w : World E) (numbered : Numbered w) : ∃ attempts,
      (bins.foldl (sendHeld env) (result, w)).2.journal = w.journal ++ attempts ∧
      attempts.map (·.packet.sets) =
        bins.map (fun held => [⟨heldId held, 0, held.map fun r => .data r.2⟩]) ∧
      (bins.foldl (sendHeld env) (result, w)).1 =
        attempts.foldl (fun result a => andThen result a.outcome) result ∧
      Numbered (bins.foldl (sendHeld env) (result, w)).2 := by
  induction bins generalizing result w with
  | nil => exact ⟨[], (List.append_nil _).symm, rfl, rfl, numbered⟩
  | cons held bins ih =>
    have all : ∀ held : List (UInt16 × Ipfix.DataRecord),
        ((held.map fun r => Record.data r.2).filterMap Record.dataRecord?).length =
          (held.map fun r => Record.data r.2).length := by
      intro held
      induction held with
      | nil => rfl
      | cons r held ih => exact congrArg (· + 1) ih
    obtain ⟨attempt, tried, outcome, _⟩ :=
      sendData_spec env (heldId held) (held.map fun r => .data r.2) w
    obtain ⟨attempts, journal, sets, results, numbered'⟩ :=
      ih (andThen result attempt.outcome)
        _ (sendData_numbered env numbered (heldId held) (all held))
    have step : sendHeld env (result, w) held =
        (andThen result attempt.outcome,
          (sendData env (heldId held) (held.map fun r => .data r.2) w).2) := by
      rw [sendHeld, ← outcome]
    rw [List.foldl_cons, step]
    refine ⟨attempt :: attempts, ?_, ?_, results, numbered'⟩
    · rw [journal, tried.journal, List.append_assoc, List.singleton_append]
    · rw [List.map_cons, List.map_cons, tried.sets, sets]

/-! ### Runs -/

def Records.toList : Records → List (UInt16 × Ipfix.DataRecord)
  | .flows all => flowRecords all
  | .packets all => packetRecords all

theorem send_eq (records : Records) (w : World E) :
    send env records w = sendRecords env records.toList w := by
  cases records with
  | flows flows => cases flows <;> rfl
  | packets packets => rfl

theorem numbered_run (calls : List Call) (w : World E) (numbered : Numbered w) :
    Numbered (World.run env w calls) := by
  induction calls generalizing w with
  | nil => exact numbered
  | cons call calls ih =>
    refine ih _ ?_
    cases call with
    | sendTemplates => exact sendTemplates_numbered env numbered
    | sendOptionsData => exact sendData_numbered env numbered OPTIONS_TEMPLATE_ID rfl
    | send records =>
      obtain ⟨_, _, _, _, numbered'⟩ :=
        foldl_sendHeld env (greedy joins [] records.toList) (.ok ()) w numbered
      rw [World.call, send_eq, sendRecords_eq]
      exact numbered'

/-- Every message tried is of the exporter's domain. -/
structure Stamped (domain : UInt32) (w : World E) : Prop where
  exporter : w.exporter.observationDomainId = domain
  each : ∀ attempt ∈ w.journal,
    attempt.packet.header.version = IPFIX_VERSION ∧
      attempt.packet.header.observationDomainId = domain

section
variable {domain : UInt32} {w : World E} (stamped : Stamped domain w)
include stamped

theorem sendSets_stamped (sets : List Ipfix.Set) : Stamped domain (sendSets env sets w).2 := by
  refine ⟨stamped.exporter, fun attempt mem => ?_⟩
  rcases List.mem_append.mp mem with before | last
  · exact stamped.each attempt before
  · obtain rfl := List.mem_singleton.mp last
    exact ⟨rfl, stamped.exporter⟩

theorem sendData_stamped (id : UInt16) (records : List Record) :
    Stamped domain (sendData env id records w).2 := by
  have sent := sendSets_stamped env stamped [{ id, length := 0, records }]
  unfold sendData
  dsimp only
  split
  case _ run => rwa [run] at sent
  case _ run =>
    rw [run] at sent
    exact ⟨sent.exporter, sent.each⟩

theorem sendTemplates_stamped : Stamped domain (sendTemplates env w).2 := by
  have sent := sendSets_stamped env stamped (templateSets w.exporter.mode w.exporter.sampling)
  unfold sendTemplates
  dsimp only
  split
  case _ run => rwa [templateSets, run] at sent
  case _ run =>
    rw [templateSets, run] at sent
    exact ⟨sent.exporter, sent.each⟩

theorem stamped_run (calls : List Call) : Stamped domain (World.run env w calls) := by
  refine List.foldlRecOn calls (World.call env) stamped fun w stamped call _ => ?_
  cases call with
  | sendTemplates => exact sendTemplates_stamped env stamped
  | sendOptionsData => exact sendData_stamped env stamped ..
  | send records =>
    rw [World.call, send_eq, sendRecords_eq]
    exact List.foldlRecOn (motive := fun sent => Stamped domain sent.2)
      (b := (.ok (), w)) _ (sendHeld env) stamped
      fun sent stamped held _ => sendData_stamped env stamped ..

end

end

/-- The records of a message, all of one template. -/
structure Message where
  templateId : UInt16
  records : List Ipfix.DataRecord

def Message.sets (self : Message) : List Ipfix.Set := [⟨self.templateId, 0, self.records.map .data⟩]

/-- A message that could not have held the first record of the next one. -/
def Full (message next : Message) : Prop :=
  ∃ r rest, next.records = r :: rest ∧ (next.templateId ≠ message.templateId ∨ ∀ header,
    MAX_MESSAGE_SIZE < (IpfixPacket.encode ⟨header,
      Message.sets ⟨message.templateId, message.records ++ [r]⟩⟩).length)

/-- The messages that hold some records: in order and each exactly once, within the limit on their
size, and each one full. -/
structure PackedAs (records : List (UInt16 × Ipfix.DataRecord)) (messages : List Message) :
    Prop where
  whole : messages.flatMap (fun message => message.records.map (message.templateId, ·)) = records
  nonempty : ∀ message ∈ messages, message.records ≠ []
  within : ∀ message ∈ messages, ∀ header,
    (IpfixPacket.encode ⟨header, message.sets⟩).length ≤ MAX_MESSAGE_SIZE
  full : messages.IsChain Full

def toMessage (held : List (UInt16 × Ipfix.DataRecord)) : Message :=
  ⟨heldId held, held.map Prod.snd⟩

theorem packedAs_greedy {records : List (UInt16 × Ipfix.DataRecord)}
    (small : ∀ r ∈ records, (encodeRecord r.2).length ≤ MAX_SET_BODY) :
    PackedAs records ((greedy joins [] records).map toMessage) := by
  have sets : ∀ held, (toMessage held).sets = [⟨heldId held, 0, held.map fun r => .data r.2⟩] := by
    intro held
    rw [Message.sets, toMessage, List.map_map]
    rfl
  -- What every bin keeps: it fits, and its records are of one template.
  have bins := greedy_forall joins []
    (P := fun held => bodySize held ≤ MAX_SET_BODY ∧ ∀ r ∈ held, r.1 = heldId held)
    (fun r mem => ⟨by simpa [bodySize] using small r mem, fun r' mem' => by
      cases List.mem_singleton.mp mem'
      rfl⟩)
    (fun held _ ⟨_, same⟩ r _ joined => by
      obtain ⟨fits, sameId⟩ := of_decide_eq_true joined
      refine ⟨by rw [bodySize_snoc]; exact fits, fun r' mem => ?_⟩
      rw [heldId_snoc]
      rcases List.mem_append.mp mem with before | last
      · exact (same r' before).trans sameId.symm
      · rw [List.mem_singleton.mp last])
    (fun filled => absurd rfl filled)
  refine ⟨?_, ?_, ?_, ?_⟩
  · have each : ∀ held ∈ greedy joins [] records,
        (toMessage held).records.map ((toMessage held).templateId, ·) = held := by
      intro held mem
      rw [toMessage, List.map_map]
      refine (List.map_congr_left fun r inside => ?_).trans (List.map_id held)
      exact Prod.ext ((bins held mem).2.2 r inside).symm rfl
    rw [List.flatMap_map, List.flatMap_def, List.map_congr_left each, List.map_id', greedy_flatten,
      List.nil_append]
  · intro message mem
    obtain ⟨held, inside, rfl⟩ := List.mem_map.mp mem
    exact List.map_eq_nil_iff.not.mpr (bins held inside).1
  · intro message mem header
    obtain ⟨held, inside, rfl⟩ := List.mem_map.mp mem
    rw [sets, length_encode_held]
    have := (bins held inside).2.1
    simp only [MAX_SET_BODY, MAX_MESSAGE_SIZE, IPFIX_HEADER_SIZE, SET_HEADER_SIZE] at this ⊢
    omega
  · refine (List.isChain_map toMessage).mpr ((greedy_isChain records).1.imp_of_mem_imp ?_)
    rintro held next - inside ⟨r, rest, rfl, apart⟩
    refine ⟨r.2, rest.map Prod.snd, rfl, ?_⟩
    have nextId : (toMessage (r :: rest)).templateId = r.1 :=
      ((bins _ inside).2.2 r List.mem_cons_self).symm
    rw [joins, decide_eq_false_iff_not, not_and_or, Nat.not_le] at apart
    rcases apart with large | other
    · refine .inr fun header => ?_
      have grown :
          (Message.mk (toMessage held).templateId ((toMessage held).records ++ [r.2])).sets =
          [⟨heldId held, 0, (held ++ [r]).map fun r => .data r.2⟩] := by
        simp [Message.sets, toMessage]
      rw [grown, length_encode_held, bodySize_snoc]
      simp only [MAX_SET_BODY, MAX_MESSAGE_SIZE, IPFIX_HEADER_SIZE, SET_HEADER_SIZE] at large ⊢
      omega
    · exact .inl (nextId.symm ▸ other)

section
variable {E : Type} (env : Surroundings E)

/-- A call tries the messages that its records are packed in. -/
theorem send_packed {w : World E} (numbered : Numbered w) (records : Records)
    (small : ∀ r ∈ records.toList, (encodeRecord r.2).length ≤ MAX_SET_BODY) :
    ∃ messages attempts, PackedAs records.toList messages ∧ (send env records w).2.journal =
      w.journal ++ attempts ∧
      attempts.map (·.packet.sets) = messages.map Message.sets ∧
      (send env records w).1 = attempts.foldl (fun result a => andThen result a.outcome)
        (.ok ()) := by
  obtain ⟨attempts, journal, sets, result, _⟩ :=
    foldl_sendHeld env (greedy joins [] records.toList) (.ok ()) w numbered
  rw [send_eq, sendRecords_eq]
  refine ⟨_, attempts, packedAs_greedy small, journal, ?_, result⟩
  rw [sets, List.map_map]
  refine List.map_congr_left fun held _ => ?_
  simp [Message.sets, toMessage]

theorem numbered_new (observationDomainId : UInt32) (mode : Mode) (sampling : Sampling)
    (now : Instant) :
    Numbered (World.new observationDomainId mode sampling now : World E) := by
  refine ⟨rfl, fun before attempt after split => ?_⟩
  have := congrArg List.length split
  simp [World.new] at this

end

/-! ### Main result -/

/-- In every run, whichever messages fail: each message tried is numbered by the data records of
those sent before it, and a call tries all the messages that its records are packed in, in order,
and returns the first error. -/
theorem exporter_packs_and_numbers {E : Type} (env : Surroundings E) (observationDomainId : UInt32)
    (mode : Mode) (sampling : Sampling) (now : Instant) (calls : List Call)
    (small : ∀ records, .send records ∈ calls → ∀ r ∈ records.toList, (encodeRecord r.2).length ≤
      MAX_SET_BODY) :
    let w : World E := World.new observationDomainId mode sampling now
    (∀ before attempt after, (w.run env calls).journal = before ++ attempt :: after →
      attempt.packet.header.sequenceNumber.toNat = dataRecordsSent before % 2 ^ 32) ∧
    ∀ before records after, calls = before ++ .send records :: after →
      ∃ messages attempts, PackedAs records.toList messages ∧
        (send env records (w.run env before)).2.journal = (w.run env before).journal ++ attempts ∧
        attempts.map (·.packet.sets) = messages.map Message.sets ∧
        (send env records (w.run env before)).1 =
          attempts.foldl (fun result a => andThen result a.outcome) (.ok ()) := by
  intro w
  have fresh : Numbered w := numbered_new observationDomainId mode sampling now
  refine ⟨fun before attempt after split => ?_, ?_⟩
  · rw [(numbered_run env calls w fresh).each before attempt after split]
    exact UInt32.toNat_ofNat'
  · rintro before records after rfl
    exact send_packed env (numbered_run env before w fresh) records (small records (by simp))

/-- A network on which the second and the third message are lost. -/
def lossy : Surroundings Unit where
  utcNow _ := ⟨0⟩
  sendTo n _ := if n = 1 ∨ n = 2 then .error () else .ok ()
  now n := n

def flowTo (address : UInt32) : Flow :=
  (Flow.new ⟨.v4 0x0a000001, .v4 address, 6, 1, 2⟩ ⟨⟨0⟩, 0⟩).update 100 0 ⟨⟨0⟩, 0⟩

def oneFlow : Flow := flowTo 0x0a000002

def fortyFlows : List Flow := (List.range 40).map fun n => flowTo (UInt32.ofNat (0x0a000002 + n))

def introduction : List Call := [.sendTemplates, .sendOptionsData]

/-- The options are lost and the first of the two messages that the flows are packed in. -/
theorem lossy_numbers :
    let w : World Unit := World.new 1 .flow (.count 10) 0
    let ran := w.run lossy (introduction ++ .send (.flows fortyFlows) :: [])
    let sent := send lossy (.flows fortyFlows) (w.run lossy introduction)
    ran.journal.map (fun attempt => (attempt.packet.header.sequenceNumber,
      attempt.packet.sets.map fun set => set.records.length, attempt.outcome.isOk)) =
        [(0, [2, 1], true), (0, [1], false), (0, [28], false), (0, [12], true)] ∧
    sent.1 = .error () ∧
    (∀ before attempt after, ran.journal = before ++ attempt :: after →
      attempt.packet.header.sequenceNumber.toNat = dataRecordsSent before % 2 ^ 32) ∧
    ∃ messages attempts, PackedAs (Records.flows fortyFlows).toList messages ∧
      sent.2.journal = (w.run lossy introduction).journal ++ attempts ∧
      attempts.map (·.packet.sets) = messages.map Message.sets ∧
      sent.1 = attempts.foldl (fun result a => andThen result a.outcome) (.ok ()) := by
  have both :=
    exporter_packs_and_numbers lossy 1 .flow (.count 10) 0
      (introduction ++ .send (.flows fortyFlows) :: [])
    fun records mem => by
      have same : records = .flows fortyFlows := by simpa [introduction] using mem
      subst same
      decide +kernel
  exact ⟨by decide +kernel, by decide +kernel, both.1, both.2 introduction (.flows fortyFlows) [] rfl⟩

end Rustflow.Export
