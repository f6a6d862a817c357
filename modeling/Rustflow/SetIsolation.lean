import Rustflow.Ipfix.Message
import Rustflow.NetflowV9.Steps

/-!
# Set isolation

Which messages lose sets. A set whose contents fail to parse takes itself and every later set of
the message away. Template sets never fail, and a data set fails exactly where its template makes
a record that uses nothing up, which `many0` refuses to repeat.
-/

namespace Rustflow
open Combinator BigEndian

/-! ### IPFIX -/

namespace Ipfix

section
variable (clock : Nat → Instant)

/-- The packet holds every set of the message, with its ID and length, in wire order, and what
follows the message is left. -/
def KeepsSets (w : World) (message : RawMessage) (rest : List UInt8) : Prop :=
  ∃ packet w', parse clock (message.header ++ message.body ++ rest) w = (some (rest, packet), w') ∧
    packet.sets.map (fun set => (set.id, set.length)) = message.sets.map RawSet.tag

/-- The set is described by a template in effect whose records use nothing up: it has fields, all of
length zero, and none of them is a list. -/
def Stalls (observationDomainId : UInt32) (w : World) (set : RawSet) : Prop :=
  IPFIX_VALID_TEMPLATE_ID_MIN ≤ set.id ∧ ∃ kind fields,
    effective clock w.parser.templates w.parser.optionsTemplates
      (observationDomainId, set.id) w.ticks =
      some (kind, fields) ∧ fields ≠ [] ∧ zeroWidth fields = true

/-- The state that reading a set leads to. -/
def afterSet (observationDomainId : UInt32) (w : World) (set : RawSet) : World :=
  (parseRecords clock observationDomainId set.id set.content w).2

variable {clock}

variable (clock) in
/-- Reading a set fails exactly where it stalls. -/
theorem parseRecords_isSome (domain : UInt32) (w : World) (set : RawSet) :
    (parseRecords clock domain set.id set.content w).1.isSome ↔ ¬ Stalls clock domain w set := by
  obtain ⟨kind, isTemplates⟩ | valid | ⟨notTemplates, invalid⟩ := setId_cases set.id
  · obtain ⟨rest, records, _, run⟩ := parseRecords_templates clock domain set.content w kind
    rw [isTemplates, run]
    have low : ¬ IPFIX_VALID_TEMPLATE_ID_MIN ≤ set.id := by
      rw [isTemplates]
      exact UInt16.not_le.mpr (setId_lt kind)
    simp [Stalls, low]
  · have data :=
      parseTemplatedRecords_isSome clock w.parser domain MAX_LIST_DEPTH domain set.id
        set.content w.ticks
    simp only [MAX_LIST_DEPTH, zeroWidthAt_succ] at data
    rw [parseRecords_data valid]
    change (parseDataSet clock w.parser domain set.id set.content w.ticks).1.isSome ↔ _ at data
    rcases run : parseDataSet clock w.parser domain set.id set.content w.ticks
      with ⟨_ | r, ticks⟩ <;>
      rw [run] at data <;> simpa [Stalls, valid] using data
  · rw [parseRecords_other notTemplates invalid]
    simp [Stalls, invalid]

/-- A message keeps its sets exactly when none of them stalls in its turn. -/
theorem keepsSets_iff (w : World) (message : RawMessage) (rest : List UInt8) :
    KeepsSets clock w message rest ↔
      Proceeds (fun w set => ¬ Stalls clock message.observationDomainId w set)
        (afterSet clock message.observationDomainId) w message.sets := by
  obtain ⟨left, sets, w', run, iff, _⟩ := many0_parseFramedSet
    (fun id length records => ({ id, length, records } : Set)) (fun set => (set.id, set.length))
    (parseRecords_isSome clock message.observationDomainId) (fun _ _ _ => rfl) message.sets w
  have first :
      (liftM parseHeader : ParserM World Header) (message.header ++ message.body ++ rest) w =
      (some (message.body ++ rest, message.parsed), w) := by
    rw [List.append_assoc]
    exact Prod.ext (reads_header message _) rfl
  have body : take (message.length.toNat - IPFIX_HEADER_SIZE) (message.body ++ rest) =
      some (rest, message.body) :=
    take_append rest (by rw [message.toNat_length]; omega)
  have parsed : parse clock (message.header ++ message.body ++ rest) w =
      (some (rest, ⟨message.parsed, sets⟩), w') := by
    rw [parse, bindM_of_some first]
    exact bindM_of_some (mapParser_eq_some.mpr ⟨message.body, left, body, run⟩)
  rw [KeepsSets, parsed]
  refine Iff.trans ⟨?_, ?_⟩ iff
  · rintro ⟨packet, _, same, kept⟩
    cases same
    exact kept
  · intro kept
    exact ⟨_, _, rfl, kept⟩

end
end Ipfix

/-! ### NetFlow v9 -/

namespace NetflowV9

/-- A packet with a valid header and a body made of FlowSets, whatever is in them. -/
structure RawPacket where
  count : UInt16
  systemUptime : UInt32
  unixSeconds : UInt32
  sequenceNumber : UInt32
  sourceId : UInt32
  flowSets : List RawSet

namespace RawPacket

def body (packet : RawPacket) : List UInt8 := packet.flowSets.flatMap RawSet.frame

def header (packet : RawPacket) : List UInt8 :=
  bytes 2 NETFLOW_V9_VERSION.toNat ++ bytes 2 packet.count.toNat ++
    bytes 4 packet.systemUptime.toNat ++
    bytes 4 packet.unixSeconds.toNat ++ bytes 4 packet.sequenceNumber.toNat ++
    bytes 4 packet.sourceId.toNat

end RawPacket

section
variable (clock : Nat → Instant)

/-- The packet holds every FlowSet, with its ID and length, in wire order, and nothing is left. -/
def KeepsFlowSets (w : World) (raw : RawPacket) : Prop :=
  ∃ packet w', parse clock (raw.header ++ raw.body) w = (some ([], packet), w') ∧
    packet.flowSets.map (fun set => (set.id, set.length)) = raw.flowSets.map RawSet.tag

/-- The FlowSet is described by a template in effect that has fields, all of length zero. -/
def Stalls (sourceId : UInt32) (w : World) (set : RawSet) : Prop :=
  (∀ kind, set.id ≠ TemplateKind.flowSetId kind) ∧ ∃ kind fields,
    effective clock w.parser.templates w.parser.optionsTemplates (sourceId, set.id) w.ticks =
      some (kind, fields) ∧
      fields ≠ [] ∧ zeroWidth fields = true

/-- The state that reading a FlowSet leads to. -/
def afterFlowSet (sourceId : UInt32) (w : World) (set : RawSet) : World :=
  (parseRecords clock sourceId set.id set.content w).2

variable {clock}

variable (clock) in
/-- Reading a FlowSet fails exactly where it stalls. -/
theorem parseRecords_isSome (sourceId : UInt32) (w : World) (set : RawSet) :
    (parseRecords clock sourceId set.id set.content w).1.isSome ↔
      ¬ Stalls clock sourceId w set := by
  by_cases isTemplates : ∃ kind, set.id = TemplateKind.flowSetId kind
  · obtain ⟨kind, same⟩ := isTemplates
    obtain ⟨rest, records, _, run⟩ := parseRecords_templates clock sourceId set.content w kind
    have quiet : ¬ Stalls clock sourceId w set := fun stalls => stalls.1 kind same
    rw [same, run]
    simp [quiet]
  · rw [not_exists] at isTemplates
    rw [parseRecords_data isTemplates, parseTemplatedRecords_isSome]
    simp [Stalls, isTemplates]

theorem reads_header (raw : RawPacket) :
    ∃ header, header.sourceId = raw.sourceId ∧ Reads parseHeader raw.header header := by
  refine ⟨⟨NETFLOW_V9_VERSION, raw.count, raw.systemUptime, ⟨raw.unixSeconds.toNat * 1000000000⟩,
    raw.sequenceNumber, raw.sourceId⟩, rfl, ?_⟩
  simp only [RawPacket.header, List.append_assoc]
  refine (reads_verifyVersion NETFLOW_V9_VERSION).bind ?_
  refine (reads_beU16 raw.count).bind ?_
  refine (reads_beU32 raw.systemUptime).bind ?_
  refine (reads_timestampSecs raw.unixSeconds).bind ?_
  refine (reads_beU32 raw.sequenceNumber).bind ?_
  exact (reads_beU32 raw.sourceId).map _

/-- A packet keeps its FlowSets exactly when none of them stalls in its turn. -/
theorem keepsFlowSets_iff (w : World) (raw : RawPacket) :
    KeepsFlowSets clock w raw ↔
      Proceeds (fun w set => ¬ Stalls clock raw.sourceId w set) (afterFlowSet clock raw.sourceId) w
        raw.flowSets := by
  obtain ⟨header, sameSource, readsHeader⟩ := reads_header raw
  obtain ⟨left, flowSets, w', run, iff, all⟩ := many0_parseFramedSet
    (fun id length records => ({ id, length, records } : FlowSet)) (fun set => (set.id, set.length))
    (parseRecords_isSome clock raw.sourceId) (fun _ _ _ => rfl) raw.flowSets w
  have first : (liftM parseHeader : ParserM World Header) (raw.header ++ raw.body) w =
      (some (raw.body, header), w) :=
    Prod.ext (readsHeader _) rfl
  have readsSets :
      many0 (parseFlowSet clock header.sourceId) raw.body w = (some (left, flowSets), w') := by
    rw [sameSource]
    exact run
  have parsed : parse clock (raw.header ++ raw.body) w = (some (left, ⟨header, flowSets⟩), w') := by
    rw [parse, bindM_of_some first]
    exact bindM_of_some readsSets
  rw [KeepsFlowSets, parsed]
  constructor
  · rintro ⟨packet, _, same, kept⟩
    cases same
    exact iff.mp kept
  · intro proceeds
    rw [all proceeds]
    exact ⟨_, _, rfl, iff.mpr proceeds⟩

end
end NetflowV9

/-! ### Main result -/

/-- Messages of both protocols keep all their sets exactly when none of them, in its turn, is data
of a template that has fields and no width. -/
theorem sets_kept_iff_none_stalls (clock : Nat → Instant) :
    (∀ (w : Ipfix.World) (message : Ipfix.RawMessage) (rest : List UInt8),
      Ipfix.KeepsSets clock w message rest ↔
        Proceeds (fun w set => ¬ Ipfix.Stalls clock message.observationDomainId w set)
          (Ipfix.afterSet clock message.observationDomainId) w message.sets) ∧
    (∀ (w : NetflowV9.World) (packet : NetflowV9.RawPacket),
      NetflowV9.KeepsFlowSets clock w packet ↔
        Proceeds (fun w set => ¬ NetflowV9.Stalls clock packet.sourceId w set)
          (NetflowV9.afterFlowSet clock packet.sourceId) w packet.flowSets) :=
  ⟨Ipfix.keepsSets_iff, NetflowV9.keepsFlowSets_iff⟩

/-- A template set whose only template has one field of length zero, a data set of that template,
and a set that a fresh parser should have kept. -/
def stallingSets (templateSetId : UInt16) : List RawSet :=
  [⟨templateSetId, [1, 0, 0, 1, 0, 1, 0, 0], by decide⟩, ⟨256, [], by decide⟩, ⟨512, [], by decide⟩]

/-- A fresh parser of either protocol loses two of those three sets. -/
theorem fresh_parsers_lose_sets :
    (¬ Ipfix.KeepsSets id (Ipfix.World.new id IERegistry.new 600) ⟨0, 0, 1,
      stallingSets 2, by decide⟩ []) ∧
    ¬ NetflowV9.KeepsFlowSets id (NetflowV9.World.new id IERegistry.new 600) ⟨3, 0, 0, 0, 1,
      stallingSets 0⟩ := by
  constructor
  · rintro ⟨packet, w', run, kept⟩
    have sets :=
      congrArg (fun r => r.1.map fun r => r.2.sets.map fun set => (set.id, set.length)) run
    simp only [Option.map_some, kept] at sets
    revert sets
    decide
  · rintro ⟨packet, w', run, kept⟩
    have sets :=
      congrArg (fun r => r.1.map fun r => r.2.flowSets.map fun set => (set.id, set.length)) run
    simp only [Option.map_some, kept] at sets
    revert sets
    decide

end Rustflow
