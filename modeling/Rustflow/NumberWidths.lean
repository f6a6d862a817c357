import Rustflow.Ipfix.Numbers
import Rustflow.NetflowV5.Parser
import Rustflow.NetflowV9.Numbers
import Rustflow.SflowV5.Numbers
import Rustflow.SflowV5.Parser

/-!
# The numbers of a flow are those of the wire

A number that is too wide for its field leaves the field unset, in every protocol but sFlow: there
some of them are cut.
-/

namespace Rustflow
open NumericField

/-- The fields of a record are as narrow as those of a flow, or narrower. -/
def NetflowV5.NetFlowV5Context.wire (self : NetflowV5.NetFlowV5Context)
    (record : NetflowV5.FlowRecord) :
    NumericField → Option Nat
  | .bytes => some record.dOckts.toNat
  | .packets => some record.dPkts.toNat
  | .etype => some 0x0800
  | .proto => some record.prot.toNat
  | .srcPort => some record.srcport.toNat
  | .dstPort => some record.dstport.toNat
  | .inIf => some record.input.toNat
  | .outIf => some record.output.toNat
  | .ipTos => some record.tos.toNat
  | .tcpFlags => some record.tcpFlags.toNat
  | .srcAs => some record.srcAs.toNat
  | .dstAs => some record.dstAs.toNat
  | .srcNet => some record.srcMask.toNat
  | .dstNet => some record.dstMask.toNat
  | .samplingRate => some self.header.samplingInterval.toNat
  | _ => none

theorem NetflowV5.NetFlowV5Context.notCut_convert (self : NetflowV5.NetFlowV5Context)
    (record : NetflowV5.FlowRecord) :
    (self.convert record).NotCut (self.wire record) := by
  have counter : ∀ {v : UInt32} {n : Nat}, counted v.toUInt64 = some n → some v.toNat = some n := by
    intro v n set
    rw [← UInt32.toNat_toUInt64]
    unfold counted at set
    split at set
    · nomatch set
    · exact set
  intro f n set
  cases f with
  | bytes | packets => exact counter set
  | _ => exact set

/-- What is converted: a record or a sample, with what is known around it. -/
inductive Conversion where
  | netflowV5 (context : NetflowV5.NetFlowV5Context) (record : NetflowV5.FlowRecord)
  | netflowV9 (context : NetflowV9.NetFlowV9Context) (record : NetflowV9.DataRecord)
      (templateId : UInt16)
  | ipfix (context : Ipfix.IpfixContext) (record : Ipfix.DataRecord) (templateId : UInt16)
  | flowSample (context : SflowV5.SFlowV5Context) (sample : SflowV5.FlowSample)
  | expandedFlowSample (context : SflowV5.SFlowV5Context) (sample : SflowV5.ExpandedFlowSample)

namespace Conversion
variable (etherparse : Etherparse)

def flow : Conversion → CommonFlow
  | netflowV5 context record => context.convert record
  | netflowV9 context record templateId => context.convert record templateId
  | ipfix context record templateId => context.convert etherparse record templateId
  | flowSample context sample => context.convertFlowSample etherparse sample
  | expandedFlowSample context sample => context.convertExpandedFlowSample etherparse sample

def wire : Conversion → NumericField → Option Nat
  | netflowV5 context record => context.wire record
  | netflowV9 context record _ => context.wire record
  | ipfix context record _ => context.wire etherparse record
  | flowSample _ sample => sample.wire etherparse
  | expandedFlowSample _ sample => sample.wire etherparse

/-- Of a sample the numbers that fill narrower fields are small enough for them. -/
def CastsFit : Conversion → Prop
  | flowSample _ sample => SflowV5.CastsFit (sample.wire etherparse)
  | expandedFlowSample _ sample => SflowV5.CastsFit (sample.wire etherparse)
  | _ => True

variable {etherparse}

/-- A flow holds no number that was cut exactly when none of those that records of a sample cast is
too wide for its field. -/
theorem notCut_iff_castsFit (promised : etherparse.InRange) (c : Conversion) :
    (c.flow etherparse).NotCut (c.wire etherparse) ↔ c.CastsFit etherparse := by
  cases c with
  | netflowV5 context record => exact iff_of_true (context.notCut_convert record) trivial
  | netflowV9 context record templateId =>
    exact iff_of_true (CommonFlow.notCut_of_keep (context.number_convert record templateId)) trivial
  | ipfix context record templateId =>
    exact iff_of_true (CommonFlow.notCut_of_keep
      (context.number_convert promised record templateId)) trivial
  | flowSample context sample => exact (SflowV5.shows_flowSample promised context sample).notCut_iff
  | expandedFlowSample context sample =>
    exact (SflowV5.shows_expandedFlowSample promised context sample).notCut_iff

/-! ### A port that is cut -/

/-- Finds no packet in no bytes, as in any others. -/
def noPackets : Etherparse :=
  ⟨fun _ => none, fun _ => none, fun _ => none, fun _ => none, fun _ => none, fun _ => none⟩

theorem noPackets_inRange : noPackets.InRange where
  ethernet _ _ sliced := absurd sliced (by simp [noPackets])
  ip _ _ sliced := absurd sliced (by simp [noPackets])

/-- A compact flow sample with one sampled IPv4 packet, from port 70000. -/
def widePortBytes : List UInt8 :=
  [1, 84, 1, 0, 1, 1, 0, 1, 2, 1, 3, 32, 64, 6, 0x0a000001, 0x0a000002, 70000,
    80, 0, 0].flatMap (BigEndian.bytes 4)

def agent : SflowV5.SFlowV5Context := ⟨⟨5, none, 0, 1, 0, []⟩⟩

def widePort : SflowV5.FlowSample where
  header := ⟨1, 84, 1, 0, 0⟩
  samplingRate := 1
  samplePool := 1
  drops := 0
  input := 1
  output := 2
  records := [⟨⟨3, 32⟩, .sampledIpv4 ⟨64, 6, 0x0a000001, 0x0a000002, 70000, 80, 0, 0⟩⟩]

theorem port_is_cut :
    SflowV5.parseFlowSample widePortBytes = some ([], widePort) ∧
      (agent.convertFlowSample noPackets widePort).number .srcPort = some 4464 ∧
      widePort.wire noPackets .srcPort = some 70000 ∧
      ¬((flowSample agent widePort).flow noPackets).NotCut
        ((flowSample agent widePort).wire noPackets) := by
  have left : (agent.convertFlowSample noPackets widePort).number .srcPort = some 4464 := rfl
  have filled : widePort.wire noPackets .srcPort = some 70000 := rfl
  refine ⟨rfl, left, filled, ?_⟩
  intro whole
  have same : widePort.wire noPackets .srcPort = some 4464 := whole .srcPort 4464 left
  rw [filled] at same
  exact absurd (Option.some.inj same) (by decide)

/-- The same sample of a packet from port 7000. -/
def narrowPort : SflowV5.FlowSample :=
  { widePort with records := [⟨⟨3, 32⟩,
    .sampledIpv4 ⟨64, 6, 0x0a000001, 0x0a000002, 7000, 80, 0, 0⟩⟩] }

theorem narrowPort_is_whole :
    (agent.convertFlowSample noPackets narrowPort).number .srcPort = some 7000 ∧
      ((flowSample agent narrowPort).flow noPackets).NotCut
        ((flowSample agent narrowPort).wire noPackets) := by
  refine ⟨rfl, (notCut_iff_castsFit noPackets_inRange (flowSample agent narrowPort)).mpr ?_⟩
  intro f cast n filled
  cases f with
  | etype | srcPort | dstPort | tcpFlags | proto | ipTos =>
    obtain rfl := Option.some.inj filled
    decide
  | srcNet | dstNet => nomatch filled
  | _ => nomatch cast

end Conversion

end Rustflow
