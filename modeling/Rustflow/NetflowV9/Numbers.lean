import Rustflow.Common.Numbers
import Rustflow.NetflowV9.Convert

/-!
# The numbers of a NetFlow v9 record

Of each numeric field the number that the record states last, and that the flow has it whole.
-/

namespace Rustflow.NetflowV9
open NumericField

def unsigned : FieldValue → Option Nat
  | .unsigned8 v => some v.toNat
  | .unsigned16 v => some v.toNat
  | .unsigned32 v => some v.toNat
  | .unsigned64 v => some v.toNat
  | _ => none

theorem extractU64_toNat (value : FieldValue) :
    (extractU64 value).map UInt64.toNat = unsigned value := by
  cases value <;> rfl

theorem extractU32_toNat (value : FieldValue) :
    (extractU32 value).map UInt32.toNat = (unsigned value).bind (keep .samplingRate) := by
  rw [← extractU64_toNat]
  exact number_put_self (CommonFlow.new .netflowV9) .samplingRate (extractU64 value)

def etypeOf (ie : InformationElement) (value : FieldValue) : Option Nat :=
  match ie with
  | .sourceIpv4Address => (extractIpv4 value).map fun _ => 0x0800
  | .sourceIpv6Address => (extractIpv6 value).map fun _ => 0x86dd
  | _ => none

namespace NetFlowV9Context

theorem setField_put (self : NetFlowV9Context) (flow : CommonFlow) {ie : InformationElement}
    {g : NumericField} (numeric : ie.numericField = some g) (value : FieldValue) :
    self.setField flow ie value = flow.put g (extractU64 value) := by
  cases ie <;> first | (obtain rfl := Option.some.inj numeric; rfl) | nomatch numeric

theorem number_setField (self : NetFlowV9Context) (flow : CommonFlow) (ie : InformationElement)
    (value : FieldValue) (f : NumericField) :
    (self.setField flow ie value).number f =
      ((ie.states (unsigned value) (etypeOf ie value) f).map fun n => n.bind f.keep).getD
        (flow.number f) := by
  cases numeric : ie.numericField with
  | some g =>
    rw [setField_put self flow numeric]
    exact InformationElement.number_put numeric flow (extractU64_toNat value) _ f
  | none =>
    unfold InformationElement.states
    rw [numeric]
    cases ie with
    | sourceIpv4Address | destinationIpv4Address | ipNextHopIpv4Address | bgpNextHopIpv4Address =>
      unfold setField etypeOf
      cases extractIpv4 value <;> cases f <;> rfl
    | sourceIpv6Address | destinationIpv6Address | ipNextHopIpv6Address | bgpNextHopIpv6Address =>
      unfold setField etypeOf
      cases extractIpv6 value <;> cases f <;> rfl
    | sourceMacAddress | postSourceMacAddress | destinationMacAddress | postDestinationMacAddress =>
      unfold setField etypeOf
      cases extractMac value <;> cases f <;> rfl
    | icmpTypeCodeIpv4 | icmpTypeCodeIpv6 =>
      unfold setField etypeOf
      cases extractU16 value <;> cases f <;> rfl
    | _ => first | exact absurd numeric (by decide) | (cases f <;> rfl)

/-! ### A record -/

end NetFlowV9Context

/-- What an entry of a record states of a field. -/
def states (entry : TemplateField × String × FieldValue) (f : NumericField) : Option (Option Nat) :=
  (InformationElement.fromId entry.1.type).bind fun ie =>
    ie.states (unsigned entry.2.2) (etypeOf ie entry.2.2) f

def isRate (ie : InformationElement) : Bool :=
  ie = .samplingInterval ∨ ie = .samplingPacketInterval ∨ ie = .samplerRandomInterval

/-- The rate that an entry states, when it is one that fits. -/
def rateOf (entry : TemplateField × String × FieldValue) : Option UInt32 :=
  (InformationElement.fromId entry.1.type).bind fun ie => if isRate ie then
    extractU32 entry.2.2 else none

def statedRate (entry : TemplateField × String × FieldValue) : Option Nat :=
  (InformationElement.fromId entry.1.type).bind fun ie =>
    if isRate ie then (unsigned entry.2.2).bind (keep .samplingRate) else none

namespace NetFlowV9Context

/-- The wire value that a field is filled from: the last one stated, but of the rates the first that
fits, or else the one of the context. -/
def wire (self : NetFlowV9Context) (record : DataRecord) : NumericField → Option Nat
  | .samplingRate => (record.iter.findSome? statedRate).or (self.samplingRate.map UInt32.toNat)
  | f => (lastStated states record.iter f).join

theorem number_readField (self : NetFlowV9Context) (draft : Draft)
    (entry : TemplateField × String × FieldValue) (f : NumericField) :
    (self.readField draft entry.1 entry.2.2).flow.number f =
      ((states entry f).map fun n => n.bind f.keep).getD (draft.flow.number f) := by
  unfold readField states
  cases InformationElement.fromId entry.1.type with
  | none => rfl
  | some ie =>
    have set := number_setField self draft.flow ie entry.2.2 f
    cases ie <;> exact set

theorem recordRate_readField (self : NetFlowV9Context) (draft : Draft)
    (entry : TemplateField × String × FieldValue) :
    (self.readField draft entry.1 entry.2.2).recordRate = draft.recordRate.or (rateOf entry) := by
  unfold readField rateOf
  cases InformationElement.fromId entry.1.type with
  | none => exact Option.or_none.symm
  | some ie => cases ie <;> first | rfl | exact Option.or_none.symm

theorem rateOf_toNat (entry : TemplateField × String × FieldValue) :
    (rateOf entry).map UInt32.toNat = statedRate entry := by
  unfold rateOf statedRate
  cases InformationElement.fromId entry.1.type with
  | none => rfl
  | some ie =>
    simp only [Option.bind_some]
    split
    · exact extractU32_toNat entry.2.2
    · rfl

def draftOf (self : NetFlowV9Context) (record : DataRecord) (templateId : UInt16) : Draft :=
  record.iter.foldl (fun draft entry => self.readField draft entry.1 entry.2.2)
    { flow := { CommonFlow.new .netflowV9 with
        sequenceNum := self.header.sequenceNumber
        samplerAddress := self.samplerAddress
        observationDomainId := some self.header.sourceId
        templateId := some templateId } }

theorem number_draftOf (self : NetFlowV9Context) (record : DataRecord) (templateId : UInt16)
    (f : NumericField) :
    (self.draftOf record templateId).flow.number f =
      (lastStated states record.iter f).join.bind f.keep := by
  refine (number_entries Draft.flow self.number_readField record.iter _ f).trans ?_
  have blank : ∀ known, known = none →
      ((lastStated states record.iter f).map fun n => n.bind f.keep).getD known =
        (lastStated states record.iter f).join.bind f.keep := by
    rintro _ rfl
    cases lastStated states record.iter f <;> rfl
  apply blank
  cases f <;> rfl

theorem recordRate_draftOf (self : NetFlowV9Context) (record : DataRecord) (templateId : UInt16) :
    (self.draftOf record templateId).recordRate.map UInt32.toNat =
      record.iter.findSome? statedRate := by
  have first := Writes.foldl_first self.recordRate_readField record.iter
  unfold draftOf
  rw [first, Option.none_or, List.map_findSome?]
  exact congrArg (fun rate => record.iter.findSome? rate) (funext rateOf_toNat)

theorem number_convert (self : NetFlowV9Context) (record : DataRecord) (templateId : UInt16)
    (f : NumericField) :
    (self.convert record templateId).number f = (self.wire record f).bind f.keep := by
  have stated := self.number_draftOf record templateId f
  cases f with
  | samplingRate =>
    have rate :
        (self.convert record templateId).number .samplingRate = self.wire record .samplingRate := by
      show ((self.draftOf record templateId).recordRate.or self.samplingRate).map UInt32.toNat =
        Option.or _ _
      rw [Option.map_or, recordRate_draftOf]
    rw [← rate, CommonFlow.keep_number]
  | _ => exact stated

end NetFlowV9Context

end Rustflow.NetflowV9
