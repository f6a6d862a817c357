import Rustflow.Common.InformationElement
import Rustflow.Common.Packet
import Rustflow.Lib.Writes

/-!
# The numbers of a flow

A flow's numeric fields read at full width, so that they can be compared with the wire values that
filled them, whatever the width of either.
-/

namespace Rustflow

/-- The fields of a flow that hold one number of the wire. -/
inductive NumericField where
  | bytes | packets | etype | proto | srcPort | dstPort | inIf | outIf | ipTos | ipTtl | tcpFlags
  | ipv6FlowLabel | fragmentId | fragmentOffset | srcAs | dstAs | srcNet | dstNet | srcVlan
  | dstVlan | forwardingStatus | samplingRate
  deriving DecidableEq

namespace NumericField

def bits : NumericField → Nat
  | .proto | .ipTos | .ipTtl | .srcNet | .dstNet => 8
  | .etype | .srcPort | .dstPort | .tcpFlags | .fragmentOffset | .srcVlan | .dstVlan => 16
  | .inIf | .outIf | .ipv6FlowLabel | .fragmentId | .srcAs | .dstAs | .forwardingStatus
  | .samplingRate => 32
  | .bytes | .packets => 64

/-- A counter that is not set is 0. -/
def isCounter (f : NumericField) : Bool := f = .bytes ∨ f = .packets

/-- What a number leaves in a field that stays unset for one that does not fit. -/
def keep (f : NumericField) (n : Nat) : Option Nat :=
  if n < 2 ^ f.bits ∧ ¬(f.isCounter ∧ n = 0) then some n else none

theorem keep_eq_some {f : NumericField} {n m : Nat} :
    f.keep n = some m ↔ n = m ∧ n < 2 ^ f.bits ∧ ¬(f.isCounter ∧ n = 0) := by
  by_cases fits : n < 2 ^ f.bits ∧ ¬(f.isCounter ∧ n = 0)
  · rw [keep, if_pos fits]
    exact ⟨fun same => ⟨Option.some.inj same, fits⟩, fun h => congrArg some h.1⟩
  · rw [keep, if_neg fits]
    exact ⟨nofun, fun h => absurd h.2 fits⟩

theorem keep_bind_keep (f : NumericField) (x : Option Nat) :
    (x.bind f.keep).bind f.keep = x.bind f.keep := by
  cases x with
  | none => rfl
  | some n =>
    cases kept : f.keep n with
    | none => simp [kept]
    | some m =>
      obtain ⟨rfl, _⟩ := keep_eq_some.mp kept
      simp [kept]

theorem keep_or (f : NumericField) (x y : Option Nat) :
    ((x.bind f.keep).or y).bind f.keep = (x.bind f.keep).or (y.bind f.keep) := by
  have kept := keep_bind_keep f x
  cases first : x.bind f.keep with
  | none => rfl
  | some n =>
    rw [first] at kept
    exact kept

end NumericField

open NumericField

def counted (v : UInt64) : Option Nat := if v = 0 then none else some v.toNat

/-- The number in a field, `none` where it is not set. -/
def CommonFlow.number (flow : CommonFlow) : NumericField → Option Nat
  | .bytes => counted flow.bytes
  | .packets => counted flow.packets
  | .etype => flow.etype.map UInt16.toNat
  | .proto => flow.proto.map UInt8.toNat
  | .srcPort => flow.srcPort.map UInt16.toNat
  | .dstPort => flow.dstPort.map UInt16.toNat
  | .inIf => flow.inIf.map UInt32.toNat
  | .outIf => flow.outIf.map UInt32.toNat
  | .ipTos => flow.ipTos.map UInt8.toNat
  | .ipTtl => flow.ipTtl.map UInt8.toNat
  | .tcpFlags => flow.tcpFlags.map UInt16.toNat
  | .ipv6FlowLabel => flow.ipv6FlowLabel.map UInt32.toNat
  | .fragmentId => flow.fragmentId.map UInt32.toNat
  | .fragmentOffset => flow.fragmentOffset.map UInt16.toNat
  | .srcAs => flow.srcAs.map UInt32.toNat
  | .dstAs => flow.dstAs.map UInt32.toNat
  | .srcNet => flow.srcNet.map UInt8.toNat
  | .dstNet => flow.dstNet.map UInt8.toNat
  | .srcVlan => flow.srcVlan.map UInt16.toNat
  | .dstVlan => flow.dstVlan.map UInt16.toNat
  | .forwardingStatus => flow.forwardingStatus.map UInt32.toNat
  | .samplingRate => flow.samplingRate.map UInt32.toNat

/-- Every field of a flow is unset or holds the whole of the wire value it is filled from. -/
def CommonFlow.NotCut (flow : CommonFlow) (wire : NumericField → Option Nat) : Prop :=
  ∀ f n, flow.number f = some n → wire f = some n

theorem CommonFlow.notCut_of_keep {flow : CommonFlow} {wire : NumericField → Option Nat}
    (kept : ∀ f, flow.number f = (wire f).bind f.keep) : flow.NotCut wire := by
  intro f n set
  rw [kept f] at set
  obtain ⟨m, filled, kept⟩ := Option.bind_eq_some_iff.mp set
  exact (keep_eq_some.mp kept).1 ▸ filled

theorem keep_map {α : Type} {toNat : α → Nat} {f : NumericField} (plain : f.isCounter = false)
    (fits : ∀ v, toNat v < 2 ^ f.bits) (x : Option α) :
    (x.map toNat).bind f.keep = x.map toNat := by
  cases x with
  | none => rfl
  | some v => simp [keep, plain, fits v]

theorem keep_counted {f : NumericField} (counter : f.isCounter) (wide : f.bits = 64) (v : UInt64) :
    f.keep v.toNat = counted v := by
  have fits := v.toNat_lt
  by_cases zero : v = 0
  · subst zero
    simp [counted, keep, counter]
  · have nonzero : v.toNat ≠ 0 := fun h => zero (UInt64.toNat.inj h)
    simp [counted, keep, counter, wide, zero, nonzero, fits]

theorem CommonFlow.keep_number (flow : CommonFlow) (f : NumericField) :
    (flow.number f).bind f.keep = flow.number f := by
  have counters : ∀ v, f.isCounter = true → f.bits = 64 → (counted v).bind f.keep = counted v := by
    intro v counter wide
    rw [← keep_counted counter wide]
    exact keep_bind_keep f (some v.toNat)
  cases f with
  | bytes => exact counters flow.bytes rfl rfl
  | packets => exact counters flow.packets rfl rfl
  | proto | ipTos | ipTtl | srcNet | dstNet => exact keep_map rfl UInt8.toNat_lt _
  | etype | srcPort | dstPort | tcpFlags | fragmentOffset | srcVlan | dstVlan =>
    exact keep_map rfl UInt16.toNat_lt _
  | inIf | outIf | ipv6FlowLabel | fragmentId | srcAs | dstAs | forwardingStatus | samplingRate =>
    exact keep_map rfl UInt32.toNat_lt _

theorem counted_ite (a b : UInt64) :
    counted (if a = 0 then b else a) = (counted a).or (counted b) := by
  by_cases zero : a = 0 <;> simp [counted, zero]

theorem CommonFlow.number_new (flowType : FlowType) (f : NumericField) :
    (CommonFlow.new flowType).number f = none := by
  cases f <;> rfl

/-! ### Fields that stay unset for what does not fit -/

def CommonFlow.put (flow : CommonFlow) (f : NumericField) (v : Option UInt64) : CommonFlow :=
  let v8 := v.bind (tryFromU64 8 UInt8.ofNat)
  let v16 := v.bind (tryFromU64 16 UInt16.ofNat)
  let v32 := v.bind (tryFromU64 32 UInt32.ofNat)
  match f with
  | .bytes => { flow with bytes := v.getD 0 }
  | .packets => { flow with packets := v.getD 0 }
  | .etype => { flow with etype := v16 }
  | .proto => { flow with proto := v8 }
  | .srcPort => { flow with srcPort := v16 }
  | .dstPort => { flow with dstPort := v16 }
  | .inIf => { flow with inIf := v32 }
  | .outIf => { flow with outIf := v32 }
  | .ipTos => { flow with ipTos := v8 }
  | .ipTtl => { flow with ipTtl := v8 }
  | .tcpFlags => { flow with tcpFlags := v16 }
  | .ipv6FlowLabel => { flow with ipv6FlowLabel := v32 }
  | .fragmentId => { flow with fragmentId := v32 }
  | .fragmentOffset => { flow with fragmentOffset := v16 }
  | .srcAs => { flow with srcAs := v32 }
  | .dstAs => { flow with dstAs := v32 }
  | .srcNet => { flow with srcNet := v8 }
  | .dstNet => { flow with dstNet := v8 }
  | .srcVlan => { flow with srcVlan := v16 }
  | .dstVlan => { flow with dstVlan := v16 }
  | .forwardingStatus => { flow with forwardingStatus := v32 }
  | .samplingRate => { flow with samplingRate := v32 }

theorem map_tryFromU64 {α : Type} {bits : Nat} {ofNat : Nat → α} {toNat : α → Nat}
    (exact : ∀ n < 2 ^ bits, toNat (ofNat n) = n) (v : Option UInt64) :
    (v.bind (tryFromU64 bits ofNat)).map toNat = (v.map UInt64.toNat).bind fun n =>
      if n < 2 ^ bits then some n else none := by
  cases v with
  | none => rfl
  | some v =>
    by_cases small : v.toNat < 2 ^ bits
    · simp [tryFromU64, small, exact]
    · simp [tryFromU64, small]

theorem map_tryFromU8 (v : Option UInt64) :
    (v.bind (tryFromU64 8 UInt8.ofNat)).map UInt8.toNat = (v.map UInt64.toNat).bind fun n =>
      if n < 2 ^ 8 then some n else none :=
  map_tryFromU64 (fun _ small => UInt8.toNat_ofNat_of_lt' small) v

theorem map_tryFromU16 (v : Option UInt64) :
    (v.bind (tryFromU64 16 UInt16.ofNat)).map UInt16.toNat = (v.map UInt64.toNat).bind fun n =>
      if n < 2 ^ 16 then some n else none :=
  map_tryFromU64 (fun _ small => UInt16.toNat_ofNat_of_lt' small) v

theorem map_tryFromU32 (v : Option UInt64) :
    (v.bind (tryFromU64 32 UInt32.ofNat)).map UInt32.toNat = (v.map UInt64.toNat).bind fun n =>
      if n < 2 ^ 32 then some n else none :=
  map_tryFromU64 (fun _ small => UInt32.toNat_ofNat_of_lt' small) v

theorem counted_getD {f : NumericField} (counter : f.isCounter) (wide : f.bits = 64)
    (v : Option UInt64) :
    counted (v.getD 0) = (v.map UInt64.toNat).bind f.keep := by
  cases v with
  | none => rfl
  | some v => exact (keep_counted counter wide v).symm

theorem number_put_self (flow : CommonFlow) (f : NumericField) (v : Option UInt64) :
    (flow.put f v).number f = (v.map UInt64.toNat).bind f.keep := by
  have plain : f.isCounter = false → f.keep = fun n => if n < 2 ^ f.bits then some n else none := by
    intro notCounter
    funext n
    simp [keep, notCounter]
  cases f with
  | bytes => exact counted_getD rfl rfl v
  | packets => exact counted_getD rfl rfl v
  | proto | ipTos | ipTtl | srcNet | dstNet =>
    rw [plain rfl]
    exact map_tryFromU8 v
  | etype | srcPort | dstPort | tcpFlags | fragmentOffset | srcVlan | dstVlan =>
    rw [plain rfl]
    exact map_tryFromU16 v
  | inIf | outIf | ipv6FlowLabel | fragmentId | srcAs | dstAs | forwardingStatus | samplingRate =>
    rw [plain rfl]
    exact map_tryFromU32 v

theorem number_put_other (flow : CommonFlow) {f g : NumericField} (other : g ≠ f)
    (v : Option UInt64) :
    (flow.put f v).number g = flow.number g := by
  cases f <;> cases g <;> first | rfl | exact absurd rfl other

/-! ### Entries of a record -/

def InformationElement.numericField : InformationElement → Option NumericField
  | .octetDeltaCount => some .bytes
  | .packetDeltaCount => some .packets
  | .protocolIdentifier => some .proto
  | .ipClassOfService => some .ipTos
  | .tcpControlBits => some .tcpFlags
  | .sourceTransportPort => some .srcPort
  | .destinationTransportPort => some .dstPort
  | .sourceIpv4PrefixLength | .sourceIpv6PrefixLength => some .srcNet
  | .destinationIpv4PrefixLength | .destinationIpv6PrefixLength => some .dstNet
  | .ingressInterface => some .inIf
  | .egressInterface => some .outIf
  | .forwardingStatus => some .forwardingStatus
  | .bgpSourceAsNumber => some .srcAs
  | .bgpDestinationAsNumber => some .dstAs
  | .flowLabelIpv6 => some .ipv6FlowLabel
  | .srcVlan => some .srcVlan
  | .dstVlan => some .dstVlan
  | .minimumTtl | .maximumTtl => some .ipTtl
  | .fragmentIdentification => some .fragmentId
  | _ => none

/-- What an element states of a field: the number of its value, which may be none, or the type of
network that its value is an address of. -/
def InformationElement.states (ie : InformationElement) (value etype : Option Nat)
    (f : NumericField) : Option (Option Nat) :=
  match ie.numericField with
  | some g => if f = g then some value else none
  | none => if f = .etype then etype.map some else none

/-- What the entries of a record state of a field last. -/
def lastStated {ε : Type} (states : ε → NumericField → Option (Option Nat)) (entries : List ε)
    (f : NumericField) :
    Option (Option Nat) := (entries.filterMap fun entry => states entry f).getLast?

theorem InformationElement.number_put {ie : InformationElement} {g : NumericField}
    (numeric : ie.numericField = some g) (flow : CommonFlow) {v : Option UInt64}
    {value : Option Nat} (read : v.map UInt64.toNat = value) (etype : Option Nat)
    (f : NumericField) :
    (flow.put g v).number f = ((ie.states value etype f).map fun n => n.bind f.keep).getD
      (flow.number f) := by
  unfold InformationElement.states
  rw [numeric]
  by_cases same : f = g
  · subst same
    rw [number_put_self, read]
    simp
  · rw [number_put_other flow same]
    simp [same]

theorem number_entries {σ ε : Type} (flow : σ → CommonFlow)
    {states : ε → NumericField → Option (Option Nat)} {step : σ → ε → σ}
    (stated : ∀ s e f, (flow (step s e)).number f =
      ((states e f).map fun n => n.bind f.keep).getD ((flow s).number f))
    (entries : List ε) (s : σ) (f : NumericField) :
    (flow (entries.foldl step s)).number f =
      ((lastStated states entries f).map fun n => n.bind f.keep).getD ((flow s).number f) := by
  have last := Writes.foldl_last (r := fun s f => (flow s).number f) stated entries s f
  rw [lastStated, ← List.getLast?_map, List.map_filterMap]
  exact last

end Rustflow
