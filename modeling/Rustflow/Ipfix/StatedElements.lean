import Rustflow.Ipfix.SamplingRate

/-!
# Elements and the packet section

What a record states of a field by an element of its own goes over what its packet section shows,
wherever the two stand. With one element a field the order of the fields does not matter at all.
-/

namespace Rustflow

/-! ### Fields that are no numbers of the wire -/

inductive PlainField where
  | icmpType | icmpCode | timeFlowStartNs | timeFlowEndNs | srcAddr | dstAddr | nextHop
  | bgpNextHop | srcMac | dstMac
  deriving DecidableEq

inductive Content where
  | number (n : UInt8)
  | time (ns : Int)
  | address (addr : IpAddr)
  | mac (mac : MacAddr6)

/-- What is in a field, `none` where it is not set. -/
def CommonFlow.content (flow : CommonFlow) : PlainField → Option Content
  | .icmpType => flow.icmpType.map .number
  | .icmpCode => flow.icmpCode.map .number
  | .timeFlowStartNs => flow.timeFlowStartNs.map .time
  | .timeFlowEndNs => flow.timeFlowEndNs.map .time
  | .srcAddr => flow.srcAddr.map .address
  | .dstAddr => flow.dstAddr.map .address
  | .nextHop => flow.nextHop.map .address
  | .bgpNextHop => flow.bgpNextHop.map .address
  | .srcMac => flow.srcMac.map .mac
  | .dstMac => flow.dstMac.map .mac

/-- The fields that no element sets. -/
def CommonFlow.envelope (flow : CommonFlow) :
    FlowType × Option Int × UInt32 × Option IpAddr × Option UInt32 × Option UInt16 :=
  (flow.flowType, flow.timeReceivedNs, flow.sequenceNum, flow.samplerAddress,
    flow.observationDomainId, flow.templateId)

theorem counted_inj {a b : UInt64} (same : counted a = counted b) : a = b := by
  unfold counted at same
  by_cases zero : a = 0 <;> by_cases zero' : b = 0
  · rw [zero, zero']
  · simp [zero, zero'] at same
  · simp [zero, zero'] at same
  · simpa [zero, zero', UInt64.toNat_inj] using same

/-- A flow is its numbers, its other contents and its envelope. -/
theorem CommonFlow.eq_of_views {flow flow' : CommonFlow} (numbers : flow.number = flow'.number)
    (contents : flow.content = flow'.content) (envelope : flow.envelope = flow'.envelope) :
    flow = flow' := by
  have u8 : ∀ {a b : Option UInt8}, a.map UInt8.toNat = b.map UInt8.toNat → a = b :=
    fun h => Option.map_injective (fun _ _ => UInt8.toNat.inj) h
  have u16 : ∀ {a b : Option UInt16}, a.map UInt16.toNat = b.map UInt16.toNat → a = b :=
    fun h => Option.map_injective (fun _ _ => UInt16.toNat.inj) h
  have u32 : ∀ {a b : Option UInt32}, a.map UInt32.toNat = b.map UInt32.toNat → a = b :=
    fun h => Option.map_injective (fun _ _ => UInt32.toNat.inj) h
  have number : ∀ {a b : Option UInt8}, a.map Content.number = b.map Content.number → a = b :=
    fun h => Option.map_injective (fun _ _ => Content.number.inj) h
  have time : ∀ {a b : Option Int}, a.map Content.time = b.map Content.time → a = b :=
    fun h => Option.map_injective (fun _ _ => Content.time.inj) h
  have address : ∀ {a b : Option IpAddr}, a.map Content.address = b.map Content.address → a = b :=
    fun h => Option.map_injective (fun _ _ => Content.address.inj) h
  have mac : ∀ {a b : Option MacAddr6}, a.map Content.mac = b.map Content.mac → a = b :=
    fun h => Option.map_injective (fun _ _ => Content.mac.inj) h
  have n := fun f => congrFun numbers f
  have c := fun f => congrFun contents f
  simp only [CommonFlow.envelope, Prod.mk.injEq] at envelope
  obtain ⟨flowType, received, sequence, sampler, domain, template⟩ := envelope
  cases flow
  cases flow'
  simp only [CommonFlow.mk.injEq]
  exact ⟨flowType, received, sequence, u32 (n .samplingRate), sampler, time (c .timeFlowStartNs),
    time (c .timeFlowEndNs), counted_inj (n .bytes), counted_inj (n .packets), address (c .srcAddr),
    address (c .dstAddr), mac (c .srcMac), mac (c .dstMac), u16 (n .etype), u8 (n .proto),
    u16 (n .srcPort), u16 (n .dstPort), u32 (n .inIf), u32 (n .outIf), u8 (n .ipTos), u8 (n .ipTtl),
    u16 (n .tcpFlags), number (c .icmpType), number (c .icmpCode), u32 (n .ipv6FlowLabel),
    u32 (n .fragmentId), u16 (n .fragmentOffset), u32 (n .srcAs), u32 (n .dstAs),
    address (c .nextHop), u8 (n .srcNet), u8 (n .dstNet), address (c .bgpNextHop), u16 (n .srcVlan),
    u16 (n .dstVlan), domain, template, u32 (n .forwardingStatus)⟩

namespace Ipfix
open NumericField

namespace IpfixContext

/-- What an entry states of a field that is no number of the wire. An address, or a code with a
type, is stated only by a value that holds one. -/
def contents (self : IpfixContext) (entry : Entry) (f : PlainField) : Option (Option Content) :=
  let value := entry.2.2
  let stamp := (extractU32 value).bind self.uptimeToAbsoluteNs
  let delta := (extractU32 value).bind self.deltaToAbsoluteNs
  match ianaElement entry.1, f with
  | some .icmpTypeCodeIpv4, .icmpType | some .icmpTypeCodeIpv6, .icmpType =>
    (extractU16 value).map fun v : UInt16 => some (.number (v >>> 8).toUInt8)
  | some .icmpTypeCodeIpv4, .icmpCode | some .icmpTypeCodeIpv6, .icmpCode =>
    (extractU16 value).map fun v : UInt16 => some (.number (v &&& 0xff).toUInt8)
  | some .icmpTypeIpv4, .icmpType | some .icmpTypeIpv6, .icmpType =>
    some ((extractU8 value).map .number)
  | some .icmpCodeIpv4, .icmpCode | some .icmpCodeIpv6, .icmpCode =>
    some ((extractU8 value).map .number)
  | some .flowStartSysUpTime, .timeFlowStartNs => some (stamp.map .time)
  | some .flowEndSysUpTime, .timeFlowEndNs => some (stamp.map .time)
  | some .flowStartDeltaMicroseconds, .timeFlowStartNs => some (delta.map .time)
  | some .flowEndDeltaMicroseconds, .timeFlowEndNs => some (delta.map .time)
  | some .flowStartSeconds, .timeFlowStartNs | some .flowStartMilliseconds, .timeFlowStartNs
  | some .flowStartMicroseconds, .timeFlowStartNs | some .flowStartNanoseconds, .timeFlowStartNs =>
    some ((extractDatetimeNs value).map .time)
  | some .flowEndSeconds, .timeFlowEndNs | some .flowEndMilliseconds, .timeFlowEndNs
  | some .flowEndMicroseconds, .timeFlowEndNs | some .flowEndNanoseconds, .timeFlowEndNs =>
    some ((extractDatetimeNs value).map .time)
  | some .sourceIpv4Address, .srcAddr => (extractIpv4 value).map fun addr => some (.address addr)
  | some .sourceIpv6Address, .srcAddr => (extractIpv6 value).map fun addr => some (.address addr)
  | some .destinationIpv4Address, .dstAddr => (extractIpv4 value).map fun addr =>
    some (.address addr)
  | some .destinationIpv6Address, .dstAddr => (extractIpv6 value).map fun addr =>
    some (.address addr)
  | some .ipNextHopIpv4Address, .nextHop => (extractIpv4 value).map fun addr => some (.address addr)
  | some .ipNextHopIpv6Address, .nextHop => (extractIpv6 value).map fun addr => some (.address addr)
  | some .bgpNextHopIpv4Address, .bgpNextHop => (extractIpv4 value).map fun addr =>
    some (.address addr)
  | some .bgpNextHopIpv6Address, .bgpNextHop => (extractIpv6 value).map fun addr =>
    some (.address addr)
  | some .sourceMacAddress, .srcMac | some .postSourceMacAddress, .srcMac =>
    (extractMac value).map fun mac => some (.mac mac)
  | some .destinationMacAddress, .dstMac | some .postDestinationMacAddress, .dstMac =>
    (extractMac value).map fun mac => some (.mac mac)
  | _, _ => none

theorem content_setField (self : IpfixContext) (flow : CommonFlow) (ie : InformationElement)
    (entry : Entry) (is : ianaElement entry.1 = some ie) (f : PlainField) :
    (self.setField flow ie entry.2.2).content f =
      (self.contents entry f).getD (flow.content f) := by
  unfold contents
  rw [is]
  dsimp only
  cases ie with
  | sourceIpv4Address | destinationIpv4Address | ipNextHopIpv4Address | bgpNextHopIpv4Address =>
    unfold setField
    cases extractIpv4 entry.2.2 <;> cases f <;> rfl
  | sourceIpv6Address | destinationIpv6Address | ipNextHopIpv6Address | bgpNextHopIpv6Address =>
    unfold setField
    cases extractIpv6 entry.2.2 <;> cases f <;> rfl
  | sourceMacAddress | postSourceMacAddress | destinationMacAddress | postDestinationMacAddress =>
    unfold setField
    cases extractMac entry.2.2 <;> cases f <;> rfl
  | icmpTypeCodeIpv4 | icmpTypeCodeIpv6 =>
    unfold setField
    cases extractU16 entry.2.2 <;> cases f <;> rfl
  | _ => cases f <;> rfl

theorem envelope_setField (self : IpfixContext) (flow : CommonFlow) (ie : InformationElement)
    (value : FieldValue) :
    (self.setField flow ie value).envelope = flow.envelope := by
  cases ie with
  | sourceIpv4Address | destinationIpv4Address | ipNextHopIpv4Address | bgpNextHopIpv4Address =>
    unfold setField
    cases extractIpv4 value <;> rfl
  | sourceIpv6Address | destinationIpv6Address | ipNextHopIpv6Address | bgpNextHopIpv6Address =>
    unfold setField
    cases extractIpv6 value <;> rfl
  | sourceMacAddress | postSourceMacAddress | destinationMacAddress | postDestinationMacAddress =>
    unfold setField
    cases extractMac value <;> rfl
  | icmpTypeCodeIpv4 | icmpTypeCodeIpv6 =>
    unfold setField
    cases extractU16 value <;> rfl
  | _ => rfl

theorem content_readField (self : IpfixContext) (draft : Draft) (entry : Entry) (f : PlainField) :
    (self.readField draft entry.1 entry.2.2).flow.content f =
      (self.contents entry f).getD (draft.flow.content f) := by
  unfold readField
  cases element : ianaElement entry.1 with
  | none =>
    unfold contents
    rw [element]
    rfl
  | some ie =>
    have set := self.content_setField draft.flow ie entry element f
    cases ie <;> exact set

theorem envelope_readField (self : IpfixContext) (draft : Draft) (entry : Entry) :
    (self.readField draft entry.1 entry.2.2).flow.envelope = draft.flow.envelope := by
  unfold readField
  cases ianaElement entry.1 with
  | none => rfl
  | some ie =>
    have set := self.envelope_setField draft.flow ie entry.2.2
    cases ie <;> exact set

/-! ### The entries of a record -/

section
variable (etherparse : Etherparse) (self : IpfixContext) (record : DataRecord) (templateId : UInt16)

theorem number_draft (f : NumericField) :
    (self.draftOf etherparse record templateId).flow.number f =
      ((lastStated states record.iter f).map fun n => n.bind f.keep).getD
        ((self.packetFlow etherparse record templateId).number f) :=
  number_entries Draft.flow self.number_readField record.iter _ f

theorem content_draft (f : PlainField) :
    (self.draftOf etherparse record templateId).flow.content f =
      (record.iter.filterMap fun entry => self.contents entry f).getLast?.getD
        ((self.packetFlow etherparse record templateId).content f) :=
  Writes.foldl_last (r := fun (draft : Draft) f => draft.flow.content f) self.content_readField
    record.iter _ f

theorem envelope_draft :
    (self.draftOf etherparse record templateId).flow.envelope =
      (self.packetFlow etherparse record templateId).envelope := by
  unfold draftOf
  refine List.foldlRecOn (motive := fun draft : Draft =>
    draft.flow.envelope = (self.packetFlow etherparse record templateId).envelope)
      record.iter _ rfl ?_
  intro draft same entry _
  exact (self.envelope_readField draft entry).trans same

theorem content_finish (packet : Option PacketSection) (draft : Draft) (f : PlainField) :
    (self.finish packet draft).content f = draft.flow.content f := by
  cases packet <;> cases f <;> rfl

/-- A number an element states stands, counters that are not zero too. -/
theorem number_finish (packet : Option PacketSection) {draft : Draft} {f : NumericField}
    (notRate : f ≠ .samplingRate) {n : Nat} (set : draft.flow.number f = some n) :
    (self.finish packet draft).number f = some n := by
  cases packet with
  | none =>
    cases f with
    | samplingRate => exact absurd rfl notRate
    | _ => exact set
  | some packet =>
    cases f with
    | samplingRate => exact absurd rfl notRate
    | bytes =>
      show counted (if draft.flow.bytes = 0 then _ else _) = _
      rw [counted_ite, show counted draft.flow.bytes = some n from set]
      rfl
    | packets =>
      show counted (if draft.flow.packets = 0 then _ else _) = _
      rw [counted_ite, show counted draft.flow.packets = some n from set]
      rfl
    | _ => exact set

end

/-! ### One element for a field -/

theorem lastValue_of_only {read : FieldValue → Option Nat} {ie : InformationElement}
    {entries : List Entry} {entry : Entry} (mem : entry ∈ entries)
    (is : ianaElement entry.1 = some ie)
    (only : ∀ other ∈ entries, ianaElement other.1 = some ie → other = entry) :
    lastValue read ie entries = read entry.2.2 := by
  unfold lastValue
  rw [Writes.getLast_of_all ⟨entry, mem, if_pos is⟩ fun other there b written => ?_]
  · rfl
  · split at written
    · next is' =>
      rw [only other there is'] at written
      exact (Option.some.inj written).symm
    · cases written

theorem lastValue_none {read : FieldValue → Option Nat} {ie : InformationElement}
    {entries : List Entry} (unstated : ∀ entry ∈ entries, ianaElement entry.1 ≠ some ie) :
    lastValue read ie entries = none := by
  unfold lastValue
  rw [List.filterMap_eq_nil_iff.mpr fun entry mem => if_neg (unstated entry mem)]
  rfl

theorem bytes_apply (etherparse : Etherparse) (peeled : Peeled) (flow : CommonFlow) :
    (peeled.apply etherparse flow).bytes = flow.bytes := by
  have netTransport : ∀ (flow : CommonFlow) (sliced : LaxSlicedPacket),
      (applyNetTransport etherparse flow sliced).bytes = flow.bytes := by
    intro flow sliced
    unfold applyNetTransport
    cases sliced.transport.or (firstFragmentTransport etherparse sliced) with
    | none => rcases sliced.net with _ | _ | _ | _ <;> rfl
    | some transport => cases transport <;> rcases sliced.net with _ | _ | _ | _ <;> rfl
  unfold Peeled.apply
  rw [netTransport]
  generalize peeled.link.getD peeled.packet = outer
  unfold applyLink
  rcases outer.vlan with _ | _ | _ <;> rcases outer.link with _ | _ | _ <;> rfl

theorem bytes_packetFlow (etherparse : Etherparse) (self : IpfixContext) (record : DataRecord)
    (templateId : UInt16) :
    (self.packetFlow etherparse record templateId).number .bytes = none := by
  have packet : ∀ (flow : CommonFlow) (sliced : Option LaxSlicedPacket), flow.bytes = 0 →
      (sliced.elim flow fun sliced => (peel etherparse sliced).apply etherparse flow).bytes =
        0 := by
    intro flow sliced uncounted
    cases sliced with
    | none => exact uncounted
    | some sliced => exact (bytes_apply etherparse _ flow).trans uncounted
  apply if_pos
  unfold packetFlow
  rcases packetSection record with _ | content | content
  · rfl
  · exact packet _ _ rfl
  · exact packet _ _ rfl

theorem states_samplingRate (entry : Entry) : states entry .samplingRate = none := by
  unfold states
  cases ianaElement entry.1 with
  | none => rfl
  | some ie => cases ie <;> rfl

section
variable (etherparse : Etherparse) (self : IpfixContext) {record : DataRecord} (templateId : UInt16)
  {entry : Entry}
  (mem : entry ∈ record.iter)
include mem

theorem number_stated {f : NumericField} {n : Nat} (stated : states entry f = some (some n))
    (usable : f.keep n = some n) (only : ∀ other ∈ record.iter, states other f ≠ none →
      other = entry) :
    (self.convert etherparse record templateId).number f = some n := by
  have last : lastStated states record.iter f = some (some n) := by
    refine Writes.getLast_of_all ⟨entry, mem, stated⟩ fun other there b states => ?_
    rw [only other there (by rw [states]; exact Option.some_ne_none b), stated] at states
    exact (Option.some.inj states).symm
  have notRate : f ≠ .samplingRate := by
    rintro rfl
    rw [states_samplingRate] at stated
    cases stated
  rw [convert_eq]
  apply number_finish self _ notRate
  rw [number_draft, last]
  exact usable

theorem content_stated {f : PlainField} {content : Content}
    (stated : self.contents entry f = some (some content))
    (only : ∀ other ∈ record.iter, self.contents other f ≠ none → other = entry) :
    (self.convert etherparse record templateId).content f = some content := by
  rw [convert_eq, content_finish, content_draft]
  rw [Writes.getLast_of_all ⟨entry, mem, stated⟩ fun other there b states => ?_]
  · rfl
  · rw [only other there (by rw [states]; exact Option.some_ne_none b), stated] at states
    exact (Option.some.inj states).symm

def samplingElements : List InformationElement :=
  [.samplingInterval, .samplerRandomInterval, .samplingPacketInterval, .samplingPacketSpace]

omit mem in
theorem number_samplingRate :
    (self.convert etherparse record templateId).number .samplingRate =
      ((statedRate record.iter).bind (keep .samplingRate)).or
        (self.samplingRate.map UInt32.toNat) := by
  have rate : (self.draftOf etherparse record templateId).sampling.oneInN.map UInt32.toNat = _ :=
    self.sampling_draftOf record templateId
  rw [convert_eq, ← rate, ← Option.map_or]
  cases packetSection record <;> rfl

theorem samplingRate_stated {ie : InformationElement} (is : ianaElement entry.1 = some ie)
    (sampling : ie ∈ samplingElements) (notSpace : ie ≠ .samplingPacketSpace)
    {n : Nat} (usable : rated entry.2.2 = some n)
    (only : ∀ other ∈ record.iter, ∀ ie' ∈ samplingElements, ianaElement other.1 = some ie' →
      other = entry) :
    (self.convert etherparse record templateId).number .samplingRate = some n := by
  have unstated : ∀ ie' ∈ samplingElements, ie' ≠ ie →
      ∀ other ∈ record.iter, ianaElement other.1 ≠ some ie' := by
    intro ie' among different other there is'
    rw [only other there ie' among is', is] at is'
    exact different (Option.some.inj is').symm
  have whole : statedRate record.iter = some n := by
    unfold statedRate
    by_cases interval : ie = .samplingPacketInterval
    · subst interval
      have direct : record.iter.findSome? rateOf = none := by
        refine List.findSome?_eq_none_iff.mpr fun other there => if_neg ?_
        rintro (is' | is')
        · exact unstated _ (by decide) (by decide) other there is'
        · exact unstated _ (by decide) (by decide) other there is'
      rw [direct, lastValue_none (unstated .samplingPacketSpace (by decide) (by decide)),
        lastValue_of_only mem is fun other there is' => only other there _ (by decide) is', usable]
      rfl
    · have direct : rateOf entry = some n := by
        refine (if_pos ?_).trans usable
        simp only [samplingElements, List.mem_cons, List.not_mem_nil, or_false, interval,
          notSpace] at sampling
        rw [is]
        exact sampling.imp (congrArg some) (congrArg some)
      rw [Writes.findSome_of_all ⟨entry, mem, direct⟩ fun other there m other_rate => ?_]
      · rfl
      · have one : other = entry := by
          unfold rateOf at other_rate
          split at other_rate
          · next is' =>
              exact is'.elim (only other there _ (by decide)) (only other there _ (by decide))
          · cases other_rate
        rw [one, direct] at other_rate
        exact (Option.some.inj other_rate).symm
  rw [number_samplingRate etherparse self templateId, whole, Option.bind_some, rated_keep usable]
  rfl

/-- The size of a frame is its bytes, where a record with a packet section counts none. -/
theorem frameSize_stated (carries : packetSection record ≠ none)
    (is : ianaElement entry.1 = some .dataLinkFrameSize) {n : Nat}
    (usable : unsigned entry.2.2 = some n) (nonzero : n ≠ 0)
    (only : ∀ other ∈ record.iter, ianaElement other.1 = some .dataLinkFrameSize → other = entry)
    (uncounted : ∀ other ∈ record.iter, states other .bytes = none) :
    (self.convert etherparse record templateId).number .bytes = some n := by
  have drafted := self.number_draft etherparse record templateId .bytes
  have size : (self.draftOf etherparse record templateId).frameSize.map UInt64.toNat = _ :=
    self.frameSize_draftOf record templateId
  rw [lastStated, List.filterMap_eq_nil_iff.mpr uncounted, List.getLast?_nil, Option.map_none,
    Option.getD_none, bytes_packetFlow] at drafted
  rw [lastValue_of_only mem is only, usable] at size
  obtain ⟨packet, carried⟩ := Option.ne_none_iff_exists'.mp carries
  obtain ⟨bytes, given, rfl⟩ := Option.map_eq_some_iff.mp size
  rw [convert_eq, carried]
  show counted (if (self.draftOf etherparse record templateId).flow.bytes = 0 then _ else _) = _
  rw [counted_ite, show counted (self.draftOf etherparse record templateId).flow.bytes =
    none from drafted, given]
  exact if_neg fun zero : bytes = 0 => nonzero (by rw [zero]; rfl)

end

/-! ### Order -/

/-- No field is stated twice, and there is one section of a kind. The two elements of a pair of
packets make one rate, and a size of the frame can go with a count. -/
structure OneForEach (context : IpfixContext) (record : DataRecord) : Prop where
  numbers : ∀ f, (record.iter.filterMap fun entry => states entry f).length ≤ 1
  contents : ∀ f, (record.iter.filterMap fun entry => context.contents entry f).length ≤ 1
  rate : (record.iter.filterMap rateOf).length ≤ 1
  interval : occurrences record .samplingPacketInterval ≤ 1
  space : occurrences record .samplingPacketSpace ≤ 1
  frameSize : occurrences record .dataLinkFrameSize ≤ 1
  frame : ((record.iter.filterMap sectionOf).filter PacketSection.isFrame).length ≤ 1
  ip : ((record.iter.filterMap sectionOf).filter fun packet => !packet.isFrame).length ≤ 1

theorem packetSection_perm {self : IpfixContext} {record record' : DataRecord}
    (one : self.OneForEach record) (perm : record'.iter.Perm record.iter) :
    packetSection record' = packetSection record := by
  have sections := perm.filterMap sectionOf
  have frames := Writes.eq_of_perm_of_few (sections.filter PacketSection.isFrame) one.frame
  have ips := Writes.eq_of_perm_of_few (sections.filter fun packet => !packet.isFrame) one.ip
  rw [packetSection_eq, packetSection_eq, ← List.head?_filter, ← List.head?_filter, frames]
  cases none : (record.iter.filterMap sectionOf).filter PacketSection.isFrame with
  | cons frame frames => rfl
  | nil =>
    rw [none] at frames
    have noFrame : ∀ {packets : List PacketSection}, packets.filter PacketSection.isFrame = [] →
        packets.filter (fun packet => !packet.isFrame) = packets := by
      intro packets empty
      refine List.filter_eq_self.mpr fun packet mem => ?_
      rw [Bool.not_eq_eq_eq_not, Bool.not_true]
      exact Bool.eq_false_iff.mpr (List.filter_eq_nil_iff.mp empty packet mem)
    rw [noFrame frames, noFrame none] at ips
    rw [ips]

theorem statedRate_perm {self : IpfixContext} {record record' : DataRecord}
    (one : self.OneForEach record) (perm : record'.iter.Perm record.iter) :
    statedRate record'.iter = statedRate record.iter := by
  unfold statedRate
  rw [lastValue_perm perm one.interval, lastValue_perm perm one.space, ← List.head?_filterMap,
    ← List.head?_filterMap, Writes.filterMap_perm_eq perm one.rate]

theorem convert_perm (etherparse : Etherparse) {self : IpfixContext} {record record' : DataRecord}
    (one : self.OneForEach record) (perm : record'.iter.Perm record.iter) (templateId : UInt16) :
    self.convert etherparse record' templateId = self.convert etherparse record templateId := by
  have carried := packetSection_perm one perm
  have packet : self.packetFlow etherparse record' templateId =
      self.packetFlow etherparse record templateId := by
    unfold packetFlow
    rw [carried]
  have flow : (self.draftOf etherparse record' templateId).flow =
      (self.draftOf etherparse record templateId).flow := by
    refine CommonFlow.eq_of_views (funext fun f => ?_) (funext fun f => ?_) ?_
    · rw [number_draft, number_draft, packet, lastStated, lastStated,
        Writes.filterMap_perm_eq perm (one.numbers f)]
    · rw [content_draft, content_draft, packet, Writes.filterMap_perm_eq perm (one.contents f)]
    · rw [envelope_draft, envelope_draft, packet]
  have size : (self.draftOf etherparse record' templateId).frameSize =
      (self.draftOf etherparse record templateId).frameSize := by
    refine Option.map_injective (fun _ _ => UInt64.toNat.inj) ?_
    rw [frameSize_draftOf, frameSize_draftOf, lastValue_perm perm one.frameSize]
  have rate : (self.draftOf etherparse record' templateId).sampling.oneInN =
      (self.draftOf etherparse record templateId).sampling.oneInN := by
    refine Option.map_injective (fun _ _ => UInt32.toNat.inj) ?_
    rw [sampling_draftOf, sampling_draftOf, statedRate_perm one perm]
  rw [convert_eq, convert_eq, carried]
  unfold finish
  rw [flow, size, rate]

/-! ### What stands -/

/-- The entry is the only one of its record of which the property holds. -/
def Only (record : DataRecord) (entry : Entry) (property : Entry → Prop) : Prop :=
  ∀ other ∈ record.iter, property other → other = entry

/-- What the entry states is in the flow, where it is the only one to state it and the value is
usable. -/
structure Stands (context : IpfixContext) (record : DataRecord) (entry : Entry)
    (flow : CommonFlow) : Prop where
  number : ∀ f n, states entry f = some (some n) → f.keep n = some n →
    Only record entry (states · f ≠ none) →
    flow.number f = some n
  content : ∀ f content, context.contents entry f = some (some content) →
    Only record entry (context.contents · f ≠ none) →
    flow.content f = some content
  samplingRate : ∀ ie n, ianaElement entry.1 = some ie → ie ∈ samplingElements →
    ie ≠ .samplingPacketSpace →
    rated entry.2.2 = some n → (∀ ie' ∈ samplingElements, Only record entry fun other =>
      ianaElement other.1 = some ie') →
    flow.number .samplingRate = some n
  frameSize : ∀ n, ianaElement entry.1 = some .dataLinkFrameSize →
    unsigned entry.2.2 = some n → n ≠ 0 →
    packetSection record ≠ none → Only record entry (fun other =>
      ianaElement other.1 = some .dataLinkFrameSize) →
    (∀ other ∈ record.iter, states other .bytes = none) → flow.number .bytes = some n

/-- What the elements state stands, wherever they and the sections are, and with one element for
each field the order is no matter. -/
theorem stated_in_any_order (etherparse : Etherparse) (self : IpfixContext) (record : DataRecord)
    (templateId : UInt16) :
    (∀ entry ∈ record.iter, self.Stands record entry (self.convert etherparse record templateId)) ∧
      (self.OneForEach record → ∀ record' : DataRecord, record'.iter.Perm record.iter →
        self.convert etherparse record' templateId =
          self.convert etherparse record templateId) := by
  refine ⟨fun entry mem => ⟨?_, ?_, ?_, ?_⟩,
    fun one record' perm => convert_perm etherparse one perm templateId⟩
  · intro f n stated usable only
    exact number_stated etherparse self templateId mem stated usable only
  · intro f content stated only
    exact content_stated etherparse self templateId mem stated only
  · intro ie n is sampling notSpace usable only
    exact samplingRate_stated etherparse self templateId mem is sampling notSpace usable
      fun other there ie' among => only ie' among other there
  · intro n is usable nonzero carries only uncounted
    exact frameSize_stated etherparse self templateId mem carries is usable nonzero only uncounted

/-- A slicer that takes any bytes for a datagram between ports 9. -/
def discard : Etherparse where
  fromEthernet _ := none
  fromIp _ := some
    { link := none
      vlan := none
      etherPayload := none
      net := none
      ipPayload := none
      transport :=
        some (.udp { sourcePort := 9, destinationPort := 9, length := 8, payload := [] }) }
  tcpSlice _ := none
  udpSliceLax _ := none
  icmpv4Slice _ := none
  icmpv6Slice _ := none

/-- A stated port beside a datagram from another. -/
def portAndSection : DataRecord where
  fields :=
    [⟨.iana 7 2, .unsigned, "sourceTransportPort"⟩,
      ⟨.iana 313 1, .octetArray, "ipHeaderPacketSection"⟩]
  values := [.unsigned16 53, .octetArray [0x45]]

def sectionAndPort : DataRecord where
  fields := portAndSection.fields.reverse
  values := portAndSection.values.reverse

def withoutSampling : IpfixContext where
  header :=
    { version := 10, length := 0, exportTime := ⟨0⟩, sequenceNumber := 0, observationDomainId := 0 }
  samplerAddress := none
  samplingRate := none
  systemInitTimeMs := none

theorem port_stands :
    (withoutSampling.convert discard portAndSection 256).number .srcPort = some 53 ∧
      withoutSampling.convert discard sectionAndPort 256 =
        withoutSampling.convert discard portAndSection 256 := by
  obtain ⟨stands, order⟩ := stated_in_any_order discard withoutSampling portAndSection 256
  constructor
  · apply (stands _ List.mem_cons_self).number .srcPort 53 rfl rfl
    intro other there sets
    obtain rfl | there := List.mem_cons.mp there
    · rfl
    · obtain rfl := List.mem_singleton.mp there
      exact absurd rfl sets
  · refine order ⟨?_, ?_, ?_, ?_, ?_, ?_, ?_, ?_⟩ sectionAndPort (.swap _ _ _)
    · intro f
      cases f <;> decide
    · intro f
      cases f <;> exact Nat.zero_le 1
    all_goals decide

end IpfixContext

end Ipfix

end Rustflow
