import Rustflow.Lib.Writes
import Rustflow.SflowV5.Convert

/-!
# VLANs and the order of records

A switch record sets the VLANs of the flow, and a frame's tag fills in what is not known yet. Where
the switch does not know the VLAN, the tag counts only if it comes after.
-/

namespace Rustflow.SflowV5

/-! ### What records say of VLANs -/

/-- A VLAN number, where it is known. -/
def vlanNumber (v : UInt32) : Option UInt16 := tryFromU64 16 UInt16.ofNat v.toUInt64

theorem vlanNumber_eq_none {v : UInt32} : vlanNumber v = none ↔ 2 ^ 16 ≤ v.toNat := by
  simp [vlanNumber, tryFromU64]

def FlowRecord.switch? (record : FlowRecord) : Option ExtendedSwitch :=
  match record.data with
  | .extendedSwitch switch => some switch
  | _ => none

def FlowRecord.header? (record : FlowRecord) : Option SampledHeader :=
  match record.data with
  | .sampledHeader header => some header
  | _ => none

section
variable (etherparse : Etherparse)

def taggedVlan (sliced : Option LaxSlicedPacket) : Option UInt16 := do
  let peeled := peel etherparse (← sliced)
  match ← (peeled.link.getD peeled.packet).vlan with
  | .single h => some h.vlanId
  | .double _ inner => some inner.vlanId

def SampledHeader.vlan (header : SampledHeader) : Option UInt16 :=
  match header.protocol with
  | .ethernetIso8023 => taggedVlan etherparse (etherparse.fromEthernet header.header)
  | .ipv4 | .ipv6 => taggedVlan etherparse (etherparse.fromIp header.header)
  | _ => none

def FlowRecord.tag? (record : FlowRecord) : Option UInt16 := record.header?.bind (·.vlan etherparse)

theorem vlans_applyNetTransport (flow : CommonFlow) (sliced : LaxSlicedPacket) :
    (applyNetTransport etherparse flow sliced).srcVlan = flow.srcVlan ∧
      (applyNetTransport etherparse flow sliced).dstVlan = flow.dstVlan := by
  unfold applyNetTransport
  cases sliced.transport.or (firstFragmentTransport etherparse sliced) with
  | none => rcases sliced.net with _ | _ | _ | _ <;> exact ⟨rfl, rfl⟩
  | some transport => cases transport <;> rcases sliced.net with _ | _ | _ | _ <;> exact ⟨rfl, rfl⟩

theorem vlans_apply (flow : CommonFlow) (sliced : Option LaxSlicedPacket) :
    (sliced.elim flow fun sliced => (peel etherparse sliced).apply etherparse flow).srcVlan =
        flow.srcVlan.or (taggedVlan etherparse sliced) ∧
      (sliced.elim flow fun sliced => (peel etherparse sliced).apply etherparse flow).dstVlan =
        flow.dstVlan := by
  cases sliced with
  | none => exact ⟨Option.or_none.symm, rfl⟩
  | some sliced =>
    dsimp only [Option.elim_some, Peeled.apply, taggedVlan]
    rw [(vlans_applyNetTransport etherparse _ _).1, (vlans_applyNetTransport etherparse _ _).2]
    dsimp only [Option.bind_eq_bind, Option.bind_some]
    generalize (peel etherparse sliced).link.getD (peel etherparse sliced).packet = outer
    unfold applyLink
    rcases outer.vlan with _ | _ | _ <;> rcases outer.link with _ | _ | _ <;> simp

theorem vlans_applySampledHeader (flow : CommonFlow) (header : SampledHeader) :
    (applySampledHeader etherparse flow header).srcVlan = flow.srcVlan.or (header.vlan etherparse) ∧
      (applySampledHeader etherparse flow header).dstVlan = flow.dstVlan := by
  unfold applySampledHeader SampledHeader.vlan
  cases header.protocol with
  | ethernetIso8023 | ipv4 | ipv6 => exact vlans_apply etherparse _ _
  | _ => exact ⟨Option.or_none.symm, rfl⟩

def srcVlanAfter (known : Option UInt16) (record : FlowRecord) : Option UInt16 :=
  match record.switch? with
  | some switch => vlanNumber switch.srcVlan
  | none => known.or (record.tag? etherparse)

theorem vlans_applyFlowRecord (flow : CommonFlow) (record : FlowRecord) :
    (applyFlowRecord etherparse flow record.data).srcVlan =
      srcVlanAfter etherparse flow.srcVlan record ∧
      (applyFlowRecord etherparse flow record.data).dstVlan =
        (record.switch?.map fun switch => vlanNumber switch.dstVlan).getD flow.dstVlan := by
  obtain ⟨_, data⟩ := record
  cases data with
  | sampledHeader header => exact vlans_applySampledHeader etherparse flow header
  | extendedSwitch switch => exact ⟨rfl, rfl⟩
  | _ => exact ⟨Option.or_none.symm, rfl⟩

theorem vlans_records (records : List FlowRecord) (flow : CommonFlow) :
    (records.foldl (fun flow record => applyFlowRecord etherparse flow record.data) flow).srcVlan =
        records.foldl (srcVlanAfter etherparse) flow.srcVlan ∧
      (records.foldl (fun flow record => applyFlowRecord etherparse flow record.data)
        flow).dstVlan =
        (records.filterMap fun record => record.switch?.map fun switch =>
          vlanNumber switch.dstVlan).getLast?.getD
          flow.dstVlan := by
  constructor
  · induction records generalizing flow with
    | nil => rfl
    | cons record records ih =>
      rw [List.foldl_cons, List.foldl_cons, ih, (vlans_applyFlowRecord etherparse flow record).1]
  · exact Writes.foldl_last (r := fun flow (_ : Unit) => flow.dstVlan)
      (fun flow record _ => (vlans_applyFlowRecord etherparse flow record).2) records flow ()

/-! ### One switch and one header -/

variable {etherparse}

theorem srcVlan_unswitched {records : List FlowRecord}
    (none : records.filterMap FlowRecord.switch? = []) (known : Option UInt16) :
    records.foldl (srcVlanAfter etherparse) known =
      known.or (records.findSome? (FlowRecord.tag? etherparse)) := by
  rw [List.filterMap_eq_nil_iff] at none
  induction records generalizing known with
  | nil => simp
  | cons record records ih =>
    obtain ⟨here, rest⟩ := List.forall_mem_cons.mp none
    rw [List.foldl_cons, ih rest, srcVlanAfter, here, List.findSome?_cons]
    cases record.tag? etherparse <;> cases known <;> rfl

/-- After the one switch record only tags that follow it count. -/
theorem srcVlan_switched {before after : List FlowRecord} {record : FlowRecord}
    {switch : ExtendedSwitch} (is : record.switch? = some switch)
    (rest : after.filterMap FlowRecord.switch? = []) (known : Option UInt16) :
    (before ++ record :: after).foldl (srcVlanAfter etherparse) known =
      (vlanNumber switch.srcVlan).or (after.findSome? (FlowRecord.tag? etherparse)) := by
  rw [List.foldl_append, List.foldl_cons, srcVlan_unswitched rest]
  unfold srcVlanAfter
  rw [is]

/-- The one switch record's number stands, if it is known or no frame is tagged. -/
theorem srcVlan_one {records : List FlowRecord} {switch : ExtendedSwitch}
    (one : records.filterMap FlowRecord.switch? = [switch])
    (untagged : vlanNumber switch.srcVlan = none →
      ∀ record ∈ records, record.tag? etherparse = none)
    (known : Option UInt16) :
    records.foldl (srcVlanAfter etherparse) known = vlanNumber switch.srcVlan := by
  obtain ⟨before, record, after, rfl, _, is, rest⟩ := List.filterMap_eq_cons_iff.mp one
  rw [srcVlan_switched is rest]
  cases number : vlanNumber switch.srcVlan with
  | some v => rfl
  | none =>
    rw [Option.none_or, List.findSome?_eq_none_iff]
    exact fun record mem => untagged number record
      (List.mem_append_right _ (List.mem_cons_of_mem _ mem))

/-- A switch record that does not know the source VLAN, beside a frame that is tagged with one. -/
def UnknownBesideTag (etherparse : Etherparse) (records : List FlowRecord) : Prop :=
  (∃ record ∈ records, ∃ switch, record.switch? = some switch ∧ 2 ^ 16 ≤ switch.srcVlan.toNat) ∧
    ∃ record ∈ records, record.tag? etherparse ≠ none

theorem length_tags_le (records : List FlowRecord) :
    (records.filterMap (FlowRecord.tag? etherparse)).length ≤
      (records.filterMap FlowRecord.header?).length := by
  have tags : records.filterMap (FlowRecord.tag? etherparse) =
      (records.filterMap FlowRecord.header?).filterMap fun header => header.vlan etherparse := by
    rw [List.filterMap_filterMap]
    rfl
  rw [tags]
  exact List.length_filterMap_le _ _

theorem switch_of_tag {record : FlowRecord} (carries : record.tag? etherparse ≠ none) :
    record.switch? = none := by
  obtain ⟨_, data⟩ := record
  cases data with
  | extendedSwitch switch => exact absurd rfl carries
  | _ => rfl

theorem perm_two {α : Type} {l : List α} {a b : α} (differ : a ≠ b) (hereA : a ∈ l)
    (hereB : b ∈ l) :
    ∃ rest, l.Perm (a :: b :: rest) := by
  obtain ⟨before, after, rfl⟩ := List.append_of_mem hereA
  have moved : (before ++ a :: after).Perm (a :: (before ++ after)) := List.perm_middle
  have there : b ∈ before ++ after :=
    (List.mem_cons.mp (moved.mem_iff.mp hereB)).resolve_left differ.symm
  obtain ⟨before', after', split⟩ := List.append_of_mem there
  refine ⟨before' ++ after', moved.trans (.cons a ?_)⟩
  rw [split]
  exact List.perm_middle

section
variable {records : List FlowRecord} (switches : (records.filterMap FlowRecord.switch?).length ≤ 1)
  (headers : (records.filterMap FlowRecord.header?).length ≤ 1)
include switches headers

theorem srcVlan_perm (known : ¬UnknownBesideTag etherparse records) {records' : List FlowRecord}
    (perm : records'.Perm records) :
    records'.foldl (srcVlanAfter etherparse) none =
      records.foldl (srcVlanAfter etherparse) none := by
  have same := Writes.filterMap_perm_eq perm switches
  have few : (records.filterMap (FlowRecord.tag? etherparse)).length ≤ 1 :=
    Nat.le_trans (length_tags_le records) headers
  have tags := Writes.filterMap_perm_eq perm few
  match one : records.filterMap FlowRecord.switch? with
  | [] =>
    rw [one] at same
    rw [srcVlan_unswitched one, srcVlan_unswitched same, ← List.head?_filterMap,
      ← List.head?_filterMap, tags]
  | [switch] =>
    rw [one] at same
    have untagged : vlanNumber switch.srcVlan = none → ∀ record ∈ records, record.tag? etherparse =
        none := by
      intro unknown record mem
      by_contra tagged
      obtain ⟨its, there, is⟩ := List.mem_filterMap.mp (one ▸ List.mem_singleton_self switch)
      exact known ⟨⟨its, there, switch, is, vlanNumber_eq_none.mp unknown⟩, record, mem, tagged⟩
    rw [srcVlan_one one untagged, srcVlan_one same fun unknown record mem =>
      untagged unknown record (perm.mem_iff.mp mem)]
  | _ :: _ :: _ =>
    rw [one] at switches
    exact absurd switches (by simp)

/-- With the switch record before the header the tag counts, and after it it does not. -/
theorem srcVlan_differs (unknown : UnknownBesideTag etherparse records) :
    ∃ tagged untagged : List FlowRecord, tagged.Perm records ∧ untagged.Perm records ∧
      tagged.foldl (srcVlanAfter etherparse) none ≠
        untagged.foldl (srcVlanAfter etherparse) none := by
  obtain ⟨⟨its, mem, switch, is, unknown⟩, framed, mem', carries⟩ := unknown
  obtain ⟨tag, tag_eq⟩ := Option.ne_none_iff_exists'.mp carries
  have unswitched : framed.switch? = none := switch_of_tag carries
  obtain ⟨rest, perm⟩ := perm_two (fun same => by simp [same, unswitched] at is) mem mem'
  have restSwitches : rest.filterMap FlowRecord.switch? = [] := by
    have length := (perm.filterMap FlowRecord.switch?).length_eq
    rw [List.filterMap_cons_some is, List.filterMap_cons_none unswitched,
      List.length_cons] at length
    exact List.eq_nil_of_length_eq_zero (by omega)
  have restTags : rest.filterMap (FlowRecord.tag? etherparse) = [] := by
    have length := (perm.filterMap (FlowRecord.tag? etherparse)).length_eq
    have own : its.tag? etherparse = none := by
      by_contra carries
      rw [switch_of_tag carries] at is
      cases is
    rw [List.filterMap_cons_none own, List.filterMap_cons_some tag_eq, List.length_cons] at length
    have few : (records.filterMap (FlowRecord.tag? etherparse)).length ≤ _ := length_tags_le records
    exact List.eq_nil_of_length_eq_zero (by omega)
  refine ⟨its :: framed :: rest, framed :: its :: rest, perm.symm,
    ((List.Perm.swap _ _ _).trans perm.symm), ?_⟩
  have first : ([] ++ its :: framed :: rest).foldl (srcVlanAfter etherparse) none = _ :=
    srcVlan_switched is (by rw [List.filterMap_cons_none unswitched, restSwitches]) none
  have second : ([framed] ++ its :: rest).foldl (srcVlanAfter etherparse) none = _ :=
    srcVlan_switched is restSwitches none
  rw [vlanNumber_eq_none.mpr unknown, Option.none_or] at first second
  rw [List.findSome?_cons, tag_eq] at first
  rw [List.nil_append] at first
  rw [List.singleton_append, ← List.head?_filterMap, restTags] at second
  rw [first, second]
  exact Option.some_ne_none tag

/-- In every order the source VLAN is the same, unless the switch record does not know it and a
frame is tagged with one. -/
theorem srcVlan_any_order_iff :
    (∀ records' : List FlowRecord, records'.Perm records →
        records'.foldl (srcVlanAfter etherparse) none =
          records.foldl (srcVlanAfter etherparse) none) ↔
      ¬UnknownBesideTag etherparse records := by
  constructor
  · intro same unknown
    obtain ⟨tagged, untagged, perm, perm', differ⟩ := srcVlan_differs switches headers unknown
    exact differ ((same tagged perm).trans (same untagged perm').symm)
  · exact fun known records' perm => srcVlan_perm switches headers known perm

omit headers in
theorem dstVlan_perm {records' : List FlowRecord} (perm : records'.Perm records) :
    (records'.filterMap fun record => record.switch?.map fun switch => vlanNumber switch.dstVlan) =
      records.filterMap fun record => record.switch?.map fun switch =>
        vlanNumber switch.dstVlan := by
  apply Writes.filterMap_perm_eq perm
  have mapped :
      (records.filterMap fun record => record.switch?.map fun switch => vlanNumber switch.dstVlan) =
      (records.filterMap FlowRecord.switch?).map fun switch => vlanNumber switch.dstVlan :=
    List.map_filterMap.symm
  rw [mapped, List.length_map]
  exact switches

end

/-! ### Samples -/

def SameVlans (flow flow' : CommonFlow) : Prop :=
  flow'.srcVlan = flow.srcVlan ∧ flow'.dstVlan = flow.dstVlan

theorem sameVlans_any_order_iff {records : List FlowRecord}
    (switches : (records.filterMap FlowRecord.switch?).length ≤ 1)
    (headers : (records.filterMap FlowRecord.header?).length ≤ 1) {flow : CommonFlow}
    (blank : flow.srcVlan = none) :
    (∀ records' : List FlowRecord, records'.Perm records →
        SameVlans (records.foldl (fun flow record =>
          applyFlowRecord etherparse flow record.data) flow)
          (records'.foldl (fun flow record => applyFlowRecord etherparse flow record.data) flow)) ↔
      ¬UnknownBesideTag etherparse records := by
  rw [← srcVlan_any_order_iff switches headers]
  refine forall₂_congr fun records' perm => ?_
  unfold SameVlans
  rw [(vlans_records etherparse records flow).1, (vlans_records etherparse records' flow).1, blank,
    (vlans_records etherparse records flow).2, (vlans_records etherparse records' flow).2,
    dstVlan_perm switches perm]
  exact and_iff_left rfl

/-- With at most one switch record and one header the order of the records of a sample does not
matter to its VLANs, unless the switch record does not know the source VLAN and the frame is tagged
with one. -/
theorem vlans_any_order_iff (etherparse : Etherparse) :
    (∀ (context : SFlowV5Context) (sample : FlowSample),
      (sample.records.filterMap FlowRecord.switch?).length ≤ 1 →
      (sample.records.filterMap FlowRecord.header?).length ≤ 1 →
        ((∀ records, records.Perm sample.records →
            SameVlans (context.convertFlowSample etherparse sample)
              (context.convertFlowSample etherparse { sample with records })) ↔
          ¬UnknownBesideTag etherparse sample.records)) ∧
    ∀ (context : SFlowV5Context) (sample : ExpandedFlowSample),
      (sample.records.filterMap FlowRecord.switch?).length ≤ 1 →
        (sample.records.filterMap FlowRecord.header?).length ≤ 1 →
          ((∀ records, records.Perm sample.records →
              SameVlans (context.convertExpandedFlowSample etherparse sample)
                (context.convertExpandedFlowSample etherparse { sample with records })) ↔
            ¬UnknownBesideTag etherparse sample.records) :=
  ⟨fun _ _ switches headers => sameVlans_any_order_iff switches headers rfl,
    fun _ _ switches headers => sameVlans_any_order_iff switches headers rfl⟩

def macOf (bytes : List UInt8) : MacAddr6 :=
  BitVec.ofNat 48 (bytes.foldl (fun n b => n * 256 + b.toNat) 0)

/-- A slicing of frames with one VLAN tag and nothing known behind it. -/
def taggedFrames : Etherparse where
  fromEthernet
    | d0 :: d1 :: d2 :: d3 :: d4 :: d5 :: s0 :: s1 :: s2 :: s3 :: s4 :: s5 :: 0x81 :: 0x00 :: t0 ::
        t1 :: e0 :: e1 :: payload =>
      some {
        link :=
          some (.ethernet2 ⟨macOf [s0, s1, s2, s3, s4, s5], macOf [d0, d1, d2, d3, d4, d5], 0x8100⟩)
        vlan := some (.single ⟨u16FromBe (t0 &&& 0x0f) t1, u16FromBe e0 e1⟩)
        etherPayload := some ⟨u16FromBe e0 e1, payload⟩
        net := none
        ipPayload := none
        transport := none }
    | _ => none
  fromIp _ := none
  tcpSlice _ := none
  udpSliceLax _ := none
  icmpv4Slice _ := none
  icmpv6Slice _ := none

/-- A sample of a frame in VLAN 100 through a switch that says it is in this one. -/
def switched (srcVlan : UInt32) : FlowSample where
  header := ⟨1, 0, 1, 0, 1⟩
  samplingRate := 1000
  samplePool := 0
  drops := 0
  input := 1
  output := 2
  records := [⟨⟨1001, 16⟩, .extendedSwitch ⟨srcVlan, 0, 200, 0⟩⟩,
    ⟨⟨1, 36⟩, .sampledHeader ⟨.ethernetIso8023, 64, 0,
      [2, 0, 0, 0, 0, 1, 2, 0, 0, 0, 0, 2, 0x81, 0, 0, 100, 0x88, 0xb5]⟩⟩]

theorem vlans_switched :
    SameVlans (SFlowV5Context.convertFlowSample taggedFrames ⟨⟨5, none, 0, 0, 0, []⟩⟩ (switched 7))
      (SFlowV5Context.convertFlowSample taggedFrames ⟨⟨5, none, 0, 0, 0, []⟩⟩
        { switched 7 with records := (switched 7).records.reverse }) := by
  refine ((vlans_any_order_iff taggedFrames).1 _ (switched 7) (by decide) (by decide)).mpr ?_
    _ (List.reverse_perm _)
  rintro ⟨⟨record, mem, switch, is, unknown⟩, _⟩
  obtain rfl | rfl : record = _ ∨ record = _ := by simpa [switched] using mem
  · cases is
    exact absurd unknown (by decide)
  · cases is

theorem vlans_differ :
    ¬∀ (etherparse : Etherparse) (context : SFlowV5Context) (sample : FlowSample),
      (sample.records.filterMap FlowRecord.switch?).length ≤ 1 →
        (sample.records.filterMap FlowRecord.header?).length ≤ 1 →
          ∀ records, records.Perm sample.records →
            SameVlans (context.convertFlowSample etherparse sample)
              (context.convertFlowSample etherparse { sample with records }) := by
  intro same
  have unknown :=
    same taggedFrames ⟨⟨5, none, 0, 0, 0, []⟩⟩ (switched 0xffffffff) (by decide) (by decide) _
    (List.Perm.swap _ _ _)
  exact absurd unknown.1 (by decide)

end

end Rustflow.SflowV5
