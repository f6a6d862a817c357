import Rustflow.Common.Packet
import Rustflow.Lib.Checked

/-!
# Peeling

What the packets on the way to the deepest one have to do with it, and that the readers of the
encapsulations index no bytes that are not there.
-/

namespace Rustflow
open Checked

section
variable (etherparse : Etherparse)

/-! ### Indices -/

/-- `split_first_chunk`. -/
def splitFirstChunk (n : Nat) (bytes : List UInt8) : Option (List UInt8 × List UInt8) :=
  if n ≤ bytes.length then some (bytes.take n, bytes.drop n) else none

/-- `skipLabels`, with its indices checked and so many rounds of its loop. -/
def skipLabelsChecked (rounds : Nat) (bytes : List UInt8) : Checked (Option (List UInt8)) :=
  loop (fun bytes => do
    match splitFirstChunk 4 bytes with
    | none => return .inr none
    | some (label, rest) => if (← index label 2) &&& 0x01 ≠ 0 then return .inr (some rest) else
        return .inl rest) rounds bytes

def mplsInnerChecked (rounds : Nat) (bytes : List UInt8) : Checked (Option Inner) := do
  let some bytes ← skipLabelsChecked rounds bytes | return none
  return do
    let readings ← match (← bytes.head?) >>> 4 with
      | 4 | 6 => some [some (Inner.ip bytes), some (.ethernet bytes)]
      | 0 => some [(getFrom 4 bytes).map .ethernet, some (.ethernet bytes)]
      | _ => some [some (.ethernet bytes), none]
    (readings.filterMap id).find? (isPlausible etherparse)

def greInnerChecked (rounds : Nat) (bytes : List UInt8) : Checked (Option Inner) := do
  let some (fixed, _) := splitFirstChunk 4 bytes | return none
  let flags := u16FromBe (← index fixed 0) (← index fixed 1)
  let protocol := u16FromBe (← index fixed 2) (← index fixed 3)
  if flags &&& 0x0007 ≠ 0 ∨ flags &&& 0x4000 ≠ 0 then return none
  let checksum := if flags &&& 0x8000 ≠ 0 then 4 else 0
  let key := if flags &&& 0x2000 ≠ 0 then 4 else 0
  let hasSequence := flags &&& 0x1000 ≠ 0
  let sequence := if hasSequence then 4 else 0
  let some payload := getFrom (4 + checksum + key + sequence) bytes | return none
  if protocol = ETHER_TYPE_IPV4 ∨ protocol = ETHER_TYPE_IPV6 then return some (.ip payload)
  else if protocol = TRANSPARENT_ETHERNET_BRIDGING then return some (.ethernet payload)
  else if isMpls protocol then mplsInnerChecked etherparse rounds payload
  else if protocol = ERSPAN_I_II then
    if hasSequence then return (getFrom 8 payload).map .ethernet
    else return some (.ethernet payload)
  else if protocol = ERSPAN_III then
    let some (header, _) := splitFirstChunk 12 payload | return none
    let skip := if (← index header 11) &&& 0x01 ≠ 0 then 20 else 12
    return (getFrom skip payload).map .ethernet
  else return none

def vxlanInnerChecked (payload : List UInt8) : Checked (Option Inner) := do
  let some (header, frame) := splitFirstChunk 8 payload | return none
  if (← index header 0) &&& 0x08 ≠ 0 then return some (.ethernet frame) else return none

def geneveInnerChecked (payload : List UInt8) : Checked (Option Inner) := do
  let some (header, _) := splitFirstChunk 8 payload | return none
  if (← index header 0) >>> 6 ≠ 0 then return none
  let optionsLen := ((← index header 0) &&& 0x3f).toNat * 4
  let protocol := u16FromBe (← index header 2) (← index header 3)
  let some inner := getFrom (8 + optionsLen) payload | return none
  if protocol = TRANSPARENT_ETHERNET_BRIDGING then return some (.ethernet inner)
  else if protocol = ETHER_TYPE_IPV4 ∨ protocol = ETHER_TYPE_IPV6 then return some (.ip inner)
  else return none

section
omit etherparse

theorem splitFirstChunk_append (chunk rest : List UInt8) :
    splitFirstChunk chunk.length (chunk ++ rest) = some (chunk, rest) := by
  simp [splitFirstChunk]

theorem getFrom_length_le {offset : Nat} {bytes payload : List UInt8}
    (taken : getFrom offset bytes = some payload) :
    payload.length ≤ bytes.length := by
  obtain ⟨_, same⟩ := Option.ite_none_right_eq_some.mp taken
  cases same
  exact (List.drop_sublist offset bytes).length_le

/-- A chunk is there if its last byte is. -/
theorem splitFirstChunk_last (n : Nat) (bytes : List UInt8) :
    (splitFirstChunk (n + 1) bytes = none ∧ bytes[n]? = none) ∨
      ∃ chunk rest last, splitFirstChunk (n + 1) bytes = some (chunk, rest) ∧
      index chunk n = .ok last ∧ bytes[n]? = some last := by
  by_cases long : n + 1 ≤ bytes.length
  · have inChunk : n < (bytes.take (n + 1)).length := by
      rw [List.length_take]
      omega
    refine .inr ⟨_, _, bytes[n], if_pos long, ?_, List.getElem?_eq_getElem long⟩
    rw [index_of_lt inChunk, List.getElem_take]
  · exact .inl ⟨if_neg long, List.getElem?_eq_none (by omega)⟩

theorem skipLabelsChecked_eq {rounds : Nat} {bytes : List UInt8} (enough : bytes.length < rounds) :
    skipLabelsChecked rounds bytes = .ok (skipLabels bytes) := by
  refine loop_eq skipLabels List.length (fun bytes => ?_) enough
  match bytes with
  | b0 :: b1 :: label :: b3 :: rest =>
    rw [show splitFirstChunk 4 (b0 :: b1 :: label :: b3 :: rest) = _ from splitFirstChunk_append
      [b0, b1, label, b3] rest,
      skipLabels]
    by_cases bottom : label &&& 0x01 = 0
    · exact .inr ⟨rest, by simp [bottom]; rfl, by simp [bottom], by grind⟩
    · exact .inl (by simp [bottom]; rfl)
  | [] | [_] | [_, _] | [_, _, _] => exact .inl rfl

theorem vxlanInnerChecked_eq (payload : List UInt8) :
    vxlanInnerChecked payload = .ok (vxlanInner payload) := by
  match payload with
  | h0 :: h1 :: h2 :: h3 :: h4 :: h5 :: h6 :: h7 :: frame =>
    have split := splitFirstChunk_append [h0, h1, h2, h3, h4, h5, h6, h7] frame
    unfold vxlanInnerChecked vxlanInner
    rw [show splitFirstChunk 8 (h0 :: h1 :: h2 :: h3 :: h4 :: h5 :: h6 :: h7 :: frame) =
      _ from split]
    simp [getFrom, apply_ite Except.ok, pure, Except.pure]
  | [] | [_] | [_, _] | [_, _, _] | [_, _, _, _] | [_, _, _, _, _] | [_, _, _, _, _, _] | [_, _, _,
      _, _, _, _] => rfl

theorem geneveInnerChecked_eq (payload : List UInt8) :
    geneveInnerChecked payload = .ok (geneveInner payload) := by
  match payload with
  | h0 :: h1 :: h2 :: h3 :: h4 :: h5 :: h6 :: h7 :: frame =>
    have split := splitFirstChunk_append [h0, h1, h2, h3, h4, h5, h6, h7] frame
    unfold geneveInnerChecked geneveInner
    rw [show splitFirstChunk 8 (h0 :: h1 :: h2 :: h3 :: h4 :: h5 :: h6 :: h7 :: frame) =
      _ from split]
    simp only [index_cons_zero, index_cons_succ, ok_bind]
    rw [apply_ite Except.ok]
    refine if_congr Iff.rfl rfl ?_
    cases getFrom (8 + (h0 &&& 0x3f).toNat * 4) (h0 :: h1 :: h2 :: h3 :: h4 :: h5 :: h6 :: h7 ::
      frame) with
    | none => rfl
    | some inner =>
      simp only [Option.bind_eq_bind, Option.bind_some, apply_ite Except.ok, pure, Except.pure]
  | [] | [_] | [_, _] | [_, _, _] | [_, _, _, _] | [_, _, _, _, _] | [_, _, _, _, _, _] | [_, _, _,
      _, _, _, _] => rfl

end

theorem mplsInnerChecked_eq {rounds : Nat} {bytes : List UInt8} (enough : bytes.length < rounds) :
    mplsInnerChecked etherparse rounds bytes = .ok (mplsInner etherparse bytes) := by
  unfold mplsInnerChecked mplsInner
  rw [skipLabelsChecked_eq enough, ok_bind]
  cases skipLabels bytes <;> rfl

theorem greInnerChecked_eq {rounds : Nat} {bytes : List UInt8} (enough : bytes.length < rounds) :
    greInnerChecked etherparse rounds bytes = .ok (greInner etherparse bytes) := by
  match bytes with
  | f0 :: f1 :: p0 :: p1 :: rest =>
    have split := splitFirstChunk_append [f0, f1, p0, p1] rest
    unfold greInnerChecked greInner
    rw [show splitFirstChunk 4 (f0 :: f1 :: p0 :: p1 :: rest) = _ from split]
    simp only [index_cons_zero, index_cons_succ, ok_bind]
    rw [apply_ite Except.ok]
    refine if_congr Iff.rfl rfl ?_
    generalize taken : getFrom _ _ = payload
    cases payload with
    | none => rfl
    | some payload =>
      have within : payload.length < rounds := Nat.lt_of_le_of_lt (getFrom_length_le taken) enough
      simp only [Option.bind_eq_bind, Option.bind_some, apply_ite Except.ok,
        mplsInnerChecked_eq etherparse within]
      obtain ⟨short, absent⟩ | ⟨header, rest, flag, split, indexed, flag_eq⟩ :=
        splitFirstChunk_last 11 payload
      · rw [short, absent]
        rfl
      · rw [split, flag_eq]
        simp only [indexed, ok_bind]
        rfl
  | [] | [_] | [_, _] | [_, _, _] => rfl

/-! ### The way down -/

def Inner.slice : Inner → Option LaxSlicedPacket
  | .ethernet frame => etherparse.fromEthernet frame
  | .ip bytes => etherparse.fromIp bytes

/-- `inner` is what the encapsulation in `outer` carries. -/
def Encloses (outer inner : LaxSlicedPacket) : Prop :=
  (encapsulated etherparse outer).bind (Inner.slice etherparse) = some inner

/-- From a packet down to another, with the packets that enclose it on the way, innermost first. -/
inductive Path (sliced : LaxSlicedPacket) : List LaxSlicedPacket → LaxSlicedPacket → Prop where
  | here : Path sliced [] sliced
  | down {enclosing : List LaxSlicedPacket} {outer inner : LaxSlicedPacket} : Path sliced
      enclosing outer →
      Encloses etherparse outer inner → Path sliced (outer :: enclosing) inner

/-- Frames are sliced with a link layer, and IP packets without one. -/
structure LinkLayers : Prop where
  fromEthernet {frame : List UInt8} {sliced : LaxSlicedPacket} :
    etherparse.fromEthernet frame = some sliced → sliced.link.isSome
  fromIp {bytes : List UInt8} {sliced : LaxSlicedPacket} : etherparse.fromIp bytes = some sliced →
    sliced.link = none

/-- What peeling has kept on the way. -/
structure Kept (requireComplete : Bool) (sliced : LaxSlicedPacket)
    (enclosing : List LaxSlicedPacket) (peeled : Peeled) : Prop where
  path : Path etherparse sliced enclosing peeled.packet
  /-- The innermost packet with a link layer, unless the packet has one itself. -/
  link : peeled.link = if peeled.packet.link.isSome then none else enclosing.find? (·.link.isSome)
  complete : requireComplete → ∀ packet ∈ enclosing, isComplete packet

variable {etherparse} {requireComplete : Bool} {sliced : LaxSlicedPacket}
  {enclosing : List LaxSlicedPacket} {peeled : Peeled}

variable (etherparse requireComplete sliced) in
theorem Kept.start :
    Kept etherparse requireComplete sliced [] { link := none, packet := sliced } where
  path := .here
  link := by simp
  complete _ _ mem := absurd mem List.not_mem_nil

theorem Kept.ethernet (layers : LinkLayers etherparse)
    (kept : Kept etherparse requireComplete sliced enclosing peeled)
    (whole : requireComplete → isComplete peeled.packet) {frame : List UInt8}
    {inner : LaxSlicedPacket} (carried : encapsulated etherparse peeled.packet =
      some (.ethernet frame)) (slices : etherparse.fromEthernet frame = some inner) :
    Kept etherparse requireComplete sliced (peeled.packet :: enclosing)
      { link := none, packet := inner } where
  path := .down kept.path (by rwa [Encloses, carried])
  link := by rw [if_pos (layers.fromEthernet slices)]
  complete strict := List.forall_mem_cons.mpr ⟨whole strict, kept.complete strict⟩

theorem Kept.ip (layers : LinkLayers etherparse)
    (kept : Kept etherparse requireComplete sliced enclosing peeled)
    (whole : requireComplete → isComplete peeled.packet) {bytes : List UInt8}
    {inner : LaxSlicedPacket} (carried : encapsulated etherparse peeled.packet = some (.ip bytes))
    (slices : etherparse.fromIp bytes = some inner) :
    Kept etherparse requireComplete sliced (peeled.packet :: enclosing) {
      link := if peeled.link.isNone ∧ peeled.packet.link.isSome then some peeled.packet
      else peeled.link
      packet := inner } where
  path := .down kept.path (by rwa [Encloses, carried])
  link := by
    rw [layers.fromIp slices, List.find?_cons, kept.link]
    cases peeled.packet.link <;> simp
  complete strict := List.forall_mem_cons.mpr ⟨whole strict, kept.complete strict⟩

variable (etherparse requireComplete) in
/-- There is no way further down from the packet, or it is not whole and has to be. -/
def Deepest (packet : LaxSlicedPacket) : Prop :=
  (requireComplete ∧ ¬isComplete packet) ∨ ∀ inner, ¬Encloses etherparse packet inner

/-- Every step keeps what the way down has to say. It ends where it has to, or with the last step
allowed. -/
theorem peelWith_kept (layers : LinkLayers etherparse) (depth : Nat)
    (kept : Kept etherparse requireComplete sliced enclosing peeled) :
    ∃ enclosing', enclosing'.length ≤ enclosing.length + depth ∧
      Kept etherparse requireComplete sliced enclosing'
        (peelWith etherparse requireComplete depth peeled) ∧
      (enclosing'.length < enclosing.length + depth →
        Deepest etherparse requireComplete
          (peelWith etherparse requireComplete depth peeled).packet) := by
  induction depth generalizing enclosing peeled with
  | zero => exact ⟨enclosing, Nat.le_refl _, kept, fun less => absurd less (Nat.lt_irrefl _)⟩
  | succ depth ih =>
    have stays (deepest : Deepest etherparse requireComplete peeled.packet) :
        ∃ enclosing', enclosing'.length ≤ enclosing.length + (depth + 1) ∧
          Kept etherparse requireComplete sliced enclosing' peeled ∧
          (enclosing'.length < enclosing.length + (depth + 1) →
            Deepest etherparse requireComplete peeled.packet) :=
      ⟨enclosing, Nat.le_add_right _ _, kept, fun _ => deepest⟩
    have down {peeled' : Peeled} (kept : Kept etherparse requireComplete sliced
        (peeled.packet :: enclosing) peeled') :
        ∃ enclosing', enclosing'.length ≤ enclosing.length + (depth + 1) ∧
          Kept etherparse requireComplete sliced enclosing'
            (peelWith etherparse requireComplete depth peeled') ∧
          (enclosing'.length < enclosing.length + (depth + 1) →
            Deepest etherparse requireComplete
              (peelWith etherparse requireComplete depth peeled').packet) := by
      have deeper := ih kept
      rwa [List.length_cons, Nat.add_right_comm] at deeper
    unfold peelWith
    split
    · next broken => exact stays (.inl (by simpa using broken))
    · next goesOn =>
      have whole : requireComplete → isComplete peeled.packet := by
        intro strict
        simpa [strict] using goesOn
      split
      · next frame carried =>
        split
        · next inner slices => exact down (kept.ethernet layers whole carried slices)
        · next malformed => exact stays (.inr (by simp [Encloses, carried, Inner.slice, malformed]))
      · next bytes carried =>
        split
        · next inner slices => exact down (kept.ip layers whole carried slices)
        · next malformed => exact stays (.inr (by simp [Encloses, carried, Inner.slice, malformed]))
      · next bare => exact stays (.inr (by simp [Encloses, bare]))

variable {fromEtherType : UInt16 → List UInt8 → LaxSlicedPacket}

/-- The payload is that of the packet peeling ends at, which is whole. -/
theorem parseUdpPacket_eq_some {linkType : UInt32} {frame payload : List UInt8} {sourceIp : IpAddr}
    (parsed : parseUdpPacket etherparse fromEtherType linkType frame = some (sourceIp, payload)) :
    ∃ link sliced udp, LinkType.fromPcap linkType = some link ∧
      sliceFrame etherparse fromEtherType link frame = some sliced ∧
      isComplete (peelStrict etherparse sliced).packet ∧
      (peelStrict etherparse sliced).packet.transport = some (.udp udp) ∧
      udp.payload = payload := by
  unfold parseUdpPacket at parsed
  simp only [Option.bind_eq_bind, Option.bind_eq_some_iff] at parsed
  obtain ⟨link, known, sliced, slices, parsed⟩ := parsed
  split at parsed
  · cases parsed
  · next whole =>
    have datagram : ∃ udp, (peelStrict etherparse sliced).packet.transport = some (.udp udp) ∧
        udp.payload = payload := by
      grind
    obtain ⟨udp, transport, carried⟩ := datagram
    exact ⟨link, sliced, udp, known, slices, by simpa using whole, transport, carried⟩

end

/-- Peeling takes no more than the steps allowed and keeps the innermost link layer, the
encapsulations are read without an index out of range, and a payload is only taken from packets that
are all whole. -/
theorem peeling_safe {etherparse : Etherparse} (layers : LinkLayers etherparse) :
    (∀ requireComplete sliced, ∃ enclosing,
      let peeled :=
        peelWith etherparse requireComplete MAX_TUNNEL_DEPTH { link := none, packet := sliced }
      enclosing.length ≤ MAX_TUNNEL_DEPTH ∧ Path etherparse sliced enclosing peeled.packet ∧
        peeled.link = (if peeled.packet.link.isSome then none
          else enclosing.find? (·.link.isSome)) ∧
        (enclosing.length < MAX_TUNNEL_DEPTH → Deepest etherparse requireComplete peeled.packet)) ∧
    (∀ rounds bytes, bytes.length < rounds →
      mplsInnerChecked etherparse rounds bytes = .ok (mplsInner etherparse bytes) ∧
        greInnerChecked etherparse rounds bytes = .ok (greInner etherparse bytes)) ∧
    (∀ bytes, vxlanInnerChecked bytes = .ok (vxlanInner bytes) ∧ geneveInnerChecked bytes =
      .ok (geneveInner bytes)) ∧
    ∀ fromEtherType linkType frame sourceIp payload,
      parseUdpPacket etherparse fromEtherType linkType frame = some (sourceIp, payload) →
        ∃ link sliced enclosing udp, LinkType.fromPcap linkType = some link ∧
          sliceFrame etherparse fromEtherType link frame = some sliced ∧
          let packet := (peelStrict etherparse sliced).packet
          Path etherparse sliced enclosing packet ∧ (∀ p ∈ packet :: enclosing, isComplete p) ∧
            packet.transport = some (.udp udp) ∧ udp.payload = payload := by
  refine ⟨fun requireComplete sliced => ?_, fun rounds bytes enough => ?_, fun bytes => ?_, ?_⟩
  · obtain ⟨enclosing, few, kept, deepest⟩ :=
      peelWith_kept layers MAX_TUNNEL_DEPTH (.start etherparse requireComplete sliced)
    rw [List.length_nil, Nat.zero_add] at few deepest
    exact ⟨enclosing, few, kept.path, kept.link, deepest⟩
  · exact ⟨mplsInnerChecked_eq etherparse enough, greInnerChecked_eq etherparse enough⟩
  · exact ⟨vxlanInnerChecked_eq bytes, geneveInnerChecked_eq bytes⟩
  · intro fromEtherType linkType frame sourceIp payload parsed
    obtain ⟨link, sliced, udp, known, slices, whole, transport, carried⟩ :=
      parseUdpPacket_eq_some parsed
    obtain ⟨enclosing, _, kept, _⟩ :=
      peelWith_kept layers MAX_TUNNEL_DEPTH (.start etherparse true sliced)
    exact ⟨link, sliced, enclosing, udp, known, slices, kept.path,
      List.forall_mem_cons.mpr ⟨whole, kept.complete rfl⟩, transport, carried⟩

def u32FromBe (b0 b1 b2 b3 : UInt8) : UInt32 :=
  (u16FromBe b0 b1).toUInt32 <<< 16 ||| (u16FromBe b2 b3).toUInt32

def udpHeader : List UInt8 → Option UdpSlice
  | s0 :: s1 :: d0 :: d1 :: l0 :: l1 :: _ :: _ :: payload =>
    some ⟨u16FromBe s0 s1, u16FromBe d0 d1, u16FromBe l0 l1, payload⟩
  | _ => none

/-- An IPv4 header without options that is not of a fragment, with a UDP header behind it. -/
def plainPacket : List UInt8 → Option LaxSlicedPacket
  | 0x45 :: tos :: l0 :: l1 :: i0 :: i1 :: _ :: _ :: ttl :: protocol :: c0 :: c1 ::
      s0 :: s1 :: s2 :: s3 :: d0 :: d1 :: d2 :: d3 :: bytes =>
    let totalLen := u16FromBe l0 l1
    let checksum := u16FromBe c0 c1
    let payload := {
      ipNumber := protocol
      fragmented := false
      incomplete := bytes.length + 20 < totalLen.toNat
      payload := bytes.take (totalLen.toNat - 20) }
    some {
      link := none
      vlan := none
      etherPayload := none
      net :=
        some (.ipv4 ⟨u32FromBe s0 s1 s2 s3, u32FromBe d0 d1 d2 d3, protocol, tos >>> 2,
          tos &&& 3, ttl,
        u16FromBe i0 i1, 0, totalLen, checksum, checksum, payload⟩)
      ipPayload := some payload
      transport := if protocol = IP_NUMBER_UDP then (udpHeader payload.payload).map .udp else none }
  | _ => none

def plainIpv4 : Etherparse where
  fromEthernet _ := none
  fromIp := plainPacket
  tcpSlice _ := none
  udpSliceLax := udpHeader
  icmpv4Slice _ := none
  icmpv6Slice _ := none

/-- A datagram of two bytes in an IPv4 packet, in GRE in another. -/
def greFrame : List UInt8 :=
  [0x45, 0, 0, 54, 0, 1, 0, 0, 64, 47, 0x8e, 0x5c, 192, 0, 2, 1, 198,
    51, 100, 7] ++ [0, 0, 0x08, 0x00] ++
    [0x45, 0, 0, 30, 0, 1, 0, 0, 64, 17, 0x66, 0xcc, 10, 0, 0, 1,
      10, 0, 0, 2] ++ [0x03, 0xe8, 0, 53, 0, 10, 0, 0] ++ [7, 8]

theorem plainIpv4_layers : LinkLayers plainIpv4 where
  fromEthernet slices := by cases slices
  fromIp slices := by
    change plainPacket _ = _ at slices
    unfold plainPacket at slices
    split at slices
    · cases slices
      rfl
    · cases slices

theorem peeling_greFrame :
    ∃ sliced enclosing, plainIpv4.fromIp greFrame = some sliced ∧
      Path plainIpv4 sliced enclosing (peelStrict plainIpv4 sliced).packet ∧
      ∀ p ∈ (peelStrict plainIpv4 sliced).packet :: enclosing, isComplete p := by
  have parsed :
      parseUdpPacket plainIpv4 (fun _ _ => ⟨none, none, none, none, none, none⟩) 101 greFrame =
    some (.v4 0x0a000001, [7, 8]) := rfl
  obtain ⟨link, sliced, enclosing, _, known, slices, path, whole, _⟩ :=
    (peeling_safe plainIpv4_layers).2.2.2 _ 101 greFrame _ _ parsed
  cases known
  exact ⟨sliced, enclosing, slices, path, whole⟩

end Rustflow
