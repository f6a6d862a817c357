import Rustflow.Export.AfPacket

/-!
# How far the ring is read

What is true of the ring and of its reader whatever the kernel and the reader have done, and what
becomes of it when either does something.
-/

namespace Rustflow.Export
open RingHandover

/-! ### Blocks left alone -/

namespace Ring
variable {ring after : Ring} {b : Nat}

theorem SameBlock.slice (same : ring.SameBlock after b) {start length : Nat}
    (low : b * BLOCK_SIZE ≤ start) (high : start + length ≤ (b + 1) * BLOCK_SIZE) :
    after.slice start length = ring.slice start length := by
  unfold Ring.slice
  refine List.map_congr_left fun i mem => ?_
  have := List.mem_range.mp mem
  exact (same.2 (start + i) (by omega) (by omega)).2

theorem SameBlock.ready (same : ring.SameBlock after b) :
    after.blockReady b = ring.blockReady b := by
  unfold blockReady
  rw [same.1]

theorem SameBlock.packets (same : ring.SameBlock after b) {count offset : Nat}
    (inside : ring.Inside b count offset) :
    after.packets count offset = ring.packets count offset ∧ after.Inside b count offset := by
  induction count generalizing offset with
  | zero => exact ⟨rfl, trivial⟩
  | succ count ih =>
    obtain ⟨low, data, high, rest⟩ := inside
    have header := (same.2 offset low high).1
    obtain ⟨others, within⟩ := ih rest
    unfold Ring.packets Ring.Inside Ring.packetAt
    dsimp only
    rw [header, others, same.slice (by omega) data]
    exact ⟨rfl, low, data, high, within⟩

theorem SameBlock.blockPackets (same : ring.SameBlock after b) (filled : ring.Filled b) :
    after.blockPackets b = ring.blockPackets b ∧ after.Filled b := by
  unfold Ring.blockPackets Ring.Filled Ring.firstPkt
  rw [same.1]
  exact same.packets filled

theorem sameBlock_setStatus {b' : Nat} (other : b ≠ b') (status : UInt32) :
    ring.SameBlock (ring.setStatus b' status) b :=
  ⟨Function.update_of_ne other .., fun _ _ _ => ⟨rfl, rfl⟩⟩

theorem blockReady_release (ring : Ring) (b : Nat) :
    (ring.setStatus b TP_STATUS_KERNEL).blockReady b = false := by
  unfold blockReady setStatus
  dsimp only
  rw [Function.update_self]
  show (TP_STATUS_KERNEL &&& TP_STATUS_USER != 0) = false
  decide

theorem blockReady_setStatus {b' : Nat} (other : b ≠ b') (status : UInt32) :
    (ring.setStatus b' status).blockReady b = ring.blockReady b := by
  unfold blockReady setStatus
  dsimp only
  rw [Function.update_of_ne other]

/-- The packets of a block that is with the reader. -/
def slot (ring : Ring) (b : Nat) : Option (List Packet) :=
  if ring.blockReady b then some (ring.blockPackets b) else none

end Ring

/-! ### The invariant -/

/-- A frame shows a packet. -/
structure Shows (packet : Packet) (frame : Frame) : Prop where
  data : frame.data = packet.data
  length : frame.length = packet.header.tpLen
  time : ∀ time, DateTime.fromTimestamp packet.header.tpSec.toNat packet.header.tpNsec.toNat =
    some time → frame.time = time

/-- The packets that are not loopback echoes. -/
def kept (packets : List Packet) : List Packet :=
  packets.filter fun packet => !isLoopbackEcho packet.header

/-- How far the reader is: `released` blocks were handed back, and of the one after these, if it is
held, the packets `done` were read and `left` were not. -/
structure Progress (shared : Shared) (released : Nat) (done left : List Packet) : Prop where
  blockIdx : shared.reader.blockIdx = released % BLOCK_NR
  slots : RingHandover.Holds BLOCK_NR shared.ring.slot shared.handed released
  filled : ∀ b < BLOCK_NR, shared.ring.blockReady b → shared.ring.Filled b
  held : shared.reader.blockHeld → shared.handed[released]? = some (done ++ left)
  idle : shared.reader.blockHeld = false → done = [] ∧ left = []
  framesLeft : shared.reader.framesLeft = left.length
  unread : left = shared.ring.packets left.length shared.reader.frameOffset
  inside : shared.ring.Inside shared.reader.blockIdx left.length shared.reader.frameOffset
  frames : List.Forall₂ Shows (kept ((shared.handed.take released).flatten ++ done)) shared.frames

/-- What is true at each point of `next_frame`. -/
def AtPoint (shared : Shared) (left : List Packet) : Prop :=
  match shared.point with
  | .returned (some frame) =>
    shared.reader.blockHeld ∧ shared.reader.blockIdx * BLOCK_SIZE ≤ frame.start ∧
      frame.start + frame.snaplen ≤ (shared.reader.blockIdx + 1) * BLOCK_SIZE ∧
      shared.frames.getLast? = some (frame.read shared.ring)
  | .returned none | .loop => True
  | .look | .poll | .lookAgain => shared.reader.blockHeld = false
  | .take => shared.reader.blockHeld = false ∧ shared.ring.blockReady shared.reader.blockIdx
  | .frame => shared.reader.blockHeld ∧ left ≠ []

structure Invariant (shared : Shared) (released : Nat) (done left : List Packet) : Prop where
  progress : Progress shared released done left
  point : AtPoint shared left

theorem block_pos : 0 < BLOCK_NR := by decide

namespace Progress
variable {shared : Shared} {released : Nat} {done left : List Packet}

theorem blockIdx_lt (progress : Progress shared released done left) :
    shared.reader.blockIdx < BLOCK_NR := by
  rw [progress.blockIdx]
  exact Nat.mod_lt _ block_pos

/-- The block at which the reader looks is the next one handed over, if there is one. -/
theorem front (progress : Progress shared released done left) :
    shared.ring.slot shared.reader.blockIdx = shared.handed[released]? := by
  rw [progress.blockIdx]
  exact progress.slots.front block_pos

theorem ready_iff (progress : Progress shared released done left) :
    shared.ring.blockReady shared.reader.blockIdx = true ↔ released < shared.handed.length := by
  have front := progress.front
  unfold Ring.slot at front
  constructor
  · intro ready
    rw [if_pos ready] at front
    exact (List.getElem?_eq_some_iff.mp front.symm).1
  · intro more
    rw [List.getElem?_eq_getElem more] at front
    by_contra none
    rw [if_neg none] at front
    cases front

theorem ready_of_held (progress : Progress shared released done left)
    (held : shared.reader.blockHeld = true) :
    shared.ring.blockReady shared.reader.blockIdx = true :=
  progress.ready_iff.mpr (List.getElem?_eq_some_iff.mp (progress.held held)).1

/-- A block whose packets were all read is handed back. -/
theorem release (progress : Progress shared released done [])
    (whole : shared.handed[released]? = some done) (point : Point) :
    Progress { shared with
      reader := (shared.reader.releaseBlock shared.ring).1
      ring := (shared.reader.releaseBlock shared.ring).2
      point }
      (released + 1) [] [] where
  blockIdx := by
    show (shared.reader.blockIdx + 1) % BLOCK_NR = _
    rw [progress.blockIdx, Nat.mod_add_mod]
  slots := by
    have more : released < shared.handed.length := (List.getElem?_eq_some_iff.mp whole).1
    refine (progress.slots.take more).congr block_pos fun b _ => ?_
    rw [← progress.blockIdx]
    show (shared.ring.setStatus shared.reader.blockIdx TP_STATUS_KERNEL).slot b = _
    unfold Ring.slot
    rcases eq_or_ne b shared.reader.blockIdx with rfl | other
    · rw [Ring.blockReady_release, Function.update_self]
      rfl
    · rw [Function.update_of_ne other, Ring.blockReady_setStatus other]
      split
      · next ready =>
        have same : shared.ring.SameBlock _ b := Ring.sameBlock_setStatus other TP_STATUS_KERNEL
        rw [(same.blockPackets (progress.filled b ‹_› ready)).1]
      · rfl
  filled b lt ready := by
    have ready : (shared.ring.setStatus shared.reader.blockIdx TP_STATUS_KERNEL).blockReady b =
        true := ready
    rcases eq_or_ne b shared.reader.blockIdx with rfl | other
    · rw [Ring.blockReady_release] at ready
      cases ready
    · rw [Ring.blockReady_setStatus other] at ready
      exact ((Ring.sameBlock_setStatus other _).blockPackets (progress.filled b lt ready)).2
  held nobody := by cases nobody
  idle _ := ⟨rfl, rfl⟩
  framesLeft := progress.framesLeft
  unread := rfl
  inside := trivial
  frames := by
    have taken : (shared.handed.take (released + 1)).flatten ++ [] =
        (shared.handed.take released).flatten ++ done := by
      rw [List.take_add_one, whole, List.append_nil, List.flatten_append]
      simp
    rw [taken]
    exact progress.frames

/-- What is with the reader is left alone. -/
theorem untouched (progress : Progress shared released done left) {after : Ring}
    (same : ∀ b < BLOCK_NR, (after.blockReady b = shared.ring.blockReady b) ∧
      (shared.ring.blockReady b → shared.ring.SameBlock after b)) :
    Progress { shared with ring := after } released done left where
  blockIdx := progress.blockIdx
  slots := by
    refine progress.slots.congr block_pos fun b lt => ?_
    obtain ⟨status, same⟩ := same b lt
    show after.slot b = _
    unfold Ring.slot
    rw [status]
    split
    · next ready => rw [((same ready).blockPackets (progress.filled b lt ready)).1]
    · rfl
  filled b lt ready := by
    obtain ⟨status, same⟩ := same b lt
    have ready : after.blockReady b = true := ready
    rw [status] at ready
    exact ((same ready).blockPackets (progress.filled b lt ready)).2
  held := progress.held
  idle := progress.idle
  framesLeft := progress.framesLeft
  unread := by
    rcases held : shared.reader.blockHeld with _ | _
    · rw [(progress.idle held).2]
      rfl
    · have same := (same _ progress.blockIdx_lt).2 (progress.ready_of_held held)
      rw [(same.packets progress.inside).1]
      exact progress.unread
  inside := by
    rcases held : shared.reader.blockHeld with _ | _
    · rw [(progress.idle held).2]
      trivial
    · have same := (same _ progress.blockIdx_lt).2 (progress.ready_of_held held)
      exact (same.packets progress.inside).2
  frames := progress.frames

/-- Another block is handed over. -/
theorem handOver (progress : Progress shared released done left) {after : Ring}
    (free : shared.ring.blockReady shared.active = false)
    (ready : after.blockReady shared.active = true) (whole : after.Filled shared.active)
    (same : ∀ b < BLOCK_NR, b ≠ shared.active → (after.blockReady b = shared.ring.blockReady b) ∧
      (shared.ring.blockReady b → shared.ring.SameBlock after b)) :
    Progress { shared with ring := after, handed := shared.handed ++
      [after.blockPackets shared.active] } released done left := by
  have none : shared.ring.slot shared.active = none := by
    unfold Ring.slot
    rw [free]
    rfl
  have earlier : ∀ (i : Nat) (block : List Packet), shared.handed[i]? = some block →
      (shared.handed ++ [after.blockPackets shared.active])[i]? = some block := by
    intro i block there
    rw [List.getElem?_append_left (List.getElem?_eq_some_iff.mp there).1]
    exact there
  have other : shared.reader.blockHeld = true →
      shared.ring.SameBlock after shared.reader.blockIdx := by
    intro held
    have front := progress.ready_of_held held
    refine (same _ progress.blockIdx_lt ?_).2 front
    intro active
    rw [active, free] at front
    cases front
  exact {
    blockIdx := progress.blockIdx
    slots := by
      refine (progress.slots.put block_pos none _).congr block_pos fun b lt => ?_
      show after.slot b = Function.update shared.ring.slot shared.active
        (some (after.blockPackets shared.active)) b
      rcases eq_or_ne b shared.active with rfl | other
      · rw [Function.update_self]
        unfold Ring.slot
        rw [ready]
        rfl
      · rw [Function.update_of_ne other]
        obtain ⟨status, same⟩ := same b lt other
        unfold Ring.slot
        rw [status]
        split
        · next ready => rw [((same ready).blockPackets (progress.filled b lt ready)).1]
        · rfl
    filled := by
      intro b lt there
      rcases eq_or_ne b shared.active with rfl | other
      · exact whole
      · obtain ⟨status, same⟩ := same b lt other
        have there : after.blockReady b = true := there
        rw [status] at there
        exact ((same there).blockPackets (progress.filled b lt there)).2
    held := fun held => earlier _ _ (progress.held held)
    idle := progress.idle
    framesLeft := progress.framesLeft
    unread := by
      rcases held : shared.reader.blockHeld with _ | _
      · rw [(progress.idle held).2]
        rfl
      · rw [((other held).packets progress.inside).1]
        exact progress.unread
    inside := by
      rcases held : shared.reader.blockHeld with _ | _
      · rw [(progress.idle held).2]
        trivial
      · exact ((other held).packets progress.inside).2
    frames := by
      rw [List.take_append_of_le_length progress.slots.ahead]
      exact progress.frames }

end Progress

/-! ### Steps -/

theorem kept_append (packets packets' : List Packet) :
    kept (packets ++ packets') = kept packets ++ kept packets' :=
  List.filter_append ..

theorem AtPoint.kernel {shared : Shared} {released : Nat} {done left : List Packet}
    (point : AtPoint shared left) (progress : Progress shared released done left) {after : Ring}
    (same : shared.ring.blockReady shared.reader.blockIdx →
      shared.ring.SameBlock after shared.reader.blockIdx)
    (handed : List (List Packet)) : AtPoint { shared with ring := after, handed } left := by
  unfold AtPoint at point ⊢
  dsimp only
  split at point
  · obtain ⟨held, low, high, last⟩ := point
    have same := same (progress.ready_of_held held)
    refine ⟨held, low, high, ?_⟩
    rw [last, BorrowedFrame.read, BorrowedFrame.read, same.slice low high]
  · trivial
  · trivial
  · exact point
  · exact point
  · exact point
  · obtain ⟨idle, ready⟩ := point
    exact ⟨idle, (same ready).ready.trans ready⟩
  · exact point

namespace Progress
variable {shared : Shared} {released : Nat} {done left : List Packet}

theorem moved (progress : Progress shared released done left) (point : Point) :
    Progress { shared with point } released done left :=
  ⟨progress.blockIdx, progress.slots, progress.filled, progress.held, progress.idle,
    progress.framesLeft, progress.unread, progress.inside, progress.frames⟩

/-- A block with packets is taken. -/
theorem take (progress : Progress shared released done left)
    (idle : shared.reader.blockHeld = false)
    (ready : shared.ring.blockReady shared.reader.blockIdx = true) (point : Point) :
    Progress { shared with
      reader := { shared.reader with
        blockHeld := true, framesLeft := (shared.ring.block shared.reader.blockIdx).numPkts
        frameOffset := shared.reader.blockOffset +
          (shared.ring.block shared.reader.blockIdx).offsetToFirstPkt }
      point } released [] (shared.ring.blockPackets shared.reader.blockIdx) := by
  have length : ∀ count offset, (shared.ring.packets count offset).length = count := by
    intro count
    induction count with
    | zero => exact fun _ => rfl
    | succ count ih => exact fun offset => congrArg Nat.succ (ih _)
  have whole : (shared.ring.blockPackets shared.reader.blockIdx).length =
      (shared.ring.block shared.reader.blockIdx).numPkts :=
    length _ _
  obtain ⟨rfl, rfl⟩ := progress.idle idle
  exact {
    blockIdx := progress.blockIdx
    slots := progress.slots
    filled := progress.filled
    held := fun _ => by
      have front := progress.front
      unfold Ring.slot at front
      rw [if_pos ready] at front
      exact front.symm
    idle := fun free => by cases free
    framesLeft := whole.symm
    unread := by
      rw [whole]
      rfl
    inside := by
      rw [whole]
      exact progress.filled _ progress.blockIdx_lt ready
    frames := progress.frames }

/-- A packet is read, which is shown unless it is an echo. -/
theorem read {packet : Packet} (progress : Progress shared released done (packet :: left))
    (held : shared.reader.blockHeld = true) (point : Point) {frames : List Frame}
    (shows : List.Forall₂ Shows (kept [packet]) frames) :
    Progress { shared with
      reader := { shared.reader with
        framesLeft := shared.reader.framesLeft - 1
        frameOffset := shared.reader.frameOffset +
          (shared.ring.header shared.reader.frameOffset).tpNextOffset }
      point, frames := shared.frames ++ frames } released (done ++ [packet]) left where
  blockIdx := progress.blockIdx
  slots := progress.slots
  filled := progress.filled
  held _ := by
    rw [List.append_assoc]
    exact progress.held held
  idle free := by
    rw [show shared.reader.blockHeld = false from free] at held
    cases held
  framesLeft := by
    show shared.reader.framesLeft - 1 = _
    rw [progress.framesLeft]
    rfl
  unread := (List.cons.inj progress.unread).2
  inside := progress.inside.2.2.2
  frames := by
    show List.Forall₂ Shows (kept ((shared.handed.take released).flatten ++ (done ++ [packet]))) _
    rw [← List.append_assoc, kept_append]
    exact List.rel_append progress.frames shows

end Progress

end Rustflow.Export
