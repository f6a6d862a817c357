import Rustflow.Export.RingReading

/-!
# Reading the ring

However the kernel and the reader get in between each other, the frames returned are the packets of
the blocks handed over, in order and each once, and a frame that is borrowed stays as it is. What
has been handed over is returned if the reader goes on.
-/

namespace Rustflow.Export
open RingHandover

/-! ### The reader's turns -/

/-- Packets handed over that were not read. -/
def toRead (shared : Shared) (released : Nat) (done : List Packet) : Nat :=
  shared.handed.flatten.length - ((shared.handed.take released).flatten.length + done.length)

/-- Within a turn of the loop the points come in descending order. -/
def Point.rank : Point → Nat
  | .frame => 0
  | .take => 1
  | .look | .lookAgain => 2
  | .loop => 3
  | .returned _ => 4
  | .poll => 5

/-- More than the turns the reader takes to read everything. -/
def weight (shared : Shared) (released : Nat) (done : List Packet) : Nat :=
  5 * toRead shared released done + 5 * (shared.handed.length - released) + shared.point.rank

/-- The reader gets ahead as long as there is something to read. -/
def Moves (shared : Shared) (released : Nat) (done : List Packet) (after : Shared) : Prop :=
  ∃ released' done' left', Invariant after released' done' left' ∧ after.handed = shared.handed ∧
    toRead after released' done' ≤ toRead shared released done ∧
    (0 < toRead shared released done → weight after released' done' < weight shared released done)

section
variable {shared : Shared} {released : Nat} {done left : List Packet}

theorem Progress.moves (progress : Progress shared released done left) {point : Point}
    (at_ : AtPoint { shared with point } left)
    (lower : 0 < toRead shared released done → point.rank < shared.point.rank) :
    Moves shared released done { shared with point } :=
  ⟨released, done, left, ⟨progress.moved point, at_⟩, rfl, Nat.le_refl _,
    fun some => Nat.add_lt_add_left (lower some) _⟩

/-- Nothing is left to read if the next block is not the reader's. -/
theorem Progress.toRead_eq_zero (progress : Progress shared released done left)
    (busy : shared.ring.blockReady shared.reader.blockIdx = false) :
    toRead shared released done = 0 := by
  have all : shared.handed.length ≤ released := by
    by_contra more
    rw [progress.ready_iff.mpr (Nat.not_le.mp more)] at busy
    cases busy
  unfold toRead
  rw [List.take_of_length_le all]
  omega

/-- A block whose packets were all read is handed back, which takes little. -/
theorem Progress.moves_release (progress : Progress shared released done [])
    (whole : shared.handed[released]? = some done) {point : Point} (at_ : AtPoint { shared with
      reader := (shared.reader.releaseBlock shared.ring).1
      ring := (shared.reader.releaseBlock shared.ring).2
      point } [])
    (lower : point.rank < 5 + shared.point.rank) :
    Moves shared released done { shared with
      reader := (shared.reader.releaseBlock shared.ring).1
      ring := (shared.reader.releaseBlock shared.ring).2
      point } := by
  have same : (shared.handed.take (released + 1)).flatten.length + ([] : List Packet).length =
      (shared.handed.take released).flatten.length + done.length := by
    rw [List.take_add_one, whole, List.flatten_append]
    simp
  have more : released < shared.handed.length := (List.getElem?_eq_some_iff.mp whole).1
  refine ⟨released + 1, [], [], ⟨progress.release whole point, at_⟩, rfl, ?_, fun _ => ?_⟩
  all_goals
    simp only [weight, toRead, same]
  · exact Nat.le_refl _
  · omega

theorem moves_loop (progress : Progress shared released done left) (at_ : shared.point = .loop)
    (outside : Outside) :
    Moves shared released done (shared.step (.reader outside)) := by
  by_cases empty : shared.reader.framesLeft = 0
  · have none := empty
    rw [progress.framesLeft] at none
    obtain rfl := List.length_eq_zero_iff.mp none
    cases held : shared.reader.blockHeld with
    | true =>
      have whole := progress.held held
      rw [List.append_nil] at whole
      have step : shared.step (.reader outside) = { shared with
          reader := (shared.reader.releaseBlock shared.ring).1
          ring := (shared.reader.releaseBlock shared.ring).2
          point := .look } := by simp [Shared.step, at_, AfPacket.step, empty, held]
      rw [step]
      exact progress.moves_release whole rfl (by rw [at_]; decide)
    | false =>
      have step : shared.step (.reader outside) = { shared with point := .look } := by
        simp [Shared.step, at_, AfPacket.step, empty, held]
      rw [step]
      exact progress.moves held fun _ => by rw [at_]; decide
  · have some : left ≠ [] := fun none => empty (by rw [progress.framesLeft, none]; rfl)
    have held : shared.reader.blockHeld = true := by
      cases held : shared.reader.blockHeld with
      | true => rfl
      | false => exact absurd (progress.idle held).2 some
    have step : shared.step (.reader outside) = { shared with point := .frame } := by
      simp [Shared.step, at_, AfPacket.step, empty]
    rw [step]
    exact progress.moves ⟨held, some⟩ fun _ => by rw [at_]; decide

/-- Either look at the status. -/
theorem moves_look (progress : Progress shared released done left)
    (idle : shared.reader.blockHeld = false) {point : Point}
    (at_ : shared.point = .look ∧ point = .poll ∨ shared.point = .lookAgain ∧
      point = .returned none) (outside : Outside) : Moves shared released done
        (shared.step (.reader outside)) := by
  cases ready : shared.ring.blockReady shared.reader.blockIdx with
  | true =>
    have step : shared.step (.reader outside) = { shared with point := .take } := by
      obtain ⟨at_, rfl⟩ | ⟨at_, rfl⟩ := at_ <;> simp [Shared.step, at_, AfPacket.step, ready]
    rw [step]
    refine progress.moves ⟨idle, ready⟩ fun _ => ?_
    obtain ⟨at_, -⟩ | ⟨at_, -⟩ := at_ <;> rw [at_] <;> decide
  | false =>
    have step : shared.step (.reader outside) = { shared with point } := by
      obtain ⟨at_, rfl⟩ | ⟨at_, rfl⟩ := at_ <;> simp [Shared.step, at_, AfPacket.step, ready]
    rw [step]
    refine progress.moves ?_ fun some => ?_
    · obtain ⟨-, rfl⟩ | ⟨-, rfl⟩ := at_
      · exact idle
      · trivial
    · rw [progress.toRead_eq_zero ready] at some
      cases some

theorem moves_poll (progress : Progress shared released done left)
    (idle : shared.reader.blockHeld = false) (at_ : shared.point = .poll) (outside : Outside) :
    Moves shared released done (shared.step (.reader outside)) := by
  cases readable : outside.readable with
  | true =>
    have step : shared.step (.reader outside) = { shared with point := .lookAgain } := by
      simp [Shared.step, at_, AfPacket.step, readable]
    rw [step]
    exact progress.moves idle fun _ => by rw [at_]; decide
  | false =>
    have step : shared.step (.reader outside) = { shared with point := .returned none } := by
      simp [Shared.step, at_, AfPacket.step, readable]
    rw [step]
    exact progress.moves trivial fun _ => by rw [at_]; decide

theorem moves_take (progress : Progress shared released done left)
    (idle : shared.reader.blockHeld = false)
    (ready : shared.ring.blockReady shared.reader.blockIdx = true) (at_ : shared.point = .take)
    (outside : Outside) :
    Moves shared released done (shared.step (.reader outside)) := by
  obtain ⟨rfl, rfl⟩ := progress.idle idle
  by_cases empty : (shared.ring.block shared.reader.blockIdx).numPkts = 0
  · have front := progress.front
    unfold Ring.slot Ring.blockPackets at front
    rw [if_pos ready, empty] at front
    have step : shared.step (.reader outside) = { shared with
        reader := (shared.reader.releaseBlock shared.ring).1
        ring := (shared.reader.releaseBlock shared.ring).2
        point := .returned none } := by
      simp [Shared.step, at_, AfPacket.step, empty, AfPacket.releaseBlock]
    rw [step]
    exact progress.moves_release front.symm trivial (by rw [at_]; decide)
  · have step : shared.step (.reader outside) = { shared with
        reader := { shared.reader with
          blockHeld := true, framesLeft := (shared.ring.block shared.reader.blockIdx).numPkts
          frameOffset :=
            shared.reader.blockOffset +
              (shared.ring.block shared.reader.blockIdx).offsetToFirstPkt }
        point := .frame } := by simp [Shared.step, at_, AfPacket.step, empty, AfPacket.blockOffset]
    rw [step]
    refine ⟨released, [], shared.ring.blockPackets shared.reader.blockIdx,
      ⟨progress.take idle ready .frame, ?_⟩, rfl, Nat.le_refl _, fun _ => ?_⟩
    · obtain ⟨count, more⟩ := Nat.exists_eq_succ_of_ne_zero empty
      refine ⟨rfl, ?_⟩
      rw [Ring.blockPackets, more]
      exact List.cons_ne_nil _ _
    · refine Nat.add_lt_add_left ?_ _
      show Point.rank .frame < shared.point.rank
      rw [at_]
      decide

theorem moves_frame (progress : Progress shared released done left)
    (held : shared.reader.blockHeld = true) (more : left ≠ []) (at_ : shared.point = .frame)
    (outside : Outside) : Moves shared released done (shared.step (.reader outside)) := by
  obtain ⟨packet, left, rfl⟩ := List.exists_cons_of_ne_nil more
  obtain ⟨rfl, -⟩ := List.cons.inj progress.unread
  obtain ⟨low, high, -, -⟩ := progress.inside
  have lighter : ∀ (point : Point) (frames : List Frame) (reader : AfPacket), point.rank ≤ 4 →
      toRead { shared with reader, point, frames } released
        (done ++ [shared.ring.packetAt shared.reader.frameOffset]) ≤
          toRead shared released done ∧
        (0 < toRead shared released done →
          weight { shared with reader, point, frames } released
            (done ++ [shared.ring.packetAt shared.reader.frameOffset]) <
            weight shared released done) := by
    intro point frames reader low
    simp only [weight, toRead, List.length_append, List.length_singleton, at_]
    omega
  cases echo : isLoopbackEcho (shared.ring.header shared.reader.frameOffset) with
  | true =>
    have none : List.Forall₂ Shows (kept [shared.ring.packetAt shared.reader.frameOffset]) [] := by
      simp [kept, Ring.packetAt, echo]
    have step : shared.step (.reader outside) = { shared with
        reader := { shared.reader with
          framesLeft := shared.reader.framesLeft - 1
          frameOffset :=
            shared.reader.frameOffset +
              (shared.ring.header shared.reader.frameOffset).tpNextOffset }
        point := .loop
        frames := shared.frames ++ [] } := by
      simp [Shared.step, at_, AfPacket.step, echo]
    rw [step]
    exact ⟨released, _, left, ⟨progress.read held .loop none, trivial⟩, rfl,
      lighter .loop _ _ (by decide)⟩
  | false =>
    have shows : List.Forall₂ Shows (kept [shared.ring.packetAt shared.reader.frameOffset])
        [(shared.reader.borrowed outside shared.ring).read shared.ring] := by
      simp only [kept, Ring.packetAt, List.filter_cons, echo, Bool.not_false, ↓reduceIte,
        List.filter_nil]
      refine List.Forall₂.cons ⟨rfl, rfl, fun time there => ?_⟩ .nil
      exact congrArg (Option.getD · outside.now) there
    have step : shared.step (.reader outside) = { shared with
        reader := { shared.reader with
          framesLeft := shared.reader.framesLeft - 1
          frameOffset :=
            shared.reader.frameOffset +
              (shared.ring.header shared.reader.frameOffset).tpNextOffset }
        point := .returned (some (shared.reader.borrowed outside shared.ring))
        frames :=
          shared.frames ++ [(shared.reader.borrowed outside shared.ring).read shared.ring] } := by
      simp [Shared.step, at_, AfPacket.step, echo]
    rw [step]
    refine ⟨released, _, left, ⟨progress.read held _ shows, ?_⟩, rfl,
      lighter (.returned _) _ _ (Nat.le_refl 4)⟩
    exact ⟨held, Nat.le_add_right_of_le low, high, List.getLast?_concat ..⟩

theorem moves_reader (inv : Invariant shared released done left) (outside : Outside) :
    Moves shared released done (shared.step (.reader outside)) := by
  obtain ⟨progress, point⟩ := inv
  unfold AtPoint at point
  cases at_ : shared.point with
  | returned frame =>
    have step : shared.step (.reader outside) = { shared with point := .loop } := by
      simp [Shared.step, at_, AfPacket.step]
    rw [step]
    exact progress.moves trivial fun _ => by rw [at_]; exact Nat.lt_succ_self 3
  | loop => exact moves_loop progress at_ outside
  | look =>
    rw [at_] at point
    exact moves_look progress point (.inl ⟨at_, rfl⟩) outside
  | poll =>
    rw [at_] at point
    exact moves_poll progress point at_ outside
  | lookAgain =>
    rw [at_] at point
    exact moves_look progress point (.inr ⟨at_, rfl⟩) outside
  | take =>
    rw [at_] at point
    exact moves_take progress point.1 point.2 at_ outside
  | frame =>
    rw [at_] at point
    exact moves_frame progress point.1 point.2 at_ outside

end

/-- However the kernel and the reader take turns, the reader is somewhere in what was handed
over. -/
theorem step_invariant {shared : Shared} {released : Nat} {done left : List Packet}
    (inv : Invariant shared released done left) {turn : Turn} (allowed : shared.Allowed turn) :
    ∃ released' done' left', Invariant (shared.step turn) released' done' left' := by
  obtain ⟨progress, point⟩ := inv
  cases turn with
  | write after =>
    exact ⟨released, done, left, progress.untouched allowed,
      point.kernel progress (allowed _ progress.blockIdx_lt).2 _⟩
  | handOver after =>
    obtain ⟨free, ready, whole, same⟩ := allowed
    refine ⟨released, done, left, progress.handOver free ready whole same,
      point.kernel progress (fun front => ?_) _⟩
    refine (same _ progress.blockIdx_lt ?_).2 front
    intro active
    rw [active, free] at front
    cases front
  | reader outside =>
    obtain ⟨_, _, _, inv, -⟩ := moves_reader ⟨progress, point⟩ outside
    exact ⟨_, _, _, inv⟩

/-! ### Runs -/

theorem invariant_start {ring : Ring} (fresh : ∀ b < BLOCK_NR, ring.blockReady b = false) :
    Invariant (.start ring) 0 [] [] where
  progress := {
    blockIdx := rfl
    slots := (RingHandover.Holds.empty BLOCK_NR).congr block_pos fun b lt => by
      show ring.slot b = none
      unfold Ring.slot
      rw [fresh b lt]
      rfl
    filled := fun b lt ready => by
      have ready : ring.blockReady b = true := ready
      rw [fresh b lt] at ready
      cases ready
    held := fun held => by cases held
    idle := fun _ => ⟨rfl, rfl⟩
    framesLeft := rfl
    unread := rfl
    inside := trivial
    frames := .nil }
  point := trivial

theorem invariant_of_runs {shared after : Shared} {turns : List Turn}
    (runs : Shared.Runs shared turns after) {released : Nat} {done left : List Packet}
    (inv : Invariant shared released done left) :
    ∃ released' done' left', Invariant after released' done' left' := by
  induction runs generalizing released done left with
  | nil => exact ⟨released, done, left, inv⟩
  | cons allowed _ ih =>
    obtain ⟨_, _, _, inv⟩ := step_invariant inv allowed
    exact ih inv

/-- What has been read is a first part of what was handed over. -/
theorem Progress.split {shared : Shared} {released : Nat} {done left : List Packet}
    (progress : Progress shared released done left) :
    ∃ unread, shared.handed.flatten = (shared.handed.take released).flatten ++ done ++ unread := by
  have cut : shared.handed.flatten = (shared.handed.take released).flatten ++
      (shared.handed.drop released).flatten := by
    rw [← List.flatten_append, List.take_append_drop]
  cases held : shared.reader.blockHeld with
  | true =>
    obtain ⟨more, block⟩ := List.getElem?_eq_some_iff.mp (progress.held held)
    rw [List.drop_eq_getElem_cons more, block, List.flatten_cons] at cut
    exact ⟨left ++ (shared.handed.drop (released + 1)).flatten, by rw [cut]; simp⟩
  | false =>
    obtain ⟨rfl, rfl⟩ := progress.idle held
    exact ⟨(shared.handed.drop released).flatten, by rw [List.append_nil]; exact cut⟩

/-- In any run from a ring that is all the kernel's, the frames returned show the first packets
handed over that are no echoes, in order and each once. A frame that is borrowed is one of a block
that the kernel has not got back, and reads as when it was returned. -/
theorem frames_in_order {ring : Ring} (fresh : ∀ b < BLOCK_NR, ring.blockReady b = false)
    {turns : List Turn} {shared : Shared} (runs : Shared.Runs (.start ring) turns shared) :
    (∃ read unread, shared.handed.flatten = read ++ unread ∧
      List.Forall₂ Shows (kept read) shared.frames) ∧
      shared.reader.blockIdx < BLOCK_NR ∧
      ∀ frame, shared.point = .returned (some frame) →
        shared.ring.blockReady shared.reader.blockIdx = true ∧ shared.reader.blockIdx * BLOCK_SIZE ≤
          frame.start ∧
          frame.start + frame.snaplen ≤ (shared.reader.blockIdx + 1) * BLOCK_SIZE ∧
          shared.frames.getLast? = some (frame.read shared.ring) := by
  obtain ⟨released, done, left, progress, point⟩ := invariant_of_runs runs (invariant_start fresh)
  obtain ⟨unread, split⟩ := progress.split
  refine ⟨⟨_, unread, split, progress.frames⟩, progress.blockIdx_lt, fun frame returned => ?_⟩
  unfold AtPoint at point
  rw [returned] at point
  obtain ⟨held, low, high, last⟩ := point
  exact ⟨progress.ready_of_held held, low, high, last⟩

def freshRing : Ring where
  block _ := ⟨TP_STATUS_KERNEL, 0, 0⟩
  header _ := ⟨0, 0, 0, 0, 0, 0, 0, 0⟩
  byte _ := 0

/-- A block of a loopback packet as sent and as received. -/
def oneBlock : Ring where
  block b := if b = 0 then ⟨TP_STATUS_USER, 2, 48⟩ else ⟨TP_STATUS_KERNEL, 0, 0⟩
  header offset :=
    { tpNextOffset := if offset = 48 then 128 else 0
      tpSec := 1
      tpNsec := 5
      tpSnaplen := 2
      tpLen := 60
      tpMac := 82
      sllPkttype := if offset = 48 then PACKET_OUTGOING else 0
      sllHatype := ARPHRD_LOOPBACK }
  byte offset := UInt8.ofNat offset

theorem freshRing_fresh : ∀ b < BLOCK_NR, freshRing.blockReady b = false := by
  intro b _
  show (TP_STATUS_KERNEL &&& TP_STATUS_USER != 0) = false
  decide

theorem oneBlock_handed : (Shared.start freshRing).Allowed (.handOver oneBlock) := by
  refine ⟨rfl, rfl, ⟨by decide, by decide, by decide, by decide, by decide, by decide, trivial⟩,
    fun b _ other => ?_⟩
  have other : b ≠ 0 := other
  have before : freshRing.blockReady b = false := freshRing_fresh b ‹_›
  have after : oneBlock.blockReady b = false := by
    unfold Ring.blockReady oneBlock
    dsimp only
    rw [if_neg other]
    decide
  exact ⟨after.trans before.symm, fun ready => by cases before.symm.trans ready⟩

def fewTurns : List Turn := .handOver oneBlock :: List.replicate 7 (.reader ⟨false, ⟨0⟩⟩)

theorem fewTurns_run :
    Shared.Runs (.start freshRing) fewTurns (fewTurns.foldl Shared.step (.start freshRing)) := by
  refine .cons oneBlock_handed ?_
  iterate 7 refine .cons trivial ?_
  exact .nil _

/-- The packet as received is returned. -/
theorem fewTurns_frames :
    (∃ read unread, (fewTurns.foldl Shared.step (.start freshRing)).handed.flatten =
      read ++ unread ∧
      List.Forall₂ Shows (kept read) (fewTurns.foldl Shared.step (.start freshRing)).frames) ∧
      (fewTurns.foldl Shared.step (.start freshRing)).frames = [⟨[2, 3], 60, ⟨1000000005⟩⟩] := by
  obtain ⟨inOrder, -⟩ := frames_in_order freshRing_fresh fewTurns_run
  exact ⟨inOrder, rfl⟩

/-- With the kernel idle, the reader reads everything in so many turns. -/
theorem toRead_eq_zero_of_turns {shared : Shared} {released : Nat} {done left : List Packet}
    (inv : Invariant shared released done left) {outs : List Outside}
    (enough : weight shared released done ≤ outs.length) :
    ∃ released' done' left', Invariant
      (outs.foldl (fun shared outside => shared.step (.reader outside)) shared) released'
      done' left' ∧
      (outs.foldl (fun shared outside => shared.step (.reader outside)) shared).handed =
        shared.handed ∧
      toRead (outs.foldl (fun shared outside => shared.step (.reader outside)) shared) released'
        done' = 0 := by
  have kept : ∀ (outs : List Outside) {shared : Shared} {released : Nat} {done left : List Packet},
      Invariant shared released done left → toRead shared released done = 0 ∨
        weight shared released done ≤ outs.length →
      ∃ released' done' left', Invariant
        (outs.foldl (fun shared outside => shared.step (.reader outside)) shared) released'
        done' left' ∧
        (outs.foldl (fun shared outside => shared.step (.reader outside)) shared).handed =
          shared.handed ∧
        toRead (outs.foldl (fun shared outside => shared.step (.reader outside)) shared) released'
          done' = 0 := by
    intro outs
    induction outs with
    | nil =>
      intro shared released done left inv enough
      refine ⟨released, done, left, inv, rfl, ?_⟩
      rcases enough with none | light
      · exact none
      · have : 5 * toRead shared released done ≤ 0 := by
          unfold weight at light
          simp only [List.length_nil] at light
          omega
        show toRead shared released done = 0
        omega
    | cons outside outs ih =>
      intro shared released done left inv enough
      obtain ⟨released', done', left', inv', handed, fewer, lighter⟩ := moves_reader inv outside
      obtain ⟨_, _, _, inv'', handed', none⟩ := ih inv' (by
        rcases Nat.eq_zero_or_pos (toRead shared released done) with zero | some
        · exact Or.inl (by omega)
        · have less := lighter some
          rcases enough with zero | light
          · omega
          · rw [List.length_cons] at light
            exact Or.inr (by omega))
      exact ⟨_, _, _, inv'', handed'.trans handed, none⟩
  exact kept outs inv (Or.inr enough)

/-- From any state of any run the reader gets by itself to where the frames returned show all
packets handed over that are no echoes: five turns for each packet and each block, and some to get
started, are enough. -/
theorem frames_complete {ring : Ring} (fresh : ∀ b < BLOCK_NR, ring.blockReady b = false)
    {turns : List Turn} {shared : Shared} (runs : Shared.Runs (.start ring) turns shared)
    {outs : List Outside} (enough : 5 * (shared.handed.flatten.length + BLOCK_NR + 1) ≤
      outs.length) :
    List.Forall₂ Shows (kept shared.handed.flatten)
      (outs.foldl (fun shared outside => shared.step (.reader outside)) shared).frames := by
  obtain ⟨released, done, left, inv⟩ := invariant_of_runs runs (invariant_start fresh)
  have light : weight shared released done ≤ outs.length := by
    have room := inv.progress.slots.room
    have rank : shared.point.rank ≤ 5 := by cases shared.point <;> simp [Point.rank]
    unfold weight toRead
    omega
  obtain ⟨_, _, _, inv, handed, none⟩ := toRead_eq_zero_of_turns inv light
  obtain ⟨unread, split⟩ := inv.progress.split
  have length := congrArg List.length split
  unfold toRead at none
  simp only [List.length_append] at length
  have empty : unread = [] := List.length_eq_zero_iff.mp (by omega)
  rw [← handed, split, empty, List.append_nil]
  exact inv.progress.frames

theorem oneBlock_complete :
    List.Forall₂ Shows (kept ((Shared.start freshRing).step (.handOver oneBlock)).handed.flatten)
      ((List.replicate 335 ⟨false, ⟨0⟩⟩).foldl (fun shared outside => shared.step (.reader outside))
        ((Shared.start freshRing).step (.handOver oneBlock))).frames :=
  frames_complete freshRing_fresh
    (.cons oneBlock_handed (.nil _)) (by rw [List.length_replicate]; decide)

end Rustflow.Export
