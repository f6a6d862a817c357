import Mathlib.Logic.Function.Basic
import Rustflow.Export.Meter
import Rustflow.Lib.RingHandover

/-!
# The AF_PACKET ring

`capture/af_packet.rs`: a ring of blocks in memory shared with the kernel, which hands over whole
blocks of frames. `next_frame` is taken apart at each look at that memory, so that the kernel can
get in between. The socket, the filter and the mapping of the ring are left out.
-/

namespace Rustflow.Export

def BLOCK_SIZE : Nat := 2 ^ 16
def BLOCK_NR : Nat := 64

def TP_STATUS_KERNEL : UInt32 := 0
def TP_STATUS_USER : UInt32 := 1

def PACKET_OUTGOING : UInt8 := 4
def ARPHRD_LOOPBACK : UInt16 := 772

/-- A capture timestamp, which a kernel never gives out of range. -/
def captureTime (now : DateTime) (secs : Int) (nanos : Nat) : DateTime :=
  (DateTime.fromTimestamp secs nanos).getD now

/-- `tpacket_hdr_v1`, the descriptor of a block. -/
structure BlockHeader where
  blockStatus : UInt32
  numPkts : Nat
  offsetToFirstPkt : Nat

/-- `tpacket3_hdr`, the header of a frame, and the kind of packet and device in the address after
it. -/
structure FrameHeader where
  tpNextOffset : Nat
  tpSec : UInt32
  tpNsec : UInt32
  tpSnaplen : Nat
  tpLen : UInt32
  tpMac : Nat
  sllPkttype : UInt8
  sllHatype : UInt16
  deriving DecidableEq

/-- The ring: the descriptor of each block, and what a header or a byte at an offset reads as. -/
structure Ring where
  block : Nat → BlockHeader
  header : Nat → FrameHeader
  byte : Nat → UInt8

namespace Ring

def blockReady (self : Ring) (blockIdx : Nat) : Bool :=
  (self.block blockIdx).blockStatus &&& TP_STATUS_USER != 0

def setStatus (self : Ring) (blockIdx : Nat) (status : UInt32) : Ring :=
  { self with
    block := Function.update self.block blockIdx
      { self.block blockIdx with blockStatus := status } }

def slice (self : Ring) (start length : Nat) : List UInt8 :=
  (List.range length).map fun i => self.byte (start + i)

end Ring

/-- A loopback device hands every packet to a packet socket twice, as sent and as received; only the
received copy is kept. -/
def isLoopbackEcho (frame : FrameHeader) : Bool :=
  frame.sllPkttype = PACKET_OUTGOING && frame.sllHatype = ARPHRD_LOOPBACK

/-- A `Frame` as `next_frame` returns it: its data is a slice of the ring. -/
structure BorrowedFrame where
  start : Nat
  snaplen : Nat
  length : UInt32
  time : DateTime

/-- The frame as its caller sees it. -/
def BorrowedFrame.read (self : BorrowedFrame) (ring : Ring) : Frame :=
  { data := ring.slice self.start self.snaplen, length := self.length, time := self.time }

structure AfPacket where
  blockIdx : Nat
  /-- Whether a block is held. It is handed back on the read after its last frame, because that
  frame is still borrowed by the caller. -/
  blockHeld : Bool
  /-- Frames still to read in the block held. -/
  framesLeft : Nat
  /-- Ring offset of the next frame in that block. -/
  frameOffset : Nat

/-- Where `next_frame` is. -/
inductive Point where
  /-- It has returned. -/
  | returned (frame : Option BorrowedFrame)
  /-- At the top of its loop. -/
  | loop
  /-- In `acquire_block`, before the first look at the status, before `poll`, and before the second
  look. -/
  | look
  | poll
  | lookAgain
  /-- In `acquire_block` with the status seen. -/
  | take
  /-- At a frame of the block held. -/
  | frame

/-- What a step gets from outside: whether `poll` finds the socket readable, with no error pending,
and the clock. -/
structure Outside where
  readable : Bool
  now : DateTime

namespace AfPacket

def new : AfPacket := { blockIdx := 0, blockHeld := false, framesLeft := 0, frameOffset := 0 }

def blockOffset (self : AfPacket) : Nat := self.blockIdx * BLOCK_SIZE

def releaseBlock (self : AfPacket) (ring : Ring) : AfPacket × Ring :=
  ({ self with blockIdx := (self.blockIdx + 1) % BLOCK_NR, blockHeld := false },
    ring.setStatus self.blockIdx TP_STATUS_KERNEL)

/-- The frame at which the reader is. -/
def borrowed (outside : Outside) (self : AfPacket) (ring : Ring) : BorrowedFrame :=
  let hdr := ring.header self.frameOffset
  { start := self.frameOffset + hdr.tpMac
    snaplen := hdr.tpSnaplen
    length := hdr.tpLen
    time := captureTime outside.now hdr.tpSec.toNat hdr.tpNsec.toNat }

/-- `next_frame` from one point to the next. -/
def step (outside : Outside) (self : AfPacket) (ring : Ring) : Point → Point × AfPacket × Ring
  | .returned _ => (.loop, self, ring)
  | .loop =>
    if self.framesLeft = 0 then
      let (self, ring) := if self.blockHeld then self.releaseBlock ring else (self, ring)
      (.look, self, ring)
    else (.frame, self, ring)
  | .look => (if ring.blockReady self.blockIdx then .take else .poll, self, ring)
  | .poll => (if outside.readable then .lookAgain else .returned none, self, ring)
  | .lookAgain => (if ring.blockReady self.blockIdx then .take else .returned none, self, ring)
  | .take =>
    let block := ring.block self.blockIdx
    let self := { self with blockHeld := true }
    if block.numPkts = 0 then
      -- Handed over empty by the block timeout.
      let (self, ring) := self.releaseBlock ring
      (.returned none, self, ring)
    else (.frame, { self with
      framesLeft := block.numPkts
      frameOffset := self.blockOffset + block.offsetToFirstPkt }, ring)
  | .frame =>
    let hdr := ring.header self.frameOffset
    let next :=
      { self with
        framesLeft := self.framesLeft - 1
        frameOffset := self.frameOffset + hdr.tpNextOffset }
    (if isLoopbackEcho hdr then .loop else .returned (some (self.borrowed outside ring)),
      next, ring)

end AfPacket

/-! ### The kernel -/

/-- A packet as the kernel put it into the ring. -/
structure Packet where
  header : FrameHeader
  data : List UInt8
  deriving DecidableEq

namespace Ring

def packetAt (self : Ring) (offset : Nat) : Packet :=
  let hdr := self.header offset
  { header := hdr, data := self.slice (offset + hdr.tpMac) hdr.tpSnaplen }

/-- The packets in a chain of frames. -/
def packets (self : Ring) : Nat → Nat → List Packet
  | 0, _ => []
  | count + 1, offset =>
    self.packetAt offset :: packets self count (offset + (self.header offset).tpNextOffset)

/-- Each frame of a chain is in the block. -/
def Inside (self : Ring) (blockIdx : Nat) : Nat → Nat → Prop
  | 0, _ => True
  | count + 1, offset =>
    let hdr := self.header offset
    blockIdx * BLOCK_SIZE ≤ offset ∧ offset + hdr.tpMac + hdr.tpSnaplen ≤ (blockIdx + 1) *
      BLOCK_SIZE ∧
      offset < (blockIdx + 1) * BLOCK_SIZE ∧ Inside self blockIdx count (offset + hdr.tpNextOffset)

def firstPkt (self : Ring) (blockIdx : Nat) : Nat :=
  blockIdx * BLOCK_SIZE + (self.block blockIdx).offsetToFirstPkt

/-- The packets of a block. -/
def blockPackets (self : Ring) (blockIdx : Nat) : List Packet :=
  self.packets (self.block blockIdx).numPkts (self.firstPkt blockIdx)

/-- A block that is written whole. -/
def Filled (self : Ring) (blockIdx : Nat) : Prop :=
  self.Inside blockIdx (self.block blockIdx).numPkts (self.firstPkt blockIdx)

/-- The same in all of a block. -/
def SameBlock (self other : Ring) (blockIdx : Nat) : Prop :=
  other.block blockIdx = self.block blockIdx ∧
    ∀ offset, blockIdx * BLOCK_SIZE ≤ offset → offset < (blockIdx + 1) * BLOCK_SIZE →
      other.header offset = self.header offset ∧ other.byte offset = self.byte offset

end Ring

/-- What the kernel and the thread that reads the ring have come to. `handed` and `frames` are
records that neither reads: the packets of each block the kernel has handed over, and the frames
returned as they were then. -/
structure Shared where
  ring : Ring
  reader : AfPacket
  point : Point
  handed : List (List Packet)
  frames : List Frame

inductive Turn where
  /-- The reader goes to its next point. -/
  | reader (outside : Outside)
  /-- The kernel writes to blocks it has. -/
  | write (after : Ring)
  /-- The kernel hands over the block that is next in its turn. -/
  | handOver (after : Ring)

namespace Shared

def start (ring : Ring) : Shared :=
  { ring, reader := .new, point := .returned none, handed := [], frames := [] }

/-- The kernel's next block. -/
def active (self : Shared) : Nat := self.handed.length % BLOCK_NR

/-- What a kernel does: it leaves blocks alone that it has handed over until it gets them back,
hands over blocks in turn, and only ones that are written whole. -/
def Allowed (self : Shared) : Turn → Prop
  | .reader _ => True
  | .write after =>
    ∀ b < BLOCK_NR, (after.blockReady b = self.ring.blockReady b) ∧
      (self.ring.blockReady b → self.ring.SameBlock after b)
  | .handOver after =>
    self.ring.blockReady self.active = false ∧ after.blockReady self.active = true ∧
      after.Filled self.active ∧
      ∀ b < BLOCK_NR, b ≠ self.active →
        (after.blockReady b = self.ring.blockReady b) ∧
          (self.ring.blockReady b → self.ring.SameBlock after b)

def step (self : Shared) : Turn → Shared
  | .reader outside =>
    let (point, reader, ring) := self.reader.step outside self.ring self.point
    let returned := match self.point, point with
      | .frame, .returned (some frame) => [frame.read ring]
      | _, _ => []
    { self with ring, reader, point, frames := self.frames ++ returned }
  | .write after => { self with ring := after }
  | .handOver after =>
    { self with ring := after, handed := self.handed ++ [after.blockPackets self.active] }

/-- A run in which the kernel does only what it may. -/
inductive Runs : Shared → List Turn → Shared → Prop
  | nil (self : Shared) : Runs self [] self
  | cons {self after : Shared} {turn : Turn} {turns : List Turn} (allowed : self.Allowed turn)
      (rest : Runs (self.step turn) turns after) : Runs self (turn :: turns) after

end Shared

end Rustflow.Export
