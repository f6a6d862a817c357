import Rustflow.Common.CommonFlow

/-!
# NetFlow v5

`netflow_v5/parser.rs` and `common/convert/netflow_v5.rs`. The parser has no state: a record has the
same fields in every packet.
-/

namespace Rustflow.NetflowV5
open Combinator

def NETFLOW_V5_VERSION : UInt16 := 5

structure Header where
  version : UInt16
  count : UInt16
  sysUptime : UInt32
  unixSecs : UInt32
  unixNsecs : UInt32
  flowSequence : UInt32
  engineType : UInt8
  engineId : UInt8
  samplingMode : UInt16
  samplingInterval : UInt16
  deriving DecidableEq

/-- In a leap second, the last of a minute, the nanoseconds count on to two seconds. -/
def Header.inLeapSecond (self : Header) : Bool :=
  1000000000 ≤ self.unixNsecs.toNat ∧ self.unixNsecs.toNat < 2000000000 ∧
    self.unixSecs.toNat % 60 = 59

/-- Any second that fits the field is a date. -/
def Header.unixTime (self : Header) : Option DateTime :=
  if self.unixNsecs.toNat < 1000000000 ∨ self.inLeapSecond then
    some ⟨self.unixSecs.toNat * 1000000000 + self.unixNsecs.toNat⟩
  else none

structure FlowRecord where
  srcaddr : Ipv4Addr
  dstaddr : Ipv4Addr
  nexthop : Ipv4Addr
  input : UInt16
  output : UInt16
  dPkts : UInt32
  dOckts : UInt32
  first : UInt32
  last : UInt32
  srcport : UInt16
  dstport : UInt16
  tcpFlags : UInt8
  prot : UInt8
  tos : UInt8
  srcAs : UInt16
  dstAs : UInt16
  srcMask : UInt8
  dstMask : UInt8
  deriving DecidableEq

structure NetFlowV5Packet where
  header : Header
  flowRecords : List FlowRecord
  deriving DecidableEq

def parseHeader : Parser Header := do
  let version ← verifyVersion NETFLOW_V5_VERSION
  let count ← beU16
  let sysUptime ← beU32
  let unixSecs ← beU32
  let unixNsecs ← beU32
  let flowSequence ← beU32
  let engineType ← beU8
  let engineId ← beU8
  let samplingInterval ← beU16
  return {
    version, count, sysUptime, unixSecs, unixNsecs, flowSequence, engineType, engineId
    samplingMode := samplingInterval >>> 14
    samplingInterval := samplingInterval &&& 0x3fff }

def parseFlowRecord : Parser FlowRecord := do
  let srcaddr ← ipv4Addr
  let dstaddr ← ipv4Addr
  let nexthop ← ipv4Addr
  let input ← beU16
  let output ← beU16
  let dPkts ← beU32
  let dOckts ← beU32
  let first ← beU32
  let last ← beU32
  let srcport ← beU16
  let dstport ← beU16
  let _ ← take 1
  let tcpFlags ← beU8
  let prot ← beU8
  let tos ← beU8
  let srcAs ← beU16
  let dstAs ← beU16
  let srcMask ← beU8
  let dstMask ← beU8
  let _ ← take 2
  return {
    srcaddr, dstaddr, nexthop, input, output, dPkts, dOckts, first, last, srcport, dstport,
    tcpFlags, prot
    tos, srcAs, dstAs, srcMask, dstMask }

/-- `many` with a number for its range wants exactly so many records. -/
def parse : Parser NetFlowV5Packet := do
  let header ← parseHeader
  let flowRecords ← count parseFlowRecord header.count.toNat
  return { header, flowRecords }

/-! ### Conversion -/

structure NetFlowV5Context where
  header : Header
  samplerAddress : Option IpAddr

namespace NetFlowV5Context

/-- A time after the leap second that the header is in does not count that second. -/
def uptimeToAbsoluteNs (self : NetFlowV5Context) (uptimeMs : UInt32) : Option Int := do
  let ns ← Rustflow.uptimeToAbsoluteNs (← self.header.unixTime) self.header.sysUptime uptimeMs
  return if self.header.inLeapSecond ∧ (self.header.unixSecs.toNat + 2) * 1000000000 ≤ ns then
    ns - 1000000000 else ns

def convert (self : NetFlowV5Context) (record : FlowRecord) : CommonFlow where
  flowType := .netflowV5
  sequenceNum := self.header.flowSequence
  samplingRate := some self.header.samplingInterval.toUInt32
  samplerAddress := self.samplerAddress
  timeFlowStartNs := self.uptimeToAbsoluteNs record.first
  timeFlowEndNs := self.uptimeToAbsoluteNs record.last
  bytes := record.dOckts.toUInt64
  packets := record.dPkts.toUInt64
  srcAddr := some (.v4 record.srcaddr)
  dstAddr := some (.v4 record.dstaddr)
  etype := some 0x0800
  proto := some record.prot
  srcPort := some record.srcport
  dstPort := some record.dstport
  inIf := some record.input.toUInt32
  outIf := some record.output.toUInt32
  ipTos := some record.tos
  tcpFlags := some record.tcpFlags.toUInt16
  srcAs := some record.srcAs.toUInt32
  dstAs := some record.dstAs.toUInt32
  nextHop := some (.v4 record.nexthop)
  srcNet := some record.srcMask
  dstNet := some record.dstMask

end NetFlowV5Context

end Rustflow.NetflowV5
