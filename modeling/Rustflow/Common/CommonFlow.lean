import Rustflow.Common.Parser

/-!
# Normalized flows

`common/common_flow.rs`, and what `common/convert/mod.rs` shares between the converters. The times
of a flow are `i64` nanoseconds.
-/

namespace Rustflow

inductive FlowType where
  | netflowV5 | netflowV9 | ipfix | sflowV5
  deriving DecidableEq

structure CommonFlow where
  flowType : FlowType
  timeReceivedNs : Option Int := none
  sequenceNum : UInt32 := 0
  samplingRate : Option UInt32 := none
  samplerAddress : Option IpAddr := none
  timeFlowStartNs : Option Int := none
  timeFlowEndNs : Option Int := none
  bytes : UInt64 := 0
  packets : UInt64 := 0
  srcAddr : Option IpAddr := none
  dstAddr : Option IpAddr := none
  srcMac : Option MacAddr6 := none
  dstMac : Option MacAddr6 := none
  etype : Option UInt16 := none
  proto : Option UInt8 := none
  srcPort : Option UInt16 := none
  dstPort : Option UInt16 := none
  inIf : Option UInt32 := none
  outIf : Option UInt32 := none
  ipTos : Option UInt8 := none
  ipTtl : Option UInt8 := none
  tcpFlags : Option UInt16 := none
  icmpType : Option UInt8 := none
  icmpCode : Option UInt8 := none
  ipv6FlowLabel : Option UInt32 := none
  fragmentId : Option UInt32 := none
  fragmentOffset : Option UInt16 := none
  srcAs : Option UInt32 := none
  dstAs : Option UInt32 := none
  nextHop : Option IpAddr := none
  srcNet : Option UInt8 := none
  dstNet : Option UInt8 := none
  bgpNextHop : Option IpAddr := none
  srcVlan : Option UInt16 := none
  dstVlan : Option UInt16 := none
  observationDomainId : Option UInt32 := none
  templateId : Option UInt16 := none
  forwardingStatus : Option UInt32 := none
  deriving DecidableEq

def CommonFlow.new (flowType : FlowType) : CommonFlow := { flowType }

/-- `as i64`: the low bits of the two's complement. -/
def asI64 (x : Int) : Int := x.bmod (2 ^ 64)

namespace DateTime

/-- `none` where the count of nanoseconds does not fit in an `i64`. -/
def timestampNanosOpt (t : DateTime) : Option Int :=
  if -2 ^ 63 ≤ t.nanos ∧ t.nanos < 2 ^ 63 then some t.nanos else none

/-- Goes back by some milliseconds. `none` outside the years that can be represented. -/
def checkedSubMillis (t : DateTime) (millis : Int) : Option DateTime :=
  let nanos := t.nanos - millis * 1000000
  if MIN_SECS * 1000000000 ≤ nanos ∧ nanos < (MAX_SECS + 1) * 1000000000 then some ⟨nanos⟩ else none

end DateTime

/-- Converts an uptime stamp, the exporter's uptime in milliseconds, to absolute nanoseconds:
`absolute_time = export_time - (sys_uptime - uptime)`. The difference of the uptimes is taken
modulo `2 ^ 32` and read as signed. -/
def uptimeToAbsoluteNs (exportTime : DateTime) (sysUptimeMs uptimeMs : UInt32) : Option Int := do
  let offsetMs := (sysUptimeMs - uptimeMs).toInt32.toInt
  (← exportTime.checkedSubMillis offsetMs).timestampNanosOpt

/-- `u8::try_from` and its like for a value that was read as a `u64`. -/
def tryFromU64 {α : Type} (bits : Nat) (ofNat : Nat → α) (v : UInt64) : Option α :=
  if v.toNat < 2 ^ bits then some (ofNat v.toNat) else none

end Rustflow
