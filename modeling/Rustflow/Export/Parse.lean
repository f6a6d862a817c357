import Rustflow.Common.Packet
import Rustflow.Export.Flow
import Rustflow.Export.Template

/-!
# Frames as the exporter reads them

`flow/parse.rs` of the exporter. The slicing library is the one the collector uses.
-/

namespace Rustflow.Export

structure PacketInfo where
  flowKey : FlowKey
  packetSize : UInt64
  tcpFlags : UInt16
  deriving DecidableEq

/-- The addresses, the protocol and the length of the IP packet. -/
def networkInfo : LaxNetSlice → Option (IpAddr × IpAddr × UInt8 × UInt64)
  | .ipv4 header =>
    some (.v4 header.sourceAddr, .v4 header.destinationAddr, header.protocol,
      header.totalLen.toUInt64)
  -- The upper-layer protocol, past any extension headers.
  | .ipv6 header =>
    some (.v6 header.sourceAddr, .v6 header.destinationAddr, header.payload.ipNumber,
      header.payloadLength.toUInt64 + 40)
  | .arp => none

def headerFlags (header : TcpSlice) : UInt16 :=
  header.ns.toUInt16 <<< 8 ||| header.fin.toUInt16 ||| header.syn.toUInt16 <<< 1 |||
    header.rst.toUInt16 <<< 2 |||
    header.psh.toUInt16 <<< 3 ||| header.ack.toUInt16 <<< 4 ||| header.urg.toUInt16 <<< 5 |||
    header.ece.toUInt16 <<< 6 ||| header.cwr.toUInt16 <<< 7

/-- The ports and the TCP flags. -/
def transportInfo : Option TransportSlice → UInt16 × UInt16 × UInt16
  | some (.tcp header) => (header.sourcePort, header.destinationPort, headerFlags header)
  | some (.udp header) => (header.sourcePort, header.destinationPort, 0)
  | _ => (0, 0, 0)

def packetInfo (sliced : LaxSlicedPacket) : Option PacketInfo := do
  let (sourceIp, destinationIp, protocol, packetSize) ← networkInfo (← sliced.net)
  let (sourcePort, destinationPort, tcpFlags) := transportInfo sliced.transport
  return {
    flowKey := { sourceIp, destinationIp, protocol, sourcePort, destinationPort }
    packetSize
    tcpFlags }

def slice (etherparse : Etherparse) (link : Link) (data : List UInt8) : Option LaxSlicedPacket :=
  match link with
  | .ethernet => etherparse.fromEthernet data
  | .ip => etherparse.fromIp data

/-- `none` where the frame cannot be sliced or has no IP layer. -/
def parse (etherparse : Etherparse) (link : Link) (data : List UInt8) : Option PacketInfo :=
  (slice etherparse link data).bind packetInfo

end Rustflow.Export
