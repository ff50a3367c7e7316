import HermesAtrust.L3.Conntrack
import HermesAtrust.Protocol.L3Auth

/-!
# IPv4 flows and their conntrack keys

Model of `packet.rs`.  Only IPv4 is parsed, and ports are read only for TCP and
UDP; a flow is identified by a text built from its five-tuple.
-/

namespace HermesAtrust.L3

open HermesAtrust.Framing HermesAtrust.Protocol

/-- An IPv4 address as its four octets. -/
structure Ipv4Addr where
  a : UInt8
  b : UInt8
  c : UInt8
  d : UInt8
  deriving DecidableEq, Repr

/-- Dotted decimal form. -/
def Ipv4Addr.text (addr : Ipv4Addr) : String :=
  toString addr.a.toNat ++ "." ++ toString addr.b.toNat ++ "." ++
    toString addr.c.toNat ++ "." ++ toString addr.d.toNat

/-- Five-tuple extracted from one IPv4 packet. -/
structure Ipv4Flow where
  protocol : L3IpProtocol
  srcAddr : Ipv4Addr
  srcPort : UInt16
  dstAddr : Ipv4Addr
  dstPort : UInt16
  deriving DecidableEq, Repr

/-- `FLOW_KEY_ATYPE_IPV4`. -/
def flowKeyAtypeIpv4 : Nat := 4

namespace Ipv4Flow

/-- The signed-auth five-tuple. -/
def toFiveTuple (flow : Ipv4Flow) : L3AuthFiveTuple :=
  .ipv4 flow.protocol flow.srcAddr.text flow.srcPort flow.dstAddr.text
    flow.dstPort

/-- The conntrack key. -/
def flowKey (flow : Ipv4Flow) : FlowKey :=
  .new flowKeyAtypeIpv4 flow.protocol.asU8.toNat flow.srcAddr.text
    flow.srcPort.toNat flow.dstAddr.text flow.dstPort.toNat

/-- The outbound key corresponding to an inbound packet. -/
def reverseFlowKey (flow : Ipv4Flow) : FlowKey :=
  .new flowKeyAtypeIpv4 flow.protocol.asU8.toNat flow.dstAddr.text
    flow.dstPort.toNat flow.srcAddr.text flow.srcPort.toNat

end Ipv4Flow

inductive PacketError where
  | fragmented (fragmentOffset : Nat) (moreFragments : Bool)
  | truncated (needed got : Nat)
  | notIpv4 (version : UInt8)
  | badHeaderLength (ihl : Nat)
  | unsupportedProtocol (protocol : UInt8)
  deriving DecidableEq, Repr

/-- `MIN_IPV4_HEADER`. -/
def minIpv4Header : Nat := 20

/-- Address stored at four consecutive octets. -/
def addrAt (packet : Bytes) (index : Nat) : Ipv4Addr :=
  ⟨byteAt packet index, byteAt packet (index + 1), byteAt packet (index + 2),
    byteAt packet (index + 3)⟩

/-- Port stored at two consecutive octets. -/
def portAt (packet : Bytes) (index : Nat) : UInt16 :=
  UInt16.ofNat (beU16 (byteAt packet index) (byteAt packet (index + 1)))

/-- The transport ports behind the header. -/
def transportPorts (packet : Bytes) (ihl : Nat) :
    L3IpProtocol → Except PacketError (UInt16 × UInt16)
  | .icmp => .ok (0, 0)
  | .tcp | .udp =>
      if packet.length - ihl < 4 then
        .error (.truncated (ihl + 4) packet.length)
      else
        .ok (portAt packet ihl, portAt packet (ihl + 2))

/-- Parses the IPv4 header and transport ports of one raw packet. -/
def parseIpv4Flow (packet : Bytes) : Except PacketError Ipv4Flow :=
  if packet.length < minIpv4Header then
    .error (.truncated minIpv4Header packet.length)
  else if byteAt packet 0 >>> 4 ≠ 4 then
    .error (.notIpv4 (byteAt packet 0 >>> 4))
  else
    let ihl := (byteAt packet 0 &&& 0x0f).toNat * 4
    let flagsOffset := beU16 (byteAt packet 6) (byteAt packet 7)
    let fragmentOffset := flagsOffset % 0x2000
    let moreFragments := decide (flagsOffset / 0x2000 % 2 = 1)
    if ihl < minIpv4Header then
      .error (.badHeaderLength ihl)
    else if packet.length < ihl then
      .error (.truncated ihl packet.length)
    else if fragmentOffset ≠ 0 ∨ moreFragments = true then
      .error (.fragmented fragmentOffset moreFragments)
    else
      match L3IpProtocol.fromU8 (byteAt packet 9) with
      | none => .error (.unsupportedProtocol (byteAt packet 9))
      | some protocol =>
          match transportPorts packet ihl protocol with
          | .error error => .error error
          | .ok (srcPort, dstPort) =>
              .ok
                { protocol := protocol
                  srcAddr := addrAt packet 12
                  srcPort := srcPort
                  dstAddr := addrAt packet 16
                  dstPort := dstPort }

end HermesAtrust.L3
