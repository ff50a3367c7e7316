import HermesAtrust.L3.Packet
import HermesAtrust.Search.LeastIndex
import HermesAtrust.Text.Str

/-!
# Published resources and what they match

The rows of the resource table, the flows that are matched against them, and
the ranking of the rows by how specific they are.  Of the table only what
routing reads is modelled; the other fields of a row are data that it returns.
-/

namespace HermesAtrust.Auth

open HermesAtrust.L3 HermesAtrust.Text

inductive ResourceProtocol where
  | tcp
  | udp
  | icmp
  | all
  deriving DecidableEq, Repr

/-- IP-layer protocol of a flow. -/
inductive FlowProtocol where
  | tcp
  | udp
  | icmp
  deriving DecidableEq, Repr

/-- ICMP carries no ports. -/
def FlowProtocol.hasPorts : FlowProtocol → Bool
  | .icmp => false
  | _ => true

structure IpResource where
  ipMin : Ipv4Addr
  ipMax : Ipv4Addr
  portMin : UInt16
  portMax : UInt16
  protocol : ResourceProtocol
  appId : Str
  nodeGroupId : Str
  tcpPrefersL3 : Bool
  addrPretend : Bool
  deriving DecidableEq, Repr

structure DomainResource where
  host : Str
  portMin : UInt16
  portMax : UInt16
  protocol : ResourceProtocol
  appId : Str
  nodeGroupId : Str
  tcpPrefersL3 : Bool
  addrPretend : Bool
  resolvedIps : List Ipv4Addr
  deriving DecidableEq, Repr

/-- The tables of a `clientResource` response that routing is built from. -/
structure ClientResources where
  ipResources : List IpResource
  domainResources : List DomainResource

/-- Destination of one flow to authorize. -/
structure FlowKey where
  destination : Ipv4Addr
  port : UInt16
  protocol : FlowProtocol
  deriving DecidableEq, Repr

/-- Destination of one flow whose target is still a name. -/
structure DomainFlow where
  host : Str
  port : UInt16
  protocol : FlowProtocol
  deriving DecidableEq, Repr

/-- An address as a 32-bit number. -/
def addressNumber (address : Ipv4Addr) : Nat :=
  address.a.toNat * 2 ^ 24 + address.b.toNat * 2 ^ 16 +
    address.c.toNat * 2 ^ 8 + address.d.toNat

/-! ## Matching -/

/-- `protocol_matches`. -/
def protocolMatches : ResourceProtocol → FlowProtocol → Bool
  | .all, _ => true
  | .tcp, .tcp => true
  | .udp, .udp => true
  | .icmp, .icmp => true
  | _, _ => false

/-- `port_matches`. -/
def portMatches (min max port : UInt16) (protocol : FlowProtocol) : Bool :=
  if protocol.hasPorts then
    decide (min ≤ port) && decide (port ≤ max)
  else
    true

/-- `ip_resource_matches`. -/
def ipResourceMatches (flow : FlowKey) (resource : IpResource) : Bool :=
  let destination := addressNumber flow.destination
  decide (addressNumber resource.ipMin ≤ destination) &&
    decide (destination ≤ addressNumber resource.ipMax) &&
    protocolMatches resource.protocol flow.protocol &&
    portMatches resource.portMin resource.portMax flow.port flow.protocol

/-! ## Ranking -/

/-- `port_span`. -/
def portSpan (min max : UInt16) : Nat :=
  max.toNat - min.toNat

/-- `protocol_rank`. -/
def protocolRank : ResourceProtocol → Nat
  | .tcp => 0
  | .udp => 0
  | .icmp => 0
  | .all => 1

/-- `ip_specificity`. -/
def ipSpecificity (resource : IpResource) : ℕ ×ₗ ℕ ×ₗ ℕ :=
  toLex
    (addressNumber resource.ipMax - addressNumber resource.ipMin,
      toLex
        (portSpan resource.portMin resource.portMax,
          protocolRank resource.protocol))

/-! ## Host patterns -/

/-- Host pattern of a domain resource: an exact name or a suffix. -/
structure DomainPattern where
  suffix : Str
  wildcard : Bool
  deriving DecidableEq, Repr

/-- `DomainPattern::parse`. -/
def DomainPattern.parse (host : Str) : Option DomainPattern :=
  let host := toAsciiLowercase (trim host)
  if host = ['*'] then
    some ⟨[], true⟩
  else
    let (wildcard, rest) :=
      match stripPrefix? ['*', '.'] host with
      | some rest => (true, rest)
      | none => (false, host)
    let suffix := trimEndMatches '.' rest
    if suffix = [] then none else some ⟨suffix, wildcard⟩

/-- `DomainPattern::matches`. -/
def DomainPattern.matches (pattern : DomainPattern) (host : Str) : Bool :=
  if pattern.wildcard = false then
    decide (host = pattern.suffix)
  else if pattern.suffix = [] then
    true
  else
    decide (byteLen pattern.suffix + 1 < byteLen host) &&
      (utf8 pattern.suffix).isSuffixOf (utf8 host) &&
      decide ((utf8 host)[byteLen host - byteLen pattern.suffix - 1]? =
        some 0x2e)

/-- `DomainPattern::label_count`. -/
def DomainPattern.labelCount (pattern : DomainPattern) : Nat :=
  if pattern.suffix = [] then 0 else (pattern.suffix.splitOn '.').length

/-- `normalize_host`. -/
def normalizeHost (host : Str) : Option Str :=
  let host := toAsciiLowercase (trimEndMatches '.' (trim host))
  if host = [] then none else some host

/-- A domain resource whose host is a pattern. -/
structure IndexedDomain where
  pattern : DomainPattern
  resource : DomainResource
  deriving DecidableEq, Repr

/-- A count as a 32-bit signed number, and its negation, both wrapping. -/
def negatedCount (count : Nat) : Int :=
  (-(BitVec.ofNat 32 count)).toInt

/-- `domain_specificity`. -/
def domainSpecificity (entry : IndexedDomain) : ℕ ×ₗ ℤ ×ₗ ℕ ×ₗ ℕ :=
  toLex
    (entry.pattern.wildcard.toNat,
      toLex
        (negatedCount entry.pattern.labelCount,
          toLex
            (portSpan entry.resource.portMin entry.resource.portMax,
              protocolRank entry.resource.protocol)))

/-- `domain_entry_matches`. -/
def domainEntryMatches (host : Str) (flow : DomainFlow)
    (entry : IndexedDomain) : Bool :=
  entry.pattern.matches host &&
    protocolMatches entry.resource.protocol flow.protocol &&
    portMatches entry.resource.portMin entry.resource.portMax flow.port
      flow.protocol

end HermesAtrust.Auth
