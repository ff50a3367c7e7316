import HermesAtrust.Auth.Routing
import HermesAtrust.Bits.Prefix
import HermesAtrust.Client.AdvertisedNodes

/-!
# From a `clientResource` response to the tables

`ClientResources::from_data`: the addresses of the published applications
become rows of the table of addresses or of the table of names, and the node
groups, the major group and the name servers are taken over.  A host is an
address, a network or a range of addresses, and a name otherwise.

Nothing is returned where the arithmetic of the code would overflow.
-/

namespace HermesAtrust.Auth

open HermesAtrust.Bits HermesAtrust.L3 HermesAtrust.Text
open HermesAtrust.Auth.ResourceCache (NodeGroup ResourceTable)
open HermesAtrust.Client.Nodes (NodeAddressItem)

/-! ## The response -/

structure AddressItem where
  protocol : Str
  port : Str
  host : Str
  ip : List Str

/-- An application; of `addr_pretend` counts what `as_bool` makes of it. -/
structure AppItem where
  tcpPrefersL3 : Bool
  addrPretend : Option Bool
  id : Str
  nodeGroupId : Str
  addressList : List AddressItem

structure AppInfoGroup where
  apps : List AppItem

structure NodeGroupItem where
  id : Str
  addressInfo : List NodeAddressItem

structure DnsOptionData where
  firstDns : Str
  secondDns : Str

/-- The sections of a response that are read. -/
structure ClientResourceData where
  appInfo : List AppInfoGroup
  majorNodeGroupId : Str
  nodeGroupList : List NodeGroupItem
  dnsOption : DnsOptionData
  dnsOptionV2 : DnsOptionData

structure DnsServers where
  primary : Option Str
  secondary : Option Str

/-- All that is kept of a response. -/
structure ParsedResources extends ResourceTable where
  majorNodeGroupId : Option Str
  dns : DnsServers

/-! ## Fields of an address -/

/-- `ResourceProtocol::parse`. -/
def ResourceProtocol.parse (value : Str) : Option ResourceProtocol :=
  let value := toAsciiLowercase value
  if value = "tcp".toList then some .tcp
  else if value = "udp".toList then some .udp
  else if value = "icmp".toList then some .icmp
  else if value = "all".toList then some .all
  else none

/-- `parse_port_range`. -/
def parsePortRange (value : Str) : Option (UInt16 × UInt16) :=
  let value := trim value
  if value = [] then
    none
  else
    match splitOnce '-' value with
    | some (left, right) =>
        match parseU16 (trim left), parseU16 (trim right) with
        | some min, some max => some (min, max)
        | _, _ => none
    | none => (parseU16 value).map fun port => (port, port)

/-! ## Hosts -/

inductive HostKind where
  | ip (address : Ipv4Addr)
  | cidr (min max : Ipv4Addr)
  | range (min max : Ipv4Addr)
  | domain
  deriving DecidableEq, Repr

/-- `u32::from`. -/
def addressWord (address : Ipv4Addr) : BitVec 32 :=
  BitVec.ofNat 32 (addressNumber address)

/-- `Ipv4Addr::from`. -/
def wordAddress (word : BitVec 32) : Ipv4Addr where
  a := UInt8.ofNat (word.toNat / 2 ^ 24)
  b := UInt8.ofNat (word.toNat / 2 ^ 16)
  c := UInt8.ofNat (word.toNat / 2 ^ 8)
  d := UInt8.ofNat word.toNat

/-- `u32::MAX << (32 - bits)`; neither the difference nor the shift may
overflow. -/
def prefixMask (bits : UInt8) : Option (BitVec 32) :=
  if bits = 0 then
    some 0
  else if 32 < bits then
    none
  else
    let shift := 32 - bits
    if shift < 32 then some (highMask 32 shift.toNat) else none

/-- A network with the number of its leading bits. -/
def readNetwork (host : Str) : Option (Ipv4Addr × UInt8) :=
  match splitOnce '/' host with
  | none => none
  | some (network, leading) =>
      match parseIpv4 (trim network), parseU8 leading with
      | some base, some bits => if bits ≤ 32 then some (base, bits) else none
      | _, _ => none

/-- The ends of a range that is not empty. -/
def readRange (host : Str) : Option (Ipv4Addr × Ipv4Addr) :=
  match splitOnce '-' host with
  | none => none
  | some (left, right) =>
      match parseIpv4 (trim left), parseIpv4 (trim right) with
      | some min, some max =>
          if addressNumber min ≤ addressNumber max then some (min, max)
          else none
      | _, _ => none

/-- `classify_host`. -/
def classifyHost (host : Str) : Option HostKind :=
  match parseIpv4 host with
  | some address => some (.ip address)
  | none =>
      match readNetwork host with
      | some (base, bits) =>
          (prefixMask bits).map fun mask =>
            let network := addressWord base &&& mask
            .cidr (wordAddress network) (wordAddress (network ||| ~~~mask))
      | none =>
          match readRange host with
          | some (min, max) => some (.range min max)
          | none => some .domain

/-! ## The tables -/

/-- A row of the table of addresses. -/
def ipRow (app : AppItem) (protocol : ResourceProtocol)
    (ports : UInt16 × UInt16) (min max : Ipv4Addr) : IpResource where
  ipMin := min
  ipMax := max
  portMin := ports.1
  portMax := ports.2
  protocol := protocol
  appId := app.id
  nodeGroupId := app.nodeGroupId
  tcpPrefersL3 := app.tcpPrefersL3
  addrPretend := app.addrPretend.getD true

/-- A row of the table of names. -/
def domainRow (app : AppItem) (protocol : ResourceProtocol)
    (ports : UInt16 × UInt16) (host : Str) (ip : List Str) :
    DomainResource where
  host := host
  portMin := ports.1
  portMax := ports.2
  protocol := protocol
  appId := app.id
  nodeGroupId := app.nodeGroupId
  tcpPrefersL3 := app.tcpPrefersL3
  addrPretend := app.addrPretend.getD true
  resolvedIps := ip.filterMap fun ip => parseIpv4 (trim ip)

def ClientResources.pushIp (tables : ClientResources)
    (resource : IpResource) : ClientResources :=
  { tables with ipResources := tables.ipResources ++ [resource] }

def ClientResources.pushDomain (tables : ClientResources)
    (resource : DomainResource) : ClientResources :=
  { tables with domainResources := tables.domainResources ++ [resource] }

/-- What an address of an application adds to the tables. -/
def addAddress (app : AppItem) (tables : ClientResources)
    (address : AddressItem) : Option ClientResources :=
  match ResourceProtocol.parse address.protocol,
      parsePortRange address.port with
  | some protocol, some ports =>
      let host := trim address.host
      if host = [] then
        some tables
      else
        match classifyHost host with
        | none => none
        | some (.ip ip) =>
            some (tables.pushIp (ipRow app protocol ports ip ip))
        | some (.cidr min max) =>
            some (tables.pushIp (ipRow app protocol ports min max))
        | some (.range min max) =>
            some (tables.pushIp (ipRow app protocol ports min max))
        | some .domain =>
            some
              (tables.pushDomain
                (domainRow app protocol ports host address.ip))
  | _, _ => some tables

/-- What an application adds to the tables. -/
def addApp (tables : ClientResources) (app : AppItem) :
    Option ClientResources :=
  if app.id = [] ∨ app.nodeGroupId = [] then
    some tables
  else
    app.addressList.foldlM (addAddress app) tables

/-- `first_non_empty`. -/
def firstNonEmpty (first second : Str) : Option Str :=
  ([first, second].map trim).find? fun value => decide (value ≠ [])

/-- A node group with the addresses of its items. -/
def NodeGroupItem.nodeGroup (group : NodeGroupItem) : NodeGroup :=
  ⟨group.id,
    (group.addressInfo.filter fun item => decide (item.address ≠ [])).map
      NodeAddressItem.nodeAddress⟩

/-- `from_data`. -/
def fromData (data : ClientResourceData) : Option ParsedResources :=
  let tables :=
    data.appInfo.foldlM
      (fun tables group => group.apps.foldlM addApp tables)
      (⟨[], []⟩ : ClientResources)
  tables.map fun tables =>
    { tables with
      nodeGroups :=
        (data.nodeGroupList.filter fun group => decide (group.id ≠ [])).map
          NodeGroupItem.nodeGroup
      majorNodeGroupId :=
        if data.majorNodeGroupId = [] then none
        else some data.majorNodeGroupId
      dns :=
        ⟨firstNonEmpty data.dnsOption.firstDns data.dnsOptionV2.firstDns,
          firstNonEmpty data.dnsOption.secondDns
            data.dnsOptionV2.secondDns⟩ }

end HermesAtrust.Auth
