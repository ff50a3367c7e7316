import HermesAtrust.Auth.Routing

/-!
# The destination of a tunnel

`dial_tcp` finds its route for a host and a port and presents a destination to
the node.  Both read the host as an address if they can: `match_destination`
reads it without the white space around it, `tunnel_target` as it is.
-/

namespace HermesAtrust.Client

open HermesAtrust.Auth HermesAtrust.L3 HermesAtrust.Text

/-- Destination presented to the data-plane node during the handshake. -/
inductive TunnelTarget where
  | ipv4 (ip : Ipv4Addr) (port : UInt16) (appId : Str)
  | domain (host : Str) (port : UInt16) (appId : Str)
      (resolved : Option Ipv4Addr)
  deriving DecidableEq, Repr

/-- `tunnel_target`: domains are kept as domains. -/
def tunnelTarget (host : Str) (port : UInt16) (appId : Str) : TunnelTarget :=
  match parseIpv4 host with
  | some ip => .ipv4 ip port appId
  | none => .domain host port appId none

/-- `tunnel_target` presents what `match_destination` has matched: the address
that was looked up, or a domain whose normal form is a name that the resource
authorizes. -/
def PresentsMatched (resources : ClientResources) (host : Str)
    (port : UInt16) (appId : Str) : Prop :=
  (∀ resource,
    (ResourceIndex.build resources).matchDestination host port .tcp =
        some (.ip resource) →
      ∃ address, parseIpv4 (trim host) = some address ∧
        ipResourceMatches ⟨address, port, .tcp⟩ resource = true ∧
        tunnelTarget host port appId = .ipv4 address port appId) ∧
  ∀ resource,
    (ResourceIndex.build resources).matchDestination host port .tcp =
        some (.domain resource) →
      ∃ target name, tunnelTarget host port appId =
          .domain target port appId none ∧
        normalizeHost target = some name ∧
        authorizes name ⟨target, port, .tcp⟩ resource = true

/-- The host is an address literal with white space around it, and there is an
IP resource for the address. -/
def PaddedAddress (resources : ClientResources) (host : Str)
    (port : UInt16) : Prop :=
  trim host ≠ host ∧
    ∃ address, parseIpv4 (trim host) = some address ∧
      ((ResourceIndex.build resources).matchIp
        ⟨address, port, .tcp⟩).isSome = true

section

variable {resources : ClientResources} {host : Str} {port : UInt16}
  {appId : Str}

/-- A host that is a literal only behind its white space is presented as a
domain. -/
theorem tunnelTarget_of_padded (padded : trim host ≠ host) :
    tunnelTarget host port appId = .domain host port appId none := by
  have unread : parseIpv4 host = none := by
    cases parsed : parseIpv4 host with
    | none => rfl
    | some address => exact absurd (trim_of_parseIpv4 parsed) padded
  rw [tunnelTarget, unread]

/-- What `match_domain` returns authorizes the normal form of the host. -/
theorem authorizes_of_matchDomain {flow : DomainFlow}
    {resource : DomainResource}
    (found :
      (ResourceIndex.build resources).matchDomain flow = some resource) :
    ∃ name, normalizeHost flow.host = some name ∧
      authorizes name flow resource = true := by
  cases normalized : normalizeHost flow.host with
  | none =>
      simp only [ResourceIndex.matchDomain, normalized] at found
      cases found
  | some name =>
      obtain ⟨position, least⟩ :=
        (matchDomain_eq_some_iff normalized).mp found
      exact ⟨name, rfl, least.2.1⟩

/-- What `match_ip` returns covers the flow. -/
theorem ipResourceMatches_of_matchIp {flow : Auth.FlowKey} {resource : IpResource}
    (found : (ResourceIndex.build resources).matchIp flow = some resource) :
    ipResourceMatches flow resource = true := by
  obtain ⟨position, least⟩ :=
    ((match_ip_least resources flow).1 resource).mp found
  exact least.2.1

theorem presentsMatched_of_literal {address : Ipv4Addr}
    (literal : parseIpv4 (trim host) = some address)
    (unpadded : trim host = host) :
    PresentsMatched resources host port appId := by
  rw [unpadded] at literal
  constructor
  · intro resource found
    rw [ResourceIndex.matchDestination, unpadded, literal] at found
    obtain ⟨row, matched, same⟩ := Option.map_eq_some_iff.mp found
    cases same
    rw [unpadded]
    refine ⟨address, literal, ipResourceMatches_of_matchIp matched, ?_⟩
    rw [tunnelTarget, literal]
  · intro resource found
    rw [ResourceIndex.matchDestination, unpadded, literal] at found
    obtain ⟨row, matched, same⟩ := Option.map_eq_some_iff.mp found
    cases same

theorem presentsMatched_of_name (name : parseIpv4 (trim host) = none) :
    PresentsMatched resources host port appId := by
  have presented :
      tunnelTarget host port appId = .domain host port appId none := by
    cases parsed : parseIpv4 host with
    | none => rw [tunnelTarget, parsed]
    | some address =>
        rw [trim_of_parseIpv4 parsed, parsed] at name
        cases name
  constructor
  · intro resource found
    rw [ResourceIndex.matchDestination, name] at found
    obtain ⟨row, matched, same⟩ := Option.map_eq_some_iff.mp found
    cases same
  · intro resource found
    rw [ResourceIndex.matchDestination, name] at found
    obtain ⟨row, matched, same⟩ := Option.map_eq_some_iff.mp found
    cases same
    obtain ⟨normal, normalized, authorized⟩ :=
      authorizes_of_matchDomain matched
    exact ⟨host, normal, presented, normalized, authorized⟩

/-- The destination that is presented is the one that was matched, unless the
host is an address with white space around it for which there is an IP
resource: that one is presented as a domain. -/
theorem presentsMatched_iff (resources : ClientResources) (host : Str)
    (port : UInt16) (appId : Str) :
    PresentsMatched resources host port appId ↔
      ¬ PaddedAddress resources host port := by
  constructor
  · intro presents padded
    obtain ⟨around, address, literal, covered⟩ := padded
    obtain ⟨resource, matched⟩ := Option.isSome_iff_exists.mp covered
    have found :
        (ResourceIndex.build resources).matchDestination host port .tcp =
          some (.ip resource) := by
      rw [ResourceIndex.matchDestination, literal]
      simp only [matched, Option.map_some]
    obtain ⟨other, -, -, presented⟩ := presents.1 resource found
    rw [tunnelTarget_of_padded around] at presented
    cases presented
  · intro plain
    cases literal : parseIpv4 (trim host) with
    | none => exact presentsMatched_of_name literal
    | some address =>
        by_cases unpadded : trim host = host
        · exact presentsMatched_of_literal literal unpadded
        · have uncovered :
              (ResourceIndex.build resources).matchIp
                ⟨address, port, .tcp⟩ = none := by
            apply Option.not_isSome_iff_eq_none.mp
            intro covered
            exact plain ⟨unpadded, address, literal, covered⟩
          have unmatched :
              (ResourceIndex.build resources).matchDestination host port .tcp =
                none := by
            rw [ResourceIndex.matchDestination, literal]
            simp only [uncovered, Option.map_none]
          constructor
          · intro resource found
            rw [unmatched] at found
            cases found
          · intro resource found
            rw [unmatched] at found
            cases found

end

/-- A table with one row, for the node `10.9.0.7`. -/
def nodeTable : ClientResources where
  ipResources := [
    { ipMin := ⟨10, 9, 0, 7⟩
      ipMax := ⟨10, 9, 0, 7⟩
      portMin := 80
      portMax := 80
      protocol := .tcp
      appId := "app-1".toList
      nodeGroupId := "group-1".toList
      tcpPrefersL3 := false
      addrPretend := false }]
  domainResources := []

/-- A literal behind a blank is matched as an address and presented as a
domain. -/
theorem padded_address_presented_as_domain :
    (ResourceIndex.build nodeTable).matchDestination " 10.9.0.7".toList 80
        .tcp = nodeTable.ipResources.head?.map Destination.ip ∧
      tunnelTarget " 10.9.0.7".toList 80 "app-1".toList =
        .domain " 10.9.0.7".toList 80 "app-1".toList none ∧
      ¬ PresentsMatched nodeTable " 10.9.0.7".toList 80 "app-1".toList := by
  have matched :
      (ResourceIndex.build nodeTable).matchDestination " 10.9.0.7".toList 80
          .tcp = nodeTable.ipResources.head?.map Destination.ip := by
    decide +kernel
  have presented :
      tunnelTarget " 10.9.0.7".toList 80 "app-1".toList =
        .domain " 10.9.0.7".toList 80 "app-1".toList none := by
    decide
  refine ⟨matched, presented, ?_⟩
  intro presents
  obtain ⟨address, -, -, target⟩ := presents.1 _ matched
  rw [presented] at target
  cases target

end HermesAtrust.Client
