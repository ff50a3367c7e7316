import HermesAtrust.Auth.Resource
import HermesAtrust.L3.Ipv4Text
import HermesAtrust.Search.IntervalTree
import HermesAtrust.Search.Trie

/-!
# The routing index

`ResourceIndex::build` sorts the two tables by specificity and builds an
interval tree over the IP rows and a trie over the host patterns.  A query
collects candidates from a tree and keeps the least accepted position.  What
it returns is the first accepted row of the sorted table, which is also the
first row that a scan of the table returns.
-/

namespace HermesAtrust.Auth

open HermesAtrust.Framing HermesAtrust.L3 HermesAtrust.Search HermesAtrust.Text

abbrev IpNode := IntervalTree ℕ

abbrev DomainNode := Trie UInt8 ℕ

/-- The first address of the row at a position. -/
def startOf (resources : List IpResource) (index : Nat) : Nat :=
  (resources[index]?).elim 0 fun resource => addressNumber resource.ipMin

/-- The last address of the row at a position. -/
def endOf (resources : List IpResource) (index : Nat) : Nat :=
  (resources[index]?).elim 0 fun resource => addressNumber resource.ipMax

/-- `IpNode::build`. -/
def IpNode.build (resources : List IpResource) : IpNode :=
  IntervalTree.ofSorted (startOf resources) (endOf resources)
    (sortByKey (startOf resources) (List.range resources.length))

/-- `DomainNode::insert` of the patterns, each at its position. -/
def DomainNode.build (entries : List IndexedDomain) : DomainNode :=
  Trie.insertAll .empty 0
    (entries.map fun entry => (utf8 entry.pattern.suffix).reverse)

/-- `DomainNode::find`. -/
def DomainNode.find (node : DomainNode) (host : Str) (accept : Nat → Bool) :
    Option Nat :=
  Trie.findAlong accept node (utf8 host).reverse none

structure ResourceIndex where
  ipTree : IpNode
  domainTree : DomainNode
  ip : List IpResource
  domain : List IndexedDomain

/-- The domain resources whose host is a pattern. -/
def indexDomains (resources : List DomainResource) : List IndexedDomain :=
  resources.filterMap fun resource =>
    (DomainPattern.parse resource.host).map fun pattern => ⟨pattern, resource⟩

/-- Which resource table authorized a destination. -/
inductive Destination where
  | ip (resource : IpResource)
  | domain (resource : DomainResource)
  deriving DecidableEq, Repr

/-- Owned routing decision. -/
structure MatchedResource where
  appId : Str
  nodeGroupId : Str
  tcpPrefersL3 : Bool
  addrPretend : Bool
  deriving DecidableEq, Repr

/-- `to_matched_resource`. -/
def Destination.toMatchedResource : Destination → MatchedResource
  | .ip resource =>
      ⟨resource.appId, resource.nodeGroupId, resource.tcpPrefersL3,
        resource.addrPretend⟩
  | .domain resource =>
      ⟨resource.appId, resource.nodeGroupId, resource.tcpPrefersL3,
        resource.addrPretend⟩

namespace ResourceIndex

/-- `ResourceIndex::build`. -/
def build (resources : ClientResources) : ResourceIndex :=
  let ip := sortByKey ipSpecificity resources.ipResources
  let domain :=
    sortByKey domainSpecificity (indexDomains resources.domainResources)
  { ipTree := IpNode.build ip
    domainTree := DomainNode.build domain
    ip := ip
    domain := domain }

/-- `match_ip`. -/
def matchIp (index : ResourceIndex) (flow : FlowKey) : Option IpResource :=
  (IntervalTree.find (addressNumber flow.destination)
      (acceptAt (ipResourceMatches flow) index.ip) index.ipTree none).bind
    (index.ip[·]?)

/-- `match_ip_all`. -/
def matchIpAll (index : ResourceIndex) (flow : FlowKey) : List IpResource :=
  index.ip.filter (ipResourceMatches flow)

/-- `match_domain`. -/
def matchDomain (index : ResourceIndex) (flow : DomainFlow) :
    Option DomainResource :=
  match normalizeHost flow.host with
  | none => none
  | some host =>
      ((index.domainTree.find host
          (acceptAt (domainEntryMatches host flow) index.domain)).bind
        (index.domain[·]?)).map IndexedDomain.resource

/-- `match_domain_all`. -/
def matchDomainAll (index : ResourceIndex) (flow : DomainFlow) :
    List DomainResource :=
  match normalizeHost flow.host with
  | none => []
  | some host =>
      (index.domain.filter (domainEntryMatches host flow)).map
        IndexedDomain.resource

/-- `domain_resources_for_host`. -/
def domainResourcesForHost (index : ResourceIndex) (host : Str) :
    List DomainResource :=
  match normalizeHost host with
  | none => []
  | some host =>
      (index.domain.filter fun entry => entry.pattern.matches host).map
        IndexedDomain.resource

/-- `match_destination`: an IPv4 literal goes to the IP table, anything else
to the domain table. -/
def matchDestination (index : ResourceIndex) (host : Str) (port : UInt16)
    (protocol : FlowProtocol) : Option Destination :=
  match parseIpv4 (trim host) with
  | some destination =>
      (index.matchIp ⟨destination, port, protocol⟩).map Destination.ip
  | none => (index.matchDomain ⟨host, port, protocol⟩).map Destination.domain

end ResourceIndex

/-! ## IP resources -/

/-- The tree is queried for exactly the rows that a scan would accept. -/
theorem mem_ipCandidates {flow : FlowKey} {table : List IpResource}
    {index : Nat} :
    index ∈ (sortByKey (startOf table) (List.range table.length)).filter
        (IntervalTree.contains (startOf table) (endOf table)
          (addressNumber flow.destination)
          (acceptAt (ipResourceMatches flow) table)) ↔
      acceptAt (ipResourceMatches flow) table index = true := by
  rw [List.mem_filter, mem_sortByKey, List.mem_range]
  constructor
  · intro found
    simp only [IntervalTree.contains, Bool.and_eq_true] at found
    exact found.2.2
  · intro accepted
    obtain ⟨row, stored, isMatch⟩ := acceptAt_eq_true.mp accepted
    obtain ⟨bound, -⟩ := List.getElem?_eq_some_iff.mp stored
    refine ⟨bound, ?_⟩
    simp only [ipResourceMatches, Bool.and_eq_true, decide_eq_true_eq]
      at isMatch
    simp only [IntervalTree.contains, startOf, endOf, stored, Option.elim_some,
      Bool.and_eq_true, decide_eq_true_eq]
    exact ⟨isMatch.1.1, accepted⟩

/-- The query of the interval tree is a scan of the sorted table. -/
theorem matchIp_build (resources : ClientResources) (flow : FlowKey) :
    (ResourceIndex.build resources).matchIp flow =
      (sortByKey ipSpecificity resources.ipResources).find?
        (ipResourceMatches flow) := by
  simp only [ResourceIndex.matchIp, ResourceIndex.build, IpNode.build]
  rw [IntervalTree.find_ofSorted _ _ _ _ (sortByKey_pairwise _ _),
    foldl_keepLeast_none]
  exact getElem?_min?_eq_find? fun index => mem_ipCandidates

/-- `match_ip` returns the least matching resource by address span, port span,
exact protocol before `all` and original position, nothing exactly if no
resource matches, and the first row of `match_ip_all`. -/
theorem match_ip_least (resources : ClientResources) (flow : FlowKey) :
    (∀ resource,
      (ResourceIndex.build resources).matchIp flow = some resource ↔
        ∃ position,
          IsLeastAt ipSpecificity (ipResourceMatches flow)
            resources.ipResources position resource) ∧
      ((ResourceIndex.build resources).matchIp flow = none ↔
        ∀ resource ∈ resources.ipResources,
          ipResourceMatches flow resource = false) ∧
      (ResourceIndex.build resources).matchIp flow =
        ((ResourceIndex.build resources).matchIpAll flow).head? := by
  refine ⟨?_, ?_, ?_⟩
  · intro resource
    rw [matchIp_build]
    exact find?_sortByKey_eq_some_iff
  · rw [matchIp_build]
    exact find?_sortByKey_eq_none_iff
  · rw [matchIp_build, ResourceIndex.matchIpAll, List.head?_filter]
    rfl

/-! ## Domain resources -/

/-- A pattern can only match a host that ends with its suffix. -/
theorem suffix_of_matches {pattern : DomainPattern} {host : Str}
    (isMatch : pattern.matches host = true) :
    utf8 pattern.suffix <:+ utf8 host := by
  unfold DomainPattern.matches at isMatch
  by_cases exact_name : pattern.wildcard = false
  · rw [if_pos exact_name, decide_eq_true_eq] at isMatch
    exact ⟨[], by rw [List.nil_append, isMatch]⟩
  · rw [if_neg exact_name] at isMatch
    by_cases bare : pattern.suffix = []
    · rw [bare, utf8_nil]
      exact List.nil_suffix
    · rw [if_neg bare] at isMatch
      simp only [Bool.and_eq_true, List.isSuffixOf_iff_suffix] at isMatch
      exact isMatch.1.2

/-- The trie is walked past exactly the rows that a scan would accept. -/
theorem mem_domainCandidates {flow : DomainFlow} {host : Str}
    {table : List IndexedDomain} {index : Nat} :
    index ∈ ((DomainNode.build table).entriesAlong (utf8 host).reverse).filter
        (acceptAt (domainEntryMatches host flow) table) ↔
      acceptAt (domainEntryMatches host flow) table index = true := by
  rw [List.mem_filter]
  constructor
  · intro found
    exact found.2
  · intro accepted
    refine ⟨?_, accepted⟩
    obtain ⟨entry, stored, isMatch⟩ := acceptAt_eq_true.mp accepted
    simp only [domainEntryMatches, Bool.and_eq_true] at isMatch
    rw [Trie.mem_entriesAlong]
    refine ⟨(utf8 entry.pattern.suffix).reverse, ?_, ?_⟩
    · rw [List.reverse_prefix]
      exact suffix_of_matches isMatch.1.1
    · rw [DomainNode.build, Trie.mem_entriesAt_insertAll]
      right
      refine ⟨index, (Nat.zero_add index).symm, ?_⟩
      rw [List.getElem?_map, stored]
      rfl

/-- The walk of the trie is a scan of the sorted table. -/
theorem find_domainTree (table : List IndexedDomain) (host : Str)
    (flow : DomainFlow) :
    ((DomainNode.build table).find host
        (acceptAt (domainEntryMatches host flow) table)).bind (table[·]?) =
      table.find? (domainEntryMatches host flow) := by
  rw [DomainNode.find, Trie.findAlong_eq, foldl_keepLeast_none]
  exact getElem?_min?_eq_find? fun index => mem_domainCandidates

/-- A domain resource with its pattern, if its host is one. -/
def readPattern (resource : DomainResource) : Option IndexedDomain :=
  (DomainPattern.parse resource.host).map fun pattern => ⟨pattern, resource⟩

theorem resource_of_readPattern {resource : DomainResource}
    {entry : IndexedDomain} (reads : readPattern resource = some entry) :
    entry.resource = resource := by
  obtain ⟨pattern, -, rfl⟩ := Option.map_eq_some_iff.mp reads
  rfl

/-- Whether a resource is for a flow to a normalised host. -/
def authorizes (host : Str) (flow : DomainFlow) (resource : DomainResource) :
    Bool :=
  (readPattern resource).any (domainEntryMatches host flow)

/-- A ranking of patterns, read as a ranking of resources. -/
def rankOf {κ : Type} [Inhabited κ] (key : IndexedDomain → κ)
    (resource : DomainResource) : κ :=
  (readPattern resource).elim default key

theorem authorizes_eq_true {host : Str} {flow : DomainFlow}
    {resource : DomainResource} :
    authorizes host flow resource = true ↔
      ∃ entry, readPattern resource = some entry ∧
        domainEntryMatches host flow entry = true := by
  unfold authorizes
  cases readPattern resource <;> simp

instance instInhabitedRank : Inhabited (ℕ ×ₗ ℤ ×ₗ ℕ ×ₗ ℕ) :=
  ⟨toLex (0, toLex (0, toLex (0, 0)))⟩

/-- What `match_domain` returns for a host, by the ranking of the code. -/
theorem find?_domain_isLeastAt {resources : List DomainResource} {host : Str}
    {flow : DomainFlow} {entry : IndexedDomain}
    (found :
      (sortByKey domainSpecificity (indexDomains resources)).find?
        (domainEntryMatches host flow) = some entry) :
    ∃ position,
      IsLeastAt (rankOf domainSpecificity) (authorizes host flow) resources
        position entry.resource := by
  obtain ⟨index, least⟩ := find?_sortByKey_isLeastAt found
  obtain ⟨position, source, atPosition, reads, accepted, others⟩ :=
    least.of_filterMap readPattern
  rw [resource_of_readPattern reads]
  refine ⟨position, atPosition, authorizes_eq_true.mpr ⟨entry, reads, accepted⟩, ?_⟩
  intro other otherSource atOther otherAccepted
  obtain ⟨otherEntry, otherReads, otherMatches⟩ :=
    authorizes_eq_true.mp otherAccepted
  have compared :=
    others other otherSource otherEntry atOther otherReads otherMatches
  simpa only [rankOf, reads, otherReads, Option.elim_some] using compared

theorem find?_domain_eq_none_iff {resources : List DomainResource} {host : Str}
    {flow : DomainFlow} :
    (sortByKey domainSpecificity (indexDomains resources)).find?
        (domainEntryMatches host flow) = none ↔
      ∀ resource ∈ resources, authorizes host flow resource = false := by
  rw [find?_sortByKey_eq_none_iff]
  constructor
  · intro rejected resource member
    by_contra notRejected
    obtain ⟨entry, reads, isMatch⟩ :=
      authorizes_eq_true.mp (by simpa using notRejected)
    have indexed : entry ∈ indexDomains resources :=
      List.mem_filterMap.mpr ⟨resource, member, reads⟩
    rw [rejected entry indexed] at isMatch
    cases isMatch
  · intro rejected entry indexed
    obtain ⟨resource, member, reads⟩ := List.mem_filterMap.mp indexed
    by_contra notRejected
    have accepted :=
      authorizes_eq_true.mpr ⟨entry, reads, by simpa using notRejected⟩
    rw [rejected resource member] at accepted
    cases accepted

/-- The ranking by exact name before wildcard, more labels first, port span
and exact protocol before `all`. -/
def domainRank (entry : IndexedDomain) : ℕ ×ₗ ℤ ×ₗ ℕ ×ₗ ℕ :=
  toLex
    (entry.pattern.wildcard.toNat,
      toLex
        (-(entry.pattern.labelCount : ℤ),
          toLex
            (portSpan entry.resource.portMin entry.resource.portMax,
              protocolRank entry.resource.protocol)))

/-- Counts that fit are negated as numbers. -/
theorem negatedCount_of_le {count : Nat} (few : count ≤ 2 ^ 31) :
    negatedCount count = -(count : ℤ) := by
  rw [negatedCount, BitVec.toInt_eq_toNat_cond, BitVec.toNat_neg,
    BitVec.toNat_ofNat, Nat.mod_eq_of_lt (by omega : count < 2 ^ 32)]
  by_cases none : count = 0
  · simp [none]
  · rw [Nat.mod_eq_of_lt (by omega), if_neg (by omega)]
    omega

/-- Of two matching patterns that are exact names both are the host. -/
theorem labelCount_of_exact {host : Str} {flow : DomainFlow}
    {entry : IndexedDomain} (isMatch : domainEntryMatches host flow entry = true)
    (exact_name : entry.pattern.wildcard = false) :
    entry.pattern.suffix = host := by
  simp only [domainEntryMatches, Bool.and_eq_true] at isMatch
  have named := isMatch.1.1
  rw [DomainPattern.matches, if_pos exact_name, decide_eq_true_eq] at named
  exact named.symm

/-- Matching patterns whose labels fit are compared as the ranking says. -/
theorem domainSpecificity_compare {host : Str} {flow : DomainFlow}
    {first second : IndexedDomain}
    (firstMatches : domainEntryMatches host flow first = true)
    (secondMatches : domainEntryMatches host flow second = true)
    (firstFew :
      first.pattern.wildcard = true → first.pattern.labelCount ≤ 2 ^ 31)
    (secondFew :
      second.pattern.wildcard = true → second.pattern.labelCount ≤ 2 ^ 31) :
    (domainSpecificity first < domainSpecificity second ↔
        domainRank first < domainRank second) ∧
      (domainSpecificity first = domainSpecificity second ↔
        domainRank first = domainRank second) := by
  cases firstKind : first.pattern.wildcard with
  | true =>
      cases secondKind : second.pattern.wildcard with
      | true =>
          simp only [domainSpecificity, domainRank,
            negatedCount_of_le (firstFew firstKind),
            negatedCount_of_le (secondFew secondKind), and_self]
      | false =>
          simp [domainSpecificity, domainRank, firstKind, secondKind,
            Prod.Lex.toLex_lt_toLex]
  | false =>
      cases secondKind : second.pattern.wildcard with
      | true =>
          simp [domainSpecificity, domainRank, firstKind, secondKind,
            Prod.Lex.toLex_lt_toLex]
      | false =>
          have sameLabels :
              first.pattern.labelCount = second.pattern.labelCount := by
            rw [DomainPattern.labelCount, DomainPattern.labelCount,
              labelCount_of_exact firstMatches firstKind,
              labelCount_of_exact secondMatches secondKind]
          simp [domainSpecificity, domainRank, firstKind, secondKind,
            sameLabels, Prod.Lex.toLex_lt_toLex]

/-- The least resource by the ranking of the code is the least by the ranking
that counts labels as numbers. -/
theorem isLeastAt_domainRank {resources : List DomainResource} {host : Str}
    {flow : DomainFlow} {position : Nat} {resource : DomainResource}
    (few :
      ∀ resource ∈ resources, ∀ entry, readPattern resource = some entry →
        domainEntryMatches host flow entry = true →
        entry.pattern.wildcard = true → entry.pattern.labelCount ≤ 2 ^ 31) :
    IsLeastAt (rankOf domainSpecificity) (authorizes host flow) resources
        position resource ↔
      IsLeastAt (rankOf domainRank) (authorizes host flow) resources position
        resource := by
  unfold IsLeastAt
  refine and_congr_right fun stored => and_congr_right fun accepted => ?_
  refine forall₄_congr fun other otherResource atOther otherAccepted => ?_
  obtain ⟨entry, reads, isMatch⟩ := authorizes_eq_true.mp accepted
  obtain ⟨otherEntry, otherReads, otherMatches⟩ :=
    authorizes_eq_true.mp otherAccepted
  have compare :=
    domainSpecificity_compare isMatch otherMatches
      (few resource (List.mem_of_getElem? stored) entry reads isMatch)
      (few otherResource (List.mem_of_getElem? atOther) otherEntry otherReads
        otherMatches)
  simp only [rankOf, reads, otherReads, Option.elim_some]
  rw [compare.1, compare.2]

theorem matchDomain_build {resources : ClientResources} {flow : DomainFlow}
    {host : Str} (normalized : normalizeHost flow.host = some host) :
    (ResourceIndex.build resources).matchDomain flow =
      ((sortByKey domainSpecificity
          (indexDomains resources.domainResources)).find?
        (domainEntryMatches host flow)).map IndexedDomain.resource := by
  simp only [ResourceIndex.matchDomain, normalized, ResourceIndex.build]
  rw [find_domainTree]

/-- A resource is returned exactly if it is least by the ranking of the
code. -/
theorem matchDomain_eq_some_iff {resources : ClientResources}
    {flow : DomainFlow} {host : Str} {resource : DomainResource}
    (normalized : normalizeHost flow.host = some host) :
    (ResourceIndex.build resources).matchDomain flow = some resource ↔
      ∃ position,
        IsLeastAt (rankOf domainSpecificity) (authorizes host flow)
          resources.domainResources position resource := by
  rw [matchDomain_build normalized]
  constructor
  · intro returned
    obtain ⟨entry, found, rfl⟩ := Option.map_eq_some_iff.mp returned
    exact find?_domain_isLeastAt found
  · intro least
    obtain ⟨position, least⟩ := least
    cases found :
        (sortByKey domainSpecificity
          (indexDomains resources.domainResources)).find?
          (domainEntryMatches host flow) with
    | none =>
        have rejected :=
          find?_domain_eq_none_iff.mp found resource
            (List.mem_of_getElem? least.1)
        rw [least.2.1] at rejected
        cases rejected
    | some entry =>
        obtain ⟨other, otherLeast⟩ := find?_domain_isLeastAt found
        rw [Option.map_some, (otherLeast.unique least).2]

/-- Nothing is returned exactly if no resource matches. -/
theorem matchDomain_eq_none_iff {resources : ClientResources}
    {flow : DomainFlow} {host : Str}
    (normalized : normalizeHost flow.host = some host) :
    (ResourceIndex.build resources).matchDomain flow = none ↔
      ∀ resource ∈ resources.domainResources,
        authorizes host flow resource = false := by
  rw [matchDomain_build normalized, Option.map_eq_none_iff,
    find?_domain_eq_none_iff]

/-- `match_domain` returns the least matching resource by exact name before
wildcard, more labels, port span, exact protocol before `all` and original
position, nothing exactly if no resource matches, and the first row of
`match_domain_all`. -/
def ReturnsLeast (resources : ClientResources) (flow : DomainFlow) : Prop :=
  (∀ resource,
    (ResourceIndex.build resources).matchDomain flow = some resource ↔
      ∃ host position, normalizeHost flow.host = some host ∧
        IsLeastAt (rankOf domainRank) (authorizes host flow)
          resources.domainResources position resource) ∧
    ((ResourceIndex.build resources).matchDomain flow = none ↔
      ∀ host, normalizeHost flow.host = some host →
        ∀ resource ∈ resources.domainResources,
          authorizes host flow resource = false) ∧
    (ResourceIndex.build resources).matchDomain flow =
      ((ResourceIndex.build resources).matchDomainAll flow).head?

/-- No wildcard that matches the flow has more labels than the bound. -/
def WildcardsWithin (bound : Nat) (resources : ClientResources)
    (flow : DomainFlow) : Prop :=
  ∀ host, normalizeHost flow.host = some host →
    ∀ resource ∈ resources.domainResources,
      ∀ entry, readPattern resource = some entry →
        domainEntryMatches host flow entry = true →
        entry.pattern.wildcard = true → entry.pattern.labelCount ≤ bound

theorem returnsLeast_of_within {resources : ClientResources}
    {flow : DomainFlow} (within : WildcardsWithin (2 ^ 31) resources flow) :
    ReturnsLeast resources flow := by
  unfold ReturnsLeast
  cases normalized : normalizeHost flow.host with
  | none =>
      simp [ResourceIndex.matchDomain, ResourceIndex.matchDomainAll, normalized]
  | some host =>
      refine ⟨?_, ?_, ?_⟩
      · intro resource
        rw [matchDomain_eq_some_iff normalized]
        have fits := within host normalized
        constructor
        · intro least
          obtain ⟨position, least⟩ := least
          exact ⟨host, position, rfl, (isLeastAt_domainRank fits).mp least⟩
        · intro least
          obtain ⟨other, position, same, least⟩ := least
          cases same
          exact ⟨position, (isLeastAt_domainRank fits).mpr least⟩
      · rw [matchDomain_eq_none_iff normalized]
        constructor
        · intro rejected other same
          cases same
          exact rejected
        · intro rejected
          exact rejected host rfl
      · rw [matchDomain_build normalized]
        simp only [ResourceIndex.matchDomainAll, normalized]
        rw [List.head?_map, List.head?_filter]
        rfl

/-- A resource for all ports and protocols of a host pattern. -/
def anyFlowTo (host : Str) (appId : Str) : DomainResource where
  host := host
  portMin := 0
  portMax := 65535
  protocol := .all
  appId := appId
  nodeGroupId := []
  tcpPrefersL3 := false
  addrPretend := false
  resolvedIps := []

/-! ## How many labels a match can have -/

/-- A wildcard that matches has no more labels than its host has bytes. -/
theorem labelCount_le_of_matches {pattern : DomainPattern} {host : Str}
    (isMatch : pattern.matches host = true)
    (isWildcard : pattern.wildcard = true) :
    pattern.labelCount ≤ byteLen host := by
  rw [DomainPattern.labelCount]
  by_cases bare : pattern.suffix = []
  · rw [if_pos bare]
    exact Nat.zero_le _
  · rw [DomainPattern.matches, if_neg (by simp [isWildcard]), if_neg bare]
      at isMatch
    simp only [Bool.and_eq_true, decide_eq_true_eq] at isMatch
    have fits := isMatch.1.1
    have labels := length_splitOn_le '.' pattern.suffix
    have bytes := length_le_byteLen pattern.suffix
    rw [if_neg bare]
    omega

/-- Normalising does not make a host longer. -/
theorem byteLen_normalizeHost_le {host normalized : Str}
    (isHost : normalizeHost host = some normalized) :
    byteLen normalized ≤ byteLen host := by
  rw [normalizeHost] at isHost
  split at isHost
  · cases isHost
  · cases isHost
    rw [byteLen_toAsciiLowercase]
    exact byteLen_le_of_sublist
      ((List.rdropWhile_prefix _ _).sublist.trans (trim_sublist host))

theorem wildcardsWithin_byteLen (resources : ClientResources)
    (flow : DomainFlow) :
    WildcardsWithin (byteLen flow.host) resources flow := by
  intro host normalized resource _ entry _ isMatch isWildcard
  simp only [domainEntryMatches, Bool.and_eq_true] at isMatch
  exact (labelCount_le_of_matches isMatch.1.1 isWildcard).trans
    (byteLen_normalizeHost_le normalized)

theorem returnsLeast_of_short {resources : ClientResources} {flow : DomainFlow}
    (short : byteLen flow.host ≤ 2 ^ 31) : ReturnsLeast resources flow := by
  apply returnsLeast_of_within
  intro host normalized resource member entry reads isMatch isWildcard
  have few :=
    wildcardsWithin_byteLen resources flow host normalized resource member
      entry reads isMatch isWildcard
  exact few.trans short

/-- `match_domain` keeps to the ranking, whatever the table and the flow.  The
labels of a pattern are counted in 32 bits, which only a host of more than two
gigabytes could have too many of; a received host has a few hundred bytes in a
SOCKS request or in a query for a name, and is a part of at most 32 KiB in the
header of an HTTP request. -/
theorem match_domain_least (resources : ClientResources) (flow : DomainFlow)
    (short : byteLen flow.host ≤ 2 ^ 31) : ReturnsLeast resources flow :=
  returnsLeast_of_short short

/-- Patterns of one, two and no labels, one of them twice and one malformed. -/
def sampleDomains : List DomainResource :=
  [anyFlowTo ['*'] ['a'], anyFlowTo "*.b".toList ['b'],
    anyFlowTo "*.a.b".toList ['c'],
    { anyFlowTo " *.A.b.".toList ['d'] with protocol := .tcp },
    { anyFlowTo "w.a.b".toList ['e'] with portMin := 80, portMax := 80 },
    anyFlowTo "*.".toList ['f']]

theorem match_domain_least_sample :
    (ResourceIndex.build ⟨[], sampleDomains⟩).matchDomain
        ⟨"W.a.B.".toList, 443, .tcp⟩ =
      some { anyFlowTo " *.A.b.".toList ['d'] with protocol := .tcp } := by
  have least :=
    match_domain_least ⟨[], sampleDomains⟩ ⟨"W.a.B.".toList, 443, .tcp⟩
      (by decide)
  refine (least.1 _).mpr ⟨"w.a.b".toList, 3, by decide, rfl, by decide, ?_⟩
  intro other resource stored accepted
  match other with
  | 0 | 1 | 2 =>
      cases stored
      exact .inl (by decide)
  | 3 =>
      cases stored
      exact .inr ⟨rfl, Nat.le_refl 3⟩
  | 4 | 5 =>
      cases stored
      exact absurd accepted (by decide)
  | other + 6 => cases stored

end HermesAtrust.Auth
