import HermesAtrust.Auth.ResourceCache
import HermesAtrust.Client.Replacement
import HermesAtrust.Collections.HashTable
import HermesAtrust.L3.Ipv4Text
import HermesAtrust.L3.Manager
import Mathlib.Data.String.Basic

/-!
# The endpoints of a node group

What a generation of the resource table advertises for a node group, what the
configuration puts in its place, and the order in which `NodeSelector` offers
the endpoints after it has measured them.  Whatever the measurements are, the
endpoints offered are those of the table or of the override.
-/

namespace HermesAtrust.Client.Nodes

open HermesAtrust.Auth.ResourceCache (NodeAddress NodeGroup ResourceTable)
open HermesAtrust.Client.Replacement (GatewayEndpoint)
open HermesAtrust.Collections HermesAtrust.L3 HermesAtrust.Search
open HermesAtrust.Text

abbrev Snapshot := Auth.ResourceCache.ResourceSnapshot

/-! ## Addresses of a table -/

/-- `DEFAULT_NODE_PORT`. -/
def defaultNodePort : UInt16 := 441

/-- `SDPC_HOST_PLACEHOLDER`. -/
def sdpcHostPlaceholder : Str :=
  "\x7b\x7bsdpcHost\x7d\x7d".toList

/-- `str::replace` of a pattern that is not empty; the first argument counts
the characters of an occurrence that are still to be left out. -/
def replaceAll (pattern new : Str) : Nat → Str → Str
  | _, [] => []
  | skipped + 1, _ :: later => replaceAll pattern new skipped later
  | 0, char :: later =>
      if pattern.isPrefixOf (char :: later) then
        new ++ replaceAll pattern new (pattern.length - 1) later
      else
        char :: replaceAll pattern new 0 later

/-- `split_host_port`. -/
def splitHostPort (value : Str) (defaultPort : UInt16) :
    Option (Str × UInt16) :=
  let value := trim value
  if value = [] then
    none
  else
    match stripPrefix? ['['] value with
    | some rest =>
        match splitOnce ']' rest with
        | none => none
        | some (host, after) =>
            if after = [] then
              some (host, defaultPort)
            else
              match (stripPrefix? [':'] after).bind parseU16 with
              | none => none
              | some port => if port = 0 then none else some (host, port)
    | none =>
        if value.count ':' > 1 then
          some (value, defaultPort)
        else
          match rsplitOnce ':' value with
          | none => some (value, defaultPort)
          | some (host, port) =>
              if host = [] then
                none
              else
                match parseU16 port with
                | none => none
                | some port => if port = 0 then none else some (host, port)

/-- `resolve_node_address`, as far as it gives a host and a port. -/
def resolveNodeAddress (address : NodeAddress) (gateway : GatewayEndpoint) :
    Option L3NodeEndpoint :=
  let raw := trim address.address
  if raw = [] then
    none
  else
    let substituted :=
      replaceAll sdpcHostPlaceholder gateway.host.toList 0 raw
    match splitHostPort substituted defaultNodePort with
    | none => none
    | some (host, port) =>
        if host = [] then none else some ⟨String.ofList host, port⟩

structure ResolvedNodeGroup where
  id : Str
  endpoints : List L3NodeEndpoint

/-- `resolve_node_groups`. -/
def resolveNodeGroups (table : ResourceTable) (gateway : GatewayEndpoint) :
    List ResolvedNodeGroup :=
  table.nodeGroups.map fun group =>
    ⟨group.id,
      group.addresses.filterMap fun address =>
        resolveNodeAddress address gateway⟩

/-! ## Overrides -/

/-- What is read of `AtrustClientConfig`. -/
structure AtrustClientConfig where
  gateway : GatewayEndpoint
  measuresNodes : Bool
  endpointOverride : Option (List L3NodeEndpoint)
  endpointOverrideNodeGroupId : Option Str

/-- `override_matches`. -/
def overrideMatches (config : AtrustClientConfig) (table : ResourceTable)
    (group : Str) : Bool :=
  config.endpointOverride.isSome &&
    match config.endpointOverrideNodeGroupId with
    | some bound => bound == group
    | none => (table.nodeGroups.map NodeGroup.id) == [group]

/-- `configured_endpoints`. -/
def configuredEndpoints (config : AtrustClientConfig) (table : ResourceTable)
    (group : Str) : List L3NodeEndpoint :=
  if overrideMatches config table group then
    config.endpointOverride.getD []
  else
    match (resolveNodeGroups table config.gateway).find? fun resolved =>
        resolved.id == group with
    | none => []
    | some resolved => resolved.endpoints

/-- What the reconciler gives to a node group of the table. -/
def reconciledEndpoints (config : AtrustClientConfig)
    (groups : List ResolvedNodeGroup) (group : ResolvedNodeGroup) :
    List L3NodeEndpoint :=
  match config.endpointOverrideNodeGroupId, config.endpointOverride with
  | some bound, some endpoints =>
      if bound = group.id then endpoints else group.endpoints
  | none, some endpoints =>
      if groups.length = 1 then endpoints else group.endpoints
  | _, _ => group.endpoints

/-- The groups that the reconciler hands to the managers; of groups with the
same id the last one counts. -/
def reconciledGroups (config : AtrustClientConfig) (table : ResourceTable) :
    HashTable String (List L3NodeEndpoint) :=
  let groups := resolveNodeGroups table config.gateway
  groups.foldl
    (fun collected group =>
      collected.insert (String.ofList group.id)
        (reconciledEndpoints config groups group))
    ∅

/-- An endpoint that the table advertises for the group, or that the
configuration has in its place. -/
def Advertises (config : AtrustClientConfig) (table : ResourceTable)
    (group : Str) (endpoint : L3NodeEndpoint) : Prop :=
  if overrideMatches config table group then
    endpoint ∈ config.endpointOverride.getD []
  else
    ∃ resolved ∈ resolveNodeGroups table config.gateway,
      resolved.id = group ∧ endpoint ∈ resolved.endpoints

/-! ## Measurements -/

/-- `NodeTlsProbeResult`, with the elapsed time in nanoseconds. -/
structure NodeTlsProbeResult where
  endpoint : L3NodeEndpoint
  success : Bool
  elapsed : Nat

/-- The key that `rank` sorts by. -/
def rankKey (measurement : NodeTlsProbeResult) :
    ℕ ×ₗ ℕ ×ₗ String ×ₗ ℕ :=
  toLex (if measurement.success then 0 else 1,
    toLex (measurement.elapsed,
      toLex (measurement.endpoint.host, measurement.endpoint.port.toNat)))

/-- `rank`. -/
def rank (measurements : List NodeTlsProbeResult) :
    List NodeTlsProbeResult :=
  sortByKey rankKey measurements

/-- What is kept of the measurements of a node group. -/
structure Ranked where
  resourceGeneration : Nat
  endpoints : List L3NodeEndpoint

abbrev Rankings := HashTable Str Ranked

/-- `endpoints` of `NodeSelector`: the endpoints and the rankings after it.
`fresh` says that kept measurements are recent enough, and `measurements` are
the results of new probes in the order in which they came in. -/
def selectEndpoints (config : AtrustClientConfig) (rankings : Rankings)
    (snapshot : Snapshot) (group : Str) (fresh : Bool)
    (measurements : List NodeTlsProbeResult) :
    Option (List L3NodeEndpoint × Rankings) :=
  let endpoints := configuredEndpoints config snapshot.resources group
  if !config.measuresNodes ||
      overrideMatches config snapshot.resources group then
    some (endpoints, rankings)
  else
    let kept :=
      (rankings.lookup group).filter fun ranked =>
        ranked.resourceGeneration == snapshot.generation && fresh
    match kept with
    | some ranked => some (ranked.endpoints, rankings)
    | none =>
        if (measurements.map NodeTlsProbeResult.endpoint).isPerm endpoints then
          let ordered :=
            (rank measurements).map NodeTlsProbeResult.endpoint
          some
            (ordered,
              rankings.insert group ⟨snapshot.generation, ordered⟩)
        else
          none

/-! ## What is offered is advertised -/

section

variable {config : AtrustClientConfig} {table : ResourceTable} {group : Str}
  {endpoint : L3NodeEndpoint}

theorem advertises_of_configured
    (listed : endpoint ∈ configuredEndpoints config table group) :
    Advertises config table group endpoint := by
  unfold configuredEndpoints at listed
  unfold Advertises
  split at listed
  · next overridden =>
      rw [if_pos overridden]
      exact listed
  · next advertised =>
      rw [if_neg advertised]
      split at listed
      · cases listed
      · next resolved found =>
          refine ⟨resolved, List.mem_of_find?_eq_some found, ?_, listed⟩
          have same := List.find?_some found
          exact beq_iff_eq.mp same

/-- The reconciler overrides the endpoints of the same groups. -/
theorem reconciledEndpoints_eq {resolved : ResolvedNodeGroup}
    (member : resolved ∈ resolveNodeGroups table config.gateway) :
    reconciledEndpoints config (resolveNodeGroups table config.gateway)
        resolved =
      if overrideMatches config table resolved.id then
        config.endpointOverride.getD []
      else
        resolved.endpoints := by
  unfold reconciledEndpoints overrideMatches
  cases config.endpointOverride with
  | none =>
      cases config.endpointOverrideNodeGroupId with
      | none => simp
      | some bound => simp
  | some endpoints =>
      cases config.endpointOverrideNodeGroupId with
      | some bound => simp
      | none =>
          unfold resolveNodeGroups at member ⊢
          cases groups : table.nodeGroups with
          | nil =>
              rw [groups] at member
              cases member
          | cons first others =>
              rw [groups] at member
              cases others with
              | nil =>
                  cases List.mem_singleton.mp member
                  simp
              | cons second later => simp

/-- What the reconciler hands to the managers is advertised. -/
theorem advertises_of_reconciled {key : String}
    {endpoints : List L3NodeEndpoint}
    (found : (reconciledGroups config table).lookup key = some endpoints)
    (listed : endpoint ∈ endpoints) :
    Advertises config table key.toList endpoint := by
  have general :
      ∀ (groups : List ResolvedNodeGroup)
        (collected : HashTable String (List L3NodeEndpoint)),
        (∀ group ∈ groups,
          group ∈ resolveNodeGroups table config.gateway) →
        (∀ key endpoints, collected.lookup key = some endpoints →
          ∀ endpoint ∈ endpoints,
            Advertises config table key.toList endpoint) →
        ∀ key endpoints,
          (groups.foldl
            (fun collected group =>
              collected.insert (String.ofList group.id)
                (reconciledEndpoints config
                  (resolveNodeGroups table config.gateway) group))
            collected).lookup key = some endpoints →
          ∀ endpoint ∈ endpoints,
            Advertises config table key.toList endpoint := by
    intro groups
    induction groups with
    | nil =>
        intro collected _ before
        exact before
    | cons group later inductionHypothesis =>
        intro collected members before
        apply inductionHypothesis
        · intro other inLater
          exact members other (List.mem_cons_of_mem group inLater)
        · intro key endpoints stored endpoint inEndpoints
          rw [HashTable.lookup_insert_eq_if] at stored
          split at stored
          · next same =>
              cases stored
              have member := members group List.mem_cons_self
              rw [reconciledEndpoints_eq member] at inEndpoints
              rw [same, String.toList_ofList, Advertises]
              split at inEndpoints
              · next overridden =>
                  rw [if_pos overridden]
                  exact inEndpoints
              · next advertised =>
                  rw [if_neg advertised]
                  exact ⟨group, member, rfl, inEndpoints⟩
          · exact before key endpoints stored endpoint inEndpoints
  refine general _ ∅ (fun _ member => member) ?_ key endpoints found endpoint
    listed
  intro key endpoints stored
  rw [AList.lookup_empty] at stored
  cases stored

/-- Every kept ranking consists of endpoints that are allowed for its
generation. -/
def RankingsWithin (allowed : Nat → Str → L3NodeEndpoint → Prop)
    (rankings : Rankings) : Prop :=
  ∀ group ranked, rankings.lookup group = some ranked →
    ∀ endpoint ∈ ranked.endpoints,
      allowed ranked.resourceGeneration group endpoint

/-- What `NodeSelector` offers and what it keeps is allowed, if what the table
advertises is. -/
theorem selectEndpoints_within {allowed : Nat → Str → L3NodeEndpoint → Prop}
    {rankings after : Rankings} {snapshot : Snapshot} {fresh : Bool}
    {measurements : List NodeTlsProbeResult}
    {offered : List L3NodeEndpoint}
    (within : RankingsWithin allowed rankings)
    (advertised :
      ∀ endpoint, Advertises config snapshot.resources group endpoint →
        allowed snapshot.generation group endpoint)
    (selected :
      selectEndpoints config rankings snapshot group fresh measurements =
        some (offered, after)) :
    (∀ endpoint ∈ offered, allowed snapshot.generation group endpoint) ∧
      RankingsWithin allowed after := by
  unfold selectEndpoints at selected
  simp only at selected
  split at selected
  · cases selected
    refine ⟨?_, within⟩
    intro endpoint listed
    exact advertised endpoint (advertises_of_configured listed)
  · split at selected
    · next ranked kept =>
        cases selected
        obtain ⟨found, recent⟩ := Option.filter_eq_some_iff.mp kept
        have current : ranked.resourceGeneration = snapshot.generation :=
          beq_iff_eq.mp (Bool.and_eq_true_iff.mp recent).1
        rw [← current]
        exact ⟨within group ranked found, within⟩
    · split at selected
      · next permuted =>
          cases selected
          have offers :
              ∀ endpoint ∈ (rank measurements).map NodeTlsProbeResult.endpoint,
                allowed snapshot.generation group endpoint := by
            intro endpoint listed
            obtain ⟨measurement, ranked, rfl⟩ := List.mem_map.mp listed
            have measured := mem_sortByKey.mp ranked
            apply advertised
            apply advertises_of_configured
            apply (List.isPerm_iff.mp permuted).subset
            exact List.mem_map_of_mem measured
          refine ⟨offers, ?_⟩
          intro other ranked found
          rw [HashTable.lookup_insert_eq_if] at found
          split at found
          · next same =>
              cases found
              rw [same]
              exact offers
          · exact within other ranked found
      · cases selected

end

end HermesAtrust.Client.Nodes
