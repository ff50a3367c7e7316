import HermesAtrust.Client.Nodes

/-!
# The reconciler and the dispatch

The reconciler collects the node groups of a table in a hash map, where the
last group of an id replaces the earlier ones; `configured_endpoints` looks for
the first group of an id.  Both apply the same override.
-/

namespace HermesAtrust.Client.Nodes

open HermesAtrust.Auth.ResourceCache (NodeAddress NodeGroup ResourceTable)
open HermesAtrust.Client.Replacement (GatewayEndpoint)
open HermesAtrust.Collections HermesAtrust.L3 HermesAtrust.Text

/-- Of the values that are inserted under a key one after the other, the last
one stays. -/
theorem lookup_foldl_insert {K V Item : Type*} [DecidableEq K]
    (items : List Item) (key : Item → K) (value : Item → V)
    (table : HashTable K V) (wanted : K) :
    (items.foldl
        (fun collected item => collected.insert (key item) (value item))
        table).lookup wanted =
      ((items.filter fun item =>
          decide (key item = wanted)).getLast?.map value).or
        (table.lookup wanted) := by
  induction items generalizing table with
  | nil => rfl
  | cons item later inductionHypothesis =>
      rw [List.foldl_cons, inductionHypothesis,
        HashTable.lookup_insert_eq_if]
      by_cases same : key item = wanted
      · have kept : decide (key item = wanted) = true := decide_eq_true same
        rw [if_pos same.symm, List.filter_cons, if_pos kept,
          List.getLast?_cons]
        cases (later.filter fun item =>
            decide (key item = wanted)).getLast? with
        | none => rfl
        | some last => rfl
      · have dropped : ¬ decide (key item = wanted) = true := by
          simpa using same
        rw [if_neg (Ne.symm same), List.filter_cons, if_neg dropped]

/-- The resolved groups of the table with this id. -/
def groupsOf (table : ResourceTable) (gateway : GatewayEndpoint)
    (group : Str) : List ResolvedNodeGroup :=
  (resolveNodeGroups table gateway).filter fun resolved => resolved.id == group

/-- The endpoints of the first and of the last group with this id are the
same. -/
def RepeatsAgree (table : ResourceTable) (gateway : GatewayEndpoint)
    (group : Str) : Prop :=
  (groupsOf table gateway group).head?.map ResolvedNodeGroup.endpoints =
    (groupsOf table gateway group).getLast?.map ResolvedNodeGroup.endpoints

section

variable {config : AtrustClientConfig} {table : ResourceTable} {group : Str}

/-- What the reconciler hands over for an id is what it gives to the last group
of the table with the id. -/
theorem lookup_reconciledGroups (config : AtrustClientConfig)
    (table : ResourceTable) (group : Str) :
    (reconciledGroups config table).lookup (String.ofList group) =
      (groupsOf table config.gateway group).getLast?.map
        (reconciledEndpoints config
          (resolveNodeGroups table config.gateway)) := by
  have sameKeys :
      ((resolveNodeGroups table config.gateway).filter fun resolved =>
          decide (String.ofList resolved.id = String.ofList group)) =
        groupsOf table config.gateway group := by
    apply List.filter_congr
    intro resolved _
    rw [Bool.eq_iff_iff, decide_eq_true_iff, beq_iff_eq, String.ofList_inj]
  rw [reconciledGroups, lookup_foldl_insert, sameKeys, AList.lookup_empty,
    Option.or_none]

theorem exists_group (listed : group ∈ table.nodeGroups.map NodeGroup.id)
    (gateway : GatewayEndpoint) :
    ∃ first last,
      (groupsOf table gateway group).head? = some first ∧
        (groupsOf table gateway group).getLast? = some last ∧
        last ∈ resolveNodeGroups table gateway ∧ last.id = group := by
  obtain ⟨member, present, isId⟩ := List.mem_map.mp listed
  have nonempty : groupsOf table gateway group ≠ [] := by
    have found :
        (⟨member.id, member.addresses.filterMap fun address =>
            resolveNodeAddress address gateway⟩ : ResolvedNodeGroup) ∈
          groupsOf table gateway group := by
      apply List.mem_filter.mpr
      refine ⟨List.mem_map_of_mem present, ?_⟩
      exact beq_iff_eq.mpr isId
    exact List.ne_nil_of_mem found
  have last := List.mem_filter.mp (List.getLast_mem nonempty)
  exact ⟨_, _, List.head?_eq_some_head nonempty,
    List.getLast?_eq_some_getLast nonempty, last.1, beq_iff_eq.mp last.2⟩

/-- For a group of the table the reconciler and the dispatch have the same
endpoints exactly if the override applies to it or the first and the last group
with its id have the same. -/
theorem reconciled_eq_configured_iff (config : AtrustClientConfig)
    (listed : group ∈ table.nodeGroups.map NodeGroup.id) :
    (reconciledGroups config table).lookup (String.ofList group) =
        some (configuredEndpoints config table group) ↔
      overrideMatches config table group = true ∨
        RepeatsAgree table config.gateway group := by
  obtain ⟨first, last, isFirst, isLast, member, isGroup⟩ :=
    exists_group listed config.gateway
  have found :
      (resolveNodeGroups table config.gateway).find? (fun resolved =>
        resolved.id == group) = some first := by
    rw [← List.head?_filter]
    exact isFirst
  rw [lookup_reconciledGroups, isLast, Option.map_some,
    reconciledEndpoints_eq member, isGroup, configuredEndpoints, found,
    RepeatsAgree, isFirst, isLast, Option.map_some, Option.map_some]
  by_cases overridden : overrideMatches config table group = true
  · rw [if_pos overridden, if_pos overridden]
    simp only [overridden, true_or]
  · rw [if_neg overridden, if_neg overridden]
    simp only [overridden, Bool.false_eq_true, false_or, Option.some.injEq]
    exact eq_comm

end

/-- Two groups of one id, at different nodes. -/
def repeatedTable : ResourceTable where
  ipResources := []
  domainResources := []
  nodeGroups := [
    ⟨"group-1".toList, [⟨"10.0.0.1:441".toList, []⟩]⟩,
    ⟨"group-1".toList, [⟨"10.0.0.2:441".toList, []⟩]⟩]

/-- A client without override. -/
def plainConfig : AtrustClientConfig where
  gateway := ⟨"gateway.test", 443⟩
  measuresNodes := false
  endpointOverride := none
  endpointOverrideNodeGroupId := none

/-- A client whose override is bound to the repeated group. -/
def boundConfig : AtrustClientConfig :=
  { plainConfig with
    endpointOverride := some [⟨"10.0.0.9", 441⟩]
    endpointOverrideNodeGroupId := some "group-1".toList }

theorem reconciled_eq_configured_sample :
    (reconciledGroups boundConfig repeatedTable).lookup
        (String.ofList "group-1".toList) =
      some (configuredEndpoints boundConfig repeatedTable
        "group-1".toList) := by
  have listed :
      "group-1".toList ∈ repeatedTable.nodeGroups.map NodeGroup.id := by
    decide
  exact (reconciled_eq_configured_iff boundConfig listed).mpr
    (Or.inl (by decide))

/-- The dispatch takes the first group of the id, the reconciler the last. -/
theorem reconciled_differs_on_repeated_ids :
    "group-1".toList ∈ repeatedTable.nodeGroups.map NodeGroup.id ∧
      (reconciledGroups plainConfig repeatedTable).lookup "group-1" =
        some [⟨"10.0.0.2", 441⟩] ∧
      configuredEndpoints plainConfig repeatedTable "group-1".toList =
        [⟨"10.0.0.1", 441⟩] ∧
      (reconciledGroups plainConfig repeatedTable).lookup "group-1" ≠
        some (configuredEndpoints plainConfig repeatedTable
          "group-1".toList) := by
  decide +kernel

end HermesAtrust.Client.Nodes
