import HermesAtrust.Client.Dispatch

/-!
# The generation of a packet's session

A dispatch gets its route and its endpoints from one snapshot, but the manager
that it looks up may have a live session from another generation, may have been
given a newer list, or may be given another list while the dispatch waits for
its session.  Apart from that, the session on which a packet is authorized was
established to an endpoint that the generation of its route advertises.
-/

namespace HermesAtrust.Client.Dispatch

open HermesAtrust.Auth
open HermesAtrust.Auth.ResourceCache
  (NodeGroup ResourceTable nextGeneration maxGeneration)
open HermesAtrust.Client.Nodes
open HermesAtrust.Collections HermesAtrust.Concurrency HermesAtrust.Framing
open HermesAtrust.L3 HermesAtrust.Protocol HermesAtrust.Search
open HermesAtrust.Text
open HermesAtrust.L3.ManagerCache (ManagerId Supply)
open HermesAtrust.L3.Manager (SessionRef SessionView)

/-- The endpoints that the generation of the route advertises. -/
def Routed.Allows (config : AtrustClientConfig) (origin : Routed)
    (endpoint : L3NodeEndpoint) : Prop :=
  Advertises config origin.snapshot.resources origin.route.nodeGroupId endpoint

namespace State

/-- The list that an operation of the cache gives to the manager of a group
that has one. -/
def supplyFor (state : State) (key : String)
    (endpoints : List L3NodeEndpoint) (generation : Nat) : Option Supply :=
  match state.cache.cached.lookup key with
  | none => none
  | some entry =>
      if entry.generation ≤ generation then
        some ⟨entry.manager, generation, endpoints⟩
      else
        none

/-- The list that a step gives to a manager that others may use already. -/
def gives (state : State) : Action → Option Supply
  | .lookup call =>
      match state.dispatches call with
      | some (.offered origin endpoints) =>
          state.supplyFor origin.key endpoints origin.snapshot.generation
      | _ => none
  | .finishUpdate position => state.cache.pending[position]?
  | .applyProbe =>
      match state.probing with
      | .measured snapshot group endpoints _ =>
          state.supplyFor (String.ofList group) endpoints snapshot.generation
      | _ => none
  | _ => none

/-- No dispatch comes to use something of another generation that its own does
not advertise: neither is such a list given to the manager that it uses, nor
has the manager that it is handed such a live session, such an attempt to
connect, or such a list that is newer.  And a refresh finds an unused
generation. -/
structure Undisturbed (config : AtrustClientConfig) (state : State)
    (action : Action) : Prop where
  numbered :
    ∀ table, action = .refresh table →
      state.current.generation < maxGeneration
  given :
    ∀ supply, state.gives action = some supply →
      ∀ call phase origin, state.dispatches call = some phase →
        phase.origin = some origin →
        phase.uses = some supply.manager →
        supply.generation ≠ origin.snapshot.generation →
        ∀ endpoint ∈ supply.endpoints, origin.Allows config endpoint
  handed :
    ∀ call, action = .lookup call →
      ∀ origin endpoints, state.dispatches call =
          some (.offered origin endpoints) →
        ∀ entry, state.cache.cached.lookup origin.key = some entry →
          Manager.Engaged (origin.Allows config)
              (state.manager entry.manager) ∧
            (origin.snapshot.generation < entry.generation →
              ∀ endpoint ∈ state.cache.endpoints entry.manager,
                origin.Allows config endpoint)

/-! ## What holds in every state -/

/-- The snapshot is the one of its generation. -/
def Published (state : State) (snapshot : Snapshot) : Prop :=
  snapshot.generation ≤ state.current.generation ∧
    snapshot.resources = state.published snapshot.generation

/-- A published generation advertises the endpoint for the group. -/
def Advertised (config : AtrustClientConfig) (state : State)
    (generation : Nat) (group : Str) (endpoint : L3NodeEndpoint) : Prop :=
  generation ≤ state.current.generation ∧
    Advertises config (state.published generation) group endpoint

/-- What the snapshots that are held and the measurements say is what was
published. -/
structure Tables (config : AtrustClientConfig) (state : State) : Prop where
  current : state.Published state.current
  reconciling :
    ∀ snapshot, state.reconciling = some snapshot → state.Published snapshot
  probing :
    ∀ snapshot, state.probing.snapshot = some snapshot →
      state.Published snapshot
  measured :
    ∀ snapshot group endpoints later,
      state.probing = .measured snapshot group endpoints later →
      ∀ endpoint ∈ endpoints,
        state.Advertised config snapshot.generation group endpoint
  rankings : RankingsWithin (state.Advertised config) state.rankings

/-- The updates that are still to be made are of the groups of their
managers. -/
structure Supplied (config : AtrustClientConfig) (state : State) : Prop where
  pending :
    ∀ supply ∈ state.cache.pending,
      supply.manager < state.cache.nextManager ∧
        ∀ endpoint ∈ supply.endpoints,
          state.Advertised config supply.generation
            (state.groupOf supply.manager) endpoint
  cached :
    ∀ key entry, state.cache.cached.lookup key = some entry →
      entry.manager < state.cache.nextManager ∧
        state.groupOf entry.manager = key.toList

/-- The manager can give to the dispatch only sessions that it may use. -/
structure Serves (config : AtrustClientConfig) (state : State)
    (origin : Routed) (manager : ManagerId) : Prop where
  known : manager < state.cache.nextManager
  group : state.groupOf manager = origin.route.nodeGroupId
  within :
    Manager.Within (origin.Allows config) (state.manager manager)

structure PhaseSound (config : AtrustClientConfig) (state : State)
    (phase : Phase) : Prop where
  snapshot :
    ∀ origin, phase.origin = some origin → state.Published origin.snapshot
  offered :
    ∀ origin endpoints, phase = .offered origin endpoints →
      ∀ endpoint ∈ endpoints, origin.Allows config endpoint
  serves :
    ∀ origin manager, phase.origin = some origin →
      phase.uses = some manager → state.Serves config origin manager
  endpoint :
    ∀ origin endpoint, phase.origin = some origin →
      phase.endpoint = some endpoint → origin.Allows config endpoint

structure Sound (config : AtrustClientConfig) (state : State) : Prop where
  tables : state.Tables config
  supplied : state.Supplied config
  phases :
    ∀ call phase, state.dispatches call = some phase →
      state.PhaseSound config phase

/-- What was published stays published. -/
structure Extends (state after : State) : Prop where
  generation : state.current.generation ≤ after.current.generation
  published :
    ∀ generation, generation ≤ state.current.generation →
      after.published generation = state.published generation

section

variable {config : AtrustClientConfig} {state after : State}

theorem Extends.refl_of (current : after.current = state.current)
    (published : after.published = state.published) :
    Extends state after where
  generation := by rw [current]
  published := by
    intro generation _
    rw [published]

theorem Published.later {snapshot : Snapshot}
    (published : state.Published snapshot)
    (extended : Extends state after) : after.Published snapshot := by
  refine ⟨Nat.le_trans published.1 extended.generation, ?_⟩
  rw [extended.published _ published.1]
  exact published.2

theorem Advertised.later {generation : Nat} {group : Str}
    {endpoint : L3NodeEndpoint}
    (advertised : state.Advertised config generation group endpoint)
    (extended : Extends state after) :
    after.Advertised config generation group endpoint := by
  refine ⟨Nat.le_trans advertised.1 extended.generation, ?_⟩
  rw [extended.published _ advertised.1]
  exact advertised.2

/-- What a held snapshot advertises was published. -/
theorem Published.advertised {snapshot : Snapshot} {group : Str}
    {endpoint : L3NodeEndpoint} (published : state.Published snapshot)
    (advertises : Advertises config snapshot.resources group endpoint) :
    state.Advertised config snapshot.generation group endpoint := by
  refine ⟨published.1, ?_⟩
  rw [← published.2]
  exact advertises

/-- What was published for the generation of a route is what the route
allows. -/
theorem Advertised.allows {origin : Routed} {endpoint : L3NodeEndpoint}
    (advertised :
      state.Advertised config origin.snapshot.generation
        origin.route.nodeGroupId endpoint)
    (published : state.Published origin.snapshot) :
    origin.Allows config endpoint := by
  unfold Routed.Allows
  rw [published.2]
  exact advertised.2

theorem Tables.later (tables : state.Tables config)
    (extended : Extends state after)
    (current : after.Published after.current)
    (reconciling : after.reconciling = state.reconciling)
    (probing : after.probing = state.probing)
    (rankings : after.rankings = state.rankings) :
    after.Tables config where
  current := current
  reconciling := by
    intro snapshot found
    rw [reconciling] at found
    exact (tables.reconciling snapshot found).later extended
  probing := by
    intro snapshot found
    rw [probing] at found
    exact (tables.probing snapshot found).later extended
  measured := by
    intro snapshot group endpoints later found endpoint listed
    rw [probing] at found
    have advertised :=
      tables.measured snapshot group endpoints later found endpoint listed
    exact advertised.later extended
  rankings := by
    intro group ranked found endpoint listed
    rw [rankings] at found
    exact (tables.rankings group ranked found endpoint listed).later extended

theorem Supplied.later (supplied : state.Supplied config)
    (extended : Extends state after) (cache : after.cache = state.cache)
    (groupOf : after.groupOf = state.groupOf) : after.Supplied config where
  pending := by
    intro supply listed
    rw [cache] at listed
    obtain ⟨known, advertised⟩ := supplied.pending supply listed
    rw [cache, groupOf]
    refine ⟨known, ?_⟩
    intro endpoint inList
    exact (advertised endpoint inList).later extended
  cached := by
    intro key entry found
    rw [cache] at found ⊢
    rw [groupOf]
    exact supplied.cached key entry found

theorem Serves.later {origin : Routed} {manager : ManagerId}
    (serves : state.Serves config origin manager)
    (cache : after.cache = state.cache)
    (groupOf : after.groupOf = state.groupOf)
    (managers : after.managers = state.managers) :
    after.Serves config origin manager where
  known := by
    rw [cache]
    exact serves.known
  group := by
    rw [groupOf]
    exact serves.group
  within := by
    have same : after.manager manager = state.manager manager := by
      unfold State.manager
      rw [cache, managers]
    rw [same]
    exact serves.within

theorem PhaseSound.later {phase : Phase}
    (sound : state.PhaseSound config phase)
    (extended : Extends state after)
    (serves :
      ∀ origin manager, phase.origin = some origin →
        phase.uses = some manager → state.Serves config origin manager →
        after.Serves config origin manager) :
    after.PhaseSound config phase where
  snapshot := by
    intro origin found
    exact (sound.snapshot origin found).later extended
  offered := sound.offered
  serves := by
    intro origin manager found used
    exact serves origin manager found used
      (sound.serves origin manager found used)
  endpoint := sound.endpoint

/-! ## Steps that leave the managers alone -/

/-- A step that changes neither the cache nor a manager nor a phase. -/
theorem Sound.later (sound : state.Sound config)
    (extended : Extends state after) (tables : after.Tables config)
    (cache : after.cache = state.cache)
    (groupOf : after.groupOf = state.groupOf)
    (managers : after.managers = state.managers)
    (dispatches : after.dispatches = state.dispatches) :
    after.Sound config where
  tables := tables
  supplied := sound.supplied.later extended cache groupOf
  phases := by
    intro call phase found
    rw [dispatches] at found
    refine (sound.phases call phase found).later extended ?_
    intro origin manager _ _ serves
    exact serves.later cache groupOf managers

/-- A dispatch moves on. -/
theorem Sound.setPhase (sound : state.Sound config) {phase : Phase}
    (own : state.PhaseSound config phase) (call : DispatchId) :
    (state.setPhase call phase).Sound config := by
  have extended : Extends state (state.setPhase call phase) :=
    Extends.refl_of rfl rfl
  refine ⟨?_, sound.supplied.later extended rfl rfl, ?_⟩
  · exact sound.tables.later extended
      (sound.tables.current.later extended) rfl rfl rfl
  · intro other held found
    have before : state.PhaseSound config held := by
      change Function.update state.dispatches call (some phase) other =
        some held at found
      rw [Function.update_apply] at found
      split at found
      · cases found
        exact own
      · exact sound.phases other held found
    refine before.later extended ?_
    intro origin manager _ _ serves
    exact serves.later rfl rfl rfl

theorem phaseSound_failed (error : DispatchError) :
    state.PhaseSound config (.failed error) where
  snapshot := by
    intro origin found
    cases found
  offered := by
    intro origin endpoints same
    cases same
  serves := by
    intro origin manager found
    cases found
  endpoint := by
    intro origin endpoint found
    cases found

/-- A dispatch with its manager. -/
theorem Serves.holding {origin : Routed} {manager : ManagerId}
    (serves : state.Serves config origin manager)
    (published : state.Published origin.snapshot) {phase : Phase}
    (routed : phase.origin = some origin)
    (uses : phase.uses = some manager)
    (plain : ∀ other endpoints, phase ≠ .offered other endpoints)
    (endpoints :
      ∀ endpoint, phase.endpoint = some endpoint →
        origin.Allows config endpoint) :
    state.PhaseSound config phase where
  snapshot := by
    intro other found
    cases routed.symm.trans found
    exact published
  offered := by
    intro other listed same
    exact absurd same (plain other listed)
  serves := by
    intro other used found same
    cases routed.symm.trans found
    cases uses.symm.trans same
    exact serves
  endpoint := by
    intro other endpoint found reached
    cases routed.symm.trans found
    exact endpoints endpoint reached

/-! ## Steps of the managers -/

/-- A manager goes on by itself. -/
theorem Sound.manage (sound : state.Sound config) {manager : ManagerId}
    {action : Manager.Action} {moved : Manager.State}
    (stepped : Manager.next (state.manager manager) action = some moved)
    (plain : ∀ allowed, Manager.Supplies allowed action) :
    State.Sound config
      { state with
        managers := Function.update state.managers manager moved } := by
  have extended :
      Extends state
        { state with
          managers := Function.update state.managers manager moved } :=
    Extends.refl_of rfl rfl
  refine ⟨?_, sound.supplied.later extended rfl rfl, ?_⟩
  · exact sound.tables.later extended
      (sound.tables.current.later extended) rfl rfl rfl
  · intro call phase found
    refine (sound.phases call phase found).later extended ?_
    intro origin used _ _ serves
    refine ⟨serves.known, serves.group, ?_⟩
    by_cases same : used = manager
    · subst same
      have within :=
        Manager.within_next serves.within (plain _) stepped
      refine ⟨⟨?_, ?_⟩, serves.within.endpoints⟩
      · unfold State.manager
        simp only [Function.update_self]
        exact within.calls
      · unfold State.manager
        simp only [Function.update_self]
        exact within.sessions
    · have other :
          State.manager
              { state with
                managers := Function.update state.managers manager moved }
              used =
            state.manager used := by
        unfold State.manager
        simp only [Function.update_of_ne same]
      rw [other]
      exact serves.within

/-! ## Steps of the cache -/

/-- The step gives a list to a manager. -/
structure Gives (state after : State) (supply : Supply) : Prop where
  endpoints :
    after.cache.endpoints =
      Function.update state.cache.endpoints supply.manager
        (deduplicateEndpoints supply.endpoints)
  nextManager : after.cache.nextManager = state.cache.nextManager
  managers : after.managers = state.managers
  groupOf : after.groupOf = state.groupOf

theorem Gives.manager_self {supply : Supply}
    (gives : Gives state after supply) :
    after.manager supply.manager =
      { state.manager supply.manager with
        endpoints := deduplicateEndpoints supply.endpoints } := by
  unfold State.manager
  rw [gives.managers, gives.endpoints, Function.update_self]

theorem Gives.manager_of_ne {supply : Supply}
    (gives : Gives state after supply) {manager : ManagerId}
    (different : manager ≠ supply.manager) :
    after.manager manager = state.manager manager := by
  unfold State.manager
  rw [gives.managers, gives.endpoints, Function.update_of_ne different]

/-- The list of its manager stays one that the dispatch may use. -/
theorem Serves.given {origin : Routed} {manager : ManagerId}
    {supply : Supply} (serves : state.Serves config origin manager)
    (published : state.Published origin.snapshot)
    (gives : Gives state after supply)
    (advertised :
      ∀ endpoint ∈ supply.endpoints,
        state.Advertised config supply.generation
          (state.groupOf supply.manager) endpoint)
    (undisturbed :
      manager = supply.manager →
        supply.generation ≠ origin.snapshot.generation →
        ∀ endpoint ∈ supply.endpoints, origin.Allows config endpoint) :
    after.Serves config origin manager where
  known := by
    rw [gives.nextManager]
    exact serves.known
  group := by
    rw [gives.groupOf]
    exact serves.group
  within := by
    by_cases same : manager = supply.manager
    · have allowed :
          ∀ endpoint ∈ supply.endpoints, origin.Allows config endpoint := by
        by_cases own : supply.generation = origin.snapshot.generation
        · intro endpoint listed
          have known := advertised endpoint listed
          rw [own, ← same, serves.group] at known
          exact known.allows published
        · exact undisturbed same own
      rw [same, gives.manager_self]
      have before := serves.within
      rw [same] at before
      refine ⟨⟨before.calls, before.sessions⟩, ?_⟩
      intro endpoint listed
      exact allowed endpoint (mem_deduplicateEndpoints.mp listed)
    · rw [gives.manager_of_ne same]
      exact serves.within

theorem supplyFor_eq_some {key : String} {endpoints : List L3NodeEndpoint}
    {generation : Nat} {supply : Supply}
    (found : state.supplyFor key endpoints generation = some supply) :
    ∃ entry, state.cache.cached.lookup key = some entry ∧
      entry.generation ≤ generation ∧
      supply = ⟨entry.manager, generation, endpoints⟩ := by
  unfold supplyFor at found
  split at found
  · cases found
  · next entry stored =>
      split at found
      · next older =>
          cases found
          exact ⟨entry, stored, older, rfl⟩
      · cases found

/-- A list is given to a cached manager. -/
theorem Supplied.give (supplied : state.Supplied config) {key : String}
    {supply : Supply} {entry : ManagerCache.CachedManager}
    (found : state.cache.cached.lookup key = some entry)
    (same : supply.manager = entry.manager) :
    State.Supplied config
      { state with cache := state.cache.give key supply } where
  pending := supplied.pending
  cached := by
    intro other stored lookedUp
    change (state.cache.give key supply).cached.lookup other = some stored
      at lookedUp
    rw [ManagerCache.State.lookup_give] at lookedUp
    split at lookedUp
    · next equal =>
        cases lookedUp
        rw [equal, same]
        exact supplied.cached key entry found
    · exact supplied.cached other stored lookedUp

/-- The manager of a group is given a list of the group. -/
theorem Sound.supply (sound : state.Sound config) {key : String}
    {endpoints : List L3NodeEndpoint} {generation : Nat} {supply : Supply}
    (found : state.supplyFor key endpoints generation = some supply)
    (advertised :
      ∀ endpoint ∈ endpoints,
        state.Advertised config generation key.toList endpoint)
    (undisturbed :
      ∀ call phase origin, state.dispatches call = some phase →
        phase.origin = some origin →
        phase.uses = some supply.manager →
        supply.generation ≠ origin.snapshot.generation →
        ∀ endpoint ∈ supply.endpoints, origin.Allows config endpoint) :
    State.Sound config
      { state with cache := state.cache.give key supply } := by
  obtain ⟨entry, stored, older, rfl⟩ := supplyFor_eq_some found
  have extended :
      Extends state
        { state with
          cache :=
            state.cache.give key ⟨entry.manager, generation, endpoints⟩ } :=
    Extends.refl_of rfl rfl
  have gives :
      Gives state
        { state with
          cache :=
            state.cache.give key ⟨entry.manager, generation, endpoints⟩ }
        ⟨entry.manager, generation, endpoints⟩ :=
    ⟨rfl, rfl, rfl, rfl⟩
  refine ⟨?_, sound.supplied.give stored rfl, ?_⟩
  · exact sound.tables.later extended
      (sound.tables.current.later extended) rfl rfl rfl
  · intro call phase held
    have before := sound.phases call phase held
    refine before.later extended ?_
    intro origin manager routed uses serves
    refine serves.given (before.snapshot origin routed) gives ?_ ?_
    · intro endpoint listed
      rw [(sound.supplied.cached key entry stored).2]
      exact advertised endpoint listed
    · intro same other
      rw [same] at uses
      exact undisturbed call phase origin held routed uses other

/-- What an operation of the cache does to the manager of a group that has
one. -/
theorem updateEndpointsForGeneration_eq (state : State) (key : String)
    (endpoints : List L3NodeEndpoint) (generation : Nat) :
    state.cache.updateEndpointsForGeneration key endpoints generation =
      match state.supplyFor key endpoints generation with
      | none => state.cache
      | some supply => state.cache.give key supply := by
  unfold ManagerCache.State.updateEndpointsForGeneration supplyFor
  cases state.cache.cached.lookup key with
  | none => rfl
  | some entry =>
      by_cases older : entry.generation ≤ generation
      · simp only [if_pos older]
      · simp only [if_neg older]

theorem managerForGeneration_eq {key : String}
    {entry : ManagerCache.CachedManager}
    (found : state.cache.cached.lookup key = some entry)
    (endpoints : List L3NodeEndpoint) (generation : Nat) :
    state.cache.managerForGeneration key endpoints generation =
      match state.supplyFor key endpoints generation with
      | none => state.cache
      | some supply => state.cache.give key supply := by
  unfold ManagerCache.State.managerForGeneration supplyFor
  rw [found]
  by_cases older : entry.generation ≤ generation
  · simp only [if_pos older]
  · simp only [if_neg older]

/-- An update that a `reconcile` had still to make. -/
theorem Sound.finishUpdate (sound : state.Sound config) {position : Nat}
    {cache : ManagerCache.State}
    (undisturbed : state.Undisturbed config (.finishUpdate position))
    (stepped : state.cache.finishUpdate position = some cache) :
    State.Sound config { state with cache := cache } := by
  obtain ⟨supply, waiting, rfl⟩ :=
    ManagerCache.State.finishUpdate_eq_some stepped
  have listed : supply ∈ state.cache.pending := List.mem_of_getElem? waiting
  have extended :
      Extends state
        { state with
          cache :=
            { state.cache.write supply with
              pending := state.cache.pending.eraseIdx position } } :=
    Extends.refl_of rfl rfl
  refine ⟨?_, ⟨?_, sound.supplied.cached⟩, ?_⟩
  · exact sound.tables.later extended
      (sound.tables.current.later extended) rfl rfl rfl
  · intro other remaining
    exact sound.supplied.pending other (List.mem_of_mem_eraseIdx remaining)
  · intro call phase held
    have before := sound.phases call phase held
    refine before.later extended ?_
    intro origin manager routed uses serves
    refine serves.given (before.snapshot origin routed)
      ⟨rfl, rfl, rfl, rfl⟩ (sound.supplied.pending supply listed).2 ?_
    intro same other
    rw [same] at uses
    exact undisturbed.given supply waiting call phase origin held routed uses
      other

/-- `reconcile` decides which updates it has to make. -/
theorem Sound.reconcile (sound : state.Sound config) {snapshot : Snapshot}
    (held : state.reconciling = some snapshot) :
    State.Sound config
      { state with
        reconciling := none
        cache :=
          state.cache.reconcile snapshot.generation
            (reconciledGroups config snapshot.resources) } := by
  have published := sound.tables.reconciling snapshot held
  refine ⟨⟨sound.tables.current, ?_, sound.tables.probing,
    sound.tables.measured, sound.tables.rankings⟩, ⟨?_, ?_⟩, ?_⟩
  · intro other found
    cases found
  · intro supply listed
    rcases List.mem_append.mp listed with updated | listed
    · obtain ⟨key, entry, endpoints, stored, -, reconciled, rfl⟩ :=
        ManagerCache.State.mem_updates.mp updated
      obtain ⟨known, group⟩ := sound.supplied.cached key entry stored
      refine ⟨known, ?_⟩
      intro endpoint inList
      change state.Advertised config snapshot.generation
        (state.groupOf entry.manager) endpoint
      rw [group]
      exact published.advertised (advertises_of_reconciled reconciled inList)
    · exact sound.supplied.pending supply listed
  · intro key entry found
    obtain ⟨old, stored, same, -⟩ :=
      ManagerCache.State.lookup_reconcile found
    rw [same]
    exact sound.supplied.cached key old stored
  · intro call phase found
    refine (sound.phases call phase found).later
      (Extends.refl_of rfl rfl) ?_
    intro origin manager _ _ serves
    exact ⟨serves.known, serves.group, serves.within⟩

/-! ## Steps of a dispatch -/

/-- A dispatch is handed the manager that its group has. -/
theorem Sound.lookup_cached (sound : state.Sound config) {call : DispatchId}
    {origin : Routed} {endpoints : List L3NodeEndpoint}
    {entry : ManagerCache.CachedManager}
    (held : state.dispatches call = some (.offered origin endpoints))
    (stored : state.cache.cached.lookup origin.key = some entry)
    (undisturbed : state.Undisturbed config (.lookup call)) :
    (State.setPhase
      { state with
        cache :=
          state.cache.managerForGeneration origin.key endpoints
            origin.snapshot.generation }
      call (.holding origin entry.manager)).Sound config := by
  have own := sound.phases call _ held
  have published := own.snapshot origin rfl
  have allowed := own.offered origin endpoints rfl
  obtain ⟨known, group⟩ := sound.supplied.cached origin.key entry stored
  have sameGroup : origin.key.toList = origin.route.nodeGroupId :=
    String.toList_ofList
  obtain ⟨engaged, newer⟩ :=
    undisturbed.handed call rfl origin endpoints held entry stored
  rw [managerForGeneration_eq stored]
  cases given : state.supplyFor origin.key endpoints
      origin.snapshot.generation with
  | none =>
      have older : ¬entry.generation ≤ origin.snapshot.generation := by
        intro older
        simp [supplyFor, stored, older] at given
      have serves : state.Serves config origin entry.manager :=
        ⟨known, group.trans sameGroup, engaged,
          newer (Nat.lt_of_not_le older)⟩
      refine sound.setPhase ?_ call
      refine serves.holding published rfl rfl ?_ ?_
      · intro other listed same
        cases same
      · intro endpoint reached
        cases reached
  | some supply =>
      have after := sound.supply given
        (fun endpoint listed => by
          rw [sameGroup]
          exact published.advertised (allowed endpoint listed))
        (undisturbed.given supply (by simp [gives, held, given]))
      obtain ⟨found, same, -, rfl⟩ := supplyFor_eq_some given
      cases stored.symm.trans same
      refine after.setPhase ?_ call
      have serves :
          State.Serves config
            { state with
              cache :=
                state.cache.give origin.key
                  ⟨entry.manager, origin.snapshot.generation, endpoints⟩ }
            origin entry.manager := by
        refine ⟨known, group.trans sameGroup, ⟨?_, ?_⟩, ?_⟩
        · exact engaged.calls
        · exact engaged.sessions
        · intro endpoint listed
          change endpoint ∈ Function.update state.cache.endpoints
            entry.manager (deduplicateEndpoints endpoints) entry.manager
            at listed
          rw [Function.update_self] at listed
          exact allowed endpoint (mem_deduplicateEndpoints.mp listed)
      refine serves.holding published rfl rfl ?_ ?_
      · intro other listed same
        cases same
      · intro endpoint reached
        cases reached

/-- A manager is made for the group of a dispatch. -/
theorem Sound.lookup_fresh (sound : state.Sound config) {call : DispatchId}
    {origin : Routed} {endpoints : List L3NodeEndpoint}
    (held : state.dispatches call = some (.offered origin endpoints))
    (absent : state.cache.cached.lookup origin.key = none) :
    (state.lookup call origin endpoints).Sound config := by
  have own := sound.phases call _ held
  have published := own.snapshot origin rfl
  have allowed := own.offered origin endpoints rfl
  have sameGroup : origin.key.toList = origin.route.nodeGroupId :=
    String.toList_ofList
  unfold State.lookup ManagerCache.State.managerForGeneration
  rw [absent]
  simp only
  set fresh : State :=
    { state with
      cache :=
        { state.cache with
          nextManager := state.cache.nextManager + 1 }.give origin.key
            ⟨state.cache.nextManager, origin.snapshot.generation, endpoints⟩
      managers :=
        Function.update state.managers state.cache.nextManager
          (Manager.new origin.key endpoints)
      groupOf :=
        Function.update state.groupOf state.cache.nextManager
          origin.route.nodeGroupId } with made
  have extended : Extends state fresh := Extends.refl_of rfl rfl
  have groupOf :
      ∀ manager, manager < state.cache.nextManager →
        fresh.groupOf manager = state.groupOf manager := by
    intro manager known
    exact Function.update_of_ne (Nat.ne_of_lt known) _ _
  have kept :
      ∀ manager, manager < state.cache.nextManager →
        fresh.manager manager = state.manager manager := by
    intro manager known
    have different := Nat.ne_of_lt known
    unfold State.manager
    simp only [made, ManagerCache.State.give, ManagerCache.State.write,
      Function.update_of_ne different]
  have sound : fresh.Sound config := by
    refine ⟨?_, ⟨?_, ?_⟩, ?_⟩
    · exact sound.tables.later extended
        (sound.tables.current.later extended) rfl rfl rfl
    · intro supply listed
      obtain ⟨known, advertised⟩ := sound.supplied.pending supply listed
      refine ⟨Nat.lt_succ_of_lt known, ?_⟩
      rw [groupOf _ known]
      exact advertised
    · intro key entry found
      change (ManagerCache.State.give _ _ _).cached.lookup key = some entry
        at found
      rw [ManagerCache.State.lookup_give] at found
      split at found
      · next same =>
          cases found
          refine ⟨Nat.lt_succ_self _, ?_⟩
          rw [same, sameGroup]
          exact Function.update_self _ _ _
      · obtain ⟨known, group⟩ := sound.supplied.cached key entry found
        refine ⟨Nat.lt_succ_of_lt known, ?_⟩
        rw [groupOf _ known]
        exact group
    · intro other phase found
      refine (sound.phases other phase found).later extended ?_
      intro user manager _ _ serves
      refine ⟨Nat.lt_succ_of_lt serves.known, ?_, ?_⟩
      · rw [groupOf _ serves.known]
        exact serves.group
      · rw [kept _ serves.known]
        exact serves.within
  have within :
      Manager.Within (origin.Allows config)
        (fresh.manager state.cache.nextManager) := by
    have same :
        fresh.manager state.cache.nextManager =
          Manager.new origin.key endpoints := by
      unfold State.manager
      simp only [made, ManagerCache.State.give, ManagerCache.State.write,
        Function.update_self]
      rfl
    rw [same]
    exact Manager.within_new origin.key allowed
  have serves : fresh.Serves config origin state.cache.nextManager :=
    ⟨Nat.lt_succ_self _, Function.update_self _ _ _, within⟩
  refine sound.setPhase ?_ call
  refine serves.holding published rfl rfl ?_ ?_
  · intro other listed same
    cases same
  · intro endpoint reached
    cases reached

/-- `NodeSelector` offers what the snapshot advertises. -/
theorem selected_within (sound : state.Sound config) {snapshot : Snapshot}
    {group : Str} {fresh : Bool} {measurements : List NodeTlsProbeResult}
    {endpoints : List L3NodeEndpoint} {rankings : Rankings}
    (published : state.Published snapshot)
    (selected :
      selectEndpoints config state.rankings snapshot group fresh
        measurements = some (endpoints, rankings)) :
    (∀ endpoint ∈ endpoints,
        state.Advertised config snapshot.generation group endpoint) ∧
      RankingsWithin (state.Advertised config) rankings := by
  refine selectEndpoints_within sound.tables.rankings ?_ selected
  intro endpoint advertises
  exact published.advertised advertises

theorem Sound.select (sound : state.Sound config) {call : DispatchId}
    {origin : Routed} {fresh : Bool}
    {measurements : List NodeTlsProbeResult}
    (held : state.dispatches call = some (.routed origin))
    (stepped :
      state.select config call origin fresh measurements = some after) :
    after.Sound config := by
  have published := (sound.phases call _ held).snapshot origin rfl
  unfold State.select at stepped
  split at stepped
  · cases stepped
  · next endpoints rankings selected =>
      cases stepped
      obtain ⟨offered, within⟩ := selected_within sound published selected
      have ranked : State.Sound config { state with rankings := rankings } :=
        sound.later (Extends.refl_of rfl rfl)
          ⟨sound.tables.current, sound.tables.reconciling,
            sound.tables.probing, sound.tables.measured, within⟩
          rfl rfl rfl rfl
      refine ranked.setPhase ?_ call
      split
      · exact phaseSound_failed _
      · constructor
        · intro other found
          cases found
          exact published
        · intro other listed same
          cases same
          intro endpoint inList
          exact (offered endpoint inList).allows published
        · intro other manager _ uses
          cases uses
        · intro other endpoint _ reached
          cases reached

theorem Sound.probe (sound : state.Sound config) {snapshot : Snapshot}
    {group : NodeGroup} {groups later : List NodeGroup} {fresh : Bool}
    {measurements : List NodeTlsProbeResult}
    (held : state.probing = .measuring snapshot groups)
    (stepped :
      state.probe config snapshot group later fresh measurements =
        some after) :
    after.Sound config := by
  have published : state.Published snapshot := by
    apply sound.tables.probing
    rw [held]
    rfl
  unfold State.probe at stepped
  obtain ⟨⟨endpoints, rankings⟩, selected, rfl⟩ :=
    Option.map_eq_some_iff.mp stepped
  obtain ⟨offered, within⟩ := selected_within sound published selected
  refine sound.later (Extends.refl_of rfl rfl) ?_ rfl rfl rfl rfl
  refine ⟨sound.tables.current, sound.tables.reconciling, ?_, ?_, within⟩
  · intro other found
    cases found
    exact published
  · intro other measured listed rest same
    cases same
    exact offered

theorem Sound.applyProbe (sound : state.Sound config) {snapshot : Snapshot}
    {group : Str} {endpoints : List L3NodeEndpoint} {later : List NodeGroup}
    (held : state.probing = .measured snapshot group endpoints later)
    (undisturbed : state.Undisturbed config .applyProbe) :
    State.Sound config
      { state with
        cache :=
          state.cache.updateEndpointsForGeneration (String.ofList group)
            endpoints snapshot.generation
        probing := .measuring snapshot later } := by
  have published : state.Published snapshot := by
    apply sound.tables.probing
    rw [held]
    rfl
  have advertised :=
    sound.tables.measured snapshot group endpoints later held
  have given :
      State.Sound config
        { state with
          cache :=
            state.cache.updateEndpointsForGeneration (String.ofList group)
              endpoints snapshot.generation } := by
    rw [updateEndpointsForGeneration_eq]
    cases found : state.supplyFor (String.ofList group) endpoints
        snapshot.generation with
    | none => exact sound
    | some supply =>
        refine sound.supply found ?_ ?_
        · rw [String.toList_ofList]
          exact advertised
        · exact undisturbed.given supply (by simp [gives, held, found])
  refine given.later (Extends.refl_of rfl rfl) ?_ rfl rfl rfl rfl
  refine ⟨sound.tables.current, sound.tables.reconciling, ?_, ?_,
    sound.tables.rankings⟩
  · intro other found
    cases found
    exact published
  · intro other measured listed rest same
    cases same

theorem Sound.refresh (sound : state.Sound config) (table : ResourceTable)
    (unused : state.current.generation < maxGeneration) :
    (state.refresh table).Sound config := by
  have next :
      nextGeneration state.current.generation =
        state.current.generation + 1 :=
    Nat.min_eq_left unused
  have extended : Extends state (state.refresh table) := by
    constructor
    · change state.current.generation ≤
        nextGeneration state.current.generation
      rw [next]
      exact Nat.le_succ _
    · intro generation earlier
      change Function.update state.published
        (nextGeneration state.current.generation) table generation = _
      rw [next]
      exact Function.update_of_ne
        (Nat.ne_of_lt (Nat.lt_succ_of_le earlier)) _ _
  refine sound.later extended ?_ rfl rfl rfl rfl
  refine sound.tables.later extended ?_ rfl rfl rfl
  refine ⟨Nat.le_refl _, ?_⟩
  change table = Function.update state.published
    (nextGeneration state.current.generation) table
    (nextGeneration state.current.generation)
  rw [Function.update_self]

theorem start_sound (sound : state.Sound config) (packet : Bytes)
    (domain : Option Str) :
    state.PhaseSound config (start state.current packet domain) := by
  unfold start
  split
  · exact phaseSound_failed _
  · split
    · exact phaseSound_failed _
    · constructor
      · intro origin found
        cases found
        exact sound.tables.current
      · intro origin endpoints same
        cases same
      · intro origin manager _ uses
        cases uses
      · intro origin endpoint _ reached
        cases reached

/-- The dispatch goes on with its manager. -/
theorem Sound.goesOn (sound : state.Sound config) {call : DispatchId}
    {phase next : Phase} {origin : Routed} {manager : ManagerId}
    (held : state.dispatches call = some phase)
    (routed : phase.origin = some origin)
    (uses : phase.uses = some manager)
    (nextRouted : next.origin = some origin)
    (nextUses : next.uses = some manager)
    (endpoints :
      ∀ endpoint, next.endpoint = some endpoint →
        origin.Allows config endpoint) :
    (state.setPhase call next).Sound config := by
  have before := sound.phases call phase held
  refine sound.setPhase ?_ call
  refine (before.serves origin manager routed uses).holding
    (before.snapshot origin routed) nextRouted nextUses ?_ endpoints
  intro other listed same
  rw [same] at nextUses
  cases nextUses

theorem Sound.authorize (sound : state.Sound config) {call : DispatchId}
    {origin : Routed} {manager : ManagerId} {session : SessionRef}
    (held :
      state.dispatches call = some (.received origin manager session))
    (stepped :
      state.authorize call origin manager session = some after) :
    after.Sound config := by
  have serves := (sound.phases call _ held).serves origin manager rfl rfl
  unfold State.authorize at stepped
  split at stepped
  · cases stepped
  · next view found =>
      split at stepped
      · cases stepped
        exact sound.setPhase (phaseSound_failed _) call
      · split at stepped
        · cases stepped
        · next opened =>
            cases stepped
            refine sound.goesOn held rfl rfl rfl rfl ?_
            intro endpoint reached
            cases reached
            exact serves.within.sessions session view found
              (Bool.eq_false_iff.mpr opened)

theorem Sound.request (sound : state.Sound config) {call : DispatchId}
    {origin : Routed} {manager : ManagerId}
    (held : state.dispatches call = some (.holding origin manager))
    (stepped : state.request call origin manager = some after) :
    after.Sound config := by
  unfold State.request at stepped
  obtain ⟨called, moved, rfl⟩ := Option.map_eq_some_iff.mp stepped
  have managed := sound.manage moved (fun _ => trivial)
  refine managed.goesOn held rfl rfl rfl rfl ?_
  intro endpoint reached
  cases reached

theorem Sound.receive (sound : state.Sound config) {call : DispatchId}
    {origin : Routed} {manager : ManagerId} {request : Manager.CallId}
    (held :
      state.dispatches call = some (.requested origin manager request))
    (stepped : state.receive call origin manager request = some after) :
    after.Sound config := by
  unfold State.receive at stepped
  split at stepped
  · cases stepped
    refine sound.goesOn held rfl rfl rfl rfl ?_
    intro endpoint reached
    cases reached
  · cases stepped
    exact sound.setPhase (phaseSound_failed _) call
  · cases stepped

theorem Sound.send (sound : state.Sound config) {call : DispatchId}
    {origin : Routed} {manager : ManagerId} {session : SessionRef}
    {endpoint : L3NodeEndpoint}
    (held :
      state.dispatches call =
        some (.authorized origin manager session endpoint)) :
    (state.setPhase call (.sent origin session endpoint)).Sound config := by
  have before := sound.phases call _ held
  refine sound.setPhase ?_ call
  constructor
  · intro other found
    cases found
    exact before.snapshot origin rfl
  · intro other listed same
    cases same
  · intro other used _ uses
    cases uses
  · intro other reached found same
    cases found
    cases same
    exact before.endpoint origin endpoint rfl rfl

theorem Sound.drop (sound : state.Sound config) (call : DispatchId) :
    State.Sound config
      { state with
        dispatches := Function.update state.dispatches call none } := by
  have extended :
      Extends state
        { state with
          dispatches := Function.update state.dispatches call none } :=
    Extends.refl_of rfl rfl
  refine ⟨?_, sound.supplied.later extended rfl rfl, ?_⟩
  · exact sound.tables.later extended
      (sound.tables.current.later extended) rfl rfl rfl
  · intro other phase found
    change Function.update state.dispatches call none other = some phase
      at found
    rw [Function.update_apply] at found
    split at found
    · cases found
    · refine (sound.phases other phase found).later extended ?_
      intro origin manager _ _ serves
      exact serves.later rfl rfl rfl

theorem Sound.beginReconcile (sound : state.Sound config) :
    State.Sound config { state with reconciling := some state.current } := by
  refine sound.later (Extends.refl_of rfl rfl) ?_ rfl rfl rfl rfl
  refine ⟨sound.tables.current, ?_, sound.tables.probing,
    sound.tables.measured, sound.tables.rankings⟩
  intro snapshot found
  cases found
  exact sound.tables.current

/-- The node task begins a pass or ends it. -/
theorem Sound.setProbing (sound : state.Sound config) {probing : Probing}
    (published :
      ∀ snapshot, probing.snapshot = some snapshot →
        state.Published snapshot)
    (plain :
      ∀ snapshot group endpoints later,
        probing ≠ .measured snapshot group endpoints later) :
    State.Sound config { state with probing := probing } := by
  refine sound.later (Extends.refl_of rfl rfl) ?_ rfl rfl rfl rfl
  refine ⟨sound.tables.current, sound.tables.reconciling, published, ?_,
    sound.tables.rankings⟩
  intro snapshot group endpoints later same
  exact absurd same (plain snapshot group endpoints later)

theorem Sound.step {action : Action} (sound : state.Sound config)
    (undisturbed : state.Undisturbed config action)
    (stepped : state.step config action = some after) :
    after.Sound config := by
  cases action with
  | refresh table =>
      cases stepped
      exact sound.refresh table (undisturbed.numbered table rfl)
  | dispatch call packet domain =>
      simp only [State.step] at stepped
      split at stepped
      · cases stepped
      · cases stepped
        exact sound.setPhase (start_sound sound packet domain) call
  | select call fresh measurements =>
      simp only [State.step] at stepped
      split at stepped
      · next origin held => exact sound.select held stepped
      · cases stepped
  | lookup call =>
      simp only [State.step] at stepped
      split at stepped
      · next origin endpoints held =>
          cases stepped
          cases stored : state.cache.cached.lookup origin.key with
          | none => exact sound.lookup_fresh held stored
          | some entry =>
              have handed := sound.lookup_cached held stored undisturbed
              simpa only [State.lookup, stored] using handed
      · cases stepped
  | request call =>
      simp only [State.step] at stepped
      split at stepped
      · next origin manager held => exact sound.request held stepped
      · cases stepped
  | receive call =>
      simp only [State.step] at stepped
      split at stepped
      · next origin manager request held => exact sound.receive held stepped
      · cases stepped
  | authorize call =>
      simp only [State.step] at stepped
      split at stepped
      · next origin manager session held =>
          exact sound.authorize held stepped
      · cases stepped
  | send call =>
      simp only [State.step] at stepped
      split at stepped
      · next origin manager session endpoint held =>
          cases stepped
          exact sound.send held
      · cases stepped
  | retry call =>
      simp only [State.step] at stepped
      split at stepped
      · next origin manager session held =>
          cases stepped
          refine sound.goesOn held rfl rfl rfl rfl ?_
          intro endpoint reached
          cases reached
      · next origin manager session endpoint held =>
          cases stepped
          refine sound.goesOn held rfl rfl rfl rfl ?_
          intro endpoint reached
          cases reached
      · cases stepped
  | drop call =>
      cases stepped
      exact sound.drop call
  | beginReconcile =>
      simp only [State.step] at stepped
      split at stepped
      · cases stepped
      · split at stepped
        · cases stepped
          exact sound.beginReconcile
        · cases stepped
  | reconcile =>
      simp only [State.step] at stepped
      split at stepped
      · cases stepped
      · next snapshot held =>
          cases stepped
          exact sound.reconcile held
  | finishUpdate position =>
      simp only [State.step] at stepped
      obtain ⟨cache, finished, rfl⟩ := Option.map_eq_some_iff.mp stepped
      exact sound.finishUpdate undisturbed finished
  | beginProbe =>
      simp only [State.step] at stepped
      split at stepped
      · split at stepped
        · cases stepped
          refine sound.setProbing ?_ ?_
          · intro snapshot found
            cases found
            exact sound.tables.current
          · intro snapshot group endpoints later same
            cases same
        · cases stepped
      · cases stepped
  | probe fresh measurements =>
      simp only [State.step] at stepped
      split at stepped
      · cases stepped
        refine sound.setProbing ?_ ?_
        · intro snapshot found
          cases found
        · intro snapshot group endpoints later same
          cases same
      · next snapshot group later held => exact sound.probe held stepped
      · cases stepped
  | applyProbe =>
      simp only [State.step] at stepped
      split at stepped
      · next snapshot group endpoints later held =>
          cases stepped
          exact sound.applyProbe held undisturbed
      · cases stepped
  | manager manager action =>
      cases action with
      | updateEndpoints endpoints => cases stepped
      | _ =>
          simp only [State.step] at stepped
          obtain ⟨moved, next, rfl⟩ := Option.map_eq_some_iff.mp stepped
          exact sound.manage next (fun _ => trivial)

end

theorem sound_new (config : AtrustClientConfig) (table : ResourceTable) :
    (new table).Sound config where
  tables := by
    refine ⟨⟨Nat.le_refl _, rfl⟩, ?_, ?_, ?_, ?_⟩
    · intro snapshot found
      cases found
    · intro snapshot found
      cases found
    · intro snapshot group endpoints later found
      cases found
    · intro group ranked found
      cases found
  supplied := by
    constructor
    · intro supply listed
      cases listed
    · intro key entry found
      cases found
  phases := by
    intro call phase found
    cases found

end State

open State

/-- In every run in which no dispatch comes to use something of another
generation that its own does not advertise: when a packet was authorized, its
session was established to an endpoint that the generation which gave the
`appId` advertises for the node group, or that the configuration has in its
place. -/
theorem session_of_own_generation {config : AtrustClientConfig}
    {table : ResourceTable} {actions : List Action} {state : State}
    (undisturbed :
      Meets (step config) (Undisturbed config) (new table) actions)
    (ran : run (step config) (new table) actions = some state)
    (call : DispatchId) (phase : Phase) (origin : Routed)
    (endpoint : L3NodeEndpoint)
    (held : state.dispatches call = some phase)
    (routed : phase.origin = some origin)
    (authorized : phase.endpoint = some endpoint) :
    origin.snapshot.resources =
        state.published origin.snapshot.generation ∧
      Advertises config origin.snapshot.resources origin.route.nodeGroupId
        endpoint := by
  have sound : state.Sound config :=
    invariant_of_meets (Sound config) (sound_new config table)
      (fun _ _ _ holds met stepped => holds.step met stepped)
      undisturbed ran
  have phases := sound.phases call phase held
  exact ⟨(phases.snapshot origin routed).2,
    phases.endpoint origin endpoint routed authorized⟩

/-- The name `p` is in the node group `g`. -/
def oneName : ClientResources :=
  ⟨[], [{ anyFlowTo ['p'] ['a'] with nodeGroupId := ['g'] }]⟩

/-- The node group has one node. -/
def oneNode (address : Str) : ResourceTable where
  toClientResources := oneName
  nodeGroups := [⟨['g'], [⟨address, "domain".toList⟩]⟩]

def plainConfig : AtrustClientConfig where
  gateway := ⟨"gw", 443⟩
  measuresNodes := false
  endpointOverride := none
  endpointOverrideNodeGroupId := none

def vip : Ipv4Addr := ⟨10, 0, 0, 1⟩

/-- A UDP packet from the VIP to port 80. -/
def udpPacket : Bytes :=
  [0x45, 0, 0, 24, 0, 0, 0, 0, 64, 17, 0, 0, 10, 0, 0, 1, 10, 0, 0, 2,
    0, 1, 0, 80]

def routedTo (generation : Nat) (address : Str) : Routed where
  flow := ⟨.udp, vip, 1, ⟨10, 0, 0, 2⟩, 80⟩
  snapshot := .new generation (oneNode address)
  route := ⟨['a'], ['g'], false, false⟩

theorem matchDestination_oneName :
    (ResourceIndex.build oneName).matchDestination ['p'] 80 .udp =
      some (.domain
        { anyFlowTo ['p'] ['a'] with nodeGroupId := ['g'] }) := by
  have indexed :
      indexDomains oneName.domainResources =
        [⟨⟨['p'], false⟩,
          { anyFlowTo ['p'] ['a'] with nodeGroupId := ['g'] }⟩] := by
    decide
  have named : parseIpv4 (trim ['p']) = none := by
    decide
  simp only [ResourceIndex.matchDestination, named, ResourceIndex.matchDomain,
    ResourceIndex.build, indexed, sortByKey_singleton]
  decide

theorem start_oneNode (generation : Nat) (address : Str) :
    start (.new generation (oneNode address)) udpPacket (some ['p']) =
      .routed (routedTo generation address) := by
  have parsed :
      parseIpv4Flow udpPacket =
        .ok ⟨.udp, vip, 1, ⟨10, 0, 0, 2⟩, 80⟩ := by
    decide +kernel
  have routing :
      (Auth.ResourceCache.ResourceSnapshot.new generation
        (oneNode address)).routing = ResourceIndex.build oneName :=
    rfl
  simp only [start, parsed, routing, Option.getD_some, flowProtocol,
    matchDestination_oneName]
  rfl

/-- A dispatch of the packet reads its route. -/
theorem step_dispatch_oneNode {state : State} {call : DispatchId}
    {generation : Nat} {address : Str} (config : AtrustClientConfig)
    (unused : state.dispatches call = none)
    (current : state.current = .new generation (oneNode address)) :
    state.step config (.dispatch call udpPacket (some ['p'])) =
      some (state.setPhase call (.routed (routedTo generation address))) := by
  simp only [State.step, unused, current, start_oneNode]

theorem run_dispatch_oneNode :
    run (step plainConfig) (new (oneNode ['a']))
        [.dispatch 0 udpPacket (some ['p'])] =
      some ((new (oneNode ['a'])).setPhase 0
        (.routed (routedTo 1 ['a']))) := by
  rw [run, step_dispatch_oneNode plainConfig rfl rfl]
  rfl

/-- The manager connects and gives the session to its first call. -/
def connects : List Action :=
  [.request 0, .manager 0 (.advance 0), .manager 0 (.advance 0),
    .manager 0 (.advance 0), .manager 0 (.advance 0),
    .manager 0 (.advance 0), .manager 0 (.establish 0 (.ok vip)),
    .manager 0 (.advance 0), .manager 0 (.advance 0), .receive 0,
    .authorize 0]

/-- The steps that can disturb a dispatch. -/
def Action.disturbs : Action → Bool
  | .refresh _ => true
  | .lookup _ => true
  | .finishUpdate _ => true
  | .applyProbe => true
  | _ => false

theorem undisturbed_of_not_disturbs {config : AtrustClientConfig}
    {state : State} {action : Action} (plain : action.disturbs = false) :
    state.Undisturbed config action where
  numbered := by
    intro table same
    rw [same] at plain
    cases plain
  given := by
    intro supply found
    cases action <;> first | cases found | cases plain
  handed := by
    intro call same
    rw [same] at plain
    cases plain

/-- The table is refreshed in the middle of a dispatch, but nothing gives the
new endpoints to its manager. -/
theorem session_of_refreshed_generation :
    ∃ state,
      run (step plainConfig) (new (oneNode ['a']))
          ([.dispatch 0 udpPacket (some ['p'])] ++
            ([.select 0 false [], .lookup 0, .refresh (oneNode ['b'])] ++
              connects)) = some state ∧
        state.current.generation = 2 ∧
        Advertises plainConfig (routedTo 1 ['a']).snapshot.resources
          (routedTo 1 ['a']).route.nodeGroupId ⟨"a", 441⟩ := by
  apply exists_of_view
    (fun state => (state.current.generation, state.dispatches 0))
    (2, some (.authorized (routedTo 1 ['a']) 0 0 ⟨"a", 441⟩))
  · rw [run_append, run_dispatch_oneNode]
    rfl
  intro state ran seen
  obtain ⟨refreshed, authorized⟩ := Prod.mk.inj seen
  have undisturbed :
      Meets (step plainConfig) (Undisturbed plainConfig)
        (new (oneNode ['a']))
        ([Action.dispatch 0 udpPacket (some ['p'])] ++
          ([Action.select 0 false [], Action.lookup 0,
            Action.refresh (oneNode ['b'])] ++ connects)) := by
    refine meets_append ?_ run_dispatch_oneNode ?_
    · exact meets_cons (undisturbed_of_not_disturbs rfl)
        (step_dispatch_oneNode plainConfig rfl rfl) trivial
    · refine meets_cons (undisturbed_of_not_disturbs rfl) rfl ?_
      refine meets_cons ⟨?_, ?_, ?_⟩ rfl ?_
      · intro table same
        cases same
      · intro supply found
        cases found
      · intro call same origin endpoints held entry stored
        cases same
        cases held
        cases stored
      refine meets_cons ⟨?_, ?_, ?_⟩ rfl ?_
      · intro table same
        exact (show 1 < maxGeneration by decide)
      · intro supply found
        cases found
      · intro call same
        cases same
      · apply meets_of_forall
        intro reached action listed
        apply undisturbed_of_not_disturbs
        have plain : connects.all fun action => !action.disturbs := rfl
        have own := List.all_eq_true.mp plain action listed
        rw [Bool.not_eq_true'] at own
        exact own
  exact ⟨refreshed,
    (session_of_own_generation undisturbed ran 0 _ (routedTo 1 ['a'])
      ⟨"a", 441⟩ authorized rfl rfl).2⟩

theorem not_advertises_oneNode :
    ¬Advertises plainConfig (oneNode ['a']) ['g'] ⟨"b", 441⟩ := by
  have group :
      resolveNodeGroups (oneNode ['a']) plainConfig.gateway =
        [⟨['g'], [⟨"a", 441⟩]⟩] := by
    rfl
  intro advertised
  rw [Advertises, if_neg (by decide), group] at advertised
  obtain ⟨resolved, member, -, listed⟩ := advertised
  cases List.mem_singleton.mp member
  exact absurd (List.mem_singleton.mp listed) (by decide)

/-- A dispatch has its manager, and then the table is refreshed and another
dispatch updates the endpoints: the packet of generation `1` is authorized on
a session to the node of generation `2`. -/
theorem refresh_mid_dispatch_mixes_generations :
    ∃ state,
      run (step plainConfig) (new (oneNode ['a']))
          ([.dispatch 0 udpPacket (some ['p'])] ++
            [.select 0 false [], .lookup 0, .refresh (oneNode ['b'])] ++
            [.dispatch 1 udpPacket (some ['p'])] ++
            [.select 1 false [], .lookup 1] ++ connects) = some state ∧
        state.dispatches 0 =
          some (.authorized (routedTo 1 ['a']) 0 0 ⟨"b", 441⟩) ∧
        ¬Advertises plainConfig (routedTo 1 ['a']).snapshot.resources
          (routedTo 1 ['a']).route.nodeGroupId ⟨"b", 441⟩ := by
  obtain ⟨middle, second, unused, current, last⟩ :
      ∃ middle,
        run (step plainConfig) (new (oneNode ['a']))
            ([Action.dispatch 0 udpPacket (some ['p'])] ++
              [Action.select 0 false [], Action.lookup 0,
                Action.refresh (oneNode ['b'])]) =
          some middle ∧
        middle.dispatches 1 = none ∧
        middle.current = .new 2 (oneNode ['b']) ∧
        ∃ state,
          run (step plainConfig)
              (middle.setPhase 1 (.routed (routedTo 2 ['b'])))
              ([Action.select 1 false [], Action.lookup 1] ++ connects) =
            some state ∧
            state.dispatches 0 =
              some (.authorized (routedTo 1 ['a']) 0 0 ⟨"b", 441⟩) := by
    rw [run_append, run_dispatch_oneNode]
    exact ⟨_, rfl, rfl, rfl, _, rfl, rfl⟩
  obtain ⟨state, ran, authorized⟩ := last
  refine ⟨state, ?_, authorized, not_advertises_oneNode⟩
  rw [List.append_assoc, List.append_assoc, run_append, second,
    Option.bind_some, run_append, run,
    step_dispatch_oneNode plainConfig unused current]
  exact ran

end HermesAtrust.Client.Dispatch
