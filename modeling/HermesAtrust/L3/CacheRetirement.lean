import HermesAtrust.L3.ManagerCache
import HermesAtrust.L3.ManagerRetirement
import Mathlib.Data.List.Perm.Basic

/-!
# Retirement of a cache of session managers

Model of `L3SessionManagerCache` with its `retired` flag and the managers in
it.  A lookup has the lock of the cache until it has read the flag, and if the
flag is set until it has retired the manager that it returns.  `retire` of the
cache sets the flag, lists the managers under the lock, and then retires them
one after the other, in the order of a hash table.

A manager is in the hands of the callers from the return of its first lookup
on.  From then on its calls advance as in the model of one manager; before that
only calls of its `retire` do.
-/

namespace HermesAtrust.L3.CacheRetirement

open HermesAtrust.Collections HermesAtrust.Concurrency
open HermesAtrust.L3.Manager (CallId OnlyTold)
open HermesAtrust.L3.ManagerCache (ManagerId)

/-- Position of a call among the calls made on the cache. -/
abbrev CacheCallId := Nat

/-- Where a call of `manager_for_generation` stands: before the lock, with the
lock and a cached manager, with the lock and a `retire` of that manager, or at
its end. -/
inductive LookupPhase where
  | locking (group : String) (endpoints : List L3NodeEndpoint)
      (generation : Nat)
  | checking (manager : ManagerId)
  | retiring (manager : ManagerId) (call : CallId)
  | returned (manager : ManagerId)

/-- Where a call of `retire` stands: before the flag, before the list of the
managers, between two managers or with one, or at its end. -/
inductive RetirePhase where
  | starting
  | listing
  | walking (remaining : List ManagerId)
  | waiting (manager : ManagerId) (call : CallId) (remaining : List ManagerId)
  | returned

inductive CacheCall where
  | managerForGeneration (phase : LookupPhase)
  | retire (phase : RetirePhase)

/-- The cache, its flag and its managers.  `holder` is the lookup that has the
lock; what takes the lock for one step only leaves it free.  `handed` says which
managers are in the hands of the callers.  The endpoints of the managers are
those in the model of the cache. -/
structure State where
  cache : ManagerCache.State
  retired : Bool
  holder : Option CacheCallId
  managers : ManagerId → Manager.State
  handed : ManagerId → Bool
  calls : CacheCallId → Option CacheCall
  nextCall : CacheCallId

/-- An empty cache. -/
def new : State where
  cache := ManagerCache.new
  retired := false
  holder := none
  managers := fun _ => Manager.new "" []
  handed := fun _ => false
  calls := fun _ => none
  nextCall := 0

/-- What can happen next.  A call that goes on to the next manager of a list
picks it by its position. -/
inductive Action where
  | managerForGeneration (group : String) (endpoints : List L3NodeEndpoint)
      (generation : Nat)
  | retire
  | advance (id : CacheCallId) (position : Nat)
  | drain (id : CacheCallId)
  | updateEndpointsForGeneration (group : String)
      (endpoints : List L3NodeEndpoint) (generation : Nat)
  | reconcile (generation : Nat)
      (groups : HashTable String (List L3NodeEndpoint))
  | finishUpdate (position : Nat)
  | manager (manager : ManagerId) (action : Manager.Action)

namespace State

/-- A manager with the endpoints that it was given last. -/
def manager (state : State) (manager : ManagerId) : Manager.State :=
  { state.managers manager with endpoints := state.cache.endpoints manager }

def setCall (state : State) (id : CacheCallId) (call : CacheCall) : State :=
  { state with calls := Function.update state.calls id (some call) }

/-- A step of one manager. -/
def moveManager (state : State) (manager : ManagerId)
    (action : Manager.Action) : Option State :=
  (Manager.next (state.manager manager) action).map fun moved =>
    { state with managers := Function.update state.managers manager moved }

/-- The call of `retire` on a manager has returned. -/
def hasRetired (state : State) (manager : ManagerId) (call : CallId) : Bool :=
  match (state.managers manager).calls call with
  | some (.retire .returned) => true
  | _ => false

/-- What the callers and the calls of the cache can do with a manager.  Its
endpoints are updated by the cache. -/
def permits (state : State) (manager : ManagerId) : Manager.Action → Bool
  | .updateEndpoints _ => false
  | .advance call =>
      match (state.managers manager).calls call with
      | some (.retire _) => true
      | _ => state.handed manager
  | _ => state.handed manager

/-- The managers in the cache. -/
def listed (state : State) : List ManagerId :=
  (HashTable.pairs state.cache.cached).map fun cached => cached.2.manager

/-- A lookup puts the manager that it finds or makes into the hands of its
caller and releases the lock. -/
def hand (state : State) (id : CacheCallId) (manager : ManagerId) : State :=
  { state with
      holder := none
      handed := Function.update state.handed manager true }.setCall id
    (.managerForGeneration (.returned manager))

/-- `manager_for_generation`, up to the flag: a manager is found or made. -/
def findManager (state : State) (id : CacheCallId) (group : String)
    (endpoints : List L3NodeEndpoint) (generation : Nat) : State :=
  let cache := state.cache.managerForGeneration group endpoints generation
  match state.cache.cached.lookup group with
  | some entry =>
      { state with cache := cache, holder := some id }.setCall id
        (.managerForGeneration (.checking entry.manager))
  | none =>
      let manager := state.cache.nextManager
      { state with
          cache := cache
          holder := some id
          managers :=
            Function.update state.managers manager
              (Manager.new group endpoints) }.setCall id
        (.managerForGeneration (.checking manager))

/-- `manager_for_generation`. -/
def advanceLookup (state : State) (id : CacheCallId) :
    LookupPhase → Option State
  | .locking group endpoints generation =>
      match state.holder with
      | none => some (state.findManager id group endpoints generation)
      | some _ => none
  | .checking manager =>
      if state.retired then
        (state.moveManager manager (.call .retire)).map fun asked =>
          asked.setCall id
            (.managerForGeneration
              (.retiring manager (state.managers manager).nextCall))
      else
        some (state.hand id manager)
  | .retiring manager call =>
      if state.hasRetired manager call then
        some (state.hand id manager)
      else
        none
  | .returned _ => none

/-- `retire`. -/
def advanceRetire (state : State) (id : CacheCallId) (position : Nat) :
    RetirePhase → Option State
  | .starting =>
      some ({ state with retired := true }.setCall id (.retire .listing))
  | .listing =>
      match state.holder with
      | none => some (state.setCall id (.retire (.walking state.listed)))
      | some _ => none
  | .walking [] => some (state.setCall id (.retire .returned))
  | .walking remaining =>
      match remaining[position]? with
      | none => none
      | some manager =>
          (state.moveManager manager (.call .retire)).map fun asked =>
            asked.setCall id
              (.retire
                (.waiting manager (state.managers manager).nextCall
                  (remaining.eraseIdx position)))
  | .waiting manager call remaining =>
      if state.hasRetired manager call then
        some (state.setCall id (.retire (.walking remaining)))
      else
        none
  | .returned => none

/-- One step of a call on the cache. -/
def advance (state : State) (id : CacheCallId) (position : Nat) :
    Option State :=
  match state.calls id with
  | none => none
  | some (.managerForGeneration phase) => state.advanceLookup id phase
  | some (.retire phase) => state.advanceRetire id position phase

/-- `close` behind its `retire`: the managers leave the cache, and what it goes
on to do are calls of `close` on each of them. -/
def drain (state : State) (id : CacheCallId) : Option State :=
  match state.holder, state.calls id with
  | none, some (.retire .returned) =>
      some { state with cache := { state.cache with cached := ∅ } }
  | _, _ => none

/-- A step of the cache that takes the lock, if it does, for that step only. -/
def stepCache (state : State) (action : ManagerCache.Action) : Option State :=
  (state.cache.step action).map fun cache => { state with cache := cache }

def call (state : State) (call : CacheCall) : State :=
  { state with nextCall := state.nextCall + 1 }.setCall state.nextCall call

end State

/-- The state after an action, if it can happen.  Behind the lock `reconcile`
retires and closes the managers that it has removed, which are in the hands of
a caller then. -/
def next (state : State) : Action → Option State
  | .managerForGeneration group endpoints generation =>
      some
        (state.call (.managerForGeneration
          (.locking group endpoints generation)))
  | .retire => some (state.call (.retire .starting))
  | .advance id position => state.advance id position
  | .drain id => state.drain id
  | .updateEndpointsForGeneration group endpoints generation =>
      match state.holder with
      | none =>
          state.stepCache
            (.updateEndpointsForGeneration group endpoints generation)
      | some _ => none
  | .reconcile generation groups =>
      match state.holder with
      | none => state.stepCache (.reconcile generation groups)
      | some _ => none
  | .finishUpdate position => state.stepCache (.finishUpdate position)
  | .manager manager action =>
      if state.permits manager action then
        state.moveManager manager action
      else
        none

/-- Every `retire` of a manager that finds its lock taken may return at once,
as in the model of one manager. -/
def RetiresCleanly (state : State) : Action → Prop
  | .manager manager action =>
      Manager.RetiresCleanly (state.manager manager) action
  | _ => True

/-! ## One manager -/

/-- No caller has come to the manager: it has no session, and no calls but
those of `retire`. -/
structure Unused (manager : Manager.State) : Prop where
  session : manager.session = none
  retires :
    ∀ id call, manager.calls id = some call → ∃ phase, call = .retire phase

section Manager

variable {manager after : Manager.State} {id : CallId}

theorem unused_new (nodeGroupId : String) (endpoints : List L3NodeEndpoint) :
    Unused (Manager.new nodeGroupId endpoints) :=
  ⟨rfl, nofun⟩

/-- A call that is moved on is still one of `retire`. -/
theorem Unused.of_update {phase : Manager.RetirePhase} (unused : Unused manager)
    (session : after.session = manager.session)
    (calls :
      after.calls = Function.update manager.calls id (some (.retire phase))) :
    Unused after where
  session := session.trans unused.session
  retires other call found := by
    rw [calls, Function.update_apply] at found
    split at found
    · exact ⟨phase, (Option.some.inj found).symm⟩
    · exact unused.retires other call found

theorem Unused.call_retire (unused : Unused manager)
    (stepped : Manager.next manager (.call .retire) = some after) :
    Unused after := by
  cases stepped
  exact unused.of_update rfl rfl

theorem Unused.advance {phase : Manager.RetirePhase} (unused : Unused manager)
    (called : manager.calls id = some (.retire phase))
    (stepped : Manager.next manager (.advance id) = some after) :
    Unused after := by
  simp only [Manager.next, Manager.State.advance, called] at stepped
  cases phase with
  | starting =>
      cases stepped
      exact unused.of_update rfl rfl
  | tryingLock =>
      simp only [Manager.State.advanceRetire] at stepped
      split at stepped
      · cases stepped
        exact unused.of_update rfl rfl
      · cases stepped
        exact unused.of_update rfl rfl
  | holding =>
      simp only [Manager.State.advanceRetire, unused.session] at stepped
      cases stepped
      exact unused.of_update rfl rfl
  | returned => cases stepped

/-- A `retire` leaves nothing to close of a manager that nobody has used,
whatever it finds. -/
theorem Unused.settled (unused : Unused manager)
    (guarded : Manager.Guarded manager)
    (returned : manager.calls id = some (.retire .returned)) :
    Manager.Settled manager where
  retired := guarded.flagged id _ returned rfl
  stored session stored := by
    rw [unused.session] at stored
    cases stored
  storeless other call found := by
    obtain ⟨phase, rfl⟩ := unused.retires other call found
    rfl

theorem Unused.onlyTold (unused : Unused manager)
    (guarded : Manager.Guarded manager) : OnlyTold manager := by
  constructor
  · intro session stored
    rw [unused.session] at stored
    cases stored
  · intro action later caller session stepped handed isNew
    rcases Manager.handsOut_cases guarded stepped handed isNew with
      stored | ⟨other, call, found, storing⟩
    · rw [unused.session] at stored
      cases stored
    · obtain ⟨phase, rfl⟩ := unused.retires other call found
      cases storing

theorem surrounds_endpoints (manager : Manager.State)
    (endpoints : List L3NodeEndpoint) :
    Manager.Surrounds manager { manager with endpoints := endpoints } :=
  ⟨fun _ _ found => found, Manager.heapGrows_of_eq rfl rfl, rfl, rfl,
    fun _ _ _ held => held⟩

end Manager

/-! ## The steps of the cache -/

/-- The managers that a call is still concerned with. -/
def CacheCall.uses : CacheCall → List ManagerId
  | .managerForGeneration (.checking manager) => [manager]
  | .managerForGeneration (.retiring manager _) => [manager]
  | .retire (.walking remaining) => remaining
  | .retire (.waiting manager _ remaining) => manager :: remaining
  | _ => []

/-- The flag is set. -/
def CacheCall.flagged : CacheCall → Bool
  | .retire .starting => false
  | .retire _ => true
  | _ => false

/-- The managers are listed. -/
def CacheCall.walks : CacheCall → Bool
  | .retire (.walking _) => true
  | .retire (.waiting _ _ _) => true
  | .retire .returned => true
  | _ => false

/-- A `retire` of the manager has returned. -/
def Retired (state : State) (manager : ManagerId) : Prop :=
  ∃ call, (state.managers manager).calls call = some (.retire .returned)

/-- The managers are made one after the other, nobody has used one before its
lookup has returned, and behind the first step of `retire` the flag is set. -/
structure Sound (state : State) : Prop where
  guarded : ∀ manager, Manager.Guarded (state.managers manager)
  unused :
    ∀ manager, state.handed manager = false → Unused (state.managers manager)
  blank :
    ∀ manager, state.cache.nextManager ≤ manager →
      state.managers manager = Manager.new "" [] ∧
        state.handed manager = false
  known : ∀ manager ∈ state.listed, manager < state.cache.nextManager
  used :
    ∀ id call, state.calls id = some call →
      ∀ manager ∈ call.uses, manager < state.cache.nextManager
  flagged :
    ∀ id call, state.calls id = some call → call.flagged →
      state.retired = true

/-- What a step does to one manager. -/
inductive ManagerMoves (state after : State) (action : Action)
    (manager : ManagerId) : Prop where
  | kept : after.managers manager = state.managers manager →
      ManagerMoves state after action manager
  | made (group : String) (endpoints : List L3NodeEndpoint) :
      manager = state.cache.nextManager →
        manager < after.cache.nextManager →
        after.managers manager = Manager.new group endpoints →
        ManagerMoves state after action manager
  | moved (taken : Manager.Action) :
      manager < state.cache.nextManager →
        Manager.next (state.manager manager) taken =
          some (after.managers manager) →
        (taken = .call .retire ∨
          action = .manager manager taken ∧
            state.permits manager taken = true) →
        ManagerMoves state after action manager

/-- What a call of the cache may go on to.  A `retire` has all managers of the
cache before it, or those that it had and has not retired. -/
structure Follows (state after : State) (call : CacheCall) : Prop where
  used : ∀ manager ∈ call.uses, manager < after.cache.nextManager
  flagged : call.flagged → after.retired = true
  walks :
    call.walks →
      (∀ manager ∈ after.listed, manager ∈ call.uses) ∨
        ∃ id old, state.calls id = some old ∧ old.walks ∧
          ∀ manager ∈ old.uses,
            manager ∈ call.uses ∨ Retired state manager

/-- What a step can change. -/
structure Change (state after : State) (action : Action) : Prop where
  grows : state.cache.nextManager ≤ after.cache.nextManager
  retired : state.retired = true → after.retired = true
  listed :
    ∀ manager ∈ after.listed, manager ∈ state.listed ∨
      (manager = state.cache.nextManager ∧
        manager < after.cache.nextManager)
  managers : ∀ manager, ManagerMoves state after action manager
  kept :
    ∀ manager, state.handed manager = true → after.handed manager = true
  handed :
    ∀ manager, after.handed manager = true →
      state.handed manager = true ∨
        (manager < state.cache.nextManager ∧
          after.managers manager = state.managers manager ∧
          (state.retired = true → Retired state manager))
  calls :
    ∀ id call, after.calls id = some call →
      state.calls id = some call ∨ Follows state after call

section Steps

variable {state after : State} {action : Action}

theorem mem_listed {manager : ManagerId} :
    manager ∈ state.listed ↔
      ∃ group entry, state.cache.cached.lookup group = some entry ∧
        entry.manager = manager := by
  rw [State.listed, List.mem_map]
  constructor
  · rintro ⟨⟨group, entry⟩, stored, rfl⟩
    exact ⟨group, entry, HashTable.mem_pairs.mp stored, rfl⟩
  · rintro ⟨group, entry, stored, rfl⟩
    exact ⟨(group, entry), HashTable.mem_pairs.mpr stored, rfl⟩

theorem hasRetired_eq_true {manager : ManagerId} {call : CallId}
    (returned : state.hasRetired manager call = true) :
    Retired state manager := by
  refine ⟨call, ?_⟩
  unfold State.hasRetired at returned
  split at returned
  · assumption
  · cases returned

/-- Before a manager is in the hands of a caller, only calls of `retire` on it
advance. -/
theorem advance_of_permits {manager : ManagerId} {taken : Manager.Action}
    (permitted : state.permits manager taken = true)
    (unhanded : state.handed manager = false) :
    ∃ call phase, taken = .advance call ∧
      (state.managers manager).calls call = some (.retire phase) := by
  cases taken with
  | advance call =>
      simp only [State.permits, unhanded] at permitted
      split at permitted
      · rename_i phase called
        exact ⟨call, phase, rfl, called⟩
      · cases permitted
  | updateEndpoints endpoints => cases permitted
  | _ =>
      simp only [State.permits, unhanded] at permitted
      cases permitted

theorem guarded_manager (sound : Sound state) (manager : ManagerId) :
    Manager.Guarded (state.manager manager) :=
  (surrounds_endpoints _ _).guarded (sound.guarded manager)

theorem Change.guarded (change : Change state after action)
    (sound : Sound state) (manager : ManagerId) :
    Manager.Guarded (after.managers manager) := by
  cases change.managers manager with
  | kept same => exact same ▸ sound.guarded manager
  | made group endpoints isNext inside same =>
      exact same ▸ Manager.guarded_new group endpoints
  | moved taken isMade stepped origin =>
      exact Manager.guarded_next (guarded_manager sound manager) stepped

theorem Change.unused (change : Change state after action)
    (sound : Sound state) {manager : ManagerId}
    (unhanded : state.handed manager = false) :
    Unused (after.managers manager) := by
  have before := sound.unused manager unhanded
  cases change.managers manager with
  | kept same => exact same ▸ before
  | made group endpoints isNext inside same =>
      exact same ▸ unused_new group endpoints
  | moved taken isMade stepped origin =>
      have here : Unused (state.manager manager) :=
        ⟨before.session, before.retires⟩
      rcases origin with rfl | ⟨-, permitted⟩
      · exact here.call_retire stepped
      · obtain ⟨call, phase, rfl, called⟩ :=
          advance_of_permits permitted unhanded
        exact here.advance called stepped

/-- What is retired for good stays so. -/
theorem Change.settled (change : Change state after action)
    (sound : Sound state) {manager : ManagerId}
    (settled : Manager.Settled (state.managers manager)) :
    Manager.Settled (after.managers manager) := by
  cases change.managers manager with
  | kept same => exact same ▸ settled
  | made group endpoints isNext inside same =>
      have retired := settled.retired
      rw [(sound.blank manager (Nat.le_of_eq isNext.symm)).1] at retired
      cases retired
  | moved taken isMade stepped origin =>
      exact Manager.settled_next (guarded_manager sound manager)
        ((surrounds_endpoints _ _).settled settled) stepped

theorem Change.unhanded (change : Change state after action)
    {manager : ManagerId} (unhanded : after.handed manager = false) :
    state.handed manager = false := by
  rw [← Bool.not_eq_true] at unhanded ⊢
  exact fun handed => unhanded (change.kept manager handed)

/-- A manager that is yet to be made is in nobody's hands. -/
theorem Change.unhanded_of_le (change : Change state after action)
    (sound : Sound state) {manager : ManagerId}
    (beyond : state.cache.nextManager ≤ manager) :
    after.handed manager = false := by
  rw [← Bool.not_eq_true]
  intro handed
  rcases change.handed manager handed with already | ⟨isMade, -⟩
  · rw [(sound.blank manager beyond).2] at already
    cases already
  · exact absurd isMade (Nat.not_lt_of_le beyond)

theorem Change.sound (change : Change state after action)
    (sound : Sound state) : Sound after where
  guarded := change.guarded sound
  unused manager unhanded := change.unused sound (change.unhanded unhanded)
  blank manager beyond := by
    have before := change.grows.trans beyond
    refine ⟨?_, change.unhanded_of_le sound before⟩
    cases change.managers manager with
    | kept same => rw [same, (sound.blank manager before).1]
    | made group endpoints isNext inside same =>
        exact absurd inside (Nat.not_lt_of_le beyond)
    | moved taken isMade stepped origin =>
        exact absurd isMade (Nat.not_lt_of_le before)
  known manager isListed := by
    rcases change.listed manager isListed with earlier | ⟨-, isMade⟩
    · exact (sound.known manager earlier).trans_le change.grows
    · exact isMade
  used id call found manager isUsed := by
    rcases change.calls id call found with earlier | follows
    · exact (sound.used id call earlier manager isUsed).trans_le change.grows
    · exact follows.used manager isUsed
  flagged id call found isFlagged := by
    rcases change.calls id call found with earlier | follows
    · exact change.retired (sound.flagged id call earlier isFlagged)
    · exact follows.flagged isFlagged

/-! ### What each step changes -/

theorem calls_of_update {id : CacheCallId} {call : CacheCall}
    (calls : after.calls = Function.update state.calls id (some call))
    (follows : Follows state after call) :
    ∀ other found, after.calls other = some found →
      state.calls other = some found ∨ Follows state after found := by
  intro other found isFound
  rw [calls, Function.update_apply] at isFound
  split at isFound
  · cases isFound
    exact .inr follows
  · exact .inl isFound

/-- A call of the cache goes on, and nothing else happens. -/
theorem change_call {id : CacheCallId} {call : CacheCall}
    (cache : after.cache = state.cache)
    (managers : after.managers = state.managers)
    (handed : after.handed = state.handed)
    (retired : state.retired = true → after.retired = true)
    (calls : after.calls = Function.update state.calls id (some call))
    (follows : Follows state after call) : Change state after action where
  grows := by rw [cache]
  retired := retired
  listed manager isListed := by
    rw [State.listed, cache] at isListed
    exact .inl isListed
  managers manager := .kept (by rw [managers])
  kept manager isHanded := by rw [handed, isHanded]
  handed manager isHanded := .inl (by rw [← handed, isHanded])
  calls := calls_of_update calls follows

/-- A manager that has been made makes a step. -/
theorem change_move {manager : ManagerId} {taken : Manager.Action}
    {moved : Manager.State} (isMade : manager < state.cache.nextManager)
    (stepped : Manager.next (state.manager manager) taken = some moved)
    (origin :
      taken = .call .retire ∨
        action = .manager manager taken ∧
          state.permits manager taken = true)
    (cache : after.cache = state.cache)
    (managers :
      after.managers = Function.update state.managers manager moved)
    (handed : after.handed = state.handed)
    (retired : after.retired = state.retired)
    (calls :
      ∀ id call, after.calls id = some call →
        state.calls id = some call ∨ Follows state after call) :
    Change state after action where
  grows := by rw [cache]
  retired set := by rw [retired, set]
  listed other isListed := by
    rw [State.listed, cache] at isListed
    exact .inl isListed
  managers other := by
    by_cases same : other = manager
    · subst same
      refine .moved taken isMade ?_ origin
      rw [managers, Function.update_self, stepped]
    · exact .kept (by rw [managers, Function.update_of_ne same])
  kept other isHanded := by rw [handed, isHanded]
  handed other isHanded := .inl (by rw [← handed, isHanded])
  calls := calls

/-- A lookup returns its manager, which has been retired if the flag is
set. -/
theorem change_hand {id : CacheCallId} {manager : ManagerId}
    (isMade : manager < state.cache.nextManager)
    (retired : state.retired = true → Retired state manager) :
    Change state (state.hand id manager) action where
  grows := Nat.le_refl _
  retired set := set
  listed other isListed := .inl isListed
  managers other := .kept rfl
  kept other isHanded := by
    change Function.update state.handed manager true other = true
    rw [Function.update_apply]
    split
    · rfl
    · exact isHanded
  handed other isHanded := by
    change Function.update state.handed manager true other = true at isHanded
    by_cases same : other = manager
    · subst same
      exact .inr ⟨isMade, rfl, retired⟩
    · rw [Function.update_of_ne same] at isHanded
      exact .inl isHanded
  calls := calls_of_update rfl ⟨nofun, nofun, nofun⟩

/-- What a step of the cache does to its groups. -/
theorem listed_of_step {cache : ManagerCache.State}
    {taken : ManagerCache.Action}
    (stepped : state.cache.step taken = some cache) :
    state.cache.nextManager ≤ cache.nextManager ∧
      ∀ group entry, cache.cached.lookup group = some entry →
        entry.manager ∈ state.listed ∨
          (entry.manager = state.cache.nextManager ∧
            entry.manager < cache.nextManager) := by
  have listed {group : String} {entry : ManagerCache.CachedManager}
      (found : state.cache.cached.lookup group = some entry) :
      entry.manager ∈ state.listed :=
    mem_listed.mpr ⟨group, entry, found, rfl⟩
  rcases ManagerCache.State.step_cases stepped with
    rfl | ⟨changed, old, supply, stored, same, newer, rfl⟩ |
      ⟨changed, endpoints, generation, -, absent, rfl⟩ |
      ⟨generation, groups, -, rfl⟩ | ⟨position, -, finished⟩
  · exact ⟨Nat.le_refl _, fun group entry found => .inl (listed found)⟩
  · refine ⟨Nat.le_refl _, ?_⟩
    intro group entry found
    rw [ManagerCache.State.lookup_give] at found
    split at found
    · cases found
      left
      change supply.manager ∈ state.listed
      rw [same]
      exact listed stored
    · exact .inl (listed found)
  · refine ⟨Nat.le_succ _, ?_⟩
    intro group entry found
    rw [ManagerCache.State.lookup_give] at found
    split at found
    · cases found
      exact .inr ⟨rfl, Nat.lt_succ_self _⟩
    · exact .inl (listed found)
  · refine ⟨Nat.le_refl _, ?_⟩
    intro group entry found
    obtain ⟨old, stored, same, -⟩ := ManagerCache.State.lookup_reconcile found
    rw [same]
    exact .inl (listed stored)
  · obtain ⟨supply, -, rfl⟩ := ManagerCache.State.finishUpdate_eq_some finished
    exact ⟨Nat.le_refl _, fun group entry found => .inl (listed found)⟩

theorem change_stepCache {taken : ManagerCache.Action}
    (stepped : state.stepCache taken = some after) :
    Change state after action := by
  obtain ⟨cache, isStep, rfl⟩ := Option.map_eq_some_iff.mp stepped
  obtain ⟨grows, listed⟩ := listed_of_step isStep
  exact
    { grows := grows
      retired := fun set => set
      listed := by
        intro manager isListed
        obtain ⟨group, entry, found, rfl⟩ := mem_listed.mp isListed
        exact listed group entry found
      managers := fun _ => .kept rfl
      kept := fun _ isHanded => isHanded
      handed := fun _ isHanded => .inl isHanded
      calls := fun _ _ found => .inl found }

theorem change_drain {id : CacheCallId}
    (stepped : state.drain id = some after) : Change state after action := by
  unfold State.drain at stepped
  split at stepped
  · cases stepped
    exact
      { grows := Nat.le_refl _
        retired := fun set => set
        listed := by
          intro manager isListed
          obtain ⟨group, entry, found, -⟩ := mem_listed.mp isListed
          cases found
        managers := fun _ => .kept rfl
        kept := fun _ isHanded => isHanded
        handed := fun _ isHanded => .inl isHanded
        calls := fun _ _ found => .inl found }
  · cases stepped

theorem change_findManager (sound : Sound state) (id : CacheCallId)
    (group : String) (endpoints : List L3NodeEndpoint) (generation : Nat) :
    Change state (state.findManager id group endpoints generation) action := by
  obtain ⟨grows, listed⟩ :=
    @listed_of_step state _
      (.managerForGeneration group endpoints generation) rfl
  unfold State.findManager
  cases found : state.cache.cached.lookup group with
  | some entry =>
      have isMade : entry.manager < state.cache.nextManager :=
        sound.known _ (mem_listed.mpr ⟨group, entry, found, rfl⟩)
      refine
        { grows := grows
          retired := fun set => set
          listed := ?_
          managers := fun _ => .kept rfl
          kept := fun _ isHanded => isHanded
          handed := fun _ isHanded => .inl isHanded
          calls := calls_of_update rfl ⟨?_, ?_, ?_⟩ }
      · intro manager isListed
        obtain ⟨other, stored, isStored, rfl⟩ := mem_listed.mp isListed
        exact listed other stored isStored
      · intro manager isUsed
        rw [List.mem_singleton.mp isUsed]
        exact isMade.trans_le grows
      · intro impossible
        cases impossible
      · intro impossible
        cases impossible
  | none =>
      have isNext :
          state.cache.nextManager <
            (state.cache.managerForGeneration group endpoints
              generation).nextManager := by
        rw [ManagerCache.State.managerForGeneration, found]
        exact Nat.lt_succ_self _
      refine
        { grows := grows
          retired := fun set => set
          listed := ?_
          managers := ?_
          kept := fun _ isHanded => isHanded
          handed := fun _ isHanded => .inl isHanded
          calls := calls_of_update rfl ⟨?_, ?_, ?_⟩ }
      · intro manager isListed
        obtain ⟨other, stored, isStored, rfl⟩ := mem_listed.mp isListed
        exact listed other stored isStored
      · intro manager
        by_cases same : manager = state.cache.nextManager
        · subst same
          exact .made group endpoints rfl isNext (Function.update_self _ _ _)
        · exact .kept (Function.update_of_ne same _ _)
      · intro manager isUsed
        rw [List.mem_singleton.mp isUsed]
        exact isNext
      · intro impossible
        cases impossible
      · intro impossible
        cases impossible

theorem change_advanceLookup {id : CacheCallId} {phase : LookupPhase}
    (sound : Sound state)
    (called : state.calls id = some (.managerForGeneration phase))
    (stepped : state.advanceLookup id phase = some after) :
    Change state after action := by
  have isMade := sound.used id _ called
  cases phase with
  | locking group endpoints generation =>
      simp only [State.advanceLookup] at stepped
      split at stepped
      · cases stepped
        exact change_findManager sound id group endpoints generation
      · cases stepped
  | checking manager =>
      have inside := isMade manager List.mem_cons_self
      simp only [State.advanceLookup] at stepped
      split at stepped
      · obtain ⟨asked, isAsked, rfl⟩ := Option.map_eq_some_iff.mp stepped
        obtain ⟨moved, moves, rfl⟩ := Option.map_eq_some_iff.mp isAsked
        refine change_move inside moves (.inl rfl) rfl rfl rfl rfl
          (calls_of_update rfl ⟨?_, nofun, nofun⟩)
        intro other isUsed
        rw [List.mem_singleton.mp isUsed]
        exact inside
      · rename_i unset
        cases stepped
        exact change_hand inside fun set => absurd set unset
  | retiring manager call =>
      have inside := isMade manager List.mem_cons_self
      simp only [State.advanceLookup] at stepped
      split at stepped
      · rename_i returned
        cases stepped
        exact change_hand inside fun _ => hasRetired_eq_true returned
      · cases stepped
  | returned manager => cases stepped

/-- The managers that a `retire` has still to do, when it picks one. -/
theorem mem_picked {remaining : List ManagerId} {position : Nat}
    {picked manager : ManagerId}
    (isPicked : remaining[position]? = some picked) :
    manager ∈ picked :: remaining.eraseIdx position ↔
      manager ∈ remaining := by
  obtain ⟨inside, rfl⟩ := List.getElem?_eq_some_iff.mp isPicked
  exact (List.getElem_cons_eraseIdx_perm inside).mem_iff

theorem change_advanceRetire {id : CacheCallId} {position : Nat}
    {phase : RetirePhase} (sound : Sound state)
    (called : state.calls id = some (.retire phase))
    (stepped : state.advanceRetire id position phase = some after) :
    Change state after action := by
  have isMade := sound.used id _ called
  have isFlagged := sound.flagged id _ called
  cases phase with
  | starting =>
      cases stepped
      exact change_call rfl rfl rfl (fun _ => rfl) rfl
        ⟨nofun, fun _ => rfl, nofun⟩
  | listing =>
      have set := isFlagged rfl
      simp only [State.advanceRetire] at stepped
      split at stepped
      · cases stepped
        exact change_call rfl rfl rfl (fun _ => set) rfl
          ⟨sound.known, fun _ => set, fun _ => .inl fun _ isListed => isListed⟩
      · cases stepped
  | walking remaining =>
      have set := isFlagged rfl
      cases remaining with
      | nil =>
          cases stepped
          exact change_call rfl rfl rfl (fun _ => set) rfl
            ⟨nofun, fun _ => set, fun _ => .inr ⟨id, _, called, rfl, nofun⟩⟩
      | cons first later =>
          simp only [State.advanceRetire] at stepped
          split at stepped
          · cases stepped
          · rename_i picked isPicked
            obtain ⟨asked, isAsked, rfl⟩ :=
              Option.map_eq_some_iff.mp stepped
            obtain ⟨moved, moves, rfl⟩ := Option.map_eq_some_iff.mp isAsked
            refine change_move
              (isMade picked (List.mem_of_getElem? isPicked)) moves (.inl rfl)
              rfl rfl rfl rfl
              (calls_of_update rfl ⟨?_, fun _ => set, ?_⟩)
            · intro manager isUsed
              exact isMade manager ((mem_picked isPicked).mp isUsed)
            · intro _
              exact .inr ⟨id, _, called, rfl, fun manager isUsed =>
                .inl ((mem_picked isPicked).mpr isUsed)⟩
  | waiting manager call remaining =>
      have set := isFlagged rfl
      simp only [State.advanceRetire] at stepped
      split at stepped
      · rename_i returned
        cases stepped
        refine change_call rfl rfl rfl (fun _ => set) rfl
          ⟨?_, fun _ => set, ?_⟩
        · intro other isUsed
          exact isMade other (List.mem_cons_of_mem _ isUsed)
        · intro _
          refine .inr ⟨id, _, called, rfl, ?_⟩
          intro other isUsed
          rcases List.mem_cons.mp isUsed with rfl | later
          · exact .inr (hasRetired_eq_true returned)
          · exact .inl later
      · cases stepped
  | returned => cases stepped

theorem change_of_next (sound : Sound state)
    (stepped : next state action = some after) :
    Change state after action := by
  cases action with
  | managerForGeneration group endpoints generation =>
      cases stepped
      exact change_call rfl rfl rfl (fun set => set) rfl ⟨nofun, nofun, nofun⟩
  | retire =>
      cases stepped
      exact change_call rfl rfl rfl (fun set => set) rfl ⟨nofun, nofun, nofun⟩
  | advance id position =>
      simp only [next, State.advance] at stepped
      split at stepped
      · cases stepped
      · next phase called => exact change_advanceLookup sound called stepped
      · next phase called => exact change_advanceRetire sound called stepped
  | drain id => exact change_drain stepped
  | updateEndpointsForGeneration group endpoints generation =>
      simp only [next] at stepped
      split at stepped
      · exact change_stepCache stepped
      · cases stepped
  | reconcile generation groups =>
      simp only [next] at stepped
      split at stepped
      · exact change_stepCache stepped
      · cases stepped
  | finishUpdate position => exact change_stepCache stepped
  | manager manager taken =>
      simp only [next] at stepped
      split at stepped
      · rename_i permitted
        obtain ⟨moved, moves, rfl⟩ := Option.map_eq_some_iff.mp stepped
        refine change_move ?_ moves (.inr ⟨rfl, permitted⟩) rfl rfl rfl rfl
          fun _ _ found => .inl found
        by_contra beyond
        -- Nobody has a manager that is not made yet.
        obtain ⟨isBlank, unhanded⟩ :=
          sound.blank manager (Nat.le_of_not_lt beyond)
        obtain ⟨call, phase, -, called⟩ :=
          advance_of_permits permitted unhanded
        rw [isBlank] at called
        cases called
      · cases stepped

end Steps

/-! ## Runs -/

/-- Nothing is left to close of the manager, or it is in nobody's hands. -/
def Covered (state : State) (manager : ManagerId) : Prop :=
  Manager.Settled (state.managers manager) ∨ state.handed manager = false

/-- Behind a `retire` of a manager nothing is left to close, and a `retire` of
the cache that has listed the managers has covered those that it is done
with. -/
structure Retires (state : State) : Prop where
  settled :
    ∀ manager, Retired state manager →
      Manager.Settled (state.managers manager)
  covered :
    ∀ id call, state.calls id = some call → call.walks →
      ∀ manager ∈ state.listed,
        manager ∈ call.uses ∨ Covered state manager

/-- A manager of the cache keeps and hands out only sessions that were told to
close. -/
def KeepsTold (state : State) (manager : ManagerId) : Prop :=
  (∀ session, (state.managers manager).session = some session →
    (state.managers manager).told session) ∧
    ∀ action after caller session,
      next state action = some after →
      (after.managers manager).calls caller =
        some (.session (.returned (.ok session))) →
      (state.managers manager).calls caller ≠
        (after.managers manager).calls caller →
      (state.managers manager).told session

section Runs

variable {state after : State} {action : Action} {manager : ManagerId}

theorem flagged_of_walks {call : CacheCall} (walks : call.walks) :
    call.flagged := by
  match call, walks with
  | .retire (.walking _), _ => rfl
  | .retire (.waiting _ _ _), _ => rfl
  | .retire .returned, _ => rfl

/-- Once the flag is set, a lookup that hands out a manager has retired it. -/
theorem covered_next (sound : Sound state) (retired : state.retired = true)
    (covered : Covered state manager)
    (stepped : next state action = some after) : Covered after manager := by
  have change := change_of_next sound stepped
  rcases covered with settled | unhanded
  · exact .inl (change.settled sound settled)
  · cases isHanded : after.handed manager with
    | false => exact .inr isHanded
    | true =>
        rcases change.handed manager isHanded with
          already | ⟨-, same, isRetired⟩
        · rw [unhanded] at already
          cases already
        · obtain ⟨call, returned⟩ := isRetired retired
          left
          rw [same]
          exact (sound.unused manager unhanded).settled
            (sound.guarded manager) returned

/-- A manager that comes into the cache is in nobody's hands. -/
theorem covered_of_listed (sound : Sound state)
    (stepped : next state action = some after)
    (isListed : manager ∈ after.listed)
    (isNew : manager ∉ state.listed) : Covered after manager := by
  have change := change_of_next sound stepped
  rcases change.listed manager isListed with already | ⟨isNext, -⟩
  · exact absurd already isNew
  · exact .inr (change.unhanded_of_le sound (Nat.le_of_eq isNext.symm))

theorem settled_next (sound : Sound state) (retires : Retires state)
    (clean : RetiresCleanly state action)
    (stepped : next state action = some after)
    (isRetired : Retired after manager) :
    Manager.Settled (after.managers manager) := by
  obtain ⟨call, returned⟩ := isRetired
  cases (change_of_next sound stepped).managers manager with
  | kept same =>
      rw [same] at returned ⊢
      exact retires.settled manager ⟨call, returned⟩
  | made group endpoints isNext inside same =>
      rw [same] at returned
      cases returned
  | moved taken isMade moves origin =>
      apply Manager.settled_of_next (guarded_manager sound manager) ?_ ?_ moves
        returned
      · intro other earlier
        exact (surrounds_endpoints _ _).settled
          (retires.settled manager ⟨other, earlier⟩)
      · rcases origin with rfl | ⟨rfl, -⟩
        · trivial
        · exact clean

theorem retires_next (sound : Sound state) (retires : Retires state)
    (clean : RetiresCleanly state action)
    (stepped : next state action = some after) : Retires after where
  settled manager isRetired :=
    settled_next sound retires clean stepped isRetired
  covered id call found walks manager isListed := by
    have change := change_of_next sound stepped
    by_cases isNew : manager ∉ state.listed
    · exact .inr (covered_of_listed sound stepped isListed isNew)
    rw [not_not] at isNew
    have keeps {id : CacheCallId} {old : CacheCall}
        (isCall : state.calls id = some old) (walks : old.walks)
        (covered : Covered state manager) : Covered after manager :=
      covered_next sound
        (sound.flagged id old isCall (flagged_of_walks walks)) covered stepped
    rcases change.calls id call found with earlier | follows
    · rcases retires.covered id call earlier walks manager isNew with
        isUsed | covered
      · exact .inl isUsed
      · exact .inr (keeps earlier walks covered)
    · rcases follows.walks walks with all | ⟨other, old, isCall, walked, rest⟩
      · exact .inl (all manager isListed)
      · rcases retires.covered other old isCall walked manager isNew with
          isUsed | covered
        · rcases rest manager isUsed with isLeft | isRetired
          · exact .inl isLeft
          · exact .inr (keeps isCall walked
              (.inl (retires.settled manager isRetired)))
        · exact .inr (keeps isCall walked covered)

theorem sound_new : Sound new where
  guarded manager := Manager.guarded_new "" []
  unused manager _ := unused_new "" []
  blank manager _ := ⟨rfl, rfl⟩
  known manager isListed := by
    obtain ⟨group, entry, found, -⟩ := mem_listed.mp isListed
    cases found
  used id call found := by cases found
  flagged id call found := by cases found

theorem retires_new : Retires new where
  settled manager isRetired := by
    obtain ⟨call, returned⟩ := isRetired
    cases returned
  covered id call found := by cases found

theorem retires_of_run {actions : List Action} {final : State}
    (meets : Meets next RetiresCleanly new actions)
    (ran : run next new actions = some final) :
    Sound final ∧ Retires final := by
  refine invariant_of_meets (fun state => Sound state ∧ Retires state)
    ⟨sound_new, retires_new⟩ ?_ meets ran
  intro state action after holds clean stepped
  exact ⟨(change_of_next holds.1 stepped).sound holds.1,
    retires_next holds.1 holds.2 clean stepped⟩

theorem keepsTold_of_onlyTold (sound : Sound state)
    (told : OnlyTold (state.manager manager)) : KeepsTold state manager := by
  refine ⟨told.1, ?_⟩
  intro action after caller session stepped handed isNew
  cases (change_of_next sound stepped).managers manager with
  | kept same =>
      rw [same] at isNew
      exact absurd rfl isNew
  | made group endpoints isNext inside same =>
      rw [same] at handed
      cases handed
  | moved taken isMade moves origin =>
      exact told.2 taken _ caller session moves handed isNew

theorem keepsTold_of_covered (sound : Sound state)
    (covered : Covered state manager) : KeepsTold state manager := by
  apply keepsTold_of_onlyTold sound
  rcases covered with settled | unhanded
  · exact ((surrounds_endpoints _ _).settled settled).onlyTold
      (guarded_manager sound manager)
  · have unused := sound.unused manager unhanded
    exact Unused.onlyTold ⟨unused.session, unused.retires⟩
      (guarded_manager sound manager)

/-- Behind the end of a `retire` of the cache every manager that was in it then
or has come into it since is covered. -/
theorem covered_of_run {later : List Action} {middle final : State}
    {id : CacheCallId} (sound : Sound middle) (retires : Retires middle)
    (returned : middle.calls id = some (.retire .returned))
    (continued : run next middle later = some final) :
    Sound final ∧
      ∀ manager, manager ∈ middle.listed ∨ manager ∈ final.listed →
        Covered final manager := by
  have atFirst :
      ∀ manager ∈ middle.listed, Covered middle manager := by
    intro manager isListed
    rcases retires.covered id _ returned rfl manager isListed with
      isUsed | covered
    · cases isUsed
    · exact covered
  have invariant :
      Sound final ∧ final.retired = true ∧
        ∀ manager, manager ∈ middle.listed ∨ manager ∈ final.listed →
          Covered final manager := by
    refine invariant_of_run
      (fun state => Sound state ∧ state.retired = true ∧
        ∀ manager, manager ∈ middle.listed ∨ manager ∈ state.listed →
          Covered state manager)
      ⟨sound, sound.flagged id _ returned rfl, ?_⟩ ?_ continued
    · intro manager isListed
      exact atFirst manager (isListed.elim (fun first => first) fun first => first)
    · intro state action after holds stepped
      obtain ⟨sound, retired, covered⟩ := holds
      have change := change_of_next sound stepped
      refine ⟨change.sound sound, change.retired retired, ?_⟩
      intro manager isListed
      by_cases already : manager ∈ middle.listed ∨ manager ∈ state.listed
      · exact covered_next sound retired (covered manager already) stepped
      · rw [not_or] at already
        exact covered_of_listed sound stepped
          (isListed.resolve_left already.1) already.2
  exact ⟨invariant.1, invariant.2.2⟩

theorem settled_of_run {later : List Action} {middle final : State}
    (sound : Sound middle)
    (settled : Manager.Settled (middle.managers manager))
    (continued : run next middle later = some final) :
    Sound final ∧ Manager.Settled (final.managers manager) := by
  refine invariant_of_run
    (fun state => Sound state ∧ Manager.Settled (state.managers manager))
    ⟨sound, settled⟩ ?_ continued
  intro state action after holds stepped
  have change := change_of_next holds.1 stepped
  exact ⟨change.sound holds.1, change.settled holds.1 holds.2⟩

end Runs

/-- Retirement is final, in every run in which each `retire` of a manager finds
its lock free, or a stored session that was told to close and a holder that is
not about to store another.  From the moment a `retire` of a manager has
returned, on its own or in a cache, the manager keeps and hands out only
sessions that were told to close.  From the moment a `retire` of the cache has
returned, so does every manager that was in the cache then or has come into it
since. -/
theorem retirement_final (nodeGroupId : String)
    (endpoints : List L3NodeEndpoint) (before later : List Action)
    (middle final : State) :
    (∀ before later middle final id,
      Meets Manager.next Manager.RetiresCleanly
          (Manager.new nodeGroupId endpoints) before →
        run Manager.next (Manager.new nodeGroupId endpoints) before =
          some middle →
        middle.calls id = some (.retire .returned) →
        run Manager.next middle later = some final → OnlyTold final) ∧
      (Meets next RetiresCleanly new before →
        run next new before = some middle →
        run next middle later = some final →
          (∀ manager call,
            (middle.managers manager).calls call = some (.retire .returned) →
              KeepsTold final manager) ∧
            ∀ id, middle.calls id = some (.retire .returned) →
              ∀ manager, manager ∈ middle.listed ∨ manager ∈ final.listed →
                KeepsTold final manager) := by
  refine ⟨fun _ _ _ _ _ meets ran returned continued =>
    Manager.onlyTold_of_returned meets ran returned continued, ?_⟩
  intro meets ran continued
  obtain ⟨sound, retires⟩ := retires_of_run meets ran
  constructor
  · intro manager call returned
    have settled := retires.settled manager ⟨call, returned⟩
    obtain ⟨soundFinal, settledFinal⟩ := settled_of_run sound settled continued
    exact keepsTold_of_covered soundFinal (.inl settledFinal)
  · intro id returned manager isListed
    obtain ⟨soundFinal, covered⟩ :=
      covered_of_run sound retires returned continued
    exact keepsTold_of_covered soundFinal (covered manager isListed)

/-- A lookup, a session at the manager that it returns, and a `retire` of the
cache while a second call of `session` waits for the lock. -/
def sampleRetirement : List Action :=
  [.managerForGeneration "g" [⟨"node", 443⟩] 1, .advance 0 0, .advance 0 0] ++
    (Manager.establishing ⟨10, 0, 0, 1⟩).map (.manager 0) ++
    [.manager 0 (.call .session), .manager 0 (.advance 1), .retire,
      .advance 1 0, .advance 1 0, .advance 1 0, .manager 0 (.advance 2),
      .manager 0 (.advance 2), .manager 0 (.advance 2), .advance 1 0,
      .advance 1 0]

/-- The second call goes on, and a lookup makes a manager for another group. -/
def sampleContinuation : List Action :=
  [.manager 0 (.advance 1), .manager 0 (.advance 1),
    .managerForGeneration "h" [⟨"node", 443⟩] 1, .advance 2 0, .advance 2 0]

theorem retirement_final_sample :
    ∃ middle, run next new sampleRetirement = some middle ∧
      ∃ final, run next middle sampleContinuation = some final ∧
        (final.managers 0).session = some 0 ∧ (final.managers 0).told 0 ∧
        final.listed = [1, 0] ∧ KeepsTold final 0 ∧ KeepsTold final 1 := by
  have meets : Meets next RetiresCleanly new sampleRetirement := by
    repeat' first
      | exact trivial
      | refine meets_cons ?_ rfl ?_
      | exact fun _ => .inl rfl
      | exact fun called => by cases called
  refine exists_of_view
    (fun middle =>
      (middle.calls 1,
        (run next middle sampleContinuation).map fun final =>
          ((final.managers 0).session, final.listed)))
    (some (.retire .returned), some (some 0, [1, 0])) rfl ?_
  intro middle ran shown
  obtain ⟨returned, continues⟩ := Prod.mk.inj shown
  obtain ⟨final, continued, seen⟩ := Option.map_eq_some_iff.mp continues
  obtain ⟨stored, isListed⟩ := Prod.mk.inj seen
  have keeps :=
    ((retirement_final "g" [] _ _ _ _).2 meets ran continued).2 1 returned
  have first := keeps 0 (.inr (by simp [isListed]))
  exact ⟨final, continued, stored, first.1 0 stored, isListed, first,
    keeps 1 (.inr (by simp [isListed]))⟩

end HermesAtrust.L3.CacheRetirement
