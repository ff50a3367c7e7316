import HermesAtrust.L3.CacheRetirement
import Mathlib.Algebra.Order.BigOperators.Group.List

/-!
# The cache of session managers and its users

Two facts about the model of a cache with its managers.  Without the managers
it is the model of the cache alone, where draining is to reconcile with a table
without groups.  And what is cached while the lock is free is in the hands of a
caller, so that the managers that leave the cache can be retired and closed.
-/

namespace HermesAtrust.L3.CacheRetirement

open HermesAtrust.Collections HermesAtrust.Concurrency
open HermesAtrust.L3.Manager (CallId)
open HermesAtrust.L3.ManagerCache (ManagerId)

/-! ## The cache without its managers -/

section Refinement

variable {state after : State} {action : Action}

/-- To drain the cache is to reconcile it with a table without groups. -/
theorem exists_reconcile_eq_drained (cache : ManagerCache.State) :
    ∃ generation,
      cache.reconcile generation ∅ = { cache with cached := ∅ } := by
  obtain ⟨generation, newest⟩ :
      ∃ generation, ∀ cached ∈ cache.cached.entries,
        cached.2.generation ≤ generation :=
    ⟨(cache.cached.entries.map fun cached => cached.2.generation).sum,
      fun cached stored =>
        List.single_le_sum (fun _ _ => Nat.zero_le _) _
          (List.mem_map.mpr ⟨cached, stored, rfl⟩)⟩
  refine ⟨generation, ?_⟩
  have updates :
      (HashTable.pairs cache.cached).filterMap
        (ManagerCache.State.updateOf generation ∅) = [] := by
    rw [List.filterMap_eq_nil_iff]
    intro cached _
    simp [ManagerCache.State.updateOf]
  have groups :
      HashTable.filterMapEntries (ManagerCache.State.reconciled generation ∅)
        cache.cached = ∅ := by
    apply AList.ext
    change List.filterMap _ _ = []
    rw [List.filterMap_eq_nil_iff]
    intro cached stored
    simp [ManagerCache.State.reconciled, newest cached stored]
  simp only [ManagerCache.State.reconcile, updates, groups, List.nil_append]

theorem cache_of_moveManager {manager : ManagerId} {taken : Manager.Action}
    (stepped : state.moveManager manager taken = some after) :
    after.cache = state.cache := by
  obtain ⟨moved, -, rfl⟩ := Option.map_eq_some_iff.mp stepped
  rfl

theorem cache_of_advance {id : CacheCallId} {position : Nat}
    (stepped : state.advance id position = some after) :
    after.cache = state.cache ∨
      ∃ taken, state.cache.step taken = some after.cache := by
  unfold State.advance at stepped
  split at stepped
  · cases stepped
  · next phase called =>
      cases phase with
      | locking group endpoints generation =>
          simp only [State.advanceLookup] at stepped
          split at stepped
          · cases stepped
            refine .inr ⟨.managerForGeneration group endpoints generation, ?_⟩
            unfold State.findManager
            split <;> rfl
          · cases stepped
      | checking manager =>
          simp only [State.advanceLookup] at stepped
          split at stepped
          · obtain ⟨asked, isAsked, rfl⟩ := Option.map_eq_some_iff.mp stepped
            have kept := cache_of_moveManager isAsked
            exact .inl kept
          · cases stepped
            exact .inl rfl
      | retiring manager call =>
          simp only [State.advanceLookup] at stepped
          split at stepped
          · cases stepped
            exact .inl rfl
          · cases stepped
      | returned manager => cases stepped
  · next phase called =>
      left
      unfold State.advanceRetire at stepped
      split at stepped
      · cases stepped
        rfl
      · split at stepped
        · cases stepped
          rfl
        · cases stepped
      · cases stepped
        rfl
      · split at stepped
        · cases stepped
        · obtain ⟨asked, isAsked, rfl⟩ := Option.map_eq_some_iff.mp stepped
          have kept := cache_of_moveManager isAsked
          exact kept
      · split at stepped
        · cases stepped
          rfl
        · cases stepped
      · cases stepped

theorem cache_of_stepCache {taken : ManagerCache.Action}
    (stepped : state.stepCache taken = some after) :
    state.cache.step taken = some after.cache := by
  obtain ⟨cache, isStep, rfl⟩ := Option.map_eq_some_iff.mp stepped
  exact isStep

/-- A step is at most one step of the cache alone. -/
theorem cache_of_next (stepped : next state action = some after) :
    after.cache = state.cache ∨
      ∃ taken, state.cache.step taken = some after.cache := by
  cases action with
  | managerForGeneration group endpoints generation =>
      cases stepped
      exact .inl rfl
  | retire =>
      cases stepped
      exact .inl rfl
  | advance id position => exact cache_of_advance stepped
  | drain id =>
      simp only [next, State.drain] at stepped
      split at stepped
      · cases stepped
        obtain ⟨generation, same⟩ := exists_reconcile_eq_drained state.cache
        exact .inr ⟨.reconcile generation ∅, congrArg some same⟩
      · cases stepped
  | updateEndpointsForGeneration group endpoints generation =>
      simp only [next] at stepped
      split at stepped
      · exact .inr ⟨_, cache_of_stepCache stepped⟩
      · cases stepped
  | reconcile generation groups =>
      simp only [next] at stepped
      split at stepped
      · exact .inr ⟨_, cache_of_stepCache stepped⟩
      · cases stepped
  | finishUpdate position => exact .inr ⟨_, cache_of_stepCache stepped⟩
  | manager manager taken =>
      simp only [next] at stepped
      split at stepped
      · exact .inl (cache_of_moveManager stepped)
      · cases stepped

/-- Every run is a run of the cache alone, so that what holds of its groups and
their endpoints holds here. -/
theorem cache_refines {actions : List Action} {final : State}
    (ran : run next new actions = some final) :
    ∃ taken,
      run ManagerCache.State.step ManagerCache.new taken =
        some final.cache := by
  refine invariant_of_run
    (fun state =>
      ∃ taken,
        run ManagerCache.State.step ManagerCache.new taken =
          some state.cache)
    ⟨[], rfl⟩ ?_ ran
  intro state action after reached stepped
  obtain ⟨taken, before⟩ := reached
  rcases cache_of_next stepped with same | ⟨last, isStep⟩
  · exact ⟨taken, same ▸ before⟩
  · exact ⟨taken ++ [last], run_snoc before isStep⟩

end Refinement

/-! ## Managers in the hands of callers -/

/-- A lookup that has the lock. -/
def CacheCall.holds : CacheCall → Bool
  | .managerForGeneration (.checking _) => true
  | .managerForGeneration (.retiring _ _) => true
  | _ => false

/-- The lock has one holder, and a cached manager is in the hands of a caller or
is the one of the lookup that has the lock. -/
structure Held (state : State) : Prop where
  fresh : ∀ id, state.nextCall ≤ id → state.calls id = none
  holder :
    ∀ id call, state.calls id = some call → call.holds →
      state.holder = some id
  offered :
    ∀ manager ∈ state.listed, state.handed manager = true ∨
      ∃ id call, state.calls id = some call ∧ call.holds ∧
        manager ∈ call.uses

section Hands

variable {state after : State} {action : Action}

/-- As long as the lock is free, whatever is in the cache is in the hands of a
caller: a manager that a `reconcile` removes or a `close` drains can be retired
and closed like any other. -/
theorem Held.handed (held : Held state) (free : state.holder = none)
    {manager : ManagerId} (isListed : manager ∈ state.listed) :
    state.handed manager = true := by
  rcases held.offered manager isListed with handed | ⟨id, call, found, holds, -⟩
  · exact handed
  · rw [held.holder id call found holds] at free
    cases free

/-- A call goes on that has not the lock and does not get it. -/
theorem Held.call {id : CacheCallId} {call : CacheCall} (held : Held state)
    (fresh : ∀ other, after.nextCall ≤ other →
      other ≠ id ∧ state.nextCall ≤ other)
    (before : ∀ old, state.calls id = some old → old.holds = false)
    (idle : call.holds = false)
    (calls : after.calls = Function.update state.calls id (some call))
    (holder : after.holder = state.holder)
    (listed : after.listed = state.listed)
    (handed : after.handed = state.handed) : Held after where
  fresh other beyond := by
    obtain ⟨different, earlier⟩ := fresh other beyond
    rw [calls, Function.update_of_ne different]
    exact held.fresh other earlier
  holder other found isCall holds := by
    rw [calls, Function.update_apply] at isCall
    split at isCall
    · cases isCall
      rw [idle] at holds
      cases holds
    · rw [holder]
      exact held.holder other found isCall holds
  offered manager isListed := by
    rw [listed] at isListed
    rw [handed]
    rcases held.offered manager isListed with
      already | ⟨other, found, isCall, holds, isUsed⟩
    · exact .inl already
    · refine .inr ⟨other, found, ?_, holds, isUsed⟩
      rw [calls, Function.update_of_ne]
      · exact isCall
      · intro same
        rw [same] at isCall
        rw [before found isCall] at holds
        cases holds

/-- Another step that is not one of a call. -/
theorem Held.quiet (held : Held state) (calls : after.calls = state.calls)
    (nextCall : after.nextCall = state.nextCall)
    (holder : after.holder = state.holder)
    (listed : ∀ manager ∈ after.listed, manager ∈ state.listed)
    (handed : after.handed = state.handed) : Held after where
  fresh id beyond := by
    rw [nextCall] at beyond
    rw [calls, held.fresh id beyond]
  holder id call found holds := by
    rw [calls] at found
    rw [holder, held.holder id call found holds]
  offered manager isListed := by
    rw [handed, calls]
    exact held.offered manager (listed manager isListed)

/-- The lookup that has the lock hands out its manager. -/
theorem Held.hand {id : CacheCallId} {call : CacheCall} {manager : ManagerId}
    (held : Held state) (called : state.calls id = some call)
    (holds : call.holds) (uses : call.uses = [manager]) :
    Held (state.hand id manager) where
  fresh other beyond := by
    have different : other ≠ id := by
      rintro rfl
      rw [held.fresh other beyond] at called
      cases called
    exact (Function.update_of_ne different _ _).trans
      (held.fresh other beyond)
  holder other found isCall isHolder := by
    change Function.update state.calls id _ other = some found at isCall
    rw [Function.update_apply] at isCall
    split at isCall
    · cases isCall
      cases isHolder
    · next different =>
        have mine := held.holder id call called holds
        rw [held.holder other found isCall isHolder] at mine
        exact absurd (Option.some.inj mine) different
  offered other isListed := by
    left
    change Function.update state.handed manager true other = true
    rw [Function.update_apply]
    split
    · rfl
    · next different =>
        rcases held.offered other isListed with
          already | ⟨holder, found, isCall, isHolder, isUsed⟩
        · exact already
        · have mine := held.holder id call called holds
          rw [held.holder holder found isCall isHolder] at mine
          cases mine
          rw [called] at isCall
          cases isCall
          rw [uses] at isUsed
          exact absurd (List.mem_singleton.mp isUsed) different

theorem Held.findManager {id : CacheCallId} {group : String}
    {endpoints : List L3NodeEndpoint} {generation : Nat} (held : Held state)
    (called : (state.calls id).isSome) (free : state.holder = none) :
    Held (state.findManager id group endpoints generation) := by
  have inside : ∀ other, state.nextCall ≤ other → other ≠ id := by
    rintro other beyond rfl
    rw [held.fresh other beyond] at called
    cases called
  have general :
      ∀ (reached : State) (manager : ManagerId),
        reached.calls =
            Function.update state.calls id
              (some (.managerForGeneration (.checking manager))) →
          reached.nextCall = state.nextCall → reached.holder = some id →
          reached.handed = state.handed →
          (∀ other ∈ reached.listed,
            other ∈ state.listed ∨ other = manager) → Held reached := by
    intro reached manager calls nextCall holder handed listed
    constructor
    · intro other beyond
      rw [nextCall] at beyond
      rw [calls, Function.update_of_ne (inside other beyond)]
      exact held.fresh other beyond
    · intro other found isCall holds
      rw [calls, Function.update_apply] at isCall
      split at isCall
      · next same => rw [holder, same]
      · rw [held.holder other found isCall holds] at free
        cases free
    · intro other isListed
      rcases listed other isListed with earlier | rfl
      · left
        rw [handed]
        exact held.handed free earlier
      · refine .inr ⟨id, .managerForGeneration (.checking other), ?_, rfl,
          List.mem_singleton_self other⟩
        rw [calls, Function.update_self]
  obtain ⟨-, listed⟩ :=
    @listed_of_step state _
      (.managerForGeneration group endpoints generation) rfl
  unfold State.findManager
  cases found : state.cache.cached.lookup group with
  | some entry =>
      refine general _ entry.manager rfl rfl rfl rfl ?_
      intro other isListed
      obtain ⟨key, stored, isStored, rfl⟩ := mem_listed.mp isListed
      rcases listed key stored isStored with earlier | ⟨isNext, isMade⟩
      · exact .inl earlier
      · -- A lookup that finds a manager makes none.
        exfalso
        have kept :
            (state.cache.managerForGeneration group endpoints
              generation).nextManager = state.cache.nextManager := by
          rw [ManagerCache.State.managerForGeneration, found]
          dsimp only
          split <;> rfl
        rw [kept, isNext] at isMade
        exact absurd isMade (Nat.lt_irrefl _)
  | none =>
      refine general _ state.cache.nextManager rfl rfl rfl rfl ?_
      intro other isListed
      obtain ⟨key, stored, isStored, rfl⟩ := mem_listed.mp isListed
      rcases listed key stored isStored with earlier | ⟨isNext, -⟩
      · exact .inl earlier
      · exact .inr isNext

theorem Held.stepCache {taken : ManagerCache.Action} (held : Held state)
    (stepped : state.stepCache taken = some after)
    (isNoLookup :
      ∀ group endpoints generation,
        taken ≠ .managerForGeneration group endpoints generation) :
    Held after := by
  obtain ⟨cache, isStep, rfl⟩ := Option.map_eq_some_iff.mp stepped
  refine held.quiet rfl rfl rfl ?_ rfl
  intro manager isListed
  obtain ⟨group, entry, found, rfl⟩ := mem_listed.mp isListed
  have earlier {key : String} {old : ManagerCache.CachedManager}
      (stored : state.cache.cached.lookup key = some old) :
      old.manager ∈ state.listed :=
    mem_listed.mpr ⟨key, old, stored, rfl⟩
  rcases ManagerCache.State.step_cases isStep with
    rfl | ⟨changed, old, supply, stored, same, newer, rfl⟩ |
      ⟨changed, endpoints, generation, rfl, -⟩ |
      ⟨generation, groups, -, rfl⟩ | ⟨position, -, finished⟩
  · exact earlier found
  · dsimp only at found
    rw [ManagerCache.State.lookup_give] at found
    split at found
    · cases found
      dsimp only
      rw [same]
      exact earlier stored
    · exact earlier found
  · exact absurd rfl (isNoLookup changed endpoints generation)
  · obtain ⟨old, stored, same, -⟩ := ManagerCache.State.lookup_reconcile found
    rw [same]
    exact earlier stored
  · obtain ⟨supply, -, rfl⟩ := ManagerCache.State.finishUpdate_eq_some finished
    exact earlier found

theorem Held.advanceLookup {id : CacheCallId} {phase : LookupPhase}
    (held : Held state)
    (called : state.calls id = some (.managerForGeneration phase))
    (stepped : state.advanceLookup id phase = some after) : Held after := by
  cases phase with
  | locking group endpoints generation =>
      simp only [State.advanceLookup] at stepped
      split at stepped
      · next free =>
          cases stepped
          exact held.findManager (by simp [called]) free
      · cases stepped
  | checking manager =>
      simp only [State.advanceLookup] at stepped
      split at stepped
      · obtain ⟨asked, isAsked, rfl⟩ := Option.map_eq_some_iff.mp stepped
        obtain ⟨moved, -, rfl⟩ := Option.map_eq_some_iff.mp isAsked
        have mine := held.holder id _ called rfl
        constructor
        · intro other beyond
          have different : other ≠ id := by
            rintro rfl
            rw [held.fresh other beyond] at called
            cases called
          exact (Function.update_of_ne different _ _).trans
            (held.fresh other beyond)
        · intro other found isCall holds
          change Function.update state.calls id _ other = some found at isCall
          rw [Function.update_apply] at isCall
          split at isCall
          · next same => rw [same, ← mine]; rfl
          · exact held.holder other found isCall holds
        · intro other isListed
          rcases held.offered other isListed with
            already | ⟨holder, found, isCall, holds, isUsed⟩
          · exact .inl already
          · have same := held.holder holder found isCall holds
            rw [mine, Option.some_inj] at same
            subst same
            rw [called, Option.some_inj] at isCall
            subst isCall
            exact .inr ⟨id, _, Function.update_self _ _ _, rfl, isUsed⟩
      · cases stepped
        exact held.hand called rfl rfl
  | retiring manager call =>
      simp only [State.advanceLookup] at stepped
      split at stepped
      · cases stepped
        exact held.hand called rfl rfl
      · cases stepped
  | returned manager => cases stepped

/-- A `retire` of the cache has the lock for one step only. -/
theorem Held.advanceRetire {id : CacheCallId} {position : Nat}
    {phase : RetirePhase} (held : Held state)
    (called : state.calls id = some (.retire phase))
    (stepped : state.advanceRetire id position phase = some after) :
    Held after := by
  have inside : ∀ other, state.nextCall ≤ other →
      other ≠ id ∧ state.nextCall ≤ other := by
    intro other beyond
    refine ⟨?_, beyond⟩
    rintro rfl
    rw [held.fresh other beyond] at called
    cases called
  have idle : ∀ old, state.calls id = some old → old.holds = false := by
    intro old found
    rw [called] at found
    cases found
    rfl
  have goes {next : CacheCall} (reached : State) (isIdle : next.holds = false)
      (calls : reached.calls = Function.update state.calls id (some next))
      (nextCall : reached.nextCall = state.nextCall)
      (holder : reached.holder = state.holder)
      (cache : reached.cache = state.cache)
      (handed : reached.handed = state.handed) : Held reached := by
    refine held.call ?_ idle isIdle calls holder ?_ handed
    · rw [nextCall]
      exact inside
    · rw [State.listed, cache, State.listed]
  unfold State.advanceRetire at stepped
  split at stepped
  · cases stepped
    exact goes _ rfl rfl rfl rfl rfl rfl
  · split at stepped
    · cases stepped
      exact goes _ rfl rfl rfl rfl rfl rfl
    · cases stepped
  · cases stepped
    exact goes _ rfl rfl rfl rfl rfl rfl
  · split at stepped
    · cases stepped
    · obtain ⟨asked, isAsked, rfl⟩ := Option.map_eq_some_iff.mp stepped
      obtain ⟨moved, -, rfl⟩ := Option.map_eq_some_iff.mp isAsked
      exact goes _ rfl rfl rfl rfl rfl rfl
  · split at stepped
    · cases stepped
      exact goes _ rfl rfl rfl rfl rfl rfl
    · cases stepped
  · cases stepped

theorem held_next (held : Held state)
    (stepped : next state action = some after) : Held after := by
  have called (request : CacheCall) (idle : request.holds = false) :
      Held (state.call request) := by
    refine held.call ?_ ?_ idle rfl rfl rfl rfl
    · intro other beyond
      exact ⟨Nat.ne_of_gt beyond, Nat.le_of_succ_le beyond⟩
    · intro old found
      rw [held.fresh _ (Nat.le_refl _)] at found
      cases found
  cases action with
  | managerForGeneration group endpoints generation =>
      cases stepped
      exact called _ rfl
  | retire =>
      cases stepped
      exact called _ rfl
  | advance id position =>
      simp only [next, State.advance] at stepped
      split at stepped
      · cases stepped
      · next phase isCall => exact held.advanceLookup isCall stepped
      · next phase isCall => exact held.advanceRetire isCall stepped
  | drain id =>
      simp only [next, State.drain] at stepped
      split at stepped
      · cases stepped
        refine held.quiet rfl rfl rfl ?_ rfl
        intro manager isListed
        obtain ⟨group, entry, found, -⟩ := mem_listed.mp isListed
        cases found
      · cases stepped
  | updateEndpointsForGeneration group endpoints generation =>
      simp only [next] at stepped
      split at stepped
      · refine held.stepCache stepped ?_
        intro other listed number same
        cases same
      · cases stepped
  | reconcile generation groups =>
      simp only [next] at stepped
      split at stepped
      · refine held.stepCache stepped ?_
        intro group endpoints other same
        cases same
      · cases stepped
  | finishUpdate position =>
      refine held.stepCache stepped ?_
      intro group endpoints generation same
      cases same
  | manager manager taken =>
      simp only [next] at stepped
      split at stepped
      · obtain ⟨moved, -, rfl⟩ := Option.map_eq_some_iff.mp stepped
        exact held.quiet rfl rfl rfl (fun _ isListed => isListed) rfl
      · cases stepped

/-- In every run, what is in the cache while its lock is free is in the hands
of a caller. -/
theorem listed_are_handed {actions : List Action} {final : State}
    (ran : run next new actions = some final) (free : final.holder = none) :
    ∀ manager ∈ final.listed, final.handed manager = true := by
  have held : Held final := by
    refine invariant_of_run Held ⟨fun _ _ => rfl, ?_, ?_⟩ ?_ ran
    · intro id call found
      cases found
    · intro manager isListed
      obtain ⟨group, entry, found, -⟩ := mem_listed.mp isListed
      cases found
    · intro state action after holds stepped
      exact held_next holds stepped
  exact fun manager isListed => held.handed free isListed

end Hands

end HermesAtrust.L3.CacheRetirement
