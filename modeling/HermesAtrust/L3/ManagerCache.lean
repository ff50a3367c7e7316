import HermesAtrust.Collections.HashTable
import HermesAtrust.Concurrency.Transitions
import HermesAtrust.L3.Manager

/-!
# The cache of session managers

Model of `L3SessionManagerCache`.  A lookup and a probe result are one step
each, under the lock of the cache.  `reconcile` evicts groups and raises
generations under the lock, and hands the new endpoints to the managers after
it has released the lock, one manager after the other; these updates are
pending in between.  Managers are entries of a heap, since a pending update
reaches its manager also after the group was evicted.

Retiring and closing managers changes neither the groups nor the endpoints; it
is in the model of the cache with its managers.
-/

namespace HermesAtrust.L3.ManagerCache

open HermesAtrust.Collections HermesAtrust.Concurrency

abbrev ManagerId := Nat

structure CachedManager where
  manager : ManagerId
  generation : Nat
  deriving DecidableEq, Repr

/-- A list of endpoints that an operation supplies for a manager. -/
structure Supply where
  manager : ManagerId
  generation : Nat
  endpoints : List L3NodeEndpoint
  deriving DecidableEq, Repr

/-- The cache, the endpoints of every manager, the updates that a `reconcile`
has not made yet.  `supplied` keeps record of all lists that were supplied to
a cached manager, and `writer` of the generation of the latest list that a
manager was given. -/
structure State where
  cached : HashTable String CachedManager
  endpoints : ManagerId → List L3NodeEndpoint
  nextManager : ManagerId
  pending : List Supply
  supplied : List Supply
  writer : ManagerId → Nat

/-- An empty cache. -/
def new : State where
  cached := ∅
  endpoints := fun _ => []
  nextManager := 0
  pending := []
  supplied := []
  writer := fun _ => 0

inductive Action where
  | managerForGeneration (group : String) (endpoints : List L3NodeEndpoint)
      (generation : Nat)
  | updateEndpointsForGeneration (group : String)
      (endpoints : List L3NodeEndpoint) (generation : Nat)
  | reconcile (generation : Nat)
      (groups : HashTable String (List L3NodeEndpoint))
  | finishUpdate (position : Nat)

namespace State

/-- `update_endpoints` of a manager. -/
def write (state : State) (supply : Supply) : State :=
  { state with
    endpoints :=
      Function.update state.endpoints supply.manager
        (deduplicateEndpoints supply.endpoints)
    writer := Function.update state.writer supply.manager supply.generation }

/-- A cached manager is given a list of a generation at least its own. -/
def give (state : State) (group : String) (supply : Supply) : State :=
  { state.write supply with
    cached := state.cached.insert group ⟨supply.manager, supply.generation⟩
    supplied := supply :: state.supplied }

/-- `manager_for_generation`. -/
def managerForGeneration (state : State) (group : String)
    (endpoints : List L3NodeEndpoint) (generation : Nat) : State :=
  match state.cached.lookup group with
  | some entry =>
      if entry.generation ≤ generation then
        state.give group ⟨entry.manager, generation, endpoints⟩
      else
        state
  | none =>
      { state with nextManager := state.nextManager + 1 }.give group
        ⟨state.nextManager, generation, endpoints⟩

/-- `update_endpoints_for_generation`. -/
def updateEndpointsForGeneration (state : State) (group : String)
    (endpoints : List L3NodeEndpoint) (generation : Nat) : State :=
  match state.cached.lookup group with
  | some entry =>
      if entry.generation ≤ generation then
        state.give group ⟨entry.manager, generation, endpoints⟩
      else
        state
  | none => state

/-- What `reconcile` makes of a cached group. -/
def reconciled (generation : Nat)
    (groups : HashTable String (List L3NodeEndpoint)) (group : String)
    (entry : CachedManager) : Option CachedManager :=
  if entry.generation ≤ generation then
    match groups.lookup group with
    | none => none
    | some _ => some { entry with generation := generation }
  else
    some entry

/-- The update that `reconcile` has to make for a cached group. -/
def updateOf (generation : Nat)
    (groups : HashTable String (List L3NodeEndpoint))
    (cached : String × CachedManager) : Option Supply :=
  if cached.2.generation ≤ generation then
    (groups.lookup cached.1).map fun endpoints =>
      ⟨cached.2.manager, generation, endpoints⟩
  else
    none

/-- `reconcile`, as long as it holds the lock. -/
def reconcile (state : State) (generation : Nat)
    (groups : HashTable String (List L3NodeEndpoint)) : State :=
  let updates :=
    (HashTable.pairs state.cached).filterMap (updateOf generation groups)
  { state with
    cached :=
      HashTable.filterMapEntries (reconciled generation groups) state.cached
    pending := updates ++ state.pending
    supplied := updates ++ state.supplied }

/-- A `reconcile` makes one of its updates. -/
def finishUpdate (state : State) (position : Nat) : Option State :=
  match state.pending[position]? with
  | none => none
  | some supply =>
      some
        { state.write supply with pending := state.pending.eraseIdx position }

/-- One step of the cache. -/
def step (state : State) : Action → Option State
  | .managerForGeneration group endpoints generation =>
      some (state.managerForGeneration group endpoints generation)
  | .updateEndpointsForGeneration group endpoints generation =>
      some (state.updateEndpointsForGeneration group endpoints generation)
  | .reconcile generation groups => some (state.reconcile generation groups)
  | .finishUpdate position => state.finishUpdate position

/-! ## What the operations do to the entries -/

theorem lookup_give (state : State) (group changed : String)
    (supply : Supply) :
    (state.give changed supply).cached.lookup group =
      if group = changed then some ⟨supply.manager, supply.generation⟩
      else state.cached.lookup group :=
  HashTable.lookup_insert_eq_if _ _ _ _

section Reconciling

variable {state : State} {generation : Nat}
  {groups : HashTable String (List L3NodeEndpoint)}

theorem mem_updates {supply : Supply} :
    supply ∈ (HashTable.pairs state.cached).filterMap
        (updateOf generation groups) ↔
      ∃ group entry endpoints, state.cached.lookup group = some entry ∧
        entry.generation ≤ generation ∧
        groups.lookup group = some endpoints ∧
        supply = ⟨entry.manager, generation, endpoints⟩ := by
  rw [List.mem_filterMap]
  constructor
  · intro found
    obtain ⟨⟨group, entry⟩, stored, updated⟩ := found
    rw [HashTable.mem_pairs] at stored
    simp only [updateOf, Option.ite_none_right_eq_some,
      Option.map_eq_some_iff] at updated
    obtain ⟨older, endpoints, advertised, rfl⟩ := updated
    exact ⟨group, entry, endpoints, stored, older, advertised, rfl⟩
  · intro found
    obtain ⟨group, entry, endpoints, stored, older, advertised, rfl⟩ := found
    refine ⟨(group, entry), HashTable.mem_pairs.mpr stored, ?_⟩
    simp [updateOf, older, advertised]

/-- An entry that `reconcile` keeps is either one of a newer generation, or it
is advertised and gets the generation. -/
theorem lookup_reconcile {group : String} {entry : CachedManager}
    (found : (state.reconcile generation groups).cached.lookup group =
      some entry) :
    ∃ old, state.cached.lookup group = some old ∧
      entry.manager = old.manager ∧ old.generation ≤ entry.generation ∧
      ((entry = old ∧ generation < old.generation) ∨
        (old.generation ≤ generation ∧ entry.generation = generation ∧
          ∃ endpoints, groups.lookup group = some endpoints)) := by
  rw [reconcile, HashTable.lookup_filterMapEntries,
    Option.bind_eq_some_iff] at found
  obtain ⟨old, stored, kept⟩ := found
  refine ⟨old, stored, ?_⟩
  unfold reconciled at kept
  split at kept
  · next older =>
      split at kept
      · cases kept
      · next endpoints advertised =>
          cases kept
          exact ⟨rfl, older, .inr ⟨older, rfl, endpoints, advertised⟩⟩
  · next newer =>
      cases kept
      exact ⟨rfl, Nat.le_refl _, .inl ⟨rfl, Nat.lt_of_not_le newer⟩⟩

end Reconciling

/-! ## What holds in every state -/

/-- Every cached manager has the list of some operation of the generation of
its entry, which is the highest of all that were supplied to it, or is about to
get one. -/
structure Consistent (state : State) : Prop where
  known :
    ∀ group entry, state.cached.lookup group = some entry →
      entry.manager < state.nextManager
  distinct :
    ∀ group other entry otherEntry,
      state.cached.lookup group = some entry →
      state.cached.lookup other = some otherEntry →
      entry.manager = otherEntry.manager → group = other
  suppliedKnown :
    ∀ supply ∈ state.supplied, supply.manager < state.nextManager
  newest :
    ∀ group entry, state.cached.lookup group = some entry →
      ∀ supply ∈ state.supplied, supply.manager = entry.manager →
        supply.generation ≤ entry.generation
  pendingSupplied : ∀ supply ∈ state.pending, supply ∈ state.supplied
  settled :
    ∀ group entry, state.cached.lookup group = some entry →
      (∃ supply ∈ state.pending, supply.manager = entry.manager ∧
        supply.generation = entry.generation) ∨
      ∃ supply ∈ state.supplied, supply.manager = entry.manager ∧
        supply.generation = entry.generation ∧
        state.endpoints entry.manager = deduplicateEndpoints supply.endpoints
  written :
    ∀ group entry, state.cached.lookup group = some entry →
      state.writer entry.manager ≤ entry.generation

theorem consistent_new : Consistent new where
  known := by
    intro group entry found
    simp [new] at found
  distinct := by
    intro group other entry otherEntry found
    simp [new] at found
  suppliedKnown := nofun
  newest := by
    intro group entry found
    simp [new] at found
  pendingSupplied := nofun
  settled := by
    intro group entry found
    simp [new] at found
  written := by
    intro group entry found
    simp [new] at found

/-- A list of a generation at least as high as all before is given to the
manager of a group. -/
theorem Consistent.give {state : State} (consistent : state.Consistent)
    {group : String} {supply : Supply}
    (known : supply.manager < state.nextManager)
    (own :
      ∀ other entry, state.cached.lookup other = some entry →
        entry.manager = supply.manager → other = group)
    (newer :
      ∀ earlier ∈ state.supplied, earlier.manager = supply.manager →
        earlier.generation ≤ supply.generation) :
    (state.give group supply).Consistent := by
  have entries :
      ∀ other entry,
        (state.give group supply).cached.lookup other = some entry →
        (other = group ∧ entry = ⟨supply.manager, supply.generation⟩) ∨
          (state.cached.lookup other = some entry ∧ other ≠ group ∧
            entry.manager ≠ supply.manager) := by
    intro other entry found
    rw [lookup_give] at found
    by_cases same : other = group
    · rw [if_pos same] at found
      exact .inl ⟨same, (Option.some.inj found).symm⟩
    · rw [if_neg same] at found
      exact .inr ⟨found, same, fun sameManager =>
        same (own other entry found sameManager)⟩
  constructor
  · intro other entry found
    rcases entries other entry found with ⟨-, rfl⟩ | ⟨earlier, -⟩
    · exact known
    · exact consistent.known other entry earlier
  · intro first second firstEntry secondEntry firstFound secondFound same
    rcases entries first firstEntry firstFound with
      ⟨rfl, rfl⟩ | ⟨firstEarlier, -, firstOther⟩
    · rcases entries second secondEntry secondFound with
        ⟨rfl, -⟩ | ⟨-, -, secondOther⟩
      · rfl
      · exact absurd same.symm secondOther
    · rcases entries second secondEntry secondFound with
        ⟨rfl, rfl⟩ | ⟨secondEarlier, -⟩
      · exact absurd same firstOther
      · exact consistent.distinct first second firstEntry secondEntry
          firstEarlier secondEarlier same
  · intro earlier listed
    rcases List.mem_cons.mp listed with rfl | listed
    · exact known
    · exact consistent.suppliedKnown earlier listed
  · intro other entry found earlier listed same
    rcases entries other entry found with ⟨-, rfl⟩ | ⟨before, -, different⟩
    · rcases List.mem_cons.mp listed with rfl | listed
      · exact Nat.le_refl _
      · exact newer earlier listed same
    · rcases List.mem_cons.mp listed with rfl | listed
      · exact absurd same.symm different
      · exact consistent.newest other entry before earlier listed same
  · intro pending listed
    exact List.mem_cons_of_mem _ (consistent.pendingSupplied pending listed)
  · intro other entry found
    rcases entries other entry found with ⟨-, rfl⟩ | ⟨before, -, different⟩
    · right
      exact ⟨supply, List.mem_cons_self, rfl, rfl,
        Function.update_self _ _ _⟩
    · rcases consistent.settled other entry before with waiting | given
      · exact .inl waiting
      · obtain ⟨earlier, listed, same, current, written⟩ := given
        right
        refine ⟨earlier, List.mem_cons_of_mem _ listed, same, current, ?_⟩
        exact (Function.update_of_ne different _ _).trans written
  · intro other entry found
    rcases entries other entry found with ⟨-, rfl⟩ | ⟨before, -, different⟩
    · exact Nat.le_of_eq (Function.update_self _ _ _)
    · change Function.update state.writer supply.manager supply.generation
        entry.manager ≤ entry.generation
      rw [Function.update_of_ne different]
      exact consistent.written other entry before

theorem Consistent.reconcile {state : State} (consistent : state.Consistent)
    (generation : Nat) (groups : HashTable String (List L3NodeEndpoint)) :
    (state.reconcile generation groups).Consistent := by
  constructor
  · intro group entry found
    obtain ⟨old, stored, same, -⟩ := lookup_reconcile found
    rw [same]
    exact consistent.known group old stored
  · intro group other entry otherEntry found otherFound same
    obtain ⟨old, stored, kept, -⟩ := lookup_reconcile found
    obtain ⟨otherOld, otherStored, otherKept, -⟩ :=
      lookup_reconcile otherFound
    rw [kept, otherKept] at same
    exact consistent.distinct group other old otherOld stored otherStored same
  · intro supply listed
    rcases List.mem_append.mp listed with updated | listed
    · obtain ⟨group, entry, endpoints, stored, -, -, rfl⟩ :=
        mem_updates.mp updated
      exact consistent.known group entry stored
    · exact consistent.suppliedKnown supply listed
  · intro group entry found supply listed same
    obtain ⟨old, stored, kept, raised, origin⟩ := lookup_reconcile found
    rw [kept] at same
    rcases List.mem_append.mp listed with updated | listed
    · obtain ⟨other, otherEntry, endpoints, otherStored, older, -, rfl⟩ :=
        mem_updates.mp updated
      rcases origin with ⟨rfl, newer⟩ | ⟨-, current, -⟩
      · exact Nat.le_of_lt newer
      · exact Nat.le_of_eq current.symm
    · have earlier := consistent.newest group old stored supply listed same
      exact Nat.le_trans earlier raised
  · intro supply listed
    rcases List.mem_append.mp listed with updated | listed
    · exact List.mem_append_left _ updated
    · exact List.mem_append_right _ (consistent.pendingSupplied supply listed)
  · intro group entry found
    obtain ⟨old, stored, kept, -, origin⟩ := lookup_reconcile found
    rcases origin with ⟨rfl, -⟩ | ⟨older, current, endpoints, advertised⟩
    · rcases consistent.settled group entry stored with waiting | given
      · obtain ⟨supply, listed, matching⟩ := waiting
        exact .inl ⟨supply, List.mem_append_right _ listed, matching⟩
      · obtain ⟨supply, listed, matching⟩ := given
        exact .inr ⟨supply, List.mem_append_right _ listed, matching⟩
    · left
      have updated : (⟨old.manager, generation, endpoints⟩ : Supply) ∈
          (HashTable.pairs state.cached).filterMap
            (updateOf generation groups) :=
        mem_updates.mpr
          ⟨group, old, endpoints, stored, older, advertised, rfl⟩
      exact ⟨_, List.mem_append_left _ updated, kept.symm, current.symm⟩
  · intro group entry found
    obtain ⟨old, stored, kept, raised, -⟩ := lookup_reconcile found
    have earlier := consistent.written group old stored
    rw [kept]
    exact Nat.le_trans earlier raised

/-- A pending update reaches a cached manager only if the group was given no
list of a newer generation since. -/
def Timely (state : State) : Action → Prop
  | .finishUpdate position =>
      ∀ supply, state.pending[position]? = some supply →
        ∀ group entry, state.cached.lookup group = some entry →
          entry.manager = supply.manager →
          entry.generation ≤ supply.generation
  | _ => True

theorem finishUpdate_eq_some {state after : State} {position : Nat}
    (stepped : state.finishUpdate position = some after) :
    ∃ supply, state.pending[position]? = some supply ∧
      after =
        { state.write supply with
          pending := state.pending.eraseIdx position } := by
  unfold finishUpdate at stepped
  split at stepped
  · cases stepped
  · next supply waiting =>
      cases stepped
      exact ⟨supply, waiting, rfl⟩

theorem Consistent.finishUpdate {state after : State}
    (consistent : state.Consistent) {position : Nat}
    (timely : state.Timely (.finishUpdate position))
    (stepped : state.finishUpdate position = some after) :
    after.Consistent := by
  obtain ⟨supply, waiting, rfl⟩ := finishUpdate_eq_some stepped
  have listed : supply ∈ state.pending := List.mem_of_getElem? waiting
  have recorded := consistent.pendingSupplied supply listed
  have notOlder :
      ∀ group entry, state.cached.lookup group = some entry →
        entry.manager = supply.manager →
        supply.generation = entry.generation := by
    intro group entry found same
    have upper := consistent.newest group entry found supply recorded same.symm
    have lower := timely supply waiting group entry found same
    exact Nat.le_antisymm upper lower
  constructor
  · exact consistent.known
  · exact consistent.distinct
  · exact consistent.suppliedKnown
  · exact consistent.newest
  · intro other remaining
    exact consistent.pendingSupplied other (List.mem_of_mem_eraseIdx remaining)
  · intro group entry found
    by_cases same : entry.manager = supply.manager
    · right
      refine ⟨supply, recorded, same.symm,
        notOlder group entry found same, ?_⟩
      change Function.update state.endpoints supply.manager
        (deduplicateEndpoints supply.endpoints) entry.manager = _
      rw [same, Function.update_self]
    · rcases consistent.settled group entry found with stillWaiting | given
      · left
        obtain ⟨other, otherListed, owned, current⟩ := stillWaiting
        refine ⟨other, ?_, owned, current⟩
        obtain ⟨place, placed⟩ := List.mem_iff_getElem?.mp otherListed
        apply List.mem_eraseIdx_iff_getElem?.mpr
        refine ⟨place, ?_, placed⟩
        intro samePlace
        rw [samePlace, waiting] at placed
        cases placed
        exact same owned.symm
      · right
        obtain ⟨other, otherListed, owned, current, written⟩ := given
        refine ⟨other, otherListed, owned, current, ?_⟩
        exact (Function.update_of_ne same _ _).trans written
  · intro group entry found
    change Function.update state.writer supply.manager supply.generation
      entry.manager ≤ entry.generation
    by_cases same : entry.manager = supply.manager
    · rw [same, Function.update_self]
      exact Nat.le_of_eq (notOlder group entry found same)
    · rw [Function.update_of_ne same]
      exact consistent.written group entry found

/-- What one step of the cache can do. -/
theorem step_cases {state after : State} {action : Action}
    (stepped : state.step action = some after) :
    after = state ∨
      (∃ group entry supply, state.cached.lookup group = some entry ∧
        supply.manager = entry.manager ∧
        entry.generation ≤ supply.generation ∧
        after = state.give group supply) ∨
      (∃ group endpoints generation,
        action = .managerForGeneration group endpoints generation ∧
        state.cached.lookup group = none ∧
        after =
          { state with nextManager := state.nextManager + 1 }.give group
            ⟨state.nextManager, generation, endpoints⟩) ∨
      (∃ generation groups, action = .reconcile generation groups ∧
        after = state.reconcile generation groups) ∨
      ∃ position, action = .finishUpdate position ∧
        state.finishUpdate position = some after := by
  cases action with
  | managerForGeneration group endpoints generation =>
      simp only [step, managerForGeneration, Option.some.injEq] at stepped
      subst stepped
      split
      · next entry found =>
          split
          · next older =>
              exact .inr (.inl ⟨group, entry, _, found, rfl, older, rfl⟩)
          · exact .inl rfl
      · next absent =>
          exact .inr (.inr (.inl ⟨group, endpoints, generation, rfl, absent,
            rfl⟩))
  | updateEndpointsForGeneration group endpoints generation =>
      simp only [step, updateEndpointsForGeneration,
        Option.some.injEq] at stepped
      subst stepped
      split
      · next entry found =>
          split
          · next older =>
              exact .inr (.inl ⟨group, entry, _, found, rfl, older, rfl⟩)
          · exact .inl rfl
      · exact .inl rfl
  | reconcile generation groups =>
      simp only [step, Option.some.injEq] at stepped
      exact .inr (.inr (.inr (.inl ⟨generation, groups, rfl,
        stepped.symm⟩)))
  | finishUpdate position =>
      exact .inr (.inr (.inr (.inr ⟨position, rfl, stepped⟩)))

theorem Consistent.step {state after : State} {action : Action}
    (consistent : state.Consistent) (timely : state.Timely action)
    (stepped : state.step action = some after) : after.Consistent := by
  rcases step_cases stepped with
    rfl | ⟨group, entry, supply, found, same, newer, rfl⟩ |
      ⟨group, endpoints, generation, -, absent, rfl⟩ |
      ⟨generation, groups, -, rfl⟩ | ⟨position, rfl, finished⟩
  · exact consistent
  · apply consistent.give
    · rw [same]
      exact consistent.known group entry found
    · intro other otherEntry otherFound otherSame
      exact consistent.distinct other group otherEntry entry otherFound found
        (otherSame.trans same)
    · intro earlier listed owned
      have bound := consistent.newest group entry found earlier listed
        (owned.trans same)
      exact Nat.le_trans bound newer
  · have grown :
        State.Consistent { state with nextManager := state.nextManager + 1 } :=
      { consistent with
        known := by
          intro other entry found
          exact Nat.lt_succ_of_lt (consistent.known other entry found)
        suppliedKnown := by
          intro supply listed
          exact Nat.lt_succ_of_lt (consistent.suppliedKnown supply listed) }
    apply grown.give
    · exact Nat.lt_succ_self state.nextManager
    · intro other entry found same
      have bound := consistent.known other entry found
      rw [same] at bound
      exact absurd bound (Nat.lt_irrefl _)
    · intro earlier listed same
      have bound := consistent.suppliedKnown earlier listed
      rw [same] at bound
      exact absurd bound (Nat.lt_irrefl _)
  · exact consistent.reconcile generation groups
  · exact consistent.finishUpdate timely finished

/-- A group that stays cached keeps its manager, and neither its generation nor
that of the list its manager was given last goes down. -/
theorem step_not_older {state after : State} {action : Action}
    (consistent : state.Consistent) (timely : state.Timely action)
    (stepped : state.step action = some after) {group : String}
    {old entry : CachedManager}
    (before : state.cached.lookup group = some old)
    (found : after.cached.lookup group = some entry) :
    entry.manager = old.manager ∧ old.generation ≤ entry.generation ∧
      state.writer old.manager ≤ after.writer old.manager := by
  rcases step_cases stepped with
    rfl | ⟨changed, current, supply, stored, same, newer, rfl⟩ |
      ⟨changed, endpoints, generation, -, absent, rfl⟩ |
      ⟨generation, groups, -, rfl⟩ | ⟨position, rfl, finished⟩
  · cases before.symm.trans found
    exact ⟨rfl, Nat.le_refl _, Nat.le_refl _⟩
  · rw [lookup_give] at found
    change _ ∧ _ ∧ _ ≤ Function.update state.writer supply.manager
      supply.generation old.manager
    by_cases target : group = changed
    · rw [if_pos target] at found
      rw [target] at before
      cases before.symm.trans stored
      cases found
      rw [same, Function.update_self]
      have bound := consistent.written changed old stored
      exact ⟨rfl, newer, Nat.le_trans bound newer⟩
    · rw [if_neg target] at found
      cases before.symm.trans found
      have different : old.manager ≠ supply.manager := by
        intro owned
        exact target (consistent.distinct group changed old current before
          stored (owned.trans same))
      rw [Function.update_of_ne different]
      exact ⟨rfl, Nat.le_refl _, Nat.le_refl _⟩
  · rw [lookup_give] at found
    have different : old.manager ≠ state.nextManager :=
      Nat.ne_of_lt (consistent.known group old before)
    change _ ∧ _ ∧ _ ≤ Function.update state.writer state.nextManager
      generation old.manager
    rw [Function.update_of_ne different]
    by_cases target : group = changed
    · rw [target, absent] at before
      cases before
    · rw [if_neg target] at found
      cases before.symm.trans found
      exact ⟨rfl, Nat.le_refl _, Nat.le_refl _⟩
  · obtain ⟨kept, stored, same, raised, -⟩ := lookup_reconcile found
    cases before.symm.trans stored
    exact ⟨same, raised, Nat.le_refl _⟩
  · obtain ⟨supply, waiting, rfl⟩ := finishUpdate_eq_some finished
    cases before.symm.trans found
    change _ ∧ _ ∧ _ ≤ Function.update state.writer supply.manager
      supply.generation old.manager
    by_cases target : old.manager = supply.manager
    · rw [target, Function.update_self, ← target]
      have bound := consistent.written group old before
      have current := timely supply waiting group old before target
      exact ⟨rfl, Nat.le_refl _, Nat.le_trans bound current⟩
    · rw [Function.update_of_ne target]
      exact ⟨rfl, Nat.le_refl _, Nat.le_refl _⟩

end State

open State

/-! ## Lists of older generations -/

/-- In every run in which no pending update reaches a cached manager that was
given a newer generation since: when no `reconcile` is part-way through, every
cached manager has a list that was supplied under the highest generation of
all that were supplied to it; and no step gives a manager that stays cached a
list of an older generation than it had or lowers the generation of its
group. -/
theorem cached_lists_of_highest_generation {actions : List Action}
    {state : State} (timely : Meets step Timely new actions)
    (ran : run step new actions = some state) :
    (state.pending = [] →
      ∀ group entry, state.cached.lookup group = some entry →
        ∃ supply ∈ state.supplied, supply.manager = entry.manager ∧
          supply.generation = entry.generation ∧
          (∀ other ∈ state.supplied, other.manager = entry.manager →
            other.generation ≤ supply.generation) ∧
          state.endpoints entry.manager =
            deduplicateEndpoints supply.endpoints) ∧
      ∀ action after, state.Timely action →
        state.step action = some after →
        ∀ group old entry, state.cached.lookup group = some old →
          after.cached.lookup group = some entry →
          entry.manager = old.manager ∧ old.generation ≤ entry.generation ∧
            state.writer old.manager ≤ after.writer old.manager := by
  have consistent : state.Consistent :=
    invariant_of_meets Consistent consistent_new
      (fun _ _ _ holds met stepped => holds.step met stepped) timely ran
  constructor
  · intro idle group entry found
    rcases consistent.settled group entry found with waiting | given
    · obtain ⟨supply, listed, -⟩ := waiting
      rw [idle] at listed
      cases listed
    · obtain ⟨supply, listed, same, current, written⟩ := given
      refine ⟨supply, listed, same, current, ?_, written⟩
      intro other otherListed otherSame
      rw [current]
      exact consistent.newest group entry found other otherListed otherSame
  · intro action after met stepped group old entry before found
    exact step_not_older consistent met stepped before found


/-- A `reconcile` of generation `1` for the only group. -/
private def reconcilesOnce : List Action :=
  [.managerForGeneration "g" [⟨"a", 443⟩] 1,
    .reconcile 1 (AList.singleton "g" [⟨"b", 443⟩]),
    .finishUpdate 0]

theorem cached_list_after_reconcile :
    ∃ state, run step new reconcilesOnce = some state ∧
      ∃ supply ∈ state.supplied, supply.generation = 1 ∧
        state.endpoints 0 = deduplicateEndpoints supply.endpoints := by
  refine ⟨_, rfl, ?_⟩
  have timely : Meets step Timely new reconcilesOnce := by
    apply meets_cons trivial rfl
    apply meets_cons trivial rfl
    refine meets_cons ?_ rfl trivial
    intro supply waiting group entry found same
    cases waiting
    obtain ⟨old, stored, -, -, origin⟩ := lookup_reconcile found
    rcases origin with ⟨rfl, newer⟩ | ⟨-, current, -⟩
    · change AList.lookup group
        (AList.insert "g" ⟨0, 1⟩ (∅ : HashTable String CachedManager)) =
          some entry at stored
      rw [HashTable.lookup_insert_eq_if] at stored
      split at stored
      · cases stored
        exact Nat.le_refl 1
      · cases stored
    · exact Nat.le_of_eq current
  obtain ⟨supply, listed, -, generation, -, written⟩ :=
    (cached_lists_of_highest_generation timely rfl).1 rfl "g" ⟨0, 1⟩ rfl
  exact ⟨supply, listed, generation, written⟩

/-- A `reconcile` of generation `2` makes its update after a probe result of
generation `3` has arrived. -/
theorem late_update_overwrites_newer_list :
    ∃ state,
      run step new
          [.managerForGeneration "g" [⟨"a", 443⟩] 1,
            .reconcile 2 (AList.singleton "g" [⟨"b", 443⟩]),
            .updateEndpointsForGeneration "g" [⟨"c", 443⟩] 3,
            .finishUpdate 0] = some state ∧
        state.pending = [] ∧
        state.cached.lookup "g" = some ⟨0, 3⟩ ∧
        ∀ supply ∈ state.supplied, supply.manager = 0 →
          (∀ other ∈ state.supplied, other.manager = 0 →
            other.generation ≤ supply.generation) →
          state.endpoints 0 ≠ deduplicateEndpoints supply.endpoints := by
  refine ⟨_, rfl, rfl, rfl, ?_⟩
  intro supply listed _ highest
  have newest : 3 ≤ supply.generation := highest _ List.mem_cons_self rfl
  rcases List.mem_cons.mp listed with rfl | listed
  · decide
  · rcases List.mem_cons.mp listed with rfl | listed
    · exact absurd newest (by decide)
    · rcases List.mem_cons.mp listed with rfl | listed
      · exact absurd newest (by decide)
      · cases listed

/-! ## Groups that were removed -/

section Removed

variable {state : State} {generation : Nat}
  {groups : HashTable String (List L3NodeEndpoint)} {group : String}

theorem lookup_reconcile_removed {entry : CachedManager}
    (found : state.cached.lookup group = some entry)
    (older : entry.generation ≤ generation)
    (missing : groups.lookup group = none) :
    (state.reconcile generation groups).cached.lookup group = none := by
  rw [State.reconcile, HashTable.lookup_filterMapEntries, found]
  simp [reconciled, older, missing]

/-- `manager_for_generation` caches the group it is called for. -/
theorem lookup_managerForGeneration_self
    (absent : state.cached.lookup group = none)
    (endpoints : List L3NodeEndpoint) (tag : Nat) :
    (state.managerForGeneration group endpoints tag).cached.lookup group =
      some ⟨state.nextManager, tag⟩ := by
  rw [managerForGeneration, absent]
  rw [lookup_give, if_pos rfl]

/-- No other step caches a group. -/
theorem step_lookup_none {after : State} {action : Action}
    (absent : state.cached.lookup group = none)
    (other :
      ∀ endpoints tag, action ≠ .managerForGeneration group endpoints tag)
    (stepped : state.step action = some after) :
    after.cached.lookup group = none := by
  rcases step_cases stepped with
    rfl | ⟨changed, entry, supply, found, -, -, rfl⟩ |
      ⟨changed, endpoints, tag, rfl, -, rfl⟩ |
      ⟨tag, advertised, rfl, rfl⟩ | ⟨position, rfl, finished⟩
  · exact absent
  · rw [lookup_give, if_neg]
    · exact absent
    · intro same
      rw [← same, absent] at found
      cases found
  · rw [lookup_give, if_neg]
    · exact absent
    · intro same
      rw [same] at other
      exact other endpoints tag rfl
  · rw [State.reconcile, HashTable.lookup_filterMapEntries, absent]
    rfl
  · obtain ⟨supply, waiting, rfl⟩ := finishUpdate_eq_some finished
    exact absent

end Removed

/-- After a `reconcile` that removes a group, the group stays out of the cache
during the later operations, whatever generations they carry, exactly if
`manager_for_generation` is not called for it. -/
theorem removed_group_stays_out {state : State} {generation : Nat}
    {groups : HashTable String (List L3NodeEndpoint)} {group : String}
    {entry : CachedManager} (cached : state.cached.lookup group = some entry)
    (older : entry.generation ≤ generation)
    (missing : groups.lookup group = none) {later : List Action}
    {final : State}
    (ran : run step (state.reconcile generation groups) later = some final) :
    (state.reconcile generation groups).cached.lookup group = none ∧
      ((∀ past rest reached, later = past ++ rest →
          run step (state.reconcile generation groups) past = some reached →
          reached.cached.lookup group = none) ↔
        ∀ endpoints tag,
          .managerForGeneration group endpoints tag ∉ later) := by
  have removed := lookup_reconcile_removed cached older missing
  refine ⟨removed, ?_, ?_⟩
  · intro absent endpoints tag called
    obtain ⟨past, rest, split⟩ := List.append_of_mem called
    rw [split, run_append] at ran
    obtain ⟨middle, reached, -⟩ := Option.bind_eq_some_iff.mp ran
    have before := absent past _ middle split reached
    have stepped :
        run step (state.reconcile generation groups)
            (past ++ [.managerForGeneration group endpoints tag]) =
          some (middle.managerForGeneration group endpoints tag) :=
      run_snoc reached rfl
    have after := absent (past ++ [.managerForGeneration group endpoints tag])
      rest _ (by simp [split]) stepped
    rw [lookup_managerForGeneration_self before] at after
    cases after
  · intro uncalled past rest reached split ranPast
    have others :
        Meets step
          (fun _ action => ∀ endpoints tag,
            action ≠ .managerForGeneration group endpoints tag)
          (state.reconcile generation groups) past := by
      apply meets_of_forall
      intro _ action listed endpoints tag same
      apply uncalled endpoints tag
      rw [split, ← same]
      exact List.mem_append_left _ listed
    exact invariant_of_meets (fun middle => middle.cached.lookup group = none)
      removed
      (fun _ _ _ absent other stepped => step_lookup_none absent other stepped)
      others ranPast

/-- A probe result of generation `1` finds the group gone. -/
theorem removed_group_stays_out_after_probe :
    ∃ final,
      run step
          ((new.managerForGeneration "g" [⟨"a", 443⟩] 1).reconcile 2 ∅)
          [.updateEndpointsForGeneration "g" [⟨"a", 443⟩] 1] = some final ∧
        final.cached.lookup "g" = none := by
  refine ⟨_, rfl, ?_⟩
  have out :=
    (@removed_group_stays_out (new.managerForGeneration "g" [⟨"a", 443⟩] 1)
      2 ∅ "g" ⟨0, 1⟩ rfl (by decide) rfl
      [.updateEndpointsForGeneration "g" [⟨"a", 443⟩] 1] _ rfl).2
  refine out.mpr ?_ [.updateEndpointsForGeneration "g" [⟨"a", 443⟩] 1] [] _
    rfl rfl
  intro endpoints tag listed
  cases List.mem_singleton.mp listed

/-- A dispatch that holds the snapshot of generation `1` brings back the group
that generation `2` has removed. -/
theorem delayed_dispatch_resurrects_group :
    ∃ removed final,
      run step new
          [.managerForGeneration "g" [⟨"a", 443⟩] 1, .reconcile 2 ∅] =
        some removed ∧
      removed.cached.lookup "g" = none ∧
      run step removed [.managerForGeneration "g" [⟨"a", 443⟩] 1] =
        some final ∧
      final.cached.lookup "g" = some ⟨1, 1⟩ :=
  ⟨_, _, rfl, rfl, rfl, rfl⟩

end HermesAtrust.L3.ManagerCache
