import HermesAtrust.L3.Conntrack

/-!
# Laws of the conntrack table

The table keeps two maps, flow to entry and auth id to flow.  `WellFormed`
says that they are inverse to each other and that live ids have been handed
out.  Every operation keeps it, and what an operation does is stated once, as
its effect on the lookups by auth id and by flow.
-/

namespace HermesAtrust.L3

open HermesAtrust.Framing HermesAtrust.Collections

namespace ConntrackTable

/-- The two maps are inverse to each other and every live id has been
assigned. -/
structure WellFormed (table : ConntrackTable) : Prop where
  inverse :
    ∀ authId key, table.byId.lookup authId = some key ↔
      ∃ entry, table.byKey.lookup key = some entry ∧ entry.authId = authId
  stored_key :
    ∀ key entry, table.byKey.lookup key = some entry → entry.key = key
  bounded :
    ∀ key entry, table.byKey.lookup key = some entry →
      1 ≤ entry.authId ∧ entry.authId ≤ table.nextAuthId

section Lookup

variable {table : ConntrackTable}

/-- The entry under an auth id is the entry of its flow with that id. -/
theorem getByAuthId_eq_some (wf : table.WellFormed) {authId : Nat}
    {entry : ConntrackEntry} :
    table.getByAuthId authId = some entry ↔
      table.byKey.lookup entry.key = some entry ∧ entry.authId = authId := by
  constructor
  · intro found
    obtain ⟨key, keyed, held⟩ := Option.bind_eq_some_iff.mp found
    obtain ⟨other, sameKey, sameId⟩ := (wf.inverse authId key).mp keyed
    have same : other = entry := Option.some.inj (sameKey.symm.trans held)
    subst other
    rw [wf.stored_key key entry held]
    exact ⟨held, sameId⟩
  · rintro ⟨held, rfl⟩
    exact Option.bind_eq_some_iff.mpr
      ⟨entry.key, (wf.inverse _ _).mpr ⟨entry, held, rfl⟩, held⟩

theorem getByAuthId_of_lookup (wf : table.WellFormed) {key : FlowKey}
    {entry : ConntrackEntry} (held : table.byKey.lookup key = some entry) :
    table.getByAuthId entry.authId = some entry :=
  (getByAuthId_eq_some wf).mpr
    ⟨by rw [wf.stored_key key entry held]; exact held, rfl⟩

theorem getByAuthId_bounded (wf : table.WellFormed) {authId : Nat}
    {entry : ConntrackEntry} (live : table.getByAuthId authId = some entry) :
    1 ≤ authId ∧ authId ≤ table.nextAuthId := by
  obtain ⟨held, rfl⟩ := (getByAuthId_eq_some wf).mp live
  exact wf.bounded _ _ held

/-- The table of a lookup by flow determines the lookups by id. -/
theorem getByAuthId_congr {table' : ConntrackTable} (wf : table.WellFormed)
    (wf' : table'.WellFormed) {authId : Nat}
    (agree :
      ∀ entry, entry.authId = authId →
        (table.byKey.lookup entry.key = some entry ↔
          table'.byKey.lookup entry.key = some entry)) :
    table.getByAuthId authId = table'.getByAuthId authId := by
  ext entry
  rw [getByAuthId_eq_some wf, getByAuthId_eq_some wf']
  constructor
  · rintro ⟨held, same⟩
    exact ⟨(agree entry same).mp held, same⟩
  · rintro ⟨held, same⟩
    exact ⟨(agree entry same).mpr held, same⟩

end Lookup

/-! ## Rewriting one entry -/

section Replace

variable {table : ConntrackTable} {key : FlowKey}
  {entry changed : ConntrackEntry}

/-- Another entry of the same flow under the same id keeps the table well
formed. -/
theorem wellFormed_replace (wf : table.WellFormed)
    (held : table.byKey.lookup key = some entry)
    (sameKey : changed.key = entry.key)
    (sameId : changed.authId = entry.authId) :
    WellFormed { table with byKey := table.byKey.insert key changed } where
  inverse authId other := by
    rw [wf.inverse]
    simp only [HashTable.lookup_insert_eq_if]
    by_cases same : other = key
    · subst other
      rw [if_pos rfl, held]
      simp [sameId]
    · rw [if_neg same]
  stored_key other found := by
    simp only [HashTable.lookup_insert_eq_if]
    split
    · rename_i same
      intro isChanged
      cases isChanged
      rw [sameKey, same, wf.stored_key key entry held]
    · exact wf.stored_key other found
  bounded other found := by
    simp only [HashTable.lookup_insert_eq_if]
    split
    · intro isChanged
      cases isChanged
      rw [sameId]
      exact wf.bounded key entry held
    · exact wf.bounded other found

theorem getByAuthId_replace (wf : table.WellFormed)
    (held : table.byKey.lookup key = some entry)
    (sameKey : changed.key = entry.key)
    (sameId : changed.authId = entry.authId) (authId : Nat) :
    ({ table with byKey := table.byKey.insert key changed } :
        ConntrackTable).getByAuthId authId =
      if authId = entry.authId then some changed
      else table.getByAuthId authId := by
  have wf' := wellFormed_replace wf held sameKey sameId
  have entryKey := wf.stored_key key entry held
  split
  · rename_i same
    subst authId
    rw [getByAuthId_eq_some wf']
    simp [HashTable.lookup_insert_eq_if, sameKey, entryKey, sameId]
  · rename_i different
    refine getByAuthId_congr wf' wf ?_
    intro other otherId
    simp only [HashTable.lookup_insert_eq_if]
    by_cases same : other.key = key
    · rw [if_pos same, same, held]
      constructor
      · intro isChanged
        cases isChanged
        exact absurd (otherId.symm.trans sameId) different
      · intro isEntry
        cases isEntry
        exact absurd otherId.symm different
    · rw [if_neg same]

/-- Refreshing the idle clock of an entry. -/
theorem getByAuthId_refresh (wf : table.WellFormed)
    (held : table.byKey.lookup key = some entry) (now authId : Nat) :
    ({ table with
        byKey := table.byKey.insert key { entry with lastUsed := now } } :
        ConntrackTable).getByAuthId authId =
      if authId = entry.authId then some { entry with lastUsed := now }
      else table.getByAuthId authId := by
  refine getByAuthId_replace wf held ?_ ?_ authId
  · rfl
  · rfl

end Replace

/-- A change to an entry that leaves its identity alone. -/
structure KeepsIdentity (change : ConntrackEntry → ConntrackEntry) : Prop where
  key : ∀ entry, (change entry).key = entry.key
  authId : ∀ entry, (change entry).authId = entry.authId

section Modify

variable {table : ConntrackTable} {change : ConntrackEntry → ConntrackEntry}

theorem modifyByAuthId_eq (wf : table.WellFormed) (authId : Nat) :
    table.modifyByAuthId authId change =
      match table.getByAuthId authId with
      | none => table
      | some entry =>
          { table with
            byKey := table.byKey.insert entry.key (change entry) } := by
  unfold modifyByAuthId getByAuthId
  cases keyed : table.byId.lookup authId with
  | none => rfl
  | some key =>
      cases held : table.byKey.lookup key with
      | none => simp [held]
      | some entry => simp [held, wf.stored_key key entry held]

theorem wellFormed_modifyByAuthId (wf : table.WellFormed)
    (keeps : KeepsIdentity change) (authId : Nat) :
    (table.modifyByAuthId authId change).WellFormed := by
  rw [modifyByAuthId_eq wf]
  cases live : table.getByAuthId authId with
  | none => exact wf
  | some entry =>
      obtain ⟨held, -⟩ := (getByAuthId_eq_some wf).mp live
      exact wellFormed_replace wf held (keeps.key entry) (keeps.authId entry)

theorem getByAuthId_modifyByAuthId (wf : table.WellFormed)
    (keeps : KeepsIdentity change) (authId other : Nat) :
    (table.modifyByAuthId authId change).getByAuthId other =
      if other = authId then (table.getByAuthId authId).map change
      else table.getByAuthId other := by
  rw [modifyByAuthId_eq wf]
  cases live : table.getByAuthId authId with
  | none =>
      by_cases same : other = authId
      · simp [same, live]
      · rw [if_neg same]
  | some entry =>
      obtain ⟨held, rfl⟩ := (getByAuthId_eq_some wf).mp live
      exact getByAuthId_replace wf held (keeps.key entry)
        (keeps.authId entry) other

@[simp]
theorem nextAuthId_modifyByAuthId (authId : Nat) :
    (table.modifyByAuthId authId change).nextAuthId = table.nextAuthId := by
  unfold modifyByAuthId
  split
  · rfl
  · split <;> rfl

end Modify

/-! ## Removing entries -/

section Evict

variable {table : ConntrackTable}

theorem evict_of_none {key : FlowKey}
    (absent : table.byKey.lookup key = none) :
    table.evict key = (table, none) := by
  unfold evict
  rw [absent]

theorem evict_of_some {key : FlowKey} {entry : ConntrackEntry}
    (held : table.byKey.lookup key = some entry) :
    table.evict key =
      ({ table with
          byKey := table.byKey.erase key
          byId := table.byId.erase entry.authId }, some entry) := by
  unfold evict
  rw [held]

theorem lookup_evict (key other : FlowKey) :
    (table.evict key).1.byKey.lookup other =
      if other = key then none else table.byKey.lookup other := by
  cases held : table.byKey.lookup key with
  | none =>
      rw [evict_of_none held]
      split
      · rename_i same
        rw [same, held]
      · rfl
  | some entry =>
      rw [evict_of_some held]
      exact HashTable.lookup_erase_eq_if _ _ _

@[simp]
theorem nextAuthId_evict (key : FlowKey) :
    (table.evict key).1.nextAuthId = table.nextAuthId := by
  unfold evict
  split <;> rfl

theorem wellFormed_evict (wf : table.WellFormed) (key : FlowKey) :
    (table.evict key).1.WellFormed := by
  cases held : table.byKey.lookup key with
  | none =>
      rw [evict_of_none held]
      exact wf
  | some entry =>
      rw [evict_of_some held]
      refine ⟨?_, ?_, ?_⟩
      · intro authId other
        simp only [HashTable.lookup_erase_eq_if]
        by_cases sameId : authId = entry.authId
        · subst authId
          rw [if_pos rfl]
          constructor
          · intro impossible
            cases impossible
          · rintro ⟨found, located, foundId⟩
            by_cases same : other = key
            · simp [same] at located
            · rw [if_neg same] at located
              have again := getByAuthId_of_lookup wf located
              rw [foundId, getByAuthId_of_lookup wf held] at again
              cases again
              exact absurd
                ((wf.stored_key other _ located).symm.trans
                  (wf.stored_key key _ held)) same
        · rw [if_neg sameId, wf.inverse]
          constructor
          · rintro ⟨found, located, foundId⟩
            have different : other ≠ key := by
              rintro rfl
              rw [held] at located
              cases located
              exact sameId foundId.symm
            exact ⟨found, by rw [if_neg different]; exact located, foundId⟩
          · rintro ⟨found, located, foundId⟩
            by_cases same : other = key
            · simp [same] at located
            · rw [if_neg same] at located
              exact ⟨found, located, foundId⟩
      · intro other found located
        simp only [HashTable.lookup_erase_eq_if] at located
        split at located
        · cases located
        · exact wf.stored_key other found located
      · intro other found located
        simp only [HashTable.lookup_erase_eq_if] at located
        split at located
        · cases located
        · exact wf.bounded other found located

theorem getByAuthId_evict (wf : table.WellFormed) {key : FlowKey}
    {entry : ConntrackEntry} (held : table.byKey.lookup key = some entry)
    (authId : Nat) :
    (table.evict key).1.getByAuthId authId =
      if authId = entry.authId then none else table.getByAuthId authId := by
  have wf' := wellFormed_evict wf key
  split
  · rename_i same
    subst authId
    cases live : (table.evict key).1.getByAuthId entry.authId with
    | none => rfl
    | some found =>
        obtain ⟨located, foundId⟩ := (getByAuthId_eq_some wf').mp live
        rw [lookup_evict] at located
        split at located
        · cases located
        · rename_i different
          have again := getByAuthId_of_lookup wf located
          rw [foundId, getByAuthId_of_lookup wf held] at again
          cases again
          exact absurd (wf.stored_key key _ held) different
  · rename_i different
    refine getByAuthId_congr wf' wf ?_
    intro other otherId
    rw [lookup_evict]
    by_cases same : other.key = key
    · rw [if_pos same, same, held]
      constructor
      · intro impossible
        cases impossible
      · intro isEntry
        cases isEntry
        exact absurd otherId.symm different
    · rw [if_neg same]

theorem evictByAuthId_eq (wf : table.WellFormed) (authId : Nat) :
    table.evictByAuthId authId =
      match table.getByAuthId authId with
      | none => (table, none)
      | some entry => table.evict entry.key := by
  unfold evictByAuthId getByAuthId
  cases keyed : table.byId.lookup authId with
  | none => rfl
  | some key =>
      obtain ⟨entry, held, -⟩ := (wf.inverse authId key).mp keyed
      simp [held, wf.stored_key key entry held]

@[simp]
theorem nextAuthId_evictByAuthId (authId : Nat) :
    (table.evictByAuthId authId).1.nextAuthId = table.nextAuthId := by
  unfold evictByAuthId
  split
  · rfl
  · exact nextAuthId_evict _

theorem wellFormed_evictByAuthId (wf : table.WellFormed) (authId : Nat) :
    (table.evictByAuthId authId).1.WellFormed := by
  rw [evictByAuthId_eq wf]
  cases table.getByAuthId authId with
  | none => exact wf
  | some entry => exact wellFormed_evict wf entry.key

theorem getByAuthId_evictByAuthId (wf : table.WellFormed)
    (authId other : Nat) :
    (table.evictByAuthId authId).1.getByAuthId other =
      if other = authId then none else table.getByAuthId other := by
  rw [evictByAuthId_eq wf]
  cases live : table.getByAuthId authId with
  | none =>
      by_cases same : other = authId
      · simp [same, live]
      · rw [if_neg same]
  | some entry =>
      obtain ⟨held, rfl⟩ := (getByAuthId_eq_some wf).mp live
      exact getByAuthId_evict wf held other

theorem lookup_evictByAuthId (wf : table.WellFormed) {authId : Nat}
    {key : FlowKey} {entry : ConntrackEntry} :
    (table.evictByAuthId authId).1.byKey.lookup key = some entry ↔
      table.byKey.lookup key = some entry ∧ entry.authId ≠ authId := by
  have wf' := wellFormed_evictByAuthId wf authId
  constructor
  · intro held
    have live := getByAuthId_of_lookup wf' held
    rw [getByAuthId_evictByAuthId wf] at live
    split at live
    · cases live
    · rename_i different
      obtain ⟨held', -⟩ := (getByAuthId_eq_some wf).mp live
      rw [wf'.stored_key key entry held] at held'
      exact ⟨held', different⟩
  · rintro ⟨held, different⟩
    have live :
        (table.evictByAuthId authId).1.getByAuthId entry.authId =
          some entry := by
      rw [getByAuthId_evictByAuthId wf, if_neg different]
      exact getByAuthId_of_lookup wf held
    obtain ⟨held', -⟩ := (getByAuthId_eq_some wf').mp live
    rwa [wf.stored_key key entry held] at held'

theorem wellFormed_clear (table : ConntrackTable) : table.clear.1.WellFormed := by
  refine ⟨?_, ?_, ?_⟩
  · intro authId key
    simp [clear, AList.lookup_empty]
  · intro key entry held
    simp [clear, AList.lookup_empty] at held
  · intro key entry held
    simp [clear, AList.lookup_empty] at held

@[simp]
theorem getByAuthId_clear (table : ConntrackTable) (authId : Nat) :
    table.clear.1.getByAuthId authId = none := by
  unfold getByAuthId clear
  rw [AList.lookup_empty]
  rfl

end Evict

/-! ## Pruning -/

/-- What pruning may do: drop entries, but none with a request in flight. -/
structure Pruned (before after : ConntrackTable) : Prop where
  wellFormed : before.WellFormed → after.WellFormed
  nextAuthId : after.nextAuthId = before.nextAuthId
  sub :
    ∀ key entry, after.byKey.lookup key = some entry →
      before.byKey.lookup key = some entry
  keeps :
    ∀ key entry, before.byKey.lookup key = some entry →
      entry.authInFlight = true → after.byKey.lookup key = some entry

namespace Pruned

variable {first second third : ConntrackTable}

theorem refl (table : ConntrackTable) : Pruned table table where
  wellFormed wf := wf
  nextAuthId := rfl
  sub _ _ held := held
  keeps _ _ held _ := held

theorem trans (left : Pruned first second) (right : Pruned second third) :
    Pruned first third where
  wellFormed wf := right.wellFormed (left.wellFormed wf)
  nextAuthId := right.nextAuthId.trans left.nextAuthId
  sub key entry held := left.sub key entry (right.sub key entry held)
  keeps key entry held flying :=
    right.keeps key entry (left.keeps key entry held flying) flying

/-- Evicting a settled flow is pruning. -/
theorem evict {table : ConntrackTable} {key : FlowKey}
    (settled :
      ∀ entry, table.byKey.lookup key = some entry →
        entry.authInFlight = false) : Pruned table (table.evict key).1 where
  wellFormed wf := wellFormed_evict wf key
  nextAuthId := nextAuthId_evict key
  sub other entry held := by
    rw [lookup_evict] at held
    split at held
    · cases held
    · exact held
  keeps other entry held flying := by
    rw [lookup_evict]
    split
    · rename_i same
      subst other
      rw [settled entry held] at flying
      cases flying
    · exact held

/-- A live entry survives, or it was not in flight and is gone. -/
theorem getByAuthId (pruned : Pruned first second) (wf : first.WellFormed)
    (authId : Nat) :
    second.getByAuthId authId = first.getByAuthId authId ∨
      (second.getByAuthId authId = none ∧
        ∀ entry, first.getByAuthId authId = some entry →
          entry.authInFlight = false) := by
  have wf' := pruned.wellFormed wf
  cases live : second.getByAuthId authId with
  | some entry =>
      obtain ⟨held, same⟩ := (getByAuthId_eq_some wf').mp live
      left
      exact ((getByAuthId_eq_some wf).mpr
        ⟨pruned.sub _ _ held, same⟩).symm
  | none =>
      right
      refine ⟨rfl, ?_⟩
      intro entry before
      obtain ⟨held, same⟩ := (getByAuthId_eq_some wf).mp before
      cases flying : entry.authInFlight with
      | false => rfl
      | true =>
          have kept := pruned.keeps _ _ held flying
          rw [(getByAuthId_eq_some wf').mpr ⟨kept, same⟩] at live
          cases live

/-- What is live after pruning was live before. -/
theorem live_before (pruned : Pruned first second) (wf : first.WellFormed)
    {authId : Nat} {entry : ConntrackEntry}
    (live : second.getByAuthId authId = some entry) :
    first.getByAuthId authId = some entry := by
  rcases pruned.getByAuthId wf authId with same | ⟨gone, -⟩
  · rw [← same]
    exact live
  · rw [gone] at live
    cases live

end Pruned

theorem pruned_evictAll {table : ConntrackTable} {keys : List FlowKey}
    (settled :
      ∀ key ∈ keys, ∀ entry, table.byKey.lookup key = some entry →
        entry.authInFlight = false) : Pruned table (table.evictAll keys) := by
  induction keys generalizing table with
  | nil => exact Pruned.refl table
  | cons key later inductionHypothesis =>
      have first : Pruned table (table.evict key).1 :=
        Pruned.evict (settled key (by simp))
      refine first.trans (inductionHypothesis ?_)
      intro other member entry held
      exact settled other (List.mem_cons_of_mem _ member) entry
        (first.sub other entry held)

theorem pruned_trimToCapacity (order : IterationOrder ConntrackEntry)
    (reserve : Bool) (fuel : Nat) (table : ConntrackTable)
    (wf : table.WellFormed) :
    Pruned table (trimToCapacity order reserve fuel table).1 := by
  induction fuel generalizing table with
  | zero => exact Pruned.refl table
  | succ fuel inductionHypothesis =>
      unfold trimToCapacity
      split
      · split
        · exact Pruned.refl table
        · rename_i victim chosen
          have candidate := List.argmin_mem chosen
          obtain ⟨member, settled⟩ := List.mem_filter.mp candidate
          obtain ⟨key, held⟩ :=
            HashTable.mem_values.mp (order.mem_arrange.mp member)
          have victimKey := wf.stored_key key victim held
          have evicted : Pruned table (table.evict victim.key).1 := by
            refine Pruned.evict ?_
            intro entry found
            rw [victimKey, held] at found
            cases found
            simpa using settled
          exact evicted.trans
            (inductionHypothesis _ (evicted.wellFormed wf))
      · exact Pruned.refl table

theorem pruned_pruneAtWithRoom {table : ConntrackTable}
    (wf : table.WellFormed) (order : IterationOrder ConntrackEntry)
    (now : Nat) (reserve : Bool) :
    Pruned table (table.pruneAtWithRoom order now reserve).1 := by
  unfold pruneAtWithRoom
  have swept :
      Pruned table
        (table.evictAll
          (((order.arrange (HashTable.values table.byKey)).filter
            (·.expired table.idleTtl now)).map (·.key))) := by
    refine pruned_evictAll ?_
    intro key member entry held
    obtain ⟨found, expired, rfl⟩ := List.mem_map.mp member
    obtain ⟨stored, old⟩ := List.mem_filter.mp expired
    obtain ⟨key, held'⟩ :=
      HashTable.mem_values.mp (order.mem_arrange.mp stored)
    rw [wf.stored_key key found held', held'] at held
    cases held
    have settled : (!entry.authInFlight) = true :=
      (Bool.and_eq_true_iff.mp old).1
    simpa using settled
  exact swept.trans
    (pruned_trimToCapacity order reserve _ _ (swept.wellFormed wf))

/-- The time of the last sweep does not matter for what is stored. -/
private theorem pruned_lastSweep (table : ConntrackTable) (now : Nat) :
    Pruned table { table with lastSweep := now } where
  wellFormed wf := ⟨wf.inverse, wf.stored_key, wf.bounded⟩
  nextAuthId := rfl
  sub _ _ held := held
  keeps _ _ held _ := held

theorem pruned_maintainForFlow {table : ConntrackTable}
    (wf : table.WellFormed) (order : IterationOrder ConntrackEntry)
    (key : FlowKey) (now : Nat) :
    Pruned table (table.maintainForFlow order key now).1 := by
  unfold maintainForFlow
  simp only
  split
  · exact Pruned.refl table
  · have stamped := pruned_lastSweep table now
    exact stamped.trans
      (pruned_pruneAtWithRoom (stamped.wellFormed wf) order now _)

/-! ## Creating and refreshing entries -/

section Create

variable {table : ConntrackTable} {key : FlowKey} {appId nodeGroupId : String}
  {now : Nat}

theorem nextId_eq (room : table.nextAuthId + 1 < authIdSpace) :
    table.nextId = table.nextAuthId + 1 :=
  Nat.mod_eq_of_lt room

theorem nextAuthId_create (room : table.nextAuthId + 1 < authIdSpace) :
    (table.create key appId nodeGroupId now).nextAuthId =
      table.nextAuthId + 1 :=
  nextId_eq room

theorem lookup_create (other : FlowKey) :
    (table.create key appId nodeGroupId now).byKey.lookup other =
      if other = key then
        some (freshEntry key table.nextId appId nodeGroupId now)
      else
        table.byKey.lookup other :=
  HashTable.lookup_insert_eq_if _ _ _ _

theorem wellFormed_create (wf : table.WellFormed)
    (absent : table.byKey.lookup key = none)
    (room : table.nextAuthId + 1 < authIdSpace) :
    (table.create key appId nodeGroupId now).WellFormed := by
  refine ⟨?_, ?_, ?_⟩
  · intro authId other
    rw [lookup_create]
    change (table.byId.insert table.nextId key).lookup authId = some other ↔ _
    rw [HashTable.lookup_insert_eq_if, nextId_eq room]
    by_cases sameId : authId = table.nextAuthId + 1
    · rw [if_pos sameId]
      by_cases same : other = key
      · simp [same, sameId, freshEntry]
      · rw [if_neg same]
        constructor
        · intro isKey
          cases isKey
          exact absurd rfl same
        · rintro ⟨entry, held, entryId⟩
          have bound := (wf.bounded other entry held).2
          omega
    · rw [if_neg sameId, wf.inverse]
      by_cases same : other = key
      · subst other
        rw [if_pos rfl, absent]
        simp [freshEntry, Ne.symm sameId]
      · rw [if_neg same]
  · intro other entry
    rw [lookup_create]
    split
    · rename_i same
      intro isFresh
      cases isFresh
      exact same.symm
    · exact wf.stored_key other entry
  · intro other entry
    rw [lookup_create, nextAuthId_create room, nextId_eq room]
    split
    · intro isFresh
      cases isFresh
      simp [freshEntry]
    · intro held
      have bound := wf.bounded other entry held
      omega

theorem getByAuthId_create (wf : table.WellFormed)
    (absent : table.byKey.lookup key = none)
    (room : table.nextAuthId + 1 < authIdSpace) (authId : Nat) :
    (table.create key appId nodeGroupId now).getByAuthId authId =
      if authId = table.nextAuthId + 1 then
        some (freshEntry key (table.nextAuthId + 1) appId nodeGroupId now)
      else
        table.getByAuthId authId := by
  have wf' : (table.create key appId nodeGroupId now).WellFormed :=
    wellFormed_create wf absent room
  split
  · rename_i same
    subst authId
    rw [getByAuthId_eq_some wf', lookup_create, nextId_eq room]
    simp [freshEntry]
  · rename_i different
    refine getByAuthId_congr wf' wf ?_
    intro entry entryId
    rw [lookup_create]
    by_cases same : entry.key = key
    · rw [if_pos same, same, absent, nextId_eq room]
      constructor
      · intro isFresh
        cases isFresh
        exact absurd entryId.symm different
      · intro impossible
        cases impossible
    · rw [if_neg same]

theorem getOrCreateAt_of_some {entry : ConntrackEntry}
    (held : table.byKey.lookup key = some entry)
    (own : foreign appId nodeGroupId entry = false) :
    table.getOrCreateAt key appId nodeGroupId now =
      { table with
        byKey := table.byKey.insert key { entry with lastUsed := now } } := by
  unfold getOrCreateAt
  simp [held, own]

theorem getOrCreateAt_of_none (absent : table.byKey.lookup key = none) :
    table.getOrCreateAt key appId nodeGroupId now =
      table.create key appId nodeGroupId now := by
  unfold getOrCreateAt
  simp [absent]

theorem getOrCreateAt_of_foreign {entry : ConntrackEntry}
    (held : table.byKey.lookup key = some entry)
    (other : foreign appId nodeGroupId entry = true) :
    table.getOrCreateAt key appId nodeGroupId now =
      (table.evict key).1.create key appId nodeGroupId now := by
  have gone : (table.evict key).1.byKey.lookup key = none := by
    rw [lookup_evict, if_pos rfl]
  unfold getOrCreateAt
  simp [held, other, gone]

theorem touchAt_of_none (absent : table.byKey.lookup key = none) :
    table.touchAt key now = (table, false) := by
  unfold touchAt
  rw [absent]

theorem touchAt_of_some {entry : ConntrackEntry}
    (held : table.byKey.lookup key = some entry) :
    table.touchAt key now =
      ({ table with
          byKey := table.byKey.insert key { entry with lastUsed := now } },
        true) := by
  unfold touchAt
  rw [held]

end Create

/-! ## Changes to a single entry -/

theorem keepsIdentity_complete (outcome : AuthOutcome) :
    KeepsIdentity (·.complete outcome) where
  key entry := by
    unfold ConntrackEntry.complete
    split <;> rfl
  authId entry := by
    unfold ConntrackEntry.complete
    split <;> rfl

theorem keepsIdentity_tryStartAuth (now : Nat) :
    KeepsIdentity fun entry => (entry.tryStartAuth now).1 where
  key entry := by
    unfold ConntrackEntry.tryStartAuth
    split <;> rfl
  authId entry := by
    unfold ConntrackEntry.tryStartAuth
    split <;> rfl

theorem keepsIdentity_setReusableFrame (frame : Bytes) (deadline : Nat) :
    KeepsIdentity (·.setReusableFrame frame deadline) where
  key _ := rfl
  authId _ := rfl

theorem keepsIdentity_scheduleRetry (budget : Nat) :
    KeepsIdentity fun entry => (entry.scheduleRetry budget).1 where
  key entry := by
    unfold ConntrackEntry.scheduleRetry
    split <;> rfl
  authId entry := by
    unfold ConntrackEntry.scheduleRetry
    split <;> rfl

theorem keepsIdentity_takeRetry :
    KeepsIdentity fun entry => entry.takeRetry.1 where
  key entry := by
    unfold ConntrackEntry.takeRetry
    split <;> rfl
  authId entry := by
    unfold ConntrackEntry.takeRetry
    split <;> rfl

end ConntrackTable

end HermesAtrust.L3
