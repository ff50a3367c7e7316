import HermesAtrust.L3.ConntrackRuns

/-!
# What pruning removes

A prune pass first drops the settled entries that have been idle for the time
to live and then, while the table is too full, the settled entry that was used
longest ago.  The results hold for every order in which the table may be walked
and for every table that a run can reach: they need only that an entry is
stored under its own key.
-/

namespace HermesAtrust.L3

open HermesAtrust.Framing HermesAtrust.Collections

namespace ConntrackTable

/-- Every entry is stored under its own key. -/
def Keyed (table : ConntrackTable) : Prop :=
  ∀ key entry, table.byKey.lookup key = some entry → entry.key = key

/-- The stored entries. -/
def stored (table : ConntrackTable) : List ConntrackEntry :=
  HashTable.values table.byKey

/-- A table of this size is trimmed. -/
def Over (table : ConntrackTable) (reserve : Bool) (size : Nat) : Prop :=
  table.capacity < size ∨ (reserve = true ∧ size = table.capacity)

section Stored

variable {table : ConntrackTable}

theorem length_stored (table : ConntrackTable) :
    table.stored.length = table.len :=
  List.length_map ..

theorem mem_stored (keyed : table.Keyed) {entry : ConntrackEntry} :
    entry ∈ table.stored ↔ table.byKey.lookup entry.key = some entry := by
  rw [stored, HashTable.mem_values]
  constructor
  · intro found
    obtain ⟨key, held⟩ := found
    rw [keyed key entry held]
    exact held
  · intro held
    exact ⟨entry.key, held⟩

theorem getByKey_eq_some (keyed : table.Keyed) {key : FlowKey}
    {entry : ConntrackEntry} :
    table.getByKey key = some entry ↔ entry ∈ table.stored ∧ entry.key = key := by
  rw [mem_stored keyed, getByKey]
  constructor
  · intro held
    have own := keyed key entry held
    rw [own]
    exact ⟨held, rfl⟩
  · intro held
    rw [← held.2]
    exact held.1

theorem keyed_evict (keyed : table.Keyed) (key : FlowKey) :
    (table.evict key).1.Keyed := by
  intro other entry held
  rw [lookup_evict] at held
  split at held
  · cases held
  · exact keyed other entry held

theorem capacity_evict (key : FlowKey) :
    (table.evict key).1.capacity = table.capacity := by
  cases held : table.byKey.lookup key with
  | none => rw [evict_of_none held]
  | some entry => rw [evict_of_some held]

/-- Evicting a stored entry takes exactly that entry away. -/
theorem stored_evict_perm (keyed : table.Keyed) {entry : ConntrackEntry}
    (member : entry ∈ table.stored) :
    table.stored.Perm (entry :: (table.evict entry.key).1.stored) := by
  have held := (mem_stored keyed).mp member
  rw [evict_of_some held]
  exact HashTable.values_perm_of_lookup held

theorem len_evict (keyed : table.Keyed) {entry : ConntrackEntry}
    (member : entry ∈ table.stored) :
    table.len = (table.evict entry.key).1.len + 1 := by
  have sizes := (stored_evict_perm keyed member).length_eq
  rw [List.length_cons, length_stored, length_stored] at sizes
  exact sizes

end Stored

/-! ## The expiry sweep -/

/-- The entries that the sweep finds expired, in the order of the walk. -/
def expiredEntries (table : ConntrackTable)
    (order : IterationOrder ConntrackEntry) (now : Nat) :
    List ConntrackEntry :=
  (order.arrange table.stored).filter (·.expired table.idleTtl now)

/-- The table after the expiry sweep. -/
def sweep (table : ConntrackTable) (order : IterationOrder ConntrackEntry)
    (now : Nat) : ConntrackTable :=
  table.evictAll ((table.expiredEntries order now).map (·.key))

theorem pruneAtWithRoom_eq (table : ConntrackTable)
    (order : IterationOrder ConntrackEntry) (now : Nat) (reserve : Bool) :
    table.pruneAtWithRoom order now reserve =
      ((trimToCapacity order reserve (table.sweep order now).len
          (table.sweep order now)).1,
        { expired := (table.expiredEntries order now).length
          evictedForCapacity :=
            (trimToCapacity order reserve (table.sweep order now).len
              (table.sweep order now)).2
          entries :=
            (trimToCapacity order reserve (table.sweep order now).len
              (table.sweep order now)).1.len }) := by
  have counted :
      ((table.expiredEntries order now).map (·.key)).length =
        (table.expiredEntries order now).length :=
    List.length_map ..
  rw [← counted]
  rfl

section Sweep

variable {table : ConntrackTable}

/-- Evicting the keys of a part of the entries leaves the other part. -/
theorem evictAll_part {gone rest : List ConntrackEntry}
    (keyed : table.Keyed) (parts : table.stored.Perm (gone ++ rest)) :
    (table.evictAll (gone.map (·.key))).Keyed ∧
      (table.evictAll (gone.map (·.key))).capacity = table.capacity ∧
      (table.evictAll (gone.map (·.key))).stored.Perm rest := by
  induction gone generalizing table with
  | nil => exact ⟨keyed, rfl, parts⟩
  | cons entry later inductionHypothesis =>
      have member : entry ∈ table.stored :=
        parts.mem_iff.mpr (List.mem_cons_self ..)
      have without :
          (table.evict entry.key).1.stored.Perm (later ++ rest) :=
        ((stored_evict_perm keyed member).symm.trans parts).cons_inv
      obtain ⟨keyed', capacity, left⟩ :=
        inductionHypothesis (keyed_evict keyed entry.key) without
      exact ⟨keyed', capacity.trans (capacity_evict entry.key), left⟩

theorem stored_parts (table : ConntrackTable)
    (order : IterationOrder ConntrackEntry) (now : Nat) :
    table.stored.Perm
      (table.expiredEntries order now ++
        (order.arrange table.stored).filter
          fun entry => !entry.expired table.idleTtl now) := by
  have split :=
    List.filter_append_perm (fun entry : ConntrackEntry =>
      entry.expired table.idleTtl now) (order.arrange table.stored)
  exact (order.perm table.stored).symm.trans split.symm

theorem keyed_sweep (keyed : table.Keyed)
    (order : IterationOrder ConntrackEntry) (now : Nat) :
    (table.sweep order now).Keyed :=
  (evictAll_part keyed (table.stored_parts order now)).1

theorem capacity_sweep (keyed : table.Keyed)
    (order : IterationOrder ConntrackEntry) (now : Nat) :
    (table.sweep order now).capacity = table.capacity :=
  (evictAll_part keyed (table.stored_parts order now)).2.1

/-- The sweep leaves the entries that have not expired. -/
theorem stored_sweep_perm (keyed : table.Keyed)
    (order : IterationOrder ConntrackEntry) (now : Nat) :
    (table.sweep order now).stored.Perm
      (table.stored.filter fun entry => !entry.expired table.idleTtl now) :=
  (evictAll_part keyed (table.stored_parts order now)).2.2.trans
    ((order.perm table.stored).filter _)

theorem stored_eq_expired_append (keyed : table.Keyed)
    (order : IterationOrder ConntrackEntry) (now : Nat) :
    table.stored.Perm
      (table.expiredEntries order now ++ (table.sweep order now).stored) :=
  (table.stored_parts order now).trans
    ((evictAll_part keyed (table.stored_parts order now)).2.2.symm.append_left
      _)

end Sweep

/-! ## The capacity loop -/

/-- The settled entries, in the order of the walk. -/
def settledEntries (table : ConntrackTable)
    (order : IterationOrder ConntrackEntry) : List ConntrackEntry :=
  (order.arrange table.stored).filter fun entry => !entry.authInFlight

section Candidates

variable {table : ConntrackTable} {order : IterationOrder ConntrackEntry}

theorem mem_settledEntries {entry : ConntrackEntry} :
    entry ∈ table.settledEntries order ↔
      entry ∈ table.stored ∧ entry.authInFlight = false := by
  rw [settledEntries, List.mem_filter, order.mem_arrange]
  simp

end Candidates

/-- One turn of the loop evicts the settled entry used longest ago. -/
structure Turn (order : IterationOrder ConntrackEntry) (reserve : Bool)
    (table : ConntrackTable) (victim : ConntrackEntry) : Prop where
  overfull : table.Over reserve table.len
  chosen : (table.settledEntries order).argmin (·.lastUsed) = some victim

/-- The loop leaves: the table has room, or nothing settled is left. -/
def AtRest (reserve : Bool) (table : ConntrackTable) : Prop :=
  ¬ table.Over reserve table.len ∨
    ∀ entry ∈ table.stored, entry.authInFlight = true

section Turn

variable {order : IterationOrder ConntrackEntry} {reserve : Bool}
  {table : ConntrackTable}

theorem Turn.settled {victim : ConntrackEntry}
    (turn : Turn order reserve table victim) :
    victim ∈ table.stored ∧ victim.authInFlight = false :=
  mem_settledEntries.mp (List.argmin_mem turn.chosen)

theorem Turn.oldest {victim entry : ConntrackEntry}
    (turn : Turn order reserve table victim) (member : entry ∈ table.stored)
    (settled : entry.authInFlight = false) :
    victim.lastUsed ≤ entry.lastUsed :=
  List.le_of_mem_argmin (mem_settledEntries.mpr ⟨member, settled⟩)
    turn.chosen

theorem trimToCapacity_of_turn {victim : ConntrackEntry}
    (turn : Turn order reserve table victim) (fuel : Nat) :
    trimToCapacity order reserve (fuel + 1) table =
      ((trimToCapacity order reserve fuel (table.evict victim.key).1).1,
        (trimToCapacity order reserve fuel
          (table.evict victim.key).1).2 + 1) := by
  have overfull := turn.overfull
  have chosen := turn.chosen
  rw [Over] at overfull
  rw [settledEntries, stored] at chosen
  rw [trimToCapacity, if_pos overfull, chosen]

theorem trimToCapacity_of_atRest (rest : AtRest reserve table) (fuel : Nat) :
    trimToCapacity order reserve fuel table = (table, 0) := by
  cases fuel with
  | zero => rfl
  | succ fuel =>
      rw [trimToCapacity]
      split
      · rename_i overfull
        have flying := rest.resolve_left fun room => room overfull
        have none_settled : table.settledEntries order = [] := by
          apply List.eq_nil_iff_forall_not_mem.mpr
          intro entry candidate
          obtain ⟨member, settled⟩ := mem_settledEntries.mp candidate
          rw [flying entry member] at settled
          cases settled
        rw [settledEntries, stored] at none_settled
        rw [none_settled]
        rfl
      · rfl

theorem atRest_or_turn (order : IterationOrder ConntrackEntry)
    (reserve : Bool) (table : ConntrackTable) :
    AtRest reserve table ∨ ∃ victim, Turn order reserve table victim := by
  by_cases overfull : table.Over reserve table.len
  · cases chosen : (table.settledEntries order).argmin (·.lastUsed) with
    | some victim => exact Or.inr ⟨victim, overfull, chosen⟩
    | none =>
        have none_settled := List.argmin_eq_none.mp chosen
        apply Or.inl
        apply Or.inr
        intro entry member
        by_contra settled
        have candidate : entry ∈ table.settledEntries order :=
          mem_settledEntries.mpr ⟨member, Bool.eq_false_iff.mpr settled⟩
        rw [none_settled] at candidate
        cases candidate
  · exact Or.inl (Or.inl overfull)

end Turn

/-- What the loop does: `victims` are the evicted entries, and each was chosen
in a turn that had all the entries that stay still before it. -/
structure Trimmed (order : IterationOrder ConntrackEntry) (reserve : Bool)
    (before after : ConntrackTable) (victims : List ConntrackEntry) :
    Prop where
  keyed : after.Keyed
  capacity : after.capacity = before.capacity
  parts : before.stored.Perm (victims ++ after.stored)
  chosen :
    ∀ victim ∈ victims, ∃ middle, Turn order reserve middle victim ∧
      ∀ entry ∈ after.stored, entry ∈ middle.stored ∧ entry ≠ victim
  needed : victims ≠ [] → before.Over reserve (after.len + 1)

section Trimmed

variable {order : IterationOrder ConntrackEntry} {reserve : Bool}
  {table after : ConntrackTable} {victims : List ConntrackEntry}

theorem Trimmed.refl (keyed : table.Keyed) :
    Trimmed order reserve table table [] where
  keyed := keyed
  capacity := rfl
  parts := List.Perm.refl _
  chosen victim member := by cases member
  needed some_victim := (some_victim rfl).elim

theorem Trimmed.settled {victim : ConntrackEntry}
    (trimmed : Trimmed order reserve table after victims)
    (member : victim ∈ victims) : victim.authInFlight = false := by
  obtain ⟨middle, turn, -⟩ := trimmed.chosen victim member
  exact turn.settled.2

theorem Trimmed.oldest {victim entry : ConntrackEntry}
    (trimmed : Trimmed order reserve table after victims)
    (member : victim ∈ victims) (survivor : entry ∈ after.stored)
    (settled : entry.authInFlight = false) :
    victim.lastUsed ≤ entry.lastUsed := by
  obtain ⟨middle, turn, present⟩ := trimmed.chosen victim member
  exact turn.oldest (present entry survivor).1 settled

theorem over_evict {key : FlowKey} {size : Nat} :
    (table.evict key).1.Over reserve size ↔ table.Over reserve size := by
  unfold Over
  rw [capacity_evict]

theorem mem_stored_evict {key : FlowKey} {entry : ConntrackEntry}
    (keyed : table.Keyed) (left : entry ∈ (table.evict key).1.stored) :
    entry ∈ table.stored ∧ entry.key ≠ key := by
  have held := (mem_stored (keyed_evict keyed key)).mp left
  rw [lookup_evict] at held
  split at held
  · cases held
  · rename_i different
    exact ⟨(mem_stored keyed).mpr held, different⟩

/-- A turn before a trimmed rest. -/
theorem Trimmed.cons {victim : ConntrackEntry} (keyed : table.Keyed)
    (turn : Turn order reserve table victim)
    (rest : Trimmed order reserve (table.evict victim.key).1 after victims) :
    Trimmed order reserve table after (victim :: victims) := by
  obtain ⟨member, settled⟩ := turn.settled
  refine ⟨rest.keyed, rest.capacity.trans (capacity_evict _),
    (stored_evict_perm keyed member).trans (rest.parts.cons victim), ?_, ?_⟩
  · intro evicted chosen
    rcases List.mem_cons.mp chosen with first | later
    · rw [first]
      refine ⟨table, turn, ?_⟩
      intro entry survivor
      have left : entry ∈ (table.evict victim.key).1.stored :=
        rest.parts.mem_iff.mpr (List.mem_append_right _ survivor)
      obtain ⟨former, different⟩ := mem_stored_evict keyed left
      refine ⟨former, ?_⟩
      intro same
      rw [same] at different
      exact different rfl
    · exact rest.chosen evicted later
  · intro _
    by_cases last : victims = []
    · have sizes := rest.parts.length_eq
      rw [last, List.nil_append, length_stored, length_stored] at sizes
      rw [← sizes, ← len_evict keyed member]
      exact turn.overfull
    · exact over_evict.mp (rest.needed last)

/-- With a turn for every entry the loop comes to rest. -/
theorem trimmed_trimToCapacity (order : IterationOrder ConntrackEntry)
    (reserve : Bool) (fuel : Nat) (keyed : table.Keyed)
    (enough : table.len ≤ fuel) :
    ∃ victims,
      victims.length = (trimToCapacity order reserve fuel table).2 ∧
        Trimmed order reserve table
          (trimToCapacity order reserve fuel table).1 victims ∧
        AtRest reserve (trimToCapacity order reserve fuel table).1 := by
  induction fuel generalizing table with
  | zero =>
      have empty : table.stored = [] := by
        apply List.length_eq_zero_iff.mp
        rw [length_stored]
        exact Nat.le_zero.mp enough
      refine ⟨[], rfl, Trimmed.refl keyed, Or.inr ?_⟩
      intro entry member
      rw [trimToCapacity, empty] at member
      cases member
  | succ fuel inductionHypothesis =>
      rcases atRest_or_turn order reserve table with rest | ⟨victim, turn⟩
      · rw [trimToCapacity_of_atRest rest]
        exact ⟨[], rfl, Trimmed.refl keyed, rest⟩
      · have smaller := len_evict keyed turn.settled.1
        obtain ⟨victims, counted, trimmed, rest⟩ :=
          inductionHypothesis (keyed_evict keyed victim.key) (by omega)
        rw [trimToCapacity_of_turn turn]
        exact ⟨victim :: victims, by rw [List.length_cons, counted],
          trimmed.cons keyed turn, rest⟩

/-- More turns change nothing. -/
theorem trimToCapacity_stable (order : IterationOrder ConntrackEntry)
    (reserve : Bool) {fuel more : Nat} (keyed : table.Keyed)
    (enough : table.len ≤ fuel) (further : fuel ≤ more) :
    trimToCapacity order reserve more table =
      trimToCapacity order reserve fuel table := by
  induction fuel generalizing table more with
  | zero =>
      have empty : table.stored = [] := by
        apply List.length_eq_zero_iff.mp
        rw [length_stored]
        exact Nat.le_zero.mp enough
      have rest : AtRest reserve table := by
        apply Or.inr
        intro entry member
        rw [empty] at member
        cases member
      rw [trimToCapacity_of_atRest rest, trimToCapacity_of_atRest rest]
  | succ fuel inductionHypothesis =>
      rcases atRest_or_turn order reserve table with rest | ⟨victim, turn⟩
      · rw [trimToCapacity_of_atRest rest, trimToCapacity_of_atRest rest]
      · have smaller := len_evict keyed turn.settled.1
        obtain ⟨turns, rfl⟩ := Nat.exists_eq_add_of_le further
        have one_more : fuel + 1 + turns = fuel + turns + 1 := by omega
        rw [one_more, trimToCapacity_of_turn turn,
          trimToCapacity_of_turn turn,
          inductionHypothesis (keyed_evict keyed victim.key) (by omega)
            (Nat.le_add_right fuel turns)]

end Trimmed

/-! ## A whole pass -/

/-- What a prune pass that frees room for one more entry, if `reserve` is set,
does to a table. -/
structure PrunedExactly (before : ConntrackTable) (now : Nat) (reserve : Bool)
    (after : ConntrackTable) (outcome : PruneOutcome) : Prop where
  /-- The pass adds and rewrites nothing. -/
  former :
    ∀ key entry, after.getByKey key = some entry →
      before.getByKey key = some entry
  in_flight_kept :
    ∀ key entry, before.getByKey key = some entry →
      entry.authInFlight = true → after.getByKey key = some entry
  none_idle :
    ∀ key entry, after.getByKey key = some entry →
      entry.authInFlight = false → now - entry.lastUsed < before.idleTtl
  room :
    (after.len ≤ before.capacity ∧
        (reserve = true → after.len < before.capacity)) ∨
      ∀ key entry, after.getByKey key = some entry →
        entry.authInFlight = true
  /-- The entries that left are the expired ones and the victims of the
  capacity loop; the victims are settled, were used no later than any settled
  entry that stays, and with one of them left the table would be too full. -/
  removed :
    ∃ expired victims : List ConntrackEntry,
      before.stored.Perm (expired ++ (victims ++ after.stored)) ∧
        expired.length = outcome.expired ∧
        victims.length = outcome.evictedForCapacity ∧
        (∀ entry ∈ expired, entry.expired before.idleTtl now = true) ∧
        (∀ victim ∈ victims, victim.authInFlight = false ∧
          ∀ key entry, after.getByKey key = some entry →
            entry.authInFlight = false →
              victim.lastUsed ≤ entry.lastUsed) ∧
        (victims ≠ [] → before.Over reserve (after.len + 1))
  counted :
    outcome.expired + outcome.evictedForCapacity + after.len = before.len
  entries : outcome.entries = after.len

section Pass

variable {table : ConntrackTable}

theorem keyed_pruneAtWithRoom (keyed : table.Keyed)
    (order : IterationOrder ConntrackEntry) (now : Nat) (reserve : Bool) :
    (table.pruneAtWithRoom order now reserve).1.Keyed := by
  obtain ⟨victims, -, trimmed, -⟩ :=
    trimmed_trimToCapacity order reserve (table.sweep order now).len
      (keyed_sweep keyed order now) le_rfl
  exact trimmed.keyed

theorem prunedExactly_pruneAtWithRoom (keyed : table.Keyed)
    (order : IterationOrder ConntrackEntry) (now : Nat) (reserve : Bool) :
    PrunedExactly table now reserve
      (table.pruneAtWithRoom order now reserve).1
      (table.pruneAtWithRoom order now reserve).2 := by
  obtain ⟨victims, counted, trimmed, rest⟩ :=
    trimmed_trimToCapacity order reserve (table.sweep order now).len
      (keyed_sweep keyed order now) le_rfl
  have capacity := capacity_sweep keyed order now
  have swept := stored_sweep_perm keyed order now
  have parts :=
    (stored_eq_expired_append keyed order now).trans
      (trimmed.parts.append_left _)
  rw [pruneAtWithRoom_eq]
  generalize (trimToCapacity order reserve (table.sweep order now).len
    (table.sweep order now)).2 = evicted at *
  generalize (trimToCapacity order reserve (table.sweep order now).len
    (table.sweep order now)).1 = after at *
  have live : ∀ key entry, after.getByKey key = some entry →
      entry ∈ after.stored ∧ entry.key = key := fun key entry held =>
    (getByKey_eq_some trimmed.keyed).mp held
  refine ⟨?_, ?_, ?_, ?_, ?_, ?_, rfl⟩
  · intro key entry held
    obtain ⟨member, own⟩ := live key entry held
    have former : entry ∈ table.stored :=
      parts.mem_iff.mpr
        (List.mem_append_right _ (List.mem_append_right _ member))
    exact (getByKey_eq_some keyed).mpr ⟨former, own⟩
  · intro key entry held flying
    obtain ⟨member, own⟩ := (getByKey_eq_some keyed).mp held
    apply (getByKey_eq_some trimmed.keyed).mpr
    refine ⟨?_, own⟩
    rcases List.mem_append.mp (parts.mem_iff.mp member) with gone | left
    · have old := (List.mem_filter.mp gone).2
      rw [ConntrackEntry.expired, flying] at old
      cases old
    · rcases List.mem_append.mp left with victim | survivor
      · have settled := trimmed.settled victim
        rw [flying] at settled
        cases settled
      · exact survivor
  · intro key entry held settled
    obtain ⟨member, -⟩ := live key entry held
    have young :=
      (List.mem_filter.mp (swept.mem_iff.mp
        (trimmed.parts.mem_iff.mpr (List.mem_append_right _ member)))).2
    rw [ConntrackEntry.expired, settled] at young
    simpa using young
  · rcases rest with room | flying
    · apply Or.inl
      rw [Over, trimmed.capacity, capacity] at room
      constructor
      · omega
      · intro reserving
        rw [reserving] at room
        simp only [true_and] at room
        omega
    · apply Or.inr
      intro key entry held
      exact flying entry (live key entry held).1
  · refine ⟨_, victims, parts, rfl, counted, ?_, ?_, ?_⟩
    · intro entry gone
      exact (List.mem_filter.mp gone).2
    · intro victim member
      refine ⟨trimmed.settled member, ?_⟩
      intro key entry held settled
      exact trimmed.oldest member (live key entry held).1 settled
    · intro some_victim
      have overfull := trimmed.needed some_victim
      rw [Over, capacity] at overfull
      exact overfull
  · have sizes := parts.length_eq
    rw [List.length_append, List.length_append, length_stored, length_stored,
      counted] at sizes
    simp only
    omega

end Pass

/-! ## Reachable tables -/

section Reachable

variable {table : ConntrackTable}

theorem keyed_insert {key : FlowKey} {entry : ConntrackEntry}
    (keyed : table.Keyed) (own : entry.key = key) :
    ∀ other found,
      (table.byKey.insert key entry).lookup other = some found →
        found.key = other := by
  intro other found held
  rw [HashTable.lookup_insert_eq_if] at held
  split at held
  · rename_i same
    cases held
    rw [same]
    exact own
  · exact keyed other found held

theorem keyed_modifyByAuthId (keyed : table.Keyed)
    {change : ConntrackEntry → ConntrackEntry}
    (identity : KeepsIdentity change) (authId : Nat) :
    (table.modifyByAuthId authId change).Keyed := by
  unfold modifyByAuthId
  split
  · exact keyed
  · split
    · exact keyed
    · rename_i key _ _ entry held
      exact keyed_insert keyed
        ((identity.key entry).trans (keyed key entry held))

theorem keyed_create (keyed : table.Keyed) (key : FlowKey)
    (appId nodeGroupId : String) (now : Nat) :
    (table.create key appId nodeGroupId now).Keyed :=
  keyed_insert keyed rfl

theorem keyed_getOrCreateAt (keyed : table.Keyed) (key : FlowKey)
    (appId nodeGroupId : String) (now : Nat) :
    (table.getOrCreateAt key appId nodeGroupId now).Keyed := by
  cases held : table.byKey.lookup key with
  | none =>
      rw [getOrCreateAt_of_none held]
      exact keyed_create keyed key appId nodeGroupId now
  | some entry =>
      cases own : foreign appId nodeGroupId entry with
      | false =>
          rw [getOrCreateAt_of_some held own]
          have stamped : ({ entry with lastUsed := now } :
              ConntrackEntry).key = key := keyed key entry held
          exact keyed_insert keyed stamped
      | true =>
          rw [getOrCreateAt_of_foreign held own]
          exact keyed_create (keyed_evict keyed key) key appId nodeGroupId now

theorem keyed_maintainForFlow (keyed : table.Keyed)
    (order : IterationOrder ConntrackEntry) (key : FlowKey) (now : Nat) :
    (table.maintainForFlow order key now).1.Keyed := by
  unfold maintainForFlow
  simp only
  split
  · exact keyed
  · have stamped : ({ table with lastSweep := now } :
        ConntrackTable).Keyed := keyed
    exact keyed_pruneAtWithRoom stamped order now _

theorem keyed_touchAt (keyed : table.Keyed) (key : FlowKey) (now : Nat) :
    (table.touchAt key now).1.Keyed := by
  cases held : table.byKey.lookup key with
  | none =>
      rw [touchAt_of_none held]
      exact keyed
  | some entry =>
      rw [touchAt_of_some held]
      have stamped : ({ entry with lastUsed := now } :
          ConntrackEntry).key = key := keyed key entry held
      exact keyed_insert keyed stamped

theorem keyed_empty {table : ConntrackTable} (empty : table.byKey = ∅) :
    table.Keyed := by
  intro key entry held
  rw [empty, AList.lookup_empty] at held
  cases held

end Reachable

end ConntrackTable

namespace TableOp

open ConntrackTable

theorem keyed_apply {table : ConntrackTable} (keyed : table.Keyed)
    (op : TableOp) : (op.apply table).Keyed := by
  cases op with
  | getOrCreateAt key appId nodeGroupId now =>
      exact keyed_getOrCreateAt keyed key appId nodeGroupId now
  | markAuth authId code message connectToken =>
      simp only [apply, ConntrackTable.markAuth]
      cases live : table.getByAuthId authId with
      | none => exact keyed
      | some entry =>
          exact keyed_modifyByAuthId keyed (keepsIdentity_complete _) authId
  | markAuthError authId message =>
      simp only [apply, ConntrackTable.markAuthError]
      cases live : table.getByAuthId authId with
      | none => exact keyed
      | some entry =>
          exact keyed_modifyByAuthId keyed (keepsIdentity_complete _) authId
  | evict key => exact keyed_evict keyed key
  | evictByAuthId authId =>
      simp only [apply, ConntrackTable.evictByAuthId]
      split
      · exact keyed
      · exact keyed_evict keyed _
  | pruneAt order now => exact keyed_pruneAtWithRoom keyed order now true
  | maintainForFlow order key now =>
      exact keyed_maintainForFlow keyed order key now
  | touch key now => exact keyed_touchAt keyed key now
  | clear => exact keyed_empty rfl
  | tryStartAuth authId now =>
      exact keyed_modifyByAuthId keyed (keepsIdentity_tryStartAuth now) authId
  | setReusableFrame authId frame deadline =>
      exact keyed_modifyByAuthId keyed
        (keepsIdentity_setReusableFrame frame deadline) authId
  | scheduleRetry authId budget =>
      exact keyed_modifyByAuthId keyed (keepsIdentity_scheduleRetry budget)
        authId
  | takeRetry authId =>
      exact keyed_modifyByAuthId keyed keepsIdentity_takeRetry authId
  | complete authId outcome =>
      exact keyed_modifyByAuthId keyed (keepsIdentity_complete outcome) authId

theorem keyed_run {table : ConntrackTable} (keyed : table.Keyed)
    (ops : List TableOp) : (run table ops).Keyed := by
  induction ops generalizing table with
  | nil => exact keyed
  | cons op later inductionHypothesis =>
      exact inductionHypothesis (keyed_apply keyed op)

/-- Every table that a run reaches stores each entry under its own key. -/
theorem keyed_reachable (idleTtl capacity start : Nat) (ops : List TableOp) :
    (run (withLimits idleTtl capacity start) ops).Keyed :=
  keyed_run (keyed_empty rfl) ops

end TableOp

namespace ConntrackTable

/-! ## A new flow -/

section NewFlow

variable {table : ConntrackTable} {key : FlowKey}

theorem len_create_le (appId nodeGroupId : String) (now : Nat) :
    (table.create key appId nodeGroupId now).len ≤ table.len + 1 :=
  HashTable.len_insert_le table.byKey key _

/-- Maintenance for an absent key makes room for it, unless every entry is in
flight. -/
theorem maintainForFlow_absent (keyed : table.Keyed)
    (absent : table.byKey.lookup key = none)
    (order : IterationOrder ConntrackEntry) (now : Nat) :
    (table.maintainForFlow order key now).1.byKey.lookup key = none ∧
      ((table.maintainForFlow order key now).1.len < table.capacity ∨
        ∀ other entry,
          (table.maintainForFlow order key now).1.byKey.lookup other =
            some entry → entry.authInFlight = true) := by
  unfold maintainForFlow
  simp only
  split
  · rename_i fast
    refine ⟨absent, Or.inl (fast.2.2.resolve_left ?_)⟩
    rw [absent]
    simp
  · rw [absent]
    have stamped : ({ table with lastSweep := now } :
        ConntrackTable).Keyed := keyed
    have exactly := prunedExactly_pruneAtWithRoom stamped order now true
    constructor
    · cases held : (({ table with lastSweep := now } :
          ConntrackTable).pruneAtWithRoom order now true).1.byKey.lookup
            key with
      | none => exact held
      | some entry =>
          have former : table.byKey.lookup key = some entry :=
            exactly.former key entry held
          rw [absent] at former
          cases former
    · rcases exactly.room with room | flying
      · exact Or.inl (room.2 rfl)
      · exact Or.inr flying

end NewFlow

/-- What the maintenance of the table guarantees at one instant. -/
structure Maintained (table : ConntrackTable)
    (order : IterationOrder ConntrackEntry) (now : Nat) (reserve : Bool) :
    Prop where
  /-- The capacity loop comes to its end within one turn for every entry: with
  more turns it would do nothing else. -/
  terminates :
    ∀ turns, (table.sweep order now).len ≤ turns →
      trimToCapacity order reserve turns (table.sweep order now) =
        trimToCapacity order reserve (table.sweep order now).len
          (table.sweep order now)
  pruned :
    PrunedExactly table now reserve
      (table.pruneAtWithRoom order now reserve).1
      (table.pruneAtWithRoom order now reserve).2
  bounded :
    ∀ key appId nodeGroupId, table.getByKey key = none →
      ((table.maintainForFlow order key now).1.getOrCreateAt key appId
          nodeGroupId now).len ≤ table.capacity ∨
        ∀ other entry, other ≠ key →
          ((table.maintainForFlow order key now).1.getOrCreateAt key appId
            nodeGroupId now).getByKey other = some entry →
            entry.authInFlight = true

/-- Every reachable table is maintained, at every time and for every order in
which it may be walked. -/
theorem reachable_maintained (idleTtl capacity start : Nat)
    (ops : List TableOp) (order : IterationOrder ConntrackEntry) (now : Nat)
    (reserve : Bool) :
    Maintained (TableOp.run (withLimits idleTtl capacity start) ops) order now
      reserve := by
  have keyed := TableOp.keyed_reachable idleTtl capacity start ops
  generalize TableOp.run (withLimits idleTtl capacity start) ops = table
    at keyed
  refine ⟨?_, prunedExactly_pruneAtWithRoom keyed order now reserve, ?_⟩
  · intro turns enough
    exact trimToCapacity_stable order reserve (keyed_sweep keyed order now)
      le_rfl enough
  · intro key appId nodeGroupId absent
    obtain ⟨stillAbsent, room⟩ :=
      maintainForFlow_absent keyed absent order now
    rw [getOrCreateAt_of_none stillAbsent]
    rcases room with below | flying
    · exact Or.inl ((len_create_le appId nodeGroupId now).trans below)
    · apply Or.inr
      intro other entry different held
      rw [getByKey, lookup_create, if_neg different] at held
      exact flying other entry held

/-! ## The maintained flow itself -/

/-- The number of entries that have not expired. -/
def unexpired (table : ConntrackTable) (now : Nat) : Nat :=
  table.stored.countP fun entry => !entry.expired table.idleTtl now

/-- The number of settled entries that have not expired and were last used
before the given time. -/
def settledBefore (table : ConntrackTable) (now time : Nat) : Nat :=
  table.stored.countP fun entry =>
    !entry.expired table.idleTtl now &&
      (!entry.authInFlight && decide (entry.lastUsed < time))

section OwnFlow

variable {table : ConntrackTable} {key : FlowKey} {entry : ConntrackEntry}

theorem len_sweep (keyed : table.Keyed)
    (order : IterationOrder ConntrackEntry) (now : Nat) :
    (table.sweep order now).len = table.unexpired now := by
  have sizes := (stored_sweep_perm keyed order now).length_eq
  rw [length_stored] at sizes
  rw [sizes, unexpired, List.countP_eq_length_filter]

theorem countP_sweep (keyed : table.Keyed)
    (order : IterationOrder ConntrackEntry) (now time : Nat) :
    ((table.sweep order now).stored.countP fun entry =>
        !entry.authInFlight && decide (entry.lastUsed < time)) =
      table.settledBefore now time := by
  rw [(stored_sweep_perm keyed order now).countP_eq, List.countP_filter,
    settledBefore]
  apply List.countP_congr
  intro entry _
  simp only [Bool.and_eq_true]
  exact and_comm

/-- Maintenance for a live key scans at most once a second and reserves no
room. -/
theorem maintainForFlow_of_live {now : Nat}
    (held : table.byKey.lookup key = some entry)
    (used : now - entry.lastUsed < table.idleTtl)
    (order : IterationOrder ConntrackEntry) :
    (table.maintainForFlow order key now).1 =
      if now - table.lastSweep < second then table
      else
        (({ table with lastSweep := now } : ConntrackTable).pruneAtWithRoom
          order now false).1 := by
  have young : entry.expired table.idleTtl now = false := by
    simp [ConntrackEntry.expired, used]
  unfold maintainForFlow
  simp only [held, Option.any_some, young, Option.isNone_some, true_and,
    true_or, and_true]
  split <;> rfl

/-- A victim of the capacity loop is preceded by all the settled entries that
were used before it. -/
theorem Trimmed.victim_bound {order : IterationOrder ConntrackEntry}
    {after : ConntrackTable} {victims : List ConntrackEntry}
    (trimmed : Trimmed order false table after victims)
    (member : entry ∈ victims) :
    (table.stored.countP fun other =>
        !other.authInFlight && decide (other.lastUsed < entry.lastUsed)) +
      table.capacity < table.len := by
  have none_left :
      (after.stored.countP fun other =>
        !other.authInFlight && decide (other.lastUsed < entry.lastUsed)) =
        0 := by
    apply List.countP_eq_zero.mpr
    intro other survivor older
    obtain ⟨settled, before⟩ := Bool.and_eq_true_iff.mp older
    have notBefore :=
      trimmed.oldest member survivor (by simpa using settled)
    have isBefore := of_decide_eq_true before
    omega
  have fewer :
      (victims.countP fun other =>
        !other.authInFlight && decide (other.lastUsed < entry.lastUsed)) <
        victims.length := by
    apply lt_of_le_of_ne List.countP_le_length
    intro every
    have before := List.countP_eq_length.mp every entry member
    simp at before
  have sizes := trimmed.parts.length_eq
  rw [List.length_append, length_stored, length_stored] at sizes
  have needed := trimmed.needed (List.ne_nil_of_mem member)
  have overfull : table.capacity < after.len + 1 := by
    rcases needed with overfull | ⟨impossible, -⟩
    · exact overfull
    · cases impossible
  rw [trimmed.parts.countP_eq, List.countP_append, none_left]
  omega

/-- When the walk begins with a settled entry, only entries that were used
before it are chosen while it is there. -/
theorem Turn.before_foremost {reserve : Bool} {victim : ConntrackEntry}
    (turn : Turn (IterationOrder.foremost entry) reserve table victim)
    (member : entry ∈ table.stored) (settled : entry.authInFlight = false)
    (different : entry ≠ victim) : victim.lastUsed < entry.lastUsed := by
  have chosen := turn.chosen
  rw [settledEntries, IterationOrder.arrange_foremost member,
    List.filter_cons_of_pos (by simpa using settled),
    List.argmin_cons] at chosen
  generalize List.argmin (fun candidate : ConntrackEntry =>
    candidate.lastUsed) _ = best at chosen
  cases best with
  | none => exact (different (Option.some.inj chosen)).elim
  | some other =>
      simp only at chosen
      split at chosen
      · rename_i less
        rw [← Option.some.inj chosen]
        exact less
      · exact (different (Option.some.inj chosen)).elim

/-- An entry that survives a walk that begins with it leaves the table within
capacity at the cost of entries that were used before it. -/
theorem Trimmed.survivor_bound {after : ConntrackTable}
    {victims : List ConntrackEntry}
    (trimmed :
      Trimmed (IterationOrder.foremost entry) false table after victims)
    (rest : AtRest false after) (survivor : entry ∈ after.stored)
    (settled : entry.authInFlight = false) :
    table.len ≤
      (table.stored.countP fun other =>
        !other.authInFlight && decide (other.lastUsed < entry.lastUsed)) +
        table.capacity := by
  have all_before :
      (victims.countP fun other =>
        !other.authInFlight && decide (other.lastUsed < entry.lastUsed)) =
        victims.length := by
    apply List.countP_eq_length.mpr
    intro victim member
    obtain ⟨middle, turn, present⟩ := trimmed.chosen victim member
    obtain ⟨former, different⟩ := present entry survivor
    have before := turn.before_foremost former settled different
    rw [trimmed.settled member, decide_eq_true before]
    rfl
  have within : after.len ≤ table.capacity := by
    rcases rest with room | flying
    · rw [Over, trimmed.capacity] at room
      omega
    · rw [flying entry survivor] at settled
      cases settled
  have sizes := trimmed.parts.length_eq
  rw [List.length_append, length_stored, length_stored] at sizes
  rw [trimmed.parts.countP_eq, List.countP_append, all_before]
  omega

theorem pruneAtWithRoom_keeps_iff {now : Nat} (keyed : table.Keyed)
    (held : table.getByKey key = some entry)
    (used : now - entry.lastUsed < table.idleTtl) :
    (∀ order,
        (table.pruneAtWithRoom order now false).1.getByKey key = some entry) ↔
      (entry.authInFlight = true ∨
        table.unexpired now ≤
          table.settledBefore now entry.lastUsed + table.capacity) := by
  obtain ⟨member, own⟩ := (getByKey_eq_some keyed).mp held
  constructor
  · intro kept
    cases settled : entry.authInFlight with
    | true => exact Or.inl rfl
    | false =>
        apply Or.inr
        have kept' := kept (IterationOrder.foremost entry)
        obtain ⟨victims, -, trimmed, rest⟩ :=
          trimmed_trimToCapacity (IterationOrder.foremost entry) false
            (table.sweep (IterationOrder.foremost entry) now).len
            (keyed_sweep keyed _ now) le_rfl
        rw [pruneAtWithRoom_eq] at kept'
        have survivor := ((getByKey_eq_some trimmed.keyed).mp kept').1
        have bound := trimmed.survivor_bound rest survivor settled
        rw [len_sweep keyed, countP_sweep keyed, capacity_sweep keyed]
          at bound
        exact bound
  · intro enough order
    have exactly := prunedExactly_pruneAtWithRoom keyed order now false
    rcases enough with flying | few
    · exact exactly.in_flight_kept key entry held flying
    · obtain ⟨victims, -, trimmed, -⟩ :=
        trimmed_trimToCapacity order false (table.sweep order now).len
          (keyed_sweep keyed order now) le_rfl
      rw [pruneAtWithRoom_eq]
      apply (getByKey_eq_some trimmed.keyed).mpr
      refine ⟨?_, own⟩
      have young : entry ∈ (table.sweep order now).stored := by
        apply (stored_sweep_perm keyed order now).mem_iff.mpr
        apply List.mem_filter.mpr
        exact ⟨member, by simp [ConntrackEntry.expired, used]⟩
      rcases List.mem_append.mp (trimmed.parts.mem_iff.mp young) with
        victim | survivor
      · have bound := trimmed.victim_bound victim
        rw [len_sweep keyed, countP_sweep keyed, capacity_sweep keyed]
          at bound
        omega
      · exact survivor

end OwnFlow

/-- Maintenance for a live flow keeps the flow, however the table is walked,
exactly when no scan is due, an authorization is outstanding, or the excess
over the capacity is covered by settled flows that were used before it. -/
theorem maintainForFlow_keeps_own_iff (idleTtl capacity start : Nat)
    (ops : List TableOp) (key : FlowKey) (entry : ConntrackEntry) (now : Nat)
    (held :
      (TableOp.run (withLimits idleTtl capacity start) ops).getByKey key =
        some entry)
    (used :
      now - entry.lastUsed <
        (TableOp.run (withLimits idleTtl capacity start) ops).idleTtl) :
    (∀ order : IterationOrder ConntrackEntry,
        ((TableOp.run (withLimits idleTtl capacity start) ops).maintainForFlow
          order key now).1.getByKey key = some entry) ↔
      (now - (TableOp.run (withLimits idleTtl capacity start) ops).lastSweep <
          second ∨
        entry.authInFlight = true ∨
        (TableOp.run (withLimits idleTtl capacity start) ops).unexpired now ≤
          (TableOp.run (withLimits idleTtl capacity start) ops).settledBefore
              now entry.lastUsed +
            (TableOp.run (withLimits idleTtl capacity start)
              ops).capacity) := by
  have keyed := TableOp.keyed_reachable idleTtl capacity start ops
  generalize TableOp.run (withLimits idleTtl capacity start) ops = table
    at *
  simp only [maintainForFlow_of_live held used]
  by_cases recent : now - table.lastSweep < second
  · simp only [recent, true_or, iff_true]
    intro _
    exact held
  · simp only [recent, false_or]
    have stamped : ({ table with lastSweep := now } :
        ConntrackTable).Keyed := keyed
    exact pruneAtWithRoom_keeps_iff stamped held used

/-- Two flows authorized at once on a table for one: both were in flight when
the second came, and both are settled a second later. -/
def overshotOps : List TableOp :=
  [.maintainForFlow .stored ⟨"a"⟩ 0, .getOrCreateAt ⟨"a"⟩ "app" "group" 0,
    .tryStartAuth 1 0, .maintainForFlow .stored ⟨"b"⟩ 1,
    .getOrCreateAt ⟨"b"⟩ "app" "group" 1, .tryStartAuth 2 1,
    .markAuth 1 0 "" "token", .markAuth 2 0 "" "token"]

/-- The younger flow is kept by its own maintenance. -/
theorem younger_flow_kept :
    ∃ entry,
      (TableOp.run (withLimits l3ConntrackIdleTtl 1 0)
        overshotOps).getByKey ⟨"b"⟩ = some entry ∧
      ∀ order : IterationOrder ConntrackEntry,
        ((TableOp.run (withLimits l3ConntrackIdleTtl 1 0)
          overshotOps).maintainForFlow order ⟨"b"⟩
            (2 * second)).1.getByKey ⟨"b"⟩ = some entry := by
  have held :
      (TableOp.run (withLimits l3ConntrackIdleTtl 1 0)
        overshotOps).getByKey ⟨"b"⟩ =
        some { freshEntry ⟨"b"⟩ 2 "app" "group" 1 with
          authStarted := true
          authDeadline := some (1 + l3AuthTimeout)
          outcome := some (.ready "token") } := by
    decide +kernel
  refine ⟨_, held, ?_⟩
  apply (maintainForFlow_keeps_own_iff l3ConntrackIdleTtl 1 0 overshotOps
    ⟨"b"⟩ _ (2 * second) held (by decide +kernel)).mpr
  exact Or.inr (Or.inr (by decide +kernel))

/-- The older flow has been idle for two seconds of three hundred, and its own
maintenance removes it. -/
theorem own_maintenance_evicts_live_flow :
    ∃ entry,
      (TableOp.run (withLimits l3ConntrackIdleTtl 1 0)
        overshotOps).getByKey ⟨"a"⟩ = some entry ∧
      2 * second - entry.lastUsed <
        (TableOp.run (withLimits l3ConntrackIdleTtl 1 0)
          overshotOps).idleTtl ∧
      ((TableOp.run (withLimits l3ConntrackIdleTtl 1 0)
        overshotOps).maintainForFlow .stored ⟨"a"⟩
          (2 * second)).1.getByKey ⟨"a"⟩ = none := by
  have held :
      (TableOp.run (withLimits l3ConntrackIdleTtl 1 0)
        overshotOps).getByKey ⟨"a"⟩ =
        some { freshEntry ⟨"a"⟩ 1 "app" "group" 0 with
          authStarted := true
          authDeadline := some l3AuthTimeout
          outcome := some (.ready "token") } := by
    decide +kernel
  exact ⟨_, held, by decide +kernel, by decide +kernel⟩

end ConntrackTable

end HermesAtrust.L3
