import HermesAtrust.L3.ConntrackLaws

/-!
# How entries change while they are live

Between its creation and its removal an entry is only rewritten.  `Evolves`
compares two tables with the same id counter: every entry of the second was an
entry of the first, under the same id, and stands in a given relation to it.
-/

namespace HermesAtrust.L3

open HermesAtrust.Framing HermesAtrust.Collections

/-- The same attempt later on: identity and start flag are fixed, and a
recorded outcome stays. -/
structure Heir (entry changed : ConntrackEntry) : Prop where
  key : changed.key = entry.key
  appId : changed.appId = entry.appId
  nodeGroupId : changed.nodeGroupId = entry.nodeGroupId
  authStarted : changed.authStarted = entry.authStarted
  settled :
    ∀ outcome, entry.outcome = some outcome → changed.outcome = some outcome

/-- The same attempt later on, without a new grant. -/
structure Calm (entry changed : ConntrackEntry) : Prop extends
    Heir entry changed where
  granted :
    ∀ connectToken, changed.outcome = some (.ready connectToken) →
      entry.outcome = some (.ready connectToken)

/-- The same attempt with another idle clock. -/
def Aged (entry changed : ConntrackEntry) : Prop :=
  ∃ lastUsed, changed = { entry with lastUsed := lastUsed }

namespace Heir

theorem refl (entry : ConntrackEntry) : Heir entry entry :=
  ⟨rfl, rfl, rfl, rfl, fun _ settled => settled⟩

/-- An attempt that is in flight has been in flight. -/
theorem inFlight {entry changed : ConntrackEntry}
    (heir : Heir entry changed) (flying : changed.authInFlight = true) :
    entry.authInFlight = true := by
  unfold ConntrackEntry.authInFlight at flying ⊢
  rw [heir.authStarted] at flying
  cases outcome : entry.outcome with
  | none =>
      rw [Bool.and_eq_true] at flying ⊢
      exact ⟨flying.1, rfl⟩
  | some verdict => simp [heir.settled verdict outcome] at flying

theorem complete (entry : ConntrackEntry) (outcome : AuthOutcome) :
    Heir entry (entry.complete outcome) := by
  unfold ConntrackEntry.complete
  split
  · rename_i unsettled
    refine ⟨rfl, rfl, rfl, rfl, ?_⟩
    intro verdict settled
    simp [settled] at unsettled
  · exact refl entry

end Heir

namespace Calm

theorem refl (entry : ConntrackEntry) : Calm entry entry :=
  ⟨Heir.refl entry, fun _ granted => granted⟩

/-- A failure grants nothing. -/
theorem complete_failed (entry : ConntrackEntry) (message : String) :
    Calm entry (entry.complete (.failed message)) where
  toHeir := Heir.complete entry _
  granted token := by
    unfold ConntrackEntry.complete
    split
    · intro impossible
      cases impossible
    · exact id

theorem setReusableFrame (entry : ConntrackEntry) (frame : Bytes)
    (deadline : Nat) : Calm entry (entry.setReusableFrame frame deadline) :=
  ⟨⟨rfl, rfl, rfl, rfl, fun _ settled => settled⟩, fun _ granted => granted⟩

theorem scheduleRetry (entry : ConntrackEntry) (budget : Nat) :
    Calm entry (entry.scheduleRetry budget).1 := by
  unfold ConntrackEntry.scheduleRetry
  split
  · exact refl entry
  · exact ⟨⟨rfl, rfl, rfl, rfl, fun _ settled => settled⟩,
      fun _ granted => granted⟩

theorem takeRetry (entry : ConntrackEntry) :
    Calm entry entry.takeRetry.1 := by
  unfold ConntrackEntry.takeRetry
  split
  · exact refl entry
  · exact ⟨⟨rfl, rfl, rfl, rfl, fun _ settled => settled⟩,
      fun _ granted => granted⟩

end Calm

namespace Aged

theorem refl (entry : ConntrackEntry) : Aged entry entry :=
  ⟨entry.lastUsed, rfl⟩

theorem calm {entry changed : ConntrackEntry} (aged : Aged entry changed) :
    Calm entry changed := by
  obtain ⟨lastUsed, rfl⟩ := aged
  exact ⟨⟨rfl, rfl, rfl, rfl, fun _ settled => settled⟩,
    fun _ granted => granted⟩

end Aged

/-- Every entry of the second table continues an entry of the first. -/
structure Evolves (relation : ConntrackEntry → ConntrackEntry → Prop)
    (before after : ConntrackTable) : Prop where
  wellFormed : after.WellFormed
  nextAuthId : after.nextAuthId = before.nextAuthId
  continues :
    ∀ authId changed, after.getByAuthId authId = some changed →
      ∃ entry, before.getByAuthId authId = some entry ∧
        relation entry changed

namespace Evolves

variable {relation relation' : ConntrackEntry → ConntrackEntry → Prop}
  {table : ConntrackTable}

theorem mono {before after : ConntrackTable}
    (weaker : ∀ entry changed, relation entry changed → relation' entry changed)
    (evolves : Evolves relation before after) :
    Evolves relation' before after where
  wellFormed := evolves.wellFormed
  nextAuthId := evolves.nextAuthId
  continues authId changed live := by
    obtain ⟨entry, former, related⟩ := evolves.continues authId changed live
    exact ⟨entry, former, weaker entry changed related⟩

theorem refl (wf : table.WellFormed) : Evolves Aged table table :=
  ⟨wf, rfl, fun _ entry live => ⟨entry, live, Aged.refl entry⟩⟩

theorem trans {first second third : ConntrackTable}
    (left : Evolves Aged first second) (right : Evolves Aged second third) :
    Evolves Aged first third where
  wellFormed := right.wellFormed
  nextAuthId := right.nextAuthId.trans left.nextAuthId
  continues authId changed live := by
    obtain ⟨middle, former, later⟩ := right.continues authId changed live
    obtain ⟨entry, earliest, earlier⟩ := left.continues authId middle former
    obtain ⟨lastUsed, rfl⟩ := earlier
    obtain ⟨lastUsed', rfl⟩ := later
    exact ⟨entry, earliest, lastUsed', rfl⟩

theorem calm {before after : ConntrackTable}
    (evolves : Evolves Aged before after) : Evolves Calm before after :=
  evolves.mono fun _ _ aged => aged.calm

/-- Rewriting one entry. -/
theorem modify (wf : table.WellFormed)
    {change : ConntrackEntry → ConntrackEntry}
    (identity : ConntrackTable.KeepsIdentity change)
    (reflexive : ∀ entry, relation entry entry)
    (related : ∀ entry, relation entry (change entry)) (authId : Nat) :
    Evolves relation table (table.modifyByAuthId authId change) where
  wellFormed := ConntrackTable.wellFormed_modifyByAuthId wf identity authId
  nextAuthId := ConntrackTable.nextAuthId_modifyByAuthId authId
  continues other changed live := by
    rw [ConntrackTable.getByAuthId_modifyByAuthId wf identity] at live
    split at live
    · rename_i same
      subst other
      obtain ⟨entry, former, rfl⟩ := Option.map_eq_some_iff.mp live
      exact ⟨entry, former, related entry⟩
    · exact ⟨changed, live, reflexive changed⟩

theorem pruned {after : ConntrackTable} (wf : table.WellFormed)
    (pruned : ConntrackTable.Pruned table after) :
    Evolves Aged table after where
  wellFormed := pruned.wellFormed wf
  nextAuthId := pruned.nextAuthId
  continues _ entry live :=
    ⟨entry, pruned.live_before wf live, Aged.refl entry⟩

theorem evictByAuthId (wf : table.WellFormed) (authId : Nat) :
    Evolves Aged table (table.evictByAuthId authId).1 where
  wellFormed := ConntrackTable.wellFormed_evictByAuthId wf authId
  nextAuthId := ConntrackTable.nextAuthId_evictByAuthId authId
  continues other entry live := by
    rw [ConntrackTable.getByAuthId_evictByAuthId wf] at live
    split at live
    · cases live
    · exact ⟨entry, live, Aged.refl entry⟩

theorem clear (table : ConntrackTable) : Evolves Aged table table.clear.1 where
  wellFormed := ConntrackTable.wellFormed_clear table
  nextAuthId := rfl
  continues authId entry live := by simp at live

theorem refresh (wf : table.WellFormed) {key : FlowKey}
    {entry : ConntrackEntry} (held : table.byKey.lookup key = some entry)
    (now : Nat) :
    Evolves Aged table
      { table with
        byKey := table.byKey.insert key { entry with lastUsed := now } } where
  wellFormed := ConntrackTable.wellFormed_replace wf held rfl rfl
  nextAuthId := rfl
  continues authId changed live := by
    rw [ConntrackTable.getByAuthId_refresh wf held] at live
    split at live
    · rename_i same
      subst authId
      cases live
      exact ⟨entry, ConntrackTable.getByAuthId_of_lookup wf held,
        now, rfl⟩
    · exact ⟨changed, live, Aged.refl changed⟩

theorem touchAt (wf : table.WellFormed) (key : FlowKey) (now : Nat) :
    Evolves Aged table (table.touchAt key now).1 := by
  cases held : table.byKey.lookup key with
  | none =>
      rw [ConntrackTable.touchAt_of_none held]
      exact refl wf
  | some entry =>
      rw [ConntrackTable.touchAt_of_some held]
      exact refresh wf held now

end Evolves

/-- The entry under the id stays live, and if it was open it stays open. -/
def Retains (before after : ConntrackTable) (authId : Nat) : Prop :=
  ∀ entry, before.getByAuthId authId = some entry →
    ∃ changed, after.getByAuthId authId = some changed ∧
      (entry.outcome = none → changed.outcome = none)

namespace Retains

variable {table : ConntrackTable} {authId : Nat}

theorem of_eq {after : ConntrackTable}
    (same : after.getByAuthId authId = table.getByAuthId authId) :
    Retains table after authId := by
  intro entry live
  exact ⟨entry, same.trans live, id⟩

/-- Rewriting an entry without recording an outcome. -/
theorem modify (wf : table.WellFormed)
    {change : ConntrackEntry → ConntrackEntry}
    (identity : ConntrackTable.KeepsIdentity change)
    (open_ : ∀ entry, entry.outcome = none → (change entry).outcome = none)
    (other : Nat) :
    Retains table (table.modifyByAuthId other change) authId := by
  intro entry live
  rw [ConntrackTable.getByAuthId_modifyByAuthId wf identity]
  split
  · rename_i same
    subst authId
    rw [live]
    exact ⟨change entry, rfl, open_ entry⟩
  · exact ⟨entry, live, id⟩

/-- Rewriting another entry. -/
theorem modify_of_ne (wf : table.WellFormed)
    {change : ConntrackEntry → ConntrackEntry}
    (identity : ConntrackTable.KeepsIdentity change) {other : Nat}
    (different : authId ≠ other) :
    Retains table (table.modifyByAuthId other change) authId := by
  refine of_eq ?_
  rw [ConntrackTable.getByAuthId_modifyByAuthId wf identity,
    if_neg different]

theorem evict_of_ne (wf : table.WellFormed) {other : Nat}
    (different : authId ≠ other) :
    Retains table (table.evictByAuthId other).1 authId := by
  refine of_eq ?_
  rw [ConntrackTable.getByAuthId_evictByAuthId wf, if_neg different]

theorem refresh (wf : table.WellFormed) {key : FlowKey}
    {entry : ConntrackEntry} (held : table.byKey.lookup key = some entry)
    (now authId : Nat) :
    Retains table
      { table with
        byKey := table.byKey.insert key { entry with lastUsed := now } }
      authId := by
  intro found live
  rw [ConntrackTable.getByAuthId_refresh wf held]
  split
  · rename_i same
    subst authId
    have isEntry : entry = found :=
      Option.some.inj
        ((ConntrackTable.getByAuthId_of_lookup wf held).symm.trans live)
    subst isEntry
    exact ⟨_, rfl, id⟩
  · exact ⟨found, live, id⟩

theorem touchAt (wf : table.WellFormed) (key : FlowKey) (now authId : Nat) :
    Retains table (table.touchAt key now).1 authId := by
  cases held : table.byKey.lookup key with
  | none =>
      rw [ConntrackTable.touchAt_of_none held]
      exact of_eq rfl
  | some entry =>
      rw [ConntrackTable.touchAt_of_some held]
      exact refresh wf held now authId

end Retains

end HermesAtrust.L3
