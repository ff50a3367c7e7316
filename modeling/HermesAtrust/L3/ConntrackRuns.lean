import HermesAtrust.L3.ConntrackLaws

/-!
# Runs of the conntrack table

A run applies any sequence of table operations, and of changes made through an
entry the table handed out, to a fresh table.  Along every run that creates
fewer than `2^64` entries the two maps stay inverse, the ids are `1, 2, 3, …`
in the order of creation, and a recorded outcome is final.
-/

namespace HermesAtrust.L3

open HermesAtrust.Framing HermesAtrust.Collections

/-- One call on the table, or on an entry it handed out. -/
inductive TableOp where
  | getOrCreateAt (key : FlowKey) (appId nodeGroupId : String) (now : Nat)
  | markAuth (authId : Nat) (code : Int) (message connectToken : String)
  | markAuthError (authId : Nat) (message : String)
  | evict (key : FlowKey)
  | evictByAuthId (authId : Nat)
  | pruneAt (order : IterationOrder ConntrackEntry) (now : Nat)
  | maintainForFlow (order : IterationOrder ConntrackEntry) (key : FlowKey)
      (now : Nat)
  | touch (key : FlowKey) (now : Nat)
  | clear
  | tryStartAuth (authId now : Nat)
  | setReusableFrame (authId : Nat) (frame : Bytes) (deadline : Nat)
  | scheduleRetry (authId budget : Nat)
  | takeRetry (authId : Nat)
  | complete (authId : Nat) (outcome : AuthOutcome)

namespace TableOp

/-- The table after the call; a call that reports an error leaves it alone. -/
def apply (table : ConntrackTable) : TableOp → ConntrackTable
  | getOrCreateAt key appId nodeGroupId now =>
      table.getOrCreateAt key appId nodeGroupId now
  | markAuth authId code message connectToken =>
      match table.markAuth authId code message connectToken with
      | .ok marked => marked
      | .error _ => table
  | markAuthError authId message =>
      match table.markAuthError authId message with
      | .ok marked => marked
      | .error _ => table
  | evict key => (table.evict key).1
  | evictByAuthId authId => (table.evictByAuthId authId).1
  | pruneAt order now => (table.pruneAt order now).1
  | maintainForFlow order key now => (table.maintainForFlow order key now).1
  | touch key now => (table.touchAt key now).1
  | clear => table.clear.1
  | tryStartAuth authId now =>
      table.modifyByAuthId authId fun entry => (entry.tryStartAuth now).1
  | setReusableFrame authId frame deadline =>
      table.modifyByAuthId authId (·.setReusableFrame frame deadline)
  | scheduleRetry authId budget =>
      table.modifyByAuthId authId fun entry => (entry.scheduleRetry budget).1
  | takeRetry authId =>
      table.modifyByAuthId authId fun entry => entry.takeRetry.1
  | complete authId outcome => table.modifyByAuthId authId (·.complete outcome)

/-- The auth id of the entry that the call creates. -/
def created (table : ConntrackTable) : TableOp → Option Nat
  | getOrCreateAt key appId nodeGroupId _ =>
      if (table.byKey.lookup key).all
          (ConntrackTable.foreign appId nodeGroupId) then
        some table.nextId
      else
        none
  | _ => none

/-- The table after a sequence of calls. -/
def run (table : ConntrackTable) (ops : List TableOp) : ConntrackTable :=
  ops.foldl apply table

/-- The auth ids assigned along a sequence of calls, in order. -/
def assigned : ConntrackTable → List TableOp → List Nat
  | _, [] => []
  | table, op :: later =>
      (op.created table).toList ++ assigned (op.apply table) later

/-! ## One call -/

/-- A change of an entry that respects a recorded outcome. -/
def KeepsOutcome (change : ConntrackEntry → ConntrackEntry) : Prop :=
  ∀ entry outcome, entry.outcome = some outcome →
    (change entry).outcome = some outcome

theorem keepsOutcome_complete (outcome : AuthOutcome) :
    KeepsOutcome (·.complete outcome) := by
  intro entry first settled
  simp [ConntrackEntry.complete, settled]

theorem keepsOutcome_tryStartAuth (now : Nat) :
    KeepsOutcome fun entry => (entry.tryStartAuth now).1 := by
  intro entry first settled
  simp only [ConntrackEntry.tryStartAuth]
  split <;> exact settled

theorem keepsOutcome_scheduleRetry (budget : Nat) :
    KeepsOutcome fun entry => (entry.scheduleRetry budget).1 := by
  intro entry first settled
  simp only [ConntrackEntry.scheduleRetry]
  split <;> exact settled

theorem keepsOutcome_takeRetry :
    KeepsOutcome fun entry => entry.takeRetry.1 := by
  intro entry first settled
  simp only [ConntrackEntry.takeRetry]
  split <;> exact settled

/-- The id has been assigned, and if it is live its entry has this outcome. -/
def Settled (table : ConntrackTable) (authId : Nat) (outcome : AuthOutcome) :
    Prop :=
  authId ≤ table.nextAuthId ∧
    ∀ entry, table.getByAuthId authId = some entry →
      entry.outcome = some outcome

/-- What one call does to a well-formed table: it stays well formed, a creation
takes the next id and nothing else moves the counter, and settled ids stay
settled. -/
structure Sound (before after : ConntrackTable) (created : Option Nat) :
    Prop where
  wellFormed : after.WellFormed
  created_eq : ∀ authId, created = some authId → authId = before.nextAuthId + 1
  nextAuthId :
    after.nextAuthId = before.nextAuthId + created.toList.length
  settled :
    ∀ authId outcome, Settled before authId outcome →
      Settled after authId outcome

section

variable {table : ConntrackTable}

private theorem sound_modify {change : ConntrackEntry → ConntrackEntry}
    (wf : table.WellFormed) (identity : ConntrackTable.KeepsIdentity change)
    (outcome : KeepsOutcome change) (authId : Nat) :
    Sound table (table.modifyByAuthId authId change) none where
  wellFormed := ConntrackTable.wellFormed_modifyByAuthId wf identity authId
  created_eq _ impossible := by cases impossible
  nextAuthId := ConntrackTable.nextAuthId_modifyByAuthId authId
  settled := by
    rintro other verdict ⟨assignedId, settled⟩
    refine ⟨by simpa using assignedId, ?_⟩
    intro entry live
    rw [ConntrackTable.getByAuthId_modifyByAuthId wf identity] at live
    split at live
    · rename_i same
      subst other
      obtain ⟨before, found, rfl⟩ := Option.map_eq_some_iff.mp live
      exact outcome before verdict (settled before found)
    · exact settled entry live

private theorem sound_pruned {after : ConntrackTable}
    (wf : table.WellFormed) (pruned : ConntrackTable.Pruned table after) :
    Sound table after none where
  wellFormed := pruned.wellFormed wf
  created_eq _ impossible := by cases impossible
  nextAuthId := pruned.nextAuthId
  settled := by
    rintro authId outcome ⟨assignedId, settled⟩
    exact ⟨pruned.nextAuthId ▸ assignedId, fun entry live =>
      settled entry (pruned.live_before wf live)⟩

private theorem sound_refresh {key : FlowKey} {entry : ConntrackEntry}
    (wf : table.WellFormed) (held : table.byKey.lookup key = some entry)
    (now : Nat) :
    Sound table
      { table with
        byKey := table.byKey.insert key { entry with lastUsed := now } }
      none where
  wellFormed := ConntrackTable.wellFormed_replace wf held rfl rfl
  created_eq _ impossible := by cases impossible
  nextAuthId := rfl
  settled := by
    rintro authId outcome ⟨assignedId, settled⟩
    refine ⟨assignedId, ?_⟩
    intro found live
    rw [ConntrackTable.getByAuthId_refresh wf held] at live
    split at live
    · rename_i same
      cases live
      exact settled entry
        (same ▸ ConntrackTable.getByAuthId_of_lookup wf held)
    · exact settled found live

private theorem sound_evict (wf : table.WellFormed) (key : FlowKey) :
    Sound table (table.evict key).1 none where
  wellFormed := ConntrackTable.wellFormed_evict wf key
  created_eq _ impossible := by cases impossible
  nextAuthId := ConntrackTable.nextAuthId_evict key
  settled := by
    rintro authId outcome ⟨assignedId, settled⟩
    refine ⟨by simpa using assignedId, ?_⟩
    intro entry live
    cases held : table.byKey.lookup key with
    | none =>
        rw [ConntrackTable.evict_of_none held] at live
        exact settled entry live
    | some evicted =>
        rw [ConntrackTable.getByAuthId_evict wf held] at live
        split at live
        · cases live
        · exact settled entry live

private theorem sound_create {key : FlowKey} {appId nodeGroupId : String}
    {now : Nat} (wf : table.WellFormed)
    (absent : table.byKey.lookup key = none)
    (room : table.nextAuthId + 1 < authIdSpace) :
    Sound table (table.create key appId nodeGroupId now)
      (some table.nextId) where
  wellFormed := ConntrackTable.wellFormed_create wf absent room
  created_eq authId isNext := by
    cases isNext
    exact ConntrackTable.nextId_eq room
  nextAuthId := ConntrackTable.nextAuthId_create room
  settled := by
    rintro authId outcome ⟨assignedId, settled⟩
    rw [Settled, ConntrackTable.nextAuthId_create room]
    refine ⟨by omega, ?_⟩
    intro entry live
    rw [ConntrackTable.getByAuthId_create wf absent room,
      if_neg (by omega)] at live
    exact settled entry live

private theorem Sound.evict_then {key : FlowKey} {after : ConntrackTable}
    {createdId : Option Nat} (wf : table.WellFormed)
    (later : Sound (table.evict key).1 after createdId) :
    Sound table after createdId where
  wellFormed := later.wellFormed
  created_eq authId isCreated := by
    simpa using later.created_eq authId isCreated
  nextAuthId := by simpa using later.nextAuthId
  settled authId outcome settled :=
    later.settled authId outcome ((sound_evict wf key).settled _ _ settled)

private theorem sound_getOrCreateAt (wf : table.WellFormed) (key : FlowKey)
    (appId nodeGroupId : String) (now : Nat)
    (room :
      created table (getOrCreateAt key appId nodeGroupId now) ≠ none →
        table.nextAuthId + 1 < authIdSpace) :
    Sound table (table.getOrCreateAt key appId nodeGroupId now)
      (created table (getOrCreateAt key appId nodeGroupId now)) := by
  cases held : table.byKey.lookup key with
  | none =>
      simp only [created, held, Option.all_none, if_true] at room ⊢
      rw [ConntrackTable.getOrCreateAt_of_none held]
      exact sound_create wf held (room (by simp))
  | some entry =>
      cases other : ConntrackTable.foreign appId nodeGroupId entry with
      | false =>
          simp only [created, held, Option.all_some, other,
            Bool.false_eq_true, if_false]
          rw [ConntrackTable.getOrCreateAt_of_some held other]
          exact sound_refresh wf held now
      | true =>
          simp only [created, held, Option.all_some, other, if_true] at room ⊢
          rw [ConntrackTable.getOrCreateAt_of_foreign held other]
          have gone : (table.evict key).1.byKey.lookup key = none := by
            rw [ConntrackTable.lookup_evict, if_pos rfl]
          have sameNext : (table.evict key).1.nextId = table.nextId := by
            unfold ConntrackTable.nextId
            rw [ConntrackTable.nextAuthId_evict]
          rw [← sameNext]
          exact Sound.evict_then wf
            (sound_create (ConntrackTable.wellFormed_evict wf key) gone
              (by simpa using room (by simp)))

/-- Every call is sound on a well-formed table with an id left to assign. -/
theorem sound_apply (wf : table.WellFormed) (op : TableOp)
    (room : op.created table ≠ none → table.nextAuthId + 1 < authIdSpace) :
    Sound table (op.apply table) (op.created table) := by
  cases op with
  | getOrCreateAt key appId nodeGroupId now =>
      exact sound_getOrCreateAt wf key appId nodeGroupId now room
  | markAuth authId code message connectToken =>
      simp only [apply, created, ConntrackTable.markAuth]
      split
      · rename_i marked found
        split at found
        · cases found
        · cases found
          exact sound_modify wf (ConntrackTable.keepsIdentity_complete _)
            (keepsOutcome_complete _) authId
      · exact sound_pruned wf (ConntrackTable.Pruned.refl table)
  | markAuthError authId message =>
      simp only [apply, created, ConntrackTable.markAuthError]
      split
      · rename_i marked found
        split at found
        · cases found
        · cases found
          exact sound_modify wf (ConntrackTable.keepsIdentity_complete _)
            (keepsOutcome_complete _) authId
      · exact sound_pruned wf (ConntrackTable.Pruned.refl table)
  | evict key => exact sound_evict wf key
  | evictByAuthId authId =>
      simp only [apply, created]
      rw [ConntrackTable.evictByAuthId_eq wf]
      split
      · exact sound_pruned wf (ConntrackTable.Pruned.refl table)
      · exact sound_evict wf _
  | pruneAt order now =>
      exact sound_pruned wf
        (ConntrackTable.pruned_pruneAtWithRoom wf order now true)
  | maintainForFlow order key now =>
      exact sound_pruned wf
        (ConntrackTable.pruned_maintainForFlow wf order key now)
  | touch key now =>
      simp only [apply, created]
      cases held : table.byKey.lookup key with
      | none =>
          rw [ConntrackTable.touchAt_of_none held]
          exact sound_pruned wf (ConntrackTable.Pruned.refl table)
      | some entry =>
          rw [ConntrackTable.touchAt_of_some held]
          exact sound_refresh wf held now
  | clear =>
      refine ⟨ConntrackTable.wellFormed_clear table, ?_, rfl, ?_⟩
      · intro authId impossible
        cases impossible
      · rintro authId outcome ⟨assignedId, -⟩
        exact ⟨assignedId, by simp [apply]⟩
  | tryStartAuth authId now =>
      exact sound_modify wf (ConntrackTable.keepsIdentity_tryStartAuth now)
        (keepsOutcome_tryStartAuth now) authId
  | setReusableFrame authId frame deadline =>
      exact sound_modify wf
        (ConntrackTable.keepsIdentity_setReusableFrame frame deadline)
        (fun _ _ settled => settled) authId
  | scheduleRetry authId budget =>
      exact sound_modify wf
        (ConntrackTable.keepsIdentity_scheduleRetry budget)
        (keepsOutcome_scheduleRetry budget) authId
  | takeRetry authId =>
      exact sound_modify wf ConntrackTable.keepsIdentity_takeRetry
        keepsOutcome_takeRetry authId
  | complete authId outcome =>
      exact sound_modify wf (ConntrackTable.keepsIdentity_complete outcome)
        (keepsOutcome_complete outcome) authId

end

/-! ## Whole runs -/

section

variable {table : ConntrackTable}

theorem run_append (before after : List TableOp) :
    run table (before ++ after) = run (run table before) after :=
  List.foldl_append

theorem assigned_append (before after : List TableOp) :
    assigned table (before ++ after) =
      assigned table before ++ assigned (run table before) after := by
  induction before generalizing table with
  | nil => rfl
  | cons op later inductionHypothesis =>
      simp only [List.cons_append, assigned, inductionHypothesis, run,
        List.foldl_cons, List.append_assoc]

/-- A run from a well-formed table that does not exhaust the counter. -/
theorem sound_run (wf : table.WellFormed) (ops : List TableOp)
    (room : table.nextAuthId + (assigned table ops).length < authIdSpace) :
    (run table ops).WellFormed ∧
      (run table ops).nextAuthId =
        table.nextAuthId + (assigned table ops).length ∧
      assigned table ops =
        List.range' (table.nextAuthId + 1) (assigned table ops).length ∧
      ∀ authId outcome, Settled table authId outcome →
        Settled (run table ops) authId outcome := by
  induction ops generalizing table with
  | nil => exact ⟨wf, rfl, rfl, fun _ _ settled => settled⟩
  | cons op later inductionHypothesis =>
      simp only [assigned, List.length_append] at room ⊢
      have once : Sound table (op.apply table) (op.created table) := by
        refine sound_apply wf op ?_
        intro creates
        cases isNew : op.created table with
        | none => exact absurd isNew creates
        | some authId =>
            simp only [isNew, Option.toList_some, List.length_singleton] at room
            omega
      have counted := once.nextAuthId
      obtain ⟨finalWf, laterNext, laterIds, laterSettled⟩ :=
        inductionHypothesis once.wellFormed (by omega)
      refine ⟨finalWf, ?_, ?_, ?_⟩
      · change (run (op.apply table) later).nextAuthId = _
        omega
      · cases isNew : op.created table with
        | none =>
            simp only [isNew, Option.toList_none, List.length_nil,
              Nat.add_zero] at counted
            simpa [counted] using laterIds
        | some authId =>
            simp only [isNew, Option.toList_some,
              List.length_singleton] at counted
            have isNext := once.created_eq authId isNew
            subst authId
            simp only [Option.toList_some, List.singleton_append,
              List.length_singleton]
            rw [Nat.add_comm 1, List.range'_succ, ← counted, ← laterIds]
      · intro authId outcome settled
        exact laterSettled authId outcome
          (once.settled authId outcome settled)

end

theorem wellFormed_withLimits (idleTtl capacity now : Nat) :
    (ConntrackTable.withLimits idleTtl capacity now).WellFormed := by
  refine ⟨?_, ?_, ?_⟩
  · intro authId key
    simp [ConntrackTable.withLimits, AList.lookup_empty]
  · intro key entry held
    simp [ConntrackTable.withLimits, AList.lookup_empty] at held
  · intro key entry held
    simp [ConntrackTable.withLimits, AList.lookup_empty] at held

/-- The table after any sequence of calls with fewer than `2^64` creations:
the maps are inverse, live ids have been assigned, no id is assigned twice, a
recorded outcome is never replaced, and marking an id that is not live is an
error without effect. -/
theorem run_withLimits_invariants (idleTtl capacity now : Nat)
    (ops : List TableOp)
    (few :
      (assigned (ConntrackTable.withLimits idleTtl capacity now) ops).length <
        authIdSpace) :
    let start := ConntrackTable.withLimits idleTtl capacity now
    let final := run start ops
    (∀ authId key, final.byId.lookup authId = some key ↔
      ∃ entry, final.byKey.lookup key = some entry ∧
        entry.authId = authId) ∧
    (∀ key entry, final.byKey.lookup key = some entry →
      entry.key = key ∧ 1 ≤ entry.authId ∧
        entry.authId ≤ final.nextAuthId) ∧
    (assigned start ops).Nodup ∧
    (∀ before after, ops = before ++ after →
      ∀ authId entry outcome,
        (run start before).getByAuthId authId = some entry →
        entry.outcome = some outcome →
        ∀ entry', final.getByAuthId authId = some entry' →
          entry'.outcome = some outcome) ∧
    (∀ authId, final.byId.lookup authId = none →
      ∀ code message connectToken,
        final.markAuth authId code message connectToken =
          .error (.unknownAuthId authId) ∧
        final.markAuthError authId message =
          .error (.unknownAuthId authId) ∧
        (markAuth authId code message connectToken).apply final = final ∧
        (markAuthError authId message).apply final = final) := by
  have startWf := wellFormed_withLimits idleTtl capacity now
  have room :
      (ConntrackTable.withLimits idleTtl capacity now).nextAuthId +
        (assigned (ConntrackTable.withLimits idleTtl capacity now)
          ops).length < authIdSpace := by
    simpa [ConntrackTable.withLimits] using few
  obtain ⟨finalWf, -, ids, -⟩ := sound_run startWf ops room
  refine ⟨finalWf.inverse, ?_, ?_, ?_, ?_⟩
  · intro key entry held
    exact ⟨finalWf.stored_key key entry held, finalWf.bounded key entry held⟩
  · rw [ids]
    exact List.nodup_range'
  · rintro before after rfl authId entry outcome live settled entry' live'
    rw [assigned_append, List.length_append] at room
    obtain ⟨middleWf, counted, -, -⟩ := sound_run startWf before (by omega)
    obtain ⟨-, -, -, keeps⟩ :=
      sound_run middleWf after (by rw [counted]; omega)
    have middleSettled :
        Settled (run (ConntrackTable.withLimits idleTtl capacity now) before)
          authId outcome := by
      refine ⟨(ConntrackTable.getByAuthId_bounded middleWf live).2, ?_⟩
      intro found again
      rw [live] at again
      cases again
      exact settled
    rw [run_append] at live'
    exact (keeps authId outcome middleSettled).2 entry' live'
  · intro authId absent code message connectToken
    have notLive : (run (ConntrackTable.withLimits idleTtl capacity now)
        ops).getByAuthId authId = none := by
      simp [ConntrackTable.getByAuthId, absent]
    simp [ConntrackTable.markAuth, ConntrackTable.markAuthError, apply,
      notLive]

/-- A flow that times out is authorized again under a new id, and a late reply
to the old one is refused. -/
theorem run_withLimits_invariants_late_reply :
    let start := ConntrackTable.withLimits 300 8 0
    let flow := FlowKey.new 4 6 "10.8.0.1" 1 "10.0.0.9" 443
    let ops :=
      [getOrCreateAt flow "app" "group" 0, evictByAuthId 1,
        getOrCreateAt flow "app" "group" 1]
    assigned start ops = [1, 2] ∧
      (run start ops).markAuth 1 0 "" "late" = .error (.unknownAuthId 1) :=
  ⟨by decide, ((run_withLimits_invariants 300 8 0
    [getOrCreateAt (FlowKey.new 4 6 "10.8.0.1" 1 "10.0.0.9" 443) "app"
        "group" 0,
      evictByAuthId 1,
      getOrCreateAt (FlowKey.new 4 6 "10.8.0.1" 1 "10.0.0.9" 443) "app"
        "group" 1] (by decide)).2.2.2.2 1 (by decide) 0 "" "late").1⟩

end TableOp

end HermesAtrust.L3
