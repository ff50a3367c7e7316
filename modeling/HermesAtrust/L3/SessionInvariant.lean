import HermesAtrust.L3.ConntrackEvolution
import HermesAtrust.L3.SessionLaws

/-!
# The basic invariant of a session

Facts that hold in every reachable state and carry the later results: the
table is well formed, a caller between maintenance and registration holds the
conntrack mutex and sees no foreign entry under its flow, ids of attempts have
been assigned, an abandoned attempt has left the table, a registered caller
waits on an entry of its own flow and resource, and an outcome that is being
delivered is the recorded one.
-/

namespace HermesAtrust.L3

open HermesAtrust.Framing HermesAtrust.Protocol HermesAtrust.Collections

/-- The entry was created for the flow and the resource of the request. -/
structure Matches (request : AuthRequest) (entry : ConntrackEntry) : Prop where
  key : entry.key = request.key
  appId : entry.appId = request.appId
  nodeGroupId : entry.nodeGroupId = request.nodeGroupId

theorem Matches.heir {request : AuthRequest} {entry changed : ConntrackEntry}
    (own : Matches request entry) (heir : Heir entry changed) :
    Matches request changed :=
  ⟨heir.key.trans own.key, heir.appId.trans own.appId,
    heir.nodeGroupId.trans own.nodeGroupId⟩

theorem matches_of_not_foreign {request : AuthRequest}
    {entry : ConntrackEntry} (key : entry.key = request.key)
    (own :
      ConntrackTable.foreign request.appId request.nodeGroupId entry = false) :
    Matches request entry := by
  unfold ConntrackTable.foreign at own
  rw [Bool.or_eq_false_iff] at own
  exact ⟨key, by simpa using own.1, by simpa using own.2⟩

/-- Between maintenance and registration. -/
def CallerPhase.claiming : CallerPhase → Bool
  | .claimSettle | .claimInsert => true
  | _ => false

/-- What the attempt of a registered caller may rely on. -/
structure AttemptOk (table : ConntrackTable) (request : AuthRequest)
    (attempt : Attempt) : Prop where
  assigned : 1 ≤ attempt.authId ∧ attempt.authId ≤ table.nextAuthId
  evicted :
    ∀ reason, attempt.stage = .abandonRemove reason →
      table.getByAuthId attempt.authId = none
  registered :
    attempt.slot = .registered →
      ∀ entry, table.getByAuthId attempt.authId = some entry →
        entry.authStarted = true ∧ Matches request entry

structure Sound (l : Ledger) : Prop where
  wellFormed : l.table.WellFormed
  claiming :
    ∀ c request phase, l.InPhase c request phase → phase.claiming = true →
      l.tableOwner = some c ∧
        ∀ entry, l.table.byKey.lookup request.key = some entry →
          ConntrackTable.foreign request.appId request.nodeGroupId entry =
            false
  attempts :
    ∀ c request attempt, l.Attempting c request attempt →
      AttemptOk l.table request attempt
  delivering :
    ∀ authId outcome, l.Delivering authId outcome →
      authId ≤ l.table.nextAuthId ∧
        ∀ entry, l.live authId = some entry → entry.outcome ≠ none

namespace AttemptOk

variable {table table' : ConntrackTable} {request : AuthRequest}
  {attempt : Attempt}

theorem evolve (ok : AttemptOk table request attempt)
    (evolves : Evolves Heir table table') :
    AttemptOk table' request attempt where
  assigned := by
    rw [evolves.nextAuthId]
    exact ok.assigned
  evicted reason stands := by
    cases live : table'.getByAuthId attempt.authId with
    | none => rfl
    | some changed =>
        obtain ⟨entry, former, -⟩ := evolves.continues _ _ live
        rw [ok.evicted reason stands] at former
        cases former
  registered waiting changed live := by
    obtain ⟨entry, former, heir⟩ := evolves.continues _ _ live
    obtain ⟨started, own⟩ := ok.registered waiting entry former
    exact ⟨heir.authStarted.trans started, own.heir heir⟩

theorem setStage (ok : AttemptOk table request attempt) {stage : Stage}
    (kept : ∀ reason, stage ≠ .abandonRemove reason) :
    AttemptOk table request { attempt with stage := stage } where
  assigned := ok.assigned
  evicted reason stands := absurd stands (kept reason)
  registered := ok.registered

theorem wake (ok : AttemptOk table request attempt)
    {selected : Nat → Bool} {slot : Slot} (spent : slot ≠ .registered) :
    AttemptOk table request (attempt.wake selected slot) where
  assigned := by simpa using ok.assigned
  evicted reason stands := by
    rw [Attempt.wake_stage] at stands
    simpa using ok.evicted reason stands
  registered waiting := by
    simpa using
      ok.registered (Attempt.registered_of_wake spent waiting).1

end AttemptOk

namespace Sound

variable {l : Ledger} {c : Nat} {request : AuthRequest}
  {phase old : CallerPhase}

theorem setPhase (sound : Sound l) (present : l.InPhase c request old)
    (claims :
      phase.claiming = true →
        l.tableOwner = some c ∧
          ∀ entry, l.table.byKey.lookup request.key = some entry →
            ConntrackTable.foreign request.appId request.nodeGroupId entry =
              false)
    (attempt :
      ∀ attempt, phase = .attempting attempt →
        AttemptOk l.table request attempt) : Sound (l.setPhase c phase) where
  wellFormed := sound.wellFormed
  claiming d request' phase' stands := by
    rcases Ledger.inPhase_setPhase_cases present stands with
      ⟨rfl, rfl, rfl⟩ | ⟨-, before⟩
    · exact claims
    · exact sound.claiming d request' phase' before
  attempts d request' attempt' stands := by
    rcases Ledger.inPhase_setPhase_cases present stands with
      ⟨-, rfl, chosen⟩ | ⟨-, before⟩
    · exact attempt attempt' chosen
    · exact sound.attempts d request' attempt' before
  delivering := sound.delivering

/-- A registered caller moves on. -/
theorem setStage (sound : Sound l) {attempt : Attempt}
    (present : l.Attempting c request attempt) {stage : Stage}
    (kept : ∀ reason, stage ≠ .abandonRemove reason) :
    Sound (l.setPhase c (.attempting { attempt with stage := stage })) := by
  refine sound.setPhase present (fun impossible => by cases impossible) ?_
  intro moved isMoved
  cases isMoved
  exact (sound.attempts c request attempt present).setStage kept

theorem wake (sound : Sound l) {selected : Nat → Bool} {slot : Slot}
    (spent : slot ≠ .registered) : Sound (l.wake selected slot) where
  wellFormed := sound.wellFormed
  claiming d request' phase' stands claims := by
    obtain ⟨former, before, woken⟩ := Ledger.inPhase_mapPhases.mp stands
    cases former with
    | attempting attempt =>
        subst woken
        cases claims
    | _ =>
        subst woken
        exact sound.claiming d request' _ before claims
  attempts d request' attempt stands := by
    obtain ⟨former, before, rfl⟩ := Ledger.attempting_wake.mp stands
    exact (sound.attempts d request' former before).wake spent
  delivering := sound.delivering

/-- The table evolves while nobody is between maintenance and registration. -/
theorem evolve (sound : Sound l) (free : l.tableOwner = none)
    {table : ConntrackTable} (evolves : Evolves Heir l.table table) :
    Sound { l with table := table } where
  wellFormed := evolves.wellFormed
  claiming d request' phase' stands claims := by
    have held := (sound.claiming d request' phase' stands claims).1
    rw [free] at held
    cases held
  attempts d request' attempt stands :=
    (sound.attempts d request' attempt stands).evolve evolves
  delivering authId outcome delivers := by
    obtain ⟨assigned, settled⟩ := sound.delivering authId outcome delivers
    refine ⟨by rw [evolves.nextAuthId]; exact assigned, ?_⟩
    intro changed live
    obtain ⟨entry, former, heir⟩ := evolves.continues authId changed live
    cases verdict : entry.outcome with
    | none => exact absurd verdict (settled entry former)
    | some recorded => simp [heir.settled recorded verdict]

theorem evolveCalm (sound : Sound l) (free : l.tableOwner = none)
    {table : ConntrackTable} (evolves : Evolves Calm l.table table) :
    Sound { l with table := table } :=
  sound.evolve free (evolves.mono fun _ _ calm => calm.toHeir)

theorem setReader (sound : Sound l) {position : ReaderPc}
    (delivers :
      ∀ authId outcome,
        position = .settle authId outcome ∨
          position = .notify authId outcome →
        authId ≤ l.table.nextAuthId ∧
          ∀ entry, l.live authId = some entry → entry.outcome ≠ none) :
    Sound { l with reader := position } where
  wellFormed := sound.wellFormed
  claiming := sound.claiming
  attempts := sound.attempts
  delivering authId outcome delivering := by
    rcases delivering with reader | scheduler
    · exact delivers authId outcome reader
    · exact sound.delivering authId outcome (Or.inr scheduler)

theorem setReaderPlain (sound : Sound l) {position : ReaderPc}
    (plain :
      ∀ authId outcome,
        ¬ (position = .settle authId outcome ∨
          position = .notify authId outcome)) :
    Sound { l with reader := position } :=
  sound.setReader fun authId outcome delivers =>
    absurd delivers (plain authId outcome)

theorem setScheduler (sound : Sound l) {position : SchedulerPc}
    (delivers :
      ∀ authId outcome,
        position = .settle authId outcome ∨
          position = .notify authId outcome →
        authId ≤ l.table.nextAuthId ∧
          ∀ entry, l.live authId = some entry → entry.outcome ≠ none) :
    Sound { l with scheduler := position } where
  wellFormed := sound.wellFormed
  claiming := sound.claiming
  attempts := sound.attempts
  delivering authId outcome delivering := by
    rcases delivering with reader | scheduler
    · exact sound.delivering authId outcome (Or.inl reader)
    · exact delivers authId outcome scheduler

theorem setSchedulerPlain (sound : Sound l) {position : SchedulerPc}
    (plain :
      ∀ authId outcome,
        ¬ (position = .settle authId outcome ∨
          position = .notify authId outcome)) :
    Sound { l with scheduler := position } :=
  sound.setScheduler fun authId outcome delivers =>
    absurd delivers (plain authId outcome)

theorem setShutdown (sound : Sound l) (phase : ShutdownPhase) :
    Sound { l with shutdown := phase } :=
  ⟨sound.wellFormed, sound.claiming, sound.attempts, sound.delivering⟩

theorem setSide (sound : Sound l) (side : Periphery) :
    Sound { l with side := side } :=
  ⟨sound.wellFormed, sound.claiming, sound.attempts, sound.delivering⟩

theorem beginShutdown (sound : Sound l) : Sound l.beginShutdown := by
  unfold Ledger.beginShutdown
  split
  · exact sound.setShutdown _
  · exact sound

/-- A caller takes the free conntrack mutex. -/
theorem lock (sound : Sound l) (free : l.tableOwner = none) (c : Nat) :
    Sound { l with tableOwner := some c } where
  wellFormed := sound.wellFormed
  claiming d request' phase' stands claims := by
    have held := (sound.claiming d request' phase' stands claims).1
    rw [free] at held
    cases held
  attempts := sound.attempts
  delivering := sound.delivering

end Sound

/-! ## The steps that touch the table -/

section

variable {table : ConntrackTable}

theorem keepsIdentity_storeFrame (frame : Bytes) (deadline : Nat) :
    ConntrackTable.KeepsIdentity fun entry =>
      if entry.authInFlight then entry.setReusableFrame frame deadline
      else entry where
  key entry := by split <;> rfl
  authId entry := by split <;> rfl

/-- Storing the frame of an attempt that is still in flight. -/
theorem Evolves.storeFrame (wf : table.WellFormed) (authId : Nat)
    (frame : Bytes) (deadline : Nat) :
    Evolves Calm table
      (table.modifyByAuthId authId fun entry =>
        if entry.authInFlight then entry.setReusableFrame frame deadline
        else entry) := by
  refine Evolves.modify wf (keepsIdentity_storeFrame frame deadline)
    Calm.refl ?_ authId
  intro entry
  split
  · exact Calm.setReusableFrame entry frame deadline
  · exact Calm.refl entry

theorem Evolves.complete (wf : table.WellFormed) (authId : Nat)
    (outcome : AuthOutcome) :
    Evolves Heir table (table.modifyByAuthId authId (·.complete outcome)) :=
  Evolves.modify wf (ConntrackTable.keepsIdentity_complete outcome)
    Heir.refl (fun entry => Heir.complete entry outcome) authId

theorem Evolves.fail (wf : table.WellFormed) (authId : Nat)
    (message : String) :
    Evolves Calm table
      (table.modifyByAuthId authId (·.complete (.failed message))) :=
  Evolves.modify wf (ConntrackTable.keepsIdentity_complete _)
    Calm.refl (fun entry => Calm.complete_failed entry message) authId

theorem Evolves.scheduleRetry (wf : table.WellFormed) (authId budget : Nat) :
    Evolves Calm table
      (table.modifyByAuthId authId fun entry =>
        (entry.scheduleRetry budget).1) :=
  Evolves.modify wf (ConntrackTable.keepsIdentity_scheduleRetry budget)
    Calm.refl (fun entry => Calm.scheduleRetry entry budget) authId

theorem Evolves.takeRetry (wf : table.WellFormed) (authId : Nat) :
    Evolves Calm table
      (table.modifyByAuthId authId fun entry => entry.takeRetry.1) :=
  Evolves.modify wf ConntrackTable.keepsIdentity_takeRetry
    Calm.refl Calm.takeRetry authId

theorem Evolves.applyAuthWireStatus (wf : table.WellFormed)
    {codec : L3AuthCodec} {status : UInt8} {json : Bytes}
    {marked : ConntrackTable} {authId : Nat}
    (applied :
      applyAuthWireStatus codec table status json = .ok (marked, authId)) :
    Evolves Heir table marked := by
  obtain ⟨entry, outcome, -, rfl, -⟩ := applyAuthWireStatus_ok applied
  exact Evolves.complete wf authId outcome

theorem Evolves.touched (wf : table.WellFormed) {after : ConntrackTable}
    (touched :
      after = table ∨ ∃ key now, after = (table.touchAt key now).1) :
    Evolves Aged table after := by
  rcases touched with rfl | ⟨key, now, rfl⟩
  · exact Evolves.refl wf
  · exact Evolves.touchAt wf key now

/-- A recorded outcome is the outcome of the live entry. -/
theorem outcome_of_verdict {authId : Nat} {outcome : AuthOutcome}
    (verdict :
      (table.getByAuthId authId).bind (·.outcome) = some outcome)
    {entry : ConntrackEntry} (live : table.getByAuthId authId = some entry) :
    entry.outcome = some outcome := by
  rw [live] at verdict
  exact verdict

/-- A recorded outcome belongs to a live entry. -/
theorem live_of_verdict {authId : Nat} {outcome : AuthOutcome}
    (verdict :
      (table.getByAuthId authId).bind (·.outcome) = some outcome) :
    ∃ entry, table.getByAuthId authId = some entry ∧
      entry.outcome = some outcome :=
  Option.bind_eq_some_iff.mp verdict

/-- Completing an open entry records the given outcome. -/
theorem verdict_complete (wf : table.WellFormed) {authId : Nat}
    {entry : ConntrackEntry} {outcome : AuthOutcome}
    (live : table.getByAuthId authId = some entry)
    (unsettled : entry.outcome = none) :
    ((table.modifyByAuthId authId (·.complete outcome)).getByAuthId
      authId).bind (·.outcome) = some outcome := by
  rw [ConntrackTable.getByAuthId_modifyByAuthId wf
    (ConntrackTable.keepsIdentity_complete outcome), if_pos rfl, live]
  simp [ConntrackEntry.complete, unsettled]

end

section

variable {s : State} {c : Nat} {request : AuthRequest}

/-- The table after the first part of a claim: maintained, and without the
entry under the flow if that belongs to another resource. -/
structure Claimed (before maintained after : ConntrackTable)
    (request : AuthRequest) (gone : Nat → Bool) : Prop where
  evolves : Evolves Aged before after
  own :
    ∀ entry, after.byKey.lookup request.key = some entry →
      ConntrackTable.foreign request.appId request.nodeGroupId entry = false
  evicted : ∀ authId, gone authId = true → after.getByAuthId authId = none
  spared :
    ∀ authId, gone authId = false →
      after.getByAuthId authId = maintained.getByAuthId authId

private theorem claimed_own {maintained : ConntrackTable}
    (evolves : Evolves Aged s.table maintained)
    (own :
      ∀ entry, maintained.byKey.lookup request.key = some entry →
        ConntrackTable.foreign request.appId request.nodeGroupId entry =
          false) :
    Claimed s.table maintained maintained request fun _ => false :=
  ⟨evolves, own, fun _ gone => Bool.noConfusion gone, fun _ _ => rfl⟩

private theorem claimed_foreign {maintained : ConntrackTable}
    (evolves : Evolves Aged s.table maintained) {old : ConntrackEntry}
    (held : maintained.byKey.lookup request.key = some old) :
    Claimed s.table maintained (maintained.evictByAuthId old.authId).1 request
      (· == old.authId) where
  evolves :=
    evolves.trans (Evolves.evictByAuthId evolves.wellFormed old.authId)
  own entry kept := by
    obtain ⟨same, different⟩ :=
      (ConntrackTable.lookup_evictByAuthId evolves.wellFormed).mp kept
    rw [held] at same
    cases same
    exact absurd rfl different
  evicted authId gone := by
    rw [beq_iff_eq.mp gone,
      ConntrackTable.getByAuthId_evictByAuthId evolves.wellFormed, if_pos rfl]
  spared authId kept := by
    rw [ConntrackTable.getByAuthId_evictByAuthId evolves.wellFormed,
      if_neg (beq_eq_false_iff_ne.mp kept)]

/-- What the first part of a claim does. -/
theorem claimFlow_effect (wf : s.table.WellFormed)
    (order : IterationOrder ConntrackEntry) (c : Nat)
    (request : AuthRequest) :
    ∃ table gone phase,
      Claimed s.table (s.table.maintainForFlow order request.key s.now).1
        table request gone ∧
      CallerPhase.claiming phase = true ∧
      (s.claimFlow order c request).ledger =
        (({ s.ledger with table := table, tableOwner := some c } :
            Ledger).wake gone
          (.sent (.failed
            "flow resource changed during authorization"))).setPhase c
              phase := by
  have evolves :=
    Evolves.pruned wf
      (ConntrackTable.pruned_maintainForFlow wf order request.key s.now)
  unfold State.claimFlow
  simp only [ConntrackTable.getByKey]
  cases held : (s.table.maintainForFlow order request.key
      s.now).1.byKey.lookup request.key with
  | none =>
      refine ⟨_, _, .claimInsert, claimed_own evolves ?_, rfl, ?_⟩
      · rw [held]
        intro entry impossible
        cases impossible
      · rw [Ledger.wake_none]
        rfl
  | some old =>
      cases other :
          ConntrackTable.foreign request.appId request.nodeGroupId old with
      | false =>
          rw [Option.filter_some, if_neg (by simp [other])]
          refine ⟨_, _, .claimInsert, claimed_own evolves ?_, rfl, ?_⟩
          · rw [held]
            intro entry isOld
            cases isOld
            exact other
          · rw [Ledger.wake_none]
            rfl
      | true =>
          rw [Option.filter_some, if_pos other]
          refine ⟨_, _, _, claimed_foreign evolves held, ?_, rfl⟩
          split <;> rfl

/-- The table after a caller has registered with an attempt. -/
structure Registers (before after : ConntrackTable) (request : AuthRequest)
    (authId : Nat) (mustSend : Bool) (entry : ConntrackEntry) : Prop where
  wellFormed : after.WellFormed
  nextAuthId_le : before.nextAuthId ≤ after.nextAuthId
  assigned : 1 ≤ authId ∧ authId ≤ after.nextAuthId
  stored : after.getByAuthId authId = some entry
  own : Matches request entry
  started : entry.authStarted = true
  unsettled : entry.outcome = none
  others :
    ∀ other, other ≠ authId →
      after.getByAuthId other = before.getByAuthId other
  origin :
    (∃ former, before.getByAuthId authId = some former ∧
      Matches request former ∧ former.outcome = none ∧
      former.authStarted = !mustSend ∧ entry.retries = former.retries ∧
      entry.retryScheduled = former.retryScheduled ∧
      entry.reusableFrame = former.reusableFrame) ∨
    (before.nextAuthId < authId ∧ mustSend = true ∧ entry.retries = 0 ∧
      entry.retryScheduled = false ∧ entry.reusableFrame = none)

/-- The answer a recorded outcome gives. -/
def AuthOutcome.result : AuthOutcome → FlowResult
  | .ready connectToken => .ok connectToken
  | .failed message => .error (.flowAuth (.authFailed message))

private theorem tryStartAuth_eq (entry : ConntrackEntry) (now : Nat) :
    (entry.tryStartAuth now).1.authStarted = true ∧
      (entry.tryStartAuth now).1.outcome = entry.outcome ∧
      (entry.tryStartAuth now).1.key = entry.key ∧
      (entry.tryStartAuth now).1.appId = entry.appId ∧
      (entry.tryStartAuth now).1.nodeGroupId = entry.nodeGroupId ∧
      (entry.tryStartAuth now).1.retries = entry.retries ∧
      (entry.tryStartAuth now).1.retryScheduled = entry.retryScheduled ∧
      (entry.tryStartAuth now).1.reusableFrame = entry.reusableFrame ∧
      entry.authStarted = !(entry.tryStartAuth now).2 := by
  unfold ConntrackEntry.tryStartAuth
  cases started : entry.authStarted with
  | true => simp [started]
  | false => simp

/-- Starting the attempt of an entry that the table holds. -/
private theorem registers_tryStartAuth (before : ConntrackTable)
    {table : ConntrackTable} (entry : ConntrackEntry) (now : Nat)
    (wf : table.WellFormed)
    (live : table.getByAuthId entry.authId = some entry)
    (own : Matches request entry) (unsettled : entry.outcome = none)
    (grown : before.nextAuthId ≤ table.nextAuthId)
    (others :
      ∀ other, other ≠ entry.authId →
        table.getByAuthId other = before.getByAuthId other)
    (origin :
      (∃ former, before.getByAuthId entry.authId = some former ∧
        Matches request former ∧ former.outcome = none ∧
        former.authStarted = entry.authStarted ∧ entry.retries = former.retries ∧
        entry.retryScheduled = former.retryScheduled ∧
        entry.reusableFrame = former.reusableFrame) ∨
      (before.nextAuthId < entry.authId ∧ entry.authStarted = false ∧
        entry.retries = 0 ∧ entry.retryScheduled = false ∧
        entry.reusableFrame = none)) :
    Registers before
      (table.modifyByAuthId entry.authId fun stored =>
        (stored.tryStartAuth now).1)
      request entry.authId (entry.tryStartAuth now).2
      (entry.tryStartAuth now).1 := by
  have identity := ConntrackTable.keepsIdentity_tryStartAuth now
  obtain ⟨started, outcome, key, appId, nodeGroupId, retries, scheduled,
    frame, license⟩ := tryStartAuth_eq entry now
  refine ⟨ConntrackTable.wellFormed_modifyByAuthId wf identity _,
    by simpa using grown, by simpa using
      ConntrackTable.getByAuthId_bounded wf live, ?_,
    ⟨key.trans own.key, appId.trans own.appId,
      nodeGroupId.trans own.nodeGroupId⟩, started,
    outcome.trans unsettled, ?_, ?_⟩
  · rw [ConntrackTable.getByAuthId_modifyByAuthId wf identity, if_pos rfl,
      live]
    rfl
  · intro other different
    rw [ConntrackTable.getByAuthId_modifyByAuthId wf identity,
      if_neg different]
    exact others other different
  · rcases origin with
      ⟨former, found, matched, open_, same, sameRetries, sameScheduled,
        sameFrame⟩ |
      ⟨later, unstarted, none_, unscheduled, noFrame⟩
    · left
      exact ⟨former, found, matched, open_, same.trans license,
        retries.trans sameRetries, scheduled.trans sameScheduled,
        frame.trans sameFrame⟩
    · right
      refine ⟨later, ?_, retries.trans none_, scheduled.trans unscheduled,
        frame.trans noFrame⟩
      rw [unstarted] at license
      simpa using license.symm

private theorem insertFlow_of_entry {table : ConntrackTable}
    {entry : ConntrackEntry}
    (created :
      s.table.getOrCreateAt request.key request.appId request.nodeGroupId
        s.now = table)
    (found : table.getByKey request.key = some entry) :
    s.insertFlow c request =
      match entry.outcome with
      | some outcome =>
          { s with table := table, tableOwner := none }.setPhase c
            (.answered outcome.result)
      | none =>
          { s with
              table :=
                table.modifyByAuthId entry.authId fun stored =>
                  (stored.tryStartAuth s.now).1
              tableOwner := none }.setAttempt c
            { authId := entry.authId
              mustSend := (entry.tryStartAuth s.now).2
              slot := .registered
              stage :=
                if (entry.tryStartAuth s.now).2 then .build else .arm } := by
  unfold State.insertFlow
  rw [created]
  simp only [found]
  cases entry.outcome with
  | none => rfl
  | some outcome => cases outcome <;> rfl

/-- What the second part of a claim does: the caller is answered from the
table, or it registers. -/
theorem insertFlow_cases (wf : s.table.WellFormed)
    (room : s.table.nextAuthId + 1 < authIdSpace)
    (own :
      ∀ entry, s.table.byKey.lookup request.key = some entry →
        ConntrackTable.foreign request.appId request.nodeGroupId entry =
          false) :
    (∃ entry outcome table,
      s.table.byKey.lookup request.key = some entry ∧
        Matches request entry ∧ entry.outcome = some outcome ∧
        Evolves Aged s.table table ∧
        (∀ authId, Retains s.table table authId) ∧
        s.insertFlow c request =
          { s with table := table, tableOwner := none }.setPhase c
            (.answered outcome.result)) ∨
    ∃ entry authId mustSend table,
      Registers s.table table request authId mustSend entry ∧
        s.insertFlow c request =
          { s with table := table, tableOwner := none }.setAttempt c
            { authId := authId
              mustSend := mustSend
              slot := .registered
              stage := if mustSend then .build else .arm } := by
  cases held : s.table.byKey.lookup request.key with
  | some entry =>
      have key := wf.stored_key request.key entry held
      have matched := matches_of_not_foreign key (own entry held)
      have live := ConntrackTable.getByAuthId_of_lookup wf held
      have refreshed := Evolves.refresh wf held s.now
      have created :
          s.table.getOrCreateAt request.key request.appId
              request.nodeGroupId s.now =
            { s.table with
              byKey :=
                s.table.byKey.insert request.key
                  { entry with lastUsed := s.now } } :=
        ConntrackTable.getOrCreateAt_of_some held (own entry held)
      have found :
          ({ s.table with
              byKey :=
                s.table.byKey.insert request.key
                  { entry with lastUsed := s.now } } :
            ConntrackTable).getByKey request.key =
            some { entry with lastUsed := s.now } := by
        simp [ConntrackTable.getByKey]
      cases verdict : entry.outcome with
      | some outcome =>
          left
          refine ⟨entry, outcome, _, rfl, matched, verdict, refreshed,
            Retains.refresh wf held s.now, ?_⟩
          rw [insertFlow_of_entry created found]
          simp only [verdict]
      | none =>
          right
          refine ⟨_, _, _, _,
            registers_tryStartAuth s.table { entry with lastUsed := s.now }
              s.now refreshed.wellFormed ?_
              ⟨matched.key, matched.appId, matched.nodeGroupId⟩ verdict
              (Nat.le_of_eq refreshed.nextAuthId.symm) ?_
              (Or.inl ⟨entry, live, matched, verdict, rfl, rfl, rfl, rfl⟩), ?_⟩
          · rw [ConntrackTable.getByAuthId_refresh wf held, if_pos rfl]
          · intro other different
            rw [ConntrackTable.getByAuthId_refresh wf held,
              if_neg different]
          · rw [insertFlow_of_entry created found]
            simp only [verdict]
  | none =>
      right
      have created :
          s.table.getOrCreateAt request.key request.appId
              request.nodeGroupId s.now =
            s.table.create request.key request.appId request.nodeGroupId
              s.now :=
        ConntrackTable.getOrCreateAt_of_none held
      have next := ConntrackTable.nextId_eq room
      have found :
          (s.table.create request.key request.appId request.nodeGroupId
              s.now).getByKey request.key =
            some (ConntrackTable.freshEntry request.key
              (s.table.nextAuthId + 1) request.appId request.nodeGroupId
              s.now) := by
        rw [ConntrackTable.getByKey, ConntrackTable.lookup_create,
          if_pos rfl, next]
      have createdWf :
          (s.table.create request.key request.appId request.nodeGroupId
            s.now).WellFormed :=
        ConntrackTable.wellFormed_create wf held room
      have grown :
          s.table.nextAuthId ≤
            (s.table.create request.key request.appId request.nodeGroupId
              s.now).nextAuthId := by
        rw [ConntrackTable.nextAuthId_create room]
        exact Nat.le_succ _
      refine ⟨_, _, _, _,
        registers_tryStartAuth s.table
          (ConntrackTable.freshEntry request.key (s.table.nextAuthId + 1)
            request.appId request.nodeGroupId s.now)
          s.now createdWf ?_ ⟨rfl, rfl, rfl⟩ rfl grown ?_
          (Or.inr ⟨Nat.lt_succ_self _, rfl, rfl, rfl, rfl⟩),
        insertFlow_of_entry created found⟩
      · rw [ConntrackTable.getByAuthId_create wf held room]
        exact if_pos rfl
      · intro other different
        rw [ConntrackTable.getByAuthId_create wf held room]
        exact if_neg different

end

/-! ## Preservation -/

namespace Sound

section

variable {l : Ledger} {c : Nat} {request : AuthRequest}
  {phase : CallerPhase}

/-- The caller that holds the mutex registers and releases it. -/
theorem register (sound : Sound l) (present : l.InPhase c request phase)
    (claims : phase.claiming = true) {table : ConntrackTable}
    {authId : Nat} {mustSend : Bool} {entry : ConntrackEntry} {stage : Stage}
    (registers : Registers l.table table request authId mustSend entry)
    (kept : ∀ reason, stage ≠ .abandonRemove reason) :
    Sound ({ l with table := table, tableOwner := none }.setPhase c
      (.attempting ⟨authId, mustSend, .registered, stage⟩)) := by
  have owner := (sound.claiming c request phase present claims).1
  have others :
      ∀ d request' phase', l.InPhase d request' phase' → d ≠ c →
        phase'.claiming = false := by
    intro d request' phase' stands different
    cases claimed : phase'.claiming with
    | false => rfl
    | true =>
        have held := (sound.claiming d request' phase' stands claimed).1
        rw [owner] at held
        cases held
        exact absurd rfl different
  refine ⟨registers.wellFormed, ?_, ?_, ?_⟩
  · intro d request' phase' stands claimed
    rcases Ledger.inPhase_setPhase_cases present stands with
      ⟨-, -, rfl⟩ | ⟨different, before⟩
    · cases claimed
    · rw [others d request' phase' before different] at claimed
      cases claimed
  · intro d request' attempt stands
    rcases Ledger.inPhase_setPhase_cases present stands with
      ⟨-, rfl, chosen⟩ | ⟨-, before⟩
    · cases chosen
      refine ⟨registers.assigned, fun reason stands =>
        absurd stands (kept reason), ?_⟩
      intro _ found live
      have same := Option.some.inj (registers.stored.symm.trans live)
      subst found
      exact ⟨registers.started, registers.own⟩
    · have ok := sound.attempts d request' attempt before
      refine ⟨⟨ok.assigned.1,
        Nat.le_trans ok.assigned.2 registers.nextAuthId_le⟩, ?_, ?_⟩
      · intro reason abandoned
        have gone := ok.evicted reason abandoned
        by_cases same : attempt.authId = authId
        · rcases registers.origin with ⟨former, live, -⟩ | ⟨fresh, -⟩
          · rw [← same, gone] at live
            cases live
          · have bound := ok.assigned.2
            omega
        · exact (registers.others _ same).trans gone
      · intro waiting found live
        by_cases same : attempt.authId = authId
        · have isEntry :=
            Option.some.inj (registers.stored.symm.trans (same ▸ live))
          subst found
          rcases registers.origin with ⟨former, held, own, -⟩ | ⟨fresh, -⟩
          · obtain ⟨-, theirs⟩ := ok.registered waiting former (same ▸ held)
            refine ⟨registers.started, ?_, ?_, ?_⟩
            · rw [registers.own.key, ← own.key, theirs.key]
            · rw [registers.own.appId, ← own.appId, theirs.appId]
            · rw [registers.own.nodeGroupId, ← own.nodeGroupId,
                theirs.nodeGroupId]
          · have bound := ok.assigned.2
            omega
        · exact ok.registered waiting found
            ((registers.others _ same).symm.trans live)
  · intro other outcome delivers
    obtain ⟨assigned, settled⟩ := sound.delivering other outcome delivers
    refine ⟨Nat.le_trans assigned registers.nextAuthId_le, ?_⟩
    intro found live
    by_cases same : other = authId
    · subst other
      rcases registers.origin with ⟨former, held, -, unsettled, -⟩ | ⟨fresh, -⟩
      · exact absurd unsettled (settled former held)
      · omega
    · exact settled found ((registers.others _ same).symm.trans live)

/-- The caller that holds the mutex is answered from the table. -/
theorem answerCached (sound : Sound l) (present : l.InPhase c request phase)
    (claims : phase.claiming = true) {table : ConntrackTable}
    (evolves : Evolves Aged l.table table) (result : FlowResult) :
    Sound ({ l with table := table, tableOwner := none }.setPhase c
      (.answered result)) := by
  have owner := (sound.claiming c request phase present claims).1
  refine ⟨evolves.wellFormed, ?_, ?_, ?_⟩
  · intro d request' phase' stands claimed
    rcases Ledger.inPhase_setPhase_cases present stands with
      ⟨-, -, rfl⟩ | ⟨different, before⟩
    · cases claimed
    · have held := (sound.claiming d request' phase' before claimed).1
      rw [owner] at held
      cases held
      exact absurd rfl different
  · intro d request' attempt stands
    rcases Ledger.inPhase_setPhase_cases present stands with
      ⟨-, -, impossible⟩ | ⟨-, before⟩
    · cases impossible
    · exact (sound.attempts d request' attempt before).evolve
        (evolves.mono fun _ _ aged => aged.calm.toHeir)
  · intro authId outcome delivers
    obtain ⟨assigned, settled⟩ := sound.delivering authId outcome delivers
    refine ⟨by rw [← evolves.nextAuthId] at assigned; exact assigned, ?_⟩
    intro changed live
    obtain ⟨entry, former, lastUsed, rfl⟩ :=
      evolves.continues authId changed live
    exact settled entry former

end

section

variable {cfg : SessionConfig} {s s' : State} {c : Nat}
  {request : AuthRequest} {phase : CallerPhase} {action : Action}

private theorem readStage_ne_abandonRemove {attempt : Attempt} {stage : Stage}
    (moved : s.readStage cfg c request attempt = some stage)
    (reason : AbandonReason) : stage ≠ .abandonRemove reason := by
  cases readStep_of_readStage moved <;> simp

private theorem afterAbandon_ne_abandonRemove (mustSend : Bool)
    (cause reason : AbandonReason) :
    State.afterAbandon request mustSend cause ≠ .abandonRemove reason := by
  rcases afterAbandon_cases request mustSend cause with
    counted | ⟨error, answered, -⟩
  · simp [counted]
  · simp [answered]

/-- The first part of a claim keeps the invariant. -/
private theorem claimFlow (sound : Sound s.ledger)
    (present : s.ledger.InPhase c request .claim)
    (free : s.tableOwner = none) (order : IterationOrder ConntrackEntry) :
    Sound (s.claimFlow order c request).ledger := by
  obtain ⟨table, gone, position, claimed, claims, effect⟩ :=
    claimFlow_effect sound.wellFormed order c request
  rw [effect]
  have locked := (sound.evolveCalm free claimed.evolves.calm).lock free c
  refine (locked.wake (by simp)).setPhase
    (Ledger.inPhase_mapPhases.mpr ⟨.claim, present, rfl⟩)
    (fun _ => ⟨rfl, claimed.own⟩) ?_
  rintro attempt rfl
  cases claims

/-- Every step of a caller keeps the invariant. -/
theorem callerStep (sound : Sound s.ledger)
    (present : s.ledger.InPhase c request phase)
    (step : CallerStep cfg s c request action phase s') :
    Sound s'.ledger := by
  cases step with
  | check checked =>
      refine sound.setPhase present ?_ ?_
      · intro claims
        cases checkStep_of_checkPhase checked <;> cases claims
      · rintro attempt rfl
        cases checkStep_of_checkPhase checked
  | claim free => exact claimFlow sound present free _
  | claimSettle =>
      exact sound.setPhase present
        (fun _ => sound.claiming c request _ present rfl)
        (fun _ impossible => by cases impossible)
  | insert room =>
      have own := (sound.claiming c request _ present rfl).2
      rcases insertFlow_cases (c := c) sound.wellFormed room own with
        ⟨entry, outcome, table, -, -, -, evolves, -, effect⟩ |
        ⟨entry, authId, mustSend, table, registers, effect⟩
      · rw [effect]
        exact sound.answerCached present rfl evolves outcome.result
      · rw [effect]
        refine sound.register present rfl registers ?_
        intro reason
        split <;> simp
  | read moved =>
      exact sound.setStage present (readStage_ne_abandonRemove moved)
  | storeFrame stands free =>
      have evolves := Evolves.storeFrame sound.wellFormed
      exact (sound.evolveCalm free (evolves _ _ _)).setStage present
        (by simp)
  | enqueueFailed stands ended => exact sound.setStage present (by simp)
  | enqueue stands =>
      exact (sound.setStage present (by simp)).setSide _
  | recordSent stands => exact sound.setStage present (by simp)
  | abandonEvict stands free =>
      rename_i attempt reason
      have evolves := Evolves.evictByAuthId sound.wellFormed attempt.authId
      have evicted := sound.evolveCalm free evolves.calm
      have ok := evicted.attempts c request attempt present
      refine evicted.setPhase present (fun impossible => by cases impossible) ?_
      intro moved isMoved
      cases isMoved
      refine ⟨ok.assigned, ?_, ok.registered⟩
      intro _ _
      change (s.ledger.table.evictByAuthId attempt.authId).1.getByAuthId
        attempt.authId = none
      rw [ConntrackTable.getByAuthId_evictByAuthId sound.wellFormed,
        if_pos rfl]
  | abandonRemove stands =>
      rename_i attempt reason
      have woken :
          Sound (s.ledger.wake (· == attempt.authId) .dropped) :=
        sound.wake (by simp)
      have still :
          (s.ledger.wake (· == attempt.authId) .dropped).Attempting c request
            (attempt.wake (· == attempt.authId) .dropped) :=
        Ledger.attempting_wake.mpr ⟨attempt, present, rfl⟩
      exact woken.setStage still (afterAbandon_ne_abandonRemove _ _)
  | settleTimeout stands => exact sound.setStage present (by simp)
  | expire stands empty due => exact sound.setStage present (by simp)
  | cancel suspended => exact sound.setStage present (by simp)

end

section

variable {cfg : SessionConfig} {l l' : Ledger} {action : Action}

private theorem bounded_of_verdict {table : ConntrackTable}
    (wf : table.WellFormed) {authId : Nat} {outcome : AuthOutcome}
    (verdict :
      (table.getByAuthId authId).bind (·.outcome) = some outcome) :
    authId ≤ table.nextAuthId ∧
      ∀ entry, table.getByAuthId authId = some entry →
        entry.outcome ≠ none := by
  obtain ⟨entry, live, -⟩ := live_of_verdict verdict
  refine ⟨(ConntrackTable.getByAuthId_bounded wf live).2, ?_⟩
  intro found again
  rw [outcome_of_verdict verdict again]
  simp

/-- Recording an outcome and starting to deliver it. -/
private theorem startDelivery (sound : Sound l) (free : l.tableOwner = none)
    {table : ConntrackTable} (evolves : Evolves Heir l.table table)
    {authId : Nat} {outcome : AuthOutcome}
    (verdict :
      (table.getByAuthId authId).bind (·.outcome) = some outcome) :
    Sound { l with table := table, reader := .settle authId outcome } := by
  refine (sound.evolve free evolves).setReader ?_
  rintro authId' outcome' (isSettle | isNotify)
  · cases isSettle
    exact bounded_of_verdict evolves.wellFormed verdict
  · cases isNotify

/-- Every step of another task keeps the invariant. -/
theorem taskStep (sound : Sound l) (step : TaskStep cfg l action l') :
    Sound l' := by
  have wf := sound.wellFormed
  cases step with
  | side moves => exact sound.setSide _
  | authorizeFlow fresh =>
      refine ⟨wf, ?_, ?_, sound.delivering⟩
      · intro d request' phase stands claims
        rcases Ledger.inPhase_start stands with rfl | before
        · cases claims
        · exact sound.claiming d request' phase before claims
      · intro d request' attempt stands
        rcases Ledger.inPhase_start stands with impossible | before
        · cases impossible
        · exact sound.attempts d request' attempt before
  | settled free idle applied verdict =>
      exact startDelivery sound free
        (Evolves.applyAuthWireStatus wf applied) verdict
  | applied free idle applied verdict =>
      exact sound.evolve free (Evolves.applyAuthWireStatus wf applied)
  | exhausted message free idle live unsettled =>
      exact startDelivery sound free (Evolves.complete wf _ _)
        (verdict_complete wf live unsettled)
  | scheduled enabled free idle plain =>
      exact (sound.evolveCalm free
        (Evolves.scheduleRetry wf _ _)).setReaderPlain (ReaderPc.not_delivering plain)
  | vipChanged idle accepted found changed =>
      have moved : Sound { l with reader := .vipClear } :=
        sound.setReaderPlain (by simp)
      exact ⟨moved.wellFormed, moved.claiming, moved.attempts,
        moved.delivering⟩
  | readerMove plain plain' =>
      exact sound.setReaderPlain (ReaderPc.not_delivering plain')
  | readerSettle stands =>
      refine sound.setReader ?_
      rintro authId' outcome' (isSettle | isNotify)
      · cases isSettle
      · cases isNotify
        exact sound.delivering _ _ (Or.inl (Or.inl stands))
  | readerNotify stands =>
      exact (sound.wake (by simp)).setReaderPlain (by simp)
  | retryFailed free stands verdict =>
      exact startDelivery sound free (Evolves.complete wf _ _) verdict
  | vipClear cancelled free stands =>
      exact (sound.evolveCalm free (Evolves.clear _).calm).setReaderPlain (by simp)
  | vipCount stands => exact sound.setReaderPlain (by simp)
  | vipDrain stands =>
      exact (sound.wake (by simp)).setReaderPlain (by simp)
  | vipReset stands => exact sound.setReaderPlain (by simp)
  | vipUnsubscribe stands free =>
      have moved : Sound { l with reader := .idle } :=
        sound.setReaderPlain (by simp)
      exact moved.setSide _
  | touch free stands touched =>
      exact (sound.evolveCalm free
        (Evolves.touched wf touched).calm).setReaderPlain (by simp)
  | readerStop stands =>
      exact sound.beginShutdown.setReaderPlain (by simp)
  | schedulerMove plain plain' quiet =>
      exact sound.setSchedulerPlain (SchedulerPc.not_delivering plain')
  | retryQueued stands =>
      have moved : Sound { l with scheduler := .awaitWrite } :=
        sound.setSchedulerPlain (by simp)
      exact moved.setSide _
  | schedulerClosing stands =>
      exact sound.beginShutdown.setSchedulerPlain (by simp)
  | deadlineExceeded message free stands live =>
      exact (sound.evolveCalm free
        (Evolves.fail wf _ _)).setSchedulerPlain (by simp)
  | retryTaken free stands live taken =>
      exact (sound.evolveCalm free
        (Evolves.takeRetry wf _)).setSchedulerPlain (by simp)
  | retryVoid free stands live taken =>
      exact (sound.evolveCalm free
        (Evolves.takeRetry wf _)).setSchedulerPlain (by simp)
  | outcomeFound free stands verdict =>
      refine sound.setScheduler ?_
      rintro authId' outcome' (isSettle | isNotify)
      · cases isSettle
        exact bounded_of_verdict wf verdict
      · cases isNotify
  | outcomeMissing free stands verdict =>
      exact sound.setSchedulerPlain (by simp)
  | schedulerSettle stands =>
      refine sound.setScheduler ?_
      rintro authId' outcome' (isSettle | isNotify)
      · cases isSettle
      · cases isNotify
        exact sound.delivering _ _ (Or.inr (Or.inl stands))
  | schedulerNotify stands =>
      exact (sound.wake (by simp)).setSchedulerPlain (by simp)
  | writerClosing => exact sound.beginShutdown.setSide _
  | close => exact sound.beginShutdown
  | stopSignal stands => exact sound.setShutdown _
  | unsubscribe stands free => exact (sound.setShutdown .clearTable).setSide _
  | clearTable cancelled free stands =>
      exact (sound.evolveCalm free (Evolves.clear _).calm).setShutdown _
  | countCancelled stands => exact sound.setShutdown _
  | drain stands => exact (sound.wake (by simp)).setShutdown _

end

theorem initial (vip : Ipv4Addr) (now : Nat) :
    Sound (State.initial vip now).ledger where
  wellFormed := by
    refine ⟨?_, ?_, ?_⟩
    · intro authId key
      simp [State.ledger, State.initial, ConntrackTable.new,
        ConntrackTable.withLimits, AList.lookup_empty]
    · intro key entry held
      simp [State.ledger, State.initial, ConntrackTable.new,
        ConntrackTable.withLimits, AList.lookup_empty] at held
    · intro key entry held
      simp [State.ledger, State.initial, ConntrackTable.new,
        ConntrackTable.withLimits, AList.lookup_empty] at held
  claiming c request phase stands := by cases stands
  attempts c request attempt stands := by cases stands
  delivering authId outcome delivers := by
    rcases delivers with (reader | reader) | scheduler | scheduler
    · cases reader
    · cases reader
    · cases scheduler
    · cases scheduler

/-- One step keeps the invariant. -/
theorem next {cfg : SessionConfig} {s s' : State} {action : Action}
    (sound : Sound s.ledger)
    (stepped : L3.next cfg s action = some s') : Sound s'.ledger := by
  rcases step_of_next stepped with
    ⟨c, request, phase, present, step⟩ | step
  · exact sound.callerStep present step
  · exact sound.taskStep step

/-- The invariant holds in every reachable state. -/
theorem run {cfg : SessionConfig} {vip : Ipv4Addr} {now : Nat}
    {actions : List Action} {s : State}
    (ran :
      Concurrency.run (L3.next cfg) (State.initial vip now) actions =
        some s) : Sound s.ledger := by
  refine Concurrency.invariant_of_run (fun s => Sound s.ledger) ?_ ?_ ran
  · exact Sound.initial vip now
  · intro state action after sound stepped
    exact sound.next stepped

end Sound

/-- The invariant rule of a session: what holds at the start, and is kept by
the steps of callers and other tasks that meet the condition, holds in every
state reached. -/
theorem invariant_of_steps {cfg : SessionConfig} {vip : Ipv4Addr} {now : Nat}
    {actions : List Action} {s : State} {condition : State → Action → Prop}
    (invariant : State → Prop)
    (initially : invariant (State.initial vip now))
    (caller :
      ∀ (t after : State) (action : Action) (c : Nat) (request : AuthRequest)
        (phase : CallerPhase), Sound t.ledger → invariant t →
        condition t action → t.ledger.InPhase c request phase →
        CallerStep cfg t c request action phase after → invariant after)
    (task :
      ∀ (t after : State) (action : Action), Sound t.ledger → invariant t →
        condition t action → TaskStep cfg t.ledger action after.ledger →
        invariant after)
    (meets :
      Concurrency.Meets (next cfg) condition (State.initial vip now) actions)
    (ran :
      Concurrency.run (next cfg) (State.initial vip now) actions = some s) :
    invariant s := by
  have both :
      Sound s.ledger ∧ invariant s := by
    refine Concurrency.invariant_of_meets
      (fun t => Sound t.ledger ∧ invariant t)
      ⟨Sound.initial vip now, initially⟩ ?_ meets ran
    rintro t action after ⟨sound, holds⟩ met stepped
    refine ⟨sound.next stepped, ?_⟩
    rcases step_of_next stepped with ⟨c, request, phase, present, step⟩ | step
    · exact caller t after action c request phase sound holds met present step
    · exact task t after action sound holds met step
  exact both.2

end HermesAtrust.L3
