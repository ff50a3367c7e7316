import HermesAtrust.L3.SessionInvariant

/-!
# No waiter is forgotten

Every task that settles, evicts or clears entries wakes the waiters in a later
step.  `Served` lists what may stand between: an open entry, a task that has
the wake-up ahead of it, or the retry scheduler in front of its second lookup.
That lookup is the weak place: an entry that the scheduler has completed may be
retired by the maintenance of another claim before the scheduler looks for its
outcome, and then nobody wakes its waiters.
-/

namespace HermesAtrust.L3

open HermesAtrust.Framing HermesAtrust.Protocol HermesAtrust.Collections

namespace Ledger

/-- The id has a stored sender. -/
def Registered (l : Ledger) (authId : Nat) : Prop :=
  ∃ c request attempt, l.Attempting c request attempt ∧
    attempt.authId = authId ∧ attempt.slot = .registered

/-- The id is live and has no outcome. -/
def Open (l : Ledger) (authId : Nat) : Prop :=
  ∃ entry, l.live authId = some entry ∧ entry.outcome = none

/-- An address update or the shutdown has cleared the table and not yet drained
the waiters. -/
def Draining (l : Ledger) : Prop :=
  ((∃ cancelled, l.reader = .vipCount cancelled) ∨ l.reader = .vipDrain) ∨
    (∃ cancelled, l.shutdown = .countCancelled cancelled) ∨
      l.shutdown = .drain

/-- Caller `c` stands inside `abandon_flow`, between its two locks. -/
def Abandons (l : Ledger) (c authId : Nat) : Prop :=
  ∃ request attempt reason, l.Attempting c request attempt ∧
    attempt.authId = authId ∧ attempt.stage = .abandonRemove reason

/-- No operation stands between its conntrack update and the matching
notification or removal of waiters. -/
structure Quiescent (l : Ledger) : Prop where
  delivering : ∀ authId outcome, ¬ l.Delivering authId outcome
  lookup : ∀ authId, l.scheduler ≠ .outcome authId
  draining : ¬ l.Draining
  abandoning : ∀ c authId, ¬ l.Abandons c authId

/-- The id is open, or somebody is going to wake its waiters. -/
def Served (l : Ledger) (authId : Nat) : Prop :=
  l.Open authId ∨
    (l.scheduler = .outcome authId ∧ ∃ entry, l.live authId = some entry) ∨
    (∃ outcome, l.Delivering authId outcome) ∨
    l.Draining ∨ ∃ c, l.Abandons c authId

/-- Every id with waiters is served. -/
def Reached (l : Ledger) : Prop :=
  ∀ authId, l.Registered authId → l.Served authId

end Ledger

/-- The maintenance of a claim does not retire the entry that the retry
scheduler is about to look up while callers wait on it. -/
def SparesLookup (s : State) : Action → Prop
  | .advance c order =>
      ∀ request, s.callers c = some ⟨request, .claim⟩ →
        ∀ authId, s.scheduler = .outcome authId →
          s.ledger.Registered authId →
          (s.table.maintainForFlow order request.key s.now).1.getByAuthId
            authId = s.table.getByAuthId authId
  | _ => True

/-- Reader positions behind a conntrack update. -/
def ReaderPc.busy : ReaderPc → Bool
  | .settle _ _ | .notify _ _ | .vipCount _ | .vipDrain => true
  | _ => false

theorem ReaderPc.not_busy_of_plain {position : ReaderPc}
    (plain : position.plain = true) : position.busy = false := by
  cases position <;> first | rfl | cases plain

namespace Ledger

section

variable {l l' : Ledger} {c d authId : Nat} {request : AuthRequest}
  {phase old : CallerPhase}

/-- What serves an id may not go away. -/
theorem Served.transfer (served : l.Served authId)
    (retains : Retains l.table l'.table authId)
    (lookup : l.scheduler = .outcome authId → l'.scheduler = .outcome authId)
    (delivering :
      ∀ outcome, l.Delivering authId outcome → l'.Delivering authId outcome)
    (draining : l.Draining → l'.Draining)
    (abandons : ∀ c, l.Abandons c authId → l'.Abandons c authId) :
    l'.Served authId := by
  rcases served with
    ⟨entry, live, open_⟩ | ⟨looks, entry, live⟩ | ⟨outcome, delivers⟩ |
    drains | ⟨c, abandoning⟩
  · obtain ⟨changed, live', kept⟩ := retains entry live
    exact Or.inl ⟨changed, live', kept open_⟩
  · obtain ⟨changed, live', -⟩ := retains entry live
    exact Or.inr (Or.inl ⟨lookup looks, changed, live'⟩)
  · exact Or.inr (Or.inr (Or.inl ⟨outcome, delivering outcome delivers⟩))
  · exact Or.inr (Or.inr (Or.inr (Or.inl (draining drains))))
  · exact Or.inr (Or.inr (Or.inr (Or.inr ⟨c, abandons c abandoning⟩)))

namespace Reached

/-- Only the table changes, and every id with waiters survives. -/
theorem retain (reached : Reached l) {table : ConntrackTable}
    (retains :
      ∀ authId, l.Registered authId → l.Served authId →
        Retains l.table table authId) :
    Reached { l with table := table } := by
  intro authId registered
  have served := reached authId registered
  exact served.transfer (retains authId registered served) id
    (fun _ => id) id (fun _ => id)

/-- The reader leaves a position that served nobody. -/
theorem setReader (reached : Reached l) (idle : l.reader.busy = false)
    (position : ReaderPc) : Reached { l with reader := position } := by
  intro authId registered
  refine (reached authId registered).transfer (.of_eq rfl) id ?_ ?_
    (fun _ => id)
  · rintro outcome ((stands | stands) | scheduler)
    · rw [stands] at idle
      cases idle
    · rw [stands] at idle
      cases idle
    · exact Or.inr scheduler
  · rintro ((⟨cancelled, stands⟩ | stands) | shutdown)
    · rw [stands] at idle
      cases idle
    · rw [stands] at idle
      cases idle
    · exact Or.inr shutdown

/-- The scheduler leaves a position that served nobody. -/
theorem setScheduler (reached : Reached l) (idle : l.scheduler.plain = true)
    (position : SchedulerPc) : Reached { l with scheduler := position } := by
  intro authId registered
  refine (reached authId registered).transfer (.of_eq rfl) ?_ ?_ id
    (fun _ => id)
  · intro stands
    rw [stands] at idle
    cases idle
  · rintro outcome (reader | stands | stands)
    · exact Or.inl reader
    · rw [stands] at idle
      cases idle
    · rw [stands] at idle
      cases idle

/-- The shutdown moves, unless it stands in front of its drain. -/
theorem setShutdown (reached : Reached l) {position : ShutdownPhase}
    (draining :
      (∃ cancelled, l.shutdown = .countCancelled cancelled) ∨
          l.shutdown = .drain →
        (∃ cancelled, position = .countCancelled cancelled) ∨
          position = .drain) : Reached { l with shutdown := position } := by
  intro authId registered
  exact (reached authId registered).transfer (.of_eq rfl) id (fun _ => id)
    (Or.imp_right draining) (fun _ => id)

theorem beginShutdown (reached : Reached l) : Reached l.beginShutdown := by
  unfold Ledger.beginShutdown
  split
  · rename_i running
    refine reached.setShutdown ?_
    rintro (⟨cancelled, stands⟩ | stands)
    · rw [running] at stands
      cases stands
    · rw [running] at stands
      cases stands
  · exact reached

/-- Who drains serves everybody. -/
theorem of_draining (draining : l.Draining) : Reached l :=
  fun _ _ => Or.inr (Or.inr (Or.inr (Or.inl draining)))

end Reached

theorem registered_wake {selected : Nat → Bool} {slot : Slot}
    (spent : slot ≠ .registered)
    (registered : (l.wake selected slot).Registered authId) :
    l.Registered authId ∧ selected authId = false := by
  obtain ⟨c, request, attempt, stands, rfl, waiting⟩ := registered
  obtain ⟨former, before, rfl⟩ := attempting_wake.mp stands
  obtain ⟨waited, spared⟩ := Attempt.registered_of_wake spent waiting
  rw [Attempt.wake_authId]
  exact ⟨⟨c, request, former, before, rfl, waited⟩, spared⟩

theorem abandons_wake {selected : Nat → Bool} {slot : Slot}
    (abandons : l.Abandons c authId) :
    (l.wake selected slot).Abandons c authId := by
  obtain ⟨request, attempt, reason, stands, same, stage⟩ := abandons
  refine ⟨request, attempt.wake selected slot, reason,
    attempting_wake.mpr ⟨attempt, stands, rfl⟩, ?_, ?_⟩
  · simpa using same
  · simpa using stage

theorem abandons_setPhase_of_ne (different : d ≠ c)
    (abandons : l.Abandons d authId) :
    (l.setPhase c phase).Abandons d authId := by
  obtain ⟨request, attempt, reason, stands, facts⟩ := abandons
  exact ⟨request, attempt, reason,
    (inPhase_setPhase_of_ne different).mpr stands, facts⟩

/-- A caller that is not inside `abandon_flow` moves. -/
theorem abandons_setPhase (present : l.InPhase c request old)
    (outside :
      ∀ attempt reason, old = .attempting attempt →
        attempt.stage ≠ .abandonRemove reason)
    (abandons : l.Abandons d authId) :
    (l.setPhase c phase).Abandons d authId := by
  refine abandons_setPhase_of_ne ?_ abandons
  rintro rfl
  obtain ⟨request', attempt, reason, stands, -, stage⟩ := abandons
  exact outside attempt reason (inPhase_unique present stands).2 stage

theorem registered_setStage {attempt : Attempt}
    (present : l.Attempting c request attempt) {stage : Stage}
    (registered :
      (l.setPhase c (.attempting { attempt with stage := stage })).Registered
        authId) : l.Registered authId := by
  obtain ⟨d, request', own, stands, same, waiting⟩ := registered
  obtain ⟨former, before, chosen⟩ := inPhase_setPhase.mp stands
  split at chosen
  · cases chosen
    exact ⟨c, request, attempt, present, same, waiting⟩
  · subst chosen
    exact ⟨d, request', own, before, same, waiting⟩

theorem registered_setPhase
    (unregistered : ∀ attempt, phase ≠ .attempting attempt)
    (registered : (l.setPhase c phase).Registered authId) :
    l.Registered authId := by
  obtain ⟨d, request', own, stands, facts⟩ := registered
  obtain ⟨former, before, chosen⟩ := inPhase_setPhase.mp stands
  split at chosen
  · exact absurd chosen (unregistered own)
  · subst chosen
    exact ⟨d, request', own, before, facts⟩

namespace Reached

/-- The senders of all ids are gone. -/
theorem of_drained {slot : Slot} (spent : slot ≠ .registered)
    (same : l'.callers = (l.wake (fun _ => true) slot).callers) :
    Reached l' := by
  rintro authId ⟨c, request, attempt, stands, facts⟩
  unfold Ledger.Attempting Ledger.InPhase at stands
  rw [same] at stands
  have spared :=
    (registered_wake spent ⟨c, request, attempt, stands, facts⟩).2
  cases spared

/-- The reader wakes the waiters of the id it delivers. -/
theorem readerNotify (reached : Reached l) {outcome : AuthOutcome}
    (stands : l.reader = .notify authId outcome) :
    Reached { l.wake (· == authId) (.sent outcome) with reader := .idle } := by
  intro other registered
  obtain ⟨before, spared⟩ := registered_wake (by simp) registered
  refine (reached other before).transfer (.of_eq rfl) id ?_ ?_
    (fun _ => abandons_wake)
  · rintro verdict ((settles | notifies) | scheduler)
    · rw [stands] at settles
      cases settles
    · rw [stands] at notifies
      cases notifies
      simp at spared
    · exact Or.inr scheduler
  · rintro ((⟨cancelled, counts⟩ | drains) | shutdown)
    · rw [stands] at counts
      cases counts
    · rw [stands] at drains
      cases drains
    · exact Or.inr shutdown

/-- The scheduler wakes the waiters of the id it delivers. -/
theorem schedulerNotify (reached : Reached l) {outcome : AuthOutcome}
    (stands : l.scheduler = .notify authId outcome) :
    Reached
      { l.wake (· == authId) (.sent outcome) with scheduler := .idle } := by
  intro other registered
  obtain ⟨before, spared⟩ := registered_wake (by simp) registered
  refine (reached other before).transfer (.of_eq rfl) ?_ ?_ id
    (fun _ => abandons_wake)
  · intro looks
    rw [stands] at looks
    cases looks
  · rintro verdict (reader | settles | notifies)
    · exact Or.inl reader
    · rw [stands] at settles
      cases settles
    · rw [stands] at notifies
      cases notifies
      simp at spared

/-- A caller without attempt moves. -/
theorem setUnregistered (reached : Reached l)
    (present : l.InPhase c request old)
    (before : ∀ attempt, old ≠ .attempting attempt)
    (after : ∀ attempt, phase ≠ .attempting attempt) :
    Reached (l.setPhase c phase) := by
  intro authId registered
  refine (reached authId (registered_setPhase after registered)).transfer
    (.of_eq rfl) id (fun _ => id) id ?_
  intro d abandons
  exact abandons_setPhase present
    (fun attempt _ isAttempt => absurd isAttempt (before attempt)) abandons

/-- A registered caller moves, but not out of `abandon_flow`. -/
theorem setStage (reached : Reached l) {attempt : Attempt}
    (present : l.Attempting c request attempt) {stage : Stage}
    (outside : ∀ reason, attempt.stage ≠ .abandonRemove reason) :
    Reached (l.setPhase c (.attempting { attempt with stage := stage })) := by
  intro authId registered
  refine (reached authId (registered_setStage present registered)).transfer
    (.of_eq rfl) id (fun _ => id) id ?_
  intro d abandons
  refine abandons_setPhase present ?_ abandons
  rintro own reason isOwn
  cases isOwn
  exact outside reason

/-- The caller that holds the mutex registers with an open entry. -/
theorem register (reached : Reached l) (present : l.InPhase c request old)
    (before : ∀ attempt, old ≠ .attempting attempt) {table : ConntrackTable}
    {mustSend : Bool} {entry : ConntrackEntry} {stage : Stage}
    (registers : Registers l.table table request authId mustSend entry) :
    Reached ({ l with table := table, tableOwner := none }.setPhase c
      (.attempting ⟨authId, mustSend, .registered, stage⟩)) := by
  rintro other ⟨d, request', attempt, stands, same, waiting⟩
  by_cases own : other = authId
  · subst other
    subst own
    exact Or.inl ⟨entry, registers.stored, registers.unsettled⟩
  · have known : l.Registered other := by
      obtain ⟨former, standing, chosen⟩ := inPhase_setPhase.mp stands
      split at chosen
      · cases chosen
        exact absurd same.symm own
      · subst chosen
        exact ⟨d, request', attempt, standing, same, waiting⟩
    refine (reached other known).transfer
      (.of_eq (registers.others other own)) id (fun _ => id) id ?_
    intro d abandons
    exact abandons_setPhase (l := { l with
        table := table
        tableOwner := none }) present
      (fun attempt _ isAttempt => absurd isAttempt (before attempt)) abandons

end Reached

end

section

variable {cfg : SessionConfig} {s s' : State} {c : Nat}
  {request : AuthRequest} {phase : CallerPhase} {action : Action}

namespace Reached

/-- Maintenance keeps every id with waiters that nobody else serves. -/
private theorem retains_maintained (sound : Sound s.ledger)
    {order : IterationOrder ConntrackEntry}
    (spares : SparesLookup s (.advance c order))
    (present : s.ledger.InPhase c request .claim) (authId : Nat)
    (registered : s.ledger.Registered authId)
    (awaited :
      s.ledger.Open authId ∨ s.ledger.scheduler = .outcome authId) :
    Retains s.table
      (s.table.maintainForFlow order request.key s.now).1 authId := by
  rcases awaited with ⟨entry, live, open_⟩ | looks
  · refine .of_eq ?_
    have pruned :=
      ConntrackTable.pruned_maintainForFlow sound.wellFormed order
        request.key s.now
    rcases pruned.getByAuthId sound.wellFormed authId with same | ⟨-, landed⟩
    · exact same
    · obtain ⟨d, request', attempt, stands, rfl, waiting⟩ := registered
      have started :=
        ((sound.attempts d request' attempt stands).registered waiting entry
          live).1
      have flying : entry.authInFlight = true := by
        simp [ConntrackEntry.authInFlight, started, open_]
      rw [landed entry live] at flying
      cases flying
  · exact .of_eq (spares request present authId looks registered)

/-- Tables that agree on the ids that need them. -/
private theorem served_of_retains {l l' : Ledger} {authId : Nat}
    (served : l.Served authId)
    (retains :
      l.Open authId ∨ l.scheduler = .outcome authId →
        Retains l.table l'.table authId)
    (scheduler : l'.scheduler = l.scheduler) (reader : l'.reader = l.reader)
    (shutdown : l'.shutdown = l.shutdown)
    (abandons : ∀ c, l.Abandons c authId → l'.Abandons c authId) :
    l'.Served authId := by
  rcases served with open_ | looks | delivers | drains | ⟨d, abandoning⟩
  · obtain ⟨entry, live, unsettled⟩ := open_
    obtain ⟨changed, live', kept⟩ :=
      retains (Or.inl ⟨entry, live, unsettled⟩) entry live
    exact Or.inl ⟨changed, live', kept unsettled⟩
  · obtain ⟨stands, entry, live⟩ := looks
    obtain ⟨changed, live', -⟩ := retains (Or.inr stands) entry live
    exact Or.inr (Or.inl ⟨scheduler.trans stands, changed, live'⟩)
  · refine Or.inr (Or.inr (Or.inl ?_))
    unfold Ledger.Delivering at delivers ⊢
    rw [scheduler, reader]
    exact delivers
  · refine Or.inr (Or.inr (Or.inr (Or.inl ?_)))
    unfold Ledger.Draining at drains ⊢
    rw [reader, shutdown]
    exact drains
  · exact Or.inr (Or.inr (Or.inr (Or.inr ⟨d, abandons d abandoning⟩)))

private theorem claimFlow (reached : Reached s.ledger) (sound : Sound s.ledger)
    {order : IterationOrder ConntrackEntry}
    (spares : SparesLookup s (.advance c order))
    (present : s.ledger.InPhase c request .claim) :
    Reached (s.claimFlow order c request).ledger := by
  obtain ⟨table, gone, position, claimed, claims, effect⟩ :=
    claimFlow_effect sound.wellFormed order c request
  have keeps := retains_maintained sound spares present
  rw [effect]
  have woken :
      Reached (({ s.ledger with table := table, tableOwner := some c } :
          Ledger).wake gone
        (.sent (.failed "flow resource changed during authorization"))) := by
    intro authId registered
    obtain ⟨before, spared⟩ := registered_wake (by simp) registered
    refine served_of_retains (reached authId before) ?_ rfl rfl rfl
      (fun _ => abandons_wake)
    intro awaited entry live
    obtain ⟨kept, live', open_⟩ := keeps authId before awaited entry live
    exact ⟨kept, (claimed.spared authId spared).trans live', open_⟩
  refine woken.setUnregistered
    (inPhase_mapPhases.mpr ⟨.claim, present, rfl⟩)
    (by simp [CallerPhase.wake]) ?_
  rintro attempt rfl
  cases claims

private theorem abandonEvict (reached : Reached s.ledger)
    (sound : Sound s.ledger) {attempt : Attempt} {reason : AbandonReason}
    (present : s.ledger.Attempting c request attempt)
    (stands : attempt.stage = .abandonEvict reason) :
    Reached ({ s.ledger with
        table := (s.table.evictByAuthId attempt.authId).1 }.setPhase c
      (.attempting { attempt with stage := .abandonRemove reason })) := by
  intro authId registered
  have before : s.ledger.Registered authId :=
    registered_setStage (l := { s.ledger with
      table := (s.table.evictByAuthId attempt.authId).1 }) present registered
  by_cases same : authId = attempt.authId
  · refine Or.inr (Or.inr (Or.inr (Or.inr ⟨c, request, _, reason,
      inPhase_setPhase.mpr ⟨_, present, if_pos rfl⟩, same.symm, rfl⟩)))
  · refine served_of_retains (reached authId before)
      (fun _ => Retains.evict_of_ne sound.wellFormed same) rfl rfl rfl ?_
    intro d abandons
    refine abandons_setPhase (l := { s.ledger with
      table := (s.table.evictByAuthId attempt.authId).1 }) present ?_ abandons
    intro own cause isOwn
    cases isOwn
    rw [stands]
    simp

private theorem abandonRemove (reached : Reached s.ledger) {attempt : Attempt}
    (present : s.ledger.Attempting c request attempt) (stage : Stage) :
    Reached ((s.ledger.wake (· == attempt.authId) .dropped).setPhase c
      (.attempting
        { attempt.wake (· == attempt.authId) .dropped with
          stage := stage })) := by
  intro authId registered
  have still :
      (s.ledger.wake (· == attempt.authId) .dropped).Attempting c request
        (attempt.wake (· == attempt.authId) .dropped) :=
    attempting_wake.mpr ⟨attempt, present, rfl⟩
  obtain ⟨before, spared⟩ :=
    registered_wake (by simp) (registered_setStage still registered)
  refine served_of_retains (reached authId before) (fun _ => .of_eq rfl) rfl
    rfl rfl ?_
  intro d abandons
  refine abandons_setPhase_of_ne ?_ (abandons_wake abandons)
  rintro rfl
  obtain ⟨request', own, reason, standing, same, -⟩ := abandons
  have isOwn := (inPhase_unique present standing).2
  cases isOwn
  rw [same] at spared
  simp at spared

private theorem readStage_outside {attempt : Attempt} {stage : Stage}
    (moved : s.readStage cfg c request attempt = some stage)
    (reason : AbandonReason) : attempt.stage ≠ .abandonRemove reason := by
  intro stands
  unfold State.readStage at moved
  rw [stands] at moved
  cases moved

/-- A step of a caller that spares the lookup. -/
theorem callerStep (reached : Reached s.ledger) (sound : Sound s.ledger)
    (spares : SparesLookup s action)
    (present : s.ledger.InPhase c request phase)
    (step : CallerStep cfg s c request action phase s') :
    Reached s'.ledger := by
  cases step with
  | check checked =>
      refine reached.setUnregistered present ?_ ?_
      · rintro attempt rfl
        cases checkStep_of_checkPhase checked
      · rintro attempt rfl
        cases checkStep_of_checkPhase checked
  | claim free => exact claimFlow reached sound spares present
  | claimSettle => exact reached.setUnregistered present (by simp) (by simp)
  | insert room =>
      have own := (sound.claiming c request _ present rfl).2
      rcases insertFlow_cases (c := c) sound.wellFormed room own with
        ⟨entry, outcome, table, -, -, -, -, retains, effect⟩ |
        ⟨entry, authId, mustSend, table, registers, effect⟩
      · rw [effect]
        have kept : Reached { s.ledger with table := table } :=
          reached.retain fun authId _ _ => retains authId
        exact kept.setUnregistered present (by simp) (by simp)
      · rw [effect]
        exact reached.register present (by simp) registers
  | read moved => exact reached.setStage present (readStage_outside moved)
  | storeFrame stands free =>
      refine (reached.retain fun authId _ _ =>
        Retains.modify sound.wellFormed
          (keepsIdentity_storeFrame _ _) ?_ _).setStage present
            (by simp [stands])
      intro entry unsettled
      split
      · exact unsettled
      · exact unsettled
  | enqueueFailed stands ended =>
      exact reached.setStage present (by simp [stands])
  | enqueue stands => exact reached.setStage present (by simp [stands])
  | recordSent stands => exact reached.setStage present (by simp [stands])
  | abandonEvict stands free => exact abandonEvict reached sound present stands
  | abandonRemove stands => exact abandonRemove reached present _
  | settleTimeout stands => exact reached.setStage present (by simp [stands])
  | expire stands empty due => exact reached.setStage present (by simp [stands])
  | cancel suspended =>
      refine reached.setStage present ?_
      intro reason stands
      rcases suspended with ⟨frame, other⟩ | other | ⟨deadline, other⟩ <;>
        simp [stands] at other

end Reached

end

section

variable {cfg : SessionConfig} {l l' : Ledger} {authId : Nat}
  {action : Action}

namespace Reached

/-- The reader records an outcome and starts to deliver it. -/
private theorem startDelivery (reached : Reached l)
    (idle : l.reader.busy = false) {table : ConntrackTable}
    (others : ∀ other, other ≠ authId → Retains l.table table other)
    (outcome : AuthOutcome) :
    Reached { l with table := table, reader := .settle authId outcome } := by
  intro other registered
  by_cases same : other = authId
  · subst other
    exact Or.inr (Or.inr (Or.inl ⟨outcome, Or.inl (Or.inl rfl)⟩))
  · have moved :=
      reached.setReader idle (.settle authId outcome) other registered
    exact moved.transfer (others other same) id (fun _ => id) id (fun _ => id)

private theorem retains_complete (wf : l.table.WellFormed)
    (outcome : AuthOutcome) (other : Nat) (different : other ≠ authId) :
    Retains l.table
      (l.table.modifyByAuthId authId (·.complete outcome)) other :=
  Retains.modify_of_ne wf (ConntrackTable.keepsIdentity_complete outcome)
    different

private theorem retains_response (wf : l.table.WellFormed) {status : UInt8}
    {json : Bytes} {table : ConntrackTable}
    (applied :
      applyAuthWireStatus cfg.codec l.table status json =
        .ok (table, authId)) (other : Nat) (different : other ≠ authId) :
    Retains l.table table other := by
  obtain ⟨entry, outcome, -, rfl, -⟩ := applyAuthWireStatus_ok applied
  exact retains_complete wf outcome other different

/-- A response that is applied leaves an outcome. -/
private theorem verdict_of_response (wf : l.table.WellFormed) {status : UInt8}
    {json : Bytes} {table : ConntrackTable}
    (applied :
      applyAuthWireStatus cfg.codec l.table status json =
        .ok (table, authId)) :
    (table.getByAuthId authId).bind (·.outcome) ≠ none := by
  obtain ⟨entry, outcome, live, rfl, -⟩ := applyAuthWireStatus_ok applied
  rw [ConntrackTable.getByAuthId_modifyByAuthId wf
    (ConntrackTable.keepsIdentity_complete outcome), if_pos rfl, live]
  cases recorded : entry.outcome with
  | none => simp [ConntrackEntry.complete, recorded]
  | some verdict => simp [ConntrackEntry.complete, recorded]

/-- Scheduling and taking a retry keep an open entry open. -/
private theorem retains_scheduleRetry (wf : l.table.WellFormed)
    (budget other : Nat) :
    Retains l.table
      (l.table.modifyByAuthId authId fun entry =>
        (entry.scheduleRetry budget).1) other := by
  refine Retains.modify wf (ConntrackTable.keepsIdentity_scheduleRetry budget)
    ?_ authId
  intro entry unsettled
  unfold ConntrackEntry.scheduleRetry
  split <;> exact unsettled

private theorem retains_takeRetry (wf : l.table.WellFormed) (other : Nat) :
    Retains l.table
      (l.table.modifyByAuthId authId fun entry => entry.takeRetry.1)
      other := by
  refine Retains.modify wf ConntrackTable.keepsIdentity_takeRetry ?_ authId
  intro entry unsettled
  unfold ConntrackEntry.takeRetry
  split <;> exact unsettled

/-- The scheduler completes an entry and goes to look for its outcome. -/
private theorem deadlineExceeded (reached : Reached l) (sound : Sound l)
    {entry : ConntrackEntry} (message : String)
    (stands : l.scheduler = .lookup authId)
    (live : l.live authId = some entry) :
    Reached { l with
      table := l.table.modifyByAuthId authId (·.complete (.failed message))
      scheduler := .outcome authId } := by
  intro other registered
  by_cases same : other = authId
  · subst other
    refine Or.inr (Or.inl ⟨rfl, entry.complete (.failed message), ?_⟩)
    change (l.table.modifyByAuthId authId
      (·.complete (.failed message))).getByAuthId authId = _
    rw [ConntrackTable.getByAuthId_modifyByAuthId sound.wellFormed
      (ConntrackTable.keepsIdentity_complete _), if_pos rfl]
    rw [Ledger.live] at live
    rw [live]
    rfl
  · have moved :=
      reached.setScheduler (by rw [stands]; rfl) (.outcome authId) other
        registered
    exact moved.transfer (retains_complete sound.wellFormed _ other same) id
      (fun _ => id) id (fun _ => id)

/-- The scheduler has looked for the outcome. -/
private theorem leaveLookup (reached : Reached l)
    (stands : l.scheduler = .outcome authId) {position : SchedulerPc}
    (found :
      ∀ entry, l.live authId = some entry →
        entry.outcome = none ∨
          ∃ outcome, position = .settle authId outcome) :
    Reached { l with scheduler := position } := by
  intro other registered
  rcases reached other registered with
    open_ | ⟨looks, entry, live⟩ | ⟨outcome, delivers⟩ | drains | abandons
  · exact Or.inl open_
  · rw [stands] at looks
    cases looks
    rcases found entry live with unsettled | ⟨outcome, isSettle⟩
    · exact Or.inl ⟨entry, live, unsettled⟩
    · exact Or.inr (Or.inr (Or.inl ⟨outcome, Or.inr (Or.inl isSettle)⟩))
  · rcases delivers with reader | settles | notifies
    · exact Or.inr (Or.inr (Or.inl ⟨outcome, Or.inl reader⟩))
    · rw [stands] at settles
      cases settles
    · rw [stands] at notifies
      cases notifies
  · exact Or.inr (Or.inr (Or.inr (Or.inl drains)))
  · exact Or.inr (Or.inr (Or.inr (Or.inr abandons)))

/-- Every step of another task keeps the waiters served. -/
theorem taskStep (reached : Reached l) (sound : Sound l)
    (step : TaskStep cfg l action l') : Reached l' := by
  have wf := sound.wellFormed
  cases step with
  | side moves => exact reached
  | authorizeFlow fresh =>
      rintro authId ⟨c, request, attempt, stands, facts⟩
      rcases Ledger.inPhase_start stands with impossible | before
      · cases impossible
      · refine (reached authId ⟨c, request, attempt, before, facts⟩).transfer
          (.of_eq rfl) id (fun _ => id) id ?_
        rintro d ⟨request', own, reason, standing, shape⟩
        exact ⟨request', own, reason, inPhase_start_of_fresh fresh standing,
          shape⟩
  | settled free idle applied verdict =>
      exact reached.startDelivery (by rw [idle]; rfl)
        (retains_response wf applied) _
  | applied free idle applied verdict =>
      exact absurd verdict (verdict_of_response wf applied)
  | exhausted message free idle live unsettled =>
      exact reached.startDelivery (by rw [idle]; rfl)
        (retains_complete wf _) _
  | scheduled enabled free idle plain =>
      exact (reached.retain fun other _ _ =>
        retains_scheduleRetry wf _ other).setReader (by rw [idle]; rfl) _
  | vipChanged idle accepted found changed =>
      exact reached.setReader (by rw [idle]; rfl) .vipClear
  | readerMove plain plain' =>
      exact reached.setReader (ReaderPc.not_busy_of_plain plain) _
  | readerSettle stands =>
      intro other registered
      refine (reached other registered).transfer (.of_eq rfl) id ?_ ?_
        (fun _ => id)
      · rintro outcome ((settles | notifies) | scheduler)
        · rw [stands] at settles
          cases settles
          exact Or.inl (Or.inr rfl)
        · rw [stands] at notifies
          cases notifies
        · exact Or.inr scheduler
      · rintro ((⟨cancelled, counts⟩ | drains) | shutdown)
        · rw [stands] at counts
          cases counts
        · rw [stands] at drains
          cases drains
        · exact Or.inr shutdown
  | readerNotify stands => exact reached.readerNotify stands
  | retryFailed free stands verdict =>
      exact reached.startDelivery (by rw [stands]; rfl)
        (retains_complete wf _) _
  | vipClear cancelled free stands =>
      exact of_draining (Or.inl (Or.inl ⟨cancelled, rfl⟩))
  | vipCount stands => exact of_draining (Or.inl (Or.inr rfl))
  | vipDrain stands => exact of_drained (by simp) rfl
  | vipReset stands => exact reached.setReader (by rw [stands]; rfl) _
  | vipUnsubscribe stands free =>
      exact reached.setReader (by rw [stands]; rfl) .idle
  | touch free stands touched =>
      rename_i packet later table
      have kept : Reached { l with table := table } := by
        refine reached.retain ?_
        intro other _ _
        rcases touched with rfl | ⟨key, now, rfl⟩
        · exact .of_eq rfl
        · exact Retains.touchAt wf key now other
      exact kept.setReader (by rw [stands]; rfl) _
  | readerStop stands =>
      have begun := reached.beginShutdown
      obtain ⟨shutdown, same⟩ := l.beginShutdown_eq
      rw [same] at begun ⊢
      exact begun.setReader (by rw [stands]; rfl) .stopped
  | schedulerMove plain plain' quiet => exact reached.setScheduler plain _
  | retryQueued stands =>
      exact reached.setScheduler (by rw [stands]; rfl) .awaitWrite
  | schedulerClosing stands =>
      have begun := reached.beginShutdown
      obtain ⟨shutdown, same⟩ := l.beginShutdown_eq
      rw [same] at begun ⊢
      exact begun.setScheduler (by rw [stands]; rfl) .closing
  | deadlineExceeded message free stands live =>
      exact reached.deadlineExceeded sound message stands live
  | retryTaken free stands live taken =>
      exact (reached.retain fun other _ _ =>
        retains_takeRetry wf other).setScheduler (by rw [stands]; rfl) _
  | retryVoid free stands live taken =>
      exact (reached.retain fun other _ _ =>
        retains_takeRetry wf other).setScheduler (by rw [stands]; rfl) _
  | outcomeFound free stands verdict =>
      exact reached.leaveLookup stands fun _ _ => Or.inr ⟨_, rfl⟩
  | outcomeMissing free stands verdict =>
      refine reached.leaveLookup stands ?_
      intro entry live
      rw [live] at verdict
      exact Or.inl verdict
  | schedulerSettle stands =>
      intro other registered
      refine (reached other registered).transfer (.of_eq rfl) ?_ ?_ id
        (fun _ => id)
      · intro looks
        rw [stands] at looks
        cases looks
      · rintro outcome (reader | settles | notifies)
        · exact Or.inl reader
        · rw [stands] at settles
          cases settles
          exact Or.inr (Or.inr rfl)
        · rw [stands] at notifies
          cases notifies
  | schedulerNotify stands => exact reached.schedulerNotify stands
  | writerClosing =>
      have begun := reached.beginShutdown
      obtain ⟨shutdown, same⟩ := l.beginShutdown_eq
      rw [same] at begun ⊢
      exact begun
  | close => exact reached.beginShutdown
  | stopSignal stands => exact reached.setShutdown (by simp [stands])
  | unsubscribe stands free =>
      have moved : Reached { l with shutdown := .clearTable } :=
        reached.setShutdown (by simp [stands])
      exact moved
  | clearTable cancelled free stands =>
      exact of_draining (Or.inr (Or.inl ⟨cancelled, rfl⟩))
  | countCancelled stands => exact of_draining (Or.inr (Or.inr rfl))
  | drain stands => exact of_drained (by simp) rfl

/-- The invariant holds along runs that spare the lookup. -/
theorem run {vip : Ipv4Addr} {now : Nat} {actions : List Action} {s : State}
    (spares :
      Concurrency.Meets (next cfg) SparesLookup (State.initial vip now)
        actions)
    (ran :
      Concurrency.run (next cfg) (State.initial vip now) actions = some s) :
    Reached s.ledger := by
  refine invariant_of_steps (fun t => Reached t.ledger) ?_ ?_ ?_ spares ran
  · rintro authId ⟨c, request, attempt, stands, -⟩
    cases stands
  · intro t after action c request phase sound reached sparing present step
    exact reached.callerStep sound sparing present step
  · intro t after action sound reached _ step
    exact reached.taskStep sound step

end Reached

end

end Ledger

/-- In a run that spares the lookup of the scheduler, whenever no operation
stands between its update and the matching wake-up, every id with a registered
waiter is a live entry without outcome. -/
theorem waiters_await_open_entries {cfg : SessionConfig} {vip : Ipv4Addr}
    {now : Nat} {actions : List Action} {s : State}
    (spares :
      Concurrency.Meets (next cfg) SparesLookup (State.initial vip now)
        actions)
    (ran :
      Concurrency.run (next cfg) (State.initial vip now) actions = some s)
    (quiescent : s.ledger.Quiescent) (c : Nat) (request : AuthRequest)
    (attempt : Attempt)
    (present : s.callers c = some ⟨request, .attempting attempt⟩)
    (waiting : attempt.slot = .registered) :
    ∃ entry, s.table.getByAuthId attempt.authId = some entry ∧
      entry.outcome = none := by
  have reached := Ledger.Reached.run spares ran
  rcases reached attempt.authId ⟨c, request, attempt, present, rfl, waiting⟩
    with open_ | ⟨looks, -⟩ | ⟨outcome, delivers⟩ | drains | ⟨d, abandons⟩
  · exact open_
  · exact absurd looks (quiescent.lookup _)
  · exact absurd delivers (quiescent.delivering _ _)
  · exact absurd drains quiescent.draining
  · exact absurd abandons (quiescent.abandoning _ _)

/-- A session at rest, seen from the places that could wake waiters. -/
private theorem quiescent_of_idle {l : Ledger} (reader : l.reader = .idle)
    (scheduler : l.scheduler = .idle) (shutdown : l.shutdown = .running)
    (callers :
      ∀ c request attempt reason, l.Attempting c request attempt →
        attempt.stage ≠ .abandonRemove reason) : l.Quiescent where
  delivering authId outcome := by
    simp [Ledger.Delivering, reader, scheduler]
  lookup authId := by simp [scheduler]
  draining := by simp [Ledger.Draining, reader, shutdown]
  abandoning c authId := by
    rintro ⟨request, attempt, reason, stands, -, stage⟩
    exact callers c request attempt reason stands stage

/-- Two callers outside `abandon_flow`, and every task at rest. -/
private theorem quiescent_of_two {cfg : SessionConfig} {vip : Ipv4Addr}
    {now : Nat} {actions : List Action} {s : State}
    {request other : AuthRequest} {attempt joined : Attempt}
    (ran :
      Concurrency.run (next cfg) (State.initial vip now) actions = some s)
    (called :
      ∀ c request, Action.authorizeFlow c request ∈ actions → c = 0 ∨ c = 1)
    (idle : (s.reader, s.scheduler, s.shutdown) = (.idle, .idle, .running))
    (first : s.callers 0 = some ⟨request, .attempting attempt⟩)
    (second : s.callers 1 = some ⟨other, .attempting joined⟩)
    (firstStays : ∀ reason, attempt.stage ≠ .abandonRemove reason)
    (secondStays : ∀ reason, joined.stage ≠ .abandonRemove reason) :
    s.ledger.Quiescent := by
  obtain ⟨reader, scheduler, shutdown⟩ :=
    And.imp_right Prod.mk.inj (Prod.mk.inj idle)
  refine quiescent_of_idle reader scheduler shutdown ?_
  intro c own attempting reason stands
  by_cases isFirst : c = 0
  · subst c
    rw [Ledger.Attempting, Ledger.InPhase,
      show s.ledger.callers 0 = _ from first] at stands
    cases stands
    exact firstStays reason
  by_cases isSecond : c = 1
  · subst c
    rw [Ledger.Attempting, Ledger.InPhase,
      show s.ledger.callers 1 = _ from second] at stands
    cases stands
    exact secondStays reason
  have unknown := callers_eq_none_of_run ran (c := c) (by
    intro request listed
    rcases called c request listed with rfl | rfl
    · exact isFirst rfl
    · exact isSecond rfl)
  rw [show s.callers c = _ from stands] at unknown
  cases unknown

namespace Sample

/-- The maintenance of a claim keeps the entry the scheduler looks up. -/
def spares (s : State) : Action → Bool
  | .advance c order =>
      match s.callers c, s.scheduler with
      | some ⟨request, .claim⟩, .outcome authId =>
          decide
            ((s.table.maintainForFlow order request.key s.now).1.getByAuthId
                authId =
              s.table.getByAuthId authId)
      | _, _ => true
  | _ => true

theorem sparesLookup_of_spares {s : State} {action : Action}
    (spares : Sample.spares s action = true) : SparesLookup s action := by
  cases action with
  | advance c order =>
      intro request claims authId looks registered
      simp only [Sample.spares, claims, looks] at spares
      exact of_decide_eq_true spares
  | _ => trivial

/-- The scheduler completes the attempt of the first caller at its deadline.
Before it looks for the outcome, a second flow is claimed; the maintenance of
that claim keeps the entry of the first, and the scheduler wakes its waiter. -/
def claimedBeforeLookup : List Action :=
  firstCall ++
    [.receive (.auth 0x84 busyJson), .reader, .reader, .scheduler,
      .tick (20 * second), .scheduler, .scheduler,
      .authorizeFlow 1 otherRequest] ++
    advances 1 4 ++ [.scheduler, .scheduler, .scheduler]

end Sample

/-- The first waiter has been woken; the second waits on an open entry. -/
theorem waiters_await_open_entries_sample :
    ∃ s,
      Concurrency.run (next (Sample.config ⟨true, 1, 0, 20 * second⟩))
          (State.initial Sample.vip 0) Sample.claimedBeforeLookup = some s ∧
        ∃ entry, s.table.getByAuthId 2 = some entry ∧
          entry.outcome = none := by
  have spares :
      Concurrency.Meets (next (Sample.config ⟨true, 1, 0, 20 * second⟩))
        (fun s action => Sample.spares s action = true)
        (State.initial Sample.vip 0) Sample.claimedBeforeLookup := by
    decide +kernel
  apply Concurrency.exists_of_view
    (fun s =>
      ((s.reader, s.scheduler, s.shutdown), (s.callers 0, s.callers 1)))
    ((.idle, .idle, .running),
      (some ⟨Sample.request,
          .attempting
            ⟨1, true, .sent (.failed "auth deadline exceeded"),
              .await (20 * second)⟩⟩,
        some ⟨Sample.otherRequest,
          .attempting ⟨2, true, .registered, .build⟩⟩))
    (by decide +kernel)
  intro s ran seen
  obtain ⟨idle, callers⟩ := Prod.mk.inj seen
  obtain ⟨first, second⟩ := Prod.mk.inj callers
  have quiescent : s.ledger.Quiescent := by
    refine quiescent_of_two ran ?_ idle first second nofun nofun
    intro c request called
    simp [Sample.claimedBeforeLookup, Sample.firstCall, Sample.advances]
      at called
    exact called.imp And.left And.left
  exact waiters_await_open_entries
    (Concurrency.meets_mono (fun _ _ => Sample.sparesLookup_of_spares) spares)
    ran quiescent 1 Sample.otherRequest _ second rfl

/-- The scheduler finds the deadline of the first caller exceeded and completes
its entry.  Before it looks for the outcome, the claim of another flow retires
the idle entry; the scheduler finds nothing and the first caller stays
registered on an id that is gone. -/
theorem waiter_on_retired_entry :
    ¬ ∀ (cfg : SessionConfig) (vip : Ipv4Addr) (now : Nat)
      (actions : List Action) (s : State),
      Concurrency.run (next cfg) (State.initial vip now) actions = some s →
      s.ledger.Quiescent →
      ∀ c request attempt,
        s.callers c = some ⟨request, .attempting attempt⟩ →
        attempt.slot = .registered →
        ∃ entry, s.table.getByAuthId attempt.authId = some entry ∧
          entry.outcome = none := by
  intro claim
  have shows :
      (Concurrency.run
          (next (Sample.config ⟨true, 1, 0, 400 * second⟩))
          (State.initial Sample.vip 0)
          (Sample.firstCall ++
            ([.receive (.auth 0x84 Sample.busyJson), .reader, .reader,
              .scheduler, .tick (400 * second), .scheduler, .scheduler,
              .authorizeFlow 1 Sample.otherRequest] : List Action) ++
            Sample.advances 1 4 ++ [Action.scheduler])).map
          (fun s =>
            (((s.reader, s.scheduler, s.shutdown),
              (s.table.getByAuthId 1).isNone),
              (s.callers 0, s.callers 1))) =
        some (((.idle, .idle, .running), true),
          (some ⟨Sample.request,
              .attempting
                ⟨1, true, .registered, .await (400 * second)⟩⟩,
            some ⟨Sample.otherRequest,
              .attempting ⟨2, true, .registered, .build⟩⟩)) := by
    decide +kernel
  obtain ⟨s, ran, seen⟩ := Option.map_eq_some_iff.mp shows
  obtain ⟨rest, callers⟩ := Prod.mk.inj seen
  obtain ⟨idle, gone⟩ := Prod.mk.inj rest
  obtain ⟨first, second⟩ := Prod.mk.inj callers
  have quiescent : s.ledger.Quiescent := by
    refine quiescent_of_two ran ?_ idle first second nofun nofun
    intro c request called
    simp [Sample.firstCall, Sample.advances] at called
    exact called.imp And.left And.left
  obtain ⟨entry, live, -⟩ :=
    claim _ _ _ _ s ran quiescent 0 Sample.request _ first rfl
  rw [live] at gone
  cases gone

end HermesAtrust.L3
