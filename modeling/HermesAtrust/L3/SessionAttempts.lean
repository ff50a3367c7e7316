import HermesAtrust.L3.SessionInvariant

/-!
# Attempts in flight

What the steps of a session do to the entries in flight and to the registered
callers, and why a caller that records its request has it on the wire.
-/

namespace HermesAtrust.L3

open HermesAtrust.Framing HermesAtrust.Protocol HermesAtrust.Collections

/-- The attempt under the id has been started and has no outcome. -/
def ConntrackTable.Flying (table : ConntrackTable) (authId : Nat) : Prop :=
  ∃ entry, table.getByAuthId authId = some entry ∧ entry.authInFlight = true

/-- The first `0x13` of the id has gone to the wire. -/
def State.Sent (s : State) (authId : Nat) : Prop :=
  .request authId ∈ s.wire.map (·.origin)

/-! ## Attempts in flight and the table -/

namespace ConntrackTable

variable {table after : ConntrackTable} {authId other : Nat}

theorem flying_modify (wf : table.WellFormed)
    {change : ConntrackEntry → ConntrackEntry}
    (identity : KeepsIdentity change)
    (same :
      ∀ entry, (change entry).authInFlight = entry.authInFlight) :
    (table.modifyByAuthId authId change).Flying other ↔
      table.Flying other := by
  unfold Flying
  rw [getByAuthId_modifyByAuthId wf identity]
  split
  · rename_i isSame
    subst other
    constructor
    · intro flying
      obtain ⟨changed, live, inFlight⟩ := flying
      obtain ⟨entry, former, rfl⟩ := Option.map_eq_some_iff.mp live
      exact ⟨entry, former, (same entry).symm.trans inFlight⟩
    · intro flying
      obtain ⟨entry, live, inFlight⟩ := flying
      exact ⟨change entry, by rw [live]; rfl, (same entry).trans inFlight⟩
  · exact Iff.rfl

theorem flying_complete (wf : table.WellFormed) (outcome : AuthOutcome) :
    (table.modifyByAuthId authId (·.complete outcome)).Flying other ↔
      table.Flying other ∧ other ≠ authId := by
  unfold Flying
  rw [getByAuthId_modifyByAuthId wf (keepsIdentity_complete outcome)]
  split
  · rename_i isSame
    subst other
    constructor
    · intro flying
      obtain ⟨changed, live, inFlight⟩ := flying
      obtain ⟨entry, former, rfl⟩ := Option.map_eq_some_iff.mp live
      cases verdict : entry.outcome with
      | none =>
          simp [ConntrackEntry.complete, ConntrackEntry.authInFlight, verdict]
            at inFlight
      | some settled =>
          simp [ConntrackEntry.complete, ConntrackEntry.authInFlight, verdict]
            at inFlight
    · intro impossible
      exact absurd rfl impossible.2
  · rename_i different
    constructor
    · intro flying
      exact ⟨flying, different⟩
    · intro flying
      exact flying.1

theorem flying_evictByAuthId (wf : table.WellFormed) :
    (table.evictByAuthId authId).1.Flying other ↔
      table.Flying other ∧ other ≠ authId := by
  unfold Flying
  rw [getByAuthId_evictByAuthId wf]
  split
  · rename_i isSame
    constructor
    · intro flying
      obtain ⟨entry, live, -⟩ := flying
      cases live
    · intro impossible
      exact absurd isSame impossible.2
  · rename_i different
    constructor
    · intro flying
      exact ⟨flying, different⟩
    · intro flying
      exact flying.1

theorem flying_of_pruned (wf : table.WellFormed)
    (pruned : Pruned table after) : after.Flying other ↔ table.Flying other := by
  unfold Flying
  rcases pruned.getByAuthId wf other with same | ⟨gone, settled⟩
  · rw [same]
  · rw [gone]
    constructor
    · intro flying
      obtain ⟨entry, live, -⟩ := flying
      cases live
    · intro flying
      obtain ⟨entry, live, inFlight⟩ := flying
      rw [settled entry live] at inFlight
      cases inFlight

theorem flying_of_aged (evolves : Evolves Aged table after)
    (retains : ∀ authId, Retains table after authId) :
    after.Flying other ↔ table.Flying other := by
  constructor
  · intro flying
    obtain ⟨changed, live, inFlight⟩ := flying
    obtain ⟨entry, former, lastUsed, rfl⟩ :=
      evolves.continues other changed live
    exact ⟨entry, former, inFlight⟩
  · intro flying
    obtain ⟨entry, live, inFlight⟩ := flying
    obtain ⟨changed, kept, -⟩ := retains other entry live
    obtain ⟨former, same, lastUsed, rfl⟩ :=
      evolves.continues other changed kept
    rw [live] at same
    cases same
    exact ⟨_, kept, inFlight⟩

theorem flying_touched (wf : table.WellFormed)
    (touched :
      after = table ∨ ∃ key now, after = (table.touchAt key now).1) :
    after.Flying other ↔ table.Flying other := by
  rcases touched with rfl | ⟨key, now, rfl⟩
  · exact Iff.rfl
  · exact flying_of_aged (Evolves.touchAt wf key now)
      fun authId => Retains.touchAt wf key now authId

/-- A registration starts a fresh attempt or joins one in flight. -/
theorem flying_of_registers {request : AuthRequest} {mustSend : Bool}
    {entry : ConntrackEntry}
    (registers : Registers table after request authId mustSend entry)
    (started :
      ∀ id former, table.getByAuthId id = some former →
        former.authStarted = true) :
    (after.Flying other ↔ table.Flying other ∨ other = authId) ∧
      (if mustSend then table.nextAuthId < authId else table.Flying authId) := by
  have entryFlies : after.Flying authId := by
    refine ⟨entry, registers.stored, ?_⟩
    simp [ConntrackEntry.authInFlight, registers.started,
      registers.unsettled]
  constructor
  · by_cases same : other = authId
    · rw [same]
      exact ⟨fun _ => Or.inr rfl, fun _ => entryFlies⟩
    · unfold Flying
      rw [registers.others other same]
      simp [same]
  · rcases registers.origin with
      ⟨former, live, -, unsettled, license, -⟩ | ⟨fresh, sends, -⟩
    · have isStarted := started authId former live
      rw [isStarted] at license
      cases mustSend with
      | true => cases license
      | false =>
          refine ⟨former, live, ?_⟩
          simp [ConntrackEntry.authInFlight, isStarted, unsettled]
    · rw [sends]
      exact fresh

end ConntrackTable

/-! ## Entries -/

/-- The entry has been started, and a flagged entry is open and has its
frame. -/
structure ConntrackEntry.Fit (entry : ConntrackEntry) : Prop where
  started : entry.authStarted = true
  flagged :
    entry.retryScheduled = true →
      entry.outcome = none ∧ entry.reusableFrame ≠ none

/-- Every live entry is fit. -/
def ConntrackTable.Fit (table : ConntrackTable) : Prop :=
  ∀ authId entry, table.getByAuthId authId = some entry → entry.Fit

namespace ConntrackTable.Fit

variable {table after : ConntrackTable}

theorem evolve {relation : ConntrackEntry → ConntrackEntry → Prop}
    (fit : table.Fit) (evolves : Evolves relation table after)
    (keeps : ∀ entry changed, relation entry changed → entry.Fit →
      changed.Fit) : after.Fit := by
  intro authId changed live
  obtain ⟨entry, former, related⟩ := evolves.continues authId changed live
  exact keeps entry changed related (fit authId entry former)

theorem aged (fit : table.Fit) (evolves : Evolves Aged table after) :
    after.Fit := by
  apply fit.evolve evolves
  intro entry changed related entryFit
  obtain ⟨lastUsed, rfl⟩ := related
  exact ⟨entryFit.started, entryFit.flagged⟩

theorem modify (fit : table.Fit) (wf : table.WellFormed)
    {change : ConntrackEntry → ConntrackEntry}
    (identity : KeepsIdentity change)
    (keeps : ∀ entry, entry.Fit → (change entry).Fit) (authId : Nat) :
    (table.modifyByAuthId authId change).Fit := by
  intro other changed live
  rw [getByAuthId_modifyByAuthId wf identity] at live
  split at live
  · obtain ⟨entry, former, rfl⟩ := Option.map_eq_some_iff.mp live
    exact keeps entry (fit authId entry former)
  · exact fit other changed live

theorem complete (fit : table.Fit) (wf : table.WellFormed) (authId : Nat)
    (outcome : AuthOutcome) :
    (table.modifyByAuthId authId (·.complete outcome)).Fit := by
  apply fit.modify wf (keepsIdentity_complete outcome)
  intro entry entryFit
  unfold ConntrackEntry.complete
  split
  · exact ⟨entryFit.started, fun impossible => by cases impossible⟩
  · exact entryFit

theorem takeRetry (fit : table.Fit) (wf : table.WellFormed) (authId : Nat) :
    (table.modifyByAuthId authId fun entry => entry.takeRetry.1).Fit := by
  apply fit.modify wf keepsIdentity_takeRetry
  intro entry entryFit
  unfold ConntrackEntry.takeRetry
  split
  · exact entryFit
  · exact ⟨entryFit.started, fun impossible => by cases impossible⟩

theorem scheduleRetry (fit : table.Fit) (wf : table.WellFormed)
    (authId budget : Nat) :
    (table.modifyByAuthId authId fun entry =>
      (entry.scheduleRetry budget).1).Fit := by
  apply fit.modify wf (keepsIdentity_scheduleRetry budget)
  intro entry entryFit
  unfold ConntrackEntry.scheduleRetry
  split
  · exact entryFit
  · rename_i accepted
    refine ⟨entryFit.started, ?_⟩
    intro _
    simp only [Bool.or_eq_true, not_or, decide_eq_true_eq] at accepted
    obtain ⟨⟨⟨unsettled, -⟩, -⟩, framed⟩ := accepted
    exact ⟨by simpa using unsettled, by simpa using framed⟩

theorem storeFrame (fit : table.Fit) (wf : table.WellFormed) (authId : Nat)
    (frame : Bytes) (deadline : Nat) :
    (table.modifyByAuthId authId fun entry =>
      if entry.authInFlight then entry.setReusableFrame frame deadline
      else entry).Fit := by
  apply fit.modify wf (keepsIdentity_storeFrame frame deadline)
  intro entry entryFit
  split
  · refine ⟨entryFit.started, ?_⟩
    intro flagged
    exact ⟨(entryFit.flagged flagged).1, by
      simp [ConntrackEntry.setReusableFrame]⟩
  · exact entryFit

theorem registers (fit : table.Fit) {request : AuthRequest} {authId : Nat}
    {mustSend : Bool} {entry : ConntrackEntry}
    (registers : Registers table after request authId mustSend entry) :
    after.Fit := by
  intro other changed live
  by_cases same : other = authId
  · rw [same, registers.stored] at live
    cases live
    refine ⟨registers.started, ?_⟩
    intro flagged
    rcases registers.origin with
      ⟨former, found, -, -, -, -, sameFlag, sameFrame⟩ |
      ⟨-, -, -, unflagged, -⟩
    · have formerFit := (fit authId former found).flagged
        (sameFlag.symm.trans flagged)
      rw [sameFrame]
      exact ⟨registers.unsettled, formerFit.2⟩
    · rw [unflagged] at flagged
      cases flagged
  · rw [registers.others other same] at live
    exact fit other changed live

theorem callerStep {cfg : SessionConfig} {s s' : State} {c : Nat}
    {request : AuthRequest} {phase : CallerPhase} {action : Action}
    (fit : s.table.Fit) (sound : Sound s.ledger)
    (present : s.ledger.InPhase c request phase)
    (step : CallerStep cfg s c request action phase s') : s'.table.Fit := by
  cases step with
  | claim free =>
      rename_i order
      obtain ⟨table, gone, phase, claimed, -, effect⟩ :=
        claimFlow_effect sound.wellFormed order c request
      have sameTable : (s.claimFlow order c request).table = table :=
        congrArg Ledger.table effect
      rw [sameTable]
      exact fit.aged claimed.evolves
  | insert room =>
      have own := (sound.claiming c request _ present rfl).2
      rcases insertFlow_cases (c := c) sound.wellFormed room own with
        ⟨entry, outcome, table, -, -, -, evolves, -, effect⟩ |
        ⟨entry, authId, mustSend, table, registers, effect⟩
      · rw [effect]
        exact fit.aged evolves
      · rw [effect]
        exact fit.registers registers
  | storeFrame stands free => exact fit.storeFrame sound.wellFormed _ _ _
  | abandonEvict stands free =>
      exact fit.aged (Evolves.evictByAuthId sound.wellFormed _)
  | _ => exact fit

theorem taskStep {cfg : SessionConfig} {l l' : Ledger} {action : Action}
    (fit : l.table.Fit) (sound : Sound l) (step : TaskStep cfg l action l') :
    l'.table.Fit := by
  have wf := sound.wellFormed
  have begun : l.beginShutdown.table = l.table := by
    obtain ⟨shutdown, same⟩ := l.beginShutdown_eq
    rw [same]
  cases step with
  | settled free idle applied verdict =>
      obtain ⟨entry, outcome, -, rfl, -⟩ := applyAuthWireStatus_ok applied
      exact fit.complete wf _ _
  | applied free idle applied verdict =>
      obtain ⟨entry, outcome, -, rfl, -⟩ := applyAuthWireStatus_ok applied
      exact fit.complete wf _ _
  | exhausted message free idle live unsettled => exact fit.complete wf _ _
  | scheduled enabled free idle plain => exact fit.scheduleRetry wf _ _
  | retryFailed free stands verdict => exact fit.complete wf _ _
  | vipClear cancelled free stands => exact fit.aged (Evolves.clear _)
  | touch free stands touched => exact fit.aged (Evolves.touched wf touched)
  | deadlineExceeded message free stands live => exact fit.complete wf _ _
  | retryTaken free stands live taken => exact fit.takeRetry wf _
  | retryVoid free stands live taken => exact fit.takeRetry wf _
  | clearTable cancelled free stands => exact fit.aged (Evolves.clear _)
  | readerStop stands => exact begun ▸ fit
  | schedulerClosing stands => exact begun ▸ fit
  | writerClosing => exact begun ▸ fit
  | close => exact begun ▸ fit
  | _ => exact fit

end ConntrackTable.Fit

/-! ## Callers that stay where they are -/

/-- The attempts differ at most in the sender of their channel. -/
structure Attempt.Alike (attempt changed : Attempt) : Prop where
  authId : changed.authId = attempt.authId
  mustSend : changed.mustSend = attempt.mustSend
  stage : changed.stage = attempt.stage

theorem Attempt.Alike.refl (attempt : Attempt) : attempt.Alike attempt :=
  ⟨rfl, rfl, rfl⟩

/-- The registered callers other than those in `moved` stand where they
stood. -/
structure SameAttempts (moved : Nat → Prop) (l l' : Ledger) : Prop where
  former :
    ∀ c request changed, ¬ moved c → l'.Attempting c request changed →
      ∃ attempt, l.Attempting c request attempt ∧ attempt.Alike changed
  later :
    ∀ c request attempt, ¬ moved c → l.Attempting c request attempt →
      ∃ changed, l'.Attempting c request changed ∧ attempt.Alike changed

namespace SameAttempts

variable {moved : Nat → Prop} {l l' : Ledger} {c : Nat}
  {request : AuthRequest}

theorem of_callers (same : l'.callers = l.callers) :
    SameAttempts moved l l' where
  former c request changed _ stands := by
    refine ⟨changed, ?_, Attempt.Alike.refl changed⟩
    unfold Ledger.Attempting Ledger.InPhase at stands ⊢
    rw [← same]
    exact stands
  later c request attempt _ stands := by
    refine ⟨attempt, ?_, Attempt.Alike.refl attempt⟩
    unfold Ledger.Attempting Ledger.InPhase at stands ⊢
    rw [same]
    exact stands

theorem of_wake {selected : Nat → Bool} {slot : Slot}
    (same : l'.callers = (l.wake selected slot).callers) :
    SameAttempts moved l l' where
  former c request changed _ stands := by
    have woken : (l.wake selected slot).Attempting c request changed := by
      unfold Ledger.Attempting Ledger.InPhase at stands ⊢
      rw [← same]
      exact stands
    obtain ⟨attempt, before, rfl⟩ := Ledger.attempting_wake.mp woken
    exact ⟨attempt, before, by simp, by simp, by simp⟩
  later c request attempt _ stands := by
    have woken : (l.wake selected slot).Attempting c request
        (attempt.wake selected slot) :=
      Ledger.attempting_wake.mpr ⟨attempt, stands, rfl⟩
    refine ⟨attempt.wake selected slot, ?_, by simp, by simp, by simp⟩
    unfold Ledger.Attempting Ledger.InPhase at woken ⊢
    rw [same]
    exact woken

theorem of_start (fresh : l.callers c = none)
    (same : l'.callers = (l.start c request).callers) :
    SameAttempts moved l l' where
  former d request' changed _ stands := by
    refine ⟨changed, ?_, Attempt.Alike.refl changed⟩
    unfold Ledger.Attempting Ledger.InPhase at stands ⊢
    rw [same] at stands
    simp only [Ledger.start] at stands
    split at stands
    · cases stands
    · exact stands
  later d request' attempt _ stands := by
    refine ⟨attempt, ?_, Attempt.Alike.refl attempt⟩
    unfold Ledger.Attempting Ledger.InPhase at stands ⊢
    rw [same]
    simp only [Ledger.start]
    split
    · rename_i isSame
      rw [isSame, fresh] at stands
      cases stands
    · exact stands

theorem of_setPhase {phase : CallerPhase}
    (same : l'.callers = (l.setPhase c phase).callers) :
    SameAttempts (· = c) l l' where
  former d request' changed different stands := by
    refine ⟨changed, ?_, Attempt.Alike.refl changed⟩
    have moved : (l.setPhase c phase).Attempting d request' changed := by
      unfold Ledger.Attempting Ledger.InPhase at stands ⊢
      rw [← same]
      exact stands
    exact (Ledger.inPhase_setPhase_of_ne different).mp moved
  later d request' attempt different stands := by
    refine ⟨attempt, ?_, Attempt.Alike.refl attempt⟩
    have moved : (l.setPhase c phase).Attempting d request' attempt :=
      (Ledger.inPhase_setPhase_of_ne different).mpr stands
    unfold Ledger.Attempting Ledger.InPhase at moved ⊢
    rw [same]
    exact moved

theorem trans {l'' : Ledger} (first : SameAttempts moved l l')
    (second : SameAttempts moved l' l'') : SameAttempts moved l l'' where
  former c request changed different stands := by
    obtain ⟨middle, before, alike⟩ :=
      second.former c request changed different stands
    obtain ⟨attempt, earliest, alike'⟩ :=
      first.former c request middle different before
    exact ⟨attempt, earliest, alike.authId.trans alike'.authId,
      alike.mustSend.trans alike'.mustSend, alike.stage.trans alike'.stage⟩
  later c request attempt different stands := by
    obtain ⟨middle, after, alike⟩ :=
      first.later c request attempt different stands
    obtain ⟨changed, latest, alike'⟩ :=
      second.later c request middle different after
    exact ⟨changed, latest, alike'.authId.trans alike.authId,
      alike'.mustSend.trans alike.mustSend, alike'.stage.trans alike.stage⟩

end SameAttempts

/-- No task other than a caller moves a registered caller. -/
theorem TaskStep.sameAttempts {cfg : SessionConfig} {l l' : Ledger}
    {action : Action} (step : TaskStep cfg l action l') :
    SameAttempts (fun _ => False) l l' := by
  have begun : l.beginShutdown.callers = l.callers := by
    obtain ⟨shutdown, same⟩ := l.beginShutdown_eq
    rw [same]
  cases step with
  | authorizeFlow fresh => exact .of_start fresh rfl
  | readerNotify stands => exact .of_wake rfl
  | vipDrain stands => exact .of_wake rfl
  | schedulerNotify stands => exact .of_wake rfl
  | drain stands => exact .of_wake rfl
  | readerStop stands => exact .of_callers begun
  | schedulerClosing stands => exact .of_callers begun
  | writerClosing => exact .of_callers begun
  | close => exact .of_callers begun
  | _ => exact .of_callers rfl

/-- A caller moves no other registered caller. -/
theorem CallerStep.sameAttempts {cfg : SessionConfig} {s s' : State}
    {c : Nat} {request : AuthRequest} {phase : CallerPhase} {action : Action}
    (sound : Sound s.ledger) (present : s.ledger.InPhase c request phase)
    (step : CallerStep cfg s c request action phase s') :
    SameAttempts (· = c) s.ledger s'.ledger := by
  cases step with
  | claim free =>
      rename_i order
      obtain ⟨table, gone, phase, -, -, effect⟩ :=
        claimFlow_effect sound.wellFormed order c request
      rw [effect]
      have woken :
          SameAttempts (· = c) s.ledger
            (({ s.ledger with table := table, tableOwner := some c } :
              Ledger).wake gone (.sent (.failed
                "flow resource changed during authorization"))) :=
        .of_wake rfl
      exact woken.trans (.of_setPhase rfl)
  | insert room =>
      have own := (sound.claiming c request _ present rfl).2
      rcases insertFlow_cases (c := c) sound.wellFormed room own with
        ⟨entry, outcome, table, -, -, -, -, -, effect⟩ |
        ⟨entry, authId, mustSend, table, -, effect⟩
      · rw [effect]
        exact .of_setPhase rfl
      · rw [effect]
        exact .of_setPhase rfl
  | abandonRemove stands =>
      rename_i attempt reason
      have woken :
          SameAttempts (· = c) s.ledger
            (s.ledger.wake (· == attempt.authId) .dropped) :=
        .of_wake rfl
      exact woken.trans (.of_setPhase rfl)
  | _ => exact .of_setPhase rfl

/-- A registered caller keeps its attempt. -/
theorem CallerStep.attempt {cfg : SessionConfig} {s s' : State}
    {c : Nat} {request : AuthRequest} {attempt : Attempt} {action : Action}
    (present : s.ledger.Attempting c request attempt)
    (step : CallerStep cfg s c request action (.attempting attempt) s') :
    ∃ changed, s'.ledger.Attempting c request changed ∧
      changed.authId = attempt.authId ∧
      changed.mustSend = attempt.mustSend := by
  have set : ∀ (t : State) (changed : Attempt), t.callers = s.callers →
      (t.setAttempt c changed).ledger.Attempting c request changed := by
    intro t changed same
    have before : t.ledger.InPhase c request (.attempting attempt) := by
      unfold Ledger.InPhase
      exact (congrFun same c).trans present
    exact Ledger.inPhase_setPhase.mpr ⟨_, before, if_pos rfl⟩
  cases step with
  | check checked => cases checkStep_of_checkPhase checked
  | read moved => exact ⟨_, set s _ rfl, rfl, rfl⟩
  | storeFrame stands free => exact ⟨_, set _ _ rfl, rfl, rfl⟩
  | enqueueFailed stands ended => exact ⟨_, set s _ rfl, rfl, rfl⟩
  | enqueue stands => exact ⟨_, set _ _ rfl, rfl, rfl⟩
  | recordSent stands => exact ⟨_, set _ _ rfl, rfl, rfl⟩
  | abandonEvict stands free => exact ⟨_, set _ _ rfl, rfl, rfl⟩
  | abandonRemove stands =>
      have woken :
          (s.ledger.wake (· == attempt.authId) .dropped).InPhase c request
            (.attempting (attempt.wake (· == attempt.authId) .dropped)) :=
        Ledger.attempting_wake.mpr ⟨attempt, present, rfl⟩
      refine ⟨_, Ledger.inPhase_setPhase.mpr ⟨_, woken, if_pos rfl⟩, ?_, ?_⟩
      · exact Attempt.wake_authId ..
      · exact Attempt.wake_mustSend ..
  | settleTimeout stands => exact ⟨_, set _ _ rfl, rfl, rfl⟩
  | expire stands empty due => exact ⟨_, set s _ rfl, rfl, rfl⟩
  | cancel suspended => exact ⟨_, set s _ rfl, rfl, rfl⟩

/-! ## Requests that have been written -/

/-- The writer acknowledges to a caller what it has taken from the queue for
it, so a caller that records its request has it on the wire. -/
structure Delivered (s : State) : Prop where
  writing : ∀ frame, s.writer = .writing frame → frame ∈ s.wire
  addressed :
    ∀ frame, frame ∈ s.queue ∨ frame ∈ s.wire → ∀ c,
      frame.written = .caller c →
      ∃ request attempt, s.ledger.Attempting c request attempt ∧
        frame.origin = .request attempt.authId
  acked :
    ∀ c, s.acks c = .written →
      ∃ request attempt, s.ledger.Attempting c request attempt ∧
        s.Sent attempt.authId
  recording :
    ∀ c request attempt, s.ledger.Attempting c request attempt →
      attempt.stage = .recordSent → s.Sent attempt.authId

namespace Delivered

variable {s s' : State}

/-- Registered callers keep their ids. -/
private theorem kept_attempt {c : Nat} (property : Nat → Prop)
    (kept :
      ∀ c request attempt, s.ledger.Attempting c request attempt →
        ∃ changed, s'.ledger.Attempting c request changed ∧
          changed.authId = attempt.authId)
    (before :
      ∃ request attempt, s.ledger.Attempting c request attempt ∧
        property attempt.authId) :
    ∃ request attempt, s'.ledger.Attempting c request attempt ∧
      property attempt.authId := by
  obtain ⟨request, attempt, stands, holds⟩ := before
  obtain ⟨changed, after, same⟩ := kept c request attempt stands
  refine ⟨request, changed, after, ?_⟩
  rw [same]
  exact holds

/-- Steps that acknowledge nothing and queue nothing for a caller. -/
theorem silent (delivered : Delivered s)
    (kept :
      ∀ c request attempt, s.ledger.Attempting c request attempt →
        ∃ changed, s'.ledger.Attempting c request changed ∧
          changed.authId = attempt.authId)
    (records :
      ∀ c request changed, s'.ledger.Attempting c request changed →
        changed.stage = .recordSent → s.Sent changed.authId)
    (acks : ∀ c, s'.acks c = .written → s.acks c = .written)
    (writer : s'.writer = s.writer) (wire : s'.wire = s.wire)
    (queue :
      ∀ frame ∈ s'.queue, frame ∈ s.queue ∨ ∀ c, frame.written ≠ .caller c) :
    Delivered s' where
  writing frame stands := by
    rw [wire]
    rw [writer] at stands
    exact delivered.writing frame stands
  addressed frame listed c target := by
    apply kept_attempt (fun authId => frame.origin = .request authId) kept
    rcases listed with queued | written
    · rcases queue frame queued with former | nobody
      · exact delivered.addressed frame (Or.inl former) c target
      · exact absurd target (nobody c)
    · rw [wire] at written
      exact delivered.addressed frame (Or.inr written) c target
  acked c acked := by
    apply kept_attempt s'.Sent kept
    unfold State.Sent
    rw [wire]
    exact delivered.acked c (acks c acked)
  recording c request changed stands records' := by
    unfold State.Sent
    rw [wire]
    exact records c request changed stands records'

/-- A caller goes on to record its request when it is acknowledged. -/
theorem acked_of_readStage {cfg : SessionConfig} {c : Nat}
    {request : AuthRequest} {attempt : Attempt} {stage : Stage}
    (moved : s.readStage cfg c request attempt = some stage)
    (records : stage = .recordSent) : s.acks c = .written := by
  subst records
  unfold State.readStage at moved
  split at moved
  · split at moved <;> cases moved
  · split at moved <;> cases moved
  · split at moved
    · cases moved
    · split at moved
      · assumption
      · cases moved
      · cases moved
  · cases moved
  · split at moved <;> cases moved
  · split at moved <;> cases moved
  · split at moved <;> cases moved
  · cases moved
  · cases moved

/-- A caller that comes to record its request has it on the wire. -/
private theorem ownRecord {cfg : SessionConfig} {c : Nat}
    {request request' : AuthRequest} {phase : CallerPhase} {action : Action}
    {changed : Attempt} (delivered : Delivered s) (sound : Sound s.ledger)
    (present : s.ledger.InPhase c request phase)
    (step : CallerStep cfg s c request action phase s')
    (stands : s'.ledger.Attempting c request' changed)
    (records : changed.stage = .recordSent) : s.Sent changed.authId := by
  have mine :
      ∀ (m : Ledger) (old phase' : CallerPhase), m.InPhase c request old →
        s'.ledger.callers = (m.setPhase c phase').callers →
        phase' = .attempting changed := by
    intro m old phase' before callers
    have moved : (m.setPhase c phase').InPhase c request'
        (.attempting changed) := by
      unfold Ledger.Attempting Ledger.InPhase at stands
      unfold Ledger.InPhase
      rw [← callers]
      exact stands
    rcases Ledger.inPhase_setPhase_cases before moved with
      ⟨-, -, chosen⟩ | ⟨different, -⟩
    · exact chosen
    · exact absurd rfl different
  cases step with
  | check checked =>
      cases mine s.ledger _ _ present rfl
      cases checkStep_of_checkPhase checked
  | claim free =>
      rename_i order
      obtain ⟨table, gone, phase, -, claims, effect⟩ :=
        claimFlow_effect sound.wellFormed order c request
      rw [effect] at mine
      cases mine _ _ _ (Ledger.inPhase_mapPhases.mpr ⟨_, present, rfl⟩) rfl
      cases claims
  | claimSettle => cases mine s.ledger _ _ present rfl
  | insert room =>
      have own := (sound.claiming c request _ present rfl).2
      rcases insertFlow_cases (c := c) sound.wellFormed room own with
        ⟨entry, outcome, table, -, -, -, -, -, effect⟩ |
        ⟨entry, authId, mustSend, table, -, effect⟩
      · rw [effect] at mine
        cases mine s.ledger _ _ present rfl
      · rw [effect] at mine
        cases mine s.ledger _ _ present rfl
        cases mustSend with
        | true => cases records
        | false => cases records
  | read moved =>
      rename_i attempt stage
      cases mine s.ledger _ _ present rfl
      obtain ⟨request', known, stands', sent⟩ :=
        delivered.acked c (acked_of_readStage moved records)
      obtain ⟨-, isKnown⟩ := Ledger.inPhase_unique present stands'
      cases isKnown
      exact sent
  | storeFrame stands free =>
      cases mine s.ledger _ _ present rfl
      cases records
  | enqueueFailed stands ended =>
      cases mine s.ledger _ _ present rfl
      cases records
  | enqueue stands =>
      cases mine s.ledger _ _ present rfl
      cases records
  | recordSent stands =>
      cases mine s.ledger _ _ present rfl
      cases records
  | abandonEvict stands free =>
      cases mine s.ledger _ _ present rfl
      cases records
  | @abandonRemove _ attempt reason stands =>
      cases mine (s.ledger.wake (· == attempt.authId) .dropped) _ _
        (Ledger.attempting_wake.mpr ⟨attempt, present, rfl⟩) rfl
      rcases afterAbandon_cases request attempt.mustSend reason with
        counted | ⟨error, answered, -⟩
      · rw [counted] at records
        cases records
      · rw [answered] at records
        cases records
  | settleTimeout stands =>
      cases mine s.ledger _ _ present rfl
      cases records
  | expire stands empty due =>
      cases mine s.ledger _ _ present rfl
      cases records
  | cancel suspended =>
      cases mine s.ledger _ _ present rfl
      cases records

theorem callerStep {cfg : SessionConfig} {c : Nat} {request : AuthRequest}
    {phase : CallerPhase} {action : Action} (delivered : Delivered s)
    (sound : Sound s.ledger) (present : s.ledger.InPhase c request phase)
    (step : CallerStep cfg s c request action phase s') : Delivered s' := by
  have others := step.sameAttempts sound present
  have kept :
      ∀ d request' attempt, s.ledger.Attempting d request' attempt →
        ∃ changed, s'.ledger.Attempting d request' changed ∧
          changed.authId = attempt.authId := by
    intro d request' attempt stands
    by_cases same : d = c
    · subst d
      obtain ⟨rfl, rfl⟩ := Ledger.inPhase_unique present stands
      obtain ⟨changed, after, sameId, -⟩ := step.attempt present
      exact ⟨changed, after, sameId⟩
    · obtain ⟨changed, after, alike⟩ :=
        others.later d request' attempt same stands
      exact ⟨changed, after, alike.authId⟩
  have records :
      ∀ d request' changed, s'.ledger.Attempting d request' changed →
        changed.stage = .recordSent → s.Sent changed.authId := by
    intro d request' changed stands isRecording
    by_cases same : d = c
    · rw [same] at stands
      exact delivered.ownRecord sound present step stands isRecording
    · obtain ⟨attempt, before, alike⟩ :=
        others.former d request' changed same stands
      rw [alike.authId]
      exact delivered.recording d request' attempt before
        (alike.stage.symm.trans isRecording)
  cases step with
  | claim free =>
      rename_i order
      have side : (s.claimFlow order c request).acks = s.acks ∧
          (s.claimFlow order c request).writer = s.writer ∧
          (s.claimFlow order c request).wire = s.wire ∧
          (s.claimFlow order c request).queue = s.queue := by
        unfold State.claimFlow
        simp only
        split <;> exact ⟨rfl, rfl, rfl, rfl⟩
      obtain ⟨acks, writer, wire, queue⟩ := side
      refine delivered.silent kept records ?_ writer wire ?_
      · rw [acks]
        exact fun _ acked => acked
      · rw [queue]
        exact fun frame listed => Or.inl listed
  | insert room =>
      have side : (s.insertFlow c request).acks = s.acks ∧
          (s.insertFlow c request).writer = s.writer ∧
          (s.insertFlow c request).wire = s.wire ∧
          (s.insertFlow c request).queue = s.queue := by
        unfold State.insertFlow
        simp only
        split
        · exact ⟨rfl, rfl, rfl, rfl⟩
        · split <;> exact ⟨rfl, rfl, rfl, rfl⟩
      obtain ⟨acks, writer, wire, queue⟩ := side
      refine delivered.silent kept records ?_ writer wire ?_
      · rw [acks]
        exact fun _ acked => acked
      · rw [queue]
        exact fun frame listed => Or.inl listed
  | enqueue stands =>
      rename_i attempt frame
      have after := others.later
      refine ⟨delivered.writing, ?_, ?_, records⟩
      · intro queued listed d target
        have former :
            queued = ⟨frame, .request attempt.authId, .caller c⟩ ∨
              (queued ∈ s.queue ∨ queued ∈ s.wire) := by
          rcases listed with inQueue | written
          · rcases List.mem_append.mp inQueue with old | new
            · exact Or.inr (Or.inl old)
            · exact Or.inl (List.mem_singleton.mp new)
          · exact Or.inr (Or.inr written)
        apply kept_attempt (fun authId => queued.origin = .request authId) kept
        rcases former with rfl | old
        · cases target
          exact ⟨request, attempt, present, rfl⟩
        · exact delivered.addressed queued old d target
      · intro d acked
        apply kept_attempt s.Sent kept
        have before : s.acks d = .written := by
          change (if d = c then Ack.waiting else s.acks d) = .written at acked
          split at acked
          · cases acked
          · exact acked
        exact delivered.acked d before
  | _ =>
      exact delivered.silent kept records (fun _ acked => acked) rfl rfl
        fun frame listed => Or.inl listed

/-- Only the writer touches the wire, and only callers queue frames for
callers. -/
theorem side_of_taskStep {cfg : SessionConfig} {l l' : Ledger}
    {action : Action} (step : TaskStep cfg l action l')
    (other : ∀ result, action ≠ .writer result) :
    l'.side.writer = l.side.writer ∧ l'.side.wire = l.side.wire ∧
      ∀ frame ∈ l'.side.queue,
        frame ∈ l.side.queue ∨ ∀ c, frame.written ≠ .caller c := by
  have begun := l.beginShutdown_side
  have same :
      ∀ side : Periphery, side = l.side →
        side.writer = l.side.writer ∧ side.wire = l.side.wire ∧
          ∀ frame ∈ side.queue,
            frame ∈ l.side.queue ∨ ∀ c, frame.written ≠ .caller c := by
    intro side isSame
    rw [isSame]
    exact ⟨rfl, rfl, fun _ listed => Or.inl listed⟩
  have added :
      ∀ frame : OutboundFrame, (∀ c, frame.written ≠ .caller c) →
        ∀ queued ∈ (l.side.enqueue frame).queue,
          queued ∈ l.side.queue ∨ ∀ c, queued.written ≠ .caller c := by
    intro frame nobody queued listed
    rcases List.mem_append.mp listed with old | new
    · exact Or.inl old
    · rw [List.mem_singleton.mp new]
      exact Or.inr nobody
  cases step with
  | side moves =>
      cases moves with
      | kept => exact same _ rfl
      | otherQueued => exact ⟨rfl, rfl, added _ (by simp)⟩
      | taken waiting => exact absurd rfl (other _)
      | writerMove open_ => exact absurd rfl (other _)
      | writerEnding closed => exact absurd rfl (other _)
      | writerStopped stands => exact absurd rfl (other _)
      | _ => exact ⟨rfl, rfl, fun _ listed => Or.inl listed⟩
  | retryQueued stands => exact ⟨rfl, rfl, added _ (by simp)⟩
  | writerClosing => exact absurd rfl (other _)
  | readerStop stands => exact same _ begun
  | schedulerClosing stands => exact same _ begun
  | close => exact same _ begun
  | _ => exact ⟨rfl, rfl, fun _ listed => Or.inl listed⟩

theorem acks_beginShutdown (executor : ShutdownBy) :
    (s.beginShutdown executor).acks = s.acks := by
  unfold State.beginShutdown
  split <;> rfl

private theorem acks_dispatch {cfg : SessionConfig} {frame : Inbound}
    (stepped : s.dispatch cfg frame = some s') : s'.acks = s.acks := by
  have settled : ∀ (t : State) (status : UInt8) (json : Bytes),
      (t.dispatchSettled cfg status json).acks = t.acks := by
    intro t status json
    unfold State.dispatchSettled
    split
    · rfl
    · split <;> rfl
  have transient : ∀ (t : State) (delay : Nat) (json : Bytes),
      (t.dispatchTransient cfg delay json).acks = t.acks := by
    intro t delay json
    unfold State.dispatchTransient
    split
    · rfl
    · simp only
      split
      · rfl
      · split
        · rfl
        · split
          · rfl
          · split <;> rfl
  unfold State.dispatch at stepped
  split at stepped
  · split at stepped
    · cases stepped
      unfold State.dispatchAuth
      split
      · split
        · exact transient _ _ _
        · exact settled _ _ _
      · split
        · exact transient _ _ _
        · exact settled _ _ _
      · exact settled _ _ _
    · cases stepped
  · split at stepped
    · cases stepped
      rfl
    · split at stepped
      · cases stepped
        rfl
      · cases stepped
        unfold State.applyVipUpdate
        split <;> rfl
  · cases stepped
    rfl
  · cases stepped
    rfl
  · cases stepped
    rfl

/-- The acknowledgements of callers are changed by the writer and by the
callers themselves. -/
theorem acks_of_next {cfg : SessionConfig} {action : Action}
    (stepped : next cfg s action = some s')
    (notWriter : ∀ result, action ≠ .writer result)
    (notCaller : ∀ c order, action ≠ .advance c order) :
    s'.acks = s.acks := by
  cases action with
  | advance c order => exact absurd rfl (notCaller c order)
  | writer result => exact absurd rfl (notWriter result)
  | receive frame =>
      simp only [next] at stepped
      split at stepped
      · exact acks_dispatch stepped
      · cases stepped
  | reader =>
      simp only [next, State.advanceReader] at stepped
      repeat' split at stepped
      all_goals first
        | cases stepped
          rfl
        | cases stepped
  | scheduler =>
      simp only [next, State.advanceScheduler] at stepped
      repeat' split at stepped
      all_goals first
        | cases stepped
          rfl
        | cases stepped
          exact acks_beginShutdown _
        | cases stepped
  | shutdown =>
      simp only [next, State.advanceShutdown] at stepped
      repeat' split at stepped
      all_goals first
        | cases stepped
          rfl
        | cases stepped
  | subscriber =>
      simp only [next, State.advanceSubscriber] at stepped
      repeat' split at stepped
      all_goals first
        | cases stepped
          rfl
        | cases stepped
  | readerStop =>
      simp only [next] at stepped
      split at stepped
      · cases stepped
        exact acks_beginShutdown _
      · cases stepped
  | close =>
      cases stepped
      exact acks_beginShutdown _
  | expire c =>
      obtain ⟨⟨request, phase⟩, present, moved⟩ :=
        Option.bind_eq_some_iff.mp stepped
      have step : CallerStep cfg s c request (.expire c) phase s' :=
        callerStep_of_expire moved
      clear stepped moved
      cases step with
      | expire stands empty due => rfl
  | cancel c =>
      obtain ⟨⟨request, phase⟩, present, moved⟩ :=
        Option.bind_eq_some_iff.mp stepped
      have step : CallerStep cfg s c request (.cancel c) phase s' :=
        callerStep_of_cancel moved
      clear stepped moved
      cases step with
      | cancel suspended => rfl
  | authorizeFlow c request =>
      simp only [next] at stepped
      split at stepped
      · cases stepped
        rfl
      · cases stepped
  | subscribeFlow flow =>
      simp only [next] at stepped
      split at stepped
      · cases stepped
        split <;> rfl
      · cases stepped
  | dropFlowPackets key id =>
      simp only [next] at stepped
      split at stepped
      · cases stepped
        split <;> rfl
      · cases stepped
  | enqueueOther bytes =>
      simp only [next] at stepped
      split at stepped
      · cases stepped
        rfl
      · cases stepped
  | tick duration =>
      cases stepped
      rfl

/-- A caller is acknowledged by its own frame. -/
private theorem acks_acknowledge {target : AckTarget} {ack : Ack} {c : Nat}
    (acked : (s.acknowledge target ack).acks c = .written) :
    s.acks c = .written ∨ (target = .caller c ∧ ack = .written) := by
  cases target with
  | nobody => exact Or.inl acked
  | scheduler => exact Or.inl acked
  | caller d =>
      change (if c = d then ack else s.acks c) = .written at acked
      split at acked
      · rename_i same
        rw [same]
        exact Or.inr ⟨rfl, acked⟩
      · exact Or.inl acked

/-- Dropped acknowledgements are no written ones. -/
private theorem acks_failFrames (frames : List OutboundFrame) {c : Nat}
    (acked : (s.failFrames frames).acks c = .written) :
    s.acks c = .written := by
  unfold State.failFrames at acked
  induction frames generalizing s with
  | nil => exact acked
  | cons frame later inductionHypothesis =>
      have after : (s.acknowledge frame.written .failed).acks c = .written :=
        inductionHypothesis acked
      rcases acks_acknowledge after with before | ⟨-, impossible⟩
      · exact before
      · cases impossible

private theorem wire_acknowledge (target : AckTarget) (ack : Ack) :
    (s.acknowledge target ack).wire = s.wire := by
  cases target <;> rfl

private theorem queue_acknowledge (target : AckTarget) (ack : Ack) :
    (s.acknowledge target ack).queue = s.queue := by
  cases target <;> rfl

private theorem wire_failFrames (frames : List OutboundFrame) :
    (s.failFrames frames).wire = s.wire := by
  unfold State.failFrames
  induction frames generalizing s with
  | nil => rfl
  | cons frame later inductionHypothesis =>
      have after := @inductionHypothesis (s.acknowledge frame.written .failed)
      rw [wire_acknowledge] at after
      exact after

private theorem wire_beginShutdown (executor : ShutdownBy) :
    (s.beginShutdown executor).wire = s.wire ∧
      (s.beginShutdown executor).queue = s.queue ∧
      (s.beginShutdown executor).callers = s.callers := by
  unfold State.beginShutdown
  split <;> exact ⟨rfl, rfl, rfl⟩

/-- The writer takes a frame from the queue. -/
private theorem taken {frame : OutboundFrame} {later : List OutboundFrame}
    (delivered : Delivered s) (waiting : s.queue = frame :: later) :
    Delivered
      { s with
        queue := later
        wire := s.wire ++ [frame]
        writer := .writing frame } := by
  have still : ∀ authId, s.Sent authId →
      ({ s with
        queue := later
        wire := s.wire ++ [frame]
        writer := .writing frame } : State).Sent authId := by
    intro authId sent
    unfold State.Sent at sent ⊢
    rw [List.map_append]
    exact List.mem_append_left _ sent
  refine ⟨?_, ?_, ?_, ?_⟩
  · intro writing isFrame
    cases isFrame
    simp
  · intro listed former c target
    apply delivered.addressed listed ?_ c target
    rcases former with queued | written
    · rw [waiting]
      exact Or.inl (List.mem_cons_of_mem _ queued)
    · rcases List.mem_append.mp written with old | new
      · exact Or.inr old
      · rw [List.mem_singleton.mp new, waiting]
        exact Or.inl (List.mem_cons_self ..)
  · intro c acked
    obtain ⟨request, attempt, stands, sent⟩ := delivered.acked c acked
    exact ⟨request, attempt, stands, still _ sent⟩
  · intro c request attempt stands records
    exact still _ (delivered.recording c request attempt stands records)

theorem writer {result : WriteResult} (delivered : Delivered s)
    (stepped : s.advanceWriter result = some s') : Delivered s' := by
  have moved :
      ∀ (t : State) (frames : List OutboundFrame) (position : WriterPc),
        t.ledger.callers = s.ledger.callers → t.wire = s.wire →
        (∀ frame ∈ frames, frame ∈ s.queue) →
        (∀ c, t.acks c = .written → s.acks c = .written ∨
          ∃ request attempt, s.ledger.Attempting c request attempt ∧
            s.Sent attempt.authId) →
        (∀ frame, position ≠ .writing frame) →
        Delivered { t with queue := frames, writer := position } := by
    intro t frames position callers wire queue acks idle
    have stands : ∀ c request attempt,
        ({ t with queue := frames, writer := position } : State).ledger.Attempting
          c request attempt ↔ s.ledger.Attempting c request attempt := by
      intro c request attempt
      unfold Ledger.Attempting Ledger.InPhase
      rw [← callers]
      exact Iff.rfl
    refine ⟨?_, ?_, ?_, ?_⟩
    · intro frame writing
      exact absurd writing (idle frame)
    · intro frame listed c target
      have former : frame ∈ s.queue ∨ frame ∈ s.wire := by
        rcases listed with queued | written
        · exact Or.inl (queue frame queued)
        · rw [← wire]
          exact Or.inr written
      obtain ⟨request, attempt, before, origin⟩ :=
        delivered.addressed frame former c target
      exact ⟨request, attempt, (stands c request attempt).mpr before, origin⟩
    · intro c acked
      have former : ∃ request attempt, s.ledger.Attempting c request attempt ∧
          s.Sent attempt.authId := by
        rcases acks c acked with before | now
        · exact delivered.acked c before
        · exact now
      obtain ⟨request, attempt, before, sent⟩ := former
      refine ⟨request, attempt, (stands c request attempt).mpr before, ?_⟩
      unfold State.Sent at sent ⊢
      rw [← wire] at sent
      exact sent
    · intro c request attempt holds records
      have sent := delivered.recording c request attempt
        ((stands c request attempt).mp holds) records
      unfold State.Sent at sent ⊢
      rw [← wire] at sent
      exact sent
  have same : ∀ position : WriterPc, (∀ frame, position ≠ .writing frame) →
      Delivered { s with writer := position } := by
    intro position idle
    exact moved s s.queue position rfl rfl (fun _ listed => listed)
      (fun _ acked => Or.inl acked) idle
  have begun : ∀ position : WriterPc, (∀ frame, position ≠ .writing frame) →
      Delivered { s.beginShutdown .writer with writer := position } := by
    intro position idle
    obtain ⟨wire, queue, callers⟩ := @wire_beginShutdown s .writer
    refine moved (s.beginShutdown .writer) (s.beginShutdown .writer).queue
      position callers wire ?_ ?_ idle
    · rw [queue]
      exact fun _ listed => listed
    · rw [acks_beginShutdown]
      exact fun _ acked => Or.inl acked
  have answered : ∀ (frame : OutboundFrame) (ack : Ack) (position : WriterPc),
      s.writer = .writing frame → (∀ frame, position ≠ .writing frame) →
      Delivered
        { s.acknowledge frame.written ack with writer := position } := by
    intro frame ack position stands idle
    have callers := congrArg Ledger.callers
      (@ledger_acknowledge s frame.written ack)
    refine moved (s.acknowledge frame.written ack)
      (s.acknowledge frame.written ack).queue position callers
      (wire_acknowledge _ _) ?_ ?_ idle
    · rw [queue_acknowledge]
      exact fun _ listed => listed
    · intro c acked
      rcases acks_acknowledge acked with before | ⟨target, -⟩
      · exact Or.inl before
      · have onWire := delivered.writing frame stands
        obtain ⟨request, attempt, before, origin⟩ :=
          delivered.addressed frame (Or.inr onWire) c target
        refine Or.inr ⟨request, attempt, before, ?_⟩
        rw [State.Sent, ← origin]
        exact List.mem_map_of_mem onWire
  unfold State.advanceWriter at stepped
  split at stepped
  · split at stepped
    · cases stepped
      exact same _ (by simp)
    · split at stepped
      · cases stepped
      · rename_i frame later waiting
        cases stepped
        exact delivered.taken waiting
  · rename_i frame stands
    split at stepped
    · cases stepped
      exact same _ (by simp)
    · split at stepped
      · cases stepped
        exact answered frame .written _ stands (by simp)
      · cases stepped
        exact answered frame .failed _ stands (by simp)
      · cases stepped
        exact same _ (by simp)
  · cases stepped
    exact begun _ (by simp)
  · cases stepped
    exact begun _ (by simp)
  · rename_i frames stands
    split at stepped
    · cases stepped
    · cases stepped
      have callers := congrArg Ledger.callers
        (@ledger_failFrames s (frames ++ s.queue))
      refine moved (s.failFrames (frames ++ s.queue)) [] .stopped callers
        (wire_failFrames _) (by simp) ?_ (by simp)
      intro c acked
      exact Or.inl (acks_failFrames _ acked)
  · cases stepped

/-- One step keeps what has been delivered. -/
theorem next {cfg : SessionConfig} {action : Action}
    (delivered : Delivered s) (sound : Sound s.ledger)
    (stepped : L3.next cfg s action = some s') : Delivered s' := by
  by_cases isWriter : ∃ result, action = .writer result
  · obtain ⟨result, rfl⟩ := isWriter
    exact delivered.writer stepped
  by_cases isCaller : ∃ c order, action = .advance c order
  · obtain ⟨c, order, rfl⟩ := isCaller
    obtain ⟨⟨request, phase⟩, present, moved⟩ :=
      Option.bind_eq_some_iff.mp stepped
    exact delivered.callerStep sound present
      (callerStep_of_advanceCaller moved)
  · rcases step_of_next stepped with ⟨c, request, phase, present, step⟩ | step
    · exact delivered.callerStep sound present step
    · have notWriter : ∀ result, action ≠ .writer result :=
        fun result same => isWriter ⟨result, same⟩
      obtain ⟨writer, wire, queue⟩ := side_of_taskStep step notWriter
      have attempts := step.sameAttempts
      refine delivered.silent ?_ ?_ ?_ writer wire queue
      · intro c request attempt stands
        obtain ⟨changed, after, alike⟩ :=
          attempts.later c request attempt (fun impossible => impossible) stands
        exact ⟨changed, after, alike.authId⟩
      · intro c request changed stands records
        obtain ⟨attempt, before, alike⟩ :=
          attempts.former c request changed (fun impossible => impossible)
            stands
        rw [alike.authId]
        exact delivered.recording c request attempt before
          (alike.stage.symm.trans records)
      · rw [acks_of_next stepped notWriter
          fun c order same => isCaller ⟨c, order, same⟩]
        exact fun _ acked => acked

theorem initial (vip : Ipv4Addr) (now : Nat) :
    Delivered (State.initial vip now) where
  writing frame stands := by cases stands
  addressed frame listed := by
    rcases listed with queued | written
    · cases queued
    · cases written
  acked c acked := by cases acked
  recording c request attempt stands := by cases stands

end Delivered

end HermesAtrust.L3
