import HermesAtrust.L3.Heartbeat
import HermesAtrust.L3.ManagerTurns

/-!
# The pace of the attempts to connect

The manager of the other modules with its clock, its `failures` and its
`retry_at`: calls of `session` wait for `retry_at` before they read the
candidates, and a call whose candidates have all failed sets it anew.
-/

namespace HermesAtrust.L3.Manager

open HermesAtrust.Concurrency

/-- `u32::MAX`. -/
def failuresMax : Nat := 4294967295

/-- `Duration::from_millis(250)` in nanoseconds. -/
def retryPause : Nat := 250000000

/-- The delay after the given number of failures: the factor is a shifted
`u32`, the product saturates. -/
def backoffDelay (failures : Nat) : Nat :=
  Heartbeat.saturatingMul retryPause
    ((1 <<< min (failures - 1) 5) % 4294967296)

/-- A manager with the fields that pace its attempts.  Times are nanoseconds of
the monotonic clock. -/
structure Paced where
  manager : State
  now : Nat
  failures : Nat
  retryAt : Option Nat

inductive PacedAction where
  | act (action : Action)
  | tick (duration : Nat)

namespace Paced

/-- `L3SessionManager::new`. -/
def new (nodeGroupId : String) (endpoints : List L3NodeEndpoint) : Paced where
  manager := Manager.new nodeGroupId endpoints
  now := 0
  failures := 0
  retryAt := none

/-- `sleep_until` holds a call back until `retry_at`. -/
def ready (paced : Paced) : Action → Bool
  | .advance id =>
      match paced.manager.calls id with
      | some (.session .resting) =>
          match paced.retryAt with
          | none => true
          | some retryAt => decide (retryAt ≤ paced.now)
      | _ => true
  | _ => true

/-- What an action does to `failures` and `retry_at`. -/
def pace (paced : Paced) : Action → Paced
  | .advance id =>
      match paced.manager.calls id with
      | some (.session .closing) =>
          { paced with retryAt := some (paced.now + retryPause) }
      | some (.session (.storing _ _ _)) =>
          { paced with
            failures := 0
            retryAt := none }
      | _ => paced
  | .establish id result =>
      if paced.manager.exhausts id result then
        { paced with
          failures := min (paced.failures + 1) failuresMax
          retryAt := some (paced.now +
            backoffDelay (min (paced.failures + 1) failuresMax)) }
      else
        paced
  | _ => paced

/-- The state after an action, if it can happen. -/
def next (paced : Paced) : PacedAction → Option Paced
  | .tick duration => some { paced with now := paced.now + duration }
  | .act action =>
      if paced.ready action then
        (Manager.next paced.manager action).map fun manager =>
          { paced.pace action with manager := manager }
      else
        none

end Paced

def Paced.observe (paced : Paced) : PacedAction → List DialEvent
  | .act action => paced.manager.observe action
  | .tick _ => []

/-- The calls that have given up since a session was stored. -/
def consecutiveFailures (before : Nat) : List DialEvent → Nat
  | [] => before
  | .stored _ _ :: later => consecutiveFailures 0 later
  | .exhausted _ :: later => consecutiveFailures (before + 1) later
  | _ :: later => consecutiveFailures before later

/-! ## The pace -/

section

variable {paced after : Paced} {events : List DialEvent}

theorem consecutiveFailures_append (before : Nat)
    (events later : List DialEvent) :
    consecutiveFailures before (events ++ later) =
      consecutiveFailures (consecutiveFailures before events) later := by
  induction events generalizing before with
  | nil => rfl
  | cons event rest inductionHypothesis =>
      cases event <;> exact inductionHypothesis _

/-- The delay does not overflow: the shift stays within 32 bits, and the product
within the range of a duration. -/
theorem backoffDelay_eq (failures : Nat) :
    backoffDelay failures = 250000000 * 2 ^ min (failures - 1) 5 := by
  have factor : 2 ^ min (failures - 1) 5 ≤ 2 ^ 5 :=
    Nat.pow_le_pow_right (by decide) (Nat.min_le_right _ _)
  have unwrapped :
      2 ^ min (failures - 1) 5 % 4294967296 = 2 ^ min (failures - 1) 5 := by
    apply Nat.mod_eq_of_lt
    exact Nat.lt_of_le_of_lt factor (by decide)
  rw [backoffDelay, Nat.one_shiftLeft, unwrapped, Heartbeat.saturatingMul,
    retryPause, Nat.min_eq_left]
  calc
    250000000 * 2 ^ min (failures - 1) 5 ≤ 250000000 * 2 ^ 5 :=
      Nat.mul_le_mul_left _ factor
    _ ≤ Heartbeat.durationMax := by decide

/-- A counter that saturates far above five gives the same delay. -/
theorem min_saturated (failures : Nat) :
    min (min failures failuresMax - 1) 5 = min (failures - 1) 5 := by
  rw [failuresMax]
  omega

theorem next_act {action : Action}
    (stepped : paced.next (.act action) = some after) :
    Manager.next paced.manager action = some after.manager ∧
      after.now = paced.now ∧
      after.failures = (paced.pace action).failures ∧
      after.retryAt = (paced.pace action).retryAt := by
  simp only [Paced.next] at stepped
  split at stepped
  · obtain ⟨manager, moved, rfl⟩ := Option.map_eq_some_iff.mp stepped
    refine ⟨moved, ?_, rfl, rfl⟩
    unfold Paced.pace
    split
    · split <;> rfl
    · split <;> rfl
    · rfl
  · cases stepped

/-- A call that gives up is observed to do so. -/
theorem observe_of_exhausts {state later : State} {id : CallId}
    {result : Except EstablishError Ipv4Addr}
    (exhausted : state.exhausts id result = true)
    (stepped : next state (.establish id result) = some later) :
    ∃ endpoint, state.observe (.establish id result) =
      [.dialed id endpoint result, .exhausted id] := by
  cases called : state.calls id with
  | none =>
      simp only [State.exhausts, called] at exhausted
      cases exhausted
  | some call =>
      cases call with
      | session phase =>
          simp only [next, called] at stepped
          cases phase with
          | connecting candidates start offset =>
              simp only [State.observe, called]
              simp only [State.establish] at stepped
              cases chosen :
                  candidates[(start + offset) % candidates.length]? with
              | none =>
                  rw [chosen] at stepped
                  cases stepped
              | some endpoint =>
                  refine ⟨endpoint, ?_⟩
                  simp only [if_pos exhausted]
          | _ => cases stepped
      | _ =>
          simp only [next, called] at stepped
          cases stepped

/-- An attempt after which the call does not give up counts for nothing. -/
theorem consecutiveFailures_of_not_exhausts {state : State} {id : CallId}
    {result : Except EstablishError Ipv4Addr}
    (exhausted : state.exhausts id result = false) (before : Nat) :
    consecutiveFailures before (state.observe (.establish id result)) =
      before := by
  simp only [State.observe]
  split
  · split
    · rfl
    · rw [if_neg (by simp [exhausted])]
      rfl
  · rfl

/-- `failures` counts the calls that gave up since a session was stored. -/
def Counts (events : List DialEvent) (paced : Paced) : Prop :=
  paced.failures = min (consecutiveFailures 0 events) failuresMax

theorem Counts.next_act (counts : Counts events paced) {action : Action}
    (stepped : paced.next (.act action) = some after) :
    Counts (events ++ paced.manager.observe action) after := by
  obtain ⟨moved, -, failures, -⟩ := Manager.next_act stepped
  have unpaced : (paced.pace action).failures = paced.failures →
      consecutiveFailures (consecutiveFailures 0 events)
        (paced.manager.observe action) = consecutiveFailures 0 events →
      Counts (events ++ paced.manager.observe action) after := by
    intro same silent
    rw [Counts, failures, same, consecutiveFailures_append, silent]
    exact counts
  cases action with
  | advance id =>
      cases called : paced.manager.calls id with
      | none =>
          apply unpaced
          · simp only [Paced.pace, called]
          · simp only [State.observe, called]
            rfl
      | some call =>
          cases call with
          | session phase =>
              cases phase with
              | storing session index count =>
                  rw [Counts, failures, consecutiveFailures_append]
                  simp only [Paced.pace, State.observe, called]
                  rfl
              | resting =>
                  apply unpaced
                  · simp only [Paced.pace, called]
                  · simp only [State.observe, called]
                    split <;> rfl
              | _ =>
                  apply unpaced
                  · simp only [Paced.pace, called]
                  · simp only [State.observe, called]
                    rfl
          | _ =>
              apply unpaced
              · simp only [Paced.pace, called]
              · simp only [State.observe, called]
                rfl
  | establish id result =>
      cases exhausted : paced.manager.exhausts id result with
      | true =>
          obtain ⟨endpoint, seen⟩ := observe_of_exhausts exhausted moved
          rw [Counts, failures, consecutiveFailures_append, seen]
          simp only [Paced.pace, exhausted, if_true, consecutiveFailures]
          rw [Counts] at counts
          omega
      | false =>
          apply unpaced
          · simp only [Paced.pace, exhausted]
            rfl
          · exact consecutiveFailures_of_not_exhausts exhausted _
  | _ => exact unpaced rfl rfl

/-- The delay that follows the step of a call that gives up. -/
theorem Counts.retryAt (counts : Counts events paced) {id : CallId}
    {result : Except EstablishError Ipv4Addr}
    (exhausted : paced.manager.exhausts id result = true)
    (stepped : paced.next (.act (.establish id result)) = some after) :
    after.retryAt =
      some (paced.now + 250000000 * 2 ^
        min (consecutiveFailures 0
          (events ++ paced.observe (.act (.establish id result))) - 1) 5) := by
  obtain ⟨moved, -, -, retryAt⟩ := Manager.next_act stepped
  obtain ⟨endpoint, seen⟩ := observe_of_exhausts exhausted moved
  have counted :
      consecutiveFailures 0
          (events ++ paced.observe (.act (.establish id result))) =
        consecutiveFailures 0 events + 1 := by
    rw [Paced.observe, consecutiveFailures_append, seen]
    rfl
  have same :
      min (paced.failures + 1) failuresMax =
        min (consecutiveFailures 0 events + 1) failuresMax := by
    rw [Counts] at counts
    omega
  rw [counted, retryAt]
  simp only [Paced.pace, exhausted, if_true]
  rw [same, backoffDelay_eq, min_saturated]

end

section

variable {nodeGroupId : String} {endpoints : List L3NodeEndpoint}
  {actions : List PacedAction} {final : Paced}

theorem scheduled_new (nodeGroupId : String)
    (endpoints : List L3NodeEndpoint) :
    Scheduled [] (new nodeGroupId endpoints) where
  guarded := guarded_new nodeGroupId endpoints
  numbered := numbered_new nodeGroupId endpoints
  fits _ := .inl rfl
  fresh _ _ := rfl
  distinct := nodup_deduplicateFrom [] endpoints
  nextEndpoint := rfl

theorem scheduled_of_run
    (ran :
      run Paced.next (Paced.new nodeGroupId endpoints) actions = some final) :
    Scheduled
        (observed Paced.next Paced.observe (Paced.new nodeGroupId endpoints)
          actions)
        final.manager ∧
      Counts
        (observed Paced.next Paced.observe (Paced.new nodeGroupId endpoints)
          actions)
        final := by
  have free :
      Meets Paced.next (fun _ _ => True) (Paced.new nodeGroupId endpoints)
        actions :=
    meets_of_forall fun _ _ _ => trivial
  have uncounted : Counts [] (Paced.new nodeGroupId endpoints) := by
    rw [Counts, consecutiveFailures, Nat.zero_min]
    rfl
  refine invariant_of_observed
    (fun events paced => Scheduled events paced.manager ∧ Counts events paced)
    ⟨scheduled_new nodeGroupId endpoints, uncounted⟩ ?_ free ran
  intro events paced action after holds _ stepped
  obtain ⟨scheduled, counts⟩ := holds
  cases action with
  | act action =>
      exact ⟨scheduled.next (next_act stepped).1, counts.next_act stepped⟩
  | tick duration =>
      cases stepped
      simp only [Paced.observe, List.append_nil]
      exact ⟨scheduled, counts⟩

/-- In every run each call of `session` dials a part of the candidates that it
read, each once and in cyclic order from `next_endpoint`; the index is in range.
It returns the session of the first attempt that succeeds, and leaves the
following index behind, or an error: that of an attempt that may not be
repeated, or that of the last candidate when all have failed.  Then the next
attempt waits for 250 ms, doubled for each of the consecutive failures before
this one, five times at most. -/
theorem candidates_dialed_in_turn
    (ran :
      run Paced.next (Paced.new nodeGroupId endpoints) actions = some final) :
    let events :=
      observed Paced.next Paced.observe (Paced.new nodeGroupId endpoints)
        actions
    (∀ id, Orderly (recordOf id events) ∧
      ((recordOf id events).dialed.map Prod.fst).Nodup) ∧
    (∀ id candidates start offset,
      final.manager.calls id =
          some (.session (.connecting candidates start offset)) →
        ∃ endpoint,
          candidates[(start + offset) % candidates.length]? = some endpoint ∧
          endpoint ∉ (recordOf id events).dialed.map Prod.fst) ∧
    (∀ id session,
      final.manager.calls id = some (.session (.returned (.ok session))) →
        recordOf id events = .blank ∨
          ∃ candidates first, InTurn (recordOf id events) candidates first ∧
            Followed (recordOf id events) candidates) ∧
    (∀ id error,
      final.manager.calls id =
          some (.session (.returned (.error (.session error)))) →
        GaveUp (recordOf id events) error) ∧
    final.manager.nextEndpoint = nextEndpointAfter 0 events ∧
    (∀ id result after,
      final.manager.exhausts id result = true →
      final.next (.act (.establish id result)) = some after →
        after.retryAt =
          some (final.now + 250000000 * 2 ^
            min (consecutiveFailures 0
              (events ++ final.observe (.act (.establish id result))) - 1)
              5)) := by
  intro events
  obtain ⟨scheduled, counts⟩ := scheduled_of_run ran
  refine ⟨?_, ?_, ?_, ?_, scheduled.nextEndpoint, ?_⟩
  · intro id
    have orderly := (scheduled.fits id).orderly
    refine ⟨orderly, ?_⟩
    rcases orderly with blank | ⟨candidates, first, inTurn, -⟩
    · rw [blank]
      exact List.nodup_nil
    · exact inTurn.once
  · intro id candidates start offset called
    have fits := scheduled.fits id
    rw [called] at fits
    obtain ⟨first, inTurn, -, rfl, rfl, room, failed⟩ := fits
    obtain ⟨endpoint, chosen⟩ :=
      exists_candidate (first % candidates.length) room
    refine ⟨endpoint, chosen, ?_⟩
    have further := (inTurn.dial id (.error .tls) failed room chosen).once
    simp only [Record.note, List.map_append] at further
    intro again
    exact List.disjoint_of_nodup_append further again
      (List.mem_singleton.mpr rfl)
  · intro id session called
    have fits := scheduled.fits id
    rw [called] at fits
    exact fits
  · intro id error called
    have fits := scheduled.fits id
    rw [called] at fits
    exact fits
  · intro id result after exhausted stepped
    exact counts.retryAt exhausted stepped

end

/-- The first of two candidates has been dialed in vain. -/
def dialingFirst : List PacedAction :=
  [.act (.call .session), .act (.advance 0), .act (.advance 0),
    .act (.advance 0), .act (.advance 0), .act (.advance 0),
    .act (.establish 0 (.error .connectTimeout))]

theorem candidates_dialed_in_turn_sample :
    ∃ final,
      run Paced.next (Paced.new "office" [⟨"a", 443⟩, ⟨"b", 443⟩])
          dialingFirst =
        some final ∧
      ∀ after,
        final.next (.act (.establish 0 (.error .tls))) = some after →
          after.retryAt = some 250000000 := by
  refine ⟨_, rfl, ?_⟩
  intro after stepped
  have dialed :=
    @candidates_dialed_in_turn "office" [⟨"a", 443⟩, ⟨"b", 443⟩] dialingFirst
      _ rfl
  exact dialed.2.2.2.2.2 0 (.error .tls) after rfl stepped

end HermesAtrust.L3.Manager
