import HermesAtrust.L3.ManagerRetirement

/-!
# Sessions that have been handed out

A call of `session` that has established a session keeps it to itself until it
is stored.  Afterwards no call stores it a second time: a session that has left
the manager does not come back.
-/

namespace HermesAtrust.L3.Manager

open HermesAtrust.Concurrency

/-- The session that a call has established and not stored yet. -/
def Call.pending : Call → Option SessionRef
  | .session (.connected established _ _) => some established
  | .session (.storing established _ _) => some established
  | _ => none

theorem holds_of_pending {call : Call} {session : SessionRef}
    (pending : call.pending = some session) : call.holds := by
  match call, pending with
  | .session (.connected _ _ _), _ => rfl
  | .session (.storing _ _ _), _ => rfl

/-- The function that was called. -/
def Call.request : Call → Request
  | .session _ => .session
  | .currentSession _ => .currentSession
  | .lastVip _ => .lastVip
  | .invalidate failed _ => .invalidate failed
  | .close _ => .close
  | .retire _ => .retire

@[simp] theorem Request.request_call (request : Request) :
    request.call.request = request := by
  cases request <;> rfl

/-- The session exists and no call is about to store it. -/
structure Issued (state : State) (session : SessionRef) : Prop where
  known : (state.sessions session).isSome
  settled :
    ∀ id call, state.calls id = some call → call.pending ≠ some session

/-- The stored session and those that were handed out are not stored again. -/
structure Placed (state : State) : Prop where
  stored : ∀ session, state.session = some session → Issued state session
  handed :
    ∀ id call session, state.calls id = some call →
      call.handsOut = some session → Issued state session

/-- How a step of one call may move sessions. -/
structure Places (state after : State) (id : CallId) (call : Call) :
    Prop where
  calls : after.calls = Function.update state.calls id (some call)
  pending :
    ∀ session, call.pending = some session →
      (∃ former, state.calls id = some former ∧
        former.pending = some session) ∨
      state.sessions session = none
  stored :
    ∀ session, after.session = some session →
      state.session = some session ∨
        call.pending = none ∧ ∃ former, state.calls id = some former ∧
          former.pending = some session
  handed :
    ∀ session, call.handsOut = some session → after.session = some session
  continues :
    (∃ former, state.calls id = some former ∧
        former.request = call.request ∧ after.nextCall = state.nextCall) ∨
      id = state.nextCall ∧ after.nextCall = state.nextCall + 1

section

variable {state after : State} {id : CallId}

/-- Asking a session to close makes no call. -/
@[simp] theorem State.requestClose_nextCall (state : State)
    (session : SessionRef) :
    (state.requestClose session).nextCall = state.nextCall := by
  rw [State.requestClose_eq]

/-- A step that moves no session into the manager or out of it. -/
theorem places_plain {former call : Call}
    (called : state.calls id = some former)
    (calls : after.calls = Function.update state.calls id (some call))
    (same : former.request = call.request)
    (count : after.nextCall = state.nextCall)
    (slot : after.session = state.session ∨ after.session = none)
    (pending : call.pending = none) (handed : call.handsOut = none) :
    Places state after id call where
  calls := calls
  pending session isPending := by
    rw [pending] at isPending
    cases isPending
  stored session isStored := by
    rcases slot with kept | gone
    · rw [kept] at isStored
      exact .inl isStored
    · rw [gone] at isStored
      cases isStored
  handed session isHanded := by
    rw [handed] at isHanded
    cases isHanded
  continues := .inl ⟨former, called, same, count⟩

theorem places_setCall {former call : Call}
    (called : state.calls id = some former)
    (same : former.request = call.request) (pending : call.pending = none)
    (handed : call.handsOut = none) :
    Places state (state.setCall id call) id call :=
  places_plain called rfl same rfl (.inl rfl) pending handed

theorem places_unlock {former call : Call}
    (called : state.calls id = some former)
    (same : former.request = call.request) (pending : call.pending = none)
    (handed : call.handsOut = none) :
    Places state (state.unlock.setCall id call) id call :=
  places_plain called rfl same rfl (.inl rfl) pending handed

theorem places_lock {former call : Call}
    (called : state.calls id = some former)
    (stepped :
      ((state.lock id).map fun locked => locked.setCall id call) =
        some after)
    (same : former.request = call.request) (pending : call.pending = none)
    (handed : call.handsOut = none) :
    ∃ call, Places state after id call := by
  obtain ⟨locked, acquired, rfl⟩ := Option.map_eq_some_iff.mp stepped
  obtain ⟨-, rfl⟩ := lock_eq_some acquired
  exact ⟨call, places_plain called rfl same rfl (.inl rfl) pending handed⟩

theorem places_advanceSession {phase : SessionPhase}
    (called : state.calls id = some (.session phase))
    (stepped : state.advanceSession id phase = some after) :
    ∃ call, Places state after id call := by
  cases phase with
  | starting =>
      simp only [State.advanceSession] at stepped
      split at stepped
      · cases stepped
        exact ⟨_, places_setCall called rfl rfl rfl⟩
      · cases stepped
        exact ⟨_, places_setCall called rfl rfl rfl⟩
  | locking => exact places_lock called stepped rfl rfl rfl
  | locked =>
      simp only [State.advanceSession] at stepped
      split at stepped
      · cases stepped
        exact ⟨_, places_unlock called rfl rfl rfl⟩
      · cases stepped
        exact ⟨_, places_setCall called rfl rfl rfl⟩
  | checked =>
      simp only [State.advanceSession] at stepped
      split at stepped
      · cases stepped
        exact ⟨_, places_setCall called rfl rfl rfl⟩
      · next session isStored =>
          split at stepped
          · cases stepped
            exact ⟨.session .closing, places_plain called (by simp) rfl
              (by simp [State.setCall]) (.inr (by simp)) rfl rfl⟩
          · cases stepped
            refine ⟨.session (.returned (.ok session)), rfl, ?_, ?_, ?_,
              .inl ⟨_, called, rfl, rfl⟩⟩
            · intro other impossible
              cases impossible
            · intro other same
              exact .inl same
            · intro other same
              cases same
              exact isStored
  | closing =>
      cases stepped
      exact ⟨_, places_setCall called rfl rfl rfl⟩
  | resting =>
      simp only [State.advanceSession] at stepped
      split at stepped
      · cases stepped
        exact ⟨_, places_unlock called rfl rfl rfl⟩
      · cases stepped
        exact ⟨_, places_setCall called rfl rfl rfl⟩
  | connecting endpoints start offset => cases stepped
  | connected session index count =>
      simp only [State.advanceSession] at stepped
      split at stepped
      · cases stepped
        exact ⟨.session (.returned (.error .retired)),
          places_plain called (by simp [State.unlock]) rfl
            (by simp [State.unlock, State.setCall])
            (.inl (by simp [State.unlock])) rfl rfl⟩
      · cases stepped
        refine ⟨.session (.storing session index count), rfl, ?_, ?_, ?_,
          .inl ⟨_, called, rfl, rfl⟩⟩
        · intro other isPending
          exact .inl ⟨_, called, isPending⟩
        · intro other isStored
          exact .inl isStored
        · intro other impossible
          cases impossible
  | storing session index count =>
      simp only [State.advanceSession] at stepped
      split at stepped
      · cases stepped
      · cases stepped
        refine ⟨.session (.returned (.ok session)), rfl, ?_, ?_, ?_,
          .inl ⟨_, called, rfl, rfl⟩⟩
        · intro other impossible
          cases impossible
        · intro other isStored
          cases isStored
          exact .inr ⟨rfl, _, called, rfl⟩
        · intro other isHanded
          cases isHanded
          rfl
  | returned result => cases stepped

theorem places_establish {phase : SessionPhase}
    {result : Except EstablishError Ipv4Addr} (guarded : Guarded state)
    (called : state.calls id = some (.session phase))
    (stepped : state.establish id result phase = some after) :
    ∃ call, Places state after id call := by
  cases phase with
  | connecting endpoints start offset =>
      simp only [State.establish] at stepped
      split at stepped
      · cases stepped
      · next endpoint chosen =>
          split at stepped
          · next vip =>
              cases stepped
              refine ⟨.session (.connected state.nextSession
                ((start + offset) % endpoints.length) endpoints.length),
                rfl, ?_, ?_, ?_, .inl ⟨_, called, rfl, rfl⟩⟩
              · intro session isPending
                cases isPending
                exact .inr (guarded.fresh _ le_rfl)
              · intro session isStored
                exact .inl isStored
              · intro other impossible
                cases impossible
          · split at stepped
            · split at stepped
              · cases stepped
                exact ⟨_, places_plain called rfl rfl rfl (.inl rfl) rfl rfl⟩
              · cases stepped
                exact ⟨_, places_plain called rfl rfl rfl (.inl rfl) rfl rfl⟩
            · cases stepped
              exact ⟨_, places_unlock called rfl rfl rfl⟩
  | _ => cases stepped

theorem places_advanceInvalidate {failed : SessionRef}
    {phase : InvalidatePhase}
    (called : state.calls id = some (.invalidate failed phase))
    (stepped : state.advanceInvalidate id failed phase = some after) :
    ∃ call, Places state after id call := by
  cases phase with
  | locking => exact places_lock called stepped rfl rfl rfl
  | holding =>
      simp only [State.advanceInvalidate] at stepped
      split at stepped
      · cases stepped
        exact ⟨_, places_plain called rfl rfl rfl (.inr rfl) rfl rfl⟩
      · cases stepped
        exact ⟨_, places_unlock called rfl rfl rfl⟩
  | closing =>
      cases stepped
      exact ⟨.invalidate failed .joining, places_plain called (by simp) rfl
        (by simp [State.setCall]) (.inl (by simp)) rfl rfl⟩
  | joining =>
      cases stepped
      exact ⟨_, places_plain called rfl rfl rfl (.inl rfl) rfl rfl⟩
  | returned => cases stepped

theorem places_advanceClose {phase : ClosePhase}
    (called : state.calls id = some (.close phase))
    (stepped : state.advanceClose id phase = some after) :
    ∃ call, Places state after id call := by
  cases phase with
  | locking => exact places_lock called stepped rfl rfl rfl
  | holding =>
      simp only [State.advanceClose] at stepped
      split at stepped
      · cases stepped
        exact ⟨_, places_unlock called rfl rfl rfl⟩
      · cases stepped
        exact ⟨.close .closing, places_plain called (by simp) rfl
          (by simp [State.setCall]) (.inr (by simp)) rfl rfl⟩
  | closing =>
      cases stepped
      exact ⟨_, places_plain called rfl rfl rfl (.inl rfl) rfl rfl⟩
  | returned => cases stepped

theorem places_advanceRetire {phase : RetirePhase}
    (called : state.calls id = some (.retire phase))
    (stepped : state.advanceRetire id phase = some after) :
    ∃ call, Places state after id call := by
  cases phase with
  | starting =>
      cases stepped
      exact ⟨_, places_plain called rfl rfl rfl (.inl rfl) rfl rfl⟩
  | tryingLock =>
      simp only [State.advanceRetire] at stepped
      split at stepped
      · cases stepped
        exact ⟨_, places_plain called rfl rfl rfl (.inl rfl) rfl rfl⟩
      · cases stepped
        exact ⟨_, places_setCall called rfl rfl rfl⟩
  | holding =>
      simp only [State.advanceRetire] at stepped
      split at stepped
      · cases stepped
        exact ⟨_, places_unlock called rfl rfl rfl⟩
      · cases stepped
        exact ⟨.retire .returned, places_plain called
          (by simp [State.unlock]) rfl (by simp [State.unlock, State.setCall])
          (.inl (by simp [State.unlock])) rfl rfl⟩
  | returned => cases stepped

theorem places_advance (stepped : state.advance id = some after) :
    ∃ call, Places state after id call := by
  unfold State.advance at stepped
  split at stepped
  · cases stepped
  · next phase called => exact places_advanceSession called stepped
  · next phase called =>
      cases phase with
      | locking => exact places_lock called stepped rfl rfl rfl
      | holding =>
          cases stepped
          exact ⟨_, places_unlock called rfl rfl rfl⟩
      | returned session => cases stepped
  · next phase called =>
      cases phase with
      | locking => exact places_lock called stepped rfl rfl rfl
      | holding =>
          cases stepped
          exact ⟨_, places_unlock called rfl rfl rfl⟩
      | returned vip => cases stepped
  · next failed phase called => exact places_advanceInvalidate called stepped
  · next phase called => exact places_advanceClose called stepped
  · next phase called => exact places_advanceRetire called stepped

theorem places_call (state : State) (request : Request) :
    Places state
      ({ state with nextCall := state.nextCall + 1 }.setCall state.nextCall
        request.call)
      state.nextCall request.call where
  calls := rfl
  pending session isPending := by cases request <;> cases isPending
  stored session isStored := .inl isStored
  handed session isHanded := by cases request <;> cases isHanded
  continues := .inr ⟨rfl, rfl⟩

/-- A call begins under the next number. -/
theorem called_of_call {request : Request}
    (stepped : next state (.call request) = some after) :
    after.calls state.nextCall = some request.call := by
  cases stepped
  exact Function.update_self ..

/-- An action that moves no call and no session, and drops one call at most. -/
structure Bystands (state after : State) (action : Action) : Prop
    extends Surrounds state after where
  count : after.nextCall = state.nextCall
  kept : ∀ id, action ≠ .cancel id → after.calls id = state.calls id

theorem bystands_cancel (stepped : state.cancel id = some after) :
    Bystands state after (.cancel id) := by
  refine ⟨surrounds_cancel stepped, ?_, ?_⟩
  · unfold State.cancel at stepped
    split at stepped
    · cases stepped
    · split at stepped <;> cases stepped
      rfl
  · intro other different
    unfold State.cancel at stepped
    split at stepped
    · cases stepped
    · split at stepped
      · cases stepped
        apply Function.update_of_ne
        intro same
        exact different (by rw [same])
      · cases stepped

theorem bystands_applyVipUpdate {session : SessionRef} {current : Ipv4Addr}
    (stepped : state.applyVipUpdate session current = some after) :
    Bystands state after (.vipUpdate session current) := by
  have surrounds := surrounds_applyVipUpdate stepped
  unfold State.applyVipUpdate at stepped
  split at stepped
  · cases stepped
  · split at stepped
    · cases stepped
      exact ⟨surrounds, rfl, fun _ _ => rfl⟩
    · cases stepped
      exact ⟨surrounds, rfl, fun _ _ => rfl⟩

theorem bystands_failSession {session : SessionRef}
    (stepped : state.failSession session = some after) :
    Bystands state after (.sessionFails session) := by
  have surrounds := surrounds_failSession stepped
  unfold State.failSession at stepped
  split at stepped
  · cases stepped
  · cases stepped
    exact ⟨surrounds, rfl, fun _ _ => rfl⟩

/-- Every action moves one call, or no session. -/
theorem places_next {action : Action} (guarded : Guarded state)
    (stepped : next state action = some after) :
    (∃ id call, Places state after id call) ∨
      Bystands state after action := by
  cases action with
  | call request =>
      cases stepped
      exact .inl ⟨_, _, places_call state request⟩
  | advance id => exact .inl ⟨id, places_advance stepped⟩
  | establish id result =>
      simp only [next] at stepped
      split at stepped
      · next phase called =>
          exact .inl ⟨id, places_establish guarded called stepped⟩
      · cases stepped
  | cancel id => exact .inr (bystands_cancel stepped)
  | updateEndpoints endpoints =>
      cases stepped
      exact .inr ⟨⟨fun _ _ found => found, heapGrows_of_eq rfl rfl, rfl, rfl,
        fun _ _ _ held => held⟩, rfl, fun _ _ => rfl⟩
  | vipUpdate session current => exact .inr (bystands_applyVipUpdate stepped)
  | sessionFails session => exact .inr (bystands_failSession stepped)

/-- Sessions stay in the heap. -/
theorem heapGrows_next {action : Action} (guarded : Guarded state)
    (stepped : next state action = some after) : HeapGrows state after := by
  rcases next_cases guarded stepped with ⟨id, call, moves⟩ | surrounds
  · exact moves.heap
  · exact surrounds.heap

/-- A session that no call is about to store stays so. -/
theorem Issued.next {action : Action} {session : SessionRef}
    (issued : Issued state session) (guarded : Guarded state)
    (stepped : Manager.next state action = some after) :
    Issued after session where
  known := (heapGrows_next guarded stepped).known session issued.known
  settled := by
    intro other call found isPending
    rcases places_next guarded stepped with ⟨id, moved, places⟩ | surrounds
    · rw [places.calls, Function.update_apply] at found
      by_cases same : other = id
      · rw [if_pos same] at found
        cases found
        rcases places.pending session isPending with
          ⟨former, present, wasPending⟩ | unknown
        · exact issued.settled id former present wasPending
        · have known := issued.known
          rw [unknown] at known
          cases known
      · rw [if_neg same] at found
        exact issued.settled other call found isPending
    · exact issued.settled other call (surrounds.calls other call found)
        isPending

/-- A session that has left the manager does not come back. -/
theorem Issued.stays_out {action : Action} {session : SessionRef}
    (issued : Issued state session) (guarded : Guarded state)
    (out : state.session ≠ some session)
    (stepped : Manager.next state action = some after) :
    after.session ≠ some session := by
  intro back
  rcases places_next guarded stepped with ⟨id, call, places⟩ | surrounds
  · rcases places.stored session back with
      before | ⟨-, former, present, wasPending⟩
    · exact out before
    · exact issued.settled id former present wasPending
  · rw [surrounds.session] at back
    exact out back

/-- The session that a step stores is nobody else's. -/
private theorem issued_of_stored {call : Call} {session : SessionRef}
    (guarded : Guarded state) (guardedAfter : Guarded after)
    (places : Places state after id call) (plain : call.pending = none)
    {former : Call} (present : state.calls id = some former)
    (wasPending : former.pending = some session)
    (isStored : after.session = some session) : Issued after session where
  known := guardedAfter.known session isStored
  settled := by
    intro other held found isPending
    rw [places.calls, Function.update_apply] at found
    by_cases same : other = id
    · rw [if_pos same] at found
      cases found
      rw [plain] at isPending
      cases isPending
    · rw [if_neg same] at found
      have mine := guarded.holder id former present
        (holds_of_pending wasPending)
      have others := guarded.holder other held found
        (holds_of_pending isPending)
      rw [mine] at others
      exact same (Option.some.inj others).symm

theorem Placed.next {action : Action} (placed : Placed state)
    (guarded : Guarded state)
    (stepped : Manager.next state action = some after) : Placed after := by
  have stored : ∀ session, after.session = some session →
      Issued after session := by
    intro session isStored
    rcases places_next guarded stepped with ⟨id, call, places⟩ | surrounds
    · rcases places.stored session isStored with
        before | ⟨plain, former, present, wasPending⟩
      · exact (placed.stored session before).next guarded stepped
      · exact issued_of_stored guarded (guarded_next guarded stepped) places
          plain present wasPending isStored
    · rw [surrounds.session] at isStored
      exact (placed.stored session isStored).next guarded stepped
  refine ⟨stored, ?_⟩
  intro other call session found isHanded
  rcases places_next guarded stepped with ⟨id, moved, places⟩ | surrounds
  · rw [places.calls, Function.update_apply] at found
    by_cases same : other = id
    · rw [if_pos same] at found
      cases found
      exact stored session (places.handed session isHanded)
    · rw [if_neg same] at found
      exact (placed.handed other call session found isHanded).next guarded
        stepped
  · exact (placed.handed other call session
      (surrounds.calls other call found) isHanded).next guarded stepped

/-- A call hands out no session that was out of the manager before it. -/
theorem handsOut_next {action : Action} {session : SessionRef}
    (guarded : Guarded state)
    (stepped : Manager.next state action = some after)
    (issued : Issued state session) (out : state.session ≠ some session)
    {other : CallId}
    (unheld :
      ∀ call, state.calls other = some call →
        call.handsOut ≠ some session) :
    ∀ call, after.calls other = some call → call.handsOut ≠ some session := by
  intro call found isHanded
  rcases places_next guarded stepped with ⟨id, moved, places⟩ | surrounds
  · rw [places.calls, Function.update_apply] at found
    by_cases same : other = id
    · rw [if_pos same] at found
      cases found
      exact issued.stays_out guarded out stepped
        (places.handed session isHanded)
    · rw [if_neg same] at found
      exact unheld call found isHanded
  · exact unheld call (surrounds.calls other call found) isHanded

/-! ## Calls -/

/-- No call has a number that is not given yet. -/
def Numbered (state : State) : Prop :=
  ∀ id, state.nextCall ≤ id → state.calls id = none

theorem Numbered.next {action : Action} (numbered : Numbered state)
    (guarded : Guarded state)
    (stepped : Manager.next state action = some after) : Numbered after := by
  intro other beyond
  rcases places_next guarded stepped with ⟨id, call, places⟩ | bystands
  · rw [places.calls, Function.update_apply]
    rcases places.continues with ⟨former, called, -, count⟩ | ⟨new, count⟩
    · rw [count] at beyond
      have free := numbered other beyond
      rw [if_neg]
      · exact free
      · intro same
        rw [← same, free] at called
        cases called
    · rw [count] at beyond
      have different : other ≠ id := by
        rw [new]
        exact Nat.ne_of_gt beyond
      rw [if_neg different]
      exact numbered other (Nat.le_of_succ_le beyond)
  · cases dropped : after.calls other with
    | none => rfl
    | some call =>
        have present := bystands.calls other call dropped
        rw [numbered other (bystands.count ▸ beyond)] at present
        cases present

/-- A call that is not dropped goes on. -/
theorem call_continues {action : Action} {call : Call}
    (numbered : Numbered state) (guarded : Guarded state)
    (stepped : Manager.next state action = some after)
    (called : state.calls id = some call) (kept : action ≠ .cancel id) :
    ∃ later, after.calls id = some later ∧ later.request = call.request := by
  rcases places_next guarded stepped with ⟨other, moved, places⟩ | bystands
  · rw [places.calls, Function.update_apply]
    by_cases same : id = other
    · rw [if_pos same]
      refine ⟨moved, rfl, ?_⟩
      rcases places.continues with ⟨former, present, continues, -⟩ | ⟨new, -⟩
      · rw [← same, called] at present
        cases present
        exact continues.symm
      · have free := numbered id (by rw [same, new])
        rw [called] at free
        cases free
    · rw [if_neg same]
      exact ⟨call, called, rfl⟩
  · rw [bystands.kept id kept]
    exact ⟨call, called, rfl⟩

/-- `invalidate` has looked at the stored session. -/
def InvalidatePhase.past : InvalidatePhase → Bool
  | .locking | .holding => false
  | .closing | .joining | .returned => true

/-- A step of `invalidate` takes the failed session out of the manager or
leaves the stored one where it is. -/
theorem session_advanceInvalidate {failed : SessionRef}
    {phase : InvalidatePhase}
    (stepped : state.advanceInvalidate id failed phase = some after) :
    after.session = state.session ∨
      state.session = some failed ∧ after.session = none := by
  cases phase with
  | locking =>
      obtain ⟨locked, acquired, rfl⟩ := Option.map_eq_some_iff.mp stepped
      obtain ⟨-, rfl⟩ := lock_eq_some acquired
      exact .inl rfl
  | holding =>
      simp only [State.advanceInvalidate] at stepped
      split at stepped
      · next isStored =>
          cases stepped
          exact .inr ⟨isStored, rfl⟩
      · cases stepped
        exact .inl rfl
  | closing =>
      cases stepped
      exact .inl (by simp)
  | joining =>
      cases stepped
      exact .inl rfl
  | returned => cases stepped

private theorem past_of_advance {failed : SessionRef}
    {former phase : InvalidatePhase}
    (stepped : state.advanceInvalidate id failed former = some after)
    (called : after.calls id = some (.invalidate failed phase))
    (past : phase.past = true) :
    former.past = true ∨ after.session ≠ some failed := by
  cases former with
  | locking =>
      obtain ⟨locked, acquired, rfl⟩ := Option.map_eq_some_iff.mp stepped
      simp only [State.setCall_calls, Function.update_self] at called
      cases called
      cases past
  | holding =>
      simp only [State.advanceInvalidate] at stepped
      split at stepped
      · cases stepped
        right
        intro impossible
        cases impossible
      · next different =>
          cases stepped
          exact .inr different
  | closing => exact .inl rfl
  | joining => exact .inl rfl
  | returned => cases stepped

/-- Past its look at the stored session, `invalidate` was so before, or the
failed session is not stored now. -/
theorem invalidate_past {action : Action} {failed : SessionRef}
    {former phase : InvalidatePhase} (guarded : Guarded state)
    (stepped : Manager.next state action = some after)
    (numbered : Numbered state)
    (present : state.calls id = some (.invalidate failed former))
    (called : after.calls id = some (.invalidate failed phase))
    (past : phase.past = true) :
    former.past = true ∨ after.session ≠ some failed := by
  have unmoved : after.calls id = state.calls id → former.past = true := by
    intro same
    rw [same, present] at called
    cases called
    exact past
  have unlisted : ∀ other call, Places state after other call → id ≠ other →
      former.past = true := by
    intro other call places different
    apply unmoved
    rw [places.calls, Function.update_of_ne different]
  have dropped : Surrounds state after → former.past = true := by
    intro surrounds
    apply unmoved
    rw [surrounds.calls id _ called, called]
  cases action with
  | call request =>
      cases stepped
      refine .inl (unlisted _ _ (places_call state request) ?_)
      intro same
      rw [numbered id (Nat.le_of_eq same.symm)] at present
      cases present
  | advance mover =>
      by_cases mine : id = mover
      · subst mine
        simp only [Manager.next, State.advance, present] at stepped
        exact past_of_advance stepped called past
      · obtain ⟨call, places⟩ := places_advance stepped
        exact .inl (unlisted _ _ places mine)
  | establish mover result =>
      simp only [Manager.next] at stepped
      split at stepped
      · next establishing =>
          obtain ⟨call, places⟩ := places_establish guarded establishing stepped
          refine .inl (unlisted _ _ places ?_)
          intro mine
          rw [← mine, present] at establishing
          cases establishing
      · cases stepped
  | cancel mover => exact .inl (dropped (surrounds_cancel stepped))
  | updateEndpoints endpoints =>
      cases stepped
      exact .inl (unmoved rfl)
  | vipUpdate session current =>
      exact .inl (dropped (surrounds_applyVipUpdate stepped))
  | sessionFails session =>
      exact .inl (dropped (surrounds_failSession stepped))

end

theorem placed_new (nodeGroupId : String) (endpoints : List L3NodeEndpoint) :
    Placed (new nodeGroupId endpoints) where
  stored session isStored := by cases isStored
  handed id call session found := by cases found

theorem numbered_new (nodeGroupId : String)
    (endpoints : List L3NodeEndpoint) : Numbered (new nodeGroupId endpoints) :=
  fun _ _ => rfl

end HermesAtrust.L3.Manager
