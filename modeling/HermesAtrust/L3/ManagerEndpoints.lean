import HermesAtrust.L3.ManagerRetirement

/-!
# Where the endpoints of a manager's sessions come from

A manager connects only to endpoints that it was given: a call of `session`
copies the list that the manager has when it begins to connect, and a session
keeps the endpoint that it was established to.  So from the moment on at which
a manager has no live session, no attempt and no list but with allowed
endpoints, its live sessions are with allowed endpoints as long as the lists
that it is given consist of them.
-/

namespace HermesAtrust.L3.Manager

/-- The endpoints that a call of `session` tries. -/
def Call.connects : Call → Option (List L3NodeEndpoint)
  | .session (.connecting endpoints _ _) => some endpoints
  | _ => none

/-- The calls try allowed endpoints only, and the sessions that are not closed
were established to such. -/
structure Engaged (allowed : L3NodeEndpoint → Prop) (state : State) :
    Prop where
  calls :
    ∀ id call endpoints, state.calls id = some call →
      call.connects = some endpoints →
      ∀ endpoint ∈ endpoints, allowed endpoint
  sessions :
    ∀ session view, state.sessions session = some view →
      view.closed = false → allowed view.endpoint

/-- The list of the manager consists of allowed endpoints, too. -/
structure Within (allowed : L3NodeEndpoint → Prop) (state : State) : Prop
    extends Engaged allowed state where
  endpoints : ∀ endpoint ∈ state.endpoints, allowed endpoint

/-- The manager is given a list of allowed endpoints only. -/
def Supplies (allowed : L3NodeEndpoint → Prop) : Action → Prop
  | .updateEndpoints endpoints => ∀ endpoint ∈ endpoints, allowed endpoint
  | _ => True

theorem within_new {allowed : L3NodeEndpoint → Prop} (nodeGroupId : String)
    {endpoints : List L3NodeEndpoint}
    (supplied : ∀ endpoint ∈ endpoints, allowed endpoint) :
    Within allowed (new nodeGroupId endpoints) where
  endpoints := by
    intro endpoint listed
    exact supplied endpoint (mem_deduplicateEndpoints.mp listed)
  calls := by
    intro id call endpoints found
    cases found
  sessions := by
    intro session view found
    cases found

/-- Every session of the later state was there before, with the same endpoint,
and was not closed unless it is now. -/
def KeepsEndpoints (state after : State) : Prop :=
  ∀ session view, after.sessions session = some view →
    ∃ old, state.sessions session = some old ∧
      view.endpoint = old.endpoint ∧
      (view.closed = false → old.closed = false)

section

variable {allowed : L3NodeEndpoint → Prop} {state after : State}
  {id : CallId}

theorem keepsEndpoints_of_eq (same : after.sessions = state.sessions) :
    KeepsEndpoints state after := by
  intro session view found
  rw [same] at found
  exact ⟨view, found, rfl, id⟩

theorem keepsEndpoints_requestClose (session : SessionRef)
    (same : after.sessions = (state.requestClose session).sessions) :
    KeepsEndpoints state after := by
  intro other view found
  rw [same, State.requestClose_sessions] at found
  by_cases equal : other = session
  · rw [if_pos equal, Option.map_eq_some_iff] at found
    obtain ⟨old, stored, rfl⟩ := found
    rw [equal]
    refine ⟨old, stored, rfl, ?_⟩
    intro opened
    cases opened
  · rw [if_neg equal] at found
    exact ⟨view, found, rfl, id⟩

theorem keepsEndpoints_replace {session : SessionRef} {old new : SessionView}
    (stored : state.sessions session = some old)
    (same :
      after.sessions = Function.update state.sessions session (some new))
    (endpoint : new.endpoint = old.endpoint)
    (opened : new.closed = false → old.closed = false) :
    KeepsEndpoints state after := by
  intro other view found
  rw [same, Function.update_apply] at found
  by_cases equal : other = session
  · rw [if_pos equal] at found
    cases found
    rw [equal]
    exact ⟨old, stored, endpoint, opened⟩
  · rw [if_neg equal] at found
    exact ⟨view, found, rfl, id⟩

theorem Within.sessions_of_keeps (within : Within allowed state)
    (sessions : KeepsEndpoints state after) :
    ∀ session view, after.sessions session = some view →
      view.closed = false → allowed view.endpoint := by
  intro session view found opened
  obtain ⟨old, stored, same, before⟩ := sessions session view found
  rw [same]
  exact within.sessions session old stored (before opened)

/-- A call moves on; the endpoints that it tries then are allowed. -/
theorem Within.moves (within : Within allowed state) {call : Call}
    (calls : after.calls = Function.update state.calls id (some call))
    (endpoints : after.endpoints = state.endpoints)
    (sessions : KeepsEndpoints state after)
    (own :
      ∀ tried, call.connects = some tried →
        ∀ endpoint ∈ tried, allowed endpoint) :
    Within allowed after where
  endpoints := by
    rw [endpoints]
    exact within.endpoints
  calls := by
    intro other held tried found connects
    rw [calls, Function.update_apply] at found
    by_cases same : other = id
    · rw [if_pos same] at found
      cases found
      exact own tried connects
    · rw [if_neg same] at found
      exact within.calls other held tried found connects
  sessions := within.sessions_of_keeps sessions

/-- A call moves on and does not connect. -/
theorem Within.passes (within : Within allowed state) {call : Call}
    (calls : after.calls = Function.update state.calls id (some call))
    (endpoints : after.endpoints = state.endpoints)
    (sessions : KeepsEndpoints state after)
    (idle : call.connects = none) : Within allowed after := by
  refine within.moves calls endpoints sessions ?_
  intro tried connects
  rw [idle] at connects
  cases connects

theorem Within.setCall (within : Within allowed state) {call : Call}
    (idle : call.connects = none) :
    Within allowed (state.setCall id call) :=
  within.passes rfl rfl (keepsEndpoints_of_eq rfl) idle

theorem Within.unlock (within : Within allowed state) {call : Call}
    (idle : call.connects = none) :
    Within allowed (state.unlock.setCall id call) :=
  within.passes rfl rfl (keepsEndpoints_of_eq rfl) idle

theorem Within.lock (within : Within allowed state) {call : Call}
    (idle : call.connects = none)
    (stepped :
      ((state.lock id).map fun locked => locked.setCall id call) =
        some after) :
    Within allowed after := by
  obtain ⟨locked, acquired, rfl⟩ := Option.map_eq_some_iff.mp stepped
  obtain ⟨-, rfl⟩ := lock_eq_some acquired
  exact within.passes rfl rfl (keepsEndpoints_of_eq rfl) idle

theorem Within.advanceSession (within : Within allowed state)
    {phase : SessionPhase}
    (stepped : state.advanceSession id phase = some after) :
    Within allowed after := by
  cases phase with
  | starting =>
      simp only [State.advanceSession] at stepped
      split at stepped
      · cases stepped
        exact within.setCall rfl
      · cases stepped
        exact within.setCall rfl
  | locking => exact within.lock rfl stepped
  | locked =>
      simp only [State.advanceSession] at stepped
      split at stepped
      · cases stepped
        exact within.unlock rfl
      · cases stepped
        exact within.setCall rfl
  | checked =>
      simp only [State.advanceSession] at stepped
      split at stepped
      · cases stepped
        exact within.setCall rfl
      · next session stored =>
          split at stepped
          · cases stepped
            refine @Within.passes allowed state _ id within
              (.session .closing) (by simp) (by simp)
              (keepsEndpoints_requestClose session ?_) rfl
            exact State.requestClose_sessions_congr state session rfl
          · cases stepped
            exact within.unlock rfl
  | closing =>
      cases stepped
      exact within.setCall rfl
  | resting =>
      simp only [State.advanceSession] at stepped
      split at stepped
      · cases stepped
        exact within.unlock rfl
      · cases stepped
        refine within.moves rfl rfl (keepsEndpoints_of_eq rfl) ?_
        intro tried connects
        cases connects
        exact within.endpoints
  | connecting endpoints start offset => cases stepped
  | connected session index count =>
      simp only [State.advanceSession] at stepped
      split at stepped
      · cases stepped
        exact @Within.passes allowed state _ id within
          (.session (.returned (.error .retired))) (by simp [State.unlock])
          (by simp [State.unlock]) (keepsEndpoints_requestClose session rfl)
          rfl
      · cases stepped
        exact within.setCall rfl
  | storing session index count =>
      simp only [State.advanceSession] at stepped
      split at stepped
      · cases stepped
      · cases stepped
        exact within.passes rfl rfl (keepsEndpoints_of_eq rfl) rfl
  | returned result => cases stepped

theorem Within.establish (within : Within allowed state)
    {phase : SessionPhase} {result : Except EstablishError Ipv4Addr}
    (called : state.calls id = some (.session phase))
    (stepped : state.establish id result phase = some after) :
    Within allowed after := by
  cases phase with
  | connecting endpoints start offset =>
      have tried := within.calls id _ endpoints called rfl
      simp only [State.establish] at stepped
      split at stepped
      · cases stepped
      · next endpoint chosen =>
          have listed : endpoint ∈ endpoints := List.mem_of_getElem? chosen
          split at stepped
          · next vip =>
              cases stepped
              have before : Within allowed (state.setCall id
                  (.session (.connected state.nextSession
                    ((start + offset) % endpoints.length)
                    endpoints.length))) :=
                within.setCall rfl
              refine ⟨⟨before.calls, ?_⟩, before.endpoints⟩
              intro session view found opened
              change Function.update state.sessions state.nextSession _
                session = some view at found
              rw [Function.update_apply] at found
              split at found
              · cases found
                exact tried endpoint listed
              · exact within.sessions session view found opened
          · next error =>
              split at stepped
              · split at stepped
                · cases stepped
                  refine within.moves rfl rfl (keepsEndpoints_of_eq rfl) ?_
                  intro again connects
                  cases connects
                  exact tried
                · cases stepped
                  exact within.passes rfl rfl (keepsEndpoints_of_eq rfl) rfl
              · cases stepped
                exact within.unlock rfl
  | _ => cases stepped

theorem Within.advanceInvalidate (within : Within allowed state)
    {failed : SessionRef} {phase : InvalidatePhase}
    (stepped : state.advanceInvalidate id failed phase = some after) :
    Within allowed after := by
  cases phase with
  | locking => exact within.lock rfl stepped
  | holding =>
      simp only [State.advanceInvalidate] at stepped
      split at stepped
      · cases stepped
        exact within.passes rfl rfl (keepsEndpoints_of_eq rfl) rfl
      · cases stepped
        exact within.unlock rfl
  | closing =>
      cases stepped
      exact @Within.passes allowed state _ id within
        (.invalidate failed .joining) (by simp) (by simp)
        (keepsEndpoints_requestClose failed rfl) rfl
  | joining =>
      cases stepped
      exact within.passes rfl rfl (keepsEndpoints_of_eq rfl) rfl
  | returned => cases stepped

theorem Within.advanceClose (within : Within allowed state)
    {phase : ClosePhase}
    (stepped : state.advanceClose id phase = some after) :
    Within allowed after := by
  cases phase with
  | locking => exact within.lock rfl stepped
  | holding =>
      simp only [State.advanceClose] at stepped
      split at stepped
      · cases stepped
        exact within.unlock rfl
      · next session stored =>
          cases stepped
          refine @Within.passes allowed state _ id within (.close .closing)
            (by simp) (by simp) (keepsEndpoints_requestClose session ?_) rfl
          exact State.requestClose_sessions_congr state session rfl
  | closing =>
      cases stepped
      exact within.passes rfl rfl (keepsEndpoints_of_eq rfl) rfl
  | returned => cases stepped

theorem Within.advanceRetire (within : Within allowed state)
    {phase : RetirePhase}
    (stepped : state.advanceRetire id phase = some after) :
    Within allowed after := by
  cases phase with
  | starting =>
      cases stepped
      exact within.passes rfl rfl (keepsEndpoints_of_eq rfl) rfl
  | tryingLock =>
      simp only [State.advanceRetire] at stepped
      split at stepped
      · cases stepped
        exact within.passes rfl rfl (keepsEndpoints_of_eq rfl) rfl
      · cases stepped
        exact within.setCall rfl
  | holding =>
      simp only [State.advanceRetire] at stepped
      split at stepped
      · cases stepped
        exact within.unlock rfl
      · next session stored =>
          cases stepped
          exact @Within.passes allowed state _ id within (.retire .returned)
            (by simp [State.unlock]) (by simp [State.unlock])
            (keepsEndpoints_requestClose session rfl) rfl
  | returned => cases stepped

theorem Within.advance (within : Within allowed state)
    (stepped : state.advance id = some after) : Within allowed after := by
  unfold State.advance at stepped
  split at stepped
  · cases stepped
  · exact within.advanceSession stepped
  · next phase called =>
      cases phase with
      | locking => exact within.lock rfl stepped
      | holding =>
          cases stepped
          exact within.unlock rfl
      | returned session => cases stepped
  · next phase called =>
      cases phase with
      | locking => exact within.lock rfl stepped
      | holding =>
          cases stepped
          exact within.unlock rfl
      | returned vip => cases stepped
  · exact within.advanceInvalidate stepped
  · exact within.advanceClose stepped
  · exact within.advanceRetire stepped

/-- An action that drops a call at most and keeps the endpoints. -/
theorem Within.surrounds (within : Within allowed state)
    (surrounds : Surrounds state after)
    (endpoints : after.endpoints = state.endpoints)
    (sessions : KeepsEndpoints state after) : Within allowed after where
  endpoints := by
    rw [endpoints]
    exact within.endpoints
  calls := by
    intro other held tried found connects
    exact within.calls other held tried
      (surrounds.calls other held found) connects
  sessions := within.sessions_of_keeps sessions

/-- A manager that is given allowed endpoints only has sessions with allowed
endpoints only. -/
theorem within_next {action : Action} (within : Within allowed state)
    (supplied : Supplies allowed action)
    (stepped : next state action = some after) : Within allowed after := by
  cases action with
  | call request =>
      cases stepped
      refine within.passes rfl rfl (keepsEndpoints_of_eq rfl) ?_
      cases request <;> rfl
  | advance id => exact within.advance stepped
  | establish id result =>
      simp only [next] at stepped
      split at stepped
      · next phase called => exact within.establish called stepped
      · cases stepped
  | cancel id =>
      have surrounds := surrounds_cancel stepped
      simp only [next, State.cancel] at stepped
      split at stepped
      · cases stepped
      · split at stepped
        · cases stepped
          exact within.surrounds surrounds rfl (keepsEndpoints_of_eq rfl)
        · cases stepped
  | updateEndpoints endpoints =>
      cases stepped
      refine ⟨⟨within.calls, within.sessions⟩, ?_⟩
      intro endpoint listed
      exact supplied endpoint (mem_deduplicateEndpoints.mp listed)
  | vipUpdate session current =>
      have surrounds := surrounds_applyVipUpdate stepped
      simp only [next, State.applyVipUpdate] at stepped
      split at stepped
      · cases stepped
      · next view found =>
          split at stepped
          · cases stepped
            exact within
          · cases stepped
            exact within.surrounds surrounds rfl
              (keepsEndpoints_replace found rfl rfl id)
  | sessionFails session =>
      have surrounds := surrounds_failSession stepped
      simp only [next, State.failSession] at stepped
      split at stepped
      · cases stepped
      · next view found =>
          cases stepped
          refine within.surrounds surrounds rfl
            (keepsEndpoints_replace found rfl rfl ?_)
          intro opened
          cases opened

end

end HermesAtrust.L3.Manager
