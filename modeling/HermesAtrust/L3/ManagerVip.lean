import HermesAtrust.L3.ManagerRetirement

/-!
# The VIP in effect and its changes

A session manager tells its observers when the VIP of its node group changes.
The VIP in effect is the one of the session that was stored last, with the
changes that the node has made to it since, whether or not the session is still
there.  The manager itself remembers a VIP when it stores a session, and
refreshes it on two of the three ways on which it gives a session up: `close`
is the third.

`Observed` runs a manager together with a note of the session it has stored
last.
-/

namespace HermesAtrust.L3.Manager

open HermesAtrust.Concurrency

/-- A manager and the session that it has stored last. -/
structure Observed where
  manager : State
  latest : Option SessionRef

/-- Observe a manager from the start. -/
def observed (nodeGroupId : String) (endpoints : List L3NodeEndpoint) :
    Observed :=
  ⟨new nodeGroupId endpoints, none⟩

/-- One action under observation. -/
def observe (state : Observed) (action : Action) : Option Observed :=
  (next state.manager action).map fun after =>
    ⟨after, after.session.or state.latest⟩

/-- Observing a manager does not change its runs. -/
theorem run_observe (start : Observed) (actions : List Action) :
    (run observe start actions).map Observed.manager =
      run next start.manager actions := by
  induction actions generalizing start with
  | nil => rfl
  | cons action later inductionHypothesis =>
      simp only [run, observe]
      cases next start.manager action with
      | none => rfl
      | some after => exact inductionHypothesis _

/-- The VIP in effect. -/
def Observed.inEffect (state : Observed) : Option Ipv4Addr :=
  state.latest.bind state.manager.vip

def ManagerEvent.changesVip : ManagerEvent → Bool
  | .vipChanged _ _ _ => true
  | _ => false

/-- The event that is due when the VIP in effect goes from one to another. -/
def changeEvent (nodeGroupId : String) :
    Option Ipv4Addr → Option Ipv4Addr → List ManagerEvent
  | some previous, some current =>
      if previous ≠ current then
        [.vipChanged nodeGroupId previous current]
      else
        []
  | _, _ => []

theorem changeEvent_self (nodeGroupId : String) (vip : Option Ipv4Addr) :
    changeEvent nodeGroupId vip vip = [] := by
  cases vip with
  | none => rfl
  | some current => exact if_neg fun different => different rfl

/-- `close` takes a session whose VIP is the remembered one, and a node changes
the VIP of a session only while it is the stored one. -/
def RemembersVip (state : State) : Action → Prop
  | .advance id =>
      state.calls id = some (.close .holding) →
        ∀ session, state.session = some session →
          state.vip session = state.lastVip
  | .vipUpdate session current =>
      ∀ view, state.sessions session = some view → view.vip ≠ current →
        state.session = some session
  | _ => True

/-! ## What one action does to sessions, VIPs and events -/

/-- All sessions keep their VIPs. -/
def KeepsVips (state after : State) : Prop :=
  ∀ session view, state.sessions session = some view →
    after.vip session = some view.vip

inductive Effect (state : State) (action : Action) (after : State) :
    Prop where
  | quiet (emitted : List ManagerEvent)
      (session : after.session = state.session)
      (lastVip : after.lastVip = state.lastVip)
      (vips : KeepsVips state after)
      (events : after.events = state.events ++ emitted)
      (silent : emitted.filter ManagerEvent.changesVip = [])
  | taken (taken : SessionRef) (stored : state.session = some taken)
      (session : after.session = none)
      (lastVip : after.lastVip = state.vip taken)
      (vips : KeepsVips state after) (events : after.events = state.events)
  | closed (id : CallId) (taken : SessionRef)
      (advances : action = .advance id)
      (called : state.calls id = some (.close .holding))
      (stored : state.session = some taken) (session : after.session = none)
      (lastVip : after.lastVip = state.lastVip)
      (vips : KeepsVips state after) (events : after.events = state.events)
  | stored (id : CallId) (call : Call) (new : SessionRef)
      (view : SessionView) (called : state.calls id = some call)
      (storing : call.storing = true)
      (returned : after.calls id = some (.session (.returned (.ok new))))
      (vacant : state.session = none)
      (found : state.sessions new = some view)
      (session : after.session = some new)
      (lastVip : after.lastVip = some view.vip)
      (sessions : after.sessions = state.sessions)
      (events :
        after.events = state.events ++
          .sessionEstablished state.nodeGroupId view.endpoint view.vip ::
            changeEvent state.nodeGroupId state.lastVip (some view.vip))
  | updated (changed : SessionRef) (view : SessionView) (current : Ipv4Addr)
      (updates : action = .vipUpdate changed current)
      (found : state.sessions changed = some view)
      (different : view.vip ≠ current)
      (session : after.session = state.session)
      (lastVip : after.lastVip = state.lastVip)
      (sessions :
        after.sessions =
          Function.update state.sessions changed
            (some { view with vip := current }))
      (events :
        after.events = state.events ++
          [.vipChanged state.nodeGroupId view.vip current])

/-- The phases in which a call of `session` has found no session to keep. -/
def Call.vacant : Call → Bool
  | .session .closing => true
  | .session .resting => true
  | .session (.connecting _ _ _) => true
  | .session (.connected _ _ _) => true
  | .session (.storing _ _ _) => true
  | _ => false

/-- No session is stored while a call is about to establish one. -/
def Vacant (state : State) : Prop :=
  ∀ id call, state.calls id = some call → call.vacant = true →
    state.session = none

/-- What one action does, and that a call comes to establish a session only
when there is none. -/
structure Turn (state : State) (action : Action) (after : State) :
    Prop where
  effect : Effect state action after
  vacant :
    ∀ id call, after.calls id = some call → call.vacant = true →
      after.calls id = state.calls id ∨ after.session = none

section

variable {state after : State} {action : Action} {id : CallId}

theorem keepsVips_of_eq (same : after.sessions = state.sessions) :
    KeepsVips state after := by
  intro session view found
  rw [State.vip, same, found]
  rfl

theorem keepsVips_requestClose (session : SessionRef)
    (same : after.sessions = (state.requestClose session).sessions) :
    KeepsVips state after := by
  intro other view found
  rw [State.vip, same, State.requestClose_sessions]
  by_cases equal : other = session
  · rw [if_pos equal, ← equal, found]
    rfl
  · rw [if_neg equal, found]
    rfl

/-- A call moves on and leaves the sessions and the VIP alone. -/
theorem turn_emits {call : Call} {emitted : List ManagerEvent}
    (calls : after.calls = Function.update state.calls id (some call))
    (session : after.session = state.session)
    (lastVip : after.lastVip = state.lastVip)
    (vips : KeepsVips state after)
    (events : after.events = state.events ++ emitted)
    (silent : emitted.filter ManagerEvent.changesVip = [])
    (vacant : call.vacant = true → state.session = none) :
    Turn state action after where
  effect := .quiet emitted session lastVip vips events silent
  vacant := by
    intro other held found isVacant
    rw [calls, Function.update_apply] at found ⊢
    by_cases same : other = id
    · rw [if_pos same] at found
      cases found
      exact .inr (session.trans (vacant isVacant))
    · rw [if_neg same]
      exact .inl rfl

theorem turn_quiet {call : Call}
    (calls : after.calls = Function.update state.calls id (some call))
    (session : after.session = state.session)
    (lastVip : after.lastVip = state.lastVip)
    (vips : KeepsVips state after) (events : after.events = state.events)
    (vacant : call.vacant = true → state.session = none) :
    Turn state action after :=
  turn_emits calls session lastVip vips
    (events.trans (List.append_nil _).symm) rfl vacant

/-- A call moves on and changes nothing else but the lock. -/
theorem turn_stay {call : Call} {middle : State}
    (moved : after = middle.setCall id call)
    (calls : middle.calls = state.calls)
    (session : middle.session = state.session)
    (lastVip : middle.lastVip = state.lastVip)
    (sessions : middle.sessions = state.sessions)
    (events : middle.events = state.events)
    (vacant : call.vacant = true → state.session = none) :
    Turn state action after := by
  have updated :
      (middle.setCall id call).calls =
        Function.update state.calls id (some call) := by
    rw [State.setCall_calls, calls]
  rw [moved]
  exact turn_quiet updated session lastVip (keepsVips_of_eq sessions) events
    vacant

theorem turn_setCall {call : Call}
    (vacant : call.vacant = true → state.session = none) :
    Turn state action (state.setCall id call) :=
  turn_stay rfl rfl rfl rfl rfl rfl vacant

theorem turn_unlock {call : Call}
    (vacant : call.vacant = true → state.session = none) :
    Turn state action (state.unlock.setCall id call) :=
  turn_stay rfl rfl rfl rfl rfl rfl vacant

/-- A call that is not about to establish a session. -/
theorem idle {call : Call} (notVacant : call.vacant = false) :
    call.vacant = true → state.session = none := by
  intro isVacant
  rw [notVacant] at isVacant
  cases isVacant

theorem turn_lock {call : Call} (notVacant : call.vacant = false)
    (stepped :
      ((state.lock id).map fun locked => locked.setCall id call) =
        some after) :
    Turn state action after := by
  obtain ⟨locked, acquired, rfl⟩ := Option.map_eq_some_iff.mp stepped
  obtain ⟨-, rfl⟩ := lock_eq_some acquired
  exact turn_stay rfl rfl rfl rfl rfl rfl (idle notVacant)

/-- What `report_established` says about the remembered VIP. -/
theorem reported_eq_changeEvent (state : State) (vip : Ipv4Addr) :
    (match state.lastVip with
      | none => []
      | some previous =>
          if previous ≠ vip then
            [.vipChanged state.nodeGroupId previous vip]
          else
            []) =
      changeEvent state.nodeGroupId state.lastVip (some vip) := by
  cases state.lastVip with
  | none => rfl
  | some previous => rfl

theorem turn_advanceSession {phase : SessionPhase} (vacant : Vacant state)
    (called : state.calls id = some (.session phase))
    (stepped : state.advanceSession id phase = some after) :
    Turn state action after := by
  cases phase with
  | starting =>
      simp only [State.advanceSession] at stepped
      split at stepped
      · cases stepped
        exact turn_setCall (idle rfl)
      · cases stepped
        exact turn_setCall (idle rfl)
  | locking => exact turn_lock rfl stepped
  | locked =>
      simp only [State.advanceSession] at stepped
      split at stepped
      · cases stepped
        exact turn_unlock (idle rfl)
      · cases stepped
        exact turn_setCall (idle rfl)
  | checked =>
      simp only [State.advanceSession] at stepped
      split at stepped
      · next empty =>
          cases stepped
          exact turn_setCall fun _ => empty
      · next session stored =>
          split at stepped
          · cases stepped
            refine ⟨.taken session stored (by simp) (by simp)
              (keepsVips_requestClose session ?_) (by simp), ?_⟩
            · exact State.requestClose_sessions_congr state session rfl
            · intro _ _ _ _
              exact .inr (by simp)
          · cases stepped
            exact turn_unlock (idle rfl)
  | closing =>
      cases stepped
      exact turn_setCall fun _ => vacant id _ called rfl
  | resting =>
      simp only [State.advanceSession] at stepped
      split at stepped
      · cases stepped
        exact turn_unlock (idle rfl)
      · cases stepped
        exact turn_setCall fun _ =>
          vacant id _ called rfl
  | connecting endpoints start offset => cases stepped
  | connected session index count =>
      simp only [State.advanceSession] at stepped
      split at stepped
      · cases stepped
        exact @turn_quiet state _ action id
          (.session (.returned (.error .retired))) (by simp [State.unlock])
          (by simp [State.unlock]) (by simp [State.unlock])
          (keepsVips_requestClose session rfl) (by simp [State.unlock])
          (idle rfl)
      · cases stepped
        exact turn_setCall fun _ =>
          vacant id _ called rfl
  | storing session index count =>
      simp only [State.advanceSession] at stepped
      cases found : state.sessions session with
      | none => simp [found] at stepped
      | some view =>
          simp only [found, Option.some.injEq] at stepped
          subst stepped
          refine ⟨.stored id _ session view called rfl
            (Function.update_self _ _ _) (vacant id _ called rfl) found rfl
            rfl rfl ?_, ?_⟩
          · exact congrArg
              (fun change => state.events ++
                .sessionEstablished state.nodeGroupId view.endpoint view.vip ::
                  change)
              (reported_eq_changeEvent state view.vip)
          · intro other held listed isVacant
            change Function.update state.calls id _ other = some held at listed
            change Function.update state.calls id _ other = _ ∨ _
            rw [Function.update_apply] at listed ⊢
            by_cases same : other = id
            · rw [if_pos same] at listed
              cases listed
              cases isVacant
            · rw [if_neg same]
              exact .inl rfl
  | returned result => cases stepped

theorem turn_establish {phase : SessionPhase}
    {result : Except EstablishError Ipv4Addr} (guarded : Guarded state)
    (vacant : Vacant state)
    (called : state.calls id = some (.session phase))
    (stepped : state.establish id result phase = some after) :
    Turn state action after := by
  cases phase with
  | connecting endpoints start offset =>
      have empty := vacant id _ called rfl
      simp only [State.establish] at stepped
      split at stepped
      · cases stepped
      · next endpoint chosen =>
          split at stepped
          · next vip =>
              cases stepped
              refine turn_quiet rfl rfl rfl ?_ rfl fun _ => empty
              intro session view found
              have different : session ≠ state.nextSession := by
                intro same
                rw [same, guarded.fresh _ (Nat.le_refl _)] at found
                cases found
              change (Function.update state.sessions state.nextSession _
                session).map SessionView.vip = _
              rw [Function.update_of_ne different, found]
              rfl
          · next error =>
              split at stepped
              · split at stepped
                · cases stepped
                  exact turn_emits rfl rfl rfl (keepsVips_of_eq rfl) rfl rfl
                    fun _ => empty
                · cases stepped
                  exact turn_emits rfl rfl rfl (keepsVips_of_eq rfl) rfl rfl
                    (idle rfl)
              · cases stepped
                exact turn_unlock (idle rfl)
  | _ => cases stepped

theorem turn_advanceInvalidate {failed : SessionRef}
    {phase : InvalidatePhase}
    (stepped : state.advanceInvalidate id failed phase = some after) :
    Turn state action after := by
  cases phase with
  | locking => exact turn_lock rfl stepped
  | holding =>
      simp only [State.advanceInvalidate] at stepped
      split at stepped
      · next stored =>
          cases stepped
          exact ⟨.taken failed stored rfl rfl (keepsVips_of_eq rfl) rfl,
            fun _ _ _ _ => .inr rfl⟩
      · cases stepped
        exact turn_unlock (idle rfl)
  | closing =>
      cases stepped
      exact @turn_quiet state _ action id (.invalidate failed .joining)
        (by simp) (by simp) (by simp) (keepsVips_requestClose failed rfl)
        (by simp) (idle rfl)
  | joining =>
      cases stepped
      exact turn_emits rfl rfl rfl (keepsVips_of_eq rfl) rfl rfl (idle rfl)
  | returned => cases stepped

theorem turn_advanceClose {phase : ClosePhase}
    (called : state.calls id = some (.close phase))
    (stepped : state.advanceClose id phase = some after) :
    Turn state (.advance id) after := by
  cases phase with
  | locking => exact turn_lock rfl stepped
  | holding =>
      simp only [State.advanceClose] at stepped
      split at stepped
      · cases stepped
        exact turn_unlock (idle rfl)
      · next session stored =>
          cases stepped
          refine ⟨.closed id session rfl called stored (by simp) (by simp)
            (keepsVips_requestClose session ?_) (by simp), ?_⟩
          · exact State.requestClose_sessions_congr state session rfl
          · intro _ _ _ _
            exact .inr (by simp)
  | closing =>
      cases stepped
      exact turn_emits rfl rfl rfl (keepsVips_of_eq rfl) rfl rfl (idle rfl)
  | returned => cases stepped

theorem turn_advanceRetire {phase : RetirePhase}
    (stepped : state.advanceRetire id phase = some after) :
    Turn state action after := by
  cases phase with
  | starting =>
      cases stepped
      exact turn_stay rfl rfl rfl rfl rfl rfl (idle rfl)
  | tryingLock =>
      simp only [State.advanceRetire] at stepped
      split at stepped
      · cases stepped
        exact turn_stay rfl rfl rfl rfl rfl rfl (idle rfl)
      · cases stepped
        exact turn_setCall (idle rfl)
  | holding =>
      simp only [State.advanceRetire] at stepped
      split at stepped
      · cases stepped
        exact turn_unlock (idle rfl)
      · next session stored =>
          cases stepped
          exact @turn_quiet state _ action id (.retire .returned)
            (by simp [State.unlock]) (by simp [State.unlock])
            (by simp [State.unlock]) (keepsVips_requestClose session rfl)
            (by simp [State.unlock]) (idle rfl)
  | returned => cases stepped

theorem turn_advance (vacant : Vacant state)
    (stepped : state.advance id = some after) :
    Turn state (.advance id) after := by
  unfold State.advance at stepped
  split at stepped
  · cases stepped
  · next phase called => exact turn_advanceSession vacant called stepped
  · next phase called =>
      cases phase with
      | locking => exact turn_lock rfl stepped
      | holding =>
          cases stepped
          exact turn_unlock (idle rfl)
      | returned session => cases stepped
  · next phase called =>
      cases phase with
      | locking => exact turn_lock rfl stepped
      | holding =>
          cases stepped
          exact turn_unlock (idle rfl)
      | returned vip => cases stepped
  · next failed phase called => exact turn_advanceInvalidate stepped
  · next phase called => exact turn_advanceClose called stepped
  · next phase called => exact turn_advanceRetire stepped

/-- Actions that change no call but by dropping it. -/
theorem turn_of_surrounds (surrounds : Surrounds state after)
    (effect : Effect state action after) : Turn state action after where
  effect := effect
  vacant := by
    intro other held found _
    exact .inl (found.trans (surrounds.calls other held found).symm)

theorem effect_applyVipUpdate {session : SessionRef} {current : Ipv4Addr}
    (stepped : state.applyVipUpdate session current = some after) :
    Effect state (.vipUpdate session current) after := by
  unfold State.applyVipUpdate at stepped
  split at stepped
  · cases stepped
  · next view found =>
      split at stepped
      · cases stepped
        exact .quiet [] rfl rfl (keepsVips_of_eq rfl)
          (List.append_nil _).symm rfl
      · next different =>
          cases stepped
          exact .updated session view current rfl found different rfl rfl rfl
            rfl

theorem effect_failSession {session : SessionRef}
    (stepped : state.failSession session = some after) :
    Effect state action after := by
  unfold State.failSession at stepped
  split at stepped
  · cases stepped
  · next view found =>
      cases stepped
      refine .quiet [] rfl rfl ?_ (List.append_nil _).symm rfl
      intro other held listed
      change (Function.update state.sessions session _ other).map
        SessionView.vip = _
      rw [Function.update_apply]
      by_cases same : other = session
      · rw [if_pos same]
        rw [same, found] at listed
        cases listed
        rfl
      · rw [if_neg same, listed]
        rfl

theorem effect_cancel (stepped : state.cancel id = some after) :
    Effect state action after := by
  unfold State.cancel at stepped
  split at stepped
  · cases stepped
  · split at stepped
    · cases stepped
      exact .quiet [] rfl rfl (keepsVips_of_eq rfl) (List.append_nil _).symm
        rfl
    · cases stepped

theorem turn_next (guarded : Guarded state) (vacant : Vacant state)
    (stepped : next state action = some after) :
    Turn state action after := by
  cases action with
  | call request =>
      cases stepped
      refine turn_quiet rfl rfl rfl (keepsVips_of_eq rfl) rfl ?_
      cases request <;> exact idle rfl
  | advance id => exact turn_advance vacant stepped
  | establish id result =>
      simp only [next] at stepped
      split at stepped
      · next phase called => exact turn_establish guarded vacant called stepped
      · cases stepped
  | cancel id =>
      exact turn_of_surrounds (surrounds_cancel stepped)
        (effect_cancel stepped)
  | updateEndpoints endpoints =>
      cases stepped
      exact ⟨.quiet [] rfl rfl (keepsVips_of_eq rfl) (List.append_nil _).symm
        rfl, fun _ _ _ _ => .inl rfl⟩
  | vipUpdate session current =>
      exact turn_of_surrounds (surrounds_applyVipUpdate stepped)
        (effect_applyVipUpdate stepped)
  | sessionFails session =>
      exact turn_of_surrounds (surrounds_failSession stepped)
        (effect_failSession stepped)

end

/-! ## The remembered VIP -/

theorem holds_of_vacant {call : Call} (vacant : call.vacant = true) :
    call.holds = true := by
  cases call with
  | session phase =>
      cases phase with
      | starting => cases vacant
      | locking => cases vacant
      | returned result => cases vacant
      | _ => rfl
  | _ => cases vacant

theorem vacant_next {state after : State} {action : Action}
    (guarded : Guarded state) (vacant : Vacant state)
    (stepped : next state action = some after) : Vacant after := by
  obtain ⟨effect, moved⟩ := turn_next guarded vacant stepped
  intro id call found isVacant
  rcases moved id call found isVacant with same | empty
  · rw [same] at found
    have before := vacant id call found isVacant
    cases effect with
    | quiet emitted session => exact session.trans before
    | taken taken stored session => exact session
    | closed other taken advances called stored session => exact session
    | stored other storingCall new view called storing returned =>
        have mine := guarded.holder id call found (holds_of_vacant isVacant)
        have theirs :=
          guarded.holder other storingCall called (holds_of_storing storing)
        rw [mine] at theirs
        cases theirs
        rw [same, found] at returned
        cases returned
        cases isVacant
    | updated changed view current updates stored different session =>
        exact session.trans before
  · exact empty

/-- The manager remembers the VIP in effect whenever it has no session. -/
structure Remembered (state : Observed) : Prop where
  guarded : Guarded state.manager
  vacant : Vacant state.manager
  latest :
    ∀ session, state.manager.session = some session →
      state.latest = some session
  known :
    ∀ session, state.latest = some session →
      (state.manager.sessions session).isSome
  remembered :
    state.manager.session = none → state.manager.lastVip = state.inEffect

theorem remembered_observed (nodeGroupId : String)
    (endpoints : List L3NodeEndpoint) :
    Remembered (observed nodeGroupId endpoints) where
  guarded := guarded_new nodeGroupId endpoints
  vacant := by
    intro id call found
    cases found
  latest := by
    intro session stored
    cases stored
  known := by
    intro session stored
    cases stored
  remembered := fun _ => rfl

/-- The note of the last session after an action that stores none. -/
theorem Remembered.or_latest {state : Observed} (holds : Remembered state)
    {session : Option SessionRef}
    (kept : session = state.manager.session ∨ session = none) :
    session.or state.latest = state.latest := by
  rcases kept with same | gone
  · rw [same]
    cases stored : state.manager.session with
    | none => rfl
    | some taken => exact (holds.latest taken stored).symm
  · rw [gone]
    rfl

theorem inEffect_of_keepsVips {state : Observed} (holds : Remembered state)
    {after : State} (vips : KeepsVips state.manager after) :
    state.latest.bind after.vip = state.inEffect := by
  cases noted : state.latest with
  | none => simp [Observed.inEffect, noted]
  | some session =>
      obtain ⟨view, found⟩ :=
        Option.isSome_iff_exists.mp (holds.known session noted)
      have before : state.manager.vip session = some view.vip := by
        rw [State.vip, found]
        rfl
      simp only [Observed.inEffect, noted, Option.bind_some]
      rw [before]
      exact vips session view found

/-- An action after which the stored session is still there or given up, and
the VIPs of the sessions are what they were. -/
theorem Remembered.keeps {state : Observed} (holds : Remembered state)
    {manager : State} (guarded : Guarded manager) (vacant : Vacant manager)
    (session :
      manager.session = state.manager.session ∨ manager.session = none)
    (vips : KeepsVips state.manager manager)
    (remembered : manager.session = none → manager.lastVip = state.inEffect) :
    Remembered ⟨manager, manager.session.or state.latest⟩ ∧
      Observed.inEffect ⟨manager, manager.session.or state.latest⟩ =
        state.inEffect := by
  rw [holds.or_latest session]
  have same := inEffect_of_keepsVips holds vips
  refine ⟨⟨guarded, vacant, ?_, ?_, ?_⟩, same⟩
  · intro stored found
    change manager.session = some stored at found
    rcases session with kept | gone
    · rw [kept] at found
      exact holds.latest stored found
    · rw [gone] at found
      cases found
  · intro noted found
    obtain ⟨view, listed⟩ :=
      Option.isSome_iff_exists.mp (holds.known noted found)
    have still := vips noted view listed
    rw [State.vip, Option.map_eq_some_iff] at still
    obtain ⟨current, stored, -⟩ := still
    exact Option.isSome_iff_exists.mpr ⟨current, stored⟩
  · intro gone
    exact (remembered gone).trans same.symm

/-- What one observed action does to the VIP in effect. -/
theorem Remembered.step {state after : Observed} {action : Action}
    (holds : Remembered state) (met : RemembersVip state.manager action)
    (stepped : observe state action = some after) :
    Remembered after ∧
      ∃ emitted, after.manager.events = state.manager.events ++ emitted ∧
        emitted.filter ManagerEvent.changesVip =
          changeEvent state.manager.nodeGroupId state.inEffect
            after.inEffect := by
  obtain ⟨manager, moved, rfl⟩ := Option.map_eq_some_iff.mp stepped
  have guarded := guarded_next holds.guarded moved
  have vacant := vacant_next holds.guarded holds.vacant moved
  have inEffect_stored :
      ∀ session, state.manager.session = some session →
        state.inEffect = state.manager.vip session := by
    intro session stored
    rw [Observed.inEffect, holds.latest session stored]
    rfl
  cases (turn_next holds.guarded holds.vacant moved).effect with
  | quiet emitted session lastVip vips events silent =>
      obtain ⟨still, same⟩ :=
        holds.keeps guarded vacant (.inl session) vips fun gone =>
          lastVip.trans (holds.remembered (session.symm.trans gone))
      refine ⟨still, emitted, events, ?_⟩
      rw [same, changeEvent_self, silent]
  | taken taken stored session lastVip vips events =>
      obtain ⟨still, same⟩ :=
        holds.keeps guarded vacant (.inr session) vips fun _ =>
          lastVip.trans (inEffect_stored taken stored).symm
      refine ⟨still, [], events.trans (List.append_nil _).symm, ?_⟩
      rw [same, changeEvent_self]
      rfl
  | closed id taken advances called stored session lastVip vips events =>
      subst advances
      have agrees := met called taken stored
      obtain ⟨still, same⟩ :=
        holds.keeps guarded vacant (.inr session) vips fun _ =>
          lastVip.trans (agrees.symm.trans (inEffect_stored taken stored).symm)
      refine ⟨still, [], events.trans (List.append_nil _).symm, ?_⟩
      rw [same, changeEvent_self]
      rfl
  | stored id call new view called storing returned empty found session
      lastVip sessions events =>
      have vip : manager.vip new = some view.vip := by
        rw [State.vip, sessions, found]
        rfl
      have current :
          Observed.inEffect ⟨manager, manager.session.or state.latest⟩ =
            some view.vip := by
        rw [session]
        exact vip
      refine ⟨⟨guarded, vacant, ?_, ?_, ?_⟩, _, events, ?_⟩
      · intro other same
        change manager.session.or state.latest = some other
        rw [same]
        rfl
      · intro other noted
        change manager.session.or state.latest = some other at noted
        rw [session] at noted
        cases noted
        exact guarded.known new session
      · intro gone
        rw [session] at gone
        cases gone
      · rw [current, ← holds.remembered empty]
        cases state.manager.lastVip with
        | none => rfl
        | some previous =>
            simp only [changeEvent]
            split
            · rfl
            · rfl
  | updated changed view current updates found different session lastVip
      sessions events =>
      subst updates
      have stored := met view found different
      have before : state.inEffect = some view.vip := by
        rw [inEffect_stored changed stored, State.vip, found]
        rfl
      have after :
          Observed.inEffect ⟨manager, manager.session.or state.latest⟩ =
            some current := by
        rw [session, stored]
        change (manager.sessions changed).map SessionView.vip = some current
        rw [sessions, Function.update_self]
        rfl
      refine ⟨⟨guarded, vacant, ?_, ?_, ?_⟩, _, events, ?_⟩
      · intro other same
        change manager.session.or state.latest = some other
        rw [same]
        rfl
      · intro other noted
        change manager.session.or state.latest = some other at noted
        rw [session, stored] at noted
        cases noted
        exact guarded.known changed (session.trans stored)
      · intro gone
        rw [session, stored] at gone
        cases gone
      · rw [before, after, changeEvent, if_pos different]
        rfl

/-- In every run in which `close` takes only sessions whose VIP is the
remembered one, and a node changes the VIP of a session only while it is the
stored one: every action emits the event of the change of the VIP in effect, if
it changes, and no other such event.  The VIP in effect is the one of the
stored session, if there is one. -/
theorem vip_changes_are_told {nodeGroupId : String}
    {endpoints : List L3NodeEndpoint} {actions : List Action}
    {state : Observed}
    (meets :
      Meets observe (fun state => RemembersVip state.manager)
        (observed nodeGroupId endpoints) actions)
    (ran : run observe (observed nodeGroupId endpoints) actions = some state) :
    (∀ session, state.manager.session = some session →
        state.inEffect = state.manager.vip session) ∧
      ∀ action after, RemembersVip state.manager action →
        observe state action = some after →
        ∃ emitted, after.manager.events = state.manager.events ++ emitted ∧
          emitted.filter ManagerEvent.changesVip =
            changeEvent state.manager.nodeGroupId state.inEffect
              after.inEffect := by
  have holds : Remembered state :=
    invariant_of_meets Remembered (remembered_observed nodeGroupId endpoints)
      (fun _ _ _ holds met stepped => (holds.step met stepped).1) meets ran
  constructor
  · intro session stored
    rw [Observed.inEffect, holds.latest session stored]
    rfl
  · intro action after met stepped
    exact (holds.step met stepped).2

theorem vip_change_in_session_is_told :
    ∃ state after,
      run observe (observed "office" [⟨"node", 443⟩])
          (establishing ⟨10, 0, 0, 1⟩) = some state ∧
      observe state (.vipUpdate 0 ⟨10, 0, 0, 2⟩) = some after ∧
      ∃ emitted, after.manager.events = state.manager.events ++ emitted ∧
        emitted.filter ManagerEvent.changesVip =
          [.vipChanged "office" ⟨10, 0, 0, 1⟩ ⟨10, 0, 0, 2⟩] := by
  refine ⟨_, _, rfl, rfl, ?_⟩
  have meets :
      Meets observe (fun state => RemembersVip state.manager)
        (observed "office" [⟨"node", 443⟩])
        (establishing ⟨10, 0, 0, 1⟩) := by
    repeat' first
      | exact trivial
      | refine meets_cons ?_ rfl ?_
      | exact fun called => by cases called
  exact (vip_changes_are_told meets rfl).2 (.vipUpdate 0 ⟨10, 0, 0, 2⟩) _
    (fun _ _ _ => rfl) rfl

/-- The node changes the VIP of a session, which is then closed by `close`; the
next session has the VIP that the first one was established with, and nobody is
told. -/
theorem vip_change_after_close_is_not_told :
    ∃ before after,
      run observe (observed "office" [⟨"node", 443⟩])
          (establishing ⟨10, 0, 0, 1⟩ ++
            [.vipUpdate 0 ⟨10, 0, 0, 2⟩, .call .close, .advance 1, .advance 1,
              .advance 1, .call .session, .advance 2, .advance 2, .advance 2,
              .advance 2, .advance 2, .establish 2 (.ok ⟨10, 0, 0, 1⟩),
              .advance 2]) = some before ∧
      observe before (.advance 2) = some after ∧
      before.inEffect = some ⟨10, 0, 0, 2⟩ ∧
      after.inEffect = some ⟨10, 0, 0, 1⟩ ∧
      after.manager.session = some 1 ∧
      after.manager.events = before.manager.events ++
        [.sessionEstablished "office" ⟨"node", 443⟩ ⟨10, 0, 0, 1⟩] :=
  ⟨_, _, rfl, rfl, by decide +kernel, by decide +kernel, by decide +kernel,
    by decide +kernel⟩

end HermesAtrust.L3.Manager
