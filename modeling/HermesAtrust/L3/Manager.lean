import HermesAtrust.L3.Packet
import Mathlib.Logic.Function.Basic

/-!
# The session manager of a node group

Model of `L3SessionManager`.  Any number of calls run concurrently on one
manager.  The state behind the asynchronous mutex is what the source keeps in
`SessionState`; `holder` is the call that has the lock.  A call advances one
observable step at a time: a load of the `retired` flag, the acquisition of
the lock, the end of an `await`, or a block that nothing can interrupt because
the lock is held throughout.  `retire` only tries the lock.

Sessions are entries of a heap.  Of a session the manager sees its VIP, the
endpoint it was established to, whether it is closed, and here also whether it
was told to close.  The delays before a reconnect only postpone a step, and
the `failures` and `retry_at` that determine them are left out.
-/

namespace HermesAtrust.L3

/-- One data-plane endpoint advertised for a node group. -/
structure L3NodeEndpoint where
  host : String
  port : UInt16
  deriving DecidableEq, Repr

/-- The endpoints that were not seen before, in order. -/
def deduplicateFrom (seen : List L3NodeEndpoint) :
    List L3NodeEndpoint → List L3NodeEndpoint
  | [] => []
  | endpoint :: later =>
      if endpoint ∈ seen then
        deduplicateFrom seen later
      else
        endpoint :: deduplicateFrom (endpoint :: seen) later

/-- `deduplicate_endpoints`. -/
def deduplicateEndpoints (endpoints : List L3NodeEndpoint) :
    List L3NodeEndpoint :=
  deduplicateFrom [] endpoints

theorem mem_deduplicateFrom {seen endpoints : List L3NodeEndpoint}
    {endpoint : L3NodeEndpoint} :
    endpoint ∈ deduplicateFrom seen endpoints ↔
      endpoint ∈ endpoints ∧ endpoint ∉ seen := by
  induction endpoints generalizing seen with
  | nil => simp [deduplicateFrom]
  | cons head later inductionHypothesis =>
      by_cases known : head ∈ seen
      · rw [deduplicateFrom, if_pos known, inductionHypothesis, List.mem_cons]
        constructor
        · intro found
          exact ⟨.inr found.1, found.2⟩
        · intro found
          refine ⟨?_, found.2⟩
          rcases found.1 with rfl | inLater
          · exact absurd known found.2
          · exact inLater
      · rw [deduplicateFrom, if_neg known, List.mem_cons, inductionHypothesis,
          List.mem_cons, List.mem_cons]
        constructor
        · intro found
          rcases found with rfl | ⟨inLater, fresh⟩
          · exact ⟨.inl rfl, known⟩
          · exact ⟨.inr inLater, fun inSeen => fresh (.inr inSeen)⟩
        · intro found
          by_cases same : endpoint = head
          · exact .inl same
          · right
            rcases found.1 with equal | inLater
            · exact absurd equal same
            · exact ⟨inLater, fun either => either.elim same found.2⟩

/-- Deduplication changes the list, not the set. -/
theorem mem_deduplicateEndpoints {endpoints : List L3NodeEndpoint}
    {endpoint : L3NodeEndpoint} :
    endpoint ∈ deduplicateEndpoints endpoints ↔ endpoint ∈ endpoints := by
  rw [deduplicateEndpoints, mem_deduplicateFrom]
  simp

namespace Manager

/-- Position of a session in the heap. -/
abbrev SessionRef := Nat

/-- Position of a call among the calls made on the manager. -/
abbrev CallId := Nat

/-- What the manager can see of a session. -/
structure SessionView where
  vip : Ipv4Addr
  endpoint : L3NodeEndpoint
  closed : Bool
  told : Bool
  deriving DecidableEq, Repr

/-- Why a session could not be established. -/
inductive EstablishError where
  | tls
  | connectTimeout
  | getIpTimeout
  | getIpTls
  | getIpIo
  | other (code : Nat)
  deriving DecidableEq, Repr

/-- `establishment_is_retryable`. -/
def establishmentIsRetryable : EstablishError → Bool
  | .other _ => false
  | _ => true

inductive ManagerError where
  | retired
  | session (error : EstablishError)
  | noEndpoints (nodeGroupId : String)
  deriving DecidableEq, Repr

/-- The events a manager and its sessions emit. -/
inductive ManagerEvent where
  | sessionEstablished (nodeGroupId : String) (endpoint : L3NodeEndpoint)
      (vip : Ipv4Addr)
  | vipChanged (nodeGroupId : String) (previous current : Ipv4Addr)
  | endpointFailed (nodeGroupId : String) (endpoint : L3NodeEndpoint)
      (error : EstablishError)
  | sessionClosed (nodeGroupId reason : String)
  deriving DecidableEq, Repr

/-- Where a call of `session` stands. -/
inductive SessionPhase where
  | starting
  | locking
  | locked
  | checked
  | closing
  | resting
  | connecting (endpoints : List L3NodeEndpoint) (start offset : Nat)
  | connected (session : SessionRef) (index count : Nat)
  | storing (session : SessionRef) (index count : Nat)
  | returned (result : Except ManagerError SessionRef)

inductive CurrentSessionPhase where
  | locking
  | holding
  | returned (session : Option SessionRef)

inductive LastVipPhase where
  | locking
  | holding
  | returned (vip : Option Ipv4Addr)

inductive InvalidatePhase where
  | locking
  | holding
  | closing
  | joining
  | returned

inductive ClosePhase where
  | locking
  | holding
  | closing
  | returned

inductive RetirePhase where
  | starting
  | tryingLock
  | holding
  | returned

inductive Call where
  | session (phase : SessionPhase)
  | currentSession (phase : CurrentSessionPhase)
  | lastVip (phase : LastVipPhase)
  | invalidate (failed : SessionRef) (phase : InvalidatePhase)
  | close (phase : ClosePhase)
  | retire (phase : RetirePhase)

/-- The phases that end with an `await`. -/
def Call.awaits : Call → Bool
  | .session .locking => true
  | .session .closing => true
  | .session .resting => true
  | .session (.connecting _ _ _) => true
  | .currentSession .locking => true
  | .lastVip .locking => true
  | .invalidate _ .locking => true
  | .invalidate _ .joining => true
  | .close .locking => true
  | .close .closing => true
  | _ => false

/-- A manager, its sessions and the calls on it. -/
structure State where
  nodeGroupId : String
  endpoints : List L3NodeEndpoint
  retired : Bool
  holder : Option CallId
  session : Option SessionRef
  nextEndpoint : Nat
  lastVip : Option Ipv4Addr
  sessions : SessionRef → Option SessionView
  nextSession : SessionRef
  calls : CallId → Option Call
  nextCall : CallId
  events : List ManagerEvent

/-- `L3SessionManager::new`. -/
def new (nodeGroupId : String) (endpoints : List L3NodeEndpoint) : State where
  nodeGroupId := nodeGroupId
  endpoints := deduplicateEndpoints endpoints
  retired := false
  holder := none
  session := none
  nextEndpoint := 0
  lastVip := none
  sessions := fun _ => none
  nextSession := 0
  calls := fun _ => none
  nextCall := 0
  events := []

namespace State

/-- Move a call to its next phase. -/
def setCall (state : State) (id : CallId) (call : Call) : State :=
  { state with calls := Function.update state.calls id (some call) }

/-- Acquire the free mutex. -/
def lock (state : State) (id : CallId) : Option State :=
  match state.holder with
  | none => some { state with holder := some id }
  | some _ => none

def unlock (state : State) : State :=
  { state with holder := none }

def emit (state : State) (events : List ManagerEvent) : State :=
  { state with events := state.events ++ events }

def vip (state : State) (session : SessionRef) : Option Ipv4Addr :=
  (state.sessions session).map SessionView.vip

/-- Whether the session was told to close. -/
def told (state : State) (session : SessionRef) : Prop :=
  ∃ view, state.sessions session = some view ∧ view.told = true

/-- `is_closed`. -/
def isClosed (state : State) (session : SessionRef) : Bool :=
  match state.sessions session with
  | none => false
  | some view => view.closed

/-- `request_close`. -/
def requestClose (state : State) (session : SessionRef) : State :=
  match state.sessions session with
  | none => state
  | some view =>
      { state with
        sessions :=
          Function.update state.sessions session
            (some { view with closed := true, told := true }) }

section

variable (state : State) (id : CallId) (call : Call) (session : SessionRef)

@[simp] theorem setCall_calls :
    (state.setCall id call).calls =
      Function.update state.calls id (some call) := rfl

@[simp] theorem setCall_retired :
    (state.setCall id call).retired = state.retired := rfl

@[simp] theorem setCall_holder :
    (state.setCall id call).holder = state.holder := rfl

@[simp] theorem setCall_session :
    (state.setCall id call).session = state.session := rfl

@[simp] theorem setCall_lastVip :
    (state.setCall id call).lastVip = state.lastVip := rfl

@[simp] theorem setCall_sessions :
    (state.setCall id call).sessions = state.sessions := rfl

@[simp] theorem setCall_endpoints :
    (state.setCall id call).endpoints = state.endpoints := rfl

@[simp] theorem setCall_events :
    (state.setCall id call).events = state.events := rfl

@[simp] theorem setCall_nextSession :
    (state.setCall id call).nextSession = state.nextSession := rfl

/-- Asking a session to close changes nothing but that session. -/
theorem requestClose_eq :
    state.requestClose session =
      { state with sessions := (state.requestClose session).sessions } := by
  unfold requestClose
  split <;> rfl

@[simp] theorem requestClose_calls :
    (state.requestClose session).calls = state.calls := by
  rw [requestClose_eq]

@[simp] theorem requestClose_retired :
    (state.requestClose session).retired = state.retired := by
  rw [requestClose_eq]

@[simp] theorem requestClose_holder :
    (state.requestClose session).holder = state.holder := by
  rw [requestClose_eq]

@[simp] theorem requestClose_session :
    (state.requestClose session).session = state.session := by
  rw [requestClose_eq]

@[simp] theorem requestClose_lastVip :
    (state.requestClose session).lastVip = state.lastVip := by
  rw [requestClose_eq]

@[simp] theorem requestClose_endpoints :
    (state.requestClose session).endpoints = state.endpoints := by
  rw [requestClose_eq]

@[simp] theorem requestClose_events :
    (state.requestClose session).events = state.events := by
  rw [requestClose_eq]

@[simp] theorem requestClose_nextSession :
    (state.requestClose session).nextSession = state.nextSession := by
  rw [requestClose_eq]

/-- Asking a session to close keeps its VIP and its endpoint, and those of all
others. -/
theorem requestClose_sessions (other : SessionRef) :
    (state.requestClose session).sessions other =
      if other = session then
        (state.sessions session).map fun view =>
          { view with closed := true, told := true }
      else
        state.sessions other := by
  unfold requestClose
  by_cases same : other = session
  · subst same
    cases found : state.sessions other with
    | none => simp [found]
    | some view => simp
  · cases found : state.sessions session with
    | none => simp [same]
    | some view => simp [same, Function.update_of_ne]

/-- The heap after a request depends on the heap before it alone. -/
theorem requestClose_sessions_congr {other : State}
    (same : other.sessions = state.sessions) :
    (other.requestClose session).sessions =
      (state.requestClose session).sessions := by
  funext stored
  rw [requestClose_sessions, requestClose_sessions, same]

end

/-- `update_endpoints`. -/
def updateEndpoints (state : State) (endpoints : List L3NodeEndpoint) : State :=
  { state with endpoints := deduplicateEndpoints endpoints }

/-- `report_established`, for a session that is already stored. -/
def reportEstablished (state : State) (endpoint : L3NodeEndpoint)
    (vip : Ipv4Addr) : State :=
  { state with lastVip := some vip }.emit <|
    .sessionEstablished state.nodeGroupId endpoint vip ::
      match state.lastVip with
      | none => []
      | some previous =>
          if previous ≠ vip then
            [.vipChanged state.nodeGroupId previous vip]
          else
            []

/-! ## The steps of each call -/

/-- `session`, except for the attempts to connect. -/
def advanceSession (state : State) (id : CallId) :
    SessionPhase → Option State
  | .starting =>
      if state.retired then
        some (state.setCall id (.session (.returned (.error .retired))))
      else
        some (state.setCall id (.session .locking))
  | .locking =>
      (state.lock id).map fun locked => locked.setCall id (.session .locked)
  | .locked =>
      if state.retired then
        some (state.unlock.setCall id
          (.session (.returned (.error .retired))))
      else
        some (state.setCall id (.session .checked))
  | .checked =>
      match state.session with
      | none => some (state.setCall id (.session .resting))
      | some session =>
          if state.isClosed session then
            some
              ({ state with
                  session := none
                  lastVip := state.vip session }.requestClose session
                |>.setCall id (.session .closing))
          else
            some (state.unlock.setCall id
              (.session (.returned (.ok session))))
  | .closing => some (state.setCall id (.session .resting))
  | .resting =>
      if state.endpoints = [] then
        some (state.unlock.setCall id
          (.session (.returned (.error (.noEndpoints state.nodeGroupId)))))
      else
        some (state.setCall id
          (.session (.connecting state.endpoints
            (state.nextEndpoint % state.endpoints.length) 0)))
  | .connecting _ _ _ => none
  | .connected session index count =>
      if state.retired then
        some ((state.requestClose session).unlock.setCall id
          (.session (.returned (.error .retired))))
      else
        some (state.setCall id (.session (.storing session index count)))
  | .storing session index count =>
      match state.sessions session with
      | none => none
      | some view =>
          some
            ({ state with
                nextEndpoint := (index + 1) % count
                session := some session }.reportEstablished view.endpoint
                  view.vip
              |>.unlock.setCall id (.session (.returned (.ok session))))
  | .returned _ => none

/-- The end of an attempt to connect: a session with a VIP, or an error. -/
def establish (state : State) (id : CallId)
    (result : Except EstablishError Ipv4Addr) : SessionPhase → Option State
  | .connecting endpoints start offset =>
      let index := (start + offset) % endpoints.length
      match endpoints[index]? with
      | none => none
      | some endpoint =>
          match result with
          | .ok vip =>
              some
                ({ state with
                    sessions :=
                      Function.update state.sessions state.nextSession
                        (some ⟨vip, endpoint, false, false⟩)
                    nextSession := state.nextSession + 1 }.setCall id
                  (.session
                    (.connected state.nextSession index endpoints.length)))
          | .error error =>
              if establishmentIsRetryable error then
                let failed :=
                  state.emit [.endpointFailed state.nodeGroupId endpoint error]
                if offset + 1 < endpoints.length then
                  some (failed.setCall id
                    (.session (.connecting endpoints start (offset + 1))))
                else
                  some (failed.unlock.setCall id
                    (.session (.returned (.error (.session error)))))
              else
                some (state.unlock.setCall id
                  (.session (.returned (.error (.session error)))))
  | _ => none

/-- `current_session`. -/
def advanceCurrentSession (state : State) (id : CallId) :
    CurrentSessionPhase → Option State
  | .locking =>
      (state.lock id).map fun locked =>
        locked.setCall id (.currentSession .holding)
  | .holding =>
      some (state.unlock.setCall id
        (.currentSession (.returned
          (state.session.filter fun session => !state.isClosed session))))
  | .returned _ => none

/-- `last_vip`. -/
def advanceLastVip (state : State) (id : CallId) :
    LastVipPhase → Option State
  | .locking =>
      (state.lock id).map fun locked => locked.setCall id (.lastVip .holding)
  | .holding =>
      some (state.unlock.setCall id
        (.lastVip (.returned
          ((state.session.bind state.vip).or state.lastVip))))
  | .returned _ => none

/-- `invalidate`. -/
def advanceInvalidate (state : State) (id : CallId) (failed : SessionRef) :
    InvalidatePhase → Option State
  | .locking =>
      (state.lock id).map fun locked =>
        locked.setCall id (.invalidate failed .holding)
  | .holding =>
      if state.session = some failed then
        some
          ({ state with
              session := none
              lastVip := state.vip failed }.unlock.setCall id
            (.invalidate failed .closing))
      else
        some (state.unlock.setCall id (.invalidate failed .returned))
  | .closing =>
      some ((state.requestClose failed).setCall id
        (.invalidate failed .joining))
  | .joining =>
      some
        (state.emit
            [.sessionClosed state.nodeGroupId
              "session invalidated after a failed operation"]
          |>.setCall id (.invalidate failed .returned))
  | .returned => none

/-- `close`.  The lock is held until the session has been joined. -/
def advanceClose (state : State) (id : CallId) : ClosePhase → Option State
  | .locking =>
      (state.lock id).map fun locked => locked.setCall id (.close .holding)
  | .holding =>
      match state.session with
      | none => some (state.unlock.setCall id (.close .returned))
      | some session =>
          some
            ({ state with session := none }.requestClose session
              |>.setCall id (.close .closing))
  | .closing =>
      some
        (state.unlock.emit [.sessionClosed state.nodeGroupId "closed by caller"]
          |>.setCall id (.close .returned))
  | .returned => none

/-- `retire`: the flag, then the lock if it happens to be free. -/
def advanceRetire (state : State) (id : CallId) : RetirePhase → Option State
  | .starting =>
      some ({ state with retired := true }.setCall id (.retire .tryingLock))
  | .tryingLock =>
      match state.holder with
      | none =>
          some ({ state with holder := some id }.setCall id (.retire .holding))
      | some _ => some (state.setCall id (.retire .returned))
  | .holding =>
      match state.session with
      | none => some (state.unlock.setCall id (.retire .returned))
      | some session =>
          some ((state.requestClose session).unlock.setCall id
            (.retire .returned))
  | .returned => none

/-- One step of a call. -/
def advance (state : State) (id : CallId) : Option State :=
  match state.calls id with
  | none => none
  | some (.session phase) => state.advanceSession id phase
  | some (.currentSession phase) => state.advanceCurrentSession id phase
  | some (.lastVip phase) => state.advanceLastVip id phase
  | some (.invalidate failed phase) => state.advanceInvalidate id failed phase
  | some (.close phase) => state.advanceClose id phase
  | some (.retire phase) => state.advanceRetire id phase

/-- The state without a call; a lock it had is released. -/
def dropCall (state : State) (id : CallId) : State :=
  { state with
    calls := Function.update state.calls id none
    holder := if state.holder = some id then none else state.holder }

/-- The caller drops a call that is at an `await`. -/
def cancel (state : State) (id : CallId) : Option State :=
  match state.calls id with
  | none => none
  | some call => if call.awaits then some (state.dropCall id) else none

/-- `apply_vip_update` as far as the manager and its observers see it. -/
def applyVipUpdate (state : State) (session : SessionRef)
    (current : Ipv4Addr) : Option State :=
  match state.sessions session with
  | none => none
  | some view =>
      if view.vip = current then
        some state
      else
        some
          ({ state with
              sessions :=
                Function.update state.sessions session
                  (some { view with vip := current }) }.emit
            [.vipChanged state.nodeGroupId view.vip current])

/-- The connection of a session fails. -/
def failSession (state : State) (session : SessionRef) : Option State :=
  match state.sessions session with
  | none => none
  | some view =>
      some
        { state with
          sessions :=
            Function.update state.sessions session
              (some { view with closed := true }) }

end State

/-- A function of the manager, as it is called. -/
inductive Request where
  | session
  | currentSession
  | lastVip
  | invalidate (failed : SessionRef)
  | close
  | retire

def Request.call : Request → Call
  | .session => .session .starting
  | .currentSession => .currentSession .locking
  | .lastVip => .lastVip .locking
  | .invalidate failed => .invalidate failed .locking
  | .close => .close .locking
  | .retire => .retire .starting

/-- What can happen next at a manager. -/
inductive Action where
  | call (request : Request)
  | advance (id : CallId)
  | establish (id : CallId) (result : Except EstablishError Ipv4Addr)
  | cancel (id : CallId)
  | updateEndpoints (endpoints : List L3NodeEndpoint)
  | vipUpdate (session : SessionRef) (current : Ipv4Addr)
  | sessionFails (session : SessionRef)

/-- The state after an action, if it can happen. -/
def next (state : State) : Action → Option State
  | .call request =>
      some
        ({ state with nextCall := state.nextCall + 1 }.setCall state.nextCall
          request.call)
  | .advance id => state.advance id
  | .establish id result =>
      match state.calls id with
      | some (.session phase) => state.establish id result phase
      | _ => none
  | .cancel id => state.cancel id
  | .updateEndpoints endpoints => some (state.updateEndpoints endpoints)
  | .vipUpdate session current => state.applyVipUpdate session current
  | .sessionFails session => state.failSession session

end Manager

end HermesAtrust.L3
