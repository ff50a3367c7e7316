import HermesAtrust.Auth.ResourceCache
import HermesAtrust.Client.Handover

/-!
# Replacing and shutting down the session of a client

Model of `replace_session`, `shutdown` and `ClientSession::run` of an
`AtrustClient` under arbitrary interleavings.  A call moves from one await to
the next in one step.  `replace_session` validates the new session without the
control lock, and switches under it; the write lock of the active session
makes the stop signal, the new epoch and the new session one step for whoever
takes hold of a session.  `shutdown` holds the control lock as well.  An
operation takes hold of the active session, and polls its work only in polls
in which it has found the stop signal unset; the signal may be set by another
thread while the work is being polled.

`switches` keeps record of the switches that were made.
-/

namespace HermesAtrust.Client.Replacement

open HermesAtrust.Auth.ResourceCache (AuthError)

abbrev CallId := Nat

structure GatewayEndpoint where
  host : String
  port : UInt16
  deriving DecidableEq, Repr

/-- Where a call stands: `replace_session` up to `replaced`, `shutdown` up to
`shutDown`, an operation up to `finished`. -/
inductive Phase where
  | entered (gateway : GatewayEndpoint)
  | validating
  | building
  | built (next : SessionNumber)
  | discarding (next : SessionNumber)
  | switching (next : SessionNumber)
  | retiring (previous : SessionNumber)
  | replaced (result : Except ClientError Unit)
  | closing
  | closed
  | stopping (session : SessionNumber)
  | shutDown
  | started
  | holding (session : SessionNumber)
  | running (session : SessionNumber)
  | polling (session : SessionNumber)
  | finished (result : Except ClientError Unit)
  | cancelled

/-- A switch from one session to the next one. -/
structure Switch where
  call : CallId
  previous : SessionNumber
  next : SessionNumber
  deriving DecidableEq, Repr

structure State where
  gateway : GatewayEndpoint
  closed : Bool
  control : Option CallId
  active : SessionNumber
  sessionEpoch : Nat
  stop : SessionNumber → Bool
  invalidated : SessionNumber → Bool
  nextSession : SessionNumber
  calls : CallId → Option Phase
  switches : List Switch

/-- A client that has just started. -/
def start (gateway : GatewayEndpoint) : State where
  gateway := gateway
  closed := false
  control := none
  active := 0
  sessionEpoch := 1
  stop := fun _ => false
  invalidated := fun _ => false
  nextSession := 1
  calls := fun _ => none
  switches := []

/-- A call begins, goes on by itself, gets an answer of the gateway, polls its
work, or is dropped; a refresh finds a session to be invalid. -/
inductive Action where
  | replaceSession (call : CallId) (gateway : GatewayEndpoint)
  | shutdown (call : CallId)
  | operation (call : CallId)
  | proceed (call : CallId)
  | answer (call : CallId) (answer : Except AuthError Unit)
  | work (call : CallId) (result : Option (Except ClientError Unit))
  | cancel (call : CallId)
  | invalidate (session : SessionNumber)

namespace State

def setPhase (state : State) (call : CallId) (phase : Phase) : State :=
  { state with calls := Function.update state.calls call (some phase) }

def sendStop (state : State) (session : SessionNumber) : State :=
  { state with stop := Function.update state.stop session true }

/-- The call begins in the phase. -/
def begin (state : State) (call : CallId) (phase : Phase) : Option State :=
  match state.calls call with
  | none => some (state.setPhase call phase)
  | some _ => none

/-- The first checks of `replace_session`. -/
def enter (state : State) (gateway : GatewayEndpoint) : Phase :=
  if state.closed then
    .replaced (.error .closed)
  else if gateway ≠ state.gateway then
    .replaced (.error .gatewayMismatch)
  else
    .validating

/-- `replace_session` gets the control lock. -/
def lockReplacement (state : State) (call : CallId) (next : SessionNumber) :
    Option State :=
  match state.control with
  | some _ => none
  | none =>
      if state.closed then
        some
          (({ state with control := some call }.sendStop next).setPhase call
            (.discarding next))
      else
        some
          ({ state with control := some call }.setPhase call
            (.switching next))

/-- `replace_session` has the write lock of the active session. -/
def switch (state : State) (call : CallId) (next : SessionNumber) : State :=
  ({ state.sendStop state.active with
    sessionEpoch := (state.sessionEpoch + 1) % 2 ^ 64
    active := next
    switches := ⟨call, state.active, next⟩ :: state.switches }).setPhase call
      (.retiring state.active)

/-- `shutdown` gets the control lock. -/
def lockShutdown (state : State) (call : CallId) : Option State :=
  match state.control with
  | some _ => none
  | none =>
      some
        ({ state with control := some call, closed := true }.setPhase call
          .closed)

/-- The call ends and releases the control lock. -/
def release (state : State) (call : CallId) (phase : Phase) : State :=
  { state with control := none }.setPhase call phase

/-- The checks of `run` before it polls. -/
def checkSession (state : State) (session : SessionNumber) : Phase :=
  if state.stop session then
    .finished (.error .closed)
  else if state.invalidated session then
    .finished (.error .authenticationRequired)
  else
    .running session

/-- The stop signal is polled first. -/
def pollStop (state : State) (session : SessionNumber) : Phase :=
  if state.stop session then
    .finished (.error .closed)
  else
    .polling session

/-- The call goes on to its next await. -/
def proceed (state : State) (call : CallId) : Option State :=
  match state.calls call with
  | some (.entered gateway) => some (state.setPhase call (state.enter gateway))
  | some (.built next) => state.lockReplacement call next
  | some (.discarding _) =>
      some (state.release call (.replaced (.error .closed)))
  | some (.switching next) => some (state.switch call next)
  | some (.retiring _) => some (state.release call (.replaced (.ok ())))
  | some .closing => state.lockShutdown call
  | some .closed =>
      some
        ((state.sendStop state.active).setPhase call (.stopping state.active))
  | some (.stopping _) => some (state.release call .shutDown)
  | some .started => some (state.setPhase call (.holding state.active))
  | some (.holding session) =>
      some (state.setPhase call (state.checkSession session))
  | some (.running session) =>
      some (state.setPhase call (state.pollStop session))
  | _ => none

/-- `online_info` or the first fetch of the resources ends. -/
def answer (state : State) (call : CallId) (answer : Except AuthError Unit) :
    Option State :=
  match state.calls call, answer with
  | some .validating, .ok () => some (state.setPhase call .building)
  | some .validating, .error error =>
      some (state.setPhase call (.replaced (.error (.auth error))))
  | some .building, .ok () =>
      some
        ({ state with nextSession := state.nextSession + 1 }.setPhase call
          (.built state.nextSession))
  | some .building, .error error =>
      some (state.setPhase call (.replaced (.error (.auth error))))
  | _, _ => none

/-- The work of an operation is polled. -/
def work (state : State) (call : CallId)
    (result : Option (Except ClientError Unit)) : Option State :=
  match state.calls call with
  | some (.polling session) =>
      match result with
      | none => some (state.setPhase call (.running session))
      | some result => some (state.setPhase call (.finished result))
  | _ => none

/-- A session that nobody has seen yet is stopped when it is dropped. -/
def dropSession (state : State) : Phase → State
  | .built next => state.sendStop next
  | .switching next => state.sendStop next
  | _ => state

/-- The call is dropped, and the control lock with it if it has the lock. -/
def cancel (state : State) (call : CallId) : Option State :=
  match state.calls call with
  | none => none
  | some (.replaced _) => none
  | some .shutDown => none
  | some (.finished _) => none
  | some .cancelled => none
  | some phase =>
      some
        ({ state.dropSession phase with
          control :=
            if state.control = some call then none else state.control
        }.setPhase call .cancelled)

/-- One step of the client. -/
def step (state : State) : Action → Option State
  | .replaceSession call gateway => state.begin call (.entered gateway)
  | .shutdown call => state.begin call .closing
  | .operation call => state.begin call .started
  | .proceed call => state.proceed call
  | .answer call answer => state.answer call answer
  | .work call result => state.work call result
  | .cancel call => state.cancel call
  | .invalidate session =>
      some
        { state with
          invalidated := Function.update state.invalidated session true }

end State

namespace Phase

/-- The new session that only this call knows of. -/
def owns : Phase → Option SessionNumber
  | .built next => some next
  | .switching next => some next
  | _ => none

/-- The call has the control lock. -/
def holdsControl : Phase → Bool
  | .discarding _ => true
  | .switching _ => true
  | .retiring _ => true
  | .closed => true
  | .stopping _ => true
  | _ => false

/-- `shutdown` has set the flag of the client. -/
def afterClosing : Phase → Bool
  | .closed => true
  | .stopping _ => true
  | .shutDown => true
  | _ => false

/-- `shutdown` has stopped the active session. -/
def afterStop : Phase → Bool
  | .stopping _ => true
  | .shutDown => true
  | _ => false

/-- `replace_session` has switched. -/
def switched : Phase → Bool
  | .retiring _ => true
  | .replaced (.ok _) => true
  | _ => false

/-- The call has neither a session of its own nor the control lock, nor has it
closed or switched. -/
def idle : Phase → Bool
  | .entered _ => true
  | .validating => true
  | .building => true
  | .replaced (.error _) => true
  | .closing => true
  | .started => true
  | .holding _ => true
  | .running _ => true
  | .polling _ => true
  | .finished _ => true
  | _ => false

end Phase

namespace State

/-! ## What one step can do -/

/-- The moves that change nothing but the phase of the call. -/
inductive Plain (state : State) : Phase → Phase → Prop where
  | enters (gateway : GatewayEndpoint) :
      Plain state (.entered gateway) (state.enter gateway)
  | validates : Plain state .validating .building
  | rejected (error : AuthError) :
      Plain state .validating (.replaced (.error (.auth error)))
  | unfetched (error : AuthError) :
      Plain state .building (.replaced (.error (.auth error)))
  | holds : Plain state .started (.holding state.active)
  | checks (session : SessionNumber) :
      Plain state (.holding session) (state.checkSession session)
  | polls (session : SessionNumber) :
      Plain state (.running session) (state.pollStop session)
  | pending (session : SessionNumber) :
      Plain state (.polling session) (.running session)
  | finishes (session : SessionNumber) (result : Except ClientError Unit) :
      Plain state (.polling session) (.finished result)

/-- The moves that release the control lock at the end. -/
inductive Ends : Phase → Phase → Prop where
  | discarded (next : SessionNumber) :
      Ends (.discarding next) (.replaced (.error .closed))
  | retired (previous : SessionNumber) :
      Ends (.retiring previous) (.replaced (.ok ()))
  | stopped (session : SessionNumber) : Ends (.stopping session) .shutDown

inductive Begins : Phase → Prop where
  | replaceSession (gateway : GatewayEndpoint) : Begins (.entered gateway)
  | shutdown : Begins .closing
  | operation : Begins .started

/-- The steps of the client by what they change. -/
inductive Moves (state : State) : State → Prop where
  | invalidates (session : SessionNumber) :
      Moves state
        { state with
          invalidated := Function.update state.invalidated session true }
  | begins {call : CallId} {phase : Phase}
      (unused : state.calls call = none) (initial : Begins phase) :
      Moves state (state.setPhase call phase)
  | plain {call : CallId} {old phase : Phase}
      (found : state.calls call = some old) (move : state.Plain old phase) :
      Moves state (state.setPhase call phase)
  | builds {call : CallId} (found : state.calls call = some .building) :
      Moves state
        ({ state with nextSession := state.nextSession + 1 }.setPhase call
          (.built state.nextSession))
  | discards {call : CallId} {next : SessionNumber}
      (found : state.calls call = some (.built next))
      (free : state.control = none) (shut : state.closed = true) :
      Moves state
        (({ state with control := some call }.sendStop next).setPhase call
          (.discarding next))
  | locks {call : CallId} {next : SessionNumber}
      (found : state.calls call = some (.built next))
      (free : state.control = none) (opened : state.closed = false) :
      Moves state
        ({ state with control := some call }.setPhase call (.switching next))
  | switches {call : CallId} {next : SessionNumber}
      (found : state.calls call = some (.switching next)) :
      Moves state (state.switch call next)
  | ends {call : CallId} {old phase : Phase}
      (found : state.calls call = some old) (move : Ends old phase) :
      Moves state (state.release call phase)
  | closes {call : CallId} (found : state.calls call = some .closing)
      (free : state.control = none) :
      Moves state
        ({ state with control := some call, closed := true }.setPhase call
          .closed)
  | stops {call : CallId} (found : state.calls call = some .closed) :
      Moves state
        ((state.sendStop state.active).setPhase call (.stopping state.active))
  | cancels {call : CallId} {phase : Phase}
      (found : state.calls call = some phase) :
      Moves state
        ({ state.dropSession phase with
          control :=
            if state.control = some call then none else state.control
        }.setPhase call .cancelled)

section Inversion

variable {state after : State} {call : CallId}

theorem moves_of_begin {phase : Phase} (initial : Begins phase)
    (stepped : state.begin call phase = some after) : state.Moves after := by
  unfold begin at stepped
  split at stepped
  · next unused =>
      cases stepped
      exact .begins unused initial
  · cases stepped

theorem moves_of_lockReplacement {next : SessionNumber}
    (found : state.calls call = some (.built next))
    (stepped : state.lockReplacement call next = some after) :
    state.Moves after := by
  unfold lockReplacement at stepped
  split at stepped
  · cases stepped
  · next free =>
      split at stepped
      · next shut =>
          cases stepped
          exact .discards found free shut
      · next opened =>
          cases stepped
          exact .locks found free (Bool.eq_false_iff.mpr opened)

theorem moves_of_lockShutdown (found : state.calls call = some .closing)
    (stepped : state.lockShutdown call = some after) :
    state.Moves after := by
  unfold lockShutdown at stepped
  split at stepped
  · cases stepped
  · next free =>
      cases stepped
      exact .closes found free

theorem moves_of_proceed (stepped : state.proceed call = some after) :
    state.Moves after := by
  unfold proceed at stepped
  split at stepped
  · next gateway found =>
      cases stepped
      exact .plain found (.enters gateway)
  · next next found => exact moves_of_lockReplacement found stepped
  · next next found =>
      cases stepped
      exact .ends found (.discarded next)
  · next next found =>
      cases stepped
      exact .switches found
  · next previous found =>
      cases stepped
      exact .ends found (.retired previous)
  · next found => exact moves_of_lockShutdown found stepped
  · next found =>
      cases stepped
      exact .stops found
  · next session found =>
      cases stepped
      exact .ends found (.stopped session)
  · next found =>
      cases stepped
      exact .plain found .holds
  · next session found =>
      cases stepped
      exact .plain found (.checks session)
  · next session found =>
      cases stepped
      exact .plain found (.polls session)
  · cases stepped

theorem moves_of_answer {answer : Except AuthError Unit}
    (stepped : state.answer call answer = some after) : state.Moves after := by
  unfold State.answer at stepped
  split at stepped
  · next found =>
      cases stepped
      exact .plain found .validates
  · next error found =>
      cases stepped
      exact .plain found (.rejected error)
  · next found =>
      cases stepped
      exact .builds found
  · next error found =>
      cases stepped
      exact .plain found (.unfetched error)
  · cases stepped

theorem moves_of_work {result : Option (Except ClientError Unit)}
    (stepped : state.work call result = some after) : state.Moves after := by
  unfold work at stepped
  split at stepped
  · next session found =>
      split at stepped
      · cases stepped
        exact .plain found (.pending session)
      · next result =>
          cases stepped
          exact .plain found (.finishes session result)
  · cases stepped

theorem moves_of_cancel (stepped : state.cancel call = some after) :
    state.Moves after := by
  unfold cancel at stepped
  split at stepped
  · cases stepped
  · cases stepped
  · cases stepped
  · cases stepped
  · cases stepped
  · next phase _ _ _ _ found =>
      cases stepped
      exact .cancels found

theorem moves_of_step {action : Action}
    (stepped : state.step action = some after) : state.Moves after := by
  cases action with
  | replaceSession call gateway =>
      exact moves_of_begin (.replaceSession gateway) stepped
  | shutdown call => exact moves_of_begin .shutdown stepped
  | operation call => exact moves_of_begin .operation stepped
  | proceed call => exact moves_of_proceed stepped
  | answer call answer => exact moves_of_answer stepped
  | work call result => exact moves_of_work stepped
  | cancel call => exact moves_of_cancel stepped
  | invalidate session =>
      cases stepped
      exact .invalidates session

end Inversion

end State

end HermesAtrust.Client.Replacement
