import HermesAtrust.L3.ManagerPlacement
import HermesAtrust.L3.NextFrame

/-!
# Authorizing and sending a packet

Model of `authorize_and_send` with its inner loop `authorize_with_budget`.  The
call runs on a manager that other calls use at the same time.  It takes a step
of its own, or the manager does, or one of the two operations on its session
returns; what `authorize_flow` and `send_packet` return is not restricted.

A pass of the loops that ends in `Closed` or `AuthTimeout` is paid from the
budget, and its session is invalidated before the next pass begins.
-/

namespace HermesAtrust.L3.FlowSend

open HermesAtrust.Concurrency
open HermesAtrust.L3.Manager (SessionRef CallId)

/-- `L3_CLOSED_RETRIES`. -/
def l3ClosedRetries : Nat := 5

/-- `L3_AUTH_TIMEOUT_RETRIES`. -/
def l3AuthTimeoutRetries : Nat := 1

structure RetryBudget where
  closed : Nat
  authTimeout : Nat
  deriving DecidableEq, Repr

def RetryBudget.default : RetryBudget where
  closed := l3ClosedRetries
  authTimeout := l3AuthTimeoutRetries

/-- A granted retry. -/
structure RetryDecision where
  reason : String
  remaining : Nat
  deriving DecidableEq, Repr

/-- `consume`. -/
def RetryBudget.consume (budget : RetryBudget) :
    L3SessionError → Option (RetryDecision × RetryBudget)
  | .closed =>
      if 0 < budget.closed then
        some (⟨"closed", budget.closed - 1⟩,
          { budget with closed := budget.closed - 1 })
      else
        none
  | .authTimeout _ =>
      if 0 < budget.authTimeout then
        some (⟨"auth_timeout", budget.authTimeout - 1⟩,
          { budget with authTimeout := budget.authTimeout - 1 })
      else
        none
  | _ => none

/-- What the call is asked to do. -/
structure Target where
  nodeGroupId : String
  appId : String
  flow : Ipv4Flow

structure AuthorizedL3Flow where
  session : SessionRef
  connectToken : String
  deriving DecidableEq, Repr

/-- `L3SessionManagerError`: what `session` returned, an error of the session,
or an address that is not the source of the flow. -/
inductive SendError where
  | manager (error : Manager.ManagerError)
  | session (error : L3SessionError)
  | vipChanged (packetSource sessionVip : Ipv4Addr)
  deriving DecidableEq, Repr

inductive FlowEvent where
  | reconnecting (nodeGroupId reason : String) (remainingRetries : Nat)
  | flowAuthorized (nodeGroupId : String) (flow : FlowKey) (appId : String)
      (connectTokenLen : Nat)
  | flowRejected (nodeGroupId : String) (flow : FlowKey) (appId : String)
      (reason : L3SessionError)
  deriving DecidableEq, Repr

/-- Where the call stands. -/
inductive Phase where
  | start
  | session (call : CallId)
  | checkVip (session : SessionRef)
  | reportVip (session : SessionRef)
  | authorize (session : SessionRef)
  | send (flow : AuthorizedL3Flow)
  | invalidate (failed : SessionRef) (call : CallId)
  | returned (result : Except SendError AuthorizedL3Flow)
  deriving DecidableEq, Repr

/-- The call of the manager that the phase waits for. -/
def Phase.awaits : Phase → Option CallId
  | .session call => some call
  | .invalidate _ call => some call
  | _ => none

structure State where
  manager : Manager.State
  budget : RetryBudget
  phase : Phase
  events : List FlowEvent

def initial (nodeGroupId : String) (endpoints : List L3NodeEndpoint) :
    State where
  manager := Manager.new nodeGroupId endpoints
  budget := RetryBudget.default
  phase := .start
  events := []

inductive Action where
  | manager (action : Manager.Action)
  | step
  | authorizeReturns (result : Except L3SessionError String)
  | sendReturns (result : Except L3SessionError Unit)

/-- The action drops a call of the manager. -/
def drops (call : Option CallId) : Manager.Action → Bool
  | .cancel id => call == some id
  | _ => false

/-- A step of the call itself. -/
def Action.own : Action → Bool
  | .manager _ => false
  | _ => true

namespace State

/-- An operation on a session fails: a retry that the budget grants begins with
the invalidation of the session. -/
def fail (target : Target) (s : State) (failed : SessionRef)
    (error : L3SessionError) (refusal : List FlowEvent) : Option State :=
  match s.budget.consume error with
  | some (retry, budget) =>
      (Manager.next s.manager (.call (.invalidate failed))).map fun manager =>
        { manager := manager
          budget := budget
          phase := .invalidate failed s.manager.nextCall
          events := s.events ++
            [.reconnecting target.nodeGroupId retry.reason retry.remaining] }
  | none =>
      some
        { s with
          phase := .returned (.error (.session error))
          events := s.events ++ refusal }

/-- The steps between two operations.  The address is read a second time for
the error. -/
def step (target : Target) (s : State) : Option State :=
  match s.phase with
  | .start =>
      (Manager.next s.manager (.call .session)).map fun manager =>
        { s with manager := manager, phase := .session s.manager.nextCall }
  | .session call =>
      match s.manager.calls call with
      | some (.session (.returned (.ok session))) =>
          some { s with phase := .checkVip session }
      | some (.session (.returned (.error error))) =>
          some { s with phase := .returned (.error (.manager error)) }
      | _ => none
  | .checkVip session =>
      (s.manager.vip session).map fun vip =>
        if vip ≠ target.flow.srcAddr then
          { s with phase := .reportVip session }
        else
          { s with phase := .authorize session }
  | .reportVip session =>
      (s.manager.vip session).map fun vip =>
        { s with
          phase := .returned (.error (.vipChanged target.flow.srcAddr vip)) }
  | .invalidate _ call =>
      match s.manager.calls call with
      | some (.invalidate _ .returned) => some { s with phase := .start }
      | _ => none
  | _ => none

/-- `authorize_flow` of the session returns. -/
def authorizeReturns (target : Target) (s : State)
    (result : Except L3SessionError String) : Option State :=
  match s.phase with
  | .authorize session =>
      match result with
      | .ok connectToken =>
          some
            { s with
              phase := .send ⟨session, connectToken⟩
              events := s.events ++
                [.flowAuthorized target.nodeGroupId target.flow.flowKey
                  target.appId connectToken.utf8ByteSize] }
      | .error error =>
          s.fail target session error
            [.flowRejected target.nodeGroupId target.flow.flowKey target.appId
              error]
  | _ => none

/-- `send_packet` of the session returns. -/
def sendReturns (target : Target) (s : State)
    (result : Except L3SessionError Unit) : Option State :=
  match s.phase with
  | .send flow =>
      match result with
      | .ok () => some { s with phase := .returned (.ok flow) }
      | .error error => s.fail target flow.session error []
  | _ => none

end State

/-- The state after an action, if it can happen.  The call drops none of the
calls that it waits for. -/
def next (target : Target) (s : State) : Action → Option State
  | .manager action =>
      if drops s.phase.awaits action then
        none
      else
        (Manager.next s.manager action).map fun manager =>
          { s with manager := manager }
  | .step => s.step target
  | .authorizeReturns result => s.authorizeReturns target result
  | .sendReturns result => s.sendReturns target result

/-! ## What is observed -/

/-- An operation has returned. -/
inductive Note where
  | sessionReturned (result : Except Manager.ManagerError SessionRef)
  | authorizeReturned (session : SessionRef)
      (result : Except L3SessionError String)
  | sendReturned (flow : AuthorizedL3Flow)
      (result : Except L3SessionError Unit)
  | invalidated (failed : SessionRef)
  deriving DecidableEq, Repr

def notes (s : State) : Action → List Note
  | .manager _ => []
  | .step =>
      match s.phase with
      | .session call =>
          match s.manager.calls call with
          | some (.session (.returned result)) => [.sessionReturned result]
          | _ => []
      | .invalidate failed _ => [.invalidated failed]
      | _ => []
  | .authorizeReturns result =>
      match s.phase with
      | .authorize session => [.authorizeReturned session result]
      | _ => []
  | .sendReturns result =>
      match s.phase with
      | .send flow => [.sendReturned flow result]
      | _ => []

/-- `Closed` or `AuthTimeout`. -/
def retryable : L3SessionError → Bool
  | .closed => true
  | .authTimeout _ => true
  | _ => false

def isClosed : L3SessionError → Bool
  | .closed => true
  | _ => false

def isAuthTimeout : L3SessionError → Bool
  | .authTimeout _ => true
  | _ => false

/-- A pass of the loops that failed: the session, the token if the flow was
authorized, and the error. -/
structure Failure where
  session : SessionRef
  connectToken : Option String
  error : L3SessionError
  deriving DecidableEq, Repr

namespace Failure

/-- The operations of the pass. -/
def passed (failure : Failure) : List Note :=
  .sessionReturned (.ok failure.session) ::
    match failure.connectToken with
    | none => [.authorizeReturned failure.session (.error failure.error)]
    | some connectToken =>
        [.authorizeReturned failure.session (.ok connectToken),
          .sendReturned ⟨failure.session, connectToken⟩ (.error failure.error)]

/-- The operations of the pass and the invalidation of its session. -/
def notes (failure : Failure) : List Note :=
  failure.passed ++ [.invalidated failure.session]

end Failure

/-- The budget of the error has been used up by the failures. -/
def Exhausted (failures : List Failure) (error : L3SessionError) : Prop :=
  (isClosed error = true →
    failures.countP (isClosed ·.error) = l3ClosedRetries) ∧
  (isAuthTimeout error = true →
    failures.countP (isAuthTimeout ·.error) = l3AuthTimeoutRetries)

/-- How the last pass ends the call. -/
inductive Concludes (target : Target) (failures : List Failure) :
    List Note → Except SendError AuthorizedL3Flow → Prop where
  | session (error : Manager.ManagerError) :
      Concludes target failures [.sessionReturned (.error error)]
        (.error (.manager error))
  | vip (session : SessionRef) (current : Ipv4Addr) :
      Concludes target failures [.sessionReturned (.ok session)]
        (.error (.vipChanged target.flow.srcAddr current))
  | failed (failure : Failure)
      (exhausted : Exhausted failures failure.error) :
      Concludes target failures failure.passed
        (.error (.session failure.error))
  | sent (flow : AuthorizedL3Flow) :
      Concludes target failures
        [.sessionReturned (.ok flow.session),
          .authorizeReturned flow.session (.ok flow.connectToken),
          .sendReturned flow (.ok ())]
        (.ok flow)

/-! ## The budget -/

/-- The failures have been paid from the budget. -/
structure Paid (budget : RetryBudget) (failures : List Failure) : Prop where
  retryable : ∀ failure ∈ failures, retryable failure.error = true
  closed :
    budget.closed + failures.countP (isClosed ·.error) = l3ClosedRetries
  authTimeout :
    budget.authTimeout + failures.countP (isAuthTimeout ·.error) =
      l3AuthTimeoutRetries

namespace Paid

variable {budget after : RetryBudget} {failures : List Failure}
  {retry : RetryDecision}

theorem initial : Paid RetryBudget.default [] where
  retryable failure listed := by cases listed
  closed := rfl
  authTimeout := rfl

/-- A granted retry is paid. -/
theorem consume (paid : Paid budget failures) {failure : Failure}
    (granted : budget.consume failure.error = some (retry, after)) :
    Paid after (failures ++ [failure]) := by
  have closed := paid.closed
  have authTimeout := paid.authTimeout
  have grown : ∀ counted : Failure → Bool,
      (failures ++ [failure]).countP counted =
        failures.countP counted + if counted failure then 1 else 0 := by
    intro counted
    rw [List.countP_append, List.countP_singleton]
  have extended : FlowSend.retryable failure.error = true →
      ∀ listed ∈ failures ++ [failure],
        FlowSend.retryable listed.error = true := by
    intro isRetryable listed member
    rcases List.mem_append.mp member with old | new
    · exact paid.retryable listed old
    · rw [List.mem_singleton.mp new]
      exact isRetryable
  unfold RetryBudget.consume at granted
  split at granted
  · rename_i isClosedError
    split at granted
    · cases granted
      refine ⟨extended (by rw [isClosedError]; rfl), ?_, ?_⟩
      · rw [grown, if_pos (by rw [isClosedError]; rfl)]
        dsimp only
        omega
      · rw [grown, if_neg (by rw [isClosedError]; nofun)]
        exact authTimeout
    · cases granted
  · rename_i flow isTimeout
    split at granted
    · cases granted
      refine ⟨extended (by rw [isTimeout]; rfl), ?_, ?_⟩
      · rw [grown, if_neg (by rw [isTimeout]; nofun)]
        exact closed
      · rw [grown, if_pos (by rw [isTimeout]; rfl)]
        dsimp only
        omega
    · cases granted
  · cases granted

/-- A retry is refused for an error that is not retried, or because the budget
has been used up. -/
theorem exhausted (paid : Paid budget failures) {error : L3SessionError}
    (refused : budget.consume error = none) : Exhausted failures error := by
  have closed := paid.closed
  have authTimeout := paid.authTimeout
  unfold RetryBudget.consume at refused
  constructor
  · intro isClosedError
    cases error <;> cases isClosedError
    simp only [ite_eq_right_iff, reduceCtorEq, imp_false, not_lt] at refused
    omega
  · intro isTimeout
    cases error <;> cases isTimeout
    simp only [ite_eq_right_iff, reduceCtorEq, imp_false, not_lt] at refused
    omega

/-- A failure that was paid is of one of two kinds. -/
private theorem length_eq (all : ∀ failure ∈ failures,
    FlowSend.retryable failure.error = true) :
    failures.length = failures.countP (isClosed ·.error) +
      failures.countP (isAuthTimeout ·.error) := by
  induction failures with
  | nil => rfl
  | cons failure later inductionHypothesis =>
      have rest := inductionHypothesis fun listed member =>
        all listed (List.mem_cons_of_mem _ member)
      have first := all failure (List.mem_cons_self ..)
      rw [List.length_cons, List.countP_cons, List.countP_cons, rest]
      cases kind : failure.error with
      | closed =>
          have counted : isClosed .closed = true := rfl
          have uncounted : ¬ isAuthTimeout .closed = true := nofun
          rw [if_pos counted, if_neg uncounted]
          omega
      | authTimeout flow =>
          have counted : isAuthTimeout (.authTimeout flow) = true := rfl
          have uncounted : ¬ isClosed (.authTimeout flow) = true := nofun
          rw [if_pos counted, if_neg uncounted]
          omega
      | _ =>
          rw [kind] at first
          cases first

theorem length_le (paid : Paid budget failures) :
    failures.length ≤ l3ClosedRetries + l3AuthTimeoutRetries := by
  have closed := paid.closed
  have authTimeout := paid.authTimeout
  have both := length_eq paid.retryable
  omega

/-- The failures before the last have been paid too. -/
theorem of_append {later : List Failure}
    (paid : Paid budget (failures ++ later)) :
    (∀ failure ∈ failures, FlowSend.retryable failure.error = true) ∧
      failures.countP (isClosed ·.error) ≤ l3ClosedRetries ∧
      failures.countP (isAuthTimeout ·.error) ≤ l3AuthTimeoutRetries ∧
      failures.length ≤ l3ClosedRetries + l3AuthTimeoutRetries := by
  have closed := paid.closed
  have authTimeout := paid.authTimeout
  have length := paid.length_le
  rw [List.countP_append] at closed authTimeout
  rw [List.length_append] at length
  refine ⟨?_, ?_, ?_, ?_⟩
  · intro failure listed
    exact paid.retryable failure (List.mem_append_left _ listed)
  · omega
  · omega
  · omega

end Paid

/-! ## The invariant -/

open HermesAtrust.L3.Manager (Issued Placed Guarded Numbered)

/-- The failed sessions have left the manager for good. -/
structure Grounded (manager : Manager.State) (failures : List Failure) :
    Prop where
  guarded : Guarded manager
  placed : Placed manager
  numbered : Numbered manager
  issued : ∀ failure ∈ failures, Issued manager failure.session
  out : ∀ failure ∈ failures, manager.session ≠ some failure.session

theorem Grounded.next {manager after : Manager.State}
    {failures : List Failure} {action : Manager.Action}
    (grounded : Grounded manager failures)
    (stepped : Manager.next manager action = some after) :
    Grounded after failures where
  guarded := Manager.guarded_next grounded.guarded stepped
  placed := grounded.placed.next grounded.guarded stepped
  numbered := grounded.numbered.next grounded.guarded stepped
  issued failure listed :=
    (grounded.issued failure listed).next grounded.guarded stepped
  out failure listed :=
    (grounded.issued failure listed).stays_out grounded.guarded
      (grounded.out failure listed) stepped

/-- A session that was handed out and has not failed. -/
structure Current (manager : Manager.State) (failures : List Failure)
    (session : SessionRef) : Prop where
  issued : Issued manager session
  different : ∀ failure ∈ failures, failure.session ≠ session

theorem Current.next {manager after : Manager.State}
    {failures : List Failure} {session : SessionRef}
    {action : Manager.Action} (current : Current manager failures session)
    (grounded : Grounded manager failures)
    (stepped : Manager.next manager action = some after) :
    Current after failures session where
  issued := current.issued.next grounded.guarded stepped
  different := current.different

/-- The phase, the failure that is being retried, and what has been noted since
the last retry. -/
inductive Standing (target : Target) (manager : Manager.State)
    (failures : List Failure) : Phase → List Failure → List Note → Prop where
  | start : Standing target manager failures .start [] []
  | session {id : CallId} {call : Manager.Call}
      (called : manager.calls id = some call)
      (asked : call.request = .session)
      (unheld :
        ∀ failure ∈ failures, call.handsOut ≠ some failure.session) :
      Standing target manager failures (.session id) [] []
  | checkVip {session : SessionRef}
      (current : Current manager failures session) :
      Standing target manager failures (.checkVip session) []
        [.sessionReturned (.ok session)]
  | reportVip {session : SessionRef}
      (current : Current manager failures session) :
      Standing target manager failures (.reportVip session) []
        [.sessionReturned (.ok session)]
  | authorize {session : SessionRef}
      (current : Current manager failures session) :
      Standing target manager failures (.authorize session) []
        [.sessionReturned (.ok session)]
  | send {flow : AuthorizedL3Flow}
      (current : Current manager failures flow.session) :
      Standing target manager failures (.send flow) []
        [.sessionReturned (.ok flow.session),
          .authorizeReturned flow.session (.ok flow.connectToken)]
  | invalidate {failure : Failure} {id : CallId}
      {phase : Manager.InvalidatePhase}
      (current : Current manager failures failure.session)
      (called :
        manager.calls id = some (.invalidate failure.session phase))
      (out :
        phase.past = true → manager.session ≠ some failure.session) :
      Standing target manager failures (.invalidate failure.session id)
        [failure] failure.passed
  | returned {result : Except SendError AuthorizedL3Flow}
      {last : List Note}
      (concludes : Concludes target failures last result) :
      Standing target manager failures (.returned result) [] last

/-- What the manager does keeps the standing of the call. -/
theorem Standing.next {target : Target} {manager after : Manager.State}
    {failures pending : List Failure} {phase : Phase} {last : List Note}
    {action : Manager.Action}
    (standing : Standing target manager failures phase pending last)
    (grounded : Grounded manager failures)
    (kept : drops phase.awaits action = false)
    (stepped : Manager.next manager action = some after) :
    Standing target after failures phase pending last := by
  have undropped : ∀ id, phase.awaits = some id → action ≠ .cancel id := by
    intro id awaited isCancel
    rw [awaited, isCancel] at kept
    simp [drops] at kept
  have guarded := grounded.guarded
  cases standing with
  | start => exact .start
  | @session id call called asked unheld =>
      obtain ⟨later, present, continues⟩ :=
        Manager.call_continues grounded.numbered guarded stepped called
          (undropped id rfl)
      refine .session present (continues.trans asked) ?_
      intro failure listed
      refine Manager.handsOut_next guarded stepped
        (grounded.issued failure listed) (grounded.out failure listed) ?_
        later present
      intro former isFormer
      cases called.symm.trans isFormer
      exact unheld failure listed
  | checkVip current => exact .checkVip (current.next grounded stepped)
  | reportVip current => exact .reportVip (current.next grounded stepped)
  | authorize current => exact .authorize (current.next grounded stepped)
  | send current => exact .send (current.next grounded stepped)
  | @invalidate failure id former current called out =>
      obtain ⟨later, present, continues⟩ :=
        Manager.call_continues grounded.numbered guarded stepped called
          (undropped id rfl)
      cases later <;> cases continues
      rename_i phase
      refine .invalidate (current.next grounded stepped) present ?_
      intro past
      rcases Manager.invalidate_past guarded stepped grounded.numbered called
          present past with before | gone
      · exact current.issued.stays_out guarded (out before) stepped
      · exact gone
  | returned concludes => exact .returned concludes

/-- What has been noted are the failures that were retried and the current
pass. -/
structure Holds (target : Target) (noted : List Note) (s : State)
    (failures : List Failure) : Prop where
  grounded : Grounded s.manager failures
  distinct : (failures.map (·.session)).Nodup
  standing :
    ∃ pending last, noted = failures.flatMap Failure.notes ++ last ∧
      Standing target s.manager failures s.phase pending last ∧
      Paid s.budget (failures ++ pending)

namespace Holds

variable {target : Target} {noted : List Note} {s s' : State}
  {failures : List Failure}

theorem initial (nodeGroupId : String) (endpoints : List L3NodeEndpoint) :
    Holds target [] (FlowSend.initial nodeGroupId endpoints) [] where
  grounded :=
    { guarded := Manager.guarded_new nodeGroupId endpoints
      placed := Manager.placed_new nodeGroupId endpoints
      numbered := Manager.numbered_new nodeGroupId endpoints
      issued := fun failure listed => by cases listed
      out := fun failure listed => by cases listed }
  distinct := List.nodup_nil
  standing := ⟨[], [], rfl, .start, Paid.initial⟩

/-- The call moves on within its pass. -/
theorem moved (holds : Holds target noted s failures)
    (manager : Grounded s'.manager failures) (budget : s'.budget = s.budget)
    {new : List Note}
    (standing : ∀ pending last,
      Standing target s.manager failures s.phase pending last →
      Standing target s'.manager failures s'.phase pending (last ++ new)) :
    Holds target (noted ++ new) s' failures where
  grounded := manager
  distinct := holds.distinct
  standing := by
    obtain ⟨pending, last, same, stands, paid⟩ := holds.standing
    refine ⟨pending, last ++ new, ?_, standing pending last stands, ?_⟩
    · rw [same, List.append_assoc]
    · rw [budget]
      exact paid

theorem manager {action : Manager.Action}
    (holds : Holds target noted s failures)
    (stepped : next target s (.manager action) = some s') :
    Holds target noted s' failures := by
  simp only [next] at stepped
  split at stepped
  · cases stepped
  · rename_i kept
    obtain ⟨after, managed, rfl⟩ := Option.map_eq_some_iff.mp stepped
    have grounded := holds.grounded.next managed
    have continued := @moved target noted s { s with manager := after } failures
      holds grounded rfl [] ?_
    · rw [List.append_nil] at continued
      exact continued
    · intro pending last stands
      rw [List.append_nil]
      exact stands.next holds.grounded (by simpa using kept) managed

/-- An operation on the current session fails. -/
theorem fail (holds : Holds target noted s failures) {failure : Failure}
    {refusal : List FlowEvent} {new : List Note}
    (current : Current s.manager failures failure.session)
    (paid : Paid s.budget failures)
    (same : noted ++ new = failures.flatMap Failure.notes ++ failure.passed)
    (stepped :
      s.fail target failure.session failure.error refusal = some s') :
    Holds target (noted ++ new) s' failures := by
  unfold State.fail at stepped
  split at stepped
  · rename_i retry budget granted
    obtain ⟨after, managed, rfl⟩ := Option.map_eq_some_iff.mp stepped
    have grounded := holds.grounded.next managed
    refine ⟨grounded, holds.distinct, [failure], failure.passed, same, ?_,
      paid.consume granted⟩
    have called : after.calls s.manager.nextCall =
        some (.invalidate failure.session .locking) :=
      Manager.called_of_call managed
    exact .invalidate (current.next holds.grounded managed) called nofun
  · rename_i refused
    cases stepped
    refine ⟨holds.grounded, holds.distinct, [], failure.passed, same, ?_, ?_⟩
    · exact .returned (.failed failure (paid.exhausted refused))
    · rw [List.append_nil]
      exact paid

theorem authorizeReturns {result : Except L3SessionError String}
    (holds : Holds target noted s failures)
    (stepped : next target s (.authorizeReturns result) = some s') :
    Holds target (noted ++ FlowSend.notes s (.authorizeReturns result)) s'
      failures := by
  obtain ⟨pending, last, same, standing, paid⟩ := holds.standing
  simp only [next, State.authorizeReturns] at stepped
  split at stepped
  · rename_i session stands
    rw [stands] at standing
    cases standing with
    | authorize current =>
        rw [List.append_nil] at paid
        have noting : FlowSend.notes s (.authorizeReturns result) =
            [.authorizeReturned session result] := by
          simp [FlowSend.notes, stands]
        rw [noting]
        split at stepped
        · rename_i connectToken
          cases stepped
          refine ⟨holds.grounded, holds.distinct, [], _, ?_,
            .send current, by rw [List.append_nil]; exact paid⟩
          rw [same]
          simp
        · rename_i error
          apply @fail target noted s s' failures holds ⟨session, none, error⟩ _
            _ current paid ?_ stepped
          rw [same]
          simp [Failure.passed]
  · cases stepped

theorem sendReturns {result : Except L3SessionError Unit}
    (holds : Holds target noted s failures)
    (stepped : next target s (.sendReturns result) = some s') :
    Holds target (noted ++ FlowSend.notes s (.sendReturns result)) s'
      failures := by
  obtain ⟨pending, last, same, standing, paid⟩ := holds.standing
  simp only [next, State.sendReturns] at stepped
  split at stepped
  · rename_i flow stands
    rw [stands] at standing
    cases standing with
    | send current =>
        rw [List.append_nil] at paid
        have noting : FlowSend.notes s (.sendReturns result) =
            [.sendReturned flow result] := by
          simp [FlowSend.notes, stands]
        rw [noting]
        split at stepped
        · cases stepped
          refine ⟨holds.grounded, holds.distinct, [], _, ?_,
            .returned (.sent flow), by rw [List.append_nil]; exact paid⟩
          rw [same]
          simp
        · rename_i error
          apply @fail target noted s s' failures holds
            ⟨flow.session, some flow.connectToken, error⟩ _ _ current paid ?_
            stepped
          rw [same]
          simp [Failure.passed]
  · cases stepped

/-- A failed session that has been invalidated joins the failures. -/
theorem invalidated (holds : Holds target noted s failures)
    {failure : Failure} (current : Current s.manager failures failure.session)
    (out : s.manager.session ≠ some failure.session)
    (paid : Paid s.budget (failures ++ [failure]))
    (same : noted = failures.flatMap Failure.notes ++ failure.passed) :
    Holds target (noted ++ [.invalidated failure.session])
      { s with phase := .start } (failures ++ [failure]) where
  grounded :=
    { guarded := holds.grounded.guarded
      placed := holds.grounded.placed
      numbered := holds.grounded.numbered
      issued := by
        intro other listed
        rcases List.mem_append.mp listed with old | new
        · exact holds.grounded.issued other old
        · rw [List.mem_singleton.mp new]
          exact current.issued
      out := by
        intro other listed
        rcases List.mem_append.mp listed with old | new
        · exact holds.grounded.out other old
        · rw [List.mem_singleton.mp new]
          exact out }
  distinct := by
    rw [List.map_append, List.nodup_append]
    refine ⟨holds.distinct, List.nodup_singleton _, ?_⟩
    intro session listed other isOther
    obtain ⟨former, isFormer, rfl⟩ := List.mem_map.mp listed
    rw [List.mem_singleton.mp isOther]
    exact current.different former isFormer
  standing := by
    refine ⟨[], [], ?_, .start, ?_⟩
    · rw [same]
      simp [Failure.notes]
    · rw [List.append_nil]
      exact paid

/-- A step of the call between two operations. -/
theorem step (holds : Holds target noted s failures)
    (stepped : next target s .step = some s') :
    ∃ later, Holds target (noted ++ FlowSend.notes s .step) s' later := by
  obtain ⟨pending, last, same, standing, paid⟩ := holds.standing
  simp only [next, State.step] at stepped
  cases stands : s.phase with
  | start =>
      rw [stands] at standing
      simp only [stands] at stepped
      cases standing with
      | start =>
          obtain ⟨after, managed, rfl⟩ := Option.map_eq_some_iff.mp stepped
          have called : after.calls s.manager.nextCall =
              some (.session .starting) := Manager.called_of_call managed
          have quiet : FlowSend.notes s .step = [] := by
            simp [FlowSend.notes, stands]
          rw [quiet, List.append_nil]
          exact ⟨failures, holds.grounded.next managed, holds.distinct, [], [],
            same, .session called rfl nofun, paid⟩
  | session id =>
      rw [stands] at standing
      simp only [stands] at stepped
      cases standing with
      | session called asked unheld =>
          split at stepped
          · rename_i session returned
            cases stepped
            rw [called] at returned
            cases returned
            have noting : FlowSend.notes s .step =
                [.sessionReturned (.ok session)] := by
              simp [FlowSend.notes, stands, called]
            have current : Current s.manager failures session := by
              refine ⟨holds.grounded.placed.handed id _ session called rfl, ?_⟩
              intro failure listed isSame
              apply unheld failure listed
              rw [isSame]
              rfl
            rw [noting]
            refine ⟨failures, holds.grounded, holds.distinct, [], _, ?_,
              .checkVip current, paid⟩
            rw [same]
            simp
          · rename_i error returned
            cases stepped
            have noting : FlowSend.notes s .step =
                [.sessionReturned (.error error)] := by
              simp [FlowSend.notes, stands, returned]
            rw [noting]
            refine ⟨failures, holds.grounded, holds.distinct, [], _, ?_,
              .returned (.session error), paid⟩
            rw [same]
            simp
          · cases stepped
  | checkVip session =>
      rw [stands] at standing
      simp only [stands] at stepped
      cases standing with
      | checkVip current =>
          have quiet : FlowSend.notes s .step = [] := by
            simp [FlowSend.notes, stands]
          rw [quiet, List.append_nil]
          obtain ⟨vip, -, rfl⟩ := Option.map_eq_some_iff.mp stepped
          split
          · exact ⟨failures, holds.grounded, holds.distinct, [], _, same,
              .reportVip current, paid⟩
          · exact ⟨failures, holds.grounded, holds.distinct, [], _, same,
              .authorize current, paid⟩
  | reportVip session =>
      rw [stands] at standing
      simp only [stands] at stepped
      cases standing with
      | reportVip current =>
          have quiet : FlowSend.notes s .step = [] := by
            simp [FlowSend.notes, stands]
          rw [quiet, List.append_nil]
          obtain ⟨vip, -, rfl⟩ := Option.map_eq_some_iff.mp stepped
          exact ⟨failures, holds.grounded, holds.distinct, [], _, same,
            .returned (.vip session vip), paid⟩
  | invalidate failed id =>
      rw [stands] at standing
      simp only [stands] at stepped
      cases standing with
      | @invalidate failure _ phase current called out =>
          split at stepped
          · rename_i returned
            cases stepped
            rw [called] at returned
            cases returned
            have noting : FlowSend.notes s .step =
                [.invalidated failure.session] := by
              simp [FlowSend.notes, stands]
            rw [noting]
            exact ⟨failures ++ [failure],
              holds.invalidated current (out rfl) paid same⟩
          · cases stepped
  | authorize session =>
      simp only [stands] at stepped
      cases stepped
  | send flow =>
      simp only [stands] at stepped
      cases stepped
  | returned result =>
      simp only [stands] at stepped
      cases stepped

/-- One step keeps the invariant. -/
theorem next {action : Action} (holds : Holds target noted s failures)
    (stepped : FlowSend.next target s action = some s') :
    ∃ later, Holds target (noted ++ FlowSend.notes s action) s' later := by
  cases action with
  | manager action =>
      have quiet : FlowSend.notes s (.manager action) = [] := rfl
      rw [quiet, List.append_nil]
      exact ⟨failures, holds.manager stepped⟩
  | step => exact holds.step stepped
  | authorizeReturns result =>
      exact ⟨failures, holds.authorizeReturns stepped⟩
  | sendReturns result => exact ⟨failures, holds.sendReturns stepped⟩

end Holds

/-! ## The steps that are left -/

/-- A bound on the steps of the current pass. -/
def Phase.rank : Phase → Nat
  | .invalidate _ _ => 6
  | .start => 5
  | .session _ => 4
  | .checkVip _ => 3
  | .authorize _ => 2
  | .reportVip _ => 1
  | .send _ => 1
  | .returned _ => 0

/-- A bound on the steps that the call can still take. -/
def State.rank (s : State) : Nat :=
  6 * (s.budget.closed + s.budget.authTimeout) + s.phase.rank

theorem RetryBudget.consume_lt {budget after : RetryBudget}
    {error : L3SessionError} {retry : RetryDecision}
    (granted : budget.consume error = some (retry, after)) :
    after.closed + after.authTimeout < budget.closed + budget.authTimeout := by
  unfold RetryBudget.consume at granted
  split at granted
  · split at granted
    · cases granted
      dsimp only
      omega
    · cases granted
  · split at granted
    · cases granted
      dsimp only
      omega
    · cases granted
  · cases granted

theorem rank_fail {target : Target} {s s' : State} {failed : SessionRef}
    {error : L3SessionError} {refusal : List FlowEvent}
    (stepped : s.fail target failed error refusal = some s')
    (left : 0 < s.phase.rank) : s'.rank < s.rank := by
  unfold State.fail at stepped
  split at stepped
  · rename_i retry budget granted
    have paid := RetryBudget.consume_lt granted
    obtain ⟨after, -, rfl⟩ := Option.map_eq_some_iff.mp stepped
    change 6 * (budget.closed + budget.authTimeout) + 6 < s.rank
    unfold State.rank
    omega
  · cases stepped
    change 6 * (s.budget.closed + s.budget.authTimeout) + 0 < s.rank
    unfold State.rank
    omega

/-- Every step of the call itself leaves fewer steps to take, and the manager
leaves as many. -/
theorem rank_next {target : Target} {s s' : State} {action : Action}
    (stepped : next target s action = some s') :
    s'.rank + (if action.own then 1 else 0) ≤ s.rank := by
  cases action with
  | manager action =>
      simp only [next] at stepped
      split at stepped
      · cases stepped
      · obtain ⟨after, -, rfl⟩ := Option.map_eq_some_iff.mp stepped
        exact le_rfl
  | step =>
      simp only [next, State.step] at stepped
      change s'.rank < s.rank
      cases stands : s.phase with
      | start =>
          simp only [stands] at stepped
          obtain ⟨after, -, rfl⟩ := Option.map_eq_some_iff.mp stepped
          simp only [State.rank, stands, Phase.rank]
          omega
      | session id =>
          simp only [stands] at stepped
          split at stepped
          · cases stepped
            simp only [State.rank, stands, Phase.rank]
            omega
          · cases stepped
            simp only [State.rank, stands, Phase.rank]
            omega
          · cases stepped
      | checkVip session =>
          simp only [stands] at stepped
          obtain ⟨vip, -, rfl⟩ := Option.map_eq_some_iff.mp stepped
          split
          · simp only [State.rank, stands, Phase.rank]
            omega
          · simp only [State.rank, stands, Phase.rank]
            omega
      | reportVip session =>
          simp only [stands] at stepped
          obtain ⟨vip, -, rfl⟩ := Option.map_eq_some_iff.mp stepped
          simp only [State.rank, stands, Phase.rank]
          omega
      | invalidate failed id =>
          simp only [stands] at stepped
          split at stepped
          · cases stepped
            simp only [State.rank, stands, Phase.rank]
            omega
          · cases stepped
      | _ =>
          simp only [stands] at stepped
          cases stepped
  | authorizeReturns result =>
      simp only [next, State.authorizeReturns] at stepped
      change s'.rank < s.rank
      split at stepped
      · rename_i session stands
        split at stepped
        · cases stepped
          simp only [State.rank, stands, Phase.rank]
          omega
        · exact rank_fail stepped (by rw [stands]; exact Nat.zero_lt_succ _)
      · cases stepped
  | sendReturns result =>
      simp only [next, State.sendReturns] at stepped
      change s'.rank < s.rank
      split at stepped
      · rename_i flow stands
        split at stepped
        · cases stepped
          simp only [State.rank, stands, Phase.rank]
          omega
        · exact rank_fail stepped (by rw [stands]; exact Nat.zero_lt_succ _)
      · cases stepped


/-- The call of the manager has returned. -/
def ended : Manager.Call → Bool
  | .session (.returned _) => true
  | .invalidate _ .returned => true
  | _ => false

/-- A call that has not returned can take a step, or waits for a call of the
manager that has not returned. -/
theorem Holds.progress {target : Target} {noted : List Note} {s : State}
    {failures : List Failure} (holds : Holds target noted s failures) :
    (∃ result, s.phase = .returned result) ∨
      (∃ action, Action.own action = true ∧
        (FlowSend.next target s action).isSome) ∨
      ∃ id call, s.phase.awaits = some id ∧
        s.manager.calls id = some call ∧ ended call = false := by
  obtain ⟨pending, last, -, standing, -⟩ := holds.standing
  have addressed : ∀ session, Current s.manager failures session →
      (s.manager.vip session).isSome := by
    intro session current
    rw [Manager.State.vip, Option.isSome_map]
    exact current.issued.known
  cases stands : s.phase with
  | start =>
      exact .inr (.inl ⟨.step, rfl, by
        simp [FlowSend.next, State.step, stands, Manager.next]⟩)
  | session id =>
      rw [stands] at standing
      cases standing with
      | @session _ call called asked unheld =>
          right
          cases open' : ended call with
          | false => exact .inr ⟨id, call, rfl, called, open'⟩
          | true =>
              left
              refine ⟨.step, rfl, ?_⟩
              cases call with
              | session phase =>
                  cases phase with
                  | returned result =>
                      cases result <;>
                        simp [FlowSend.next, State.step, stands, called]
                  | _ => cases open'
              | _ => cases asked
  | checkVip session =>
      rw [stands] at standing
      cases standing with
      | checkVip current =>
          exact .inr (.inl ⟨.step, rfl, by
            simpa [FlowSend.next, State.step, stands] using
              addressed session current⟩)
  | reportVip session =>
      rw [stands] at standing
      cases standing with
      | reportVip current =>
          exact .inr (.inl ⟨.step, rfl, by
            simpa [FlowSend.next, State.step, stands] using
              addressed session current⟩)
  | authorize session =>
      exact .inr (.inl ⟨.authorizeReturns (.ok ""), rfl, by
        simp [FlowSend.next, State.authorizeReturns, stands]⟩)
  | send flow =>
      exact .inr (.inl ⟨.sendReturns (.ok ()), rfl, by
        simp [FlowSend.next, State.sendReturns, stands]⟩)
  | invalidate failed id =>
      rw [stands] at standing
      cases standing with
      | @invalidate failure _ phase current called out =>
          right
          cases phase with
          | returned =>
              exact .inl ⟨.step, rfl, by
                simp [FlowSend.next, State.step, stands, called]⟩
          | _ => exact .inr ⟨id, _, rfl, called, rfl⟩
  | returned result => exact .inl ⟨result, rfl⟩

/-! ## Every run -/

/-- What a run amounts to.  The operations that have returned are those of the
failures that were retried, each followed by the invalidation of its session,
and those of the last pass. -/
structure Account (target : Target) (actions : List Action) (s : State)
    (noted : List Note) (failures : List Failure) (last : List Note) :
    Prop where
  noted : noted = failures.flatMap Failure.notes ++ last
  current : ∀ failed, .invalidated failed ∉ last
  retried : ∀ failure ∈ failures, retryable failure.error = true
  retries : failures.length ≤ l3ClosedRetries + l3AuthTimeoutRetries
  closed : failures.countP (isClosed ·.error) ≤ l3ClosedRetries
  authTimeout : failures.countP (isAuthTimeout ·.error) ≤ l3AuthTimeoutRetries
  distinct : (failures.map (·.session)).Nodup
  out : ∀ failure ∈ failures, s.manager.session ≠ some failure.session
  spares :
    ∀ failed id after, s.phase = .invalidate failed id →
      Manager.next s.manager (.advance id) = some after →
      after.session = s.manager.session ∨
        s.manager.session = some failed ∧ after.session = none
  concluded :
    ∀ result, s.phase = .returned result →
      Concludes target failures last result
  steps :
    actions.countP Action.own ≤
      6 * (l3ClosedRetries + l3AuthTimeoutRetries) + 5
  progress :
    (∃ result, s.phase = .returned result) ∨
      (∃ action, Action.own action = true ∧ (next target s action).isSome) ∨
      ∃ id call, s.phase.awaits = some id ∧
        s.manager.calls id = some call ∧ ended call = false

theorem Failure.invalidated_notMem_passed (failure : Failure)
    (failed : SessionRef) : .invalidated failed ∉ failure.passed := by
  unfold Failure.passed
  cases failure.connectToken <;> simp

theorem Standing.last {target : Target} {manager : Manager.State}
    {failures pending : List Failure} {phase : Phase} {last : List Note}
    (standing : Standing target manager failures phase pending last)
    (failed : SessionRef) : .invalidated failed ∉ last := by
  cases standing with
  | invalidate current called out =>
      exact Failure.invalidated_notMem_passed _ failed
  | returned concludes =>
      cases concludes with
      | failed failure exhausted =>
          exact Failure.invalidated_notMem_passed _ failed
      | _ => simp
  | _ => simp

theorem Holds.spares {target : Target} {noted : List Note} {s : State}
    {failures : List Failure} (holds : Holds target noted s failures)
    {failed : SessionRef} {id : CallId} {after : Manager.State}
    (stands : s.phase = .invalidate failed id)
    (stepped : Manager.next s.manager (.advance id) = some after) :
    after.session = s.manager.session ∨
      s.manager.session = some failed ∧ after.session = none := by
  obtain ⟨pending, last, -, standing, -⟩ := holds.standing
  rw [stands] at standing
  cases standing with
  | invalidate current called out =>
      simp only [Manager.next, Manager.State.advance, called] at stepped
      exact Manager.session_advanceInvalidate stepped

/-- The steps that the call has taken and those that are left. -/
theorem steps_of_run {target : Target} {start final : State}
    {actions : List Action}
    (ran : run (next target) start actions = some final) :
    actions.countP Action.own + final.rank ≤ start.rank := by
  refine invariant_of_history
    (fun past state => past.countP Action.own + state.rank ≤ start.rank)
    (by simp) ?_ ran
  intro past state action after _ bounded stepped
  have decreases := rank_next stepped
  rw [List.countP_append, List.countP_singleton]
  omega

/-- `authorize_and_send` makes at most as many retries as both budgets allow,
each after `Closed` or `AuthTimeout` within its own budget and after the failed
session, and no other, has been taken out of the manager.  It returns every
other error at once and as it is, and a flow only when its packet has been
sent.  It takes a bounded number of steps, and it only ever waits for an
operation that has not returned. -/
theorem authorize_and_send_account {target : Target} {nodeGroupId : String}
    {endpoints : List L3NodeEndpoint} {actions : List Action} {s : State}
    (ran :
      run (next target) (initial nodeGroupId endpoints) actions = some s) :
    ∃ failures last,
      Account target actions s
        (observed (next target) notes (initial nodeGroupId endpoints) actions)
        failures last := by
  have invariant := invariant_of_observed
    (fun noted state => ∃ failures, Holds target noted state failures)
    ⟨[], Holds.initial nodeGroupId endpoints⟩
    (fun noted state action after holds _ stepped => by
      obtain ⟨failures, kept⟩ := holds
      exact kept.next stepped)
    (@meets_of_forall _ _ _ _ _ (fun _ _ => True) fun _ _ _ => trivial) ran
  obtain ⟨failures, holds⟩ := invariant
  obtain ⟨pending, last, noted, standing, paid⟩ := holds.standing
  obtain ⟨retried, closed, authTimeout, retries⟩ := paid.of_append
  refine ⟨failures, last, noted, standing.last, retried, retries, closed,
    authTimeout, holds.distinct, holds.grounded.out, ?_, ?_, ?_,
    holds.progress⟩
  · intro failed id after stands stepped
    exact holds.spares stands stepped
  · intro result returned
    rw [returned] at standing
    cases standing with
    | returned concludes => exact concludes
  · have bounded := steps_of_run ran
    have begin : (initial nodeGroupId endpoints).rank =
        6 * (l3ClosedRetries + l3AuthTimeoutRetries) + 5 := rfl
    omega

/-- The packet of a flow from `10.0.0.1`. -/
def sampleTarget : Target where
  nodeGroupId := "office"
  appId := "app"
  flow := ⟨.tcp, ⟨10, 0, 0, 1⟩, 40000, ⟨10, 1, 0, 1⟩, 443⟩

/-- The manager establishes a session for one of its calls. -/
def sampleSession (id : CallId) : List Action :=
  [.manager (.advance id), .manager (.advance id), .manager (.advance id),
    .manager (.advance id), .manager (.advance id),
    .manager (.establish id (.ok ⟨10, 0, 0, 1⟩)), .manager (.advance id),
    .manager (.advance id)]

/-- The first session is closed before the flow is authorized. -/
def sampleRetry : List Action :=
  .step :: sampleSession 0 ++
    [.step, .step, .authorizeReturns (.error .closed), .manager (.advance 1),
      .manager (.advance 1), .manager (.advance 1), .manager (.advance 1),
      .step, .step] ++
    sampleSession 2 ++
    [.step, .step, .authorizeReturns (.ok "token"), .sendReturns (.ok ())]

theorem authorize_and_send_account_retry :
    ∃ (s : State),
      run (next sampleTarget) (initial "office" [⟨"node", 443⟩]) sampleRetry =
        some s ∧
      s.phase = .returned (.ok ⟨1, "token"⟩) ∧
      ∃ failures last,
        Account sampleTarget sampleRetry s
          (observed (next sampleTarget) notes
            (initial "office" [⟨"node", 443⟩]) sampleRetry)
          failures last :=
  ⟨_, rfl, rfl, authorize_and_send_account rfl⟩

end HermesAtrust.L3.FlowSend
