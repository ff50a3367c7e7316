import HermesAtrust.L3.ConntrackLaws
import HermesAtrust.L3.Session

/-!
# What a step of the session can do

The results about runs look at part of the state only, the `Ledger`: table,
callers, address, shutdown, the program counters of reader and retry scheduler,
and beside them the write queue and the packet subscriptions.  Clock, counters
and acknowledgements stay outside.  `CallerStep` lists once what a caller can do
in one step, `TaskStep` what any other task can do.
-/

namespace HermesAtrust.L3

open HermesAtrust.Framing HermesAtrust.Protocol HermesAtrust.Collections

/-- The write queue and the packet subscriptions. -/
structure Periphery where
  queue : List OutboundFrame
  wire : List OutboundFrame
  writer : WriterPc
  subscribers : HashTable FlowKey Nat
  subscribing : Option SubscribeStage

namespace Periphery

def enqueue (side : Periphery) (frame : OutboundFrame) : Periphery :=
  { side with queue := side.queue ++ [frame] }

def setWriter (side : Periphery) (position : WriterPc) : Periphery :=
  { side with writer := position }

def unsubscribeAll (side : Periphery) : Periphery :=
  { side with subscribers := ∅ }

end Periphery

/-- The part of the state that decides about authorizations. -/
structure Ledger where
  vip : Ipv4Addr
  shutdown : ShutdownPhase
  table : ConntrackTable
  tableOwner : Option Nat
  callers : Nat → Option Caller
  reader : ReaderPc
  scheduler : SchedulerPc
  side : Periphery

def State.periphery (s : State) : Periphery where
  queue := s.queue
  wire := s.wire
  writer := s.writer
  subscribers := s.subscribers
  subscribing := s.subscribing

def State.ledger (s : State) : Ledger where
  vip := s.vip
  shutdown := s.shutdown
  table := s.table
  tableOwner := s.tableOwner
  callers := s.callers
  reader := s.reader
  scheduler := s.scheduler
  side := s.periphery

namespace Ledger

/-- Caller `c` works for the request and stands at the phase. -/
def InPhase (l : Ledger) (c : Nat) (request : AuthRequest)
    (phase : CallerPhase) : Prop :=
  l.callers c = some ⟨request, phase⟩

/-- Caller `c` is registered with an attempt. -/
def Attempting (l : Ledger) (c : Nat) (request : AuthRequest)
    (attempt : Attempt) : Prop :=
  l.InPhase c request (.attempting attempt)

/-- The entry under an auth id. -/
def live (l : Ledger) (authId : Nat) : Option ConntrackEntry :=
  l.table.getByAuthId authId

def closed (l : Ledger) : Prop :=
  l.shutdown ≠ .running

def mapPhases (l : Ledger) (change : Nat → CallerPhase → CallerPhase) :
    Ledger :=
  { l with
    callers := fun c =>
      (l.callers c).map fun caller =>
        { caller with phase := change c caller.phase } }

def setPhase (l : Ledger) (c : Nat) (phase : CallerPhase) : Ledger :=
  l.mapPhases fun d old => if d = c then phase else old

def wake (l : Ledger) (selected : Nat → Bool) (slot : Slot) : Ledger :=
  l.mapPhases fun _ => CallerPhase.wake selected slot

/-- A new call of `authorize_flow`. -/
def start (l : Ledger) (c : Nat) (request : AuthRequest) : Ledger :=
  { l with
    callers := fun d =>
      if d = c then some ⟨request, .checkClosed⟩ else l.callers d }

/-- A task is about to hand this outcome to the waiters of the id. -/
def Delivering (l : Ledger) (authId : Nat) (outcome : AuthOutcome) : Prop :=
  (l.reader = .settle authId outcome ∨ l.reader = .notify authId outcome) ∨
    (l.scheduler = .settle authId outcome ∨
      l.scheduler = .notify authId outcome)

section

variable {l : Ledger} {c d : Nat} {request : AuthRequest}
  {phase phase' : CallerPhase}

theorem inPhase_mapPhases {change : Nat → CallerPhase → CallerPhase} :
    (l.mapPhases change).InPhase c request phase' ↔
      ∃ phase, l.InPhase c request phase ∧ change c phase = phase' := by
  constructor
  · intro after
    obtain ⟨⟨own, stands⟩, before, same⟩ := Option.map_eq_some_iff.mp after
    cases same
    exact ⟨stands, before, rfl⟩
  · rintro ⟨phase, before, rfl⟩
    exact Option.map_eq_some_iff.mpr ⟨⟨request, phase⟩, before, rfl⟩

theorem inPhase_unique {request' : AuthRequest}
    (first : l.InPhase c request phase)
    (second : l.InPhase c request' phase') :
    request = request' ∧ phase = phase' := by
  have same := Option.some.inj (first.symm.trans second)
  exact ⟨congrArg Caller.request same, congrArg Caller.phase same⟩

theorem inPhase_setPhase :
    (l.setPhase d phase).InPhase c request phase' ↔
      ∃ old, l.InPhase c request old ∧
        (if c = d then phase else old) = phase' :=
  inPhase_mapPhases

theorem inPhase_setPhase_of_ne (different : c ≠ d) :
    (l.setPhase d phase).InPhase c request phase' ↔
      l.InPhase c request phase' := by
  simp [inPhase_setPhase, different]

/-- After one caller has moved, a caller is that one, or stands where it
stood. -/
theorem inPhase_setPhase_cases {request' : AuthRequest} {old : CallerPhase}
    (present : l.InPhase d request old)
    (stands : (l.setPhase d phase).InPhase c request' phase') :
    (c = d ∧ request' = request ∧ phase = phase') ∨
      (c ≠ d ∧ l.InPhase c request' phase') := by
  obtain ⟨former, before, chosen⟩ := inPhase_setPhase.mp stands
  by_cases same : c = d
  · subst same
    rw [if_pos rfl] at chosen
    exact Or.inl ⟨rfl, (inPhase_unique before present).1, chosen⟩
  · rw [if_neg same] at chosen
    subst chosen
    exact Or.inr ⟨same, before⟩

theorem inPhase_start {request' : AuthRequest}
    (stands : (l.start d request').InPhase c request phase) :
    phase = .checkClosed ∨ l.InPhase c request phase := by
  unfold InPhase start at stands
  simp only at stands
  split at stands
  · cases stands
    exact Or.inl rfl
  · exact Or.inr stands

/-- A new call leaves the others where they are. -/
theorem inPhase_start_of_fresh {request' : AuthRequest}
    (fresh : l.callers d = none) (stands : l.InPhase c request phase) :
    (l.start d request').InPhase c request phase := by
  have different : c ≠ d := by
    rintro rfl
    rw [InPhase, fresh] at stands
    cases stands
  unfold InPhase start
  simp only [if_neg different]
  exact stands

theorem attempting_wake {selected : Nat → Bool} {slot : Slot}
    {attempt : Attempt} :
    (l.wake selected slot).Attempting c request attempt ↔
      ∃ before, l.Attempting c request before ∧
        before.wake selected slot = attempt := by
  unfold Attempting wake
  rw [inPhase_mapPhases]
  constructor
  · rintro ⟨phase, stands, woken⟩
    cases phase with
    | attempting before =>
        refine ⟨before, stands, ?_⟩
        simpa [CallerPhase.wake] using woken
    | _ => simp [CallerPhase.wake] at woken
  · rintro ⟨before, stands, rfl⟩
    exact ⟨.attempting before, stands, rfl⟩

/-- No sender is selected. -/
theorem wake_none (l : Ledger) (slot : Slot) :
    l.wake (fun _ => false) slot = l := by
  have same : ∀ phase : CallerPhase, phase.wake (fun _ => false) slot = phase := by
    intro phase
    cases phase with
    | attempting attempt => simp [CallerPhase.wake, Attempt.wake]
    | _ => rfl
  unfold wake mapPhases
  simp only [same, Option.map_id']

theorem answered_wake {selected : Nat → Bool} {slot : Slot}
    {result : FlowResult} :
    (l.wake selected slot).InPhase c request (.answered result) ↔
      l.InPhase c request (.answered result) := by
  unfold wake
  rw [inPhase_mapPhases]
  constructor
  · rintro ⟨phase, stands, woken⟩
    cases phase with
    | answered known =>
        cases woken
        exact stands
    | _ => cases woken
  · intro stands
    exact ⟨_, stands, rfl⟩

end

end Ledger

/-- A call returns before it registers or out of its attempt. -/
theorem State.returned_cases {s : State} {c : Nat} {request : AuthRequest}
    {result : FlowResult} (returned : s.returned c = some (request, result)) :
    s.ledger.InPhase c request (.answered result) ∨
      ∃ attempt, s.ledger.Attempting c request attempt ∧
        attempt.stage = .answered result := by
  obtain ⟨⟨own, phase⟩, present, answered⟩ := Option.bind_eq_some_iff.mp returned
  obtain ⟨known, found, same⟩ := Option.map_eq_some_iff.mp answered
  cases same
  unfold CallerPhase.result at found
  split at found
  · rename_i answer
    cases found
    subst answer
    exact Or.inl present
  · rename_i attempt isAttempt
    subst isAttempt
    split at found
    · rename_i stands
      cases found
      exact Or.inr ⟨attempt, present, stands⟩
    · cases found
  · cases found

theorem State.closed_iff {s : State} : s.closed = true ↔ s.ledger.closed := by
  simp [State.closed, Ledger.closed, State.ledger]

theorem State.closed_of_stopSignalled {s : State}
    (signalled : s.stopSignalled = true) : s.ledger.closed := by
  unfold State.stopSignalled at signalled
  rw [Bool.and_eq_true] at signalled
  exact bne_iff_ne.mp signalled.1

namespace Attempt

variable {selected : Nat → Bool} {slot : Slot} {attempt : Attempt}

@[simp]
theorem wake_authId : (attempt.wake selected slot).authId = attempt.authId := by
  unfold wake
  split <;> rfl

@[simp]
theorem wake_mustSend :
    (attempt.wake selected slot).mustSend = attempt.mustSend := by
  unfold wake
  split <;> rfl

@[simp]
theorem wake_stage : (attempt.wake selected slot).stage = attempt.stage := by
  unfold wake
  split <;> rfl

theorem wake_slot :
    (attempt.wake selected slot).slot =
      if attempt.slot = .registered ∧ selected attempt.authId = true then slot
      else attempt.slot := by
  unfold wake
  split <;> rfl

/-- A sender that is still stored was not selected. -/
theorem registered_of_wake (spent : slot ≠ .registered)
    (still : (attempt.wake selected slot).slot = .registered) :
    attempt.slot = .registered ∧ selected attempt.authId = false := by
  rw [wake_slot] at still
  split at still
  · exact absurd still spent
  · rename_i unselected
    refine ⟨still, ?_⟩
    cases chosen : selected attempt.authId with
    | false => rfl
    | true => exact absurd ⟨still, chosen⟩ unselected

end Attempt

/-! ## Steps of a caller -/

/-- The steps of a caller that stands at a phase, with their guards. -/
inductive CallerStep (cfg : SessionConfig) (s : State) (c : Nat)
    (request : AuthRequest) : Action → CallerPhase → State → Prop where
  | check {order : IterationOrder ConntrackEntry} {phase phase' : CallerPhase}
      (checked : s.checkPhase request phase = some phase') :
      CallerStep cfg s c request (.advance c order) phase
        (s.setPhase c phase')
  | claim {order : IterationOrder ConntrackEntry}
      (free : s.tableOwner = none) :
      CallerStep cfg s c request (.advance c order) .claim
        (s.claimFlow order c request)
  | claimSettle {order : IterationOrder ConntrackEntry} :
      CallerStep cfg s c request (.advance c order) .claimSettle
        ({ s with
            stats :=
              { s.stats with inFlight := s.stats.inFlight - 1 } }.setPhase c
          .claimInsert)
  | insert {order : IterationOrder ConntrackEntry}
      (room : s.table.nextAuthId + 1 < authIdSpace) :
      CallerStep cfg s c request (.advance c order) .claimInsert
        (s.insertFlow c request)
  | read {order : IterationOrder ConntrackEntry} {attempt : Attempt}
      {stage : Stage}
      (moved : s.readStage cfg c request attempt = some stage) :
      CallerStep cfg s c request (.advance c order) (.attempting attempt)
        (s.setAttempt c { attempt with stage := stage })
  | storeFrame {order : IterationOrder ConntrackEntry} {attempt : Attempt}
      {frame : Bytes} (stands : attempt.stage = .storeFrame frame)
      (free : s.tableOwner = none) :
      CallerStep cfg s c request (.advance c order) (.attempting attempt)
        ({ s with
            table :=
              s.table.modifyByAuthId attempt.authId fun entry =>
                if entry.authInFlight then
                  entry.setReusableFrame frame
                    (s.now + cfg.retry.overallAuthDeadline)
                else
                  entry }.setAttempt c
          { attempt with stage := .openWrite frame })
  | enqueueFailed {order : IterationOrder ConntrackEntry} {attempt : Attempt}
      {frame : Bytes} (stands : attempt.stage = .enqueue frame)
      (ended : s.stopSignalled = true ∨ s.writer = .stopped) :
      CallerStep cfg s c request (.advance c order) (.attempting attempt)
        (s.setAttempt c { attempt with stage := .abandonEvict .writeFailed })
  | enqueue {order : IterationOrder ConntrackEntry} {attempt : Attempt}
      {frame : Bytes} (stands : attempt.stage = .enqueue frame) :
      CallerStep cfg s c request (.advance c order) (.attempting attempt)
        (((s.enqueue
            ⟨frame, .request attempt.authId, .caller c⟩).acknowledge
          (.caller c) .waiting).setAttempt c
            { attempt with stage := .awaitWrite })
  | recordSent {order : IterationOrder ConntrackEntry} {attempt : Attempt}
      (stands : attempt.stage = .recordSent) :
      CallerStep cfg s c request (.advance c order) (.attempting attempt)
        ({ s with stats := s.stats.recordAuthSent }.setAttempt c
          { attempt with stage := .arm })
  | abandonEvict {order : IterationOrder ConntrackEntry} {attempt : Attempt}
      {reason : AbandonReason} (stands : attempt.stage = .abandonEvict reason)
      (free : s.tableOwner = none) :
      CallerStep cfg s c request (.advance c order) (.attempting attempt)
        ({ s with
            table := (s.table.evictByAuthId attempt.authId).1 }.setAttempt c
          { attempt with stage := .abandonRemove reason })
  | abandonRemove {order : IterationOrder ConntrackEntry} {attempt : Attempt}
      {reason : AbandonReason}
      (stands : attempt.stage = .abandonRemove reason) :
      CallerStep cfg s c request (.advance c order) (.attempting attempt)
        ((s.dropWaiters attempt.authId).setAttempt c
          { attempt.wake (· == attempt.authId) .dropped with
            stage := State.afterAbandon request attempt.mustSend reason })
  | settleTimeout {order : IterationOrder ConntrackEntry} {attempt : Attempt}
      (stands : attempt.stage = .settleTimeout) :
      CallerStep cfg s c request (.advance c order) (.attempting attempt)
        ({ s with stats := s.stats.settleAuth true }.setAttempt c
          { attempt with
            stage := .answered (.error (.authTimeout request.key.text)) })
  | expire {attempt : Attempt} {deadline : Nat}
      (stands : attempt.stage = .await deadline)
      (empty : attempt.slot = .registered) (due : deadline ≤ s.now) :
      CallerStep cfg s c request (.expire c) (.attempting attempt)
        (s.setAttempt c { attempt with stage := .abandonEvict .timedOut })
  | cancel {attempt : Attempt}
      (suspended :
        (∃ frame, attempt.stage = .enqueue frame) ∨
          attempt.stage = .awaitWrite ∨
          ∃ deadline, attempt.stage = .await deadline) :
      CallerStep cfg s c request (.cancel c) (.attempting attempt)
        (s.setAttempt c { attempt with stage := .cancelled })

section

variable {cfg : SessionConfig} {s s' : State} {c : Nat}
  {order : IterationOrder ConntrackEntry} {caller : Caller}

private theorem callerStep_of_advanceAttempt {request : AuthRequest}
    {attempt : Attempt}
    (moved : s.advanceAttempt cfg c request attempt = some s') :
    CallerStep cfg s c request (.advance c order) (.attempting attempt) s' := by
  unfold State.advanceAttempt at moved
  split at moved
  · rename_i frame stands
    split at moved
    · rename_i free
      cases moved
      exact .storeFrame stands free
    · cases moved
  · rename_i frame stands
    split at moved
    · rename_i ended
      cases moved
      exact .enqueueFailed stands ended
    · split at moved
      · cases moved
        exact .enqueue stands
      · cases moved
  · rename_i stands
    cases moved
    exact .recordSent stands
  · rename_i reason stands
    split at moved
    · rename_i free
      cases moved
      exact .abandonEvict stands free
    · cases moved
  · rename_i reason stands
    cases moved
    exact .abandonRemove stands
  · rename_i stands
    cases moved
    exact .settleTimeout stands
  · obtain ⟨stage, read, rfl⟩ := Option.map_eq_some_iff.mp moved
    exact .read read

theorem callerStep_of_advanceCaller
    (moved : s.advanceCaller cfg order c caller = some s') :
    CallerStep cfg s c caller.request (.advance c order) caller.phase s' := by
  obtain ⟨request, phase⟩ := caller
  unfold State.advanceCaller at moved
  split at moved
  · rename_i stands
    split at moved
    · rename_i free
      cases moved
      rw [stands]
      exact .claim free
    · cases moved
  · rename_i stands
    cases moved
    rw [stands]
    exact .claimSettle
  · rename_i stands
    split at moved
    · rename_i room
      cases moved
      rw [stands]
      exact .insert room
    · cases moved
  · rename_i attempt stands
    rw [stands]
    exact callerStep_of_advanceAttempt moved
  · obtain ⟨phase', checked, rfl⟩ := Option.map_eq_some_iff.mp moved
    exact .check checked

theorem callerStep_of_expire (moved : s.expire c caller = some s') :
    CallerStep cfg s c caller.request (.expire c) caller.phase s' := by
  unfold State.expire at moved
  split at moved
  · rename_i attempt standing
    split at moved
    · rename_i deadline stands
      split at moved
      · rename_i fires
        cases moved
        rw [standing]
        exact .expire stands fires.1 fires.2
      · cases moved
    · cases moved
  · cases moved

theorem callerStep_of_cancel (moved : s.cancel c caller = some s') :
    CallerStep cfg s c caller.request (.cancel c) caller.phase s' := by
  unfold State.cancel at moved
  split at moved
  · rename_i attempt standing
    split at moved
    · rename_i frame stands
      cases moved
      rw [standing]
      exact .cancel (Or.inl ⟨frame, stands⟩)
    · rename_i stands
      cases moved
      rw [standing]
      exact .cancel (Or.inr (Or.inl stands))
    · rename_i deadline stands
      cases moved
      rw [standing]
      exact .cancel (Or.inr (Or.inr ⟨deadline, stands⟩))
    · cases moved
  · cases moved

end

/-- The steps in front of the claim. -/
inductive CheckStep (s : State) (request : AuthRequest) :
    CallerPhase → CallerPhase → Prop where
  | closed (closed : s.ledger.closed) :
      CheckStep s request .checkClosed (.answered (.error .closed))
  | running : CheckStep s request .checkClosed .checkVip
  | foreign : CheckStep s request .checkVip .reportVip
  | own (own : request.flow.srcAddr = s.vip) :
      CheckStep s request .checkVip .claim
  | report :
      CheckStep s request .reportVip
        (.answered (.error (.vipChanged request.flow.srcAddr s.vip)))

theorem checkStep_of_checkPhase {s : State} {request : AuthRequest}
    {phase phase' : CallerPhase}
    (checked : s.checkPhase request phase = some phase') :
    CheckStep s request phase phase' := by
  unfold State.checkPhase at checked
  split at checked
  · cases checked
    split
    · rename_i closed
      exact .closed (State.closed_iff.mp closed)
    · exact .running
  · cases checked
    split
    · exact .foreign
    · rename_i own
      exact .own (not_not.mp own)
  · cases checked
    exact .report
  · cases checked

/-- The steps of a registered caller that only read shared state. -/
inductive ReadStep (cfg : SessionConfig) (s : State) (c : Nat)
    (request : AuthRequest) (attempt : Attempt) : Stage → Prop where
  | buildFailed {error : FlowAuthError} (stands : attempt.stage = .build) :
      ReadStep cfg s c request attempt (.abandonEvict (.buildFailed error))
  | built {frame : Bytes} (stands : attempt.stage = .build)
      (built :
        buildFlowAuthFrame cfg.codec request.ctx request.appId
          attempt.authId request.flow.toFiveTuple = .ok frame) :
      ReadStep cfg s c request attempt (.storeFrame frame)
  | openClosed {frame : Bytes} (stands : attempt.stage = .openWrite frame)
      (closed : s.ledger.closed) :
      ReadStep cfg s c request attempt (.abandonEvict .writeFailed)
  | openRunning {frame : Bytes} (stands : attempt.stage = .openWrite frame) :
      ReadStep cfg s c request attempt (.enqueue frame)
  | writeStopped (stands : attempt.stage = .awaitWrite)
      (stopped : s.stopSignalled = true) :
      ReadStep cfg s c request attempt (.abandonEvict .writeFailed)
  | writeFailed (stands : attempt.stage = .awaitWrite)
      (failed : s.acks c = .failed) :
      ReadStep cfg s c request attempt (.abandonEvict .writeFailed)
  | written (stands : attempt.stage = .awaitWrite) :
      ReadStep cfg s c request attempt .recordSent
  | armed {deadline : Nat} (stands : attempt.stage = .arm) :
      ReadStep cfg s c request attempt (.await deadline)
  | ready {deadline : Nat} {connectToken : String}
      (stands : attempt.stage = .await deadline)
      (sent : attempt.slot = .sent (.ready connectToken)) :
      ReadStep cfg s c request attempt (.resumeReady connectToken)
  | refused {deadline : Nat} {message : String}
      (stands : attempt.stage = .await deadline)
      (sent : attempt.slot = .sent (.failed message)) :
      ReadStep cfg s c request attempt
        (.answered (.error (.flowAuth (.authFailed message))))
  | dropped {deadline : Nat} (stands : attempt.stage = .await deadline)
      (dropped : attempt.slot = .dropped) :
      ReadStep cfg s c request attempt .resumeDropped
  | granted {connectToken : String}
      (stands : attempt.stage = .resumeReady connectToken) :
      ReadStep cfg s c request attempt (.answered (.ok connectToken))
  | ended (stands : attempt.stage = .resumeDropped)
      (own : request.flow.srcAddr = s.vip) :
      ReadStep cfg s c request attempt (.answered (.error .closed))
  | moved
      (stands :
        (∃ connectToken, attempt.stage = .resumeReady connectToken) ∨
          attempt.stage = .resumeDropped)
      (foreign : request.flow.srcAddr ≠ s.vip) :
      ReadStep cfg s c request attempt .reportVip
  | reported (stands : attempt.stage = .reportVip) :
      ReadStep cfg s c request attempt
        (.answered (.error (.vipChanged request.flow.srcAddr s.vip)))

theorem readStep_of_readStage {cfg : SessionConfig} {s : State} {c : Nat}
    {request : AuthRequest} {attempt : Attempt} {stage : Stage}
    (moved : s.readStage cfg c request attempt = some stage) :
    ReadStep cfg s c request attempt stage := by
  unfold State.readStage at moved
  split at moved
  · rename_i stands
    split at moved
    · cases moved
      exact .buildFailed stands
    · rename_i frame built
      cases moved
      exact .built stands built
  · rename_i frame stands
    cases moved
    split
    · rename_i closed
      exact .openClosed stands (State.closed_iff.mp closed)
    · exact .openRunning stands
  · rename_i stands
    split at moved
    · rename_i stopped
      cases moved
      exact .writeStopped stands stopped
    · split at moved
      · cases moved
        exact .written stands
      · rename_i failed
        cases moved
        exact .writeFailed stands failed
      · cases moved
  · rename_i stands
    cases moved
    exact .armed stands
  · rename_i deadline stands
    split at moved
    · cases moved
    · rename_i connectToken sent
      cases moved
      exact .ready stands sent
    · rename_i message sent
      cases moved
      exact .refused stands sent
    · rename_i dropped
      cases moved
      exact .dropped stands dropped
  · rename_i connectToken stands
    cases moved
    split
    · rename_i foreign
      exact .moved (Or.inl ⟨connectToken, stands⟩) foreign
    · exact .granted stands
  · rename_i stands
    cases moved
    split
    · rename_i foreign
      exact .moved (Or.inr stands) foreign
    · rename_i own
      exact .ended stands (not_not.mp own)
  · rename_i stands
    cases moved
    exact .reported stands
  · cases moved

/-- `abandon_flow` is followed by an error, or by the timeout counter. -/
theorem afterAbandon_cases (request : AuthRequest) (mustSend : Bool)
    (reason : AbandonReason) :
    State.afterAbandon request mustSend reason = .settleTimeout ∨
      ∃ error, State.afterAbandon request mustSend reason =
          .answered (.error error) ∧
        (error = .closed → reason = .writeFailed) := by
  cases reason with
  | buildFailed error => exact Or.inr ⟨_, rfl, by simp⟩
  | writeFailed => exact Or.inr ⟨_, rfl, by simp⟩
  | timedOut =>
      cases mustSend with
      | true => exact Or.inl rfl
      | false => exact Or.inr ⟨_, rfl, by simp⟩

/-! ## Steps of the other tasks -/

/-- Reader positions that neither deliver an outcome nor change the address. -/
def ReaderPc.plain : ReaderPc → Bool
  | .idle | .queueRetry _ _ | .retryQueued | .retryRefused _ | .failRetry _
  | .touching _ | .stopped => true
  | _ => false

/-- Scheduler positions that neither deliver nor look for an outcome. -/
def SchedulerPc.plain : SchedulerPc → Bool
  | .outcome _ | .settle _ _ | .notify _ _ => false
  | _ => true

theorem ReaderPc.not_delivering {position : ReaderPc}
    (plain : position.plain = true) (authId : Nat) (outcome : AuthOutcome) :
    ¬ (position = .settle authId outcome ∨
      position = .notify authId outcome) := by
  rintro (rfl | rfl) <;> cases plain

theorem SchedulerPc.not_delivering {position : SchedulerPc}
    (plain : position.plain = true) (authId : Nat) (outcome : AuthOutcome) :
    ¬ (position = .settle authId outcome ∨
      position = .notify authId outcome) := by
  rintro (rfl | rfl) <;> cases plain

namespace Ledger

/-- The first part of `shutdown`. -/
def beginShutdown (l : Ledger) : Ledger :=
  if l.shutdown = .running then { l with shutdown := .stopSignal } else l

theorem beginShutdown_closed (l : Ledger) : l.beginShutdown.closed := by
  unfold beginShutdown
  split
  · intro impossible
    cases impossible
  · rename_i closed
    exact closed

theorem beginShutdown_eq (l : Ledger) :
    ∃ shutdown, l.beginShutdown = { l with shutdown := shutdown } := by
  unfold beginShutdown
  split
  · exact ⟨_, rfl⟩
  · exact ⟨l.shutdown, rfl⟩

theorem beginShutdown_side (l : Ledger) : l.beginShutdown.side = l.side := by
  obtain ⟨shutdown, begun⟩ := l.beginShutdown_eq
  rw [begun]

end Ledger

/-- The writer has left its loop. -/
def WriterPc.ending : WriterPc → Bool
  | .closing _ | .stopped => true
  | _ => false

/-- The steps that touch the write queue or the packet subscriptions only. -/
inductive SideStep (l : Ledger) : Action → Periphery → Prop where
  | kept {action : Action} : SideStep l action l.side
  | otherQueued {bytes : Bytes} :
      SideStep l (.enqueueOther bytes)
        (l.side.enqueue ⟨bytes, .other, .nobody⟩)
  | taken {result : WriteResult} {frame : OutboundFrame}
      {later : List OutboundFrame} (waiting : l.side.queue = frame :: later) :
      SideStep l (.writer result)
        { l.side with
          queue := later
          wire := l.side.wire ++ [frame]
          writer := .writing frame }
  | writerMove {result : WriteResult} {position : WriterPc}
      (open_ : position.ending = false) :
      SideStep l (.writer result) (l.side.setWriter position)
  | writerEnding {result : WriteResult} {frames : List OutboundFrame}
      (closed : l.closed) :
      SideStep l (.writer result) (l.side.setWriter (.closing frames))
  | writerStopped {result : WriteResult} {frames : List OutboundFrame}
      (stands : l.side.writer = .closing frames) :
      SideStep l (.writer result)
        { l.side with queue := [], writer := .stopped }
  | subscribe {flow : Ipv4Flow} (running : l.shutdown = .running)
      (free : l.side.subscribing = none) :
      SideStep l (.subscribeFlow flow)
        { l.side with subscribing := some (.checkVip flow) }
  | subscriberLeft :
      SideStep l .subscriber { l.side with subscribing := none }
  | subscriberChecked {flow : Ipv4Flow}
      (stands : l.side.subscribing = some (.checkVip flow))
      (own : flow.srcAddr = l.vip) :
      SideStep l .subscriber
        { l.side with subscribing := some (.insert flow) }
  | subscriberInserted {flow : Ipv4Flow} {id : Nat}
      (stands : l.side.subscribing = some (.insert flow)) :
      SideStep l .subscriber
        { l.side with
          subscribers := l.side.subscribers.insert flow.flowKey id
          subscribing := none }
  | flowPacketsDropped {key : FlowKey} {id : Nat} :
      SideStep l (.dropFlowPackets key id)
        { l.side with subscribers := l.side.subscribers.erase key }

/-- The steps of the tasks other than callers, as far as the ledger goes. -/
inductive TaskStep (cfg : SessionConfig) (l : Ledger) :
    Action → Ledger → Prop where
  | side {action : Action} {side : Periphery}
      (moves : SideStep l action side) :
      TaskStep cfg l action { l with side := side }
  | authorizeFlow {c : Nat} {request : AuthRequest}
      (fresh : l.callers c = none) :
      TaskStep cfg l (.authorizeFlow c request) (l.start c request)
  | settled {status : UInt8} {json : Bytes} {table : ConntrackTable}
      {authId : Nat} {outcome : AuthOutcome} (free : l.tableOwner = none)
      (idle : l.reader = .idle)
      (applied :
        applyAuthWireStatus cfg.codec l.table status json =
          .ok (table, authId))
      (verdict : (table.getByAuthId authId).bind (·.outcome) = some outcome) :
      TaskStep cfg l (.receive (.auth status json))
        { l with table := table, reader := .settle authId outcome }
  | applied {status : UInt8} {json : Bytes} {table : ConntrackTable}
      {authId : Nat} (free : l.tableOwner = none) (idle : l.reader = .idle)
      (applied :
        applyAuthWireStatus cfg.codec l.table status json =
          .ok (table, authId))
      (verdict : (table.getByAuthId authId).bind (·.outcome) = none) :
      TaskStep cfg l (.receive (.auth status json)) { l with table := table }
  | exhausted {status : UInt8} {json : Bytes} {authId : Nat}
      {entry : ConntrackEntry} (message : String)
      (free : l.tableOwner = none) (idle : l.reader = .idle)
      (live : l.live authId = some entry) (unsettled : entry.outcome = none) :
      TaskStep cfg l (.receive (.auth status json))
        { l with
          table :=
            l.table.modifyByAuthId authId (·.complete (.failed message))
          reader := .settle authId (.failed message) }
  | scheduled {status : UInt8} {json : Bytes} {authId : Nat}
      {position : ReaderPc} (enabled : cfg.retry.enabled = true)
      (free : l.tableOwner = none) (idle : l.reader = .idle)
      (plain : position.plain = true) :
      TaskStep cfg l (.receive (.auth status json))
        { l with
          table :=
            l.table.modifyByAuthId authId fun entry =>
              (entry.scheduleRetry cfg.retry.maxWireRetriesPerFlow).1
          reader := position }
  | vipChanged {status : UInt8} {json : Bytes} {vip : Ipv4Addr}
      (idle : l.reader = .idle) (accepted : status = 0)
      (found : cfg.firstIpv4InJson json = some vip) (changed : l.vip ≠ vip) :
      TaskStep cfg l (.receive (.vipUpdate status json))
        { l with vip := vip, reader := .vipClear }
  | readerMove {action : Action} {position : ReaderPc}
      (plain : l.reader.plain = true) (plain' : position.plain = true) :
      TaskStep cfg l action { l with reader := position }
  | readerSettle {authId : Nat} {outcome : AuthOutcome}
      (stands : l.reader = .settle authId outcome) :
      TaskStep cfg l .reader { l with reader := .notify authId outcome }
  | readerNotify {authId : Nat} {outcome : AuthOutcome}
      (stands : l.reader = .notify authId outcome) :
      TaskStep cfg l .reader
        { l.wake (· == authId) (.sent outcome) with reader := .idle }
  | retryFailed {authId : Nat} {message : String} {outcome : AuthOutcome}
      (free : l.tableOwner = none) (stands : l.reader = .failRetry authId)
      (verdict :
        ((l.table.modifyByAuthId authId
          (·.complete (.failed message))).getByAuthId authId).bind
            (·.outcome) = some outcome) :
      TaskStep cfg l .reader
        { l with
          table :=
            l.table.modifyByAuthId authId (·.complete (.failed message))
          reader := .settle authId outcome }
  | vipClear (cancelled : Nat) (free : l.tableOwner = none)
      (stands : l.reader = .vipClear) :
      TaskStep cfg l .reader
        { l with table := l.table.clear.1, reader := .vipCount cancelled }
  | vipCount {cancelled : Nat} (stands : l.reader = .vipCount cancelled) :
      TaskStep cfg l .reader { l with reader := .vipDrain }
  | vipDrain (stands : l.reader = .vipDrain) :
      TaskStep cfg l .reader
        { l.wake (fun _ => true) .dropped with reader := .vipReset }
  | vipReset (stands : l.reader = .vipReset) :
      TaskStep cfg l .reader { l with reader := .vipUnsubscribe }
  | vipUnsubscribe (stands : l.reader = .vipUnsubscribe)
      (free : l.side.subscribing = none) :
      TaskStep cfg l .reader
        { l with
          reader := .idle
          side := l.side.unsubscribeAll }
  | touch {packet : Bytes} {later : List Bytes} {table : ConntrackTable}
      (free : l.tableOwner = none)
      (stands : l.reader = .touching (packet :: later))
      (touched :
        table = l.table ∨ ∃ key now, table = (l.table.touchAt key now).1) :
      TaskStep cfg l .reader
        { l with table := table, reader := .touching later }
  | readerStop (stands : l.reader = .idle) :
      TaskStep cfg l .readerStop
        { l.beginShutdown with reader := .stopped }
  | schedulerMove {position : SchedulerPc}
      (plain : l.scheduler.plain = true) (plain' : position.plain = true)
      (quiet : ∀ authId frame, position ≠ .enqueue authId frame) :
      TaskStep cfg l .scheduler { l with scheduler := position }
  | retryQueued {authId : Nat} {frame : Bytes}
      (stands : l.scheduler = .enqueue authId frame) :
      TaskStep cfg l .scheduler
        { l with
          scheduler := .awaitWrite
          side := l.side.enqueue ⟨frame, .retry authId, .scheduler⟩ }
  | schedulerClosing (stands : l.scheduler = .writeFailed) :
      TaskStep cfg l .scheduler
        { l.beginShutdown with scheduler := .closing }
  | deadlineExceeded {authId : Nat} {entry : ConntrackEntry}
      (message : String) (free : l.tableOwner = none)
      (stands : l.scheduler = .lookup authId)
      (live : l.live authId = some entry) :
      TaskStep cfg l .scheduler
        { l with
          table :=
            l.table.modifyByAuthId authId (·.complete (.failed message))
          scheduler := .outcome authId }
  | retryTaken {authId : Nat} {entry : ConntrackEntry} {frame : Bytes}
      (free : l.tableOwner = none) (stands : l.scheduler = .lookup authId)
      (live : l.live authId = some entry)
      (taken : entry.takeRetry.2 = some frame) :
      TaskStep cfg l .scheduler
        { l with
          table := l.table.modifyByAuthId authId fun stored => stored.takeRetry.1
          scheduler := .enqueue authId frame }
  | retryVoid {authId : Nat} {entry : ConntrackEntry}
      (free : l.tableOwner = none) (stands : l.scheduler = .lookup authId)
      (live : l.live authId = some entry)
      (taken : entry.takeRetry.2 = none) :
      TaskStep cfg l .scheduler
        { l with
          table := l.table.modifyByAuthId authId fun stored => stored.takeRetry.1
          scheduler := .outcome authId }
  | outcomeFound {authId : Nat} {outcome : AuthOutcome}
      (free : l.tableOwner = none) (stands : l.scheduler = .outcome authId)
      (verdict : (l.live authId).bind (·.outcome) = some outcome) :
      TaskStep cfg l .scheduler
        { l with scheduler := .settle authId outcome }
  | outcomeMissing {authId : Nat} (free : l.tableOwner = none)
      (stands : l.scheduler = .outcome authId)
      (verdict : (l.live authId).bind (·.outcome) = none) :
      TaskStep cfg l .scheduler { l with scheduler := .idle }
  | schedulerSettle {authId : Nat} {outcome : AuthOutcome}
      (stands : l.scheduler = .settle authId outcome) :
      TaskStep cfg l .scheduler
        { l with scheduler := .notify authId outcome }
  | schedulerNotify {authId : Nat} {outcome : AuthOutcome}
      (stands : l.scheduler = .notify authId outcome) :
      TaskStep cfg l .scheduler
        { l.wake (· == authId) (.sent outcome) with scheduler := .idle }
  | writerClosing {result : WriteResult} {frames : List OutboundFrame} :
      TaskStep cfg l (.writer result)
        { l.beginShutdown with
          side := l.side.setWriter (.closing frames) }
  | close : TaskStep cfg l .close l.beginShutdown
  | stopSignal (stands : l.shutdown = .stopSignal) :
      TaskStep cfg l .shutdown { l with shutdown := .unsubscribe }
  | unsubscribe (stands : l.shutdown = .unsubscribe)
      (free : l.side.subscribing = none) :
      TaskStep cfg l .shutdown
        { l with
          shutdown := .clearTable
          side := l.side.unsubscribeAll }
  | clearTable (cancelled : Nat) (free : l.tableOwner = none)
      (stands : l.shutdown = .clearTable) :
      TaskStep cfg l .shutdown
        { l with
          table := l.table.clear.1
          shutdown := .countCancelled cancelled }
  | countCancelled {cancelled : Nat}
      (stands : l.shutdown = .countCancelled cancelled) :
      TaskStep cfg l .shutdown { l with shutdown := .drain }
  | drain (stands : l.shutdown = .drain) :
      TaskStep cfg l .shutdown
        { l.wake (fun _ => true) .dropped with shutdown := .finished }

/-- A session never reopens. -/
theorem TaskStep.closed {cfg : SessionConfig} {l l' : Ledger}
    {action : Action} (step : TaskStep cfg l action l') (closed : l.closed) :
    l'.closed := by
  cases step with
  | readerStop stands => exact l.beginShutdown_closed
  | schedulerClosing stands => exact l.beginShutdown_closed
  | writerClosing => exact l.beginShutdown_closed
  | close => exact l.beginShutdown_closed
  | stopSignal stands => exact fun impossible => by cases impossible
  | unsubscribe stands free => exact fun impossible => by cases impossible
  | clearTable cancelled free stands =>
      exact fun impossible => by cases impossible
  | countCancelled stands => exact fun impossible => by cases impossible
  | drain stands => exact fun impossible => by cases impossible
  | _ => exact closed

/-- A caller does not touch the shutdown. -/
theorem CallerStep.shutdown {cfg : SessionConfig} {s s' : State} {c : Nat}
    {request : AuthRequest} {phase : CallerPhase} {action : Action}
    (step : CallerStep cfg s c request action phase s') :
    s'.ledger.shutdown = s.ledger.shutdown := by
  cases step with
  | claim free =>
      unfold State.claimFlow
      simp only
      split <;> rfl
  | insert room =>
      unfold State.insertFlow
      simp only
      split
      · rfl
      · split <;> rfl
  | _ => rfl

section

variable {cfg : SessionConfig} {s s' : State}

theorem ledger_beginShutdown (executor : ShutdownBy) :
    (s.beginShutdown executor).ledger = s.ledger.beginShutdown := by
  unfold State.beginShutdown Ledger.beginShutdown
  by_cases running : s.shutdown = .running
  · have same : s.ledger.shutdown = .running := running
    rw [if_pos running, if_pos same]
    rfl
  · have same : ¬ s.ledger.shutdown = .running := running
    rw [if_neg running, if_neg same]

theorem ledger_acknowledge (target : AckTarget) (ack : Ack) :
    (s.acknowledge target ack).ledger = s.ledger := by
  cases target <;> rfl

theorem ledger_failFrames (frames : List OutboundFrame) :
    (s.failFrames frames).ledger = s.ledger := by
  induction frames generalizing s with
  | nil => rfl
  | cons frame later inductionHypothesis =>
      exact inductionHypothesis.trans (ledger_acknowledge _ _)

private theorem taskStep_of_dispatchTransient {status : UInt8}
    {json : Bytes} {delay : Nat} (enabled : cfg.retry.enabled = true)
    (free : s.tableOwner = none) (idle : s.reader = .idle) :
    TaskStep cfg s.ledger (.receive (.auth status json))
      (s.countTransient.dispatchTransient cfg delay json).ledger := by
  unfold State.dispatchTransient
  split
  · exact .side .kept
  · simp only
    split
    · exact .side .kept
    · split
      · exact .side .kept
      · rename_i entry live
        split
        · exact .side .kept
        · rename_i waiting
          have unsettled : entry.outcome = none := by
            cases outcome : entry.outcome with
            | none => rfl
            | some verdict => simp [outcome] at waiting
          split
          · exact .exhausted "auth retry budget exhausted" free idle live
              unsettled
          · refine .scheduled enabled free idle ?_
            split <;> rfl

private theorem taskStep_of_dispatchSettled {status : UInt8} {json : Bytes}
    (free : s.tableOwner = none) (idle : s.reader = .idle) :
    TaskStep cfg s.ledger (.receive (.auth status json))
      (s.dispatchSettled cfg status json).ledger := by
  unfold State.dispatchSettled
  split
  · exact .side .kept
  · rename_i table authId applied
    split
    · rename_i verdict
      exact .applied free idle applied verdict
    · rename_i outcome verdict
      exact .settled free idle applied verdict

private theorem taskStep_of_dispatchAuth {status : UInt8} {json : Bytes}
    (free : s.tableOwner = none) (idle : s.reader = .idle) :
    TaskStep cfg s.ledger (.receive (.auth status json))
      (s.dispatchAuth cfg status json).ledger := by
  have counted : s.countTransient.ledger = s.ledger := rfl
  have settled :
      TaskStep cfg s.ledger (.receive (.auth status json))
        (s.countTransient.dispatchSettled cfg status json).ledger := by
    rw [← counted]
    exact taskStep_of_dispatchSettled free idle
  unfold State.dispatchAuth
  split
  · split
    · rename_i enabled
      exact taskStep_of_dispatchTransient enabled free idle
    · exact settled
  · split
    · rename_i enabled
      exact taskStep_of_dispatchTransient enabled free idle
    · exact settled
  · exact taskStep_of_dispatchSettled free idle

theorem taskStep_of_dispatch {frame : Inbound} (idle : s.reader = .idle)
    (moved : s.dispatch cfg frame = some s') :
    TaskStep cfg s.ledger (.receive frame) s'.ledger := by
  have plain : s.ledger.reader.plain = true := by
    change s.reader.plain = true
    rw [idle]
    rfl
  unfold State.dispatch at moved
  split at moved
  · split at moved
    · rename_i free
      cases moved
      exact taskStep_of_dispatchAuth free idle
    · cases moved
  · split at moved
    · cases moved
      exact .side .kept
    · rename_i accepted
      split at moved
      · cases moved
        exact .side .kept
      · rename_i vip found
        cases moved
        unfold State.applyVipUpdate
        split
        · exact .side .kept
        · rename_i changed
          exact .vipChanged idle (not_not.mp accepted) found changed
  · cases moved
    exact .readerMove plain rfl
  · cases moved
    exact .readerMove plain rfl
  · cases moved
    exact .side .kept

theorem touched_of_touchInboundFlow (packet : Bytes) :
    s.touchInboundFlow packet = s.table ∨
      ∃ key now, s.touchInboundFlow packet = (s.table.touchAt key now).1 := by
  unfold State.touchInboundFlow
  split
  · exact Or.inl rfl
  · exact Or.inr ⟨_, _, rfl⟩

theorem taskStep_of_advanceReader (moved : s.advanceReader = some s') :
    TaskStep cfg s.ledger .reader s'.ledger := by
  unfold State.advanceReader at moved
  split at moved
  · rename_i authId outcome stands
    cases moved
    exact .readerSettle stands
  · rename_i authId outcome stands
    cases moved
    exact .readerNotify stands
  · rename_i authId delay stands
    have plain : s.ledger.reader.plain = true := by
      change s.reader.plain = true
      rw [stands]
      rfl
    split at moved
    · cases moved
      exact .readerMove plain rfl
    · cases moved
      exact .readerMove plain rfl
  · rename_i stands
    cases moved
    refine .readerMove ?_ rfl
    change s.reader.plain = true
    rw [stands]
    rfl
  · rename_i authId stands
    cases moved
    refine .readerMove ?_ rfl
    change s.reader.plain = true
    rw [stands]
    rfl
  · rename_i authId stands
    split at moved
    · rename_i free
      simp only at moved
      split at moved
      · cases moved
        refine .readerMove ?_ rfl
        change s.reader.plain = true
        rw [stands]
        rfl
      · rename_i outcome verdict
        cases moved
        exact .retryFailed free stands verdict
    · cases moved
  · rename_i stands
    split at moved
    · rename_i free
      cases moved
      exact .vipClear _ free stands
    · cases moved
  · rename_i cancelled stands
    cases moved
    exact .vipCount stands
  · rename_i stands
    cases moved
    exact .vipDrain stands
  · rename_i stands
    cases moved
    exact .vipReset stands
  · rename_i stands
    split at moved
    · rename_i free
      cases moved
      exact .vipUnsubscribe stands free
    · cases moved
  · rename_i stands
    cases moved
    refine .readerMove ?_ rfl
    change s.reader.plain = true
    rw [stands]
    rfl
  · rename_i packet later stands
    split at moved
    · rename_i free
      cases moved
      exact .touch free stands (touched_of_touchInboundFlow packet)
    · cases moved
  · cases moved
  · cases moved

theorem taskStep_of_advanceScheduler (moved : s.advanceScheduler = some s') :
    TaskStep cfg s.ledger .scheduler s'.ledger := by
  have move :
      ∀ position : SchedulerPc, s.scheduler.plain = true →
        position.plain = true →
        (∀ authId frame, position ≠ .enqueue authId frame) →
        TaskStep cfg s.ledger .scheduler
          { s.ledger with scheduler := position } :=
    fun position plain plain' quiet => .schedulerMove plain plain' quiet
  unfold State.advanceScheduler at moved
  split at moved
  · rename_i stands
    have plain : s.scheduler.plain = true := by rw [stands]; rfl
    split at moved
    · cases moved
      exact move .stopped plain rfl (by simp)
    · split at moved
      · cases moved
      · cases moved
        exact move _ plain rfl (by simp)
  · rename_i authId due stands
    have plain : s.scheduler.plain = true := by rw [stands]; rfl
    split at moved
    · cases moved
      exact move .stopped plain rfl (by simp)
    · split at moved
      · cases moved
        exact move _ plain rfl (by simp)
      · cases moved
  · rename_i authId stands
    have plain : s.scheduler.plain = true := by rw [stands]; rfl
    split at moved
    · rename_i free
      split at moved
      · cases moved
        exact move .idle plain rfl (by simp)
      · rename_i entry live
        split at moved
        · cases moved
          exact .deadlineExceeded _ free stands live
        · cases moved
          cases taken : entry.takeRetry.2 with
          | some frame => exact .retryTaken free stands live taken
          | none => exact .retryVoid free stands live taken
    · cases moved
  · rename_i authId stands
    split at moved
    · rename_i free
      split at moved
      · rename_i verdict
        cases moved
        exact .outcomeMissing free stands verdict
      · rename_i outcome verdict
        cases moved
        exact .outcomeFound free stands verdict
    · cases moved
  · rename_i authId outcome stands
    cases moved
    exact .schedulerSettle stands
  · rename_i authId outcome stands
    cases moved
    exact .schedulerNotify stands
  · rename_i authId frame stands
    have plain : s.scheduler.plain = true := by rw [stands]; rfl
    split at moved
    · cases moved
      exact move .writeFailed plain rfl (by simp)
    · split at moved
      · cases moved
        exact .retryQueued stands
      · cases moved
  · rename_i stands
    have plain : s.scheduler.plain = true := by rw [stands]; rfl
    split at moved
    · cases moved
      exact move .recordSent plain rfl (by simp)
    · cases moved
      exact move .writeFailed plain rfl (by simp)
    · cases moved
  · rename_i stands
    cases moved
    exact move .idle (by rw [stands]; rfl) rfl (by simp)
  · rename_i stands
    cases moved
    have begun := ledger_beginShutdown (s := s) .scheduler
    have closing :
        ({ s.beginShutdown .scheduler with scheduler := .closing } :
            State).ledger =
          { (s.beginShutdown .scheduler).ledger with scheduler := .closing } :=
      rfl
    rw [closing, begun]
    exact .schedulerClosing stands
  · rename_i stands
    split at moved
    · cases moved
    · cases moved
      exact move .stopped (by rw [stands]; rfl) rfl (by simp)
  · cases moved

theorem taskStep_of_advanceWriter {result : WriteResult}
    (moved : s.advanceWriter result = some s') :
    TaskStep cfg s.ledger (.writer result) s'.ledger := by
  have begun : ∀ frames : List OutboundFrame,
      TaskStep cfg s.ledger (.writer result)
        ({ s.beginShutdown .writer with writer := .closing frames } :
          State).ledger := by
    intro frames
    have begins := ledger_beginShutdown (s := s) .writer
    have closing :
        ({ s.beginShutdown .writer with writer := .closing frames } :
            State).ledger =
          { (s.beginShutdown .writer).ledger with
            side :=
              (s.beginShutdown .writer).ledger.side.setWriter
                (.closing frames) } :=
      rfl
    rw [closing, begins, Ledger.beginShutdown_side]
    exact .writerClosing
  have acked : ∀ (target : AckTarget) (ack : Ack) (position : WriterPc),
      position.ending = false →
      TaskStep cfg s.ledger (.writer result)
        ({ s.acknowledge target ack with writer := position } :
          State).ledger := by
    intro target ack position open_
    have moves :
        ({ s.acknowledge target ack with writer := position } :
            State).ledger =
          { (s.acknowledge target ack).ledger with
            side :=
              (s.acknowledge target ack).ledger.side.setWriter position } :=
      rfl
    rw [moves, ledger_acknowledge]
    exact .side (.writerMove open_)
  unfold State.advanceWriter at moved
  split at moved
  · split at moved
    · rename_i signalled
      cases moved
      exact .side (.writerEnding (State.closed_of_stopSignalled signalled))
    · split at moved
      · cases moved
      · rename_i frame later waiting
        cases moved
        exact .side (.taken waiting)
  · split at moved
    · rename_i signalled
      cases moved
      exact .side (.writerEnding (State.closed_of_stopSignalled signalled))
    · split at moved
      · cases moved
        exact acked _ _ _ rfl
      · cases moved
        exact acked _ _ _ rfl
      · cases moved
        exact .side (.writerMove rfl)
  · cases moved
    exact begun _
  · cases moved
    exact begun _
  · rename_i frames stands
    split at moved
    · cases moved
    · cases moved
      have moves :
          ({ s.failFrames (frames ++ s.queue) with
              queue := []
              writer := .stopped } : State).ledger =
            { (s.failFrames (frames ++ s.queue)).ledger with
              side :=
                { (s.failFrames (frames ++ s.queue)).ledger.side with
                  queue := []
                  writer := .stopped } } :=
        rfl
      rw [moves, ledger_failFrames]
      exact .side (.writerStopped stands)
  · cases moved

theorem taskStep_of_advanceShutdown (moved : s.advanceShutdown = some s') :
    TaskStep cfg s.ledger .shutdown s'.ledger := by
  unfold State.advanceShutdown at moved
  split at moved
  · cases moved
  · rename_i stands
    cases moved
    exact .stopSignal stands
  · rename_i stands
    split at moved
    · rename_i free
      cases moved
      exact .unsubscribe stands free
    · cases moved
  · rename_i stands
    split at moved
    · rename_i free
      cases moved
      exact .clearTable _ free stands
    · cases moved
  · rename_i cancelled stands
    cases moved
    exact .countCancelled stands
  · rename_i stands
    cases moved
    exact .drain stands
  · cases moved

theorem taskStep_of_advanceSubscriber (moved : s.advanceSubscriber = some s') :
    TaskStep cfg s.ledger .subscriber s'.ledger := by
  unfold State.advanceSubscriber at moved
  split at moved
  · cases moved
  · rename_i flow stands
    split at moved
    · cases moved
      exact .side .subscriberLeft
    · rename_i own
      cases moved
      exact .side (.subscriberChecked stands (not_not.mp own))
  · rename_i flow stands
    split at moved
    · cases moved
      exact .side .subscriberLeft
    · cases moved
      exact .side (.subscriberInserted stands)

/-- Every step is the step of a caller or of another task. -/
theorem step_of_next {action : Action}
    (stepped : next cfg s action = some s') :
    (∃ c request phase, s.ledger.InPhase c request phase ∧
      CallerStep cfg s c request action phase s') ∨
      TaskStep cfg s.ledger action s'.ledger := by
  cases action with
  | authorizeFlow c request =>
      unfold next at stepped
      simp only at stepped
      split at stepped
      · rename_i fresh
        cases stepped
        exact Or.inr (.authorizeFlow (Option.isNone_iff_eq_none.mp fresh))
      · cases stepped
  | advance c order =>
      obtain ⟨⟨request, phase⟩, present, moved⟩ :=
        Option.bind_eq_some_iff.mp stepped
      exact Or.inl ⟨c, request, phase, present,
        callerStep_of_advanceCaller moved⟩
  | expire c =>
      obtain ⟨⟨request, phase⟩, present, moved⟩ :=
        Option.bind_eq_some_iff.mp stepped
      exact Or.inl ⟨c, request, phase, present, callerStep_of_expire moved⟩
  | cancel c =>
      obtain ⟨⟨request, phase⟩, present, moved⟩ :=
        Option.bind_eq_some_iff.mp stepped
      exact Or.inl ⟨c, request, phase, present, callerStep_of_cancel moved⟩
  | receive frame =>
      unfold next at stepped
      simp only at stepped
      split at stepped
      · rename_i idle
        exact Or.inr (taskStep_of_dispatch idle stepped)
      · cases stepped
  | reader => exact Or.inr (taskStep_of_advanceReader stepped)
  | readerStop =>
      unfold next at stepped
      simp only at stepped
      split at stepped
      · rename_i idle
        cases stepped
        right
        have closing :
            ({ s.beginShutdown .reader with reader := .stopped } :
                State).ledger =
              { (s.beginShutdown .reader).ledger with reader := .stopped } :=
          rfl
        rw [closing, ledger_beginShutdown]
        exact .readerStop idle
      · cases stepped
  | scheduler => exact Or.inr (taskStep_of_advanceScheduler stepped)
  | writer result => exact Or.inr (taskStep_of_advanceWriter stepped)
  | close =>
      cases stepped
      right
      rw [ledger_beginShutdown]
      exact .close
  | shutdown => exact Or.inr (taskStep_of_advanceShutdown stepped)
  | subscribeFlow flow =>
      right
      unfold next at stepped
      simp only at stepped
      split at stepped
      · rename_i free
        cases stepped
        split
        · exact .side .kept
        · rename_i running
          have open_ : s.shutdown = .running := by
            simpa [State.closed] using running
          exact .side (.subscribe open_ free)
      · cases stepped
  | subscriber => exact Or.inr (taskStep_of_advanceSubscriber stepped)
  | dropFlowPackets key id =>
      right
      unfold next at stepped
      simp only at stepped
      split at stepped
      · cases stepped
        split
        · exact .side .flowPacketsDropped
        · exact .side .kept
      · cases stepped
  | enqueueOther bytes =>
      right
      unfold next at stepped
      simp only at stepped
      split at stepped
      · cases stepped
        exact .side .otherQueued
      · cases stepped
  | tick duration =>
      cases stepped
      exact Or.inr (.side .kept)

/-- A caller appears by its own call only. -/
theorem callers_eq_none_of_next {action : Action} {c : Nat}
    (stepped : next cfg s action = some s')
    (other : ∀ request, action ≠ .authorizeFlow c request)
    (absent : s.callers c = none) : s'.callers c = none := by
  have kept :
      ∀ (t : State) (change : Nat → CallerPhase → CallerPhase),
        t.callers c = none → (t.mapPhases change).callers c = none := by
    intro t change none_
    simp [State.mapPhases, none_]
  rcases step_of_next stepped with ⟨d, request, phase, present, step⟩ | step
  · cases step with
    | claim free =>
        unfold State.claimFlow
        simp only
        split
        · exact kept _ _ absent
        · exact kept _ _ (kept _ _ absent)
    | insert room =>
        unfold State.insertFlow
        simp only
        split
        · exact absent
        · split
          · exact kept _ _ absent
          · exact kept _ _ absent
          · exact kept _ _ absent
    | abandonRemove stands => exact kept _ _ (kept _ _ absent)
    | _ => exact kept _ _ absent
  · have moved : s'.ledger.callers c = none := by
      generalize s'.ledger = l' at step
      have woken :
          ∀ selected slot,
            (s.ledger.wake selected slot).callers c = none := by
        intro selected slot
        exact kept s (fun _ => CallerPhase.wake selected slot) absent
      have begun : s.ledger.beginShutdown.callers c = none := by
        obtain ⟨shutdown, same⟩ := s.ledger.beginShutdown_eq
        rw [same]
        exact absent
      cases step with
      | authorizeFlow fresh =>
          rename_i d request
          have different : c ≠ d := by
            rintro rfl
            exact other request rfl
          simp only [Ledger.start, if_neg different]
          exact absent
      | readerNotify stands => exact woken _ _
      | vipDrain stands => exact woken _ _
      | schedulerNotify stands => exact woken _ _
      | drain stands => exact woken _ _
      | readerStop stands => exact begun
      | schedulerClosing stands => exact begun
      | writerClosing => exact begun
      | close => exact begun
      | _ => exact absent
    exact moved

/-- A run without the call does not know the caller. -/
theorem callers_eq_none_of_run {vip : Ipv4Addr} {now c : Nat}
    {actions : List Action}
    (ran :
      Concurrency.run (next cfg) (State.initial vip now) actions = some s)
    (uncalled : ∀ request, Action.authorizeFlow c request ∉ actions) :
    s.callers c = none := by
  refine Concurrency.invariant_of_history
    (fun past t =>
      (∀ request, Action.authorizeFlow c request ∉ past) →
        t.callers c = none) (fun _ => rfl) ?_ ran uncalled
  intro past t action after _ known stepped quiet
  refine callers_eq_none_of_next stepped ?_ (known ?_)
  · rintro request rfl
    exact quiet request (by simp)
  · intro request called
    exact quiet request (List.mem_append_left _ called)

end

end HermesAtrust.L3
