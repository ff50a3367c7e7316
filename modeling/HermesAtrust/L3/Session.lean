import HermesAtrust.Concurrency.Transitions
import HermesAtrust.L3.NextFrame

/-!
# The L3 session as a transition system

Model of the authorization side of `session.rs`: concurrent `authorize_flow`
callers, the reader task, the retry scheduler, the writer task, packet
subscribers and the shutdown of a connection, over one shared state.

One step is what a task does in one critical section or one atomic access;
between two of them any other task may run.  A mutex is only visible where a
task keeps it while it touches other shared state: the conntrack mutex between
maintenance and registration of a caller, and the subscriber mutex inside
`subscribe_flow`.  The waiter map is kept at the callers: the sender of a
caller's channel is stored under the id of its attempt, has been used, or has
been dropped.  Time is a nanosecond clock that only moves by `tick`.
-/

namespace HermesAtrust.L3

open HermesAtrust.Framing HermesAtrust.Protocol HermesAtrust.Collections

/-! ## Configuration and counters -/

structure L3AuthRetryConfig where
  enabled : Bool
  maxWireRetriesPerFlow : Nat
  delayedRetryDelay : Nat
  overallAuthDeadline : Nat
  deriving DecidableEq, Repr

def L3AuthRetryConfig.disabled : L3AuthRetryConfig where
  enabled := false
  maxWireRetriesPerFlow := 0
  delayedRetryDelay := 0
  overallAuthDeadline := l3AuthTimeout

/-- What a session is started with.  `firstIpv4InJson` is the first address
found in a `0x97` body. -/
structure SessionConfig where
  codec : L3AuthCodec
  firstIpv4InJson : Bytes → Option Ipv4Addr
  retry : L3AuthRetryConfig

/-- `WRITE_QUEUE_DEPTH`. -/
def writeQueueDepth : Nat := 64

/-- `AUTH_RETRY_QUEUE_DEPTH`. -/
def authRetryQueueDepth : Nat := 64

/-- Flow-authorization counters. -/
structure FlowAuthStats where
  requestsSent : Nat
  outcomesReceived : Nat
  timeouts : Nat
  inFlight : Nat
  peakInFlight : Nat
  transientStatusesReceived : Nat
  wireRetriesScheduled : Nat
  wireRetriesSent : Nat
  wireRetriesExhausted : Nat
  wireRetriesCancelled : Nat
  deriving DecidableEq, Repr

namespace FlowAuthStats

def zero : FlowAuthStats := ⟨0, 0, 0, 0, 0, 0, 0, 0, 0, 0⟩

def recordAuthSent (stats : FlowAuthStats) : FlowAuthStats :=
  { stats with
    requestsSent := stats.requestsSent + 1
    inFlight := stats.inFlight + 1
    peakInFlight := max stats.peakInFlight (stats.inFlight + 1) }

def recordRetrySent (stats : FlowAuthStats) : FlowAuthStats :=
  { stats with
    requestsSent := stats.requestsSent + 1
    wireRetriesSent := stats.wireRetriesSent + 1 }

def settleAuth (stats : FlowAuthStats) (timedOut : Bool) : FlowAuthStats :=
  if timedOut then
    { stats with
      timeouts := stats.timeouts + 1
      inFlight := stats.inFlight - 1 }
  else
    { stats with
      outcomesReceived := stats.outcomesReceived + 1
      inFlight := stats.inFlight - 1 }

def cancelRetries (stats : FlowAuthStats) (count : Nat) : FlowAuthStats :=
  { stats with wireRetriesCancelled := stats.wireRetriesCancelled + count }

def exhaustRetry (stats : FlowAuthStats) : FlowAuthStats :=
  { stats with wireRetriesExhausted := stats.wireRetriesExhausted + 1 }

end FlowAuthStats

/-! ## Callers of `authorize_flow` -/

/-- Arguments of one `authorize_flow` call. -/
structure AuthRequest where
  ctx : L3AuthContext
  appId : String
  nodeGroupId : String
  flow : Ipv4Flow
  deriving DecidableEq, Repr

def AuthRequest.key (request : AuthRequest) : FlowKey :=
  request.flow.flowKey

/-- The sender of a caller's oneshot channel: stored in the waiter map, used,
or dropped. -/
inductive Slot where
  | registered
  | sent (outcome : AuthOutcome)
  | dropped
  deriving DecidableEq, Repr

/-- The write acknowledgement of a queued frame. -/
inductive Ack where
  | none
  | waiting
  | written
  | failed
  deriving DecidableEq, Repr

/-- Why `abandon_flow` was called. -/
inductive AbandonReason where
  | buildFailed (error : FlowAuthError)
  | writeFailed
  | timedOut
  deriving DecidableEq, Repr

abbrev FlowResult := Except L3SessionError String

/-- Where a registered caller stands. -/
inductive Stage where
  | build
  | storeFrame (frame : Bytes)
  | openWrite (frame : Bytes)
  | enqueue (frame : Bytes)
  | awaitWrite
  | recordSent
  | arm
  | await (deadline : Nat)
  | resumeReady (connectToken : String)
  | resumeDropped
  | reportVip
  | abandonEvict (reason : AbandonReason)
  | abandonRemove (reason : AbandonReason)
  | settleTimeout
  | answered (result : FlowResult)
  | cancelled
  deriving DecidableEq, Repr

/-- What a caller holds once it is registered as a waiter. -/
structure Attempt where
  authId : Nat
  mustSend : Bool
  slot : Slot
  stage : Stage
  deriving DecidableEq, Repr

inductive CallerPhase where
  | checkClosed
  | checkVip
  | reportVip
  | claim
  | claimSettle
  | claimInsert
  | answered (result : FlowResult)
  | attempting (attempt : Attempt)
  deriving DecidableEq, Repr

structure Caller where
  request : AuthRequest
  phase : CallerPhase
  deriving DecidableEq, Repr

/-- What `authorize_flow` has returned to a caller that stands here. -/
def CallerPhase.result : CallerPhase → Option FlowResult
  | .answered result => some result
  | .attempting attempt =>
      match attempt.stage with
      | .answered result => some result
      | _ => none
  | _ => none

/-- Uses or drops the sender if it is stored under a selected id. -/
def Attempt.wake (selected : Nat → Bool) (slot : Slot) (attempt : Attempt) :
    Attempt :=
  if attempt.slot = .registered ∧ selected attempt.authId = true then
    { attempt with slot := slot }
  else
    attempt

def CallerPhase.wake (selected : Nat → Bool) (slot : Slot) :
    CallerPhase → CallerPhase
  | .attempting attempt => .attempting (attempt.wake selected slot)
  | phase => phase

/-! ## The tasks of a session -/

/-- Where the reader stands inside `dispatch`. -/
inductive ReaderPc where
  | idle
  | settle (authId : Nat) (outcome : AuthOutcome)
  | notify (authId : Nat) (outcome : AuthOutcome)
  | queueRetry (authId delay : Nat)
  | retryQueued
  | retryRefused (authId : Nat)
  | failRetry (authId : Nat)
  | vipClear
  | vipCount (cancelled : Nat)
  | vipDrain
  | vipReset
  | vipUnsubscribe
  | touching (packets : List Bytes)
  | stopped
  deriving DecidableEq, Repr

/-- Where the retry scheduler stands. -/
inductive SchedulerPc where
  | idle
  | sleeping (authId due : Nat)
  | lookup (authId : Nat)
  | outcome (authId : Nat)
  | settle (authId : Nat) (outcome : AuthOutcome)
  | notify (authId : Nat) (outcome : AuthOutcome)
  | enqueue (authId : Nat) (frame : Bytes)
  | awaitWrite
  | recordSent
  | writeFailed
  | closing
  | stopped
  deriving DecidableEq, Repr

/-- Who holds the receiving end of a write acknowledgement. -/
inductive AckTarget where
  | nobody
  | caller (id : Nat)
  | scheduler
  deriving DecidableEq, Repr

/-- Which code queued a frame.  The bytes of a `0x13` carry the auth id inside
their JSON; the origin repeats it. -/
inductive FrameOrigin where
  | request (authId : Nat)
  | retry (authId : Nat)
  | other
  deriving DecidableEq, Repr

structure OutboundFrame where
  bytes : Bytes
  origin : FrameOrigin
  written : AckTarget
  deriving DecidableEq, Repr

/-- Where the writer stands. -/
inductive WriterPc where
  | idle
  | writing (frame : OutboundFrame)
  | failing
  | timedOut (frame : OutboundFrame)
  | closing (frames : List OutboundFrame)
  | stopped
  deriving DecidableEq, Repr

/-- How the write of a frame ends. -/
inductive WriteResult where
  | written
  | failed
  | timedOut
  deriving DecidableEq, Repr

/-- How far `shutdown` has come; the closed flag is set by leaving `running`. -/
inductive ShutdownPhase where
  | running
  | stopSignal
  | unsubscribe
  | clearTable
  | countCancelled (cancelled : Nat)
  | drain
  | finished
  deriving DecidableEq, Repr

/-- The task that executes `shutdown`. -/
inductive ShutdownBy where
  | other
  | reader
  | writer
  | scheduler
  deriving DecidableEq, Repr

structure RetryJob where
  authId : Nat
  delay : Nat
  deriving DecidableEq, Repr

/-- Where the holder of the subscriber mutex stands in `subscribe_flow`. -/
inductive SubscribeStage where
  | checkVip (flow : Ipv4Flow)
  | insert (flow : Ipv4Flow)
  deriving DecidableEq, Repr

/-- The state shared by the tasks of a session, and their program counters. -/
structure State where
  now : Nat
  vip : Ipv4Addr
  shutdown : ShutdownPhase
  shutdownBy : ShutdownBy
  table : ConntrackTable
  tableOwner : Option Nat
  callers : Nat → Option Caller
  acks : Nat → Ack
  subscribers : HashTable FlowKey Nat
  nextSubscriber : Nat
  subscribing : Option SubscribeStage
  reader : ReaderPc
  scheduler : SchedulerPc
  schedulerAck : Ack
  retryQueue : List RetryJob
  writer : WriterPc
  queue : List OutboundFrame
  wire : List OutboundFrame
  stats : FlowAuthStats

namespace State

/-- A session right after Get-IP. -/
def initial (vip : Ipv4Addr) (now : Nat) : State where
  now := now
  vip := vip
  shutdown := .running
  shutdownBy := .other
  table := ConntrackTable.new now
  tableOwner := none
  callers _ := none
  acks _ := .none
  subscribers := ∅
  nextSubscriber := 1
  subscribing := none
  reader := .idle
  scheduler := .idle
  schedulerAck := .none
  retryQueue := []
  writer := .idle
  queue := []
  wire := []
  stats := .zero

def closed (s : State) : Bool :=
  s.shutdown != .running

/-- The stop signal has been broadcast. -/
def stopSignalled (s : State) : Bool :=
  s.shutdown != .running && s.shutdown != .stopSignal

/-- The request and the result of a call that has returned. -/
def returned (s : State) (c : Nat) : Option (AuthRequest × FlowResult) :=
  (s.callers c).bind fun caller =>
    caller.phase.result.map fun result => (caller.request, result)

/-- Changes where callers stand. -/
def mapPhases (s : State) (change : Nat → CallerPhase → CallerPhase) : State :=
  { s with
    callers := fun c =>
      (s.callers c).map fun caller =>
        { caller with phase := change c caller.phase } }

def setPhase (s : State) (c : Nat) (phase : CallerPhase) : State :=
  s.mapPhases fun d old => if d = c then phase else old

def setAttempt (s : State) (c : Nat) (attempt : Attempt) : State :=
  s.setPhase c (.attempting attempt)

/-- Uses or drops every sender stored under a selected id. -/
def wake (s : State) (selected : Nat → Bool) (slot : Slot) : State :=
  s.mapPhases fun _ => CallerPhase.wake selected slot

/-- Removes the waiters of an id and sends each the outcome. -/
def notify (s : State) (authId : Nat) (outcome : AuthOutcome) : State :=
  s.wake (· == authId) (.sent outcome)

/-- Removes the waiters of an id and drops their senders. -/
def dropWaiters (s : State) (authId : Nat) : State :=
  s.wake (· == authId) .dropped

/-- Drains the waiter map and drops every sender. -/
def drainWaiters (s : State) : State :=
  s.wake (fun _ => true) .dropped

def acknowledge (s : State) (target : AckTarget) (ack : Ack) : State :=
  match target with
  | .nobody => s
  | .caller c =>
      { s with acks := fun d => if d = c then ack else s.acks d }
  | .scheduler => { s with schedulerAck := ack }

/-- Appends a frame to the write queue. -/
def enqueue (s : State) (frame : OutboundFrame) : State :=
  { s with queue := s.queue ++ [frame] }

/-- Drops frames together with their acknowledgement senders. -/
def failFrames (s : State) (frames : List OutboundFrame) : State :=
  frames.foldl (fun s frame => s.acknowledge frame.written .failed) s

/-- The first part of `shutdown`; a second call has no effect. -/
def beginShutdown (s : State) (executor : ShutdownBy) : State :=
  if s.shutdown = .running then
    { s with shutdown := .stopSignal, shutdownBy := executor }
  else
    s

/-! ### `authorize_flow` -/

/-- Steps in front of the claim that read shared state only. -/
def checkPhase (s : State) (request : AuthRequest) :
    CallerPhase → Option CallerPhase
  | .checkClosed =>
      some (if s.closed then .answered (.error .closed) else .checkVip)
  | .checkVip =>
      some (if request.flow.srcAddr ≠ s.vip then .reportVip else .claim)
  | .reportVip =>
      some (.answered
        (.error (.vipChanged request.flow.srcAddr s.vip)))
  | _ => none

/-- Phase 1 up to the notification of a replaced attempt.  The conntrack mutex
stays with the caller. -/
def claimFlow (s : State) (order : IterationOrder ConntrackEntry) (c : Nat)
    (request : AuthRequest) : State :=
  let maintained := (s.table.maintainForFlow order request.key s.now).1
  match (maintained.getByKey request.key).filter
      (ConntrackTable.foreign request.appId request.nodeGroupId) with
  | none =>
      { s with table := maintained, tableOwner := some c }.setPhase c
        .claimInsert
  | some old =>
      ({ s with
          table := (maintained.evictByAuthId old.authId).1
          tableOwner := some c }.notify old.authId
        (.failed "flow resource changed during authorization")).setPhase c
          (if old.authInFlight then .claimSettle else .claimInsert)

/-- The rest of phase 1: a cached verdict, or an entry to wait on. -/
def insertFlow (s : State) (c : Nat) (request : AuthRequest) : State :=
  let table :=
    s.table.getOrCreateAt request.key request.appId request.nodeGroupId s.now
  match table.getByKey request.key with
  | none => s
  | some entry =>
      match entry.outcome with
      | some (.ready connectToken) =>
          { s with table := table, tableOwner := none }.setPhase c
            (.answered (.ok connectToken))
      | some (.failed message) =>
          { s with table := table, tableOwner := none }.setPhase c
            (.answered (.error (.flowAuth (.authFailed message))))
      | none =>
          { s with
              table :=
                table.modifyByAuthId entry.authId fun stored =>
                  (stored.tryStartAuth s.now).1
              tableOwner := none }.setAttempt c
            { authId := entry.authId
              mustSend := (entry.tryStartAuth s.now).2
              slot := .registered
              stage := if (entry.tryStartAuth s.now).2 then .build else .arm }

/-- Steps of a registered caller that only read shared state. -/
def readStage (s : State) (cfg : SessionConfig) (c : Nat)
    (request : AuthRequest) (attempt : Attempt) : Option Stage :=
  match attempt.stage with
  | .build =>
      match buildFlowAuthFrame cfg.codec request.ctx request.appId
          attempt.authId request.flow.toFiveTuple with
      | .error error => some (.abandonEvict (.buildFailed error))
      | .ok frame => some (.storeFrame frame)
  | .openWrite frame =>
      some (if s.closed then .abandonEvict .writeFailed else .enqueue frame)
  | .awaitWrite =>
      if s.stopSignalled then
        some (.abandonEvict .writeFailed)
      else
        match s.acks c with
        | .written => some .recordSent
        | .failed => some (.abandonEvict .writeFailed)
        | _ => none
  | .arm => some (.await (s.now + cfg.retry.overallAuthDeadline))
  | .await _ =>
      match attempt.slot with
      | .registered => none
      | .sent (.ready connectToken) => some (.resumeReady connectToken)
      | .sent (.failed message) =>
          some (.answered (.error (.flowAuth (.authFailed message))))
      | .dropped => some .resumeDropped
  | .resumeReady connectToken =>
      some
        (if request.flow.srcAddr ≠ s.vip then .reportVip
        else .answered (.ok connectToken))
  | .resumeDropped =>
      some
        (if request.flow.srcAddr ≠ s.vip then .reportVip
        else .answered (.error .closed))
  | .reportVip =>
      some (.answered
        (.error (.vipChanged request.flow.srcAddr s.vip)))
  | _ => none

/-- What a caller does after `abandon_flow`. -/
def afterAbandon (request : AuthRequest) (mustSend : Bool) :
    AbandonReason → Stage
  | .buildFailed error => .answered (.error (.flowAuth error))
  | .writeFailed => .answered (.error .closed)
  | .timedOut =>
      if mustSend then .settleTimeout
      else .answered (.error (.authTimeout request.key.text))

/-- The next step of a registered caller. -/
def advanceAttempt (s : State) (cfg : SessionConfig) (c : Nat)
    (request : AuthRequest) (attempt : Attempt) : Option State :=
  match attempt.stage with
  | .storeFrame frame =>
      if s.tableOwner = none then
        some ({ s with
            table :=
              s.table.modifyByAuthId attempt.authId fun entry =>
                if entry.authInFlight then
                  entry.setReusableFrame frame
                    (s.now + cfg.retry.overallAuthDeadline)
                else
                  entry }.setAttempt c
          { attempt with stage := .openWrite frame })
      else
        none
  | .enqueue frame =>
      if s.stopSignalled = true ∨ s.writer = .stopped then
        some (s.setAttempt c
          { attempt with stage := .abandonEvict .writeFailed })
      else if s.queue.length < writeQueueDepth then
        some (((s.enqueue ⟨frame, .request attempt.authId, .caller c⟩).acknowledge
          (.caller c) .waiting).setAttempt c
            { attempt with stage := .awaitWrite })
      else
        none
  | .recordSent =>
      some ({ s with stats := s.stats.recordAuthSent }.setAttempt c
        { attempt with stage := .arm })
  | .abandonEvict reason =>
      if s.tableOwner = none then
        some ({ s with
            table := (s.table.evictByAuthId attempt.authId).1 }.setAttempt c
          { attempt with stage := .abandonRemove reason })
      else
        none
  | .abandonRemove reason =>
      some ((s.dropWaiters attempt.authId).setAttempt c
        { attempt.wake (· == attempt.authId) .dropped with
          stage := afterAbandon request attempt.mustSend reason })
  | .settleTimeout =>
      some ({ s with stats := s.stats.settleAuth true }.setAttempt c
        { attempt with
          stage := .answered (.error (.authTimeout request.key.text)) })
  | _ =>
      (s.readStage cfg c request attempt).map fun stage =>
        s.setAttempt c { attempt with stage := stage }

/-- The next step of a caller.  A connection on which every `u64` has been
used as an auth id is outside the model. -/
def advanceCaller (s : State) (cfg : SessionConfig)
    (order : IterationOrder ConntrackEntry) (c : Nat) (caller : Caller) :
    Option State :=
  match caller.phase with
  | .claim =>
      if s.tableOwner = none then
        some (s.claimFlow order c caller.request)
      else
        none
  | .claimSettle =>
      some ({ s with
          stats := { s.stats with inFlight := s.stats.inFlight - 1 } }.setPhase
        c .claimInsert)
  | .claimInsert =>
      if s.table.nextAuthId + 1 < authIdSpace then
        some (s.insertFlow c caller.request)
      else
        none
  | .attempting attempt => s.advanceAttempt cfg c caller.request attempt
  | phase => (s.checkPhase caller.request phase).map (s.setPhase c)

/-- The timer of `timeout` fires while the channel is still empty. -/
def expire (s : State) (c : Nat) (caller : Caller) : Option State :=
  match caller.phase with
  | .attempting attempt =>
      match attempt.stage with
      | .await deadline =>
          if attempt.slot = .registered ∧ deadline ≤ s.now then
            some (s.setAttempt c
              { attempt with stage := .abandonEvict .timedOut })
          else
            none
      | _ => none
  | _ => none

/-- The future of a caller is dropped at one of its await points. -/
def cancel (s : State) (c : Nat) (caller : Caller) : Option State :=
  match caller.phase with
  | .attempting attempt =>
      match attempt.stage with
      | .enqueue _ | .awaitWrite | .await _ =>
          some (s.setAttempt c { attempt with stage := .cancelled })
      | _ => none
  | _ => none

/-! ### The reader -/

def countTransient (s : State) : State :=
  { s with
    stats :=
      { s.stats with
        transientStatusesReceived := s.stats.transientStatusesReceived + 1 } }

/-- The transient branch of `dispatch`. -/
def dispatchTransient (s : State) (cfg : SessionConfig) (delay : Nat)
    (json : Bytes) : State :=
  match parseL3AuthResponse cfg.codec json with
  | .error _ => s
  | .ok response =>
      let authId := response.conntrackHash
      if authId = 0 then
        s
      else
        match s.table.getByAuthId authId with
        | none => s
        | some entry =>
            if entry.outcome.isSome || entry.retryScheduled then
              s
            else if entry.retryExhausted cfg.retry.maxWireRetriesPerFlow then
              let outcome := AuthOutcome.failed "auth retry budget exhausted"
              { s with
                table := s.table.modifyByAuthId authId (·.complete outcome)
                stats := s.stats.exhaustRetry
                reader := .settle authId outcome }
            else
              { s with
                table :=
                  s.table.modifyByAuthId authId fun stored =>
                    (stored.scheduleRetry
                      cfg.retry.maxWireRetriesPerFlow).1
                reader :=
                  if (entry.scheduleRetry cfg.retry.maxWireRetriesPerFlow).2
                  then .queueRetry authId delay
                  else .idle }

/-- The settling branch of `dispatch`. -/
def dispatchSettled (s : State) (cfg : SessionConfig) (status : UInt8)
    (json : Bytes) : State :=
  match applyAuthWireStatus cfg.codec s.table status json with
  | .error _ => s
  | .ok (table, authId) =>
      match (table.getByAuthId authId).bind (·.outcome) with
      | none => { s with table := table }
      | some outcome =>
          { s with table := table, reader := .settle authId outcome }

/-- `dispatch` of a `0x93`. -/
def dispatchAuth (s : State) (cfg : SessionConfig) (status : UInt8)
    (json : Bytes) : State :=
  match classifyAuthWireStatus status with
  | .retryImmediate =>
      if cfg.retry.enabled then
        s.countTransient.dispatchTransient cfg 0 json
      else
        s.countTransient.dispatchSettled cfg status json
  | .retryDelayed _ =>
      if cfg.retry.enabled then
        s.countTransient.dispatchTransient cfg cfg.retry.delayedRetryDelay
          json
      else
        s.countTransient.dispatchSettled cfg status json
  | _ => s.dispatchSettled cfg status json

/-- The first critical section of `apply_vip_update`. -/
def applyVipUpdate (s : State) (vip : Ipv4Addr) : State :=
  if s.vip = vip then s else { s with vip := vip, reader := .vipClear }

/-- `dispatch` of one decoded frame up to the end of its first critical
section. -/
def dispatch (s : State) (cfg : SessionConfig) : Inbound → Option State
  | .auth status json =>
      if s.tableOwner = none then some (s.dispatchAuth cfg status json)
      else none
  | .vipUpdate status json =>
      if status ≠ 0 then
        some s
      else
        match cfg.firstIpv4InJson json with
        | none => some s
        | some vip => some (s.applyVipUpdate vip)
  | .data (.lengthPrefixed packet) =>
      some { s with reader := .touching [packet] }
  | .data (.tokenFramed packets) =>
      some { s with reader := .touching packets }
  | _ => some s

/-- `touch_inbound_flow`. -/
def touchInboundFlow (s : State) (packet : Bytes) : ConntrackTable :=
  match parseIpv4Flow packet with
  | .error _ => s.table
  | .ok flow => (s.table.touchAt flow.reverseFlowKey s.now).1

/-- The next step of the reader inside `dispatch`. -/
def advanceReader (s : State) : Option State :=
  match s.reader with
  | .settle authId outcome =>
      some
        { s with
          stats := s.stats.settleAuth false
          reader := .notify authId outcome }
  | .notify authId outcome =>
      some { s.notify authId outcome with reader := .idle }
  | .queueRetry authId delay =>
      if s.retryQueue.length < authRetryQueueDepth ∧
          s.scheduler ≠ .stopped then
        some
          { s with
            retryQueue := s.retryQueue ++ [⟨authId, delay⟩]
            reader := .retryQueued }
      else
        some { s with reader := .retryRefused authId }
  | .retryQueued =>
      some
        { s with
          stats :=
            { s.stats with
              wireRetriesScheduled := s.stats.wireRetriesScheduled + 1 }
          reader := .idle }
  | .retryRefused authId =>
      some
        { s with
          stats := s.stats.cancelRetries 1
          reader := .failRetry authId }
  | .failRetry authId =>
      if s.tableOwner = none then
        let table :=
          s.table.modifyByAuthId authId
            (·.complete (.failed "auth retry scheduler unavailable"))
        match (table.getByAuthId authId).bind (·.outcome) with
        | none => some { s with reader := .idle }
        | some outcome =>
            some
              { s with table := table, reader := .settle authId outcome }
      else
        none
  | .vipClear =>
      if s.tableOwner = none then
        some
          { s with
            table := s.table.clear.1
            reader := .vipCount s.table.scheduledRetries }
      else
        none
  | .vipCount cancelled =>
      some
        { s with
          stats := s.stats.cancelRetries cancelled
          reader := .vipDrain }
  | .vipDrain => some { s.drainWaiters with reader := .vipReset }
  | .vipReset =>
      some
        { s with
          stats := { s.stats with inFlight := 0 }
          reader := .vipUnsubscribe }
  | .vipUnsubscribe =>
      if s.subscribing = none then
        some { s with subscribers := ∅, reader := .idle }
      else
        none
  | .touching [] => some { s with reader := .idle }
  | .touching (packet :: later) =>
      if s.tableOwner = none then
        some
          { s with
            table := s.touchInboundFlow packet
            reader := .touching later }
      else
        none
  | .idle => none
  | .stopped => none

/-! ### The retry scheduler -/

/-- The next step of the retry scheduler. -/
def advanceScheduler (s : State) : Option State :=
  match s.scheduler with
  | .idle =>
      if s.stopSignalled then
        some { s with scheduler := .stopped }
      else
        match s.retryQueue with
        | [] => none
        | job :: later =>
            some
              { s with
                retryQueue := later
                scheduler := .sleeping job.authId (s.now + job.delay) }
  | .sleeping authId due =>
      if s.stopSignalled then
        some { s with scheduler := .stopped }
      else if due ≤ s.now then
        some { s with scheduler := .lookup authId }
      else
        none
  | .lookup authId =>
      if s.tableOwner = none then
        match s.table.getByAuthId authId with
        | none =>
            some
              { s with
                stats := s.stats.cancelRetries 1
                scheduler := .idle }
        | some entry =>
            if entry.authDeadline.any fun deadline =>
                decide (deadline ≤ s.now) then
              some
                { s with
                  table :=
                    s.table.modifyByAuthId authId
                      (·.complete (.failed "auth deadline exceeded"))
                  stats := s.stats.exhaustRetry
                  scheduler := .outcome authId }
            else
              some
                { s with
                  table :=
                    s.table.modifyByAuthId authId fun stored =>
                      stored.takeRetry.1
                  scheduler :=
                    match entry.takeRetry.2 with
                    | some frame => .enqueue authId frame
                    | none => .outcome authId }
      else
        none
  | .outcome authId =>
      if s.tableOwner = none then
        match (s.table.getByAuthId authId).bind (·.outcome) with
        | none => some { s with scheduler := .idle }
        | some outcome => some { s with scheduler := .settle authId outcome }
      else
        none
  | .settle authId outcome =>
      some
        { s with
          stats := s.stats.settleAuth false
          scheduler := .notify authId outcome }
  | .notify authId outcome =>
      some { s.notify authId outcome with scheduler := .idle }
  | .enqueue authId frame =>
      if s.writer = .stopped then
        some { s with scheduler := .writeFailed }
      else if s.queue.length < writeQueueDepth then
        some
          { s.enqueue ⟨frame, .retry authId, .scheduler⟩ with
            schedulerAck := .waiting
            scheduler := .awaitWrite }
      else
        none
  | .awaitWrite =>
      match s.schedulerAck with
      | .written => some { s with scheduler := .recordSent }
      | .failed => some { s with scheduler := .writeFailed }
      | _ => none
  | .recordSent =>
      some
        { s with
          stats := s.stats.recordRetrySent
          scheduler := .idle }
  | .writeFailed =>
      some { s.beginShutdown .scheduler with scheduler := .closing }
  | .closing =>
      if s.shutdownBy = .scheduler ∧ s.shutdown ≠ .finished then none
      else some { s with scheduler := .stopped }
  | .stopped => none

/-! ### The writer, shutdown and subscribers -/

/-- The next step of the writer; `result` is how a write in progress ends. -/
def advanceWriter (s : State) (result : WriteResult) : Option State :=
  match s.writer with
  | .idle =>
      if s.stopSignalled then
        some { s with writer := .closing [] }
      else
        match s.queue with
        | [] => none
        | frame :: later =>
            some
              { s with
                queue := later
                wire := s.wire ++ [frame]
                writer := .writing frame }
  | .writing frame =>
      if s.stopSignalled then
        some { s with writer := .closing [frame] }
      else
        match result with
        | .written =>
            some
              { s.acknowledge frame.written .written with writer := .idle }
        | .failed =>
            some
              { s.acknowledge frame.written .failed with writer := .failing }
        | .timedOut => some { s with writer := .timedOut frame }
  | .failing =>
      some { s.beginShutdown .writer with writer := .closing [] }
  | .timedOut frame =>
      some { s.beginShutdown .writer with writer := .closing [frame] }
  | .closing frames =>
      if s.shutdownBy = .writer ∧ s.shutdown ≠ .finished then
        none
      else
        some
          { s.failFrames (frames ++ s.queue) with
            queue := []
            writer := .stopped }
  | .stopped => none

/-- The next step of the task that executes `shutdown`. -/
def advanceShutdown (s : State) : Option State :=
  match s.shutdown with
  | .running => none
  | .stopSignal => some { s with shutdown := .unsubscribe }
  | .unsubscribe =>
      if s.subscribing = none then
        some { s with subscribers := ∅, shutdown := .clearTable }
      else
        none
  | .clearTable =>
      if s.tableOwner = none then
        some
          { s with
            table := s.table.clear.1
            shutdown := .countCancelled s.table.scheduledRetries }
      else
        none
  | .countCancelled cancelled =>
      some
        { s with
          stats := s.stats.cancelRetries cancelled
          shutdown := .drain }
  | .drain => some { s.drainWaiters with shutdown := .finished }
  | .finished => none

/-- The next step of the holder of the subscriber mutex. -/
def advanceSubscriber (s : State) : Option State :=
  match s.subscribing with
  | none => none
  | some (.checkVip flow) =>
      if flow.srcAddr ≠ s.vip then
        some { s with subscribing := none }
      else
        some { s with subscribing := some (.insert flow) }
  | some (.insert flow) =>
      if (s.subscribers.lookup flow.flowKey).isSome then
        some { s with subscribing := none }
      else
        some
          { s with
            subscribers := s.subscribers.insert flow.flowKey s.nextSubscriber
            nextSubscriber := s.nextSubscriber + 1
            subscribing := none }

end State

/-! ## Steps -/

/-- The atomic steps of a session. -/
inductive Action where
  | authorizeFlow (c : Nat) (request : AuthRequest)
  | advance (c : Nat) (order : IterationOrder ConntrackEntry)
  | expire (c : Nat)
  | cancel (c : Nat)
  | receive (frame : Inbound)
  | reader
  | readerStop
  | scheduler
  | writer (result : WriteResult)
  | close
  | shutdown
  | subscribeFlow (flow : Ipv4Flow)
  | subscriber
  | dropFlowPackets (key : FlowKey) (id : Nat)
  | enqueueOther (bytes : Bytes)
  | tick (duration : Nat)

/-- The state after one atomic step, if the step is enabled. -/
def next (cfg : SessionConfig) (s : State) : Action → Option State
  | .authorizeFlow c request =>
      if (s.callers c).isNone then
        some
          { s with
            callers := fun d =>
              if d = c then some ⟨request, .checkClosed⟩ else s.callers d }
      else
        none
  | .advance c order => (s.callers c).bind (s.advanceCaller cfg order c)
  | .expire c => (s.callers c).bind (s.expire c)
  | .cancel c => (s.callers c).bind (s.cancel c)
  | .receive frame =>
      if s.reader = .idle then s.dispatch cfg frame else none
  | .reader => s.advanceReader
  | .readerStop =>
      if s.reader = .idle then
        some { s.beginShutdown .reader with reader := .stopped }
      else
        none
  | .scheduler => s.advanceScheduler
  | .writer result => s.advanceWriter result
  | .close => some (s.beginShutdown .other)
  | .shutdown => s.advanceShutdown
  | .subscribeFlow flow =>
      if s.subscribing = none then
        some
          (if s.closed then s
          else { s with subscribing := some (.checkVip flow) })
      else
        none
  | .subscriber => s.advanceSubscriber
  | .dropFlowPackets key id =>
      if s.subscribing = none then
        some
          (if s.subscribers.lookup key = some id then
            { s with subscribers := s.subscribers.erase key }
          else
            s)
      else
        none
  | .enqueueOther bytes =>
      if s.queue.length < writeQueueDepth ∧ s.writer ≠ .stopped then
        some (s.enqueue ⟨bytes, .other, .nobody⟩)
      else
        none
  | .tick duration => some { s with now := s.now + duration }

/-! ## A concrete session

The configuration of the runs that show a behaviour on an input: one flow, the
authorization texts it needs, and the address of a `0x97`.  The signature in
the request is the HMAC-SHA256 of the unsigned text under the sample key. -/

namespace Sample

def utf8 (text : String) : Bytes :=
  text.toUTF8.data.toList

def vip : Ipv4Addr := ⟨10, 8, 0, 1⟩

def otherVip : Ipv4Addr := ⟨10, 8, 0, 2⟩

def flow : Ipv4Flow := ⟨.tcp, vip, 40000, ⟨10, 0, 0, 9⟩, 443⟩

def otherFlow : Ipv4Flow := ⟨.udp, vip, 50000, ⟨10, 0, 0, 53⟩, 53⟩

def context : L3AuthContext where
  sid := "sid"
  deviceId := "dev"
  connectionId := "conn"
  signKey :=
    [0x00, 0x11, 0x22, 0x33, 0x44, 0x55, 0x66, 0x77, 0x88, 0x99, 0xaa, 0xbb,
      0xcc, 0xdd, 0xee, 0xff]
  process := ("curl", "/usr/bin/curl")
  lang := "en-US"
  domain := none

def request : AuthRequest := ⟨context, "app-1", "group-1", flow⟩

def otherRequest : AuthRequest := ⟨context, "app-1", "group-1", otherFlow⟩

/-- The signed request of the flow under auth id `1`. -/
def requestJson : Bytes :=
  List.flatMap utf8
    ["\x7b\"sid\":\"sid\",\"appId\":\"app-1\",",
      "\"url\":\"tcp:10.0.0.9:443\",\"deviceId\":\"dev\",",
      "\"connectionId\":\"conn\",",
      "\"env\":\x7b\"application\":\x7b\"runtime\":\x7b\"process\":\x7b\"name\":\"curl\",",
      "\"digital_signature\":\"TrustAppClosed\",\"platform\":\"Linux\",",
      "\"fingerprint\":\"F0DA955D46AA49E3CAC477D43E22C56CF83A7CB4B2A9805B3D995C2920DF9CFF\",",
      "\"description\":\"TrustAppClosed\",\"path\":\"/usr/bin/curl\",",
      "\"version\":\"TrustAppClosed\",\"security_env\":\"normal\"\x7d,",
      "\"process_trusted\":\"TRUSTED\"\x7d\x7d\x7d,\"conntrackHash\":1,",
      "\"lang\":\"en-US\",\"ip\":\x7b\"atype\":2048,\"protocol\":6,",
      "\"destAddr\":\"10.0.0.9\",\"destPort\":443,",
      "\"srcAddr\":\"10.8.0.1\",\"srcPort\":40000\x7d,",
      "\"procHash\":\"F0DA955D46AA49E3CAC477D43E22C56CF83A7CB4B2A9805B3D995C2920DF9CFF\",",
      "\"xRequestSig\":\"D0AAAA8992257D6F6076B789E5C68A545BA852DBCC58EA1A9D7D5B009001FEBF\"\x7d"]

def grantJson : Bytes :=
  utf8 "\x7b\"code\":0,\"data\":\x7b\"conntrackHash\":1," ++
    utf8 "\"connectToken\":\" tok-a \"\x7d\x7d"

def busyJson : Bytes :=
  utf8 "\x7b\"code\":0,\"data\":\x7b\"conntrackHash\":1\x7d\x7d"

def vipJson : Bytes :=
  utf8 "\x7b\"vip\":\"10.8.0.2\"\x7d"

def codec : L3AuthCodec where
  responseWire json :=
    if json = grantJson then
      some ⟨0, none, 1, some " tok-a ", none⟩
    else if json = busyJson then
      some ⟨0, none, 1, none, none⟩
    else
      none
  signedRequest ctx appId conntrackHash fiveTuple :=
    if ctx = context ∧ appId = "app-1" ∧ conntrackHash = 1 ∧
        fiveTuple = flow.toFiveTuple then
      some requestJson
    else
      none

def config (retry : L3AuthRetryConfig) : SessionConfig where
  codec := codec
  firstIpv4InJson json := if json = vipJson then some otherVip else none
  retry := retry

/-- `n` steps of a caller. -/
def advances (c n : Nat) : List Action :=
  List.replicate n (.advance c .stored)

/-- The first caller sends the request of the flow and waits. -/
def firstCall : List Action :=
  [.authorizeFlow 0 request] ++ advances 0 8 ++
    [.writer .written, .writer .written] ++ advances 0 3

end Sample

end HermesAtrust.L3
