import HermesAtrust.L3.SessionInvariant

/-!
# How often a request reaches the wire

The first `0x13` of an id is queued by the caller that won the start flag,
every further one by the retry scheduler from the frame stored in the entry.
Each retry is paid for in the entry when it is scheduled; from there the payment
moves to the scheduler, to the write queue and to the wire, or is lost.  All
copies are the frame that the one sending caller has built.
-/

namespace HermesAtrust.L3

open HermesAtrust.Framing HermesAtrust.Protocol HermesAtrust.Collections

/-- The wire retries that a configuration allows for one id. -/
def L3AuthRetryConfig.budget (retry : L3AuthRetryConfig) : Nat :=
  if retry.enabled then retry.maxWireRetriesPerFlow else 0

/-- The frame is a `0x13` of the id. -/
def OutboundFrame.asks (frame : OutboundFrame) (authId : Nat) : Bool :=
  frame.origin == .request authId || frame.origin == .retry authId

theorem OutboundFrame.asks_iff {frame : OutboundFrame} {authId : Nat} :
    frame.asks authId = true ↔
      frame.origin = .request authId ∨ frame.origin = .retry authId := by
  simp [OutboundFrame.asks]

/-- The first `0x13` has not been queued yet. -/
def Stage.unsent : Stage → Bool
  | .build | .storeFrame _ | .openWrite _ | .enqueue _ => true
  | _ => false

/-- The `0x13` a caller has built and not queued yet. -/
def Stage.carried : Stage → Option Bytes
  | .storeFrame frame | .openWrite frame | .enqueue frame => some frame
  | _ => none

theorem Stage.carried_of_sent {stage : Stage} (sent : stage.unsent = false) :
    stage.carried = none := by
  cases stage with
  | storeFrame frame => cases sent
  | openWrite frame => cases sent
  | enqueue frame => cases sent
  | _ => rfl

/-- A retry of the id is paid for and waits in the entry. -/
def ConntrackEntry.pending (entry : ConntrackEntry) : Nat :=
  if entry.retryScheduled then 1 else 0

/-- A retry of the id is in the hands of the scheduler. -/
def SchedulerPc.holds (authId : Nat) : SchedulerPc → Nat
  | .enqueue id _ => if id = authId then 1 else 0
  | _ => 0

namespace Periphery

/-- The frames that are queued or have been taken up by the writer. -/
def frames (side : Periphery) : List OutboundFrame :=
  side.queue ++ side.wire

def tally (side : Periphery) (origin : FrameOrigin) : Nat :=
  (side.frames.map (·.origin)).count origin

theorem tally_enqueue (side : Periphery) (frame : OutboundFrame)
    (origin : FrameOrigin) :
    (side.enqueue frame).tally origin =
      side.tally origin + if frame.origin = origin then 1 else 0 := by
  simp only [tally, frames, enqueue, List.map_append, List.count_append,
    List.map_cons, List.map_nil, List.count_singleton]
  by_cases same : frame.origin = origin
  · simp only [same, beq_self_eq_true, if_true]
    omega
  · simp only [same, beq_iff_eq, if_false]
    omega

theorem mem_frames_enqueue {side : Periphery} {frame other : OutboundFrame} :
    other ∈ (side.enqueue frame).frames ↔ other = frame ∨ other ∈ side.frames := by
  simp only [frames, enqueue, List.mem_append, List.mem_singleton]
  tauto

theorem tally_eq_zero {side : Periphery} {origin : FrameOrigin}
    (absent : ∀ frame ∈ side.frames, frame.origin ≠ origin) :
    side.tally origin = 0 := by
  refine List.count_eq_zero.mpr ?_
  intro listed
  obtain ⟨frame, held, same⟩ := List.mem_map.mp listed
  exact absent frame held same

/-- No `0x13` is added. -/
structure Spares (before after : Periphery) : Prop where
  mem :
    ∀ frame ∈ after.frames, frame.origin ≠ .other → frame ∈ before.frames
  tally : ∀ origin, origin ≠ .other → after.tally origin ≤ before.tally origin

theorem Spares.of_perm {before after : Periphery}
    (same : after.frames.Perm before.frames) : Spares before after where
  mem _ held _ := same.mem_iff.mp held
  tally origin _ :=
    Nat.le_of_eq ((same.map OutboundFrame.origin).count_eq origin)

end Periphery

theorem SideStep.spares {l : Ledger} {action : Action} {side : Periphery}
    (step : SideStep l action side) : Periphery.Spares l.side side := by
  cases step with
  | otherQueued =>
      refine ⟨?_, ?_⟩
      · intro frame held request
        rcases Periphery.mem_frames_enqueue.mp held with rfl | before
        · exact absurd rfl request
        · exact before
      · intro origin request
        rw [Periphery.tally_enqueue, if_neg request.symm]
        omega
  | taken waiting =>
      rename_i frame later
      refine .of_perm ?_
      simp only [Periphery.frames, waiting]
      rw [← List.append_assoc]
      exact List.perm_append_singleton _ _
  | writerStopped stands =>
      refine ⟨?_, ?_⟩
      · intro frame held _
        exact List.mem_append_right _ held
      · intro origin _
        simp only [Periphery.tally, Periphery.frames, List.map_append,
          List.count_append, List.map_nil, List.count_nil]
        omega
  | _ => exact .of_perm (List.Perm.refl _)

namespace Ledger

/-- Caller `c` has the licence to send the `0x13` of the id. -/
def Sends (l : Ledger) (c : Nat) (request : AuthRequest) (authId : Nat) :
    Prop :=
  ∃ attempt, l.Attempting c request attempt ∧ attempt.authId = authId ∧
    attempt.mustSend = true

/-- The bytes are the `0x13` that a licensed caller builds. -/
def Authored (l : Ledger) (cfg : SessionConfig) (authId : Nat)
    (bytes : Bytes) : Prop :=
  ∃ c request, l.Sends c request authId ∧
    buildFlowAuthFrame cfg.codec request.ctx request.appId authId
      request.flow.toFiveTuple = .ok bytes

/-- The retries of the id that have left the entry. -/
def spent (l : Ledger) (authId : Nat) : Nat :=
  l.side.tally (.retry authId) + l.scheduler.holds authId

end Ledger

/-- Every `0x13` is licensed or paid for, and all of an id are one frame. -/
structure Rationed (cfg : SessionConfig) (l : Ledger) : Prop where
  licensed :
    ∀ c request attempt, l.Attempting c request attempt →
      attempt.stage.unsent = true →
      attempt.mustSend = true ∧ l.side.tally (.request attempt.authId) = 0
  carried :
    ∀ c request attempt frame, l.Attempting c request attempt →
      attempt.stage.carried = some frame →
      buildFlowAuthFrame cfg.codec request.ctx request.appId attempt.authId
        request.flow.toFiveTuple = .ok frame
  sole :
    ∀ c d request request' authId, l.Sends c request authId →
      l.Sends d request' authId → c = d
  started :
    ∀ c request authId, l.Sends c request authId →
      ∀ entry, l.live authId = some entry → entry.authStarted = true
  stored :
    ∀ authId entry frame, l.live authId = some entry →
      entry.reusableFrame = some frame → l.Authored cfg authId frame
  held :
    ∀ authId frame, l.scheduler = .enqueue authId frame →
      l.Authored cfg authId frame
  framed :
    ∀ frame ∈ l.side.frames, ∀ authId, frame.asks authId = true →
      l.Authored cfg authId frame.bytes
  once : ∀ authId, l.side.tally (.request authId) ≤ 1
  within : ∀ authId, l.spent authId ≤ cfg.retry.budget
  entered :
    ∀ authId entry, l.live authId = some entry →
      l.spent authId + entry.pending ≤ entry.retries ∧
        entry.retries ≤ cfg.retry.budget

/-- An entry pays for what it schedules and stays inside the budget. -/
structure Thrifty (budget : Nat) (entry changed : ConntrackEntry) : Prop where
  authStarted : changed.authStarted = entry.authStarted
  pending :
    changed.pending + entry.retries ≤ entry.pending + changed.retries
  retries : entry.retries ≤ budget → changed.retries ≤ budget
  reusableFrame :
    ∀ frame, changed.reusableFrame = some frame →
      entry.reusableFrame = some frame

namespace Thrifty

variable {budget : Nat} {entry : ConntrackEntry}

theorem refl (entry : ConntrackEntry) : Thrifty budget entry entry :=
  ⟨rfl, Nat.le_refl _, id, fun _ => id⟩

theorem aged {changed : ConntrackEntry} (aged : Aged entry changed) :
    Thrifty budget entry changed := by
  obtain ⟨lastUsed, rfl⟩ := aged
  exact ⟨rfl, Nat.le_refl _, id, fun _ => id⟩

theorem complete (entry : ConntrackEntry) (outcome : AuthOutcome) :
    Thrifty budget entry (entry.complete outcome) := by
  unfold ConntrackEntry.complete
  split
  · refine ⟨rfl, ?_, id, fun _ impossible => by cases impossible⟩
    simp [ConntrackEntry.pending]
  · exact refl entry

theorem scheduleRetry (entry : ConntrackEntry) (budget : Nat) :
    Thrifty budget entry (entry.scheduleRetry budget).1 := by
  unfold ConntrackEntry.scheduleRetry
  split
  · exact refl entry
  · rename_i accepted
    simp only [Bool.or_eq_true, decide_eq_true_eq, not_or] at accepted
    refine ⟨rfl, ?_, fun _ => by simp only; omega, fun _ => id⟩
    simp only [ConntrackEntry.pending]
    split <;> omega

theorem takeRetry (entry : ConntrackEntry) :
    Thrifty budget entry entry.takeRetry.1 := by
  unfold ConntrackEntry.takeRetry
  split
  · exact refl entry
  · refine ⟨rfl, ?_, id, fun _ => id⟩
    simp [ConntrackEntry.pending]

end Thrifty

/-- What `take_retry` needs. -/
theorem takeRetry_some {entry : ConntrackEntry} {frame : Bytes}
    (taken : entry.takeRetry.2 = some frame) :
    entry.retryScheduled = true ∧ entry.outcome = none ∧
      entry.reusableFrame = some frame ∧
      entry.takeRetry.1 = { entry with retryScheduled := false } := by
  unfold ConntrackEntry.takeRetry at taken ⊢
  split at taken
  · cases taken
  · rename_i accepted
    rw [if_neg accepted]
    simp only [Bool.or_eq_true, Bool.not_eq_true', not_or] at accepted
    exact ⟨by simpa using accepted.1, by simpa using accepted.2, taken, rfl⟩

namespace Evolves

variable {budget : Nat} {table : ConntrackTable}

theorem thrifty {after : ConntrackTable}
    (evolves : Evolves Aged table after) :
    Evolves (Thrifty budget) table after :=
  evolves.mono fun _ _ aged => Thrifty.aged aged

theorem thriftyComplete (wf : table.WellFormed) (authId : Nat)
    (outcome : AuthOutcome) :
    Evolves (Thrifty budget) table
      (table.modifyByAuthId authId (·.complete outcome)) :=
  Evolves.modify wf (ConntrackTable.keepsIdentity_complete outcome)
    Thrifty.refl (fun entry => Thrifty.complete entry outcome) authId

theorem thriftyTakeRetry (wf : table.WellFormed) (authId : Nat) :
    Evolves (Thrifty budget) table
      (table.modifyByAuthId authId fun entry => entry.takeRetry.1) :=
  Evolves.modify wf ConntrackTable.keepsIdentity_takeRetry
    Thrifty.refl Thrifty.takeRetry authId

end Evolves

namespace Rationed

section

variable {cfg : SessionConfig} {l : Ledger} {c authId : Nat}
  {request : AuthRequest} {phase old : CallerPhase}

/-! ## Parts of the ledger that change -/

/-- The one frame of an id. -/
theorem authored_unique (rationed : Rationed cfg l) {first second : Bytes}
    (left : l.Authored cfg authId first)
    (right : l.Authored cfg authId second) : first = second := by
  obtain ⟨c, request, sends, built⟩ := left
  obtain ⟨d, request', sends', built'⟩ := right
  have same := rationed.sole c d request request' authId sends sends'
  subst d
  obtain ⟨attempt, stands, -⟩ := sends
  obtain ⟨attempt', stands', -⟩ := sends'
  rw [(Ledger.inPhase_unique stands stands').1] at built
  exact Except.ok.inj (built.symm.trans built')

/-- Callers move; licences stay, and nobody takes up a request again. -/
theorem setCallers (rationed : Rationed cfg l)
    {callers : Nat → Option Caller}
    (origin :
      ∀ d request attempt',
        ({ l with callers := callers } : Ledger).Attempting d request
          attempt' →
        ∃ attempt, l.Attempting d request attempt ∧
          attempt'.authId = attempt.authId ∧
          attempt'.mustSend = attempt.mustSend ∧
          (attempt'.stage.unsent = true → attempt.stage.unsent = true) ∧
          ∀ frame, attempt'.stage.carried = some frame →
            attempt.stage.carried = some frame ∨
              buildFlowAuthFrame cfg.codec request.ctx request.appId
                attempt.authId request.flow.toFiveTuple = .ok frame)
    (kept :
      ∀ d request authId, l.Sends d request authId →
        ({ l with callers := callers } : Ledger).Sends d request authId) :
    Rationed cfg { l with callers := callers } := by
  have former :
      ∀ d request authId,
        ({ l with callers := callers } : Ledger).Sends d request authId →
        l.Sends d request authId := by
    rintro d request authId ⟨attempt', stands, same, sends⟩
    obtain ⟨attempt, before, sameId, sameLicence, -⟩ :=
      origin d request attempt' stands
    exact ⟨attempt, before, sameId.symm.trans same,
      sameLicence.symm.trans sends⟩
  have authored :
      ∀ authId bytes, l.Authored cfg authId bytes →
        ({ l with callers := callers } : Ledger).Authored cfg authId
          bytes := by
    rintro authId bytes ⟨d, request, sends, built⟩
    exact ⟨d, request, kept d request authId sends, built⟩
  refine ⟨?_, ?_, ?_, ?_, ?_, ?_, ?_, rationed.once, rationed.within,
    rationed.entered⟩
  · intro d request attempt' stands unsent
    obtain ⟨attempt, before, sameId, sameLicence, still, -⟩ :=
      origin d request attempt' stands
    rw [sameId, sameLicence]
    exact rationed.licensed d request attempt before (still unsent)
  · intro d request attempt' frame stands carries
    obtain ⟨attempt, before, sameId, -, -, source⟩ :=
      origin d request attempt' stands
    rw [sameId]
    rcases source frame carries with carried | built
    · exact rationed.carried d request attempt frame before carried
    · exact built
  · intro d e request request' authId first second
    exact rationed.sole d e request request' authId
      (former d request authId first) (former e request' authId second)
  · intro d request authId sends
    exact rationed.started d request authId (former d request authId sends)
  · intro authId entry frame live stored
    exact authored authId frame (rationed.stored authId entry frame live stored)
  · intro authId frame holds
    exact authored authId frame (rationed.held authId frame holds)
  · intro frame listed authId asks
    exact authored authId _ (rationed.framed frame listed authId asks)

/-- A caller without attempt moves and stays without one. -/
theorem setUnregistered (rationed : Rationed cfg l)
    (present : l.InPhase c request old)
    (unregistered : ∀ attempt, old ≠ .attempting attempt)
    (unregistered' : ∀ attempt, phase ≠ .attempting attempt) :
    Rationed cfg (l.setPhase c phase) := by
  have different :
      ∀ d request' attempt, l.Attempting d request' attempt → d ≠ c := by
    rintro d request' attempt stands rfl
    exact unregistered attempt (Ledger.inPhase_unique present stands).2
  refine rationed.setCallers ?_ ?_
  · intro d request' attempt' stands
    rcases Ledger.inPhase_setPhase_cases present stands with
      ⟨-, -, chosen⟩ | ⟨-, before⟩
    · exact absurd chosen (unregistered' attempt')
    · exact ⟨attempt', before, rfl, rfl, id, fun _ => Or.inl⟩
  · rintro d request' authId ⟨attempt, stands, facts⟩
    exact ⟨attempt,
      (Ledger.inPhase_setPhase_of_ne
        (different d request' attempt stands)).mpr stands, facts⟩

/-- A registered caller moves on. -/
theorem setStage (rationed : Rationed cfg l) {attempt : Attempt}
    (present : l.Attempting c request attempt) {stage : Stage}
    (unsent : stage.unsent = true → attempt.stage.unsent = true)
    (carried :
      ∀ frame, stage.carried = some frame →
        attempt.stage.carried = some frame ∨
          buildFlowAuthFrame cfg.codec request.ctx request.appId
            attempt.authId request.flow.toFiveTuple = .ok frame) :
    Rationed cfg
      (l.setPhase c (.attempting { attempt with stage := stage })) := by
  refine rationed.setCallers ?_ ?_
  · intro d request' attempt' stands
    rcases Ledger.inPhase_setPhase_cases present stands with
      ⟨rfl, rfl, chosen⟩ | ⟨-, before⟩
    · cases chosen
      exact ⟨attempt, present, rfl, rfl, unsent, carried⟩
    · exact ⟨attempt', before, rfl, rfl, id, fun _ => Or.inl⟩
  · rintro d request' authId ⟨known, stands, same, sends⟩
    by_cases isCaller : d = c
    · subst d
      obtain ⟨rfl, isKnown⟩ := Ledger.inPhase_unique present stands
      cases isKnown
      exact ⟨_, Ledger.inPhase_setPhase.mpr ⟨_, present, if_pos rfl⟩, same,
        sends⟩
    · exact ⟨known, (Ledger.inPhase_setPhase_of_ne isCaller).mpr stands, same,
        sends⟩

/-- A registered caller leaves the way to its request. -/
theorem setPlainStage (rationed : Rationed cfg l) {attempt : Attempt}
    (present : l.Attempting c request attempt) {stage : Stage}
    (plain : stage.unsent = false) :
    Rationed cfg
      (l.setPhase c (.attempting { attempt with stage := stage })) := by
  refine rationed.setStage present ?_ ?_
  · intro unsent
    rw [plain] at unsent
    cases unsent
  · intro frame carries
    rw [Stage.carried_of_sent plain] at carries
    cases carries

theorem wake (rationed : Rationed cfg l) (selected : Nat → Bool)
    (slot : Slot) : Rationed cfg (l.wake selected slot) := by
  refine rationed.setCallers ?_ ?_
  · intro d request' attempt' stands
    obtain ⟨attempt, before, rfl⟩ := Ledger.attempting_wake.mp stands
    refine ⟨attempt, before, by simp, by simp, ?_, ?_⟩
    · simp
    · intro frame carries
      rw [Attempt.wake_stage] at carries
      exact Or.inl carries
  · rintro d request' authId ⟨attempt, stands, same, sends⟩
    exact ⟨attempt.wake selected slot,
      Ledger.attempting_wake.mpr ⟨attempt, stands, rfl⟩, by simpa using same,
      by simpa using sends⟩

theorem start (rationed : Rationed cfg l) (fresh : l.callers c = none)
    (request : AuthRequest) : Rationed cfg (l.start c request) := by
  refine rationed.setCallers ?_ ?_
  · intro d request' attempt' stands
    rcases Ledger.inPhase_start stands with impossible | before
    · cases impossible
    · exact ⟨attempt', before, rfl, rfl, id, fun _ => Or.inl⟩
  · rintro d request' authId ⟨attempt, stands, facts⟩
    exact ⟨attempt, Ledger.inPhase_start_of_fresh fresh stands, facts⟩

/-- Address, shutdown, mutex and reader do not matter. -/
theorem setTasks (rationed : Rationed cfg l) (vip : Ipv4Addr)
    (shutdown : ShutdownPhase) (owner : Option Nat) (reader : ReaderPc) :
    Rationed cfg
      { l with
        vip := vip, shutdown := shutdown, tableOwner := owner,
        reader := reader } :=
  ⟨rationed.licensed, rationed.carried, rationed.sole, rationed.started,
    rationed.stored, rationed.held, rationed.framed, rationed.once,
    rationed.within, rationed.entered⟩

theorem beginShutdown (rationed : Rationed cfg l) :
    Rationed cfg l.beginShutdown := by
  obtain ⟨shutdown, begun⟩ := l.beginShutdown_eq
  rw [begun]
  exact rationed.setTasks _ _ _ _

/-- The table changes; a stored frame is an old one or an authored one. -/
theorem setTable (rationed : Rationed cfg l) {table : ConntrackTable}
    (continues :
      ∀ authId changed, table.getByAuthId authId = some changed →
        ∃ entry, l.live authId = some entry ∧
          changed.authStarted = entry.authStarted ∧
          changed.pending + entry.retries ≤ entry.pending + changed.retries ∧
          (entry.retries ≤ cfg.retry.budget →
            changed.retries ≤ cfg.retry.budget) ∧
          ∀ frame, changed.reusableFrame = some frame →
            l.Authored cfg authId frame) :
    Rationed cfg { l with table := table } := by
  refine ⟨rationed.licensed, rationed.carried, rationed.sole, ?_, ?_,
    rationed.held, rationed.framed, rationed.once, rationed.within, ?_⟩
  · intro d request' authId sends changed live
    obtain ⟨entry, former, sameStart, -⟩ := continues authId changed live
    exact sameStart.trans
      (rationed.started d request' authId sends entry former)
  · intro authId changed frame live stored
    obtain ⟨entry, former, -, -, -, frames⟩ := continues authId changed live
    exact frames frame stored
  · intro authId changed live
    obtain ⟨entry, former, -, pays, bound, -⟩ := continues authId changed live
    have known := rationed.entered authId entry former
    have same :
        ({ l with table := table } : Ledger).spent authId = l.spent authId :=
      rfl
    refine ⟨?_, bound known.2⟩
    rw [same]
    have paid := known.1
    omega

theorem evolve (rationed : Rationed cfg l) {table : ConntrackTable}
    (evolves : Evolves (Thrifty cfg.retry.budget) l.table table) :
    Rationed cfg { l with table := table } := by
  refine rationed.setTable ?_
  intro authId changed live
  obtain ⟨entry, former, thrifty⟩ := evolves.continues authId changed live
  refine ⟨entry, former, thrifty.authStarted, thrifty.pending,
    thrifty.retries, ?_⟩
  intro frame stored
  exact rationed.stored authId entry frame former
    (thrifty.reusableFrame frame stored)

/-- No `0x13` is added to queue and wire. -/
theorem setSide (rationed : Rationed cfg l) {side : Periphery}
    (spares : Periphery.Spares l.side side) :
    Rationed cfg { l with side := side } := by
  have fewer :
      ∀ authId, ({ l with side := side } : Ledger).spent authId ≤
        l.spent authId := by
    intro authId
    exact Nat.add_le_add_right
      (spares.tally (.retry authId) (by simp)) _
  refine ⟨?_, rationed.carried, rationed.sole, rationed.started,
    rationed.stored, rationed.held, ?_, ?_, ?_, ?_⟩
  · intro d request' attempt stands unsent
    obtain ⟨licence, none_⟩ :=
      rationed.licensed d request' attempt stands unsent
    refine ⟨licence, ?_⟩
    have fewerRequests :=
      spares.tally (.request attempt.authId) (by simp)
    exact Nat.le_zero.mp (none_ ▸ fewerRequests)
  · intro frame listed authId asks
    refine rationed.framed frame (spares.mem frame listed ?_) authId asks
    intro isOther
    rcases OutboundFrame.asks_iff.mp asks with request | retry
    · rw [isOther] at request
      cases request
    · rw [isOther] at retry
      cases retry
  · intro authId
    exact Nat.le_trans (spares.tally (.request authId) (by simp))
      (rationed.once authId)
  · intro authId
    exact Nat.le_trans (fewer authId) (rationed.within authId)
  · intro authId entry live
    have known := rationed.entered authId entry live
    have less := fewer authId
    exact ⟨by omega, known.2⟩

/-- The scheduler moves and holds no retry afterwards. -/
theorem setScheduler (rationed : Rationed cfg l) {position : SchedulerPc}
    (quiet : ∀ authId frame, position ≠ .enqueue authId frame) :
    Rationed cfg { l with scheduler := position } := by
  have empty : ∀ authId, position.holds authId = 0 := by
    intro authId
    cases position with
    | enqueue id frame => exact absurd rfl (quiet id frame)
    | _ => rfl
  have fewer :
      ∀ authId, ({ l with scheduler := position } : Ledger).spent authId ≤
        l.spent authId := by
    intro authId
    unfold Ledger.spent
    simp only [empty authId]
    omega
  refine ⟨rationed.licensed, rationed.carried, rationed.sole,
    rationed.started, rationed.stored, ?_, rationed.framed, rationed.once, ?_,
    ?_⟩
  · intro authId frame holds
    exact absurd holds (quiet authId frame)
  · intro authId
    exact Nat.le_trans (fewer authId) (rationed.within authId)
  · intro authId entry live
    have known := rationed.entered authId entry live
    have less := fewer authId
    exact ⟨by omega, known.2⟩

/-! ## Requests and retries on their way -/

/-- The caller whose request is unsent queues it. -/
theorem queueRequest (rationed : Rationed cfg l)
    (sends : l.Sends c request authId) {frame : Bytes}
    (built :
      buildFlowAuthFrame cfg.codec request.ctx request.appId authId
        request.flow.toFiveTuple = .ok frame)
    (first : l.side.tally (.request authId) = 0)
    (past :
      ∀ attempt, l.Attempting c request attempt →
        attempt.stage.unsent = false)
    (target : AckTarget) :
    Rationed cfg
      { l with side := l.side.enqueue ⟨frame, .request authId, target⟩ } := by
  have sameSpent :
      ∀ other, ({ l with
          side := l.side.enqueue ⟨frame, .request authId, target⟩ } :
        Ledger).spent other = l.spent other := by
    intro other
    unfold Ledger.spent
    simp [Periphery.tally_enqueue]
  refine ⟨?_, rationed.carried, rationed.sole, rationed.started,
    rationed.stored, rationed.held, ?_, ?_, ?_, ?_⟩
  · intro d request' attempt stands unsent
    obtain ⟨licence, none_⟩ :=
      rationed.licensed d request' attempt stands unsent
    refine ⟨licence, ?_⟩
    rw [Periphery.tally_enqueue, none_, if_neg]
    intro same
    cases same
    have isCaller :=
      rationed.sole d c request' request _ ⟨attempt, stands, rfl, licence⟩ sends
    subst d
    obtain ⟨known, standing, -⟩ := sends
    obtain ⟨rfl, -⟩ := Ledger.inPhase_unique standing stands
    rw [past attempt stands] at unsent
    cases unsent
  · intro added listed other asks
    rcases Periphery.mem_frames_enqueue.mp listed with rfl | before
    · rcases OutboundFrame.asks_iff.mp asks with isRequest | isRetry
      · cases isRequest
        exact ⟨c, request, sends, built⟩
      · cases isRetry
    · exact rationed.framed added before other asks
  · intro other
    rw [Periphery.tally_enqueue]
    split
    · rename_i same
      cases same
      rw [first]
    · exact rationed.once other
  · intro other
    rw [sameSpent]
    exact rationed.within other
  · intro other entry live
    rw [sameSpent]
    exact rationed.entered other entry live

/-- The scheduler takes a retry out of its entry. -/
theorem takeRetry (rationed : Rationed cfg l) (wf : l.table.WellFormed)
    {position : SchedulerPc} {entry : ConntrackEntry} {frame : Bytes}
    (stands : l.scheduler = position)
    (empty : position.holds authId = 0)
    (live : l.live authId = some entry)
    (taken : entry.takeRetry.2 = some frame) :
    Rationed cfg
      { l with
        table := l.table.modifyByAuthId authId fun stored => stored.takeRetry.1
        scheduler := .enqueue authId frame } := by
  have identity := ConntrackTable.keepsIdentity_takeRetry
  obtain ⟨scheduled, -, stored, after⟩ := takeRetry_some taken
  have evolved := rationed.evolve (Evolves.thriftyTakeRetry wf authId)
  have known := rationed.entered authId entry live
  have paid : entry.pending = 1 := by
    simp [ConntrackEntry.pending, scheduled]
  have others :
      ∀ (table : ConntrackTable) (other : Nat), other ≠ authId →
        ({ l with table := table, scheduler := .enqueue authId frame } :
          Ledger).spent other ≤ l.spent other := by
    intro table other different
    unfold Ledger.spent
    simp only [SchedulerPc.holds, if_neg different.symm]
    omega
  have own :
      ∀ table : ConntrackTable,
        ({ l with table := table, scheduler := .enqueue authId frame } :
          Ledger).spent authId = l.spent authId + 1 := by
    intro table
    unfold Ledger.spent
    rw [stands, empty]
    simp [SchedulerPc.holds]
  refine ⟨evolved.licensed, evolved.carried, evolved.sole, evolved.started,
    evolved.stored, ?_, evolved.framed, evolved.once, ?_, ?_⟩
  · intro other held isHeld
    cases isHeld
    exact rationed.stored authId entry frame live stored
  · intro other
    by_cases same : other = authId
    · subst other
      rw [own]
      omega
    · exact Nat.le_trans (others _ other same) (rationed.within other)
  · intro other changed found
    by_cases same : other = authId
    · subst other
      have now :
          (l.table.modifyByAuthId authId fun stored =>
            stored.takeRetry.1).getByAuthId authId = some changed :=
        found
      have former : l.table.getByAuthId authId = some entry := live
      rw [ConntrackTable.getByAuthId_modifyByAuthId wf identity, if_pos rfl,
        former, Option.map_some, after] at now
      cases now
      rw [own]
      refine ⟨?_, known.2⟩
      simp only [ConntrackEntry.pending]
      simp only [Bool.false_eq_true, if_false]
      omega
    · have unchanged := evolved.entered other changed found
      have less := others
        (l.table.modifyByAuthId authId fun stored => stored.takeRetry.1)
        other same
      have sameSpent :
          ({ l with
              table :=
                l.table.modifyByAuthId authId fun stored =>
                  stored.takeRetry.1 } : Ledger).spent other =
            l.spent other :=
        rfl
      rw [sameSpent] at unchanged
      exact ⟨by omega, unchanged.2⟩

/-- The scheduler queues the retry it holds. -/
theorem queueRetry (rationed : Rationed cfg l) {frame : Bytes}
    (stands : l.scheduler = .enqueue authId frame) (target : AckTarget) :
    Rationed cfg
      { l with
        scheduler := .awaitWrite
        side := l.side.enqueue ⟨frame, .retry authId, target⟩ } := by
  have sameSpent :
      ∀ other, ({ l with
          scheduler := .awaitWrite
          side := l.side.enqueue ⟨frame, .retry authId, target⟩ } :
        Ledger).spent other = l.spent other := by
    intro other
    unfold Ledger.spent
    simp [Periphery.tally_enqueue, stands, SchedulerPc.holds]
  refine ⟨?_, rationed.carried, rationed.sole, rationed.started,
    rationed.stored, ?_, ?_, ?_, ?_, ?_⟩
  · intro d request' attempt standing unsent
    obtain ⟨licence, none_⟩ :=
      rationed.licensed d request' attempt standing unsent
    refine ⟨licence, ?_⟩
    rw [Periphery.tally_enqueue, none_, if_neg (by simp)]
  · intro other held isHeld
    cases isHeld
  · intro added listed other asks
    rcases Periphery.mem_frames_enqueue.mp listed with rfl | before
    · rcases OutboundFrame.asks_iff.mp asks with isRequest | isRetry
      · cases isRequest
      · cases isRetry
        exact rationed.held authId frame stands
    · exact rationed.framed added before other asks
  · intro other
    rw [Periphery.tally_enqueue, if_neg (by simp)]
    exact rationed.once other
  · intro other
    rw [sameSpent]
    exact rationed.within other
  · intro other entry live
    rw [sameSpent]
    exact rationed.entered other entry live

/-! ## Registration -/

/-- Nothing of an id is under way before a caller has the licence for it. -/
private theorem idle_of_unlicensed (rationed : Rationed cfg l)
    (unlicensed : ∀ d request', ¬ l.Sends d request' authId) :
    l.side.tally (.request authId) = 0 ∧ l.spent authId = 0 := by
  have absent :
      ∀ origin, origin = .request authId ∨ origin = .retry authId →
        l.side.tally origin = 0 := by
    intro origin asked
    refine Periphery.tally_eq_zero ?_
    rintro frame listed rfl
    obtain ⟨d, request', sends, -⟩ :=
      rationed.framed frame listed authId (OutboundFrame.asks_iff.mpr asked)
    exact unlicensed d request' sends
  refine ⟨absent _ (Or.inl rfl), ?_⟩
  unfold Ledger.spent
  rw [absent _ (Or.inr rfl), Nat.zero_add]
  cases position : l.scheduler with
  | enqueue id frame =>
      refine if_neg ?_
      rintro rfl
      obtain ⟨d, request', sends, -⟩ := rationed.held id frame position
      exact unlicensed d request' sends
  | _ => rfl

/-- A licence is given for an id that nobody sends. -/
private theorem unlicensed_of_registers (rationed : Rationed cfg l)
    (sound : Sound l) {table : ConntrackTable} {mustSend : Bool}
    {entry : ConntrackEntry}
    (registers : Registers l.table table request authId mustSend entry)
    (licence : mustSend = true) (d : Nat) (request' : AuthRequest) :
    ¬ l.Sends d request' authId := by
  intro sends
  rcases registers.origin with ⟨former, live, -, -, license, -⟩ | ⟨fresh, -⟩
  · have started := rationed.started d request' authId sends former live
    rw [license, licence] at started
    cases started
  · obtain ⟨attempt, stands, same, -⟩ := sends
    have assigned := (sound.attempts d request' attempt stands).assigned.2
    omega

/-- The caller that holds the mutex registers. -/
theorem register (rationed : Rationed cfg l) (sound : Sound l)
    (present : l.InPhase c request old)
    (unregistered : ∀ attempt, old ≠ .attempting attempt)
    {table : ConntrackTable} {mustSend : Bool} {entry : ConntrackEntry}
    (registers : Registers l.table table request authId mustSend entry) :
    Rationed cfg ({ l with table := table, tableOwner := none }.setPhase c
      (.attempting
        ⟨authId, mustSend, .registered,
          if mustSend then .build else .arm⟩)) := by
  let l' : Ledger :=
    { l with table := table, tableOwner := none }.setPhase c
      (.attempting
        ⟨authId, mustSend, .registered, if mustSend then .build else .arm⟩)
  have unlicensed := unlicensed_of_registers rationed sound registers
  have split :
      ∀ d request' attempt, l'.Attempting d request' attempt →
        (d = c ∧ request' = request ∧
          attempt = ⟨authId, mustSend, .registered,
            if mustSend then .build else .arm⟩) ∨
          l.Attempting d request' attempt := by
    intro d request' attempt stands
    rcases Ledger.inPhase_setPhase_cases present stands with
      ⟨isCaller, sameRequest, chosen⟩ | ⟨-, before⟩
    · cases chosen
      exact Or.inl ⟨isCaller, sameRequest, rfl⟩
    · exact Or.inr before
  have senders :
      ∀ d request' other, l'.Sends d request' other →
        (d = c ∧ other = authId ∧ mustSend = true) ∨
          l.Sends d request' other := by
    rintro d request' other ⟨attempt, stands, same, sends⟩
    rcases split d request' attempt stands with ⟨isCaller, -, rfl⟩ | before
    · exact Or.inl ⟨isCaller, same.symm, sends⟩
    · exact Or.inr ⟨attempt, before, same, sends⟩
  have authored :
      ∀ other bytes, l.Authored cfg other bytes →
        l'.Authored cfg other bytes := by
    rintro other bytes ⟨d, request', ⟨attempt, stands, facts⟩, built⟩
    have different : d ≠ c := by
      rintro rfl
      exact unregistered attempt (Ledger.inPhase_unique present stands).2
    exact ⟨d, request', ⟨attempt,
      (Ledger.inPhase_setPhase_of_ne different).mpr stands, facts⟩, built⟩
  change Rationed cfg l'
  refine ⟨?_, ?_, ?_, ?_, ?_, ?_, ?_, rationed.once, rationed.within, ?_⟩
  · intro d request' attempt stands unsent
    rcases split d request' attempt stands with ⟨-, -, rfl⟩ | before
    · cases mustSend with
      | true => exact ⟨rfl, (idle_of_unlicensed rationed (unlicensed rfl)).1⟩
      | false => cases unsent
    · exact rationed.licensed d request' attempt before unsent
  · intro d request' attempt frame stands carries
    rcases split d request' attempt stands with ⟨-, -, rfl⟩ | before
    · cases mustSend with
      | true => cases carries
      | false => cases carries
    · exact rationed.carried d request' attempt frame before carries
  · intro d e request' request'' other first second
    rcases senders d request' other first with
      ⟨isCaller, rfl, licence⟩ | before
    · rcases senders e request'' other second with
        ⟨isCaller', -, -⟩ | before'
      · exact isCaller.trans isCaller'.symm
      · exact absurd before' (unlicensed licence e request'')
    · rcases senders e request'' other second with
        ⟨-, rfl, licence⟩ | before'
      · exact absurd before (unlicensed licence d request')
      · exact rationed.sole d e request' request'' other before before'
  · intro d request' other sends found live
    by_cases same : other = authId
    · subst other
      cases registers.stored.symm.trans live
      exact registers.started
    · rcases senders d request' other sends with ⟨-, isOwn, -⟩ | before
      · exact absurd isOwn same
      · exact rationed.started d request' other before found
          ((registers.others other same).symm.trans live)
  · intro other found frame live stored
    refine authored other frame ?_
    by_cases same : other = authId
    · subst other
      cases registers.stored.symm.trans live
      rcases registers.origin with
        ⟨former, before, -, -, -, -, -, sameFrame⟩ |
        ⟨-, -, -, -, noFrame⟩
      · exact rationed.stored authId former frame before
          (sameFrame.symm.trans stored)
      · rw [noFrame] at stored
        cases stored
    · exact rationed.stored other found frame
        ((registers.others other same).symm.trans live) stored
  · intro other frame holds
    exact authored other frame (rationed.held other frame holds)
  · intro frame listed other asks
    exact authored other _ (rationed.framed frame listed other asks)
  · intro other found live
    change l.spent other + found.pending ≤ found.retries ∧ _
    by_cases same : other = authId
    · subst other
      cases registers.stored.symm.trans live
      rcases registers.origin with
        ⟨former, before, -, -, -, sameRetries, sameScheduled, -⟩ |
        ⟨-, licence, noRetries, unscheduled, -⟩
      · have known := rationed.entered authId former before
        simp only [ConntrackEntry.pending, sameScheduled, sameRetries]
        exact known
      · rw [(idle_of_unlicensed rationed (unlicensed licence)).2]
        simp [ConntrackEntry.pending, unscheduled, noRetries]
    · exact rationed.entered other found
        ((registers.others other same).symm.trans live)

end

/-! ## Preservation -/

section

variable {cfg : SessionConfig} {s s' : State} {c : Nat}
  {request : AuthRequest} {phase : CallerPhase} {action : Action}

/-- A licensed caller stores the frame it has built in its entry. -/
private theorem storeFrame {l : Ledger} (rationed : Rationed cfg l)
    (wf : l.table.WellFormed) {attempt : Attempt} {frame : Bytes}
    (present : l.Attempting c request attempt)
    (stands : attempt.stage = .storeFrame frame) (deadline : Nat) :
    Rationed cfg
      { l with
        table :=
          l.table.modifyByAuthId attempt.authId fun entry =>
            if entry.authInFlight then entry.setReusableFrame frame deadline
            else entry } := by
  have licence :=
    (rationed.licensed c request attempt present (by rw [stands]; rfl)).1
  have built :=
    rationed.carried c request attempt frame present (by rw [stands]; rfl)
  refine rationed.setTable ?_
  intro other changed live
  rw [ConntrackTable.getByAuthId_modifyByAuthId wf
    (keepsIdentity_storeFrame frame deadline)] at live
  split at live
  · rename_i same
    subst other
    obtain ⟨entry, former, rfl⟩ := Option.map_eq_some_iff.mp live
    refine ⟨entry, former, ?_⟩
    split
    · refine ⟨rfl, Nat.le_refl _, id, ?_⟩
      intro stored isStored
      cases isStored
      exact ⟨c, request, ⟨attempt, present, rfl, licence⟩, built⟩
    · exact ⟨rfl, Nat.le_refl _, id,
        fun stored => rationed.stored _ entry stored former⟩
  · exact ⟨changed, live, rfl, Nat.le_refl _, id,
      fun stored => rationed.stored _ changed stored live⟩

private theorem readStage {l : Ledger} (rationed : Rationed cfg l)
    {attempt : Attempt} {stage : Stage}
    (present : l.Attempting c request attempt)
    (moved : s.readStage cfg c request attempt = some stage) :
    Rationed cfg
      (l.setPhase c (.attempting { attempt with stage := stage })) := by
  cases readStep_of_readStage moved with
  | built stands built =>
      refine rationed.setStage present ?_ ?_
      · intro _
        rw [stands]
        rfl
      · intro frame carries
        cases carries
        exact Or.inr built
  | openRunning stands =>
      refine rationed.setStage present ?_ ?_
      · intro _
        rw [stands]
        rfl
      · intro frame carries
        cases carries
        rw [stands]
        exact Or.inl rfl
  | _ => exact rationed.setPlainStage present rfl

private theorem claimFlow (rationed : Rationed cfg s.ledger)
    (sound : Sound s.ledger) (present : s.ledger.InPhase c request .claim)
    (order : IterationOrder ConntrackEntry) :
    Rationed cfg (s.claimFlow order c request).ledger := by
  obtain ⟨table, gone, position, claimed, claims, effect⟩ :=
    claimFlow_effect sound.wellFormed order c request
  rw [effect]
  have locked :=
    (rationed.evolve claimed.evolves.thrifty).setTasks s.vip s.shutdown
      (some c) s.reader
  refine (locked.wake gone _).setUnregistered
    (Ledger.inPhase_mapPhases.mpr ⟨.claim, present, rfl⟩)
    (by simp [CallerPhase.wake]) ?_
  rintro attempt rfl
  cases claims

/-- A step of a caller keeps the accounts. -/
theorem callerStep (rationed : Rationed cfg s.ledger)
    (sound : Sound s.ledger) (present : s.ledger.InPhase c request phase)
    (step : CallerStep cfg s c request action phase s') :
    Rationed cfg s'.ledger := by
  cases step with
  | check checked =>
      refine rationed.setUnregistered present ?_ ?_
      · rintro attempt rfl
        cases checkStep_of_checkPhase checked
      · rintro attempt rfl
        cases checkStep_of_checkPhase checked
  | claim free => exact claimFlow rationed sound present _
  | claimSettle =>
      exact rationed.setUnregistered present (by simp) (by simp)
  | insert room =>
      have own := (sound.claiming c request _ present rfl).2
      rcases insertFlow_cases (c := c) sound.wellFormed room own with
        ⟨entry, outcome, table, -, -, -, evolves, -, effect⟩ |
        ⟨entry, authId, mustSend, table, registers, effect⟩
      · rw [effect]
        exact ((rationed.evolve evolves.thrifty).setTasks s.vip s.shutdown
          none s.reader).setUnregistered present (by simp) (by simp)
      · rw [effect]
        exact rationed.register sound present (by simp) registers
  | read moved => exact readStage rationed present moved
  | storeFrame stands free =>
      have stored := storeFrame rationed sound.wellFormed present stands
      refine (stored _).setStage present ?_ ?_
      · intro _
        rw [stands]
        rfl
      · intro frame carries
        cases carries
        rw [stands]
        exact Or.inl rfl
  | enqueueFailed stands ended => exact rationed.setPlainStage present rfl
  | enqueue stands =>
      rename_i attempt frame
      have unsent : attempt.stage.unsent = true := by rw [stands]; rfl
      obtain ⟨licence, first⟩ :=
        rationed.licensed c request attempt present unsent
      have built :=
        rationed.carried c request attempt frame present (by rw [stands]; rfl)
      have moved :
          Rationed cfg
            (s.ledger.setPhase c
              (.attempting { attempt with stage := .awaitWrite })) :=
        rationed.setPlainStage present rfl
      have stays :
          (s.ledger.setPhase c
            (.attempting { attempt with stage := .awaitWrite })).Attempting c
              request { attempt with stage := .awaitWrite } :=
        Ledger.inPhase_setPhase.mpr ⟨_, present, if_pos rfl⟩
      refine moved.queueRequest ⟨_, stays, rfl, licence⟩ built first ?_
        (.caller c)
      intro known standing
      obtain ⟨-, isKnown⟩ := Ledger.inPhase_unique stays standing
      cases isKnown
      rfl
  | recordSent stands => exact rationed.setPlainStage present rfl
  | abandonEvict stands free =>
      exact (rationed.evolve
        (Evolves.evictByAuthId sound.wellFormed _).thrifty).setPlainStage
          present rfl
  | abandonRemove stands =>
      rename_i attempt reason
      refine (rationed.wake (· == attempt.authId) .dropped).setPlainStage
        (Ledger.attempting_wake.mpr ⟨attempt, present, rfl⟩) ?_
      rcases afterAbandon_cases request attempt.mustSend reason with
        counted | ⟨error, answered, -⟩
      · rw [counted]
        rfl
      · rw [answered]
        rfl
  | settleTimeout stands => exact rationed.setPlainStage present rfl
  | expire stands empty due => exact rationed.setPlainStage present rfl
  | cancel suspended => exact rationed.setPlainStage present rfl

/-- A step of another task keeps the accounts. -/
theorem taskStep {l l' : Ledger} (rationed : Rationed cfg l)
    (sound : Sound l) (step : TaskStep cfg l action l') :
    Rationed cfg l' := by
  have wf := sound.wellFormed
  cases step with
  | side moves => exact rationed.setSide moves.spares
  | authorizeFlow fresh => exact rationed.start fresh _
  | settled free idle applied verdict =>
      obtain ⟨entry, outcome, -, rfl, -⟩ := applyAuthWireStatus_ok applied
      exact (rationed.evolve (Evolves.thriftyComplete wf _ _)).setTasks _ _ _ _
  | applied free idle applied verdict =>
      obtain ⟨entry, outcome, -, rfl, -⟩ := applyAuthWireStatus_ok applied
      exact rationed.evolve (Evolves.thriftyComplete wf _ _)
  | exhausted message free idle live unsettled =>
      exact (rationed.evolve (Evolves.thriftyComplete wf _ _)).setTasks _ _ _ _
  | scheduled enabled free idle plain =>
      have budget :
          cfg.retry.budget = cfg.retry.maxWireRetriesPerFlow :=
        if_pos enabled
      refine (rationed.evolve ?_).setTasks _ _ _ _
      rw [budget]
      exact Evolves.modify wf
        (ConntrackTable.keepsIdentity_scheduleRetry _) Thrifty.refl
        (fun entry => Thrifty.scheduleRetry entry _) _
  | retryFailed free stands verdict =>
      exact (rationed.evolve (Evolves.thriftyComplete wf _ _)).setTasks _ _ _ _
  | readerNotify stands => exact (rationed.wake _ _).setTasks _ _ _ _
  | vipClear cancelled free stands =>
      exact (rationed.evolve (Evolves.clear _).thrifty).setTasks _ _ _ _
  | vipDrain stands => exact (rationed.wake _ _).setTasks _ _ _ _
  | vipUnsubscribe stands free =>
      have moved := rationed.setTasks l.vip l.shutdown l.tableOwner .idle
      exact moved.setSide (.of_perm (List.Perm.refl _))
  | touch free stands touched =>
      exact (rationed.evolve (Evolves.touched wf touched).thrifty).setTasks
        _ _ _ _
  | readerStop stands => exact rationed.beginShutdown.setTasks _ _ _ _
  | schedulerMove plain plain' quiet => exact rationed.setScheduler quiet
  | retryQueued stands => exact rationed.queueRetry stands _
  | schedulerClosing stands =>
      exact rationed.beginShutdown.setScheduler (by simp)
  | deadlineExceeded message free stands live =>
      exact (rationed.evolve (Evolves.thriftyComplete wf _ _)).setScheduler
        (by simp)
  | retryTaken free stands live taken =>
      exact rationed.takeRetry wf stands rfl live taken
  | retryVoid free stands live taken =>
      exact (rationed.evolve (Evolves.thriftyTakeRetry wf _)).setScheduler
        (by simp)
  | outcomeFound free stands verdict => exact rationed.setScheduler (by simp)
  | outcomeMissing free stands verdict =>
      exact rationed.setScheduler (by simp)
  | schedulerSettle stands => exact rationed.setScheduler (by simp)
  | schedulerNotify stands => exact (rationed.wake _ _).setScheduler (by simp)
  | writerClosing =>
      exact rationed.beginShutdown.setSide
        (.of_perm (l.beginShutdown_side ▸ List.Perm.refl _))
  | close => exact rationed.beginShutdown
  | unsubscribe stands free =>
      have moved :=
        rationed.setTasks l.vip .clearTable l.tableOwner l.reader
      exact moved.setSide (.of_perm (List.Perm.refl _))
  | clearTable cancelled free stands =>
      exact (rationed.evolve (Evolves.clear _).thrifty).setTasks _ _ _ _
  | drain stands => exact (rationed.wake _ _).setTasks _ _ _ _
  | _ => exact rationed.setTasks _ _ _ _

theorem initial (cfg : SessionConfig) (vip : Ipv4Addr) (now : Nat) :
    Rationed cfg (State.initial vip now).ledger := by
  refine ⟨?_, ?_, ?_, ?_, ?_, ?_, ?_, ?_, ?_, ?_⟩
  · intro c request attempt stands
    cases stands
  · intro c request attempt frame stands
    cases stands
  · rintro c d request request' authId ⟨attempt, stands, -⟩
    cases stands
  · rintro c request authId ⟨attempt, stands, -⟩
    cases stands
  · intro authId entry frame live
    cases live
  · intro authId frame holds
    cases holds
  · intro frame listed
    cases listed
  · intro authId
    exact Nat.zero_le _
  · intro authId
    exact Nat.zero_le _
  · intro authId entry live
    cases live

/-- The accounts hold in every reachable state. -/
theorem run {vip : Ipv4Addr} {now : Nat} {actions : List Action}
    (ran :
      Concurrency.run (next cfg) (State.initial vip now) actions = some s) :
    Rationed cfg s.ledger := by
  refine invariant_of_steps (fun t => Rationed cfg t.ledger)
    (Rationed.initial cfg vip now) ?_ ?_
    (Concurrency.meets_of_forall fun _ _ _ => trivial) ran
  · intro t after action c request phase sound rationed _ present step
    exact rationed.callerStep sound present step
  · intro t after action sound rationed _ step
    exact rationed.taskStep sound step

end

end Rationed

/-! ## The wire -/

theorem countP_asks (frames : List OutboundFrame) (authId : Nat) :
    frames.countP (·.asks authId) =
      (frames.map (·.origin)).count (.request authId) +
        (frames.map (·.origin)).count (.retry authId) := by
  induction frames with
  | nil => rfl
  | cons frame later inductionHypothesis =>
      obtain ⟨bytes, origin, target⟩ := frame
      rw [List.countP_cons, inductionHypothesis]
      simp only [List.map_cons, List.count_cons, OutboundFrame.asks]
      cases origin with
      | request id =>
          by_cases same : id = authId
          · simp [same]
            omega
          · simp [same]
      | retry id =>
          by_cases same : id = authId
          · simp [same]
            omega
          · simp [same]
      | other => simp

/-- What has been written counts in the accounts. -/
theorem Periphery.countP_wire_le (side : Periphery) (authId : Nat) :
    side.wire.countP (·.asks authId) ≤
      side.tally (.request authId) + side.tally (.retry authId) := by
  rw [countP_asks]
  simp only [Periphery.tally, Periphery.frames, List.map_append,
    List.count_append]
  omega

/-- A caller does not touch the retry scheduler. -/
theorem CallerStep.scheduler {cfg : SessionConfig} {s s' : State} {c : Nat}
    {request : AuthRequest} {phase : CallerPhase} {action : Action}
    (step : CallerStep cfg s c request action phase s') :
    s'.ledger.scheduler = s.ledger.scheduler := by
  cases step with
  | claim free =>
      unfold State.claimFlow
      simp only
      split <;> rfl
  | insert room =>
      unfold State.insertFlow
      simp only
      split
      · rfl
      · split <;> rfl
  | _ => rfl

/-- A retry comes out of an entry that waits for it. -/
theorem retry_of_next {cfg : SessionConfig} {s s' : State} {action : Action}
    {authId : Nat} {frame : Bytes} (stepped : next cfg s action = some s')
    (holds : s'.scheduler = .enqueue authId frame)
    (before : s.scheduler ≠ .enqueue authId frame) :
    ∃ entry, s.table.getByAuthId authId = some entry ∧
      entry.outcome = none ∧ entry.retryScheduled = true := by
  rcases step_of_next stepped with ⟨c, request, phase, present, step⟩ | step
  · exact absurd (step.scheduler.symm.trans holds) before
  · have held : s'.ledger.scheduler = .enqueue authId frame := holds
    have free : s.ledger.scheduler ≠ .enqueue authId frame := before
    generalize s'.ledger = l' at step held
    have begun : s.ledger.beginShutdown.scheduler = s.ledger.scheduler := by
      obtain ⟨shutdown, same⟩ := s.ledger.beginShutdown_eq
      rw [same]
    cases step with
    | retryTaken unlocked stands live taken =>
        cases held
        obtain ⟨scheduled, unsettled, -, -⟩ := takeRetry_some taken
        exact ⟨_, live, unsettled, scheduled⟩
    | schedulerMove plain plain' quiet => exact absurd held (quiet _ _)
    | retryQueued stands => cases held
    | schedulerClosing stands => cases held
    | deadlineExceeded message unlocked stands live => cases held
    | retryVoid unlocked stands live taken => cases held
    | outcomeFound unlocked stands verdict => cases held
    | outcomeMissing unlocked stands verdict => cases held
    | schedulerSettle stands => cases held
    | schedulerNotify stands => cases held
    | readerStop stands => exact absurd (begun.symm.trans held) free
    | writerClosing => exact absurd (begun.symm.trans held) free
    | close => exact absurd (begun.symm.trans held) free
    | _ => exact absurd held free

section

variable {cfg : SessionConfig} {vip : Ipv4Addr} {now : Nat}
  {actions : List Action} {s : State}

/-- Every `0x13` on the wire is the frame its sending caller has built. -/
theorem wire_authored
    (ran :
      Concurrency.run (next cfg) (State.initial vip now) actions = some s)
    {frame : OutboundFrame} (written : frame ∈ s.wire) {authId : Nat}
    (asks : frame.asks authId = true) :
    s.ledger.Authored cfg authId frame.bytes :=
  (Rationed.run ran).framed frame (List.mem_append_right _ written) authId asks

/-- Whatever the interleaving, the `0x13` of one id is written at most once and
once per allowed retry, always with the same bytes, and a retry is only taken
from an entry that is live, open and scheduled for it. -/
theorem wire_rationed
    (ran :
      Concurrency.run (next cfg) (State.initial vip now) actions = some s)
    (authId : Nat) :
    s.wire.countP (·.asks authId) ≤
        1 + (if cfg.retry.enabled then cfg.retry.maxWireRetriesPerFlow
          else 0) ∧
      (∀ first ∈ s.wire, ∀ second ∈ s.wire, first.asks authId = true →
        second.asks authId = true → first.bytes = second.bytes) ∧
      ∀ action s' frame, next cfg s action = some s' →
        s'.scheduler = .enqueue authId frame →
        s.scheduler ≠ .enqueue authId frame →
        ∃ entry, s.table.getByAuthId authId = some entry ∧
          entry.outcome = none ∧ entry.retryScheduled = true := by
  have rationed := Rationed.run ran
  refine ⟨?_, ?_, ?_⟩
  · have counted :
        s.wire.countP (·.asks authId) ≤
          s.periphery.tally (.request authId) +
            s.periphery.tally (.retry authId) :=
      s.periphery.countP_wire_le authId
    have once : s.periphery.tally (.request authId) ≤ 1 :=
      rationed.once authId
    have within :
        s.periphery.tally (.retry authId) + s.scheduler.holds authId ≤
          if cfg.retry.enabled then cfg.retry.maxWireRetriesPerFlow else 0 :=
      rationed.within authId
    omega
  · intro first written second written' asks asks'
    exact rationed.authored_unique (wire_authored ran written asks)
      (wire_authored ran written' asks')
  · intro action s' frame stepped holds before
    exact retry_of_next stepped holds before

end

/-- One busy answer, one retry: the budget is used up by two equal frames. -/
theorem wire_rationed_sample :
    ∃ s, Concurrency.run (next (Sample.config ⟨true, 1, 0, l3AuthTimeout⟩))
        (State.initial Sample.vip 0)
        (Sample.firstCall ++
          [.receive (.auth 0x84 Sample.busyJson), .reader, .reader] ++
          List.replicate 4 .scheduler ++
          [.writer .written, .writer .written]) = some s ∧
      s.wire.countP (·.asks 1) = 2 ∧
      ∀ first ∈ s.wire, ∀ second ∈ s.wire, first.asks 1 = true →
        second.asks 1 = true → first.bytes = second.bytes := by
  apply Concurrency.exists_of_view (·.wire.countP (·.asks 1)) 2
  · decide +kernel
  · intro s ran counted
    exact ⟨counted, (wire_rationed ran 1).2.1⟩

end HermesAtrust.L3
