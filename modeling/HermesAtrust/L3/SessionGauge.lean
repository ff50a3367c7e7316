import HermesAtrust.L3.SessionSenders

/-!
# The gauge of attempts in flight

`outcomes_received` and `timeouts` count the settlements and `in_flight` the
attempts that are recorded and neither settled nor cancelled.  The gauge is
decremented with saturation, and under the split of the recorded ids it never
saturates: a settlement that is about to be counted belongs to a recorded id
that has not been settled.
-/

namespace HermesAtrust.L3

open HermesAtrust.Framing HermesAtrust.Protocol HermesAtrust.Collections

/-! ## The session stays open and keeps its address -/

theorem CallerStep.reader {cfg : SessionConfig} {s s' : State} {c : Nat}
    {request : AuthRequest} {phase : CallerPhase} {action : Action}
    (step : CallerStep cfg s c request action phase s') :
    s'.reader = s.reader := by
  cases step with
  | claim free =>
      unfold State.claimFlow
      simp only
      split <;> rfl
  | insert room =>
      unfold State.insertFlow
      simp only
      split
      · rfl
      · split <;> rfl
  | _ => rfl

theorem ReaderPc.steady_of_plain {position : ReaderPc}
    (plain : position.plain = true) : position.updating = false := by
  cases position with
  | vipClear => cases plain
  | vipCount cancelled => cases plain
  | vipDrain => cases plain
  | vipReset => cases plain
  | vipUnsubscribe => cases plain
  | _ => rfl

/-- The session is open and the reader applies no address update. -/
structure Steady (s : State) : Prop where
  running : s.shutdown = .running
  reading : s.reader.updating = false

namespace Steady

variable {cfg : SessionConfig} {s s' : State} {action : Action}

private theorem writer {result : WriteResult} (steady : Steady s)
    (orderly : Orderly cfg s (.writer result))
    (stepped : s.advanceWriter result = some s') :
    s'.shutdown = .running ∧ s'.reader = s.reader := by
  have acknowledged : ∀ (t : State) (target : AckTarget) (ack : Ack),
      (t.acknowledge target ack).shutdown = t.shutdown ∧
        (t.acknowledge target ack).reader = t.reader := by
    intro t target ack
    cases target <;> exact ⟨rfl, rfl⟩
  have failed : ∀ (frames : List OutboundFrame) (t : State),
      (t.failFrames frames).shutdown = t.shutdown ∧
        (t.failFrames frames).reader = t.reader := by
    intro frames
    induction frames with
    | nil => exact fun t => ⟨rfl, rfl⟩
    | cons frame later inductionHypothesis =>
        intro t
        have first := acknowledged t frame.written .failed
        have rest := inductionHypothesis (t.acknowledge frame.written .failed)
        exact ⟨rest.1.trans first.1, rest.2.trans first.2⟩
  have notFailing := orderly.1
  have notTimedOut := orderly.2
  unfold State.advanceWriter at stepped
  split at stepped
  · split at stepped
    · cases stepped
      exact ⟨steady.running, rfl⟩
    · split at stepped
      · cases stepped
      · cases stepped
        exact ⟨steady.running, rfl⟩
  · split at stepped
    · cases stepped
      exact ⟨steady.running, rfl⟩
    · rename_i frame _ _
      split at stepped
      · cases stepped
        have kept := acknowledged s frame.written .written
        exact ⟨kept.1.trans steady.running, kept.2⟩
      · cases stepped
        have kept := acknowledged s frame.written .failed
        exact ⟨kept.1.trans steady.running, kept.2⟩
      · cases stepped
        exact ⟨steady.running, rfl⟩
  · rename_i failing
    exact absurd failing notFailing
  · rename_i timedOut
    exact absurd timedOut (notTimedOut _)
  · rename_i frames _
    split at stepped
    · cases stepped
    · cases stepped
      have kept := failed (frames ++ s.queue) s
      exact ⟨kept.1.trans steady.running, kept.2⟩
  · cases stepped

private theorem taskStep {l l' : Ledger} (running : l.shutdown = .running)
    (reading : l.reader.updating = false) (vip : l.vip = s.vip)
    (scheduler : l.scheduler = s.scheduler) (orderly : Orderly cfg s action)
    (notWriter : ∀ result, action ≠ .writer result)
    (step : TaskStep cfg l action l') :
    l'.shutdown = .running ∧ l'.reader.updating = false := by
  have updates : ∀ position, l.reader = position →
      position.updating = true → False := by
    intro position stands impossible
    rw [stands, impossible] at reading
    cases reading
  have closes : ∀ phase, l.shutdown = phase → phase ≠ .running → False := by
    intro phase stands impossible
    exact impossible (stands.symm.trans running)
  cases step with
  | scheduled enabled free idle plain =>
      exact ⟨running, ReaderPc.steady_of_plain plain⟩
  | readerMove plain plain' =>
      exact ⟨running, ReaderPc.steady_of_plain plain'⟩
  | vipChanged idle accepted found changed =>
      exact absurd (vip.trans (orderly accepted _ found)) changed
  | vipClear cancelled free stands => exact (updates _ stands rfl).elim
  | vipCount stands => exact (updates _ stands rfl).elim
  | vipDrain stands => exact (updates _ stands rfl).elim
  | vipReset stands => exact (updates _ stands rfl).elim
  | vipUnsubscribe stands free => exact (updates _ stands rfl).elim
  | readerStop stands => exact orderly.elim
  | schedulerClosing stands =>
      exact absurd (scheduler.symm.trans stands) orderly.2.2
  | writerClosing => exact absurd rfl (notWriter _)
  | close => exact orderly.elim
  | stopSignal stands => exact (closes _ stands (by simp)).elim
  | unsubscribe stands free => exact (closes _ stands (by simp)).elim
  | clearTable cancelled free stands => exact (closes _ stands (by simp)).elim
  | countCancelled stands => exact (closes _ stands (by simp)).elim
  | drain stands => exact (closes _ stands (by simp)).elim
  | settled free idle applied verdict => exact ⟨running, rfl⟩
  | exhausted message free idle live unsettled => exact ⟨running, rfl⟩
  | readerSettle stands => exact ⟨running, rfl⟩
  | readerNotify stands => exact ⟨running, rfl⟩
  | retryFailed free stands verdict => exact ⟨running, rfl⟩
  | touch free stands touched => exact ⟨running, rfl⟩
  | _ => exact ⟨running, reading⟩

theorem next (steady : Steady s) (orderly : Orderly cfg s action)
    (stepped : L3.next cfg s action = some s') : Steady s' := by
  by_cases isWriter : ∃ result, action = .writer result
  · obtain ⟨result, rfl⟩ := isWriter
    obtain ⟨running, reader⟩ := steady.writer orderly stepped
    refine ⟨running, ?_⟩
    rw [reader]
    exact steady.reading
  · rcases step_of_next stepped with ⟨c, request, phase, present, step⟩ | step
    · refine ⟨step.shutdown.trans steady.running, ?_⟩
      rw [step.reader]
      exact steady.reading
    · have kept :=
        taskStep (s := s) steady.running steady.reading rfl rfl orderly
          (fun result same => isWriter ⟨result, same⟩) step
      exact ⟨kept.1, kept.2⟩

end Steady

/-! ## The split along runs -/

namespace Accounted

variable {recorded settled cancelled : List Nat} {cfg : SessionConfig}
  {s s' : State} {action : Action}

/-- One step that meets the condition keeps the split. -/
theorem next (accounted : Accounted recorded settled cancelled s.ledger)
    (rationed : Rationed cfg s.ledger) (sound : Sound s.ledger)
    (fit : s.table.Fit) (delivered : Delivered s) (steady : Steady s)
    (orderly : Orderly cfg s action)
    (stepped : L3.next cfg s action = some s') :
    After recorded settled cancelled (authEvents s action) s'.ledger := by
  have stays := steady.next orderly stepped
  have quietly :
      (∀ status json, action ≠ .receive (.auth status json)) →
        action ≠ .reader → action ≠ .scheduler → authEvents s action = [] →
        TaskStep cfg s.ledger action s'.ledger →
        After recorded settled cancelled (authEvents s action) s'.ledger := by
    intro answers notReader notScheduler nothing step
    rw [after_nil nothing]
    exact accounted.taskStep rationed sound fit orderly steady.running
      stays.running steady.reading answers
      (fun same => absurd same notReader)
      (fun same => absurd same notScheduler) step
  have byCaller :
      ∀ {c : Nat} {request : AuthRequest} {phase : CallerPhase},
        s.ledger.InPhase c request phase →
        CallerStep cfg s c request action phase s' →
        After recorded settled cancelled (authEvents s action) s'.ledger :=
    fun present step =>
      accounted.callerStep rationed sound fit delivered orderly present step
  have either := step_of_next stepped
  cases action with
  | advance c order =>
      obtain ⟨⟨request, phase⟩, present, moved⟩ :=
        Option.bind_eq_some_iff.mp stepped
      exact byCaller present (callerStep_of_advanceCaller moved)
  | expire c =>
      obtain ⟨⟨request, phase⟩, present, moved⟩ :=
        Option.bind_eq_some_iff.mp stepped
      exact byCaller present (callerStep_of_expire moved)
  | cancel c =>
      obtain ⟨⟨request, phase⟩, present, moved⟩ :=
        Option.bind_eq_some_iff.mp stepped
      exact byCaller present (callerStep_of_cancel moved)
  | receive frame =>
      cases frame with
      | auth status json =>
          simp only [L3.next] at stepped
          split at stepped
          · rename_i idle
            unfold State.dispatch at stepped
            simp only at stepped
            split at stepped
            · cases stepped
              exact (after_nil rfl).mpr
                (accounted.dispatchAuth rationed sound fit orderly idle)
            · cases stepped
          · cases stepped
      | _ =>
          rcases either with ⟨c, request, phase, present, step⟩ | step
          · exact byCaller present step
          · exact quietly (by simp) (by simp) (by simp) rfl step
  | reader =>
      have read :=
        accounted.reader rationed sound fit orderly steady.running
          stays.running steady.reading stepped
      have listed :
          AuthEvent.settledIds (authEvents s .reader) = s.reader.owed := by
        simp [authEvents, AuthEvent.settledIds, List.filterMap_map]
      have others :
          AuthEvent.recordedIds (authEvents s .reader) = [] ∧
            AuthEvent.cancelledIds (authEvents s .reader) = [] := by
        simp [authEvents, AuthEvent.recordedIds, AuthEvent.cancelledIds,
          List.filterMap_map]
      unfold After
      rw [listed, others.1, others.2, List.append_nil, List.append_nil]
      exact read
  | scheduler =>
      have scheduled :=
        accounted.scheduler rationed sound fit orderly steady.running
          stays.running steady.reading stepped
      have others :
          AuthEvent.recordedIds (authEvents s .scheduler) = [] ∧
            AuthEvent.cancelledIds (authEvents s .scheduler) = [] := by
        unfold authEvents
        simp only
        split
        · exact ⟨rfl, rfl⟩
        · exact ⟨rfl, rfl⟩
      unfold After
      rw [others.1, others.2, List.append_nil, List.append_nil]
      exact scheduled
  | _ =>
      rcases either with ⟨c, request, phase, present, step⟩ | step
      · exact byCaller present step
      · exact quietly (by simp) (by simp) (by simp) rfl step

theorem initial (vip : Ipv4Addr) (now : Nat) :
    Accounted [] [] [] (State.initial vip now).ledger where
  distinct := List.nodup_nil
  assigned authId listed := by cases listed
  sent authId listed := by cases listed
  placed c request attempt stands := by cases stands
  queued authId flies := by
    obtain ⟨entry, live, -⟩ := flies
    cases live
  balance authId := by
    have nobody :
        ¬ (State.initial vip now).ledger.Holds .owing authId := by
      rintro ⟨c, request, attempt, stands, -⟩
      cases stands
    have empty :
        ¬ ((State.initial vip now).ledger.table.Flying authId ∧
          authId ∈ ([] : List Nat)) := by
      rintro ⟨-, listed⟩
      cases listed
    rw [indicator_of_not nobody, indicator_of_not empty]
    rfl

/-- What is about to be settled has not been settled or cancelled. -/
theorem room {l : Ledger} {owed : List Nat}
    (accounted : Accounted recorded settled cancelled l)
    (covered :
      ∀ authId, owed.count authId ≤
        l.reader.owed.count authId + l.scheduler.owed.count authId +
          indicator (l.Holds .owing authId)) :
    settled.length + cancelled.length + owed.length ≤ recorded.length := by
  have within : (settled ++ cancelled ++ owed).Subperm recorded := by
    rw [List.subperm_ext_iff]
    intro authId _
    have balance := accounted.balance authId
    have fits := covered authId
    rw [List.count_append, List.count_append]
    omega
  have bound := within.length_le
  rwa [List.length_append, List.length_append] at bound

end Accounted

/-! ## The counters -/

/-- The settlements counted so far, and the gauge. -/
def FlowAuthStats.books (stats : FlowAuthStats) : Nat × Nat :=
  (stats.outcomesReceived + stats.timeouts, stats.inFlight)

/-- The books after some settlements. -/
def FlowAuthStats.settledBooks (stats : FlowAuthStats) (count : Nat) :
    Nat × Nat :=
  (stats.outcomesReceived + stats.timeouts + count, stats.inFlight - count)

theorem FlowAuthStats.books_settleAuth (stats : FlowAuthStats)
    (timedOut : Bool) :
    (stats.settleAuth timedOut).books = stats.settledBooks 1 := by
  cases timedOut with
  | true =>
      simp only [settleAuth, books, settledBooks, if_true]
      rw [Nat.add_assoc]
  | false =>
      simp only [settleAuth, books, settledBooks]
      rw [Nat.add_right_comm]
      rfl

theorem FlowAuthStats.settledBooks_zero (stats : FlowAuthStats) :
    stats.settledBooks 0 = stats.books :=
  rfl

section

variable {cfg : SessionConfig} {s s' : State} {action : Action}

private theorem books_dispatch {frame : Inbound}
    (stepped : s.dispatch cfg frame = some s') :
    s'.stats.books = s.stats.books := by
  have settled : ∀ (t : State) (status : UInt8) (json : Bytes),
      (t.dispatchSettled cfg status json).stats = t.stats := by
    intro t status json
    unfold State.dispatchSettled
    split
    · rfl
    · split <;> rfl
  have transient : ∀ (t : State) (delay : Nat) (json : Bytes),
      (t.dispatchTransient cfg delay json).stats.books = t.stats.books := by
    intro t delay json
    unfold State.dispatchTransient
    split
    · rfl
    · simp only
      split
      · rfl
      · split
        · rfl
        · split
          · rfl
          · split <;> rfl
  unfold State.dispatch at stepped
  split at stepped
  · split at stepped
    · cases stepped
      unfold State.dispatchAuth
      split
      · split
        · exact transient _ _ _
        · rw [settled]
          rfl
      · split
        · exact transient _ _ _
        · rw [settled]
          rfl
      · rw [settled]
    · cases stepped
  · split at stepped
    · cases stepped
      rfl
    · split at stepped
      · cases stepped
        rfl
      · cases stepped
        unfold State.applyVipUpdate
        split <;> rfl
  · cases stepped
    rfl
  · cases stepped
    rfl
  · cases stepped
    rfl

private theorem books_reader (steady : Steady s)
    (stepped : s.advanceReader = some s') :
    s'.stats.books = s.stats.settledBooks s.reader.owed.length := by
  have reading := steady.reading
  unfold State.advanceReader at stepped
  cases stands : s.reader with
  | settle authId outcome =>
      rw [stands] at stepped
      cases stepped
      exact s.stats.books_settleAuth false
  | queueRetry authId delay =>
      simp only [stands] at stepped
      split at stepped
      · cases stepped
        rfl
      · cases stepped
        rfl
  | failRetry authId =>
      simp only [stands] at stepped
      split at stepped
      · split at stepped
        · cases stepped
          rfl
        · cases stepped
          rfl
      · cases stepped
  | touching packets =>
      cases packets with
      | nil =>
          rw [stands] at stepped
          cases stepped
          rfl
      | cons packet later =>
          simp only [stands] at stepped
          split at stepped
          · cases stepped
            rfl
          · cases stepped
  | vipClear => rw [stands] at reading; cases reading
  | vipCount cancelled => rw [stands] at reading; cases reading
  | vipDrain => rw [stands] at reading; cases reading
  | vipReset => rw [stands] at reading; cases reading
  | vipUnsubscribe => rw [stands] at reading; cases reading
  | idle => rw [stands] at stepped; cases stepped
  | stopped => rw [stands] at stepped; cases stepped
  | notify authId outcome => rw [stands] at stepped; cases stepped; rfl
  | retryQueued => rw [stands] at stepped; cases stepped; rfl
  | retryRefused authId => rw [stands] at stepped; cases stepped; rfl

private theorem books_scheduler (stepped : s.advanceScheduler = some s') :
    s'.stats.books =
      s.stats.settledBooks
        (AuthEvent.settledIds (authEvents s .scheduler)).length := by
  by_cases settles : ∃ authId outcome, s.scheduler = .settle authId outcome
  · obtain ⟨authId, outcome, stands⟩ := settles
    have one :
        (AuthEvent.settledIds (authEvents s .scheduler)).length = 1 := by
      simp [authEvents, stands, AuthEvent.settledIds]
    unfold State.advanceScheduler at stepped
    rw [stands] at stepped
    cases stepped
    rw [one]
    exact s.stats.books_settleAuth false
  · have elsewhere :
        ∀ authId outcome, s.scheduler ≠ .settle authId outcome :=
      fun authId outcome stands => settles ⟨authId, outcome, stands⟩
    have none_ :
        (AuthEvent.settledIds (authEvents s .scheduler)).length = 0 := by
      simp only [authEvents]
      rfl
    rw [none_, FlowAuthStats.settledBooks_zero]
    have begun : (s.beginShutdown .scheduler).stats = s.stats := by
      unfold State.beginShutdown
      split <;> rfl
    unfold State.advanceScheduler at stepped
    split at stepped
    · split at stepped
      · cases stepped
        rfl
      · split at stepped
        · cases stepped
        · cases stepped
          rfl
    · split at stepped
      · cases stepped
        rfl
      · split at stepped
        · cases stepped
          rfl
        · cases stepped
    · split at stepped
      · split at stepped
        · cases stepped
          rfl
        · split at stepped
          · cases stepped
            rfl
          · cases stepped
            rfl
      · cases stepped
    · split at stepped
      · split at stepped
        · cases stepped
          rfl
        · cases stepped
          rfl
      · cases stepped
    · rename_i stands
      exact absurd stands (elsewhere _ _)
    · cases stepped
      rfl
    · split at stepped
      · cases stepped
        rfl
      · split at stepped
        · cases stepped
          rfl
        · cases stepped
    · split at stepped
      · cases stepped
        rfl
      · cases stepped
        rfl
      · cases stepped
    · cases stepped
      rfl
    · cases stepped
      exact congrArg FlowAuthStats.books begun
    · split at stepped
      · cases stepped
      · cases stepped
        rfl
    · cases stepped

private theorem stats_writer {result : WriteResult}
    (stepped : s.advanceWriter result = some s') : s'.stats = s.stats := by
  have acknowledged : ∀ (t : State) (target : AckTarget) (ack : Ack),
      (t.acknowledge target ack).stats = t.stats := by
    intro t target ack
    cases target <;> rfl
  have failed : ∀ (frames : List OutboundFrame) (t : State),
      (t.failFrames frames).stats = t.stats := by
    intro frames
    induction frames with
    | nil => exact fun t => rfl
    | cons frame later inductionHypothesis =>
        intro t
        exact (inductionHypothesis _).trans (acknowledged t _ _)
  have begun : ∀ executor, (s.beginShutdown executor).stats = s.stats := by
    intro executor
    unfold State.beginShutdown
    split <;> rfl
  unfold State.advanceWriter at stepped
  split at stepped
  · split at stepped
    · cases stepped
      rfl
    · split at stepped
      · cases stepped
      · cases stepped
        rfl
  · split at stepped
    · cases stepped
      rfl
    · split at stepped
      · cases stepped
        exact acknowledged s _ _
      · cases stepped
        exact acknowledged s _ _
      · cases stepped
        rfl
  · cases stepped
    exact begun .writer
  · cases stepped
    exact begun .writer
  · split at stepped
    · cases stepped
    · cases stepped
      exact failed _ s
  · cases stepped

/-- Tasks other than callers count the settlements that are observed. -/
theorem books_of_task (steady : Steady s) (orderly : Orderly cfg s action)
    (notAdvance : ∀ c order, action ≠ .advance c order)
    (notExpire : ∀ c, action ≠ .expire c)
    (notCancel : ∀ c, action ≠ .cancel c)
    (stepped : next cfg s action = some s') :
    s'.stats.books =
      s.stats.settledBooks
        (AuthEvent.settledIds (authEvents s action)).length := by
  cases action with
  | advance c order => exact absurd rfl (notAdvance c order)
  | expire c => exact absurd rfl (notExpire c)
  | cancel c => exact absurd rfl (notCancel c)
  | receive frame =>
      simp only [next] at stepped
      split at stepped
      · exact books_dispatch stepped
      · cases stepped
  | reader =>
      have read := books_reader steady stepped
      have listed :
          AuthEvent.settledIds (authEvents s .reader) = s.reader.owed := by
        simp [authEvents, AuthEvent.settledIds, List.filterMap_map]
      rw [listed]
      exact read
  | scheduler => exact books_scheduler stepped
  | writer result =>
      exact congrArg FlowAuthStats.books (stats_writer stepped)
  | readerStop => exact orderly.elim
  | close => exact orderly.elim
  | shutdown =>
      have running := steady.running
      simp only [next, State.advanceShutdown, running] at stepped
      cases stepped
  | authorizeFlow c request =>
      simp only [next] at stepped
      split at stepped
      · cases stepped
        rfl
      · cases stepped
  | subscribeFlow flow =>
      simp only [next] at stepped
      split at stepped
      · cases stepped
        split <;> rfl
      · cases stepped
  | subscriber =>
      simp only [next, State.advanceSubscriber] at stepped
      split at stepped
      · cases stepped
      · split at stepped
        · cases stepped
          rfl
        · cases stepped
          rfl
      · split at stepped
        · cases stepped
          rfl
        · cases stepped
          rfl
  | dropFlowPackets key id =>
      simp only [next] at stepped
      split at stepped
      · cases stepped
        split <;> rfl
      · cases stepped
  | enqueueOther bytes =>
      simp only [next] at stepped
      split at stepped
      · cases stepped
        rfl
      · cases stepped
  | tick duration =>
      cases stepped
      rfl

end

/-! ## Replacements that are not counted yet -/

namespace Ledger

/-- A caller has evicted an attempt in flight and not corrected the gauge. -/
def Replacing (l : Ledger) : Prop :=
  ∃ c request, l.InPhase c request .claimSettle

variable {l l' : Ledger} {c : Nat} {request : AuthRequest}
  {old phase : CallerPhase}

theorem replacing_congr (same : l'.callers = l.callers) :
    l'.Replacing ↔ l.Replacing := by
  unfold Replacing InPhase
  rw [same]

theorem replacing_wake {selected : Nat → Bool} {slot : Slot} :
    (l.wake selected slot).Replacing ↔ l.Replacing := by
  constructor
  · rintro ⟨c, request, stands⟩
    obtain ⟨phase, before, woken⟩ := inPhase_mapPhases.mp stands
    refine ⟨c, request, ?_⟩
    cases phase with
    | attempting attempt => cases woken
    | claimSettle => exact before
    | _ => cases woken
  · rintro ⟨c, request, stands⟩
    exact ⟨c, request, inPhase_mapPhases.mpr ⟨.claimSettle, stands, rfl⟩⟩

theorem replacing_woken {selected : Nat → Bool} {slot : Slot}
    (same : l'.callers = (l.wake selected slot).callers) :
    l'.Replacing ↔ l.Replacing :=
  (replacing_congr same).trans replacing_wake

theorem replacing_setPhase (present : l.InPhase c request old)
    (before : old ≠ .claimSettle) (after : phase ≠ .claimSettle) :
    (l.setPhase c phase).Replacing ↔ l.Replacing := by
  constructor
  · rintro ⟨d, request', stands⟩
    obtain ⟨former, earlier, becomes⟩ := inPhase_setPhase.mp stands
    split at becomes
    · exact absurd becomes after
    · rw [becomes] at earlier
      exact ⟨d, request', earlier⟩
  · rintro ⟨d, request', stands⟩
    have different : d ≠ c := by
      intro same
      rw [same] at stands
      exact before (inPhase_unique present stands).2
    exact ⟨d, request', (inPhase_setPhase_of_ne different).mpr stands⟩

theorem replacing_start (fresh : l.callers c = none) :
    (l.start c request).Replacing ↔ l.Replacing := by
  constructor
  · rintro ⟨d, request', stands⟩
    simp only [InPhase, start] at stands
    split at stands
    · cases stands
    · exact ⟨d, request', stands⟩
  · rintro ⟨d, request', stands⟩
    refine ⟨d, request', ?_⟩
    simp only [InPhase, start]
    split
    · rename_i same
      rw [InPhase, same, fresh] at stands
      cases stands
    · exact stands

end Ledger

theorem TaskStep.replacing {cfg : SessionConfig} {l l' : Ledger}
    {action : Action} (step : TaskStep cfg l action l') :
    l'.Replacing ↔ l.Replacing := by
  have begun : l.beginShutdown.callers = l.callers := by
    obtain ⟨shutdown, same⟩ := l.beginShutdown_eq
    rw [same]
  cases step with
  | authorizeFlow fresh => exact Ledger.replacing_start fresh
  | readerNotify stands => exact Ledger.replacing_wake
  | vipDrain stands => exact Ledger.replacing_wake
  | schedulerNotify stands => exact Ledger.replacing_wake
  | drain stands => exact Ledger.replacing_wake
  | readerStop stands => exact Ledger.replacing_congr begun
  | schedulerClosing stands => exact Ledger.replacing_congr begun
  | writerClosing => exact Ledger.replacing_congr begun
  | close => exact Ledger.replacing_congr begun
  | _ => exact Ledger.replacing_congr rfl

/-! ## The counters and the split -/

/-- The counters count the settlements, and the gauge the recorded attempts
that are neither settled nor cancelled. -/
structure Counted (recorded settled cancelled : List Nat) (s : State) :
    Prop where
  settlements :
    s.stats.outcomesReceived + s.stats.timeouts = settled.length
  gauge :
    s.stats.inFlight + settled.length + cancelled.length =
      recorded.length + indicator s.ledger.Replacing

namespace Counted

variable {recorded settled cancelled : List Nat} {cfg : SessionConfig}
  {s s' : State} {c : Nat} {request : AuthRequest} {action : Action}

/-- The counters after the events of a step. -/
def After (recorded settled cancelled : List Nat) (events : List AuthEvent)
    (s : State) : Prop :=
  Counted (recorded ++ AuthEvent.recordedIds events)
    (settled ++ AuthEvent.settledIds events)
    (cancelled ++ AuthEvent.cancelledIds events) s

/-- A step that counts nothing. -/
theorem same {events : List AuthEvent}
    (counted : Counted recorded settled cancelled s)
    (stats : s'.stats.books = s.stats.books)
    (replacing : s'.ledger.Replacing ↔ s.ledger.Replacing)
    (nothing : events = []) :
    After recorded settled cancelled events s' := by
  subst nothing
  have settlements := counted.settlements
  have gauge := counted.gauge
  obtain ⟨sameSettled, sameGauge⟩ := Prod.mk.inj stats
  refine ⟨?_, ?_⟩
  · simp only [AuthEvent.settledIds, List.filterMap_nil, List.append_nil]
    omega
  · simp only [AuthEvent.recordedIds, AuthEvent.settledIds,
      AuthEvent.cancelledIds, List.filterMap_nil, List.append_nil]
    rw [replacing]
    omega

/-- A task other than a caller counts what is observed. -/
theorem task {owed : List Nat} {events : List AuthEvent}
    (counted : Counted recorded settled cancelled s)
    (records : AuthEvent.recordedIds events = [])
    (settles : AuthEvent.settledIds events = owed)
    (cancels : AuthEvent.cancelledIds events = [])
    (room :
      settled.length + cancelled.length + owed.length ≤ recorded.length)
    (stats : s'.stats.books = s.stats.settledBooks owed.length)
    (replacing : s'.ledger.Replacing ↔ s.ledger.Replacing) :
    After recorded settled cancelled events s' := by
  have settlements := counted.settlements
  have gauge := counted.gauge
  obtain ⟨sameSettled, sameGauge⟩ := Prod.mk.inj stats
  refine ⟨?_, ?_⟩
  · rw [settles, List.length_append]
    omega
  · rw [records, settles, cancels, List.length_append, replacing,
      List.append_nil, List.append_nil]
    omega

private theorem replacing_setAttempt {t : State} {old : CallerPhase}
    {changed : Attempt} (present : s.ledger.InPhase c request old)
    (before : old ≠ .claimSettle) (callers : t.callers = s.callers) :
    (t.setAttempt c changed).ledger.Replacing ↔ s.ledger.Replacing := by
  have stands : t.ledger.InPhase c request old :=
    (congrFun callers c).trans present
  have moved :
      (t.setAttempt c changed).ledger.Replacing ↔ t.ledger.Replacing :=
    Ledger.replacing_setPhase stands before (by simp)
  exact moved.trans (Ledger.replacing_congr callers)

/-- A step of a registered caller counts what is observed. -/
theorem attemptStep {attempt : Attempt}
    (counted : Counted recorded settled cancelled s)
    (accounted : Accounted recorded settled cancelled s.ledger)
    (present : s.ledger.Attempting c request attempt)
    (step : CallerStep cfg s c request action (.attempting attempt) s') :
    After recorded settled cancelled (authEvents s action) s' := by
  have quiet : ∀ order, attempt.stage ≠ .recordSent →
      attempt.stage ≠ .settleTimeout →
      authEvents s (.advance c order) = [] := by
    intro order notRecording notSettling
    rw [authEvents_attempting order present]
    split
    · rename_i stands
      exact absurd stands notRecording
    · rename_i stands
      exact absurd stands notSettling
    · rfl
  have stays : ∀ (t : State) (changed : Attempt), t.callers = s.callers →
      ((t.setAttempt c changed).ledger.Replacing ↔ s.ledger.Replacing) :=
    fun t changed callers => replacing_setAttempt present (by simp) callers
  cases step with
  | check checked => cases checkStep_of_checkPhase checked
  | read moved =>
      obtain ⟨notRecording, notSettling, -⟩ := progress_readStage moved
      exact counted.same rfl (stays s _ rfl)
        (quiet _ notRecording notSettling)
  | storeFrame stands free =>
      exact counted.same rfl (stays _ _ rfl)
        (quiet _ (by simp [stands]) (by simp [stands]))
  | enqueueFailed stands ended =>
      exact counted.same rfl (stays s _ rfl)
        (quiet _ (by simp [stands]) (by simp [stands]))
  | enqueue stands =>
      exact counted.same rfl (stays _ _ rfl)
        (quiet _ (by simp [stands]) (by simp [stands]))
  | recordSent stands =>
      rename_i order
      have settlements := counted.settlements
      have gauge := counted.gauge
      have replacing := stays { s with stats := s.stats.recordAuthSent }
        { attempt with stage := .arm } rfl
      have events :
          authEvents s (.advance c order) = [.recorded attempt.authId] := by
        rw [authEvents_attempting order present, stands]
      unfold After
      rw [events]
      refine ⟨?_, ?_⟩
      · show s.stats.outcomesReceived + s.stats.timeouts = _
        simpa [AuthEvent.settledIds] using settlements
      · rw [replacing]
        show s.stats.inFlight + 1 + _ + _ = _
        simp only [AuthEvent.recordedIds, AuthEvent.settledIds,
          AuthEvent.cancelledIds, List.filterMap_cons, List.filterMap_nil,
          List.append_nil, List.length_append, List.length_singleton]
        omega
  | abandonEvict stands free =>
      exact counted.same rfl (stays _ _ rfl)
        (quiet _ (by simp [stands]) (by simp [stands]))
  | abandonRemove stands =>
      rename_i order reason
      have woken :
          (s.dropWaiters attempt.authId).ledger.InPhase c request
            (.attempting (attempt.wake (· == attempt.authId) .dropped)) :=
        Ledger.attempting_wake.mpr ⟨attempt, present, rfl⟩
      have moved :
          ((s.dropWaiters attempt.authId).setAttempt c
            { attempt.wake (· == attempt.authId) .dropped with
              stage :=
                State.afterAbandon request attempt.mustSend
                  reason }).ledger.Replacing ↔
            (s.dropWaiters attempt.authId).ledger.Replacing :=
        replacing_setAttempt woken (by simp) rfl
      have dropped :
          (s.dropWaiters attempt.authId).ledger.Replacing ↔
            s.ledger.Replacing :=
        Ledger.replacing_woken rfl
      exact counted.same rfl (moved.trans dropped)
        (quiet _ (by simp [stands]) (by simp [stands]))
  | settleTimeout stands =>
      rename_i order
      have events :
          authEvents s (.advance c order) = [.settled attempt.authId] := by
        rw [authEvents_attempting order present, stands]
      have owing : s.ledger.Holds .owing attempt.authId :=
        ⟨c, request, attempt, present, by simp [Attempt.progress, stands],
          rfl⟩
      have room :
          settled.length + cancelled.length + [attempt.authId].length ≤
            recorded.length := by
        apply accounted.room
        intro authId
        by_cases isOwn : attempt.authId = authId
        · rw [← isOwn, indicator_of owing, List.count_singleton_self]
          omega
        · rw [List.count_singleton, if_neg (by simpa using isOwn)]
          omega
      rw [events]
      exact counted.task rfl rfl rfl room (s.stats.books_settleAuth true)
        (stays _ _ rfl)
  | expire stands empty due => exact counted.same rfl (stays s _ rfl) rfl
  | cancel suspended => exact counted.same rfl (stays s _ rfl) rfl

/-- Nobody corrects the gauge while the table is free. -/
private theorem not_replacing (sound : Sound s.ledger)
    (free : s.tableOwner = none) : ¬ s.ledger.Replacing := by
  rintro ⟨d, request', stands⟩
  have owner := (sound.claiming d request' _ stands rfl).1
  cases free.symm.trans owner

/-- A claim that replaces an attempt in flight cancels it and leaves the gauge
to its next step. -/
private theorem claim {order : IterationOrder ConntrackEntry}
    (counted : Counted recorded settled cancelled s) (sound : Sound s.ledger)
    (free : s.tableOwner = none)
    (present : s.ledger.InPhase c request .claim) :
    After recorded settled cancelled (authEvents s (.advance c order))
      (s.claimFlow order c request) := by
  have events := authEvents_claim order present
  have calm := not_replacing sound free
  have stands : s.callers c = some ⟨request, .claim⟩ := present
  cases found : s.replaced order request with
  | none =>
      rw [found] at events
      have effect :
          s.claimFlow order c request =
            { s with
              table := (s.table.maintainForFlow order request.key s.now).1
              tableOwner := some c }.setPhase c .claimInsert := by
        unfold State.claimFlow
        unfold State.replaced at found
        simp only [found]
      rw [effect]
      have moved :
          ({ s with
              table := (s.table.maintainForFlow order request.key s.now).1
              tableOwner := some c }.setPhase c
            .claimInsert).ledger.Replacing ↔ s.ledger.Replacing :=
        Ledger.replacing_setPhase present (by simp) (by simp)
      exact counted.same rfl moved events
  | some old =>
      rw [found] at events
      have effect :
          s.claimFlow order c request =
            ({ s with
                table :=
                  ((s.table.maintainForFlow order request.key
                    s.now).1.evictByAuthId old.authId).1
                tableOwner := some c }.notify old.authId
              (.failed "flow resource changed during authorization")).setPhase
                c (if old.authInFlight then .claimSettle
                  else .claimInsert) := by
        unfold State.claimFlow
        unfold State.replaced at found
        simp only [found]
      have woken :
          ({ s with
              table :=
                ((s.table.maintainForFlow order request.key
                  s.now).1.evictByAuthId old.authId).1
              tableOwner := some c }.notify old.authId
            (.failed
              "flow resource changed during authorization")).ledger.InPhase
            c request .claim := by
        show Option.map _ (s.callers c) = _
        rw [stands]
        rfl
      have stats : (s.claimFlow order c request).stats = s.stats := by
        rw [effect]
        rfl
      cases inFlight : old.authInFlight with
      | true =>
          simp only [inFlight, if_true] at events
          have replaces :
              (s.claimFlow order c request).ledger.Replacing := by
            rw [effect, inFlight]
            exact ⟨c, request,
              Ledger.inPhase_setPhase.mpr ⟨.claim, woken, if_pos rfl⟩⟩
          have settlements := counted.settlements
          have gauge := counted.gauge
          rw [indicator_of_not calm] at gauge
          unfold After
          rw [events]
          refine ⟨?_, ?_⟩
          · rw [stats]
            simpa [AuthEvent.settledIds] using settlements
          · rw [indicator_of replaces, stats]
            simp only [AuthEvent.recordedIds, AuthEvent.settledIds,
              AuthEvent.cancelledIds, List.filterMap_cons,
              List.filterMap_nil, List.append_nil, List.length_append,
              List.length_singleton]
            omega
      | false =>
          simp only [inFlight] at events
          have moved :
              (s.claimFlow order c request).ledger.Replacing ↔
                s.ledger.Replacing := by
            rw [effect, inFlight]
            have notified :
                ({ s with
                    table :=
                      ((s.table.maintainForFlow order request.key
                        s.now).1.evictByAuthId old.authId).1
                    tableOwner := some c }.notify old.authId
                  (.failed
                    "flow resource changed during authorization")).ledger.Replacing ↔
                  s.ledger.Replacing :=
              Ledger.replacing_woken rfl
            exact (Ledger.replacing_setPhase woken (by simp)
              (by simp)).trans notified
          exact counted.same (congrArg FlowAuthStats.books stats) moved events

/-- A claim corrects the gauge for the attempt it has replaced. -/
private theorem claimSettle {order : IterationOrder ConntrackEntry}
    (counted : Counted recorded settled cancelled s)
    (accounted : Accounted recorded settled cancelled s.ledger)
    (sound : Sound s.ledger)
    (present : s.ledger.InPhase c request .claimSettle) :
    After recorded settled cancelled (authEvents s (.advance c order))
      ({ s with
          stats := { s.stats with inFlight := s.stats.inFlight - 1 } }.setPhase
        c .claimInsert) := by
  have stands : s.callers c = some ⟨request, .claimSettle⟩ := present
  have nothing : authEvents s (.advance c order) = [] := by
    simp only [authEvents, stands]
  have settlements := counted.settlements
  have gauge := counted.gauge
  have room :
      settled.length + cancelled.length + ([] : List Nat).length ≤
        recorded.length := by
    apply accounted.room
    simp
  have before : s.ledger.Replacing := ⟨c, request, present⟩
  have after :
      ¬ ({ s with
          stats := { s.stats with inFlight := s.stats.inFlight - 1 } }.setPhase
        c .claimInsert).ledger.Replacing := by
    rintro ⟨d, request', others⟩
    have moved :
        (s.ledger.setPhase c .claimInsert).InPhase d request' .claimSettle :=
      others
    obtain ⟨former, earlier, becomes⟩ := Ledger.inPhase_setPhase.mp moved
    split at becomes
    · cases becomes
    · rename_i different
      rw [becomes] at earlier
      have mine := (sound.claiming c request _ present rfl).1
      have theirs := (sound.claiming d request' _ earlier rfl).1
      cases mine.symm.trans theirs
      exact different rfl
  rw [indicator_of before] at gauge
  unfold After
  rw [nothing]
  refine ⟨?_, ?_⟩
  · show s.stats.outcomesReceived + s.stats.timeouts = _
    simpa [AuthEvent.settledIds] using settlements
  · rw [indicator_of_not after]
    show s.stats.inFlight - 1 + _ + _ = _
    simp only [AuthEvent.recordedIds, AuthEvent.settledIds,
      AuthEvent.cancelledIds, List.filterMap_nil, List.append_nil]
    omega

/-- A step of a caller counts what is observed. -/
theorem callerStep {phase : CallerPhase}
    (counted : Counted recorded settled cancelled s)
    (accounted : Accounted recorded settled cancelled s.ledger)
    (sound : Sound s.ledger) (present : s.ledger.InPhase c request phase)
    (step : CallerStep cfg s c request action phase s') :
    After recorded settled cancelled (authEvents s action) s' := by
  have stands : s.callers c = some ⟨request, phase⟩ := present
  have taken := step
  cases step with
  | check checked =>
      rename_i order phase'
      have nothing : authEvents s (.advance c order) = [] := by
        cases checkStep_of_checkPhase checked <;>
          simp only [authEvents, stands]
      have moved :
          (s.setPhase c phase').ledger.Replacing ↔ s.ledger.Replacing := by
        apply Ledger.replacing_setPhase present
        · cases checkStep_of_checkPhase checked <;> simp
        · cases checkStep_of_checkPhase checked <;> simp
      exact counted.same rfl moved nothing
  | claim free => exact counted.claim sound free present
  | claimSettle => exact counted.claimSettle accounted sound present
  | insert room =>
      rename_i order
      have nothing : authEvents s (.advance c order) = [] := by
        simp only [authEvents, stands]
      have own := (sound.claiming c request _ present rfl).2
      rcases insertFlow_cases (c := c) sound.wellFormed room own with
        ⟨entry, outcome, table, -, -, -, -, -, effect⟩ |
        ⟨entry, authId, mustSend, table, -, effect⟩
      · rw [effect]
        have moved :
            ({ s with table := table, tableOwner := none }.setPhase c
              (.answered outcome.result)).ledger.Replacing ↔
              s.ledger.Replacing :=
          Ledger.replacing_setPhase present (by simp) (by simp)
        exact counted.same rfl moved nothing
      · rw [effect]
        exact counted.same rfl (replacing_setAttempt present (by simp) rfl)
          nothing
  | _ => exact counted.attemptStep accounted present taken

end Counted

/-! ## Whole runs -/

namespace AuthEvent

theorem recordedIds_append (first second : List AuthEvent) :
    recordedIds (first ++ second) = recordedIds first ++ recordedIds second :=
  List.filterMap_append ..

theorem settledIds_append (first second : List AuthEvent) :
    settledIds (first ++ second) = settledIds first ++ settledIds second :=
  List.filterMap_append ..

theorem cancelledIds_append (first second : List AuthEvent) :
    cancelledIds (first ++ second) =
      cancelledIds first ++ cancelledIds second :=
  List.filterMap_append ..

end AuthEvent

/-- What reader and scheduler settle is owed. -/
theorem owed_of_task (s : State) {action : Action}
    (notAdvance : ∀ c order, action ≠ .advance c order) :
    AuthEvent.recordedIds (authEvents s action) = [] ∧
      AuthEvent.cancelledIds (authEvents s action) = [] ∧
      ∀ authId,
        (AuthEvent.settledIds (authEvents s action)).count authId ≤
          s.reader.owed.count authId + s.scheduler.owed.count authId := by
  cases action with
  | advance c order => exact absurd rfl (notAdvance c order)
  | reader =>
      have listed :
          AuthEvent.settledIds (authEvents s .reader) = s.reader.owed := by
        simp [authEvents, AuthEvent.settledIds, List.filterMap_map]
      rw [listed]
      refine ⟨?_, ?_, fun authId => Nat.le_add_right _ _⟩
      · simp [authEvents, AuthEvent.recordedIds, List.filterMap_map]
      · simp [authEvents, AuthEvent.cancelledIds, List.filterMap_map]
  | scheduler =>
      unfold authEvents
      simp only
      split
      · rename_i stands
        rw [stands]
        refine ⟨rfl, rfl, fun authId => ?_⟩
        exact Nat.le_add_left _ _
      · exact ⟨rfl, rfl, fun authId => Nat.zero_le _⟩
  | _ => exact ⟨rfl, rfl, fun authId => Nat.zero_le _⟩

/-- Everything that the accounts of a session rest on. -/
structure Audited (cfg : SessionConfig) (events : List AuthEvent)
    (s : State) : Prop where
  sound : Sound s.ledger
  rationed : Rationed cfg s.ledger
  fit : s.table.Fit
  delivered : Delivered s
  steady : Steady s
  accounted :
    Accounted (AuthEvent.recordedIds events) (AuthEvent.settledIds events)
      (AuthEvent.cancelledIds events) s.ledger
  counted :
    Counted (AuthEvent.recordedIds events) (AuthEvent.settledIds events)
      (AuthEvent.cancelledIds events) s

namespace Audited

variable {cfg : SessionConfig} {events : List AuthEvent} {s s' : State}
  {action : Action}

private theorem count (audited : Audited cfg events s)
    (orderly : Orderly cfg s action)
    (stepped : L3.next cfg s action = some s') :
    Counted.After (AuthEvent.recordedIds events)
      (AuthEvent.settledIds events) (AuthEvent.cancelledIds events)
      (authEvents s action) s' := by
  have byCaller :
      ∀ {c : Nat} {request : AuthRequest} {phase : CallerPhase},
        s.ledger.InPhase c request phase →
        CallerStep cfg s c request action phase s' →
        Counted.After (AuthEvent.recordedIds events)
          (AuthEvent.settledIds events) (AuthEvent.cancelledIds events)
          (authEvents s action) s' :=
    fun present step =>
      audited.counted.callerStep audited.accounted audited.sound present step
  by_cases isCaller :
      (∃ c order, action = .advance c order) ∨ (∃ c, action = .expire c) ∨
        ∃ c, action = .cancel c
  · rcases isCaller with ⟨c, order, rfl⟩ | ⟨c, rfl⟩ | ⟨c, rfl⟩
    · obtain ⟨⟨request, phase⟩, present, moved⟩ :=
        Option.bind_eq_some_iff.mp stepped
      exact byCaller present (callerStep_of_advanceCaller moved)
    · obtain ⟨⟨request, phase⟩, present, moved⟩ :=
        Option.bind_eq_some_iff.mp stepped
      exact byCaller present (callerStep_of_expire moved)
    · obtain ⟨⟨request, phase⟩, present, moved⟩ :=
        Option.bind_eq_some_iff.mp stepped
      exact byCaller present (callerStep_of_cancel moved)
  · push Not at isCaller
    obtain ⟨notAdvance, notExpire, notCancel⟩ := isCaller
    rcases step_of_next stepped with ⟨c, request, phase, present, step⟩ | step
    · exact byCaller present step
    · obtain ⟨records, cancels, owed⟩ := owed_of_task s notAdvance
      have room :=
        audited.accounted.room
          (l := s.ledger) fun authId =>
            Nat.le_trans (owed authId) (Nat.le_add_right _ _)
      exact audited.counted.task records rfl cancels room
        (books_of_task audited.steady orderly notAdvance notExpire notCancel
          stepped) step.replacing

/-- One step that meets the condition keeps the accounts. -/
theorem next (audited : Audited cfg events s) (orderly : Orderly cfg s action)
    (stepped : L3.next cfg s action = some s') :
    Audited cfg (events ++ authEvents s action) s' := by
  have split :=
    audited.accounted.next audited.rationed audited.sound audited.fit
      audited.delivered audited.steady orderly stepped
  have counted := audited.count orderly stepped
  have either := step_of_next stepped
  refine ⟨audited.sound.next stepped, ?_, ?_,
    audited.delivered.next audited.sound stepped,
    audited.steady.next orderly stepped, ?_, ?_⟩
  · rcases either with ⟨c, request, phase, present, step⟩ | step
    · exact audited.rationed.callerStep audited.sound present step
    · exact audited.rationed.taskStep audited.sound step
  · rcases either with ⟨c, request, phase, present, step⟩ | step
    · exact audited.fit.callerStep audited.sound present step
    · have kept :=
        ConntrackTable.Fit.taskStep (l := s.ledger) audited.fit audited.sound
          step
      exact kept
  · rw [AuthEvent.recordedIds_append, AuthEvent.settledIds_append,
      AuthEvent.cancelledIds_append]
    exact split
  · rw [AuthEvent.recordedIds_append, AuthEvent.settledIds_append,
      AuthEvent.cancelledIds_append]
    exact counted

theorem initial (cfg : SessionConfig) (vip : Ipv4Addr) (now : Nat) :
    Audited cfg [] (State.initial vip now) where
  sound := Sound.initial vip now
  rationed := Rationed.initial cfg vip now
  fit authId entry live := by cases live
  delivered := Delivered.initial vip now
  steady := ⟨rfl, rfl⟩
  accounted := Accounted.initial vip now
  counted := by
    have calm : ¬ (State.initial vip now).ledger.Replacing := by
      rintro ⟨c, request, stands⟩
      cases stands
    refine ⟨rfl, ?_⟩
    rw [indicator_of_not calm]
    rfl

end Audited

/-! ## Sessions at rest -/

/-- The caller has not begun, waits for its channel, or is gone. -/
def CallerPhase.resting : CallerPhase → Bool
  | .checkClosed | .answered _ => true
  | .attempting attempt =>
      match attempt.stage with
      | .await _ | .answered _ | .cancelled => true
      | _ => false
  | _ => false

/-- No operation is part-way through. -/
structure State.AtRest (s : State) : Prop where
  reader : s.reader = .idle
  scheduler :
    s.scheduler = .idle ∨
      ∃ authId due, s.scheduler = .sleeping authId due
  callers :
    ∀ c request phase, s.callers c = some ⟨request, phase⟩ →
      phase.resting = true

/-- The ids whose first `0x13` has been sent. -/
def State.sentIds (s : State) : List Nat :=
  s.wire.filterMap fun frame =>
    match frame.origin with
    | .request authId => some authId
    | _ => none

/-- The attempt is neither answered, timed out, nor cancelled. -/
def ConntrackTable.inFlight (table : ConntrackTable) (authId : Nat) : Bool :=
  (table.getByAuthId authId).any (·.authInFlight)

theorem ConntrackTable.inFlight_iff {table : ConntrackTable} {authId : Nat} :
    table.inFlight authId = true ↔ table.Flying authId := by
  unfold ConntrackTable.inFlight ConntrackTable.Flying
  rw [Option.any_eq_true]

theorem mem_sentIds {s : State} {authId : Nat} :
    authId ∈ s.sentIds ↔ s.Sent authId := by
  unfold State.sentIds State.Sent
  rw [List.mem_filterMap, List.mem_map]
  constructor
  · rintro ⟨frame, listed, isId⟩
    refine ⟨frame, listed, ?_⟩
    split at isId
    · rename_i other origin
      cases isId
      exact origin
    · cases isId
  · rintro ⟨frame, listed, origin⟩
    exact ⟨frame, listed, by rw [origin]⟩

theorem count_sentIds (frames : List OutboundFrame) (authId : Nat) :
    (frames.filterMap fun frame =>
        match frame.origin with
        | .request id => some id
        | _ => none).count authId =
      (frames.map (·.origin)).count (.request authId) := by
  induction frames with
  | nil => rfl
  | cons frame later inductionHypothesis =>
      rw [List.map_cons, List.count_cons, ← inductionHypothesis,
        List.filterMap_cons]
      cases origin : frame.origin with
      | request id =>
          simp only [List.count_cons, beq_iff_eq, FrameOrigin.request.injEq]
      | retry id => simp
      | other => simp

namespace Audited

variable {cfg : SessionConfig} {events : List AuthEvent} {s : State}

theorem nodup_sentIds (audited : Audited cfg events s) : s.sentIds.Nodup := by
  rw [List.nodup_iff_count_le_one]
  intro authId
  have once := audited.rationed.once authId
  have within :
      (s.wire.map (·.origin)).count (.request authId) ≤
        s.ledger.side.tally (.request authId) := by
    unfold Periphery.tally Periphery.frames
    rw [List.map_append, List.count_append]
    exact Nat.le_add_left _ _
  have counts := count_sentIds s.wire authId
  unfold State.sentIds
  omega

theorem settled_nodup (audited : Audited cfg events s) :
    (AuthEvent.settledIds events).Nodup := by
  rw [List.nodup_iff_count_le_one]
  intro authId
  have distinct :=
    List.nodup_iff_count_le_one.mp audited.accounted.distinct authId
  have balance := audited.accounted.balance authId
  omega

theorem settled_le_sent (audited : Audited cfg events s) :
    (AuthEvent.settledIds events).length ≤ s.sentIds.length := by
  have room :
      (AuthEvent.settledIds events).length +
          (AuthEvent.cancelledIds events).length +
          ([] : List Nat).length ≤ (AuthEvent.recordedIds events).length := by
    apply audited.accounted.room
    simp
  have within : (AuthEvent.recordedIds events).Subperm s.sentIds := by
    apply List.subperm_of_subset audited.accounted.distinct
    intro authId listed
    exact mem_sentIds.mpr (audited.accounted.sent authId listed)
  have bound := within.length_le
  omega

/-- At rest the open recorded ids are the open ids that have been sent. -/
private theorem recorded_perm_sent (audited : Audited cfg events s)
    (rest : s.AtRest) :
    ((AuthEvent.recordedIds events).filter s.table.inFlight).Perm
      (s.sentIds.filter s.table.inFlight) := by
  rw [List.perm_ext_iff_of_nodup (audited.accounted.distinct.filter _)
    (audited.nodup_sentIds.filter _)]
  intro authId
  rw [List.mem_filter, List.mem_filter]
  constructor
  · rintro ⟨listed, flies⟩
    exact ⟨mem_sentIds.mpr (audited.accounted.sent authId listed), flies⟩
  · rintro ⟨sent, flies⟩
    refine ⟨?_, flies⟩
    have asked : s.ledger.Asked authId :=
      Ledger.Sent.asked (l := s.ledger) (mem_sentIds.mp sent)
    rcases audited.accounted.queued authId
        (ConntrackTable.inFlight_iff.mp flies) asked with listed | holds
    · exact listed
    · obtain ⟨c, request, attempt, stands, stage, -⟩ := holds
      have resting := rest.callers c request _ stands
      simp only [CallerPhase.resting] at resting
      split at resting
      · rename_i waits
        simp [Attempt.progress, waits] at stage
      · rename_i returned
        simp [Attempt.progress, returned] at stage
      · rename_i dropped
        simp [Attempt.progress, dropped] at stage
      · cases resting

/-- At rest every recorded id is settled, cancelled or in flight. -/
private theorem recorded_perm (audited : Audited cfg events s)
    (rest : s.AtRest) :
    (AuthEvent.recordedIds events).Perm
      (AuthEvent.settledIds events ++ AuthEvent.cancelledIds events ++
        (AuthEvent.recordedIds events).filter s.table.inFlight) := by
  rw [List.perm_iff_count]
  intro authId
  have balance := audited.accounted.balance authId
  have distinct :=
    List.nodup_iff_count_le_one.mp audited.accounted.distinct authId
  have reader : s.ledger.reader.owed = [] := congrArg ReaderPc.owed rest.reader
  have scheduler : s.ledger.scheduler.owed = [] := by
    rcases rest.scheduler with idle | ⟨other, due, sleeping⟩
    · exact congrArg SchedulerPc.owed idle
    · exact congrArg SchedulerPc.owed sleeping
  have nobody : ¬ s.ledger.Holds .owing authId := by
    rintro ⟨c, request, attempt, stands, stage, -⟩
    have resting := rest.callers c request _ stands
    simp only [CallerPhase.resting] at resting
    split at resting
    · rename_i waits
      simp [Attempt.progress, waits] at stage
    · rename_i returned
      simp [Attempt.progress, returned] at stage
    · rename_i dropped
      simp [Attempt.progress, dropped] at stage
    · cases resting
  rw [reader, scheduler, indicator_of_not nobody] at balance
  rw [List.count_append, List.count_append]
  by_cases flies : s.table.Flying authId
  · have kept : s.table.inFlight authId = true :=
      ConntrackTable.inFlight_iff.mpr flies
    rw [List.count_filter kept]
    by_cases listed : authId ∈ AuthEvent.recordedIds events
    · have open_ :
          s.ledger.table.Flying authId ∧
            authId ∈ AuthEvent.recordedIds events :=
        ⟨flies, listed⟩
      have one := List.count_pos_iff.mpr listed
      rw [indicator_of open_] at balance
      simp only [List.count_nil] at balance
      omega
    · have absent := List.count_eq_zero.mpr listed
      omega
  · have closed :
        ¬ (s.ledger.table.Flying authId ∧
          authId ∈ AuthEvent.recordedIds events) :=
      fun both => flies both.1
    have dropped :
        ((AuthEvent.recordedIds events).filter s.table.inFlight).count
          authId = 0 := by
      rw [List.count_eq_zero, List.mem_filter]
      intro both
      exact flies (ConntrackTable.inFlight_iff.mp both.2)
    rw [indicator_of_not closed] at balance
    simp only [List.count_nil] at balance
    omega

theorem gauge_at_rest (audited : Audited cfg events s) (rest : s.AtRest) :
    s.stats.inFlight = (s.sentIds.filter s.table.inFlight).length := by
  have parts := (audited.recorded_perm rest).length_eq
  have same := (audited.recorded_perm_sent rest).length_eq
  have gauge := audited.counted.gauge
  have calm : ¬ s.ledger.Replacing := by
    rintro ⟨c, request, stands⟩
    have resting := rest.callers c request _ stands
    cases resting
  rw [List.length_append, List.length_append] at parts
  rw [indicator_of_not calm] at gauge
  omega

end Audited

/-- In every run whose steps meet the condition each auth id is settled at most
once, the counters count the settlements, there are no more of them than first
`0x13` frames on the wire, and at rest the gauge is the number of attempts that
have been sent and are neither answered, timed out, nor cancelled. -/
theorem settlements_counted_once (cfg : SessionConfig) (vip : Ipv4Addr)
    (now : Nat) (actions : List Action) (s : State)
    (meets :
      Concurrency.Meets (next cfg) (Orderly cfg) (State.initial vip now)
        actions)
    (ran :
      Concurrency.run (next cfg) (State.initial vip now) actions = some s) :
    (AuthEvent.settledIds
        (Concurrency.observed (next cfg) authEvents (State.initial vip now)
          actions)).Nodup ∧
      s.stats.outcomesReceived + s.stats.timeouts =
        (AuthEvent.settledIds
          (Concurrency.observed (next cfg) authEvents (State.initial vip now)
            actions)).length ∧
      s.stats.outcomesReceived + s.stats.timeouts ≤ s.sentIds.length ∧
      (s.AtRest →
        s.stats.inFlight =
          (s.sentIds.filter s.table.inFlight).length) := by
  have audited :
      Audited cfg
        (Concurrency.observed (next cfg) authEvents (State.initial vip now)
          actions) s := by
    refine Concurrency.invariant_of_observed (Audited cfg)
      (Audited.initial cfg vip now) ?_ meets ran
    intro events t action after holds orderly stepped
    exact holds.next orderly stepped
  have settlements := audited.counted.settlements
  refine ⟨audited.settled_nodup, settlements, ?_, audited.gauge_at_rest⟩
  rw [settlements]
  exact audited.settled_le_sent

namespace Sample

/-- Steps of a session with one sender, caller `0`, that are orderly. -/
def inOrder (cfg : SessionConfig) (s : State) : Action → Bool
  | .authorizeFlow _ _ => true
  | .advance c order =>
      match s.callers c with
      | some ⟨request, .claim⟩ => (s.replaced order request).isNone
      | _ => true
  | .receive (.auth status json) =>
      match cfg.named json, s.callers 0 with
      | some authId, some ⟨_, .attempting attempt⟩ =>
          (s.table.getByAuthId authId).all (·.outcome.isNone) &&
            !cfg.retries status && s.sentIds.contains authId &&
            attempt.authId == authId && attempt.mustSend &&
            attempt.progress == .waiting
      | _, _ => false
  | .reader =>
      match s.reader with
      | .failRetry _ => false
      | _ => true
  | .writer _ =>
      match s.writer with
      | .failing | .timedOut _ => false
      | _ => true
  | _ => false

theorem orderly_of_inOrder {cfg : SessionConfig} {s : State}
    {action : Action} (inTurn : inOrder cfg s action = true) :
    Orderly cfg s action := by
  cases action with
  | authorizeFlow c request => trivial
  | advance c order =>
      intro request old stands found inFlight
      simp only [inOrder, stands, found] at inTurn
      cases inTurn
  | receive frame =>
      cases frame with
      | auth status json =>
          intro authId entry named live
          simp only [inOrder, named] at inTurn
          split at inTurn
          · rename_i own request attempt same stands
            cases same
            simp only [Bool.and_eq_true, Bool.not_eq_true', live,
              Option.all_some, Option.isNone_iff_eq_none,
              List.contains_eq_mem, decide_eq_true_eq, beq_iff_eq] at inTurn
            obtain ⟨⟨⟨⟨⟨unsettled, settles⟩, sent⟩, isId⟩, licensed⟩, waits⟩ :=
              inTurn
            have awaited : s.Awaited authId :=
              ⟨mem_sentIds.mp sent, 0, request, attempt, stands, isId,
                licensed, Or.inl waits⟩
            exact ⟨fun _ => ⟨unsettled, awaited⟩, fun _ _ _ _ => awaited⟩
          · cases inTurn
      | _ => cases inTurn
  | reader =>
      intro authId entry stands live
      simp only [inOrder, stands] at inTurn
      cases inTurn
  | writer result =>
      refine ⟨?_, ?_⟩
      · intro stands
        simp only [inOrder, stands] at inTurn
        cases inTurn
      · intro frame stands
        simp only [inOrder, stands] at inTurn
        cases inTurn
  | _ => cases inTurn

/-- The answer to the first request, and its delivery. -/
def granted : List Action :=
  firstCall ++ [.receive (.auth 0 grantJson), .reader, .reader]

end Sample

/-- A request that is granted: one settlement and an empty gauge. -/
theorem settlements_counted_once_granted :
    ∃ s, Concurrency.run (next (Sample.config .disabled))
        (State.initial Sample.vip 0) Sample.granted = some s ∧
      s.stats.outcomesReceived = 1 ∧
      s.stats.outcomesReceived + s.stats.timeouts ≤ s.sentIds.length := by
  have meets :
      Concurrency.Meets (next (Sample.config .disabled))
        (fun s action =>
          Sample.inOrder (Sample.config .disabled) s action = true)
        (State.initial Sample.vip 0) Sample.granted := by
    decide +kernel
  apply Concurrency.exists_of_view (·.stats.outcomesReceived) 1
    (by decide +kernel)
  intro s ran isOne
  have settled :=
    settlements_counted_once (Sample.config .disabled) Sample.vip 0
      Sample.granted s
      (Concurrency.meets_mono (fun _ _ => Sample.orderly_of_inOrder) meets) ran
  exact ⟨isOne, settled.2.2.1⟩

/-- The server repeats its answer: the one request on the wire is settled
twice. -/
theorem repeated_answer_settles_twice :
    (Concurrency.run (next (Sample.config .disabled))
        (State.initial Sample.vip 0)
        (Sample.granted ++ [.receive (.auth 0 Sample.grantJson), .reader])).map
        (fun s => (s.stats.outcomesReceived, s.stats.timeouts, s.sentIds)) =
        some (2, 0, [1]) ∧
      AuthEvent.settledIds
        (Concurrency.observed (next (Sample.config .disabled)) authEvents
          (State.initial Sample.vip 0)
          (Sample.granted ++
            [.receive (.auth 0 Sample.grantJson), .reader])) = [1, 1] := by
  decide +kernel

end HermesAtrust.L3
