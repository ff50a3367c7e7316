import HermesAtrust.L3.ConntrackPruning
import HermesAtrust.L3.SessionInvariant

/-!
# The wire retries in the statistics

A wire retry is flagged in its entry, queued and counted as scheduled, and at
the end counted as sent or as cancelled, or not counted at all when its attempt
has been settled meanwhile.  Clearing the table counts the flagged retries as
cancelled and leaves their jobs in the queue.  The books balance in every run in
which a job whose retry has been counted that way is not taken up again.
-/

namespace HermesAtrust.L3

open HermesAtrust.Framing HermesAtrust.Protocol HermesAtrust.Collections

/-! ## Flagged entries -/

/-- The entries of the second table that are flagged for a retry were flagged
in the first, with the same outcome. -/
def FlagsFrom (before after : ConntrackTable) : Prop :=
  ∀ authId changed, after.getByAuthId authId = some changed →
    changed.retryScheduled = true →
    ∃ entry, before.getByAuthId authId = some entry ∧
      entry.retryScheduled = true ∧ changed.outcome = entry.outcome

namespace FlagsFrom

variable {table : ConntrackTable}

theorem refl (table : ConntrackTable) : FlagsFrom table table := by
  intro authId entry live flagged
  exact ⟨entry, live, flagged, rfl⟩

theorem aged {after : ConntrackTable} (evolves : Evolves Aged table after) :
    FlagsFrom table after := by
  intro authId changed live flagged
  obtain ⟨entry, former, lastUsed, rfl⟩ :=
    evolves.continues authId changed live
  exact ⟨entry, former, flagged, rfl⟩

/-- A change of one entry that sets no flag. -/
theorem modify (wf : table.WellFormed)
    {change : ConntrackEntry → ConntrackEntry}
    (identity : ConntrackTable.KeepsIdentity change)
    (plain :
      ∀ entry, (change entry).retryScheduled = true →
        entry.retryScheduled = true ∧ (change entry).outcome = entry.outcome)
    (authId : Nat) : FlagsFrom table (table.modifyByAuthId authId change) := by
  intro other changed live flagged
  rw [ConntrackTable.getByAuthId_modifyByAuthId wf identity] at live
  split at live
  · rename_i same
    subst other
    obtain ⟨entry, former, rfl⟩ := Option.map_eq_some_iff.mp live
    exact ⟨entry, former, plain entry flagged⟩
  · exact ⟨changed, live, flagged, rfl⟩

theorem complete (wf : table.WellFormed) (authId : Nat)
    (outcome : AuthOutcome) :
    FlagsFrom table (table.modifyByAuthId authId (·.complete outcome)) := by
  apply modify wf (ConntrackTable.keepsIdentity_complete outcome)
  intro entry
  unfold ConntrackEntry.complete
  split
  · intro impossible
    cases impossible
  · intro flagged
    exact ⟨flagged, rfl⟩

theorem takeRetry (wf : table.WellFormed) (authId : Nat) :
    FlagsFrom table
      (table.modifyByAuthId authId fun entry => entry.takeRetry.1) := by
  apply modify wf ConntrackTable.keepsIdentity_takeRetry
  intro entry
  unfold ConntrackEntry.takeRetry
  split
  · intro flagged
    exact ⟨flagged, rfl⟩
  · intro impossible
    cases impossible

theorem storeFrame (wf : table.WellFormed) (authId : Nat) (frame : Bytes)
    (deadline : Nat) :
    FlagsFrom table
      (table.modifyByAuthId authId fun entry =>
        if entry.authInFlight then entry.setReusableFrame frame deadline
        else entry) := by
  apply modify wf (keepsIdentity_storeFrame frame deadline)
  intro entry
  split
  · intro flagged
    exact ⟨flagged, rfl⟩
  · intro flagged
    exact ⟨flagged, rfl⟩

theorem registers {after : ConntrackTable} {request : AuthRequest}
    {authId : Nat} {mustSend : Bool} {entry : ConntrackEntry}
    (registers : Registers table after request authId mustSend entry) :
    FlagsFrom table after := by
  intro other changed live flagged
  by_cases same : other = authId
  · subst other
    rw [registers.stored] at live
    cases live
    rcases registers.origin with
      ⟨former, found, -, open_, -, -, sameFlag, -⟩ | ⟨-, -, -, unflagged, -⟩
    · exact ⟨former, found, sameFlag.symm.trans flagged,
        registers.unsettled.trans open_.symm⟩
    · rw [unflagged] at flagged
      cases flagged
  · rw [registers.others other same] at live
    exact ⟨changed, live, flagged, rfl⟩

end FlagsFrom

/-- A caller flags no retry. -/
theorem CallerStep.flags {cfg : SessionConfig} {s s' : State} {c : Nat}
    {request : AuthRequest} {phase : CallerPhase} {action : Action}
    (sound : Sound s.ledger) (present : s.ledger.InPhase c request phase)
    (step : CallerStep cfg s c request action phase s') :
    FlagsFrom s.table s'.table := by
  cases step with
  | claim free =>
      rename_i order
      obtain ⟨table, gone, phase, claimed, -, effect⟩ :=
        claimFlow_effect sound.wellFormed order c request
      have sameTable : (s.claimFlow order c request).table = table :=
        congrArg Ledger.table effect
      rw [sameTable]
      exact FlagsFrom.aged claimed.evolves
  | insert room =>
      have own := (sound.claiming c request _ present rfl).2
      rcases insertFlow_cases (c := c) sound.wellFormed room own with
        ⟨entry, outcome, table, -, -, -, evolves, -, effect⟩ |
        ⟨entry, authId, mustSend, table, registers, effect⟩
      · rw [effect]
        exact FlagsFrom.aged evolves
      · rw [effect]
        exact FlagsFrom.registers registers
  | storeFrame stands free => exact FlagsFrom.storeFrame sound.wellFormed _ _ _
  | abandonEvict stands free =>
      exact FlagsFrom.aged (Evolves.evictByAuthId sound.wellFormed _)
  | _ => exact FlagsFrom.refl s.table

/-- Entries have different ids. -/
theorem ConntrackTable.WellFormed.nodup_authIds {table : ConntrackTable}
    (wf : table.WellFormed) : (table.stored.map (·.authId)).Nodup := by
  have distinct := List.nodupKeys_iff_pairwise.mp table.byKey.nodupKeys
  rw [ConntrackTable.stored, HashTable.values, List.map_map, List.Nodup,
    List.pairwise_map]
  apply distinct.imp_of_mem
  intro first second firstHeld secondHeld different same
  have firstLookup : table.byKey.lookup first.1 = some first.2 :=
    AList.mem_lookup_iff.mpr firstHeld
  have secondLookup : table.byKey.lookup second.1 = some second.2 :=
    AList.mem_lookup_iff.mpr secondHeld
  have firstId : table.byId.lookup first.2.authId = some first.1 :=
    (wf.inverse _ _).mpr ⟨first.2, firstLookup, rfl⟩
  have secondId : table.byId.lookup first.2.authId = some second.1 :=
    (wf.inverse _ _).mpr ⟨second.2, secondLookup, same.symm⟩
  rw [firstId] at secondId
  exact different (Option.some.inj secondId)

/-- There are at most as many flagged entries as ids that may be flagged. -/
theorem ConntrackTable.scheduledRetries_le {table : ConntrackTable}
    (wf : table.WellFormed) {ids : List Nat}
    (covered :
      ∀ authId entry, table.getByAuthId authId = some entry →
        entry.retryScheduled = true → authId ∈ ids) :
    table.scheduledRetries ≤ ids.length := by
  have flaggedIds :
      ((table.stored.filter (·.retryScheduled)).map (·.authId)).Nodup :=
    wf.nodup_authIds.sublist (List.filter_sublist.map _)
  have listed :
      ((table.stored.filter (·.retryScheduled)).map (·.authId)) ⊆ ids := by
    intro authId member
    obtain ⟨entry, chosen, rfl⟩ := List.mem_map.mp member
    obtain ⟨held, flagged⟩ := List.mem_filter.mp chosen
    obtain ⟨key, found⟩ := HashTable.mem_values.mp held
    exact covered entry.authId entry
      (ConntrackTable.getByAuthId_of_lookup wf found) flagged
  have atMost := (List.subperm_of_subset flaggedIds listed).length_le
  rw [List.length_map, ← List.countP_eq_length_filter] at atMost
  exact atMost

/-! ## The books -/

/-- The job the scheduler sleeps on. -/
def SchedulerPc.dozing : SchedulerPc → List Nat
  | .sleeping authId _ => [authId]
  | _ => []

/-- The job whose entry the scheduler is about to look up. -/
def SchedulerPc.looking : SchedulerPc → List Nat
  | .lookup authId => [authId]
  | _ => []

/-- The scheduler works on a job that it may still count. -/
def SchedulerPc.handling : SchedulerPc → Nat
  | .lookup _ | .enqueue _ _ | .awaitWrite | .recordSent => 1
  | _ => 0

/-- The retry the reader has flagged and not brought to the queue. -/
def ReaderPc.queueing : ReaderPc → List Nat
  | .queueRetry authId _ | .retryRefused authId | .failRetry authId => [authId]
  | _ => []

/-- A queued retry that the reader has not counted yet. -/
def ReaderPc.uncounted : ReaderPc → Nat
  | .retryQueued => 1
  | _ => 0

/-- The cancellations that the reader is about to count. -/
def ReaderPc.cancelling : ReaderPc → Nat
  | .retryRefused _ => 1
  | .vipCount cancelled => cancelled
  | _ => 0

/-- The reader has no retry in its hands and nothing to count. -/
def ReaderPc.HoldsNone (position : ReaderPc) : Prop :=
  position.cancelling = 0 ∧ position.uncounted = 0 ∧ position.queueing = []

/-- `shutdown` has cleared the table. -/
def ShutdownPhase.cleared : ShutdownPhase → Bool
  | .countCancelled _ | .drain | .finished => true
  | _ => false

/-- The cancellations that `shutdown` is about to count. -/
def ShutdownPhase.cancelling : ShutdownPhase → Nat
  | .countCancelled cancelled => cancelled
  | _ => 0

namespace State

/-- The retries that may still be counted as sent or cancelled; `dropped` are
the jobs that a stopping scheduler has left. -/
def openRetries (s : State) (dropped : List Nat) : Nat :=
  s.scheduler.handling + s.reader.cancelling + s.shutdown.cancelling +
    if s.shutdown.cleared then 0
    else s.retryQueue.length + s.scheduler.dozing.length + dropped.length

/-- The ids that may be flagged. -/
def trackedRetries (s : State) (dropped : List Nat) : List Nat :=
  s.retryQueue.map (·.authId) ++ s.scheduler.dozing ++ s.scheduler.looking ++
    s.reader.queueing ++ dropped

/-- What the books are kept from, apart from the shutdown. -/
def retryBooks (s : State) :
    Nat × Nat × Nat × List RetryJob × ReaderPc × SchedulerPc :=
  (s.stats.wireRetriesSent, s.stats.wireRetriesCancelled,
    s.stats.wireRetriesScheduled, s.retryQueue, s.reader, s.scheduler)

end State

/-- A caller does not touch the books. -/
theorem CallerStep.retryBooks {cfg : SessionConfig} {s s' : State} {c : Nat}
    {request : AuthRequest} {phase : CallerPhase} {action : Action}
    (step : CallerStep cfg s c request action phase s') :
    s'.retryBooks = s.retryBooks := by
  cases step with
  | claim free =>
      unfold State.claimFlow
      simp only
      split <;> rfl
  | insert room =>
      unfold State.insertFlow
      simp only
      split
      · rfl
      · split <;> rfl
  | _ => rfl

/-- No retry is counted twice so far, and those that are still open have not
been counted. -/
structure Balanced (refused : Nat) (dropped : List Nat) (s : State) : Prop where
  counted :
    s.stats.wireRetriesSent + s.stats.wireRetriesCancelled ≤
      s.stats.wireRetriesScheduled + refused
  pending :
    s.stats.wireRetriesSent + s.stats.wireRetriesCancelled +
        s.openRetries dropped ≤
      s.stats.wireRetriesScheduled + refused + s.reader.uncounted
  flagged :
    ∀ authId entry, s.table.getByAuthId authId = some entry →
      entry.retryScheduled = true → entry.outcome = none ∧
        (s.shutdown.cleared = false → authId ∈ s.trackedRetries dropped)

/-- A retry whose job may still come up is not counted as cancelled by a clear,
and nothing is counted while the reader has queued a retry and not counted
it. -/
def CountsOnce (s : State) : Action → Prop
  | .reader => s.reader = .vipClear → s.table.scheduledRetries = 0
  | .scheduler =>
      (s.scheduler = .recordSent ∨
          ∃ authId ∈ s.scheduler.looking,
            s.table.getByAuthId authId = none) →
        s.reader ≠ .retryQueued
  | .shutdown =>
      (s.shutdown = .clearTable →
        s.table.scheduledRetries = 0 ∨
          (s.scheduler.looking = [] ∧ s.reader.queueing = [])) ∧
        (s.shutdown.cancelling = 0 ∨ s.reader ≠ .retryQueued)
  | _ => True

instance decidableCountsOnce (s : State) (action : Action) :
    Decidable (CountsOnce s action) :=
  match action with
  | .reader => inferInstanceAs (Decidable (_ → _))
  | .scheduler => inferInstanceAs (Decidable (_ ∨ _ → _ ≠ _))
  | .shutdown => inferInstanceAs (Decidable ((_ → _) ∧ (_ ∨ _)))
  | .authorizeFlow _ _ | .advance _ _ | .expire _ | .cancel _ | .receive _
  | .readerStop | .writer _ | .close | .subscribeFlow _ | .subscriber
  | .dropFlowPackets _ _ | .enqueueOther _ | .tick _ =>
      inferInstanceAs (Decidable True)

/-- The retries that find no place in the queue. -/
def refusals (s : State) : Action → List Nat
  | .reader =>
      match s.reader with
      | .queueRetry authId _ =>
          if s.retryQueue.length < authRetryQueueDepth ∧
              s.scheduler ≠ .stopped then []
          else [authId]
      | _ => []
  | _ => []

theorem uncounted_of_ne {position : ReaderPc}
    (other : position ≠ .retryQueued) : position.uncounted = 0 := by
  cases position with
  | retryQueued => exact absurd rfl other
  | _ => rfl

theorem cancelling_of_uncleared {phase : ShutdownPhase}
    (uncleared : phase.cleared = false) : phase.cancelling = 0 := by
  cases phase with
  | countCancelled cancelled => cases uncleared
  | _ => rfl

/-- The stop signal precedes the clear. -/
theorem cleared_of_running {s : State} (running : ¬ s.stopSignalled = true) :
    s.shutdown.cleared = false := by
  unfold State.stopSignalled at running
  cases stands : s.shutdown with
  | countCancelled cancelled => simp [stands] at running
  | drain => simp [stands] at running
  | finished => simp [stands] at running
  | _ => rfl

namespace Balanced

variable {s s' : State} {refused refused' : Nat} {dropped dropped' : List Nat}

/-- A step after which the ids that may be flagged are still listed. -/
theorem move (balanced : Balanced refused dropped s)
    (flags : FlagsFrom s.table s'.table)
    (cleared : s'.shutdown.cleared = false → s.shutdown.cleared = false)
    (tracked :
      ∀ authId entry, s'.table.getByAuthId authId = some entry →
        entry.retryScheduled = true → authId ∈ s.trackedRetries dropped →
        authId ∈ s'.trackedRetries dropped')
    (counted :
      s'.stats.wireRetriesSent + s'.stats.wireRetriesCancelled ≤
        s'.stats.wireRetriesScheduled + refused')
    (pending :
      s'.stats.wireRetriesSent + s'.stats.wireRetriesCancelled +
          s'.openRetries dropped' ≤
        s'.stats.wireRetriesScheduled + refused' + s'.reader.uncounted) :
    Balanced refused' dropped' s' where
  counted := counted
  pending := pending
  flagged authId changed live isFlagged := by
    obtain ⟨entry, former, wasFlagged, sameOutcome⟩ :=
      flags authId changed live isFlagged
    obtain ⟨unsettled, listed⟩ :=
      balanced.flagged authId entry former wasFlagged
    refine ⟨sameOutcome.trans unsettled, ?_⟩
    intro notCleared
    exact tracked authId changed live isFlagged (listed (cleared notCleared))

/-- What the books speak about is untouched; `shutdown` may begin. -/
theorem same (balanced : Balanced refused dropped s)
    (flags : FlagsFrom s.table s'.table)
    (books : s'.retryBooks = s.retryBooks)
    (cleared : s'.shutdown.cleared = s.shutdown.cleared)
    (cancelling : s'.shutdown.cancelling = s.shutdown.cancelling) :
    Balanced refused dropped s' := by
  simp only [State.retryBooks, Prod.mk.injEq] at books
  obtain ⟨sent, cancelled, scheduled, queue, reader, scheduler⟩ := books
  have sameTracked :
      s'.trackedRetries dropped = s.trackedRetries dropped := by
    unfold State.trackedRetries
    rw [queue, reader, scheduler]
  have sameOpen : s'.openRetries dropped = s.openRetries dropped := by
    unfold State.openRetries
    rw [queue, reader, scheduler, cleared, cancelling]
  apply balanced.move flags
  · rw [cleared]
    exact id
  · intro authId entry live isFlagged listed
    rw [sameTracked]
    exact listed
  · rw [sent, cancelled, scheduled]
    exact balanced.counted
  · rw [sent, cancelled, scheduled, sameOpen, reader]
    exact balanced.pending

theorem beginShutdown (balanced : Balanced refused dropped s)
    (executor : ShutdownBy) :
    Balanced refused dropped (s.beginShutdown executor) := by
  unfold State.beginShutdown
  split
  · rename_i running
    refine balanced.same (FlagsFrom.refl s.table) rfl ?_ ?_
    · rw [running]
      rfl
    · rw [running]
      rfl
  · exact balanced

theorem callerStep {cfg : SessionConfig} {c : Nat} {request : AuthRequest}
    {phase : CallerPhase} {action : Action}
    (balanced : Balanced refused dropped s) (sound : Sound s.ledger)
    (present : s.ledger.InPhase c request phase)
    (step : CallerStep cfg s c request action phase s') :
    Balanced refused dropped s' := by
  have shutdown : s'.shutdown = s.shutdown := step.shutdown
  apply balanced.same (step.flags sound present) step.retryBooks
  · rw [shutdown]
  · rw [shutdown]

/-- Only open entries are flagged, so completing an entry takes its flag. -/
theorem unflagged_complete (balanced : Balanced refused dropped s)
    (wf : s.table.WellFormed) {authId : Nat} {outcome : AuthOutcome}
    {changed : ConntrackEntry}
    (live :
      (s.table.modifyByAuthId authId (·.complete outcome)).getByAuthId authId =
        some changed) : changed.retryScheduled = false := by
  rw [ConntrackTable.getByAuthId_modifyByAuthId wf
    (ConntrackTable.keepsIdentity_complete outcome), if_pos rfl] at live
  obtain ⟨entry, former, rfl⟩ := Option.map_eq_some_iff.mp live
  unfold ConntrackEntry.complete
  split
  · rfl
  · rename_i settled
    cases flag : entry.retryScheduled with
    | false => rfl
    | true =>
        have unsettled := (balanced.flagged authId entry former flag).1
        rw [unsettled] at settled
        exact absurd rfl settled

/-- The reader moves on without counting and without a flag in its hands. -/
theorem readerMove (balanced : Balanced refused dropped s)
    (flags : FlagsFrom s.table s'.table)
    (sent : s'.stats.wireRetriesSent = s.stats.wireRetriesSent)
    (cancelled :
      s'.stats.wireRetriesCancelled = s.stats.wireRetriesCancelled)
    (scheduled :
      s'.stats.wireRetriesScheduled = s.stats.wireRetriesScheduled)
    (queue : s'.retryQueue = s.retryQueue)
    (scheduler : s'.scheduler = s.scheduler)
    (shutdown : s'.shutdown = s.shutdown)
    (plain : s.reader.cancelling = 0 ∧ s.reader.uncounted = 0)
    (plain' : s'.reader.cancelling = 0 ∧ s'.reader.uncounted = 0)
    (dropsNone :
      ∀ authId entry, s'.table.getByAuthId authId = some entry →
        entry.retryScheduled = true → authId ∉ s.reader.queueing) :
    Balanced refused dropped s' := by
  refine balanced.move flags ?_ ?_ ?_ ?_
  · rw [shutdown]
    exact id
  · intro authId entry live isFlagged listed
    have notHeld := dropsNone authId entry live isFlagged
    simp only [State.trackedRetries, List.mem_append, queue, scheduler]
      at listed ⊢
    tauto
  · rw [sent, cancelled, scheduled]
    exact balanced.counted
  · have pending := balanced.pending
    unfold State.openRetries at pending ⊢
    rw [sent, cancelled, scheduled, queue, scheduler, shutdown, plain'.1,
      plain'.2]
    rw [plain.1, plain.2] at pending
    exact pending

/-- The reader moves on between places where it holds no retry. -/
theorem readerPlain (balanced : Balanced refused dropped s)
    (flags : FlagsFrom s.table s'.table)
    (sent : s'.stats.wireRetriesSent = s.stats.wireRetriesSent)
    (cancelled :
      s'.stats.wireRetriesCancelled = s.stats.wireRetriesCancelled)
    (scheduled :
      s'.stats.wireRetriesScheduled = s.stats.wireRetriesScheduled)
    (queue : s'.retryQueue = s.retryQueue)
    (scheduler : s'.scheduler = s.scheduler)
    (shutdown : s'.shutdown = s.shutdown)
    (plain : s.reader.HoldsNone) (plain' : s'.reader.HoldsNone) :
    Balanced refused dropped s' := by
  refine balanced.readerMove flags sent cancelled scheduled queue scheduler
    shutdown ⟨plain.1, plain.2.1⟩ ⟨plain'.1, plain'.2.1⟩ ?_
  intro authId entry live isFlagged held
  rw [plain.2.2] at held
  cases held

theorem reader (balanced : Balanced refused dropped s)
    (sound : Sound s.ledger)
    (counts : s.reader = .vipClear → s.table.scheduledRetries = 0)
    (stepped : s.advanceReader = some s') :
    Balanced (refused + (refusals s .reader).length) dropped s' := by
  have wf : s.table.WellFormed := sound.wellFormed
  have counted := balanced.counted
  have pending := balanced.pending
  unfold State.advanceReader at stepped
  split at stepped
  · rename_i authId outcome stands
    cases stepped
    simp only [refusals, stands, List.length_nil, Nat.add_zero]
    exact balanced.readerPlain (FlagsFrom.refl s.table) rfl rfl rfl rfl rfl
      rfl (by rw [stands]; exact ⟨rfl, rfl, rfl⟩) ⟨rfl, rfl, rfl⟩
  · rename_i authId outcome stands
    cases stepped
    simp only [refusals, stands, List.length_nil, Nat.add_zero]
    exact balanced.readerPlain (FlagsFrom.refl s.table) rfl rfl rfl rfl rfl
      rfl (by rw [stands]; exact ⟨rfl, rfl, rfl⟩) ⟨rfl, rfl, rfl⟩
  · rename_i authId delay stands
    split at stepped
    · rename_i room
      cases stepped
      simp only [refusals, stands, if_pos room, List.length_nil, Nat.add_zero]
      refine balanced.move (FlagsFrom.refl s.table) id ?_ counted ?_
      · intro other entry live isFlagged listed
        simp only [State.trackedRetries, stands, ReaderPc.queueing,
          List.map_append, List.mem_append, List.map_cons, List.map_nil]
          at listed ⊢
        tauto
      · simp only [State.openRetries, stands, ReaderPc.cancelling,
          ReaderPc.uncounted, List.length_append, List.length_singleton]
          at pending ⊢
        split at pending
        · rename_i cleared
          rw [if_pos cleared]
          omega
        · rename_i notCleared
          rw [if_neg notCleared]
          omega
    · rename_i full
      cases stepped
      simp only [refusals, stands, if_neg full, List.length_singleton]
      refine balanced.move (FlagsFrom.refl s.table) id ?_ ?_ ?_
      · intro other entry live isFlagged listed
        simp only [State.trackedRetries, stands, ReaderPc.queueing] at listed ⊢
        exact listed
      · exact counted.trans (Nat.le_succ _)
      · simp only [State.openRetries, stands, ReaderPc.cancelling,
          ReaderPc.uncounted] at pending ⊢
        omega
  · rename_i stands
    cases stepped
    simp only [refusals, stands, List.length_nil, Nat.add_zero]
    refine balanced.move (FlagsFrom.refl s.table) id ?_ ?_ ?_
    · intro other entry live isFlagged listed
      simp only [State.trackedRetries, stands, ReaderPc.queueing] at listed ⊢
      exact listed
    · simp only
      omega
    · simp only [State.openRetries, stands, ReaderPc.cancelling,
        ReaderPc.uncounted] at pending ⊢
      omega
  · rename_i authId stands
    cases stepped
    simp only [refusals, stands, List.length_nil, Nat.add_zero]
    simp only [State.openRetries, stands, ReaderPc.cancelling,
      ReaderPc.uncounted] at pending
    refine balanced.move (FlagsFrom.refl s.table) id ?_ ?_ ?_
    · intro other entry live isFlagged listed
      simp only [State.trackedRetries, stands, ReaderPc.queueing] at listed ⊢
      exact listed
    · simp only [FlowAuthStats.cancelRetries]
      omega
    · simp only [State.openRetries, FlowAuthStats.cancelRetries,
        ReaderPc.cancelling, ReaderPc.uncounted]
      omega
  · rename_i authId stands
    split at stepped
    · simp only [refusals, stands, List.length_nil, Nat.add_zero]
      simp only at stepped
      split at stepped
      · rename_i verdict
        cases stepped
        refine balanced.readerMove (FlagsFrom.refl s.table) rfl rfl rfl rfl
          rfl rfl ?_ ⟨rfl, rfl⟩ ?_
        · rw [stands]
          exact ⟨rfl, rfl⟩
        · intro other entry live isFlagged
          rw [stands]
          intro held
          cases List.mem_singleton.mp held
          have unsettled := (balanced.flagged authId entry live isFlagged).1
          rw [verdict_complete wf live unsettled] at verdict
          cases verdict
      · rename_i outcome verdict
        cases stepped
        refine balanced.readerMove (FlagsFrom.complete wf authId _) rfl rfl rfl
          rfl rfl rfl ?_ ⟨rfl, rfl⟩ ?_
        · rw [stands]
          exact ⟨rfl, rfl⟩
        · intro other entry live isFlagged
          rw [stands]
          intro held
          cases List.mem_singleton.mp held
          rw [balanced.unflagged_complete wf live] at isFlagged
          cases isFlagged
    · cases stepped
  · rename_i stands
    split at stepped
    · cases stepped
      simp only [refusals, stands, List.length_nil, Nat.add_zero]
      exact balanced.readerPlain (FlagsFrom.aged (Evolves.clear s.table)) rfl
        rfl rfl rfl rfl rfl (by rw [stands]; exact ⟨rfl, rfl, rfl⟩)
        ⟨counts stands, rfl, rfl⟩
    · cases stepped
  · rename_i cancelled stands
    cases stepped
    simp only [refusals, stands, List.length_nil, Nat.add_zero]
    simp only [State.openRetries, stands, ReaderPc.cancelling,
      ReaderPc.uncounted] at pending
    refine balanced.move (FlagsFrom.refl s.table) id ?_ ?_ ?_
    · intro other entry live isFlagged listed
      simp only [State.trackedRetries, stands, ReaderPc.queueing] at listed ⊢
      exact listed
    · simp only [FlowAuthStats.cancelRetries]
      omega
    · simp only [State.openRetries, FlowAuthStats.cancelRetries,
        ReaderPc.cancelling, ReaderPc.uncounted]
      omega
  · rename_i stands
    cases stepped
    simp only [refusals, stands, List.length_nil, Nat.add_zero]
    exact balanced.readerPlain (FlagsFrom.refl s.table) rfl rfl rfl rfl rfl
      rfl (by rw [stands]; exact ⟨rfl, rfl, rfl⟩) ⟨rfl, rfl, rfl⟩
  · rename_i stands
    cases stepped
    simp only [refusals, stands, List.length_nil, Nat.add_zero]
    exact balanced.readerPlain (FlagsFrom.refl s.table) rfl rfl rfl rfl rfl
      rfl (by rw [stands]; exact ⟨rfl, rfl, rfl⟩) ⟨rfl, rfl, rfl⟩
  · rename_i stands
    split at stepped
    · cases stepped
      simp only [refusals, stands, List.length_nil, Nat.add_zero]
      exact balanced.readerPlain (FlagsFrom.refl s.table) rfl rfl rfl rfl rfl
        rfl (by rw [stands]; exact ⟨rfl, rfl, rfl⟩) ⟨rfl, rfl, rfl⟩
    · cases stepped
  · rename_i stands
    cases stepped
    simp only [refusals, stands, List.length_nil, Nat.add_zero]
    exact balanced.readerPlain (FlagsFrom.refl s.table) rfl rfl rfl rfl rfl
      rfl (by rw [stands]; exact ⟨rfl, rfl, rfl⟩) ⟨rfl, rfl, rfl⟩
  · rename_i packet later stands
    split at stepped
    · cases stepped
      simp only [refusals, stands, List.length_nil, Nat.add_zero]
      exact balanced.readerPlain
        (FlagsFrom.aged (Evolves.touched wf (touched_of_touchInboundFlow
          packet))) rfl rfl rfl rfl rfl rfl
        (by rw [stands]; exact ⟨rfl, rfl, rfl⟩) ⟨rfl, rfl, rfl⟩
    · cases stepped
  · cases stepped
  · cases stepped

/-! ### The scheduler -/

/-- Only open entries are flagged, so taking a retry takes the flag. -/
theorem unflagged_takeRetry (balanced : Balanced refused dropped s)
    (wf : s.table.WellFormed) {authId : Nat} {changed : ConntrackEntry}
    (live :
      (s.table.modifyByAuthId authId fun entry =>
        entry.takeRetry.1).getByAuthId authId = some changed) :
    changed.retryScheduled = false := by
  rw [ConntrackTable.getByAuthId_modifyByAuthId wf
    ConntrackTable.keepsIdentity_takeRetry, if_pos rfl] at live
  obtain ⟨entry, former, rfl⟩ := Option.map_eq_some_iff.mp live
  unfold ConntrackEntry.takeRetry
  split
  · rename_i void
    cases flag : entry.retryScheduled with
    | false => rfl
    | true =>
        have unsettled := (balanced.flagged authId entry former flag).1
        simp [flag, unsettled] at void
  · rfl

/-- The scheduler moves on without counting. -/
theorem schedulerMove (balanced : Balanced refused dropped s)
    (flags : FlagsFrom s.table s'.table)
    (stats : s'.stats = s.stats ∨ s'.stats = s.stats.exhaustRetry ∨
      s'.stats = s.stats.settleAuth false)
    (queue : s'.retryQueue = s.retryQueue) (reader : s'.reader = s.reader)
    (shutdown : s'.shutdown = s.shutdown)
    (dozing : s.scheduler.dozing = []) (dozing' : s'.scheduler.dozing = [])
    (handling : s'.scheduler.handling ≤ s.scheduler.handling)
    (lookedUp :
      ∀ authId entry, s'.table.getByAuthId authId = some entry →
        entry.retryScheduled = true → authId ∉ s.scheduler.looking) :
    Balanced refused dropped s' := by
  have books :
      s'.stats.wireRetriesSent = s.stats.wireRetriesSent ∧
        s'.stats.wireRetriesCancelled = s.stats.wireRetriesCancelled ∧
        s'.stats.wireRetriesScheduled = s.stats.wireRetriesScheduled := by
    rcases stats with same | same | same
    · rw [same]
      exact ⟨rfl, rfl, rfl⟩
    · rw [same]
      exact ⟨rfl, rfl, rfl⟩
    · rw [same]
      exact ⟨rfl, rfl, rfl⟩
  obtain ⟨sent, cancelled, scheduled⟩ := books
  refine balanced.move flags ?_ ?_ ?_ ?_
  · rw [shutdown]
    exact id
  · intro authId entry live isFlagged listed
    have notLooked := lookedUp authId entry live isFlagged
    simp only [State.trackedRetries, List.mem_append, queue, reader, dozing,
      dozing'] at listed ⊢
    tauto
  · rw [sent, cancelled, scheduled]
    exact balanced.counted
  · have pending := balanced.pending
    unfold State.openRetries at pending ⊢
    rw [sent, cancelled, scheduled, queue, reader, shutdown, dozing']
    rw [dozing] at pending
    omega

/-- The scheduler moves on where it neither sleeps on a job nor looks one up. -/
theorem schedulerPlain (balanced : Balanced refused dropped s)
    {position : SchedulerPc} (stands : s.scheduler = position)
    (stats : s'.stats = s.stats ∨ s'.stats = s.stats.exhaustRetry ∨
      s'.stats = s.stats.settleAuth false)
    (table : s'.table = s.table) (queue : s'.retryQueue = s.retryQueue)
    (reader : s'.reader = s.reader) (shutdown : s'.shutdown = s.shutdown)
    (dozing : position.dozing = []) (looking : position.looking = [])
    (dozing' : s'.scheduler.dozing = [])
    (handling : s'.scheduler.handling ≤ position.handling) :
    Balanced refused dropped s' := by
  subst stands
  refine balanced.schedulerMove ?_ stats queue reader shutdown dozing dozing'
    handling ?_
  · rw [table]
    exact FlagsFrom.refl s.table
  · intro authId entry live isFlagged
    rw [looking]
    exact List.not_mem_nil

theorem scheduler (balanced : Balanced refused dropped s)
    (sound : Sound s.ledger) (counts : CountsOnce s .scheduler)
    (stepped : s.advanceScheduler = some s') :
    ∃ dropped', Balanced refused dropped' s' := by
  have wf : s.table.WellFormed := sound.wellFormed
  have counted := balanced.counted
  have pending := balanced.pending
  unfold State.advanceScheduler at stepped
  split at stepped
  · rename_i stands
    split at stepped
    · cases stepped
      refine ⟨dropped, balanced.schedulerMove (FlagsFrom.refl s.table)
        (Or.inl rfl) rfl rfl rfl ?_ rfl ?_ ?_⟩
      · rw [stands]
        rfl
      · rw [stands]
        exact Nat.le_refl _
      · rw [stands]
        simp [SchedulerPc.looking]
    · rename_i running
      split at stepped
      · cases stepped
      · rename_i job later waiting
        cases stepped
        have notCleared := cleared_of_running running
        refine ⟨dropped, balanced.move (FlagsFrom.refl s.table) id ?_ counted
          ?_⟩
        · intro other entry live isFlagged listed
          simp only [State.trackedRetries, stands, waiting,
            SchedulerPc.dozing, SchedulerPc.looking, List.map_cons,
            List.mem_append, List.mem_cons, List.not_mem_nil, or_false]
            at listed ⊢
          tauto
        · simp only [State.openRetries, stands, waiting, notCleared,
            SchedulerPc.dozing, SchedulerPc.handling, List.length_cons,
            List.length_nil, Bool.false_eq_true, if_false] at pending ⊢
          omega
  · rename_i authId due stands
    split at stepped
    · cases stepped
      refine ⟨authId :: dropped, balanced.move (FlagsFrom.refl s.table) id ?_
        counted ?_⟩
      · intro other entry live isFlagged listed
        simp only [State.trackedRetries, stands, SchedulerPc.dozing,
          SchedulerPc.looking, List.mem_append, List.mem_cons,
          List.not_mem_nil, or_false] at listed ⊢
        tauto
      · simp only [State.openRetries, stands, SchedulerPc.dozing,
          SchedulerPc.handling, List.length_cons, List.length_nil]
          at pending ⊢
        split at pending
        · rename_i cleared
          rw [if_pos cleared]
          omega
        · rename_i notCleared
          rw [if_neg notCleared]
          omega
    · rename_i running
      have notCleared := cleared_of_running running
      split at stepped
      · cases stepped
        refine ⟨dropped, balanced.move (FlagsFrom.refl s.table) id ?_ counted
          ?_⟩
        · intro other entry live isFlagged listed
          simp only [State.trackedRetries, stands, SchedulerPc.dozing,
            SchedulerPc.looking, List.mem_append, List.mem_cons,
            List.not_mem_nil, or_false] at listed ⊢
          tauto
        · simp only [State.openRetries, stands, notCleared,
            SchedulerPc.dozing, SchedulerPc.handling, List.length_cons,
            List.length_nil, Bool.false_eq_true, if_false] at pending ⊢
          omega
      · cases stepped
  · rename_i authId stands
    split at stepped
    · split at stepped
      · rename_i missing
        cases stepped
        have windowClosed : s.reader.uncounted = 0 :=
          uncounted_of_ne (counts (Or.inr ⟨authId, by simp [stands,
            SchedulerPc.looking], missing⟩))
        simp only [State.openRetries, stands, SchedulerPc.handling,
          SchedulerPc.dozing, windowClosed] at pending
        refine ⟨dropped, balanced.move (FlagsFrom.refl s.table) id ?_ ?_ ?_⟩
        · intro other entry live isFlagged listed
          have different : other ≠ authId := by
            intro same
            rw [same] at live
            rw [missing] at live
            cases live
          simp only [State.trackedRetries, stands, SchedulerPc.dozing,
            SchedulerPc.looking, List.mem_append, List.mem_singleton]
            at listed ⊢
          tauto
        · simp only [FlowAuthStats.cancelRetries]
          omega
        · simp only [State.openRetries, FlowAuthStats.cancelRetries,
            SchedulerPc.handling, SchedulerPc.dozing, windowClosed]
          omega
      · rename_i entry live
        split at stepped
        · cases stepped
          refine ⟨dropped, balanced.schedulerMove
            (FlagsFrom.complete wf authId _) (Or.inr (Or.inl rfl)) rfl rfl rfl
            ?_ rfl ?_ ?_⟩
          · rw [stands]
            rfl
          · rw [stands]
            exact Nat.zero_le _
          · intro other changed changedLive isFlagged
            rw [stands]
            intro looked
            cases List.mem_singleton.mp looked
            rw [balanced.unflagged_complete wf changedLive] at isFlagged
            cases isFlagged
        · cases stepped
          refine ⟨dropped, balanced.schedulerMove
            (FlagsFrom.takeRetry wf authId) (Or.inl rfl) rfl rfl rfl ?_ ?_ ?_
            ?_⟩
          · rw [stands]
            rfl
          · simp only
            split <;> rfl
          · rw [stands]
            simp only
            split
            · exact Nat.le_refl _
            · exact Nat.zero_le _
          · intro other changed changedLive isFlagged
            rw [stands]
            intro looked
            cases List.mem_singleton.mp looked
            rw [balanced.unflagged_takeRetry wf changedLive] at isFlagged
            cases isFlagged
    · cases stepped
  · rename_i authId stands
    split at stepped
    · split at stepped
      · cases stepped
        exact ⟨dropped, balanced.schedulerPlain stands (Or.inl rfl) rfl rfl rfl
          rfl rfl rfl rfl (Nat.le_refl _)⟩
      · cases stepped
        exact ⟨dropped, balanced.schedulerPlain stands (Or.inl rfl) rfl rfl rfl
          rfl rfl rfl rfl (Nat.le_refl _)⟩
    · cases stepped
  · rename_i authId outcome stands
    cases stepped
    exact ⟨dropped, balanced.schedulerPlain stands (Or.inr (Or.inr rfl)) rfl
      rfl rfl rfl rfl rfl rfl (Nat.le_refl _)⟩
  · rename_i authId outcome stands
    cases stepped
    exact ⟨dropped, balanced.schedulerPlain stands (Or.inl rfl) rfl rfl rfl
      rfl rfl rfl rfl (Nat.le_refl _)⟩
  · rename_i authId frame stands
    split at stepped
    · cases stepped
      exact ⟨dropped, balanced.schedulerPlain stands (Or.inl rfl) rfl rfl rfl
        rfl rfl rfl rfl (Nat.zero_le _)⟩
    · split at stepped
      · cases stepped
        exact ⟨dropped, balanced.schedulerPlain stands (Or.inl rfl) rfl rfl rfl
          rfl rfl rfl rfl (Nat.le_refl _)⟩
      · cases stepped
  · rename_i stands
    split at stepped
    · cases stepped
      exact ⟨dropped, balanced.schedulerPlain stands (Or.inl rfl) rfl rfl rfl
        rfl rfl rfl rfl (Nat.le_refl _)⟩
    · cases stepped
      exact ⟨dropped, balanced.schedulerPlain stands (Or.inl rfl) rfl rfl rfl
        rfl rfl rfl rfl (Nat.zero_le _)⟩
    · cases stepped
  · rename_i stands
    cases stepped
    have windowClosed : s.reader.uncounted = 0 :=
      uncounted_of_ne (counts (Or.inl stands))
    simp only [State.openRetries, stands, SchedulerPc.handling,
      SchedulerPc.dozing, windowClosed] at pending
    refine ⟨dropped, balanced.move (FlagsFrom.refl s.table) id ?_ ?_ ?_⟩
    · intro other entry live isFlagged listed
      simp only [State.trackedRetries, stands, SchedulerPc.dozing,
        SchedulerPc.looking] at listed ⊢
      exact listed
    · simp only [FlowAuthStats.recordRetrySent]
      omega
    · simp only [State.openRetries, FlowAuthStats.recordRetrySent,
        SchedulerPc.handling, SchedulerPc.dozing, windowClosed]
      omega
  · rename_i stands
    cases stepped
    have begun := balanced.beginShutdown .scheduler
    have stillStands : (s.beginShutdown .scheduler).scheduler = .writeFailed := by
      unfold State.beginShutdown
      split
      · exact stands
      · exact stands
    exact ⟨dropped, begun.schedulerPlain stillStands (Or.inl rfl) rfl rfl rfl
      rfl rfl rfl rfl (Nat.le_refl _)⟩
  · rename_i stands
    split at stepped
    · cases stepped
    · cases stepped
      exact ⟨dropped, balanced.schedulerPlain stands (Or.inl rfl) rfl rfl rfl
        rfl rfl rfl rfl (Nat.le_refl _)⟩
  · cases stepped

/-! ### Shutdown, frames and the other tasks -/

/-- Before `shutdown` has cleared the table. -/
private theorem shutdownMove (balanced : Balanced refused dropped s)
    {phase : ShutdownPhase} (stands : s.shutdown = phase)
    (uncleared : phase.cleared = false)
    (books : s'.retryBooks = s.retryBooks) (table : s'.table = s.table)
    (uncleared' : s'.shutdown.cleared = false) :
    Balanced refused dropped s' := by
  refine balanced.same ?_ books ?_ ?_
  · rw [table]
    exact FlagsFrom.refl s.table
  · rw [uncleared', stands, uncleared]
  · rw [cancelling_of_uncleared uncleared', stands,
      cancelling_of_uncleared uncleared]

theorem shutdown (balanced : Balanced refused dropped s)
    (sound : Sound s.ledger) (counts : CountsOnce s .shutdown)
    (stepped : s.advanceShutdown = some s') : Balanced refused dropped s' := by
  have counted := balanced.counted
  have pending := balanced.pending
  unfold State.advanceShutdown at stepped
  split at stepped
  · cases stepped
  · rename_i stands
    cases stepped
    exact balanced.shutdownMove stands rfl rfl rfl rfl
  · rename_i stands
    split at stepped
    · cases stepped
      exact balanced.shutdownMove stands rfl rfl rfl rfl
    · cases stepped
  · rename_i stands
    split at stepped
    · cases stepped
      have atMost :
          s.table.scheduledRetries ≤
            s.retryQueue.length + s.scheduler.dozing.length +
              dropped.length := by
        rcases counts.1 stands with none_ | ⟨noLookup, notQueueing⟩
        · rw [none_]
          exact Nat.zero_le _
        · have covered :=
            ConntrackTable.scheduledRetries_le sound.wellFormed
              fun authId entry live isFlagged =>
                (balanced.flagged authId entry live isFlagged).2
                  (by rw [stands]; rfl)
          simp only [State.trackedRetries, noLookup, notQueueing,
            List.length_append, List.length_map, List.length_nil] at covered
          exact covered.trans (by omega)
      simp only [State.openRetries, stands, ShutdownPhase.cancelling,
        ShutdownPhase.cleared, Bool.false_eq_true, if_false] at pending
      refine balanced.move (FlagsFrom.aged (Evolves.clear s.table)) ?_ ?_
        counted ?_
      · intro impossible
        cases impossible
      · intro other entry live
        simp at live
      · simp only [State.openRetries, ShutdownPhase.cancelling,
          ShutdownPhase.cleared, if_true]
        omega
    · cases stepped
  · rename_i cancelled stands
    cases stepped
    simp only [State.openRetries, stands, ShutdownPhase.cancelling,
      ShutdownPhase.cleared, if_true] at pending
    have inBooks :
        s.stats.wireRetriesSent + (s.stats.wireRetriesCancelled + cancelled) ≤
          s.stats.wireRetriesScheduled + refused := by
      rcases counts.2 with none_ | other
      · rw [stands] at none_
        cases none_
        exact counted
      · rw [uncounted_of_ne other] at pending
        omega
    refine balanced.move (FlagsFrom.refl s.table) ?_ ?_ inBooks ?_
    · intro impossible
      cases impossible
    · intro other entry live isFlagged listed
      exact listed
    · simp only [State.openRetries, FlowAuthStats.cancelRetries,
        ShutdownPhase.cancelling, ShutdownPhase.cleared, if_true]
      omega
  · rename_i stands
    cases stepped
    refine balanced.same (FlagsFrom.refl s.table) rfl ?_ ?_
    · rw [stands]
      rfl
    · rw [stands]
      rfl
  · cases stepped

theorem scheduleRetry_outcome (entry : ConntrackEntry) (budget : Nat) :
    (entry.scheduleRetry budget).1.outcome = entry.outcome := by
  unfold ConntrackEntry.scheduleRetry
  split <;> rfl

/-- The reader flags an open entry and takes its retry to the queue. -/
theorem flag {cfg : SessionConfig} {authId delay : Nat}
    {entry : ConntrackEntry} (balanced : Balanced refused dropped s)
    (wf : s.table.WellFormed) (idle : s.reader = .idle)
    (live : s.table.getByAuthId authId = some entry)
    (unsettled : entry.outcome = none) :
    Balanced refused dropped
      { s with
        table :=
          s.table.modifyByAuthId authId fun stored =>
            (stored.scheduleRetry cfg.retry.maxWireRetriesPerFlow).1
        reader :=
          if (entry.scheduleRetry cfg.retry.maxWireRetriesPerFlow).2
          then .queueRetry authId delay
          else .idle } := by
  have pending := balanced.pending
  simp only [State.openRetries, idle, ReaderPc.cancelling,
    ReaderPc.uncounted] at pending
  have identity :=
    ConntrackTable.keepsIdentity_scheduleRetry cfg.retry.maxWireRetriesPerFlow
  by_cases accepted :
      (entry.scheduleRetry cfg.retry.maxWireRetriesPerFlow).2 = true
  · refine ⟨balanced.counted, ?_, ?_⟩
    · simp only [State.openRetries, accepted, if_true, ReaderPc.cancelling,
        ReaderPc.uncounted]
      exact pending
    · intro other changed changedLive isFlagged
      rw [ConntrackTable.getByAuthId_modifyByAuthId wf identity]
        at changedLive
      simp only [State.trackedRetries, accepted, if_true, ReaderPc.queueing]
      split at changedLive
      · rename_i same
        rw [live] at changedLive
        cases changedLive
        constructor
        · rw [scheduleRetry_outcome]
          exact unsettled
        · intro _
          simp [same]
      · obtain ⟨stillOpen, listed⟩ :=
          balanced.flagged other changed changedLive isFlagged
        refine ⟨stillOpen, ?_⟩
        intro uncleared
        have listed' := listed uncleared
        simp only [State.trackedRetries, idle, ReaderPc.queueing,
          List.mem_append] at listed' ⊢
        tauto
  · have rejected :
        (entry.scheduleRetry cfg.retry.maxWireRetriesPerFlow).1 = entry := by
      unfold ConntrackEntry.scheduleRetry at accepted ⊢
      split
      · rfl
      · rename_i open_
        rw [if_neg open_] at accepted
        exact absurd rfl accepted
    refine ⟨balanced.counted, ?_, ?_⟩
    · simp only [State.openRetries, accepted, ReaderPc.cancelling,
        ReaderPc.uncounted]
      exact pending
    · intro other changed changedLive isFlagged
      rw [ConntrackTable.getByAuthId_modifyByAuthId wf identity]
        at changedLive
      have former : s.table.getByAuthId other = some changed := by
        split at changedLive
        · rename_i same
          rw [live, Option.map_some, rejected] at changedLive
          rw [same, live]
          exact changedLive
        · exact changedLive
      have old := balanced.flagged other changed former isFlagged
      simp only [State.trackedRetries, idle] at old
      simp only [State.trackedRetries, accepted]
      exact old

theorem countTransient (balanced : Balanced refused dropped s) :
    Balanced refused dropped s.countTransient :=
  balanced.same (FlagsFrom.refl s.table) rfl rfl rfl

theorem dispatchTransient {cfg : SessionConfig} {delay : Nat} {json : Bytes}
    (balanced : Balanced refused dropped s) (wf : s.table.WellFormed)
    (idle : s.reader = .idle) :
    Balanced refused dropped (s.dispatchTransient cfg delay json) := by
  have holdsNone : s.reader.HoldsNone := by
    rw [idle]
    exact ⟨rfl, rfl, rfl⟩
  unfold State.dispatchTransient
  split
  · exact balanced
  · simp only
    split
    · exact balanced
    · split
      · exact balanced
      · rename_i response _ _ entry live
        split
        · exact balanced
        · rename_i unsettled
          split
          · exact balanced.readerPlain (FlagsFrom.complete wf _ _) rfl rfl rfl
              rfl rfl rfl holdsNone ⟨rfl, rfl, rfl⟩
          · exact balanced.flag wf idle live
              (by simpa using (Bool.or_eq_false_iff.mp
                (Bool.eq_false_iff.mpr unsettled)).1)

theorem dispatchSettled {cfg : SessionConfig} {status : UInt8} {json : Bytes}
    (balanced : Balanced refused dropped s) (wf : s.table.WellFormed)
    (idle : s.reader = .idle) :
    Balanced refused dropped (s.dispatchSettled cfg status json) := by
  have holdsNone : s.reader.HoldsNone := by
    rw [idle]
    exact ⟨rfl, rfl, rfl⟩
  unfold State.dispatchSettled
  split
  · exact balanced
  · rename_i table authId applied
    obtain ⟨entry, outcome, -, rfl, -⟩ := applyAuthWireStatus_ok applied
    have flags := FlagsFrom.complete wf authId outcome
    split
    · exact balanced.same flags rfl rfl rfl
    · exact balanced.readerPlain flags rfl rfl rfl rfl rfl rfl holdsNone
        ⟨rfl, rfl, rfl⟩

theorem receive {cfg : SessionConfig} {frame : Inbound}
    (balanced : Balanced refused dropped s) (wf : s.table.WellFormed)
    (idle : s.reader = .idle) (stepped : s.dispatch cfg frame = some s') :
    Balanced refused dropped s' := by
  have holdsNone : s.reader.HoldsNone := by
    rw [idle]
    exact ⟨rfl, rfl, rfl⟩
  unfold State.dispatch at stepped
  split at stepped
  · split at stepped
    · cases stepped
      unfold State.dispatchAuth
      split
      · split
        · exact balanced.countTransient.dispatchTransient wf idle
        · exact balanced.countTransient.dispatchSettled wf idle
      · split
        · exact balanced.countTransient.dispatchTransient wf idle
        · exact balanced.countTransient.dispatchSettled wf idle
      · exact balanced.dispatchSettled wf idle
    · cases stepped
  · split at stepped
    · cases stepped
      exact balanced
    · split at stepped
      · cases stepped
        exact balanced
      · cases stepped
        unfold State.applyVipUpdate
        split
        · exact balanced
        · exact balanced.readerPlain (FlagsFrom.refl s.table) rfl rfl rfl rfl
            rfl rfl holdsNone ⟨rfl, rfl, rfl⟩
  · cases stepped
    exact balanced.readerPlain (FlagsFrom.refl s.table) rfl rfl rfl rfl rfl rfl
      holdsNone ⟨rfl, rfl, rfl⟩
  · cases stepped
    exact balanced.readerPlain (FlagsFrom.refl s.table) rfl rfl rfl rfl rfl rfl
      holdsNone ⟨rfl, rfl, rfl⟩
  · cases stepped
    exact balanced

theorem acknowledge (balanced : Balanced refused dropped s)
    (target : AckTarget) (ack : Ack) :
    Balanced refused dropped (s.acknowledge target ack) := by
  cases target with
  | nobody => exact balanced
  | caller c => exact balanced.same (FlagsFrom.refl s.table) rfl rfl rfl
  | scheduler => exact balanced.same (FlagsFrom.refl s.table) rfl rfl rfl

theorem failFrames (balanced : Balanced refused dropped s)
    (frames : List OutboundFrame) :
    Balanced refused dropped (s.failFrames frames) := by
  unfold State.failFrames
  induction frames generalizing s with
  | nil => exact balanced
  | cons frame later inductionHypothesis =>
      exact inductionHypothesis (balanced.acknowledge frame.written .failed)

theorem writer {result : WriteResult}
    (balanced : Balanced refused dropped s)
    (stepped : s.advanceWriter result = some s') :
    Balanced refused dropped s' := by
  have moved :
      ∀ (t : State) (queue wire : List OutboundFrame) (position : WriterPc),
        Balanced refused dropped t →
        Balanced refused dropped
          { t with queue := queue, wire := wire, writer := position } := by
    intro t queue wire position held
    exact held.same (FlagsFrom.refl t.table) rfl rfl rfl
  unfold State.advanceWriter at stepped
  split at stepped
  · split at stepped
    · cases stepped
      exact moved s _ _ _ balanced
    · split at stepped
      · cases stepped
      · cases stepped
        exact moved s _ _ _ balanced
  · split at stepped
    · cases stepped
      exact moved s _ _ _ balanced
    · split at stepped
      · cases stepped
        exact moved _ _ _ _ (balanced.acknowledge _ .written)
      · cases stepped
        exact moved _ _ _ _ (balanced.acknowledge _ .failed)
      · cases stepped
        exact moved s _ _ _ balanced
  · cases stepped
    exact moved _ _ _ _ (balanced.beginShutdown .writer)
  · cases stepped
    exact moved _ _ _ _ (balanced.beginShutdown .writer)
  · split at stepped
    · cases stepped
    · cases stepped
      exact moved _ _ _ _ (balanced.failFrames _)
  · cases stepped

/-- One step that meets the condition keeps the books balanced. -/
theorem next {cfg : SessionConfig} {action : Action}
    (balanced : Balanced refused dropped s) (sound : Sound s.ledger)
    (counts : CountsOnce s action)
    (stepped : L3.next cfg s action = some s') :
    ∃ dropped',
      Balanced (refused + (refusals s action).length) dropped' s' := by
  have byCaller :
      ∀ {c : Nat} {request : AuthRequest} {phase : CallerPhase},
        s.ledger.InPhase c request phase →
        CallerStep cfg s c request action phase s' →
        Balanced refused dropped s' :=
    fun present step => balanced.callerStep sound present step
  cases action with
  | authorizeFlow c request =>
      simp only [L3.next] at stepped
      split at stepped
      · cases stepped
        exact ⟨dropped, balanced.same (FlagsFrom.refl s.table) rfl rfl rfl⟩
      · cases stepped
  | advance c order =>
      obtain ⟨⟨request, phase⟩, present, moved⟩ :=
        Option.bind_eq_some_iff.mp stepped
      exact ⟨dropped, byCaller present (callerStep_of_advanceCaller moved)⟩
  | expire c =>
      obtain ⟨⟨request, phase⟩, present, moved⟩ :=
        Option.bind_eq_some_iff.mp stepped
      exact ⟨dropped, byCaller present (callerStep_of_expire moved)⟩
  | cancel c =>
      obtain ⟨⟨request, phase⟩, present, moved⟩ :=
        Option.bind_eq_some_iff.mp stepped
      exact ⟨dropped, byCaller present (callerStep_of_cancel moved)⟩
  | receive frame =>
      simp only [L3.next] at stepped
      split at stepped
      · rename_i idle
        exact ⟨dropped, balanced.receive sound.wellFormed idle stepped⟩
      · cases stepped
  | reader => exact ⟨dropped, balanced.reader sound counts stepped⟩
  | readerStop =>
      simp only [L3.next] at stepped
      split at stepped
      · rename_i idle
        cases stepped
        have begun := balanced.beginShutdown .reader
        have stillIdle : (s.beginShutdown .reader).reader = .idle := by
          unfold State.beginShutdown
          split
          · exact idle
          · exact idle
        exact ⟨dropped, begun.readerPlain (FlagsFrom.refl _) rfl rfl rfl rfl
          rfl rfl (by rw [stillIdle]; exact ⟨rfl, rfl, rfl⟩) ⟨rfl, rfl, rfl⟩⟩
      · cases stepped
  | scheduler => exact balanced.scheduler sound counts stepped
  | writer result => exact ⟨dropped, balanced.writer stepped⟩
  | close =>
      cases stepped
      exact ⟨dropped, balanced.beginShutdown .other⟩
  | shutdown => exact ⟨dropped, balanced.shutdown sound counts stepped⟩
  | subscribeFlow flow =>
      simp only [L3.next] at stepped
      split at stepped
      · cases stepped
        split
        · exact ⟨dropped, balanced⟩
        · exact ⟨dropped, balanced.same (FlagsFrom.refl s.table) rfl rfl rfl⟩
      · cases stepped
  | subscriber =>
      simp only [L3.next, State.advanceSubscriber] at stepped
      split at stepped
      · cases stepped
      · split at stepped
        · cases stepped
          exact ⟨dropped, balanced.same (FlagsFrom.refl s.table) rfl rfl rfl⟩
        · cases stepped
          exact ⟨dropped, balanced.same (FlagsFrom.refl s.table) rfl rfl rfl⟩
      · split at stepped
        · cases stepped
          exact ⟨dropped, balanced.same (FlagsFrom.refl s.table) rfl rfl rfl⟩
        · cases stepped
          exact ⟨dropped, balanced.same (FlagsFrom.refl s.table) rfl rfl rfl⟩
  | dropFlowPackets key id =>
      simp only [L3.next] at stepped
      split at stepped
      · cases stepped
        split
        · exact ⟨dropped, balanced.same (FlagsFrom.refl s.table) rfl rfl rfl⟩
        · exact ⟨dropped, balanced⟩
      · cases stepped
  | enqueueOther bytes =>
      simp only [L3.next] at stepped
      split at stepped
      · cases stepped
        exact ⟨dropped, balanced.same (FlagsFrom.refl s.table) rfl rfl rfl⟩
      · cases stepped
  | tick duration =>
      cases stepped
      exact ⟨dropped, balanced.same (FlagsFrom.refl s.table) rfl rfl rfl⟩

theorem initial (vip : Ipv4Addr) (now : Nat) :
    Balanced 0 [] (State.initial vip now) where
  counted := Nat.le_refl _
  pending := Nat.le_refl _
  flagged authId entry live := by
    simp [State.initial, ConntrackTable.new, ConntrackTable.withLimits,
      ConntrackTable.getByAuthId, AList.lookup_empty] at live

end Balanced

/-- In every run in which a retry that a clear has counted as cancelled is not
taken up again, and nothing is counted between the queueing of a retry and its
own count, the retries counted as sent or cancelled are covered by those counted
as scheduled and those that found no place in the queue; and once the last
queued retry has been counted, so are those that are still open. -/
theorem retries_counted_once (cfg : SessionConfig) (vip : Ipv4Addr)
    (now : Nat) (actions : List Action) (s : State)
    (once :
      Concurrency.Meets (next cfg) CountsOnce (State.initial vip now) actions)
    (ran :
      Concurrency.run (next cfg) (State.initial vip now) actions = some s) :
    s.stats.wireRetriesSent + s.stats.wireRetriesCancelled ≤
        s.stats.wireRetriesScheduled +
          (Concurrency.observed (next cfg) refusals (State.initial vip now)
            actions).length ∧
      (s.reader ≠ .retryQueued →
        s.stats.wireRetriesSent + s.stats.wireRetriesCancelled +
            s.openRetries [] ≤
          s.stats.wireRetriesScheduled +
            (Concurrency.observed (next cfg) refusals (State.initial vip now)
              actions).length) := by
  have books :
      Sound s.ledger ∧ ∃ dropped,
        Balanced
          (Concurrency.observed (next cfg) refusals (State.initial vip now)
            actions).length dropped s := by
    refine Concurrency.invariant_of_observed
      (fun events t =>
        Sound t.ledger ∧ ∃ dropped, Balanced events.length dropped t)
      ⟨Sound.initial vip now, [], Balanced.initial vip now⟩ ?_ once ran
    intro events t action after holds counts stepped
    obtain ⟨sound, dropped, balanced⟩ := holds
    refine ⟨sound.next stepped, ?_⟩
    rw [List.length_append]
    exact balanced.next sound counts stepped
  obtain ⟨-, dropped, balanced⟩ := books
  refine ⟨balanced.counted, ?_⟩
  intro other
  have pending := balanced.pending
  rw [uncounted_of_ne other] at pending
  have fewer : s.openRetries [] ≤ s.openRetries dropped := by
    unfold State.openRetries
    split
    · exact Nat.le_refl _
    · exact Nat.add_le_add_left (Nat.add_le_add_left (Nat.zero_le _) _) _
  omega

namespace Sample

/-- A busy answer after the first request; the reader queues a retry and counts
it, and the scheduler takes the job. -/
def busyAnswer (status : UInt8) : List Action :=
  firstCall ++ [.receive (.auth status busyJson), .reader, .reader, .scheduler]

end Sample

/-- A retry that is scheduled and sent. -/
theorem retries_counted_once_sent :
    ∃ s, Concurrency.run (next (Sample.config ⟨true, 1, 0, l3AuthTimeout⟩))
        (State.initial Sample.vip 0)
        (Sample.busyAnswer 0x84 ++ List.replicate 3 .scheduler ++
          [.writer .written, .writer .written, .scheduler, .scheduler]) =
          some s ∧
      s.stats.wireRetriesSent = 1 ∧
      s.stats.wireRetriesSent + s.stats.wireRetriesCancelled ≤
        s.stats.wireRetriesScheduled +
          (Concurrency.observed
            (next (Sample.config ⟨true, 1, 0, l3AuthTimeout⟩)) refusals
            (State.initial Sample.vip 0)
            (Sample.busyAnswer 0x84 ++ List.replicate 3 .scheduler ++
              [.writer .written, .writer .written, .scheduler,
                .scheduler])).length := by
  apply Concurrency.exists_of_view (·.stats.wireRetriesSent) 1
  · decide +kernel
  · intro s ran isOne
    have counted := retries_counted_once _ _ _ _ s (by decide +kernel) ran
    exact ⟨isOne, counted.1⟩

/-- An address update counts the delayed retry as cancelled, and so does the
scheduler when it wakes up: one retry scheduled, two cancelled. -/
theorem vip_change_cancels_retry_twice :
    (Concurrency.run (next (Sample.config ⟨true, 1, second, l3AuthTimeout⟩))
        (State.initial Sample.vip 0)
        (Sample.busyAnswer 0x85 ++
          .receive (.vipUpdate 0 Sample.vipJson) :: List.replicate 5 .reader ++
          [.tick second, .scheduler, .scheduler])).map
        (fun s => (s.stats.wireRetriesScheduled, s.stats.wireRetriesSent,
          s.stats.wireRetriesCancelled)) = some (1, 0, 2) ∧
      Concurrency.observed
        (next (Sample.config ⟨true, 1, second, l3AuthTimeout⟩)) refusals
        (State.initial Sample.vip 0)
        (Sample.busyAnswer 0x85 ++
          .receive (.vipUpdate 0 Sample.vipJson) :: List.replicate 5 .reader ++
          [.tick second, .scheduler, .scheduler]) = [] := by
  decide +kernel

end HermesAtrust.L3
