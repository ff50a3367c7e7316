import HermesAtrust.L3.SessionAttempts
import HermesAtrust.L3.SessionRetries

/-!
# The settlements in the statistics

An attempt is recorded when its first `0x13` has been written, and it is over
when its entry leaves the table or gets an outcome.  The task that ends it owes
the statistics one settlement.  `Accounted` splits the recorded ids into those
that have been settled or cancelled, those that a task still owes, and those in
flight.  The split survives every step that meets `Orderly`: an attempt is ended
only while its sender waits for the answer, and by one task.
-/

namespace HermesAtrust.L3

open HermesAtrust.Framing HermesAtrust.Protocol HermesAtrust.Collections

/-! ## Where attempts stand -/

/-- How far a caller has come with the counters of its attempt: the request is
not recorded, it is recorded and the timer has not fired, the timer has fired
and the entry is not evicted, or the timeout of an evicted entry is not
counted. -/
inductive Progress where
  | unrecorded
  | waiting
  | expiring
  | owing
  | done
  deriving DecidableEq, Repr

def Attempt.progress (attempt : Attempt) : Progress :=
  match attempt.stage with
  | .build | .storeFrame _ | .openWrite _ | .enqueue _ | .awaitWrite
  | .recordSent | .abandonEvict (.buildFailed _)
  | .abandonEvict .writeFailed => .unrecorded
  | .arm | .await _ => .waiting
  | .abandonEvict .timedOut => .expiring
  | .abandonRemove .timedOut => if attempt.mustSend then .owing else .done
  | .settleTimeout => .owing
  | _ => .done

theorem Attempt.Alike.progress {attempt changed : Attempt}
    (alike : attempt.Alike changed) : changed.progress = attempt.progress := by
  unfold Attempt.progress
  rw [alike.stage, alike.mustSend]

/-- The auth id of a settlement that the reader is about to count. -/
def ReaderPc.owed : ReaderPc → List Nat
  | .settle authId _ => [authId]
  | _ => []

/-- The auth id of a settlement that the scheduler is about to count. -/
def SchedulerPc.owed : SchedulerPc → List Nat
  | .outcome authId | .settle authId _ => [authId]
  | _ => []

/-- The reader applies an address update. -/
def ReaderPc.updating : ReaderPc → Bool
  | .vipClear | .vipCount _ | .vipDrain | .vipReset | .vipUnsubscribe => true
  | _ => false

theorem ReaderPc.owed_of_plain {position : ReaderPc}
    (plain : position.plain = true) : position.owed = [] := by
  cases position with
  | settle authId outcome => cases plain
  | _ => rfl

theorem SchedulerPc.owed_of_plain {position : SchedulerPc}
    (plain : position.plain = true) : position.owed = [] := by
  cases position with
  | outcome authId => cases plain
  | settle authId outcome => cases plain
  | _ => rfl

/-- The request of the id is on the wire, and its sender waits for the answer
or has been dropped while it waited. -/
def State.Awaited (s : State) (authId : Nat) : Prop :=
  s.Sent authId ∧ ∃ c request attempt,
    s.callers c = some ⟨request, .attempting attempt⟩ ∧
      attempt.authId = authId ∧ attempt.mustSend = true ∧
      (attempt.progress = .waiting ∨ attempt.stage = .cancelled)

/-- The entry under the flow of the request that belongs to another resource,
after maintenance. -/
def State.replaced (s : State) (order : IterationOrder ConntrackEntry)
    (request : AuthRequest) : Option ConntrackEntry :=
  ((s.table.maintainForFlow order request.key s.now).1.getByKey
    request.key).filter
      (ConntrackTable.foreign request.appId request.nodeGroupId)

/-- The auth id that the body of a `0x93` names. -/
def SessionConfig.named (cfg : SessionConfig) (json : Bytes) : Option Nat :=
  match parseL3AuthResponse cfg.codec json with
  | .error _ => none
  | .ok response => some response.conntrackHash

/-- A status that is answered by a wire retry and not by a settlement. -/
def SessionConfig.retries (cfg : SessionConfig) (status : UInt8) : Bool :=
  cfg.retry.enabled && (classifyAuthWireStatus status).transient

/-! ## The condition on steps -/

/-- A `0x93` that settles an attempt comes once, and while its sender waits. -/
def OrderlyAnswer (cfg : SessionConfig) (s : State) (status : UInt8)
    (json : Bytes) : Prop :=
  ∀ authId entry, cfg.named json = some authId →
    s.table.getByAuthId authId = some entry →
    (cfg.retries status = false → entry.outcome = none ∧ s.Awaited authId) ∧
      (cfg.retries status = true → entry.outcome = none →
        entry.retryScheduled = false →
        entry.retryExhausted cfg.retry.maxWireRetriesPerFlow = true →
        s.Awaited authId)

/-- The scheduler wakes up for an attempt whose retry is still flagged, ends it
only while its sender waits, and finds the outcome it has set. -/
def OrderlyRetry (s : State) : Prop :=
  (∀ authId entry, s.scheduler = .lookup authId →
    s.table.getByAuthId authId = some entry →
    entry.retryScheduled = true ∧
      (entry.authDeadline.any (fun deadline => decide (deadline ≤ s.now)) =
        true → s.Awaited authId)) ∧
  (∀ authId, s.scheduler = .outcome authId →
    (s.table.getByAuthId authId).bind (·.outcome) ≠ none) ∧
  s.scheduler ≠ .writeFailed

/-- The step ends an attempt only while its sender waits for the answer, and
only if no other task has ended it: an answer, a replacement or a deadline
comes neither before the request is recorded nor after the timer of the sender
has fired, an answer comes once, the scheduler does not wake up for an attempt
that has been answered, only the sender times out while the attempt is open,
and no sender is dropped between the queueing and the recording of its request.
The session stays open and keeps its address. -/
def Orderly (cfg : SessionConfig) (s : State) : Action → Prop
  | .receive (.auth status json) => OrderlyAnswer cfg s status json
  | .receive (.vipUpdate status json) =>
      status = 0 → ∀ vip, cfg.firstIpv4InJson json = some vip → s.vip = vip
  | .advance c order =>
      ∀ request old, s.callers c = some ⟨request, .claim⟩ →
        s.replaced order request = some old → old.authInFlight = true →
        s.Awaited old.authId
  | .expire c =>
      ∀ request attempt, s.callers c = some ⟨request, .attempting attempt⟩ →
        (attempt.mustSend = true ↔ s.table.Flying attempt.authId)
  | .cancel c =>
      ∀ request attempt, s.callers c = some ⟨request, .attempting attempt⟩ →
        attempt.stage ≠ .awaitWrite
  | .reader =>
      ∀ authId entry, s.reader = .failRetry authId →
        s.table.getByAuthId authId = some entry →
        entry.outcome = none ∧ s.Awaited authId
  | .scheduler => OrderlyRetry s
  | .writer _ => s.writer ≠ .failing ∧ ∀ frame, s.writer ≠ .timedOut frame
  | .close | .readerStop => False
  | _ => True

/-! ## What is observed -/

inductive AuthEvent where
  | recorded (authId : Nat)
  | settled (authId : Nat)
  | cancelled (authId : Nat)
  deriving DecidableEq, Repr

namespace AuthEvent

def recordedIds (events : List AuthEvent) : List Nat :=
  events.filterMap fun
    | .recorded authId => some authId
    | _ => none

def settledIds (events : List AuthEvent) : List Nat :=
  events.filterMap fun
    | .settled authId => some authId
    | _ => none

def cancelledIds (events : List AuthEvent) : List Nat :=
  events.filterMap fun
    | .cancelled authId => some authId
    | _ => none

end AuthEvent

/-- The attempts that a step records, settles in the statistics, or cancels
because their flow has changed its resource. -/
def authEvents (s : State) : Action → List AuthEvent
  | .advance c order =>
      match s.callers c with
      | some ⟨request, .claim⟩ =>
          match s.replaced order request with
          | some old => if old.authInFlight then [.cancelled old.authId] else []
          | none => []
      | some ⟨_, .attempting attempt⟩ =>
          match attempt.stage with
          | .recordSent => [.recorded attempt.authId]
          | .settleTimeout => [.settled attempt.authId]
          | _ => []
      | _ => []
  | .reader => s.reader.owed.map .settled
  | .scheduler =>
      match s.scheduler with
      | .settle authId _ => [.settled authId]
      | _ => []
  | _ => []

theorem authEvents_attempting {s : State} {c : Nat} {request : AuthRequest}
    {attempt : Attempt} (order : IterationOrder ConntrackEntry)
    (present : s.ledger.Attempting c request attempt) :
    authEvents s (.advance c order) =
      match attempt.stage with
      | .recordSent => [.recorded attempt.authId]
      | .settleTimeout => [.settled attempt.authId]
      | _ => [] := by
  have stands : s.callers c = some ⟨request, .attempting attempt⟩ := present
  simp only [authEvents, stands]

theorem authEvents_claim {s : State} {c : Nat} {request : AuthRequest}
    (order : IterationOrder ConntrackEntry)
    (present : s.ledger.InPhase c request .claim) :
    authEvents s (.advance c order) =
      match s.replaced order request with
      | some old => if old.authInFlight then [.cancelled old.authId] else []
      | none => [] := by
  have stands : s.callers c = some ⟨request, .claim⟩ := present
  simp only [authEvents, stands]

/-! ## The split of the recorded ids -/

/-- What the attempt of a caller says about its id. -/
structure Attempt.Placed (recorded : List Nat) (table : ConntrackTable)
    (attempt : Attempt) : Prop where
  unrecorded :
    attempt.progress = .unrecorded →
      attempt.mustSend = true ∧ attempt.authId ∉ recorded ∧
        table.Flying attempt.authId
  waiting :
    attempt.progress = .waiting → attempt.mustSend = true →
      attempt.authId ∈ recorded
  expiring :
    attempt.progress = .expiring →
      (attempt.mustSend = true → attempt.authId ∈ recorded) ∧
        (attempt.mustSend = true ↔ table.Flying attempt.authId)
  owing : attempt.progress = .owing → attempt.mustSend = true

namespace Ledger

/-- A caller of the id has come this far. -/
def Holds (l : Ledger) (progress : Progress) (authId : Nat) : Prop :=
  ∃ c request attempt, l.Attempting c request attempt ∧
    attempt.progress = progress ∧ attempt.authId = authId

/-- The first `0x13` of the id is queued or has been taken by the writer. -/
def Asked (l : Ledger) (authId : Nat) : Prop :=
  FrameOrigin.request authId ∈ l.side.frames.map (·.origin)

/-- The first `0x13` of the id has been taken by the writer. -/
def Sent (l : Ledger) (authId : Nat) : Prop :=
  FrameOrigin.request authId ∈ l.side.wire.map (·.origin)

theorem Sent.asked {l : Ledger} {authId : Nat} (sent : l.Sent authId) :
    l.Asked authId := by
  unfold Asked Periphery.frames
  rw [List.map_append]
  exact List.mem_append_right _ sent

end Ledger

open Classical in
/-- `1` if the statement holds. -/
noncomputable def indicator (p : Prop) : Nat :=
  if p then 1 else 0

theorem indicator_of {p : Prop} (holds : p) : indicator p = 1 :=
  if_pos holds

theorem indicator_of_not {p : Prop} (fails : ¬ p) : indicator p = 0 :=
  if_neg fails

/-- Each recorded id has been settled or cancelled once, is owed by one task, or
is in flight. -/
structure Accounted (recorded settled cancelled : List Nat) (l : Ledger) :
    Prop where
  distinct : recorded.Nodup
  assigned : ∀ authId ∈ recorded, authId ≤ l.table.nextAuthId
  sent : ∀ authId ∈ recorded, l.Sent authId
  placed :
    ∀ c request attempt, l.Attempting c request attempt →
      attempt.Placed recorded l.table
  queued :
    ∀ authId, l.table.Flying authId → l.Asked authId →
      authId ∈ recorded ∨ l.Holds .unrecorded authId
  balance :
    ∀ authId,
      settled.count authId + cancelled.count authId +
            l.reader.owed.count authId + l.scheduler.owed.count authId +
          indicator (l.Holds .owing authId) +
          indicator (l.table.Flying authId ∧ authId ∈ recorded) =
        recorded.count authId

/-! ## Attempts that are not ended -/

theorem Attempt.Placed.carry {recorded later : List Nat}
    {table after : ConntrackTable} {attempt changed : Attempt}
    (placed : attempt.Placed recorded table)
    (authId : changed.authId = attempt.authId)
    (mustSend : changed.mustSend = attempt.mustSend)
    (progress :
      changed.progress = attempt.progress ∨ changed.progress = .done)
    (grows : ∀ id ∈ recorded, id ∈ later)
    (fresh : attempt.progress = .unrecorded → attempt.authId ∉ later)
    (flying :
      attempt.progress = .unrecorded ∨ attempt.progress = .expiring →
        (after.Flying attempt.authId ↔ table.Flying attempt.authId)) :
    changed.Placed later after := by
  rcases progress with same | finished
  · refine ⟨?_, ?_, ?_, ?_⟩
    · intro stands
      have before := same.symm.trans stands
      obtain ⟨licensed, -, flies⟩ := placed.unrecorded before
      rw [authId, mustSend]
      exact ⟨licensed, fresh before, (flying (Or.inl before)).mpr flies⟩
    · intro stands licensed
      rw [authId]
      rw [mustSend] at licensed
      exact grows _ (placed.waiting (same.symm.trans stands) licensed)
    · intro stands
      have before := same.symm.trans stands
      obtain ⟨listed, decides⟩ := placed.expiring before
      rw [authId, mustSend]
      exact ⟨fun licensed => grows _ (listed licensed),
        decides.trans (flying (Or.inr before)).symm⟩
    · intro stands
      rw [mustSend]
      exact placed.owing (same.symm.trans stands)
  · refine ⟨?_, ?_, ?_, ?_⟩
    · intro impossible
      cases finished.symm.trans impossible
    · intro impossible
      cases finished.symm.trans impossible
    · intro impossible
      cases finished.symm.trans impossible
    · intro impossible
      cases finished.symm.trans impossible

theorem Attempt.Placed.alike {recorded later : List Nat}
    {table after : ConntrackTable} {attempt changed : Attempt}
    (placed : attempt.Placed recorded table) (alike : attempt.Alike changed)
    (grows : ∀ id ∈ recorded, id ∈ later)
    (fresh : attempt.progress = .unrecorded → attempt.authId ∉ later)
    (flying :
      attempt.progress = .unrecorded ∨ attempt.progress = .expiring →
        (after.Flying attempt.authId ↔ table.Flying attempt.authId)) :
    changed.Placed later after :=
  placed.carry alike.authId alike.mustSend (Or.inl alike.progress) grows fresh
    flying

namespace Ledger

variable {l l' : Ledger} {c authId : Nat} {request : AuthRequest}
  {attempt changed : Attempt} {progress : Progress}

/-- A caller other than `c` of the id has come this far. -/
def HoldsBeside (l : Ledger) (c : Nat) (progress : Progress) (authId : Nat) :
    Prop :=
  ∃ d request attempt, d ≠ c ∧ l.Attempting d request attempt ∧
    attempt.progress = progress ∧ attempt.authId = authId

theorem holds_iff_of_same (same : SameAttempts (fun _ => False) l l') :
    l'.Holds progress authId ↔ l.Holds progress authId := by
  constructor
  · intro holds
    obtain ⟨c, request, changed, stands, stage, id⟩ := holds
    obtain ⟨attempt, before, alike⟩ :=
      same.former c request changed (fun impossible => impossible) stands
    exact ⟨c, request, attempt, before, alike.progress.symm.trans stage,
      alike.authId.symm.trans id⟩
  · intro holds
    obtain ⟨c, request, attempt, stands, stage, id⟩ := holds
    obtain ⟨changed, after, alike⟩ :=
      same.later c request attempt (fun impossible => impossible) stands
    exact ⟨c, request, changed, after, alike.progress.trans stage,
      alike.authId.trans id⟩

theorem holdsBeside_iff_of_same (same : SameAttempts (· = c) l l') :
    l'.HoldsBeside c progress authId ↔ l.HoldsBeside c progress authId := by
  constructor
  · intro holds
    obtain ⟨d, request, changed, different, stands, stage, id⟩ := holds
    obtain ⟨attempt, before, alike⟩ :=
      same.former d request changed different stands
    exact ⟨d, request, attempt, different, before,
      alike.progress.symm.trans stage, alike.authId.symm.trans id⟩
  · intro holds
    obtain ⟨d, request, attempt, different, stands, stage, id⟩ := holds
    obtain ⟨changed, after, alike⟩ :=
      same.later d request attempt different stands
    exact ⟨d, request, changed, different, after, alike.progress.trans stage,
      alike.authId.trans id⟩

/-- The callers that have come this far are the one in view and others. -/
theorem holds_iff_beside (present : l.Attempting c request attempt) :
    l.Holds progress authId ↔
      l.HoldsBeside c progress authId ∨
        (attempt.progress = progress ∧ attempt.authId = authId) := by
  constructor
  · intro holds
    obtain ⟨d, request', other, stands, stage, id⟩ := holds
    by_cases same : d = c
    · subst same
      have unique := (inPhase_unique present stands).2
      cases unique
      exact Or.inr ⟨stage, id⟩
    · exact Or.inl ⟨d, request', other, same, stands, stage, id⟩
  · intro holds
    rcases holds with ⟨d, request', other, -, stands, stage, id⟩ | ⟨stage, id⟩
    · exact ⟨d, request', other, stands, stage, id⟩
    · exact ⟨c, request, attempt, present, stage, id⟩

end Ledger

/-! ## Steps that move no registered caller -/

namespace Accounted

variable {recorded settled cancelled settled' cancelled' : List Nat}
  {l l' : Ledger}

theorem indicator_flying (flying ended listed : Prop) :
    indicator (flying ∧ listed) =
      indicator ((flying ∧ ¬ ended) ∧ listed) +
        indicator (ended ∧ flying ∧ listed) := by
  by_cases open_ : flying ∧ listed
  · by_cases over_ : ended
    · rw [indicator_of open_, indicator_of_not (fun both => both.1.2 over_),
        indicator_of ⟨over_, open_⟩]
    · rw [indicator_of open_, indicator_of ⟨⟨open_.1, over_⟩, open_.2⟩,
        indicator_of_not fun both => over_ both.1]
  · rw [indicator_of_not open_,
      indicator_of_not fun both => open_ ⟨both.1.1, both.2⟩,
      indicator_of_not fun both => open_ both.2]

/-- A step that ends attempts none of whose callers has to end them itself. -/
theorem conclude (accounted : Accounted recorded settled cancelled l)
    (ended : Nat → Prop)
    (same : SameAttempts (fun _ => False) l l')
    (ids : l.table.nextAuthId ≤ l'.table.nextAuthId)
    (wire : ∀ authId, l.Sent authId → l'.Sent authId)
    (frames : ∀ authId, l'.Asked authId → l.Asked authId)
    (flying :
      ∀ authId,
        l'.table.Flying authId ↔ l.table.Flying authId ∧ ¬ ended authId)
    (idle :
      ∀ c request attempt, l.Attempting c request attempt →
        ended attempt.authId → l.table.Flying attempt.authId →
        attempt.progress ≠ .unrecorded ∧ attempt.progress ≠ .expiring)
    (counted :
      ∀ authId,
        settled'.count authId + cancelled'.count authId +
            l'.reader.owed.count authId + l'.scheduler.owed.count authId =
          settled.count authId + cancelled.count authId +
              l.reader.owed.count authId + l.scheduler.owed.count authId +
            indicator (ended authId ∧ l.table.Flying authId ∧
              authId ∈ recorded)) :
    Accounted recorded settled' cancelled' l' where
  distinct := accounted.distinct
  assigned authId listed :=
    Nat.le_trans (accounted.assigned authId listed) ids
  sent authId listed := wire authId (accounted.sent authId listed)
  placed c request changed stands := by
    obtain ⟨attempt, before, alike⟩ :=
      same.former c request changed (fun impossible => impossible) stands
    have placed := accounted.placed c request attempt before
    apply placed.alike alike (fun _ listed => listed)
    · intro stage
      exact (placed.unrecorded stage).2.1
    · intro stage
      rw [flying]
      constructor
      · intro flies
        exact flies.1
      · intro flies
        refine ⟨flies, ?_⟩
        intro isEnded
        obtain ⟨recorded', waits⟩ :=
          idle c request attempt before isEnded flies
        rcases stage with stage | stage
        · exact recorded' stage
        · exact waits stage
  queued authId flies asked := by
    rw [Ledger.holds_iff_of_same same]
    exact accounted.queued authId ((flying authId).mp flies).1
      (frames authId asked)
  balance authId := by
    have before := accounted.balance authId
    have moved := counted authId
    rw [indicator_flying _ (ended authId)] at before
    rw [Ledger.holds_iff_of_same same, flying authId]
    omega

/-- A step that ends no attempt. -/
theorem still (accounted : Accounted recorded settled cancelled l)
    (same : SameAttempts (fun _ => False) l l')
    (ids : l.table.nextAuthId ≤ l'.table.nextAuthId)
    (wire : ∀ authId, l.Sent authId → l'.Sent authId)
    (frames : ∀ authId, l'.Asked authId → l.Asked authId)
    (flying :
      ∀ authId, l'.table.Flying authId ↔ l.table.Flying authId)
    (counted :
      ∀ authId,
        settled'.count authId + cancelled'.count authId +
            l'.reader.owed.count authId + l'.scheduler.owed.count authId =
          settled.count authId + cancelled.count authId +
            l.reader.owed.count authId + l.scheduler.owed.count authId) :
    Accounted recorded settled' cancelled' l' := by
  apply accounted.conclude (fun _ => False) same ids wire frames
  · intro authId
    rw [flying]
    exact (and_iff_left (fun impossible => impossible)).symm
  · intro c request attempt _ impossible
    exact impossible.elim
  · intro authId
    rw [counted, indicator_of_not fun impossible => impossible.1]
    rfl

/-- An attempt in flight that is awaited is recorded, and none of its callers
has to end it. -/
theorem free_of_awaited {cfg : SessionConfig} {s : State} {authId : Nat}
    (accounted : Accounted recorded settled cancelled s.ledger)
    (rationed : Rationed cfg s.ledger) (awaited : s.Awaited authId)
    (flies : s.table.Flying authId) :
    authId ∈ recorded ∧
      ∀ c request attempt, s.ledger.Attempting c request attempt →
        attempt.authId = authId →
        attempt.progress ≠ .unrecorded ∧ attempt.progress ≠ .expiring := by
  obtain ⟨sent, c, request, sender, stands, isId, licensed, stage⟩ := awaited
  have waits :
      sender.progress ≠ .unrecorded ∧ sender.progress ≠ .expiring := by
    rcases stage with waiting | dropped
    · simp [waiting]
    · simp [Attempt.progress, dropped]
  have only :
      ∀ d request' attempt, s.ledger.Attempting d request' attempt →
        attempt.authId = authId → attempt.mustSend = true →
        attempt = sender := by
    intro d request' attempt stands' sameId licensed'
    have sameCaller :=
      rationed.sole c d request request' authId
        ⟨sender, stands, isId, licensed⟩
        ⟨attempt, stands', sameId, licensed'⟩
    subst sameCaller
    have standing : s.ledger.Attempting c request sender := stands
    have unique := (Ledger.inPhase_unique standing stands').2
    cases unique
    rfl
  have free :
      ∀ d request' attempt, s.ledger.Attempting d request' attempt →
        attempt.authId = authId →
        attempt.progress ≠ .unrecorded ∧ attempt.progress ≠ .expiring := by
    intro d request' attempt stands' sameId
    have placed := accounted.placed d request' attempt stands'
    constructor
    · intro impossible
      have isSender :=
        only d request' attempt stands' sameId (placed.unrecorded impossible).1
      rw [isSender] at impossible
      exact waits.1 impossible
    · intro impossible
      rw [← sameId] at flies
      have licensed' := (placed.expiring impossible).2.mpr flies
      have isSender := only d request' attempt stands' sameId licensed'
      rw [isSender] at impossible
      exact waits.2 impossible
  refine ⟨?_, free⟩
  have asked : s.ledger.Asked authId :=
    Ledger.Sent.asked (l := s.ledger) sent
  rcases accounted.queued authId flies asked with listed | holds
  · exact listed
  · obtain ⟨d, request', attempt, stands', stage', sameId⟩ := holds
    exact absurd stage' (free d request' attempt stands' sameId).1

/-- A task ends an attempt that is awaited. -/
theorem finish {cfg : SessionConfig} {s : State} {authId : Nat}
    (accounted : Accounted recorded settled cancelled s.ledger)
    (rationed : Rationed cfg s.ledger) (awaited : s.Awaited authId)
    (flies : s.table.Flying authId)
    (same : SameAttempts (fun _ => False) s.ledger l')
    (ids : s.table.nextAuthId ≤ l'.table.nextAuthId)
    (side : l'.side = s.ledger.side)
    (flying :
      ∀ other,
        l'.table.Flying other ↔ s.table.Flying other ∧ other ≠ authId)
    (counted :
      ∀ other,
        settled'.count other + cancelled'.count other +
            l'.reader.owed.count other + l'.scheduler.owed.count other =
          settled.count other + cancelled.count other +
              s.reader.owed.count other + s.scheduler.owed.count other +
            [authId].count other) :
    Accounted recorded settled' cancelled' l' := by
  obtain ⟨listed, free⟩ := accounted.free_of_awaited rationed awaited flies
  apply accounted.conclude (· = authId) same ids
  · intro other sent
    unfold Ledger.Sent
    rw [side]
    exact sent
  · intro other asked
    unfold Ledger.Asked at asked
    rw [side] at asked
    exact asked
  · exact flying
  · intro c request attempt stands isEnded _
    exact free c request attempt stands isEnded
  · intro other
    rw [counted]
    by_cases isSame : other = authId
    · subst isSame
      rw [indicator_of ⟨rfl, flies, listed⟩]
      simp [State.ledger]
    · rw [indicator_of_not fun impossible => isSame impossible.1,
        List.count_singleton, if_neg (by simpa using Ne.symm isSame)]
      rfl

end Accounted

/-! ## Answers -/

theorem named_of_applied {cfg : SessionConfig} {table marked : ConntrackTable}
    {status : UInt8} {json : Bytes} {authId : Nat}
    (applied :
      applyAuthWireStatus cfg.codec table status json =
        .ok (marked, authId)) : cfg.named json = some authId := by
  have answered :
      ∃ response, parseL3AuthResponse cfg.codec json = .ok response ∧
        response.conntrackHash = authId := by
    unfold applyAuthWireStatus at applied
    split at applied
    · split at applied
      · cases applied
      · rename_i body
        cases applied
        unfold applyAuthResponseJson at body
        split at body
        · cases body
        · rename_i parsed
          split at body
          · cases body
          · split at body
            · cases body
            · cases body
              exact ⟨_, parsed, rfl⟩
    · split at applied
      · cases applied
      · rename_i parsed
        split at applied
        · cases applied
        · split at applied
          · cases applied
          · cases applied
            exact ⟨_, parsed, rfl⟩
  obtain ⟨response, parsed, rfl⟩ := answered
  simp only [SessionConfig.named, parsed]

theorem ConntrackTable.Fit.flying {table : ConntrackTable} {authId : Nat}
    {entry : ConntrackEntry} (fit : table.Fit)
    (live : table.getByAuthId authId = some entry)
    (unsettled : entry.outcome = none) : table.Flying authId := by
  have started := (fit authId entry live).started
  exact ⟨entry, live, by
    simp [ConntrackEntry.authInFlight, started, unsettled]⟩

theorem authInFlight_scheduleRetry (entry : ConntrackEntry) (budget : Nat) :
    (entry.scheduleRetry budget).1.authInFlight = entry.authInFlight := by
  unfold ConntrackEntry.scheduleRetry
  split <;> rfl

theorem authInFlight_takeRetry (entry : ConntrackEntry) :
    entry.takeRetry.1.authInFlight = entry.authInFlight := by
  unfold ConntrackEntry.takeRetry
  split <;> rfl

namespace Accounted

variable {recorded settled cancelled : List Nat} {cfg : SessionConfig}
  {s s' : State}

/-- A task completes an awaited attempt and turns to its settlement. -/
theorem complete {authId : Nat} {entry : ConntrackEntry}
    (accounted : Accounted recorded settled cancelled s.ledger)
    (rationed : Rationed cfg s.ledger) (sound : Sound s.ledger)
    (fit : s.table.Fit) (live : s.table.getByAuthId authId = some entry)
    (unsettled : entry.outcome = none) (awaited : s.Awaited authId)
    (outcome : AuthOutcome) (reader : ReaderPc) (scheduler : SchedulerPc)
    (owed :
      ∀ other,
        reader.owed.count other + scheduler.owed.count other =
          s.reader.owed.count other + s.scheduler.owed.count other +
            [authId].count other) :
    Accounted recorded settled cancelled
      { s.ledger with
        table := s.table.modifyByAuthId authId (·.complete outcome)
        reader := reader
        scheduler := scheduler } := by
  have wf : s.table.WellFormed := sound.wellFormed
  refine accounted.finish rationed awaited (fit.flying live unsettled) ?_ ?_
    ?_ ?_ ?_
  · exact .of_callers rfl
  · exact Nat.le_of_eq (Evolves.complete wf authId outcome).nextAuthId.symm
  · rfl
  · intro other
    exact ConntrackTable.flying_complete wf outcome
  · intro other
    have moved := owed other
    dsimp only
    omega

theorem dispatchSettled {status : UInt8} {json : Bytes}
    (accounted : Accounted recorded settled cancelled s.ledger)
    (rationed : Rationed cfg s.ledger) (sound : Sound s.ledger)
    (fit : s.table.Fit) (orderly : OrderlyAnswer cfg s status json)
    (settles : cfg.retries status = false) (idle : s.reader = .idle) :
    Accounted recorded settled cancelled
      (s.dispatchSettled cfg status json).ledger := by
  unfold State.dispatchSettled
  split
  · exact accounted
  · rename_i table authId applied
    obtain ⟨entry, outcome, live, rfl, -⟩ := applyAuthWireStatus_ok applied
    obtain ⟨unsettled, awaited⟩ :=
      (orderly authId entry (named_of_applied applied) live).1 settles
    split
    · rename_i missing
      cases missing.symm.trans
        (verdict_complete sound.wellFormed live unsettled)
    · rename_i verdict _
      apply accounted.complete rationed sound fit live unsettled awaited
        outcome (.settle authId verdict) s.scheduler
      intro other
      rw [idle]
      simp only [ReaderPc.owed, List.count_nil]
      omega

theorem dispatchTransient {status : UInt8} {delay : Nat} {json : Bytes}
    (accounted : Accounted recorded settled cancelled s.ledger)
    (rationed : Rationed cfg s.ledger) (sound : Sound s.ledger)
    (fit : s.table.Fit) (orderly : OrderlyAnswer cfg s status json)
    (retries : cfg.retries status = true) (idle : s.reader = .idle) :
    Accounted recorded settled cancelled
      (s.dispatchTransient cfg delay json).ledger := by
  unfold State.dispatchTransient
  split
  · exact accounted
  · rename_i response parsed
    have named : cfg.named json = some response.conntrackHash := by
      simp only [SessionConfig.named, parsed]
    simp only
    split
    · exact accounted
    · split
      · exact accounted
      · rename_i entry live
        split
        · exact accounted
        · rename_i open_
          obtain ⟨unsettled, unflagged⟩ :=
            Bool.or_eq_false_iff.mp (Bool.eq_false_iff.mpr open_)
          have noOutcome : entry.outcome = none := by
            simpa using unsettled
          split
          · rename_i exhausted
            have awaited :=
              (orderly _ entry named live).2 retries noOutcome unflagged
                exhausted
            apply accounted.complete rationed sound fit live noOutcome awaited
              (.failed "auth retry budget exhausted")
              (.settle response.conntrackHash
                (.failed "auth retry budget exhausted")) s.scheduler
            intro other
            rw [idle]
            simp only [ReaderPc.owed, List.count_nil]
            omega
          · refine accounted.still ?_ ?_ ?_ ?_ ?_ ?_
            · exact .of_callers rfl
            · have evolves :=
                Evolves.scheduleRetry sound.wellFormed response.conntrackHash
                  cfg.retry.maxWireRetriesPerFlow
              exact Nat.le_of_eq evolves.nextAuthId.symm
            · exact fun _ sent => sent
            · exact fun _ asked => asked
            · intro authId
              exact ConntrackTable.flying_modify sound.wellFormed
                (ConntrackTable.keepsIdentity_scheduleRetry _)
                fun stored => authInFlight_scheduleRetry stored _
            · intro authId
              have nothing : s.ledger.reader.owed = [] := by
                show s.reader.owed = []
                rw [idle]
                rfl
              rw [nothing]
              simp only [State.ledger]
              split <;> rfl

/-- A `0x93` that comes in time keeps the split. -/
theorem dispatchAuth {status : UInt8} {json : Bytes}
    (accounted : Accounted recorded settled cancelled s.ledger)
    (rationed : Rationed cfg s.ledger) (sound : Sound s.ledger)
    (fit : s.table.Fit) (orderly : OrderlyAnswer cfg s status json)
    (idle : s.reader = .idle) :
    Accounted recorded settled cancelled
      (s.dispatchAuth cfg status json).ledger := by
  have transient : ∀ delay, cfg.retries status = true →
      Accounted recorded settled cancelled
        (s.countTransient.dispatchTransient cfg delay json).ledger := by
    intro delay retries
    have counted : Accounted recorded settled cancelled s.countTransient.ledger :=
      accounted
    exact counted.dispatchTransient rationed sound fit orderly retries idle
  have final : cfg.retries status = false →
      Accounted recorded settled cancelled
        (s.countTransient.dispatchSettled cfg status json).ledger := by
    intro settles
    have counted : Accounted recorded settled cancelled s.countTransient.ledger :=
      accounted
    exact counted.dispatchSettled rationed sound fit orderly settles idle
  unfold State.dispatchAuth
  split
  · rename_i immediate
    split
    · rename_i enabled
      exact transient 0 (by simp [SessionConfig.retries, enabled, immediate,
        AuthWireDisposition.transient])
    · rename_i disabled
      exact final (by simp [SessionConfig.retries, disabled])
  · rename_i delayed
    split
    · rename_i enabled
      exact transient _ (by simp [SessionConfig.retries, enabled, delayed,
        AuthWireDisposition.transient])
    · rename_i disabled
      exact final (by simp [SessionConfig.retries, disabled])
  · rename_i notImmediate notDelayed
    have settles : cfg.retries status = false := by
      unfold SessionConfig.retries
      cases kind : classifyAuthWireStatus status with
      | retryImmediate => exact absurd kind notImmediate
      | retryDelayed code => exact absurd kind (notDelayed code)
      | _ => simp [AuthWireDisposition.transient]
    exact accounted.dispatchSettled rationed sound fit orderly settles idle

end Accounted

/-! ## Steps of the tasks -/

theorem SideStep.wire {l : Ledger} {action : Action} {side : Periphery}
    (step : SideStep l action side) : l.side.wire <+: side.wire := by
  cases step with
  | taken waiting => exact List.prefix_append _ _
  | _ => exact List.prefix_refl _

namespace Accounted

variable {recorded settled cancelled : List Nat} {cfg : SessionConfig}
  {s : State} {l' : Ledger} {action : Action}

/-- The reader gives up a retry and completes the attempt. -/
private theorem retryFailed {authId : Nat} {message : String}
    {outcome : AuthOutcome}
    (accounted : Accounted recorded settled cancelled s.ledger)
    (rationed : Rationed cfg s.ledger) (sound : Sound s.ledger)
    (fit : s.table.Fit) (orderly : Orderly cfg s .reader)
    (stands : s.reader = .failRetry authId)
    (verdict :
      ((s.table.modifyByAuthId authId
        (·.complete (.failed message))).getByAuthId authId).bind
          (·.outcome) = some outcome) :
    Accounted recorded settled cancelled
      { s.ledger with
        table := s.table.modifyByAuthId authId (·.complete (.failed message))
        reader := .settle authId outcome } := by
  obtain ⟨changed, live, -⟩ := live_of_verdict verdict
  have wf : s.table.WellFormed := sound.wellFormed
  rw [ConntrackTable.getByAuthId_modifyByAuthId wf
    (ConntrackTable.keepsIdentity_complete _), if_pos rfl] at live
  obtain ⟨entry, former, -⟩ := Option.map_eq_some_iff.mp live
  obtain ⟨unsettled, awaited⟩ := orderly authId entry stands former
  apply accounted.complete rationed sound fit former unsettled awaited
    (.failed message) (.settle authId outcome) s.scheduler
  intro other
  rw [stands]
  simp only [ReaderPc.owed, List.count_nil]
  omega

/-- A step of another task that is neither an answer, nor a lookup of the
scheduler, nor a settlement keeps the split. -/
theorem taskStep (accounted : Accounted recorded settled cancelled s.ledger)
    (rationed : Rationed cfg s.ledger) (sound : Sound s.ledger)
    (fit : s.table.Fit) (orderly : Orderly cfg s action)
    (running : s.shutdown = .running) (stays : l'.shutdown = .running)
    (quiet : s.reader.updating = false)
    (answers : ∀ status json, action ≠ .receive (.auth status json))
    (reads :
      action = .reader → ∀ authId outcome, s.reader ≠ .settle authId outcome)
    (looks :
      action = .scheduler → ∀ authId,
        s.scheduler ≠ .lookup authId ∧
          ∀ outcome, s.scheduler ≠ .settle authId outcome)
    (step : TaskStep cfg s.ledger action l') :
    Accounted recorded settled cancelled l' := by
  have same := step.sameAttempts
  have plainly :
      ∀ after : Ledger, SameAttempts (fun _ => False) s.ledger after →
        after.table = s.table → after.side = s.ledger.side →
        after.reader.owed = s.reader.owed →
        after.scheduler.owed = s.scheduler.owed →
        Accounted recorded settled cancelled after := by
    intro after attempts table side reader scheduler
    apply accounted.still attempts
    · rw [table]
      exact Nat.le_refl _
    · unfold Ledger.Sent
      rw [side]
      exact fun _ sent => sent
    · unfold Ledger.Asked
      rw [side]
      exact fun _ asked => asked
    · intro authId
      rw [table]
      exact Iff.rfl
    · intro authId
      rw [reader, scheduler]
      rfl
  have updates : ∀ position, s.reader = position → position.updating = true →
      Accounted recorded settled cancelled l' := by
    intro position stands impossible
    rw [stands, impossible] at quiet
    cases quiet
  have closes : ∀ phase, s.shutdown = phase → phase ≠ .running →
      Accounted recorded settled cancelled l' := by
    intro phase stands impossible
    exact absurd (stands.symm.trans running) impossible
  cases step with
  | side moves =>
      apply accounted.still same (Nat.le_refl _)
      · intro authId sent
        exact (moves.wire.sublist.map OutboundFrame.origin).subset sent
      · intro authId asked
        have spares : Periphery.Spares s.ledger.side _ := moves.spares
        obtain ⟨frame, listed, isRequest⟩ := List.mem_map.mp asked
        have request : frame.origin ≠ .other := by
          rw [isRequest]
          simp
        exact List.mem_map.mpr
          ⟨frame, spares.mem frame listed request, isRequest⟩
      · exact fun _ => Iff.rfl
      · exact fun _ => rfl
  | authorizeFlow fresh => exact plainly _ same rfl rfl rfl rfl
  | settled free idle applied verdict => exact absurd rfl (answers _ _)
  | applied free idle applied verdict => exact absurd rfl (answers _ _)
  | exhausted message free idle live unsettled =>
      exact absurd rfl (answers _ _)
  | scheduled enabled free idle plain => exact absurd rfl (answers _ _)
  | vipChanged idle accepted found changed =>
      exact absurd (orderly accepted _ found) changed
  | readerMove plain plain' =>
      exact plainly _ same rfl rfl
        ((ReaderPc.owed_of_plain plain').trans
          (ReaderPc.owed_of_plain plain).symm) rfl
  | readerSettle stands => exact absurd stands (reads rfl _ _)
  | readerNotify stands =>
      have notifies : s.reader.owed = [] := congrArg ReaderPc.owed stands
      exact plainly _ same rfl rfl notifies.symm rfl
  | retryFailed free stands verdict =>
      exact accounted.retryFailed rationed sound fit orderly stands verdict
  | vipClear cancelled free stands => exact updates _ stands rfl
  | vipCount stands => exact updates _ stands rfl
  | vipDrain stands => exact updates _ stands rfl
  | vipReset stands => exact updates _ stands rfl
  | vipUnsubscribe stands free => exact updates _ stands rfl
  | touch free stands touched =>
      have wf : s.table.WellFormed := sound.wellFormed
      have nothing : s.reader.owed = [] := congrArg ReaderPc.owed stands
      apply accounted.still same
      · exact Nat.le_of_eq (Evolves.touched wf touched).nextAuthId.symm
      · exact fun _ sent => sent
      · exact fun _ asked => asked
      · exact fun _ => ConntrackTable.flying_touched wf touched
      · intro authId
        show _ + _ + List.count authId [] + _ =
          _ + _ + s.reader.owed.count authId + _
        rw [nothing]
  | readerStop stands => exact orderly.elim
  | schedulerMove plain plain' awake =>
      exact plainly _ same rfl rfl rfl
        ((SchedulerPc.owed_of_plain plain').trans
          (SchedulerPc.owed_of_plain plain).symm)
  | retryQueued stands =>
      rename_i id frame
      have nothing : s.scheduler.owed = [] := congrArg SchedulerPc.owed stands
      apply accounted.still same (Nat.le_refl _)
      · exact fun _ sent => sent
      · intro authId asked
        obtain ⟨queued, listed, isRequest⟩ := List.mem_map.mp asked
        rcases Periphery.mem_frames_enqueue.mp listed with new | old
        · rw [new] at isRequest
          cases isRequest
        · exact List.mem_map.mpr ⟨queued, old, isRequest⟩
      · exact fun _ => Iff.rfl
      · intro authId
        show _ + List.count authId [] = _ + s.scheduler.owed.count authId
        rw [nothing]
  | schedulerClosing stands => exact absurd stands orderly.2.2
  | deadlineExceeded message free stands live =>
      exact absurd stands (looks rfl _).1
  | retryTaken free stands live taken => exact absurd stands (looks rfl _).1
  | retryVoid free stands live taken => exact absurd stands (looks rfl _).1
  | outcomeFound free stands verdict =>
      have owes : s.scheduler.owed = [_] := congrArg SchedulerPc.owed stands
      exact plainly _ same rfl rfl rfl owes.symm
  | outcomeMissing free stands verdict =>
      exact absurd verdict (orderly.2.1 _ stands)
  | schedulerSettle stands => exact absurd stands ((looks rfl _).2 _)
  | schedulerNotify stands =>
      have notifies : s.scheduler.owed = [] := congrArg SchedulerPc.owed stands
      exact plainly _ same rfl rfl rfl notifies.symm
  | writerClosing => exact absurd stays s.ledger.beginShutdown_closed
  | close => exact orderly.elim
  | stopSignal stands => exact closes _ stands (by simp)
  | unsubscribe stands free => exact closes _ stands (by simp)
  | clearTable cancelled free stands => exact closes _ stands (by simp)
  | countCancelled stands => exact closes _ stands (by simp)
  | drain stands => exact closes _ stands (by simp)

/-- The reader keeps the split; what it owed is settled. -/
theorem reader {s' : State}
    (accounted : Accounted recorded settled cancelled s.ledger)
    (rationed : Rationed cfg s.ledger) (sound : Sound s.ledger)
    (fit : s.table.Fit) (orderly : Orderly cfg s .reader)
    (running : s.shutdown = .running) (stays : s'.shutdown = .running)
    (quiet : s.reader.updating = false)
    (moved : s.advanceReader = some s') :
    Accounted recorded (settled ++ s.reader.owed) cancelled s'.ledger := by
  by_cases settles : ∃ authId outcome, s.reader = .settle authId outcome
  · obtain ⟨authId, outcome, stands⟩ := settles
    unfold State.advanceReader at moved
    rw [stands] at moved
    cases moved
    rw [stands]
    refine accounted.still (.of_callers rfl) (Nat.le_refl _)
      (fun _ sent => sent) (fun _ asked => asked) (fun _ => Iff.rfl) ?_
    intro other
    have owes : s.ledger.reader.owed = [authId] :=
      congrArg ReaderPc.owed stands
    rw [owes, List.count_append]
    simp only [State.ledger, ReaderPc.owed, List.count_nil]
    omega
  · have elsewhere :
        ∀ authId outcome, s.reader ≠ .settle authId outcome :=
      fun authId outcome stands => settles ⟨authId, outcome, stands⟩
    have nothing : s.reader.owed = [] := by
      unfold ReaderPc.owed
      split
      · rename_i stands
        exact absurd stands (elsewhere _ _)
      · rfl
    rw [nothing, List.append_nil]
    exact accounted.taskStep rationed sound fit orderly running stays quiet
      (by simp) (fun _ => elsewhere) (by simp)
      (taskStep_of_advanceReader moved)

/-- The scheduler wakes up for an attempt. -/
private theorem lookup {s' : State} {authId : Nat}
    (accounted : Accounted recorded settled cancelled s.ledger)
    (rationed : Rationed cfg s.ledger) (sound : Sound s.ledger)
    (fit : s.table.Fit) (orderly : OrderlyRetry s)
    (stands : s.scheduler = .lookup authId)
    (moved : s.advanceScheduler = some s') :
    Accounted recorded settled cancelled s'.ledger := by
  have wf : s.table.WellFormed := sound.wellFormed
  have nothing : s.ledger.scheduler.owed = [] :=
    congrArg SchedulerPc.owed stands
  unfold State.advanceScheduler at moved
  rw [stands] at moved
  simp only at moved
  split at moved
  · split at moved
    · cases moved
      refine accounted.still (.of_callers rfl) (Nat.le_refl _)
        (fun _ sent => sent) (fun _ asked => asked) (fun _ => Iff.rfl) ?_
      intro other
      rw [nothing]
      rfl
    · rename_i entry live
      obtain ⟨flagged, late⟩ := orderly.1 authId entry stands live
      obtain ⟨unsettled, framed⟩ := (fit authId entry live).flagged flagged
      split at moved
      · rename_i due
        cases moved
        apply accounted.complete rationed sound fit live unsettled (late due)
          (.failed "auth deadline exceeded") s.reader (.outcome authId)
        intro other
        have owes : s.scheduler.owed = [] := nothing
        rw [owes]
        simp only [SchedulerPc.owed, List.count_nil]
        omega
      · cases moved
        obtain ⟨frame, stored⟩ := Option.ne_none_iff_exists'.mp framed
        have taken : entry.takeRetry.2 = some frame := by
          simp [ConntrackEntry.takeRetry, flagged, unsettled, stored]
        refine accounted.still (.of_callers rfl) ?_ (fun _ sent => sent)
          (fun _ asked => asked) ?_ ?_
        · exact Nat.le_of_eq (Evolves.takeRetry wf authId).nextAuthId.symm
        · intro other
          exact ConntrackTable.flying_modify wf
            ConntrackTable.keepsIdentity_takeRetry authInFlight_takeRetry
        · intro other
          rw [nothing]
          simp only [State.ledger, taken]
          rfl
  · cases moved

/-- The scheduler keeps the split; an outcome that it counts is settled. -/
theorem scheduler {s' : State}
    (accounted : Accounted recorded settled cancelled s.ledger)
    (rationed : Rationed cfg s.ledger) (sound : Sound s.ledger)
    (fit : s.table.Fit) (orderly : Orderly cfg s .scheduler)
    (running : s.shutdown = .running) (stays : s'.shutdown = .running)
    (quiet : s.reader.updating = false)
    (moved : s.advanceScheduler = some s') :
    Accounted recorded
      (settled ++ AuthEvent.settledIds (authEvents s .scheduler)) cancelled
      s'.ledger := by
  by_cases settles : ∃ authId outcome, s.scheduler = .settle authId outcome
  · obtain ⟨authId, outcome, stands⟩ := settles
    have events :
        AuthEvent.settledIds (authEvents s .scheduler) = [authId] := by
      simp [authEvents, stands, AuthEvent.settledIds]
    unfold State.advanceScheduler at moved
    rw [stands] at moved
    cases moved
    rw [events]
    refine accounted.still (.of_callers rfl) (Nat.le_refl _)
      (fun _ sent => sent) (fun _ asked => asked) (fun _ => Iff.rfl) ?_
    intro other
    have owes : s.ledger.scheduler.owed = [authId] :=
      congrArg SchedulerPc.owed stands
    rw [owes, List.count_append]
    simp only [State.ledger, SchedulerPc.owed, List.count_nil]
    omega
  · have elsewhere :
        ∀ authId outcome, s.scheduler ≠ .settle authId outcome :=
      fun authId outcome stands => settles ⟨authId, outcome, stands⟩
    have events : AuthEvent.settledIds (authEvents s .scheduler) = [] := by
      simp only [authEvents]
      rfl
    rw [events, List.append_nil]
    by_cases looks : ∃ authId, s.scheduler = .lookup authId
    · obtain ⟨authId, stands⟩ := looks
      exact accounted.lookup rationed sound fit orderly stands moved
    · exact accounted.taskStep rationed sound fit orderly running stays quiet
        (by simp) (by simp)
        (fun _ authId => ⟨fun stands => looks ⟨authId, stands⟩,
          elsewhere authId⟩) (taskStep_of_advanceScheduler moved)

end Accounted

end HermesAtrust.L3
