import HermesAtrust.Concurrency.Transitions
import Mathlib.Algebra.Group.Nat.Defs
import Mathlib.Data.List.DropRight

/-!
# The heartbeat of a session

Model of the heartbeat task with what the writer and the reader record for it.
Every tick either closes the session or queues a probe.  The writer counts a
probe that has been written and keeps the time of the first; the reader counts
every `05 95` frame and keeps the time of the last.

The tick compares the two counts, which are never reset.  What it is meant to
detect is stated over the history: enough probes, and enough time, since the
last acknowledgement.
-/

namespace HermesAtrust.L3.Heartbeat

open HermesAtrust.Concurrency

/-- `L3_HEARTBEAT_MISS_LIMIT`. -/
def l3HeartbeatMissLimit : Nat := 3

/-- `Duration::MAX` in nanoseconds. -/
def durationMax : Nat := (2 ^ 64 - 1) * 10 ^ 9 + 999999999

/-- `Duration::saturating_mul`. -/
def saturatingMul (duration factor : Nat) : Nat :=
  min (duration * factor) durationMax

inductive CloseReason where
  | heartbeatTimeout
  | other
  deriving DecidableEq, Repr

/-- Where the heartbeat task stands. -/
inductive TaskPc where
  | waiting
  | sending
  | stopped
  deriving DecidableEq, Repr

/-- What the tasks share about heartbeats.  Times are counted from the start of
the task. -/
structure State where
  now : Nat
  nextTick : Nat
  task : TaskPc
  queued : Nat
  requestsSent : Nat
  acksReceived : Nat
  firstWritten : Option Nat
  lastAck : Option Nat
  closeReason : Option CloseReason
  deriving DecidableEq, Repr

/-- The first tick of the interval, which fires at once, has been skipped. -/
def initial (interval : Nat) : State where
  now := 0
  nextTick := interval
  task := .waiting
  queued := 0
  requestsSent := 0
  acksReceived := 0
  firstWritten := none
  lastAck := none
  closeReason := none

/-- `enqueue` is the end of the `send` that hands a probe to the writer;
`close` is a shutdown for another reason. -/
inductive Action where
  | advance (duration : Nat)
  | tick
  | enqueue (accepted : Bool)
  | written
  | ack
  | close
  deriving DecidableEq, Repr

/-- The condition under which a tick closes the session. -/
def State.expired (interval : Nat) (s : State) : Bool :=
  decide (l3HeartbeatMissLimit ≤ s.requestsSent - s.acksReceived) &&
    match s.firstWritten with
    | none => false
    | some first =>
        decide (saturatingMul interval l3HeartbeatMissLimit ≤
          s.now - s.lastAck.getD first)

/-- The state after an action, if it can happen.  A clock that the program can
represent stays below the largest duration. -/
def next (interval : Nat) (s : State) : Action → Option State
  | .advance duration =>
      if s.now + duration < durationMax then
        some { s with now := s.now + duration }
      else
        none
  | .tick =>
      if s.closeReason = none ∧ s.task = .waiting ∧ s.nextTick ≤ s.now then
        if s.expired interval then
          some
            { s with
              closeReason := some .heartbeatTimeout
              task := .stopped
              nextTick := s.nextTick + interval }
        else
          some { s with task := .sending, nextTick := s.nextTick + interval }
      else
        none
  | .enqueue accepted =>
      match s.task with
      | .sending =>
          if accepted then
            some { s with task := .waiting, queued := s.queued + 1 }
          else
            some { s with task := .stopped }
      | _ => none
  | .written =>
      if 0 < s.queued then
        some
          { s with
            queued := s.queued - 1
            firstWritten := s.firstWritten.or (some s.now)
            requestsSent := s.requestsSent + 1 }
      else
        none
  | .ack =>
      some
        { s with
          acksReceived := s.acksReceived + 1
          lastAck := some s.now }
  | .close =>
      some { s with closeReason := s.closeReason.or (some .other) }

/-! ## The history -/

/-- A probe that has been written, or an acknowledgement, and its time. -/
inductive Mark where
  | written (time : Nat)
  | acked (time : Nat)
  deriving DecidableEq, Repr

namespace Mark

def isWritten : Mark → Bool
  | .written _ => true
  | .acked _ => false

def isAcked : Mark → Bool
  | .written _ => false
  | .acked _ => true

def time : Mark → Nat
  | .written time => time
  | .acked time => time

end Mark

def marks (s : State) : Action → List Mark
  | .written => [.written s.now]
  | .ack => [.acked s.now]
  | _ => []

/-- The probes written since the last acknowledgement, or all if there is
none. -/
def probesSince (history : List Mark) : Nat :=
  (history.rtakeWhile Mark.isWritten).length

/-- The probes written before the last acknowledgement. -/
def probesBefore (history : List Mark) : Nat :=
  (history.rdropWhile Mark.isWritten).countP Mark.isWritten

def acknowledgements (history : List Mark) : Nat :=
  history.countP Mark.isAcked

def lastAcknowledged (history : List Mark) : Option Nat :=
  (history.reverse.find? Mark.isAcked).map Mark.time

def firstProbe (history : List Mark) : Option Nat :=
  (history.find? Mark.isWritten).map Mark.time

/-- The time of the last acknowledgement, or of the first probe if there is
none. -/
def silentSince (history : List Mark) : Option Nat :=
  (lastAcknowledged history).or (firstProbe history)

/-- Enough intervals have passed since then. -/
def Overdue (interval now : Nat) (history : List Mark) : Prop :=
  ∃ since, silentSince history = some since ∧
    interval * l3HeartbeatMissLimit ≤ now - since

/-- The peer is silent: enough probes have been written, and enough intervals
have passed, since the last acknowledgement. -/
def Silent (interval now : Nat) (history : List Mark) : Prop :=
  l3HeartbeatMissLimit ≤ probesSince history ∧ Overdue interval now history

/-- Acknowledgements that were received beyond the probes written before them
are not mistaken for answers to the probes since, and answers that are missing
from before are not held against them. -/
def Undistorted (history : List Mark) : Prop :=
  (probesSince history < l3HeartbeatMissLimit ∨
    l3HeartbeatMissLimit +
        (acknowledgements history - probesBefore history) ≤
      probesSince history) ∧
  (l3HeartbeatMissLimit ≤ probesSince history ∨
    probesSince history +
        (probesBefore history - acknowledgements history) <
      l3HeartbeatMissLimit)

section

variable (history : List Mark) (time : Nat)

@[simp] theorem probesSince_written :
    probesSince (history ++ [.written time]) = probesSince history + 1 := by
  unfold probesSince
  rw [List.rtakeWhile_concat_pos _ _ _ rfl]
  simp

@[simp] theorem probesSince_acked :
    probesSince (history ++ [.acked time]) = 0 := by
  unfold probesSince
  rw [List.rtakeWhile_concat_neg _ _ _ (by simp [Mark.isWritten])]
  rfl

@[simp] theorem probesBefore_written :
    probesBefore (history ++ [.written time]) = probesBefore history := by
  unfold probesBefore
  rw [List.rdropWhile_concat_pos _ _ _ rfl]

/-- At an acknowledgement all probes have been written before. -/
theorem probesBefore_acked :
    probesBefore (history ++ [.acked time]) =
      history.countP Mark.isWritten := by
  unfold probesBefore
  rw [List.rdropWhile_concat_neg _ _ _ (by simp [Mark.isWritten]),
    List.countP_append]
  rfl

theorem countP_written :
    history.countP Mark.isWritten =
      probesBefore history + probesSince history := by
  have since : (history.rtakeWhile Mark.isWritten).countP Mark.isWritten =
      probesSince history := by
    rw [probesSince, List.countP_eq_length]
    intro mark listed
    exact List.mem_rtakeWhile_imp listed
  conv_lhs =>
    rw [← @List.rdropWhile_append_rtakeWhile _ Mark.isWritten history]
  rw [List.countP_append, since]
  rfl

end

/-! ## The records and the history -/

/-- The tasks have recorded the history. -/
structure Recorded (history : List Mark) (s : State) : Prop where
  clock : s.now < durationMax
  sent : s.requestsSent = history.countP Mark.isWritten
  acks : s.acksReceived = acknowledgements history
  first : s.firstWritten = firstProbe history
  last : s.lastAck = lastAcknowledged history

namespace Recorded

variable {interval : Nat} {history : List Mark} {s s' : State}

theorem initial : Recorded [] (Heartbeat.initial interval) where
  clock := Nat.zero_lt_succ _
  sent := rfl
  acks := rfl
  first := rfl
  last := rfl

theorem written (recorded : Recorded history s) (queued : Nat) :
    Recorded (history ++ [.written s.now])
      { s with
        queued := queued
        firstWritten := s.firstWritten.or (some s.now)
        requestsSent := s.requestsSent + 1 } where
  clock := recorded.clock
  sent := by
    rw [List.countP_append, ← recorded.sent]
    rfl
  acks := by
    rw [acknowledgements, List.countP_append]
    exact recorded.acks
  first := by
    change s.firstWritten.or (some s.now) = _
    rw [recorded.first, firstProbe, firstProbe, List.find?_append]
    cases history.find? Mark.isWritten <;> rfl
  last := by
    rw [lastAcknowledged, List.reverse_append]
    exact recorded.last

theorem acked (recorded : Recorded history s) :
    Recorded (history ++ [.acked s.now])
      { s with
        acksReceived := s.acksReceived + 1
        lastAck := some s.now } where
  clock := recorded.clock
  sent := by
    rw [List.countP_append]
    exact recorded.sent
  acks := by
    rw [acknowledgements, List.countP_append]
    change s.acksReceived + 1 = _
    rw [recorded.acks]
    rfl
  first := by
    change s.firstWritten = _
    rw [recorded.first, firstProbe, firstProbe, List.find?_append]
    cases history.find? Mark.isWritten <;> rfl
  last := by
    rw [lastAcknowledged, List.reverse_append]
    rfl

/-- One step keeps the records. -/
theorem next {action : Action} (recorded : Recorded history s)
    (stepped : Heartbeat.next interval s action = some s') :
    Recorded (history ++ marks s action) s' := by
  cases action with
  | written =>
      simp only [Heartbeat.next] at stepped
      split at stepped
      · cases stepped
        exact recorded.written _
      · cases stepped
  | ack =>
      cases stepped
      exact recorded.acked
  | advance duration =>
      simp only [Heartbeat.next] at stepped
      split at stepped
      · rename_i below
        cases stepped
        simp only [marks, List.append_nil]
        exact ⟨below, recorded.sent, recorded.acks, recorded.first,
          recorded.last⟩
      · cases stepped
  | tick =>
      simp only [Heartbeat.next] at stepped
      simp only [marks, List.append_nil]
      split at stepped
      · split at stepped
        · cases stepped
          exact ⟨recorded.clock, recorded.sent, recorded.acks, recorded.first,
            recorded.last⟩
        · cases stepped
          exact ⟨recorded.clock, recorded.sent, recorded.acks, recorded.first,
            recorded.last⟩
      · cases stepped
  | enqueue accepted =>
      simp only [Heartbeat.next] at stepped
      simp only [marks, List.append_nil]
      split at stepped
      · split at stepped
        · cases stepped
          exact ⟨recorded.clock, recorded.sent, recorded.acks, recorded.first,
            recorded.last⟩
        · cases stepped
          exact ⟨recorded.clock, recorded.sent, recorded.acks, recorded.first,
            recorded.last⟩
      · cases stepped
  | close =>
      cases stepped
      simp only [marks, List.append_nil]
      exact ⟨recorded.clock, recorded.sent, recorded.acks, recorded.first,
        recorded.last⟩

/-- What the tick computes, over the history. -/
theorem expired_iff (recorded : Recorded history s) :
    s.expired interval = true ↔
      l3HeartbeatMissLimit + acknowledgements history ≤
          probesBefore history + probesSince history ∧
        Overdue interval s.now history := by
  have clock := recorded.clock
  have total := countP_written history
  have bound : ∀ since, saturatingMul interval l3HeartbeatMissLimit ≤
      s.now - since ↔ interval * l3HeartbeatMissLimit ≤ s.now - since := by
    intro since
    unfold saturatingMul
    omega
  have positive : 0 < l3HeartbeatMissLimit := by decide
  unfold State.expired Overdue silentSince
  rw [recorded.first, recorded.last, recorded.sent, recorded.acks, total,
    Bool.and_eq_true, decide_eq_true_eq]
  cases unwritten : firstProbe history with
  | none =>
      have noProbe : history.countP Mark.isWritten = 0 := by
        rw [List.countP_eq_zero]
        rw [firstProbe, Option.map_eq_none_iff, List.find?_eq_none]
          at unwritten
        exact unwritten
      constructor
      · intro impossible
        cases impossible.2
      · intro enough
        omega
  | some first =>
      simp only [decide_eq_true_eq, bound]
      cases lastAcknowledged history with
      | none =>
          simp only [Option.getD_none, Option.none_or, Option.some.injEq,
            exists_eq_left']
          omega
      | some last =>
          simp only [Option.getD_some, Option.some_or, Option.some.injEq,
            exists_eq_left']
          omega

end Recorded

theorem closes_iff {interval : Nat} {s s' : State}
    (ticked : next interval s .tick = some s') :
    s'.closeReason = some .heartbeatTimeout ↔ s.expired interval = true := by
  simp only [next] at ticked
  split at ticked
  · rename_i ready
    split at ticked
    · rename_i expired
      cases ticked
      simp [expired]
    · rename_i alive
      cases ticked
      simp [alive, ready.1]
  · cases ticked

/-- When the tick judges the recorded history as it should. -/
theorem Recorded.judged {interval : Nat} {history : List Mark} {s s' : State}
    (recorded : Recorded history s)
    (ticked : Heartbeat.next interval s .tick = some s') :
    (s'.closeReason = some .heartbeatTimeout ↔
        Silent interval s.now history) ↔
      (Overdue interval s.now history → Undistorted history) := by
  rw [closes_iff ticked, recorded.expired_iff]
  unfold Silent Undistorted
  by_cases overdue : Overdue interval s.now history
  · simp only [overdue, and_true, true_implies]
    omega
  · simp [overdue]

theorem recorded_of_run {interval : Nat} {actions : List Action} {s : State}
    (ran : run (next interval) (initial interval) actions = some s) :
    Recorded (observed (next interval) marks (initial interval) actions) s :=
  invariant_of_observed Recorded Recorded.initial
    (fun _ _ _ _ holds _ stepped => holds.next stepped)
    (@meets_of_forall _ _ _ _ _ (fun _ _ => True) fun _ _ _ => trivial) ran

/-- In every run, a tick closes the session exactly when the peer is silent if
and only if it comes too early to close anything, or the counts from before the
last acknowledgement do not distort the one since. -/
theorem tick_closes_iff_silent_iff {interval : Nat} {actions : List Action}
    {s s' : State}
    (ran : run (next interval) (initial interval) actions = some s)
    (ticked : next interval s .tick = some s') :
    (s'.closeReason = some .heartbeatTimeout ↔
        Silent interval s.now
          (observed (next interval) marks (initial interval) actions)) ↔
      (Overdue interval s.now
          (observed (next interval) marks (initial interval) actions) →
        Undistorted
          (observed (next interval) marks (initial interval) actions)) := by
  have recorded := recorded_of_run ran
  exact recorded.judged ticked

/-- One interval after which a probe is queued and written. -/
def probing : List Action :=
  [.advance 25, .tick, .enqueue true, .written]

/-- Nothing is acknowledged, and the fourth tick closes the session. -/
theorem tick_closes_iff_silent_iff_unanswered :
    ∃ s s',
      run (next 25) (initial 25) (probing ++ probing ++ probing ++
        [.advance 25]) = some s ∧
      next 25 s .tick = some s' ∧
      ((s'.closeReason = some .heartbeatTimeout ↔
          Silent 25 s.now
            (observed (next 25) marks (initial 25)
              (probing ++ probing ++ probing ++ [.advance 25]))) ↔
        (Overdue 25 s.now
            (observed (next 25) marks (initial 25)
              (probing ++ probing ++ probing ++ [.advance 25])) →
          Undistorted
            (observed (next 25) marks (initial 25)
              (probing ++ probing ++ probing ++ [.advance 25])))) :=
  ⟨_, _, rfl, rfl, tick_closes_iff_silent_iff rfl rfl⟩

/-- The peer acknowledges the first probe three times and then falls silent.
Three probes and four intervals later the session stays open. -/
theorem surplus_acknowledgements_mask_silence :
    ∃ s s',
      run (next 25) (initial 25)
          (probing ++ [.ack, .ack, .ack] ++ probing ++ probing ++ probing ++
            [.advance 25]) = some s ∧
      next 25 s .tick = some s' ∧
      Silent 25 s.now
        (observed (next 25) marks (initial 25)
          (probing ++ [.ack, .ack, .ack] ++ probing ++ probing ++ probing ++
            [.advance 25])) ∧
      s'.closeReason = none := by
  refine ⟨_, _, rfl, rfl, ⟨?_, 25, rfl, ?_⟩, rfl⟩
  · decide
  · decide

/-! ## Acknowledgements in turn -/

/-- An acknowledgement answers the one probe that has not been answered. -/
def Answers (s : State) : Action → Prop
  | .ack => s.requestsSent = s.acksReceived + 1
  | _ => True

/-- If every acknowledgement answers the one open probe, every tick closes the
session exactly when the peer is silent. -/
theorem tick_closes_iff_silent {interval : Nat} {actions : List Action}
    {s s' : State}
    (answered : Meets (next interval) Answers (initial interval) actions)
    (ran : run (next interval) (initial interval) actions = some s)
    (ticked : next interval s .tick = some s') :
    s'.closeReason = some .heartbeatTimeout ↔
      Silent interval s.now
        (observed (next interval) marks (initial interval) actions) := by
  have invariant :
      Recorded (observed (next interval) marks (initial interval) actions) s ∧
        probesBefore
            (observed (next interval) marks (initial interval) actions) =
          acknowledgements
            (observed (next interval) marks (initial interval) actions) := by
    refine invariant_of_observed
      (fun history state => Recorded history state ∧
        probesBefore history = acknowledgements history)
      ⟨Recorded.initial, rfl⟩ ?_ answered ran
    intro history state action after holds met stepped
    obtain ⟨recorded, balanced⟩ := holds
    refine ⟨recorded.next stepped, ?_⟩
    cases action with
    | written =>
        simp only [marks, probesBefore_written, acknowledgements,
          List.countP_append]
        exact balanced
    | ack =>
        simp only [marks, probesBefore_acked, acknowledgements,
          List.countP_append]
        have turn : state.requestsSent = state.acksReceived + 1 := met
        rw [← recorded.sent, turn, recorded.acks]
        rfl
    | _ =>
        simp only [marks, List.append_nil]
        exact balanced
  obtain ⟨recorded, balanced⟩ := invariant
  apply (recorded.judged ticked).mpr
  intro _
  unfold Undistorted
  omega

end HermesAtrust.L3.Heartbeat
