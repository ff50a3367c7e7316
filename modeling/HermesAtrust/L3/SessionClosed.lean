import HermesAtrust.L3.SessionInvariant

/-!
# When a caller sees `Closed`

`authorize_flow` answers `Closed` for a sender that was dropped without a
verdict while the flow still has the address of the session.  Shutdown drops
every sender, but `abandon_flow` of another caller and the drain of an address
update drop senders too.  In runs without such a drop, `Closed` is only
answered on a session whose closed flag is set.
-/

namespace HermesAtrust.L3

open HermesAtrust.Framing HermesAtrust.Protocol HermesAtrust.Collections

/-- The caller is still going to look at its channel. -/
def Stage.listening : Stage → Bool
  | .build | .storeFrame _ | .openWrite _ | .enqueue _ | .awaitWrite
  | .recordSent | .arm | .await _ => true
  | _ => false

/-- The caller answers `Closed`, or is going to without a further check. -/
def Stage.closes : Stage → Bool
  | .answered (.error .closed) | .abandonEvict .writeFailed
  | .abandonRemove .writeFailed => true
  | _ => false

/-- The sender is gone and the caller has not compared the address yet. -/
def Attempt.deserted (attempt : Attempt) : Bool :=
  (attempt.slot == .dropped && attempt.stage.listening) ||
    attempt.stage == .resumeDropped

/-- On an open session, caller `c` has this attempt for a flow of the
address. -/
def State.Holds (s : State) (vip : Ipv4Addr) (c : Nat) (attempt : Attempt) :
    Prop :=
  s.closed = false ∧ ∃ request,
    s.callers c = some ⟨request, .attempting attempt⟩ ∧
      request.flow.srcAddr = vip

/-- The step drops no sender of a caller that listens for a flow of the
current address, gives no deserted caller its address back, and does not take
up a failed write before the writer has started the shutdown. -/
def Undisturbed (cfg : SessionConfig) (s : State) : Action → Prop
  | .advance c _ =>
      ∀ request attempt, s.callers c = some ⟨request, .attempting attempt⟩ →
        (∀ reason, attempt.stage = .abandonRemove reason →
          ∀ d other, s.Holds s.vip d other → other.stage.listening = true →
            other.slot = .registered → other.authId ≠ attempt.authId) ∧
        (attempt.stage = .awaitWrite → s.acks c = .failed → s.closed = true)
  | .reader =>
      s.reader = .vipDrain →
        ∀ d other, s.Holds s.vip d other → other.stage.listening = true →
          other.slot ≠ .registered
  | .receive (.vipUpdate status json) =>
      ∀ vip, status = 0 → cfg.firstIpv4InJson json = some vip →
        ∀ d other, s.Holds vip d other → other.deserted = false
  | _ => True

/-- What the attempt of a caller tells about the session. -/
structure AttemptHonest (closed : Prop) (vip : Ipv4Addr)
    (request : AuthRequest) (attempt : Attempt) : Prop where
  closes : attempt.stage.closes = true → closed
  deserted :
    attempt.deserted = true → closed ∨ request.flow.srcAddr ≠ vip

structure Honest (l : Ledger) : Prop where
  writer : l.side.writer.ending = true → l.closed
  answers :
    ∀ c request, l.InPhase c request (.answered (.error .closed)) → l.closed
  attempts :
    ∀ c request attempt, l.Attempting c request attempt →
      AttemptHonest l.closed l.vip request attempt

namespace Honest

section

variable {l l' : Ledger} {c : Nat} {request : AuthRequest}
  {phase old : CallerPhase}

/-- Steps that move no caller keep the address and never reopen. -/
theorem transfer (honest : Honest l) (callers : l'.callers = l.callers)
    (vip : l'.vip = l.vip) (closed : l.closed → l'.closed)
    (writer : l'.side.writer.ending = true → l'.closed) : Honest l' where
  writer := writer
  answers c request stands := by
    unfold Ledger.InPhase at stands
    rw [callers] at stands
    exact closed (honest.answers c request stands)
  attempts c request attempt stands := by
    unfold Ledger.Attempting Ledger.InPhase at stands
    rw [callers] at stands
    have ok := honest.attempts c request attempt stands
    refine ⟨fun closes => closed (ok.closes closes), ?_⟩
    intro deserted
    rw [vip]
    exact (ok.deserted deserted).imp_left closed

theorem setPhase (honest : Honest l) (present : l.InPhase c request old)
    (answer : phase = .answered (.error .closed) → l.closed)
    (attempt :
      ∀ attempt, phase = .attempting attempt →
        AttemptHonest l.closed l.vip request attempt) :
    Honest (l.setPhase c phase) where
  writer := honest.writer
  answers d request' stands := by
    rcases Ledger.inPhase_setPhase_cases present stands with
      ⟨-, -, chosen⟩ | ⟨-, before⟩
    · exact answer chosen
    · exact honest.answers d request' before
  attempts d request' attempt' stands := by
    rcases Ledger.inPhase_setPhase_cases present stands with
      ⟨-, rfl, chosen⟩ | ⟨-, before⟩
    · exact attempt attempt' chosen
    · exact honest.attempts d request' attempt' before

theorem setStage (honest : Honest l) {attempt : Attempt}
    (present : l.Attempting c request attempt) {stage : Stage}
    (ok :
      AttemptHonest l.closed l.vip request { attempt with stage := stage }) :
    Honest (l.setPhase c (.attempting { attempt with stage := stage })) := by
  refine honest.setPhase present (fun impossible => by cases impossible) ?_
  intro moved isMoved
  cases isMoved
  exact ok

/-- Senders are dropped of callers that cannot take it for an end only. -/
theorem wake (honest : Honest l) {selected : Nat → Bool} {slot : Slot}
    (harmless :
      slot = .dropped →
        ∀ c request attempt, l.Attempting c request attempt →
          attempt.slot = .registered → selected attempt.authId = true →
          attempt.stage.listening = true →
          l.closed ∨ request.flow.srcAddr ≠ l.vip) :
    Honest (l.wake selected slot) where
  writer := honest.writer
  answers c request stands :=
    honest.answers c request (Ledger.answered_wake.mp stands)
  attempts c request attempt stands := by
    obtain ⟨former, before, rfl⟩ := Ledger.attempting_wake.mp stands
    have ok := honest.attempts c request former before
    refine ⟨by rw [Attempt.wake_stage]; exact ok.closes, ?_⟩
    intro deserted
    unfold Attempt.deserted at deserted
    rw [Attempt.wake_stage, Attempt.wake_slot] at deserted
    split at deserted
    · rename_i chosen
      rw [Bool.or_eq_true, Bool.and_eq_true, beq_iff_eq] at deserted
      rcases deserted with ⟨dropped, listening⟩ | resumes
      · exact harmless dropped c request former before chosen.1 chosen.2
          listening
      · exact ok.deserted (by simp [Attempt.deserted, resumes])
    · exact ok.deserted deserted

/-- A verdict never reads as an end. -/
theorem deliver (honest : Honest l) (selected : Nat → Bool)
    (outcome : AuthOutcome) : Honest (l.wake selected (.sent outcome)) :=
  honest.wake fun impossible => by cases impossible

/-- Shutdown begins; the writer may leave its loop. -/
theorem begin (honest : Honest l) (side : Periphery) :
    Honest { l.beginShutdown with side := side } := by
  have closed := l.beginShutdown_closed
  obtain ⟨shutdown, begun⟩ := l.beginShutdown_eq
  refine honest.transfer ?_ ?_ (fun _ => closed) (fun _ => closed)
  · rw [begun]
  · rw [begun]

end

end Honest

namespace AttemptHonest

variable {closed : Prop} {vip : Ipv4Addr} {request : AuthRequest}
  {attempt : Attempt} {stage : Stage}

/-- A stage behind the channel. -/
theorem behind (slot : Slot) (authId : Nat) (mustSend : Bool)
    (closes : stage.closes = true → closed)
    (deaf : stage.listening = false) (checked : stage ≠ .resumeDropped) :
    AttemptHonest closed vip request ⟨authId, mustSend, slot, stage⟩ where
  closes := closes
  deserted deserted := by simp [Attempt.deserted, deaf, checked] at deserted

/-- A step in front of the channel, or the one that looks at it. -/
theorem forward (ok : AttemptHonest closed vip request attempt)
    (listens : attempt.stage.listening = true)
    (closes : stage.closes = true → closed)
    (dropped : stage = .resumeDropped → attempt.slot = .dropped) :
    AttemptHonest closed vip request { attempt with stage := stage } where
  closes := closes
  deserted deserted := by
    refine ok.deserted ?_
    unfold Attempt.deserted at deserted ⊢
    rw [Bool.or_eq_true, Bool.and_eq_true, beq_iff_eq, beq_iff_eq] at deserted
    rcases deserted with ⟨gone, -⟩ | resumes
    · have was : attempt.slot = .dropped := gone
      simp [was, listens]
    · simp [dropped resumes, listens]

end AttemptHonest

namespace Honest

section

variable {cfg : SessionConfig} {s s' : State} {c : Nat}
  {request : AuthRequest} {phase : CallerPhase} {action : Action}

/-- Nobody holds the attempt for the address on an open session. -/
private theorem safe_of_not_holds {vip : Ipv4Addr} {attempt : Attempt}
    (present : s.ledger.Attempting c request attempt)
    (absent : ¬ s.Holds vip c attempt) :
    s.ledger.closed ∨ request.flow.srcAddr ≠ vip := by
  by_contra visible
  rw [not_or, not_not] at visible
  refine absent ⟨?_, request, present, visible.2⟩
  cases closed : s.closed with
  | false => rfl
  | true => exact absurd (State.closed_iff.mp closed) visible.1

private theorem readStage_honest (honest : Honest s.ledger)
    {attempt : Attempt} (present : s.ledger.Attempting c request attempt)
    {order : IterationOrder ConntrackEntry}
    (undisturbed : Undisturbed cfg s (.advance c order)) {stage : Stage}
    (moved : s.readStage cfg c request attempt = some stage) :
    AttemptHonest s.ledger.closed s.ledger.vip request
      { attempt with stage := stage } := by
  have ok := honest.attempts c request attempt present
  have writes := (undisturbed request attempt present).2
  cases readStep_of_readStage moved with
  | buildFailed stands =>
      exact ok.forward (by rw [stands]; rfl) (by simp [Stage.closes]) (by simp)
  | built stands built =>
      exact ok.forward (by rw [stands]; rfl) (by simp [Stage.closes]) (by simp)
  | openClosed stands closed =>
      exact ok.forward (by rw [stands]; rfl) (fun _ => closed) (by simp)
  | openRunning stands =>
      exact ok.forward (by rw [stands]; rfl) (by simp [Stage.closes]) (by simp)
  | writeStopped stands stopped =>
      exact ok.forward (by rw [stands]; rfl)
        (fun _ => State.closed_of_stopSignalled stopped) (by simp)
  | writeFailed stands failed =>
      exact ok.forward (by rw [stands]; rfl)
        (fun _ => State.closed_iff.mp (writes stands failed)) (by simp)
  | written stands =>
      exact ok.forward (by rw [stands]; rfl) (by simp [Stage.closes]) (by simp)
  | armed stands =>
      exact ok.forward (by rw [stands]; rfl) (by simp [Stage.closes]) (by simp)
  | ready stands sent =>
      exact ok.forward (by rw [stands]; rfl) (by simp [Stage.closes]) (by simp)
  | refused stands sent =>
      exact ok.forward (by rw [stands]; rfl) (by simp [Stage.closes]) (by simp)
  | dropped stands dropped =>
      exact ok.forward (by rw [stands]; rfl) (by simp [Stage.closes])
        (fun _ => dropped)
  | granted stands =>
      exact .behind _ _ _ (by simp [Stage.closes]) rfl (by simp)
  | ended stands own =>
      refine .behind _ _ _ (fun _ => ?_) rfl (by simp)
      have deserted : attempt.deserted = true := by
        simp [Attempt.deserted, stands]
      rcases ok.deserted deserted with closed | foreign
      · exact closed
      · exact absurd own foreign
  | moved stands foreign =>
      exact .behind _ _ _ (by simp [Stage.closes]) rfl (by simp)
  | reported stands =>
      exact .behind _ _ _ (by simp [Stage.closes]) rfl (by simp)

private theorem claimFlow (honest : Honest s.ledger) (sound : Sound s.ledger)
    (present : s.ledger.InPhase c request .claim)
    (order : IterationOrder ConntrackEntry) :
    Honest (s.claimFlow order c request).ledger := by
  obtain ⟨table, gone, position, -, claims, effect⟩ :=
    claimFlow_effect sound.wellFormed order c request
  rw [effect]
  have locked :
      Honest { s.ledger with table := table, tableOwner := some c } :=
    honest.transfer rfl rfl id honest.writer
  refine (locked.deliver gone _).setPhase
    (Ledger.inPhase_mapPhases.mpr ⟨.claim, present, rfl⟩) ?_ ?_
  · rintro rfl
    cases claims
  · rintro attempt rfl
    cases claims

/-- An undisturbed step of a caller keeps the invariant. -/
theorem callerStep (honest : Honest s.ledger) (sound : Sound s.ledger)
    (undisturbed : Undisturbed cfg s action)
    (present : s.ledger.InPhase c request phase)
    (step : CallerStep cfg s c request action phase s') :
    Honest s'.ledger := by
  cases step with
  | check checked =>
      refine honest.setPhase present ?_ ?_
      · rintro rfl
        cases checkStep_of_checkPhase checked with
        | closed closed => exact closed
      · rintro attempt rfl
        cases checkStep_of_checkPhase checked
  | claim free => exact claimFlow honest sound present _
  | claimSettle =>
      exact honest.setPhase present (fun impossible => by cases impossible)
        (fun _ impossible => by cases impossible)
  | insert room =>
      have own := (sound.claiming c request _ present rfl).2
      rcases insertFlow_cases (c := c) sound.wellFormed room own with
        ⟨entry, outcome, table, -, -, -, -, -, effect⟩ |
        ⟨entry, authId, mustSend, table, registers, effect⟩
      · rw [effect]
        have released :
            Honest { s.ledger with table := table, tableOwner := none } :=
          honest.transfer rfl rfl id honest.writer
        refine released.setPhase present ?_
          (fun _ impossible => by cases impossible)
        intro isAnswer
        cases outcome <;> cases isAnswer
      · rw [effect]
        have released :
            Honest { s.ledger with table := table, tableOwner := none } :=
          honest.transfer rfl rfl id honest.writer
        refine released.setPhase present
          (fun impossible => by cases impossible) ?_
        intro attempt isAttempt
        cases isAttempt
        refine ⟨?_, ?_⟩
        · cases mustSend <;> simp [Stage.closes]
        · cases mustSend <;> simp [Attempt.deserted]
  | read moved =>
      exact honest.setStage present
        (readStage_honest honest present undisturbed moved)
  | storeFrame stands free =>
      rename_i attempt frame
      have ok := honest.attempts c request attempt present
      have stored :
          Honest { s.ledger with
            table :=
              s.table.modifyByAuthId attempt.authId fun entry =>
                if entry.authInFlight then
                  entry.setReusableFrame frame
                    (s.now + cfg.retry.overallAuthDeadline)
                else
                  entry } :=
        honest.transfer rfl rfl id honest.writer
      exact stored.setStage present
        (ok.forward (by rw [stands]; rfl) (by simp [Stage.closes]) (by simp))
  | enqueueFailed stands ended =>
      have ok := honest.attempts c request _ present
      refine honest.setStage present
        (ok.forward (by rw [stands]; rfl) (fun _ => ?_) (by simp))
      rcases ended with signalled | stopped
      · exact State.closed_of_stopSignalled signalled
      · refine honest.writer ?_
        change s.writer.ending = true
        rw [stopped]
        rfl
  | enqueue stands =>
      have ok := honest.attempts c request _ present
      have moved :=
        honest.setStage present
          (ok.forward (by rw [stands]; rfl)
            (by simp [Stage.closes] : Stage.awaitWrite.closes = true → _)
            (by simp))
      exact moved.transfer rfl rfl id moved.writer
  | recordSent stands =>
      have ok := honest.attempts c request _ present
      exact honest.setStage present
        (ok.forward (by rw [stands]; rfl) (by simp [Stage.closes]) (by simp))
  | abandonEvict stands free =>
      rename_i attempt reason
      have ok := honest.attempts c request attempt present
      have evicted :
          Honest { s.ledger with
            table := (s.table.evictByAuthId attempt.authId).1 } :=
        honest.transfer rfl rfl id honest.writer
      refine evicted.setStage present (.behind _ _ _ ?_ rfl (by simp))
      intro closes
      refine ok.closes ?_
      rw [stands]
      cases reason <;> first | rfl | cases closes
  | abandonRemove stands =>
      rename_i attempt reason
      have ok := honest.attempts c request attempt present
      have alone := (undisturbed request attempt present).1 reason stands
      have woken :
          Honest (s.ledger.wake (· == attempt.authId) .dropped) := by
        refine honest.wake ?_
        intro _ d request' other before waiting same listening
        refine safe_of_not_holds before ?_
        intro holds
        exact alone d other holds listening waiting (beq_iff_eq.mp same)
      refine woken.setStage
        (Ledger.attempting_wake.mpr ⟨attempt, present, rfl⟩) ?_
      rcases afterAbandon_cases request attempt.mustSend reason with
        counted | ⟨error, answered, honestly⟩
      · rw [counted]
        exact .behind _ _ _ (by simp [Stage.closes]) rfl (by simp)
      · rw [answered]
        refine .behind _ _ _ ?_ rfl (by simp)
        intro closes
        have isClosed : error = .closed := by
          unfold Stage.closes at closes
          split at closes <;> simp_all
        refine ok.closes ?_
        rw [stands, honestly isClosed]
        rfl
  | settleTimeout stands =>
      exact honest.setStage present
        (.behind _ _ _ (by simp [Stage.closes]) rfl (by simp))
  | expire stands empty due =>
      have ok := honest.attempts c request _ present
      exact honest.setStage present
        (ok.forward (by rw [stands]; rfl) (by simp [Stage.closes]) (by simp))
  | cancel suspended =>
      exact honest.setStage present
        (.behind _ _ _ (by simp [Stage.closes]) rfl (by simp))

/-- An undisturbed step of another task keeps the invariant. -/
theorem taskStep {l' : Ledger} (honest : Honest s.ledger)
    (undisturbed : Undisturbed cfg s action)
    (step : TaskStep cfg s.ledger action l') : Honest l' := by
  have writer := honest.writer
  cases step with
  | side moves =>
      refine honest.transfer rfl rfl id ?_
      cases moves with
      | taken waiting => exact fun impossible => by cases impossible
      | writerMove open_ =>
          intro ending
          exact absurd (ending.symm.trans open_) (by simp)
      | writerEnding closed => exact fun _ => closed
      | writerStopped stands =>
          intro _
          refine writer ?_
          rw [stands]
          rfl
      | _ => exact writer
  | authorizeFlow fresh =>
      refine ⟨writer, ?_, ?_⟩
      · intro d request' stands
        rcases Ledger.inPhase_start stands with impossible | before
        · cases impossible
        · exact honest.answers d request' before
      · intro d request' attempt stands
        rcases Ledger.inPhase_start stands with impossible | before
        · cases impossible
        · exact honest.attempts d request' attempt before
  | vipChanged idle accepted found changed =>
      refine ⟨writer, honest.answers, ?_⟩
      intro d request' attempt stands
      have ok := honest.attempts d request' attempt stands
      refine ⟨ok.closes, ?_⟩
      intro deserted
      refine safe_of_not_holds stands ?_
      intro holds
      have listed := undisturbed _ accepted found d attempt holds
      rw [deserted] at listed
      cases listed
  | vipDrain stands =>
      have alone := undisturbed stands
      have woken : Honest (s.ledger.wake (fun _ => true) .dropped) := by
        refine honest.wake ?_
        intro _ d request' attempt before waiting _ listening
        refine safe_of_not_holds before ?_
        intro holds
        exact alone d attempt holds listening waiting
      exact woken.transfer rfl rfl id woken.writer
  | readerNotify stands =>
      rename_i authId outcome
      have woken := honest.deliver (· == authId) outcome
      exact woken.transfer rfl rfl id woken.writer
  | schedulerNotify stands =>
      rename_i authId outcome
      have woken := honest.deliver (· == authId) outcome
      exact woken.transfer rfl rfl id woken.writer
  | readerStop stands =>
      have begun := honest.begin s.ledger.beginShutdown.side
      exact begun.transfer rfl rfl id begun.writer
  | schedulerClosing stands =>
      have begun := honest.begin s.ledger.beginShutdown.side
      exact begun.transfer rfl rfl id begun.writer
  | writerClosing => exact honest.begin _
  | close => exact honest.begin s.ledger.beginShutdown.side
  | stopSignal stands =>
      exact honest.transfer rfl rfl (fun _ => by simp [Ledger.closed])
        (fun _ => by simp [Ledger.closed])
  | unsubscribe stands free =>
      exact honest.transfer rfl rfl (fun _ => by simp [Ledger.closed])
        (fun _ => by simp [Ledger.closed])
  | clearTable cancelled free stands =>
      exact honest.transfer rfl rfl (fun _ => by simp [Ledger.closed])
        (fun _ => by simp [Ledger.closed])
  | countCancelled stands =>
      exact honest.transfer rfl rfl (fun _ => by simp [Ledger.closed])
        (fun _ => by simp [Ledger.closed])
  | drain stands =>
      have closed : s.ledger.closed := by simp [Ledger.closed, stands]
      have woken : Honest (s.ledger.wake (fun _ => true) .dropped) := by
        refine honest.wake ?_
        intro _ d request' attempt before waiting _ listening
        exact Or.inl closed
      exact woken.transfer rfl rfl (fun _ => by simp [Ledger.closed])
        (fun _ => by simp [Ledger.closed])
  | _ => exact honest.transfer rfl rfl id writer

end

theorem initial (vip : Ipv4Addr) (now : Nat) :
    Honest (State.initial vip now).ledger where
  writer ending := by cases ending
  answers c request stands := by cases stands
  attempts c request attempt stands := by cases stands

/-- The invariant holds along undisturbed runs. -/
theorem run {cfg : SessionConfig} {vip : Ipv4Addr} {now : Nat}
    {actions : List Action} {s : State}
    (undisturbed :
      Concurrency.Meets (next cfg) (Undisturbed cfg) (State.initial vip now)
        actions)
    (ran :
      Concurrency.run (next cfg) (State.initial vip now) actions = some s) :
    Honest s.ledger := by
  refine invariant_of_steps (fun t => Honest t.ledger)
    (Honest.initial vip now) ?_ ?_ undisturbed ran
  · intro t after action c request phase sound honest calm present step
    exact honest.callerStep sound calm present step
  · intro t after action _ honest calm step
    exact honest.taskStep calm step

end Honest

/-- In an undisturbed run, `Closed` means that the session is closed. -/
theorem closed_of_returned_closed {cfg : SessionConfig} {vip : Ipv4Addr}
    {now : Nat} {actions : List Action} {s : State} {c : Nat}
    {request : AuthRequest}
    (undisturbed :
      Concurrency.Meets (next cfg) (Undisturbed cfg) (State.initial vip now)
        actions)
    (ran :
      Concurrency.run (next cfg) (State.initial vip now) actions = some s)
    (returned : s.returned c = some (request, .error .closed)) :
    s.closed = true := by
  have honest := Honest.run undisturbed ran
  rw [State.closed_iff]
  rcases State.returned_cases returned with answered | ⟨attempt, stands, done⟩
  · exact honest.answers c request answered
  · refine (honest.attempts c request attempt stands).closes ?_
    rw [done]
    rfl

namespace Sample

/-- Steps without an address update in which no caller abandons its attempt or
reads the failure of its write. -/
def calm (s : State) : Action → Bool
  | .advance c _ =>
      match s.callers c with
      | some ⟨_, .attempting attempt⟩ =>
          match attempt.stage with
          | .abandonRemove _ => false
          | .awaitWrite => s.acks c != .failed
          | _ => true
      | _ => true
  | .reader => s.reader != .vipDrain
  | .receive (.vipUpdate _ _) => false
  | _ => true

theorem undisturbed_of_calm {cfg : SessionConfig} {s : State} {action : Action}
    (calm : Sample.calm s action = true) : Undisturbed cfg s action := by
  cases action with
  | advance c order =>
      intro request attempt present
      simp only [Sample.calm, present] at calm
      refine ⟨?_, ?_⟩
      · intro reason stands
        simp [stands] at calm
      · intro stands failed
        simp [stands, failed] at calm
  | reader =>
      intro drains
      simp [Sample.calm, drains] at calm
  | receive frame =>
      cases frame with
      | vipUpdate status json => cases calm
      | _ => trivial
  | _ => trivial

/-- Two callers wait on one attempt when the session is closed; the shutdown
drops both senders. -/
def closedWhileWaiting : List Action :=
  firstCall ++ [.authorizeFlow 1 request] ++ advances 1 5 ++ [.close] ++
    List.replicate 5 .shutdown ++ advances 0 2 ++ advances 1 2

end Sample

/-- Both callers learn that the session is closed. -/
theorem closed_of_returned_closed_sample :
    ∃ s, Concurrency.run (next (Sample.config .disabled))
        (State.initial Sample.vip 0) Sample.closedWhileWaiting = some s ∧
      s.returned 0 = some (Sample.request, .error .closed) ∧
      s.returned 1 = some (Sample.request, .error .closed) ∧
      s.closed = true := by
  have calm :
      Concurrency.Meets (next (Sample.config .disabled))
        (fun s action => Sample.calm s action = true)
        (State.initial Sample.vip 0) Sample.closedWhileWaiting := by
    decide +kernel
  apply Concurrency.exists_of_view (fun s => (s.returned 0, s.returned 1))
    (some (Sample.request, .error .closed),
      some (Sample.request, .error .closed))
    (by decide +kernel)
  intro s ran seen
  obtain ⟨first, second⟩ := Prod.mk.inj seen
  exact ⟨first, second,
    closed_of_returned_closed
      (Concurrency.meets_mono (fun _ _ => Sample.undisturbed_of_calm) calm)
      ran second⟩

/-- The second caller joins the attempt of the first one second later.  The
first caller times out, abandons the flow and drops the sender of the second,
which reports a closed session although nothing has closed it. -/
theorem returned_closed_on_open_session :
    ¬ ∀ (cfg : SessionConfig) (vip : Ipv4Addr) (now : Nat)
      (actions : List Action) (s : State) (c : Nat) (request : AuthRequest),
      Concurrency.run (next cfg) (State.initial vip now) actions = some s →
      s.returned c = some (request, .error .closed) → s.closed = true := by
  intro claim
  have shows :
      (Concurrency.run (next (Sample.config .disabled))
          (State.initial Sample.vip 0)
          (Sample.firstCall ++
            [Action.tick second, Action.authorizeFlow 1 Sample.request] ++
            Sample.advances 1 5 ++
            [Action.tick (7 * second), Action.expire 0] ++
            Sample.advances 0 2 ++ Sample.advances 1 2)).bind
          (fun s => (s.returned 1).map fun answer => (answer, s.closed)) =
        some ((Sample.request, .error .closed), false) := by
    decide +kernel
  obtain ⟨s, ran, answer⟩ := Option.bind_eq_some_iff.mp shows
  obtain ⟨returned, answered, same⟩ := Option.map_eq_some_iff.mp answer
  obtain ⟨rfl, open_⟩ := Prod.mk.inj same
  have closed := claim _ _ _ _ s 1 _ ran answered
  rw [open_] at closed
  cases closed

end HermesAtrust.L3
