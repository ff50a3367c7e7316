import HermesAtrust.L3.SessionInvariant

/-!
# Where connect tokens come from

A token reaches a caller over a cached outcome, over its channel or over the
stages behind it.  `Vouched` says that each of these places only holds tokens
with a given justification for the request of the caller; it survives every
step, and the only step that needs a new justification is the receipt of a
`0x93`.  The justification used for runs is a response of the server, earlier
in the run, to an attempt that was open and belonged to the same flow and
resource.
-/

namespace HermesAtrust.L3

open HermesAtrust.Framing HermesAtrust.Protocol HermesAtrust.Collections

/-- The run `past` received a `0x93` with wire status `0`, code `0` and this
trimmed, non-empty token, at a moment when the id it names was a live attempt
without outcome for the flow and the resource of the request. -/
def Granted (cfg : SessionConfig) (start : State) (past : List Action)
    (request : AuthRequest) (connectToken : String) : Prop :=
  ∃ before json after s response entry,
    past = before ++ .receive (.auth 0 json) :: after ∧
      Concurrency.run (next cfg) start before = some s ∧
      parseL3AuthResponse cfg.codec json = .ok response ∧
      response.code = 0 ∧ response.connectToken = connectToken ∧
      connectToken ≠ "" ∧ trim connectToken = connectToken ∧
      s.table.getByAuthId response.conntrackHash = some entry ∧
      entry.outcome = none ∧ Matches request entry

theorem Granted.append {cfg : SessionConfig} {start : State}
    {past : List Action} {request : AuthRequest} {connectToken : String}
    (granted : Granted cfg start past request connectToken)
    (later : List Action) :
    Granted cfg start (past ++ later) request connectToken := by
  obtain ⟨before, json, after, s, response, entry, rfl, facts⟩ := granted
  exact ⟨before, json, after ++ later, s, response, entry, by simp, facts⟩

/-- The token a stage carries. -/
def Stage.token : Stage → Option String
  | .resumeReady connectToken => some connectToken
  | .answered (.ok connectToken) => some connectToken
  | _ => none

/-- Every token on its way to the attempt is justified. -/
structure AttemptVouched (grant : AuthRequest → String → Prop)
    (delivering : Nat → AuthOutcome → Prop) (request : AuthRequest)
    (attempt : Attempt) : Prop where
  sent :
    ∀ connectToken, attempt.slot = .sent (.ready connectToken) →
      grant request connectToken
  held :
    ∀ connectToken, attempt.stage.token = some connectToken →
      grant request connectToken
  pending :
    attempt.slot = .registered →
      ∀ connectToken, delivering attempt.authId (.ready connectToken) →
        grant request connectToken

structure Vouched (grant : AuthRequest → String → Prop) (l : Ledger) :
    Prop where
  entries :
    ∀ authId entry connectToken, l.live authId = some entry →
      entry.outcome = some (.ready connectToken) →
      ∀ request, Matches request entry → grant request connectToken
  attempts :
    ∀ c request attempt, l.Attempting c request attempt →
      AttemptVouched grant l.Delivering request attempt
  answers :
    ∀ c request connectToken,
      l.InPhase c request (.answered (.ok connectToken)) →
      grant request connectToken

theorem Matches.of_heir {request : AuthRequest}
    {entry changed : ConntrackEntry} (own : Matches request changed)
    (heir : Heir entry changed) : Matches request entry :=
  ⟨heir.key.symm.trans own.key, heir.appId.symm.trans own.appId,
    heir.nodeGroupId.symm.trans own.nodeGroupId⟩

namespace Vouched

section

variable {grant grant' : AuthRequest → String → Prop} {l : Ledger} {c : Nat}
  {request : AuthRequest} {phase old : CallerPhase}

theorem mono (vouched : Vouched grant l)
    (weaker :
      ∀ request connectToken, grant request connectToken →
        grant' request connectToken) : Vouched grant' l where
  entries authId entry token live ready request own :=
    weaker _ _ (vouched.entries authId entry token live ready request own)
  attempts c request attempt stands := by
    have ok := vouched.attempts c request attempt stands
    exact ⟨fun token sent => weaker _ _ (ok.sent token sent),
      fun token held => weaker _ _ (ok.held token held),
      fun waiting token delivers =>
        weaker _ _ (ok.pending waiting token delivers)⟩
  answers c request token stands :=
    weaker _ _ (vouched.answers c request token stands)

theorem setPhase (vouched : Vouched grant l)
    (present : l.InPhase c request old)
    (answer :
      ∀ connectToken, phase = .answered (.ok connectToken) →
        grant request connectToken)
    (attempt :
      ∀ attempt, phase = .attempting attempt →
        AttemptVouched grant l.Delivering request attempt) :
    Vouched grant (l.setPhase c phase) where
  entries := vouched.entries
  attempts d request' attempt' stands := by
    rcases Ledger.inPhase_setPhase_cases present stands with
      ⟨-, rfl, chosen⟩ | ⟨-, before⟩
    · exact attempt attempt' chosen
    · exact vouched.attempts d request' attempt' before
  answers d request' token stands := by
    rcases Ledger.inPhase_setPhase_cases present stands with
      ⟨-, rfl, chosen⟩ | ⟨-, before⟩
    · exact answer token chosen
    · exact vouched.answers d request' token before

theorem setStage (vouched : Vouched grant l) {attempt : Attempt}
    (present : l.Attempting c request attempt) {stage : Stage}
    (held :
      ∀ connectToken, stage.token = some connectToken →
        grant request connectToken) :
    Vouched grant
      (l.setPhase c (.attempting { attempt with stage := stage })) := by
  have ok := vouched.attempts c request attempt present
  refine vouched.setPhase present (fun _ impossible => by cases impossible) ?_
  intro moved isMoved
  cases isMoved
  exact ⟨ok.sent, held, ok.pending⟩

/-- A stage without token needs no justification. -/
theorem setPlainStage (vouched : Vouched grant l) {attempt : Attempt}
    (present : l.Attempting c request attempt) {stage : Stage}
    (plain : stage.token = none) :
    Vouched grant
      (l.setPhase c (.attempting { attempt with stage := stage })) := by
  refine vouched.setStage present ?_
  intro token held
  rw [plain] at held
  cases held

/-- Senders are used for outcomes that are being delivered. -/
theorem wake (vouched : Vouched grant l) {selected : Nat → Bool} {slot : Slot}
    (spent : slot ≠ .registered)
    (delivered :
      ∀ connectToken, slot = .sent (.ready connectToken) →
        ∀ authId, selected authId = true →
          l.Delivering authId (.ready connectToken)) :
    Vouched grant (l.wake selected slot) where
  entries := vouched.entries
  attempts d request' attempt stands := by
    obtain ⟨former, before, rfl⟩ := Ledger.attempting_wake.mp stands
    have ok := vouched.attempts d request' former before
    refine ⟨?_, ?_, ?_⟩
    · intro token sent
      rw [Attempt.wake_slot] at sent
      split at sent
      · rename_i chosen
        exact ok.pending chosen.1 token
          (delivered token sent former.authId chosen.2)
      · exact ok.sent token sent
    · simpa using ok.held
    · intro waiting
      rw [Attempt.wake_authId]
      exact ok.pending (Attempt.registered_of_wake spent waiting).1
  answers d request' token stands :=
    vouched.answers d request' token (Ledger.answered_wake.mp stands)

/-- The table evolves; each new grant is justified. -/
theorem evolve (vouched : Vouched grant l) {table : ConntrackTable}
    (evolves : Evolves Heir l.table table)
    (news :
      ∀ authId entry changed connectToken, l.live authId = some entry →
        table.getByAuthId authId = some changed → entry.outcome = none →
        changed.outcome = some (.ready connectToken) →
        ∀ request, Matches request entry → grant request connectToken) :
    Vouched grant { l with table := table } where
  entries authId changed token live ready request own := by
    obtain ⟨entry, former, heir⟩ := evolves.continues authId changed live
    cases verdict : entry.outcome with
    | none =>
        exact news authId entry changed token former live verdict ready
          request (own.of_heir heir)
    | some outcome =>
        have kept := heir.settled outcome verdict
        rw [ready] at kept
        cases kept
        exact vouched.entries authId entry token former verdict request
          (own.of_heir heir)
  attempts c request attempt stands := by
    have ok := vouched.attempts c request attempt stands
    exact ⟨ok.sent, ok.held, ok.pending⟩
  answers := vouched.answers

theorem evolveCalm (vouched : Vouched grant l) {table : ConntrackTable}
    (evolves : Evolves Calm l.table table) :
    Vouched grant { l with table := table } where
  entries authId changed token live ready request own := by
    obtain ⟨entry, former, calm⟩ := evolves.continues authId changed live
    exact vouched.entries authId entry token former
      (calm.granted token ready) request (own.of_heir calm.toHeir)
  attempts c request attempt stands := by
    have ok := vouched.attempts c request attempt stands
    exact ⟨ok.sent, ok.held, ok.pending⟩
  answers := vouched.answers

/-- The reader moves; what it starts to deliver is justified. -/
theorem setReader (vouched : Vouched grant l) {position : ReaderPc}
    (delivers :
      ∀ authId connectToken,
        position = .settle authId (.ready connectToken) ∨
          position = .notify authId (.ready connectToken) →
        ∀ c request attempt, l.Attempting c request attempt →
          attempt.slot = .registered → attempt.authId = authId →
          grant request connectToken) :
    Vouched grant { l with reader := position } where
  entries := vouched.entries
  attempts c request attempt stands := by
    have ok := vouched.attempts c request attempt stands
    refine ⟨ok.sent, ok.held, ?_⟩
    intro waiting token delivering
    rcases delivering with reader | scheduler
    · exact delivers _ token reader c request attempt stands waiting rfl
    · exact ok.pending waiting token (Or.inr scheduler)
  answers := vouched.answers

theorem setReaderPlain (vouched : Vouched grant l) {position : ReaderPc}
    (plain :
      ∀ authId outcome,
        ¬ (position = .settle authId outcome ∨
          position = .notify authId outcome)) :
    Vouched grant { l with reader := position } :=
  vouched.setReader fun authId _ delivers =>
    absurd delivers (plain authId _)

theorem setScheduler (vouched : Vouched grant l) {position : SchedulerPc}
    (delivers :
      ∀ authId connectToken,
        position = .settle authId (.ready connectToken) ∨
          position = .notify authId (.ready connectToken) →
        ∀ c request attempt, l.Attempting c request attempt →
          attempt.slot = .registered → attempt.authId = authId →
          grant request connectToken) :
    Vouched grant { l with scheduler := position } where
  entries := vouched.entries
  attempts c request attempt stands := by
    have ok := vouched.attempts c request attempt stands
    refine ⟨ok.sent, ok.held, ?_⟩
    intro waiting token delivering
    rcases delivering with reader | scheduler
    · exact ok.pending waiting token (Or.inl reader)
    · exact delivers _ token scheduler c request attempt stands waiting rfl
  answers := vouched.answers

theorem setSchedulerPlain (vouched : Vouched grant l)
    {position : SchedulerPc}
    (plain :
      ∀ authId outcome,
        ¬ (position = .settle authId outcome ∨
          position = .notify authId outcome)) :
    Vouched grant { l with scheduler := position } :=
  vouched.setScheduler fun authId _ delivers =>
    absurd delivers (plain authId _)

/-- Fields that no token depends on. -/
theorem setOther (vouched : Vouched grant l) (vip : Ipv4Addr)
    (shutdown : ShutdownPhase) (tableOwner : Option Nat) (side : Periphery) :
    Vouched grant
      { l with
        vip := vip
        shutdown := shutdown
        tableOwner := tableOwner
        side := side } :=
  ⟨vouched.entries, fun c request attempt stands =>
    have ok := vouched.attempts c request attempt stands
    ⟨ok.sent, ok.held, ok.pending⟩, vouched.answers⟩

theorem beginShutdown (vouched : Vouched grant l) :
    Vouched grant l.beginShutdown := by
  unfold Ledger.beginShutdown
  split
  · exact vouched.setOther l.vip _ l.tableOwner _
  · exact vouched

/-- The caller that holds the mutex registers: nothing is being delivered for
its id. -/
theorem register (vouched : Vouched grant l) (sound : Sound l)
    (present : l.InPhase c request phase) {table : ConntrackTable}
    {authId : Nat} {mustSend : Bool} {entry : ConntrackEntry} {stage : Stage}
    (registers : Registers l.table table request authId mustSend entry)
    (plain : stage.token = none) :
    Vouched grant ({ l with table := table, tableOwner := none }.setPhase c
      (.attempting ⟨authId, mustSend, .registered, stage⟩)) := by
  have inserted :
      Vouched grant { l with table := table, tableOwner := none } := by
    refine ⟨?_, ?_, vouched.answers⟩
    · intro other found token live ready request' own
      by_cases same : other = authId
      · subst other
        have isEntry := Option.some.inj (registers.stored.symm.trans live)
        subst found
        rw [registers.unsettled] at ready
        cases ready
      · exact vouched.entries other found token
          ((registers.others other same).symm.trans live) ready request' own
    · intro d request' attempt stands
      have ok := vouched.attempts d request' attempt stands
      exact ⟨ok.sent, ok.held, ok.pending⟩
  refine inserted.setPhase present (fun _ impossible => by cases impossible) ?_
  intro attempt isAttempt
  cases isAttempt
  refine ⟨?_, ?_, ?_⟩
  · intro token impossible
    cases impossible
  · intro token held
    rw [plain] at held
    cases held
  · intro _ token delivers
    obtain ⟨assigned, settled⟩ := sound.delivering authId _ delivers
    rcases registers.origin with ⟨former, held, -, unsettled, -⟩ | ⟨fresh, -⟩
    · exact absurd unsettled (settled former held)
    · omega

end

section

variable {grant : AuthRequest → String → Prop} {cfg : SessionConfig}
  {s s' : State} {c : Nat} {request : AuthRequest} {phase : CallerPhase}
  {action : Action}

private theorem readStage_token (vouched : Vouched grant s.ledger)
    {attempt : Attempt} (present : s.ledger.Attempting c request attempt)
    {stage : Stage}
    (moved : s.readStage cfg c request attempt = some stage)
    (connectToken : String) (held : stage.token = some connectToken) :
    grant request connectToken := by
  have ok := vouched.attempts c request attempt present
  cases readStep_of_readStage moved with
  | ready stands sent =>
      cases held
      exact ok.sent _ sent
  | granted stands =>
      cases held
      refine ok.held _ ?_
      rw [stands]
      rfl
  | _ => cases held

private theorem afterAbandon_token (mustSend : Bool) (cause : AbandonReason) :
    (State.afterAbandon request mustSend cause).token = none := by
  rcases afterAbandon_cases request mustSend cause with
    counted | ⟨error, answered, -⟩
  · simp [counted, Stage.token]
  · simp [answered, Stage.token]

private theorem claimFlow (vouched : Vouched grant s.ledger)
    (sound : Sound s.ledger) (present : s.ledger.InPhase c request .claim)
    (order : IterationOrder ConntrackEntry) :
    Vouched grant (s.claimFlow order c request).ledger := by
  obtain ⟨table, gone, position, claimed, claims, effect⟩ :=
    claimFlow_effect sound.wellFormed order c request
  rw [effect]
  have locked :=
    (vouched.evolveCalm claimed.evolves.calm).setOther s.vip s.shutdown
      (some c) s.periphery
  refine (locked.wake (by simp) (by simp)).setPhase
    (Ledger.inPhase_mapPhases.mpr ⟨.claim, present, rfl⟩) ?_ ?_
  · rintro token rfl
    cases claims
  · rintro attempt rfl
    cases claims

/-- Every step of a caller keeps tokens justified. -/
theorem callerStep (vouched : Vouched grant s.ledger) (sound : Sound s.ledger)
    (present : s.ledger.InPhase c request phase)
    (step : CallerStep cfg s c request action phase s') :
    Vouched grant s'.ledger := by
  cases step with
  | check checked =>
      refine vouched.setPhase present ?_ ?_
      · rintro token rfl
        cases checkStep_of_checkPhase checked
      · rintro attempt rfl
        cases checkStep_of_checkPhase checked
  | claim free => exact claimFlow vouched sound present _
  | claimSettle =>
      exact vouched.setPhase present (fun _ impossible => by cases impossible)
        (fun _ impossible => by cases impossible)
  | insert room =>
      have own := (sound.claiming c request _ present rfl).2
      rcases insertFlow_cases (c := c) sound.wellFormed room own with
        ⟨entry, outcome, table, held, matched, verdict, evolves, -, effect⟩ |
        ⟨entry, authId, mustSend, table, registers, effect⟩
      · rw [effect]
        have released :=
          (vouched.evolveCalm evolves.calm).setOther s.vip s.shutdown none
            s.periphery
        refine released.setPhase present ?_
          (fun _ impossible => by cases impossible)
        intro token isAnswer
        cases outcome with
        | failed message => cases isAnswer
        | ready connectToken =>
            cases isAnswer
            exact vouched.entries entry.authId entry _
              (ConntrackTable.getByAuthId_of_lookup sound.wellFormed held)
              verdict request matched
      · rw [effect]
        refine vouched.register sound present registers ?_
        split <;> rfl
  | read moved =>
      exact vouched.setStage present (readStage_token vouched present moved)
  | storeFrame stands free =>
      exact (vouched.evolveCalm
        (Evolves.storeFrame sound.wellFormed _ _ _)).setPlainStage present rfl
  | enqueueFailed stands ended => exact vouched.setPlainStage present rfl
  | enqueue stands =>
      exact (vouched.setPlainStage present rfl).setOther _ _ _ _
  | recordSent stands => exact vouched.setPlainStage present rfl
  | abandonEvict stands free =>
      exact (vouched.evolveCalm
        (Evolves.evictByAuthId sound.wellFormed _).calm).setPlainStage present rfl
  | abandonRemove stands =>
      rename_i attempt reason
      have woken :
          Vouched grant (s.ledger.wake (· == attempt.authId) .dropped) :=
        vouched.wake (by simp) (by simp)
      exact woken.setPlainStage
        (Ledger.attempting_wake.mpr ⟨attempt, present, rfl⟩)
        (afterAbandon_token _ _)
  | settleTimeout stands => exact vouched.setPlainStage present rfl
  | expire stands empty due => exact vouched.setPlainStage present rfl
  | cancel suspended => exact vouched.setPlainStage present rfl

end

section

variable {grant : AuthRequest → String → Prop} {cfg : SessionConfig}
  {l l' : Ledger} {action : Action}

/-- A recorded outcome is justified for everyone who waits on its id. -/
private theorem granted_of_verdict (vouched : Vouched grant l)
    (sound : Sound l) {authId : Nat} {outcome : AuthOutcome}
    (verdict : (l.live authId).bind (·.outcome) = some outcome)
    {connectToken : String} (ready : outcome = .ready connectToken) {c : Nat}
    {request : AuthRequest} {attempt : Attempt}
    (stands : l.Attempting c request attempt)
    (waiting : attempt.slot = .registered) (same : attempt.authId = authId) :
    grant request connectToken := by
  obtain ⟨entry, live, recorded⟩ := live_of_verdict verdict
  have registered := (sound.attempts c request attempt stands).registered
  rw [same] at registered
  exact vouched.entries authId entry connectToken live (ready ▸ recorded)
    request (registered waiting entry live).2

/-- The reader records an outcome and starts to deliver it. -/
private theorem startDelivery (vouched : Vouched grant l) (sound : Sound l)
    (free : l.tableOwner = none) {table : ConntrackTable}
    (evolves : Evolves Heir l.table table)
    (news :
      ∀ authId entry changed connectToken, l.live authId = some entry →
        table.getByAuthId authId = some changed → entry.outcome = none →
        changed.outcome = some (.ready connectToken) →
        ∀ request, Matches request entry → grant request connectToken)
    {authId : Nat} {outcome : AuthOutcome}
    (verdict :
      (table.getByAuthId authId).bind (·.outcome) = some outcome) :
    Vouched grant
      { l with table := table, reader := .settle authId outcome } := by
  have evolved := vouched.evolve evolves news
  refine evolved.setReader ?_
  intro authId' token delivers c request attempt stands waiting same
  rcases delivers with isSettle | isNotify
  · cases isSettle
    exact granted_of_verdict evolved (sound.evolve free evolves) verdict rfl
      stands waiting same
  · cases isNotify

/-- A failure that is recorded brings no grant. -/
private theorem failure_news {table : ConntrackTable}
    (wf : table.WellFormed) {authId : Nat} {message : String} :
    ∀ other entry changed connectToken,
      table.getByAuthId other = some entry →
      (table.modifyByAuthId authId
        (·.complete (.failed message))).getByAuthId other = some changed →
      entry.outcome = none →
      changed.outcome = some (.ready connectToken) →
      ∀ request, Matches request entry → grant request connectToken := by
  intro other entry changed token live after unsettled ready
  obtain ⟨former, found, calm⟩ :=
    (Evolves.fail wf authId message).continues other changed after
  have granted := calm.granted token ready
  rw [live] at found
  cases found
  rw [unsettled] at granted
  cases granted

/-- A grant that a `0x93` brings is the one its body states. -/
private theorem response_news (wf : l.table.WellFormed) {status : UInt8}
    {json : Bytes} {table : ConntrackTable} {authId : Nat}
    (applied :
      applyAuthWireStatus cfg.codec l.table status json = .ok (table, authId))
    (received :
      ∀ response entry, status = 0 →
        parseL3AuthResponse cfg.codec json = .ok response →
        response.code = 0 → response.connectToken ≠ "" →
        l.live response.conntrackHash = some entry → entry.outcome = none →
        ∀ request, Matches request entry →
          grant request response.connectToken) :
    ∀ other entry changed connectToken, l.live other = some entry →
      table.getByAuthId other = some changed → entry.outcome = none →
      changed.outcome = some (.ready connectToken) →
      ∀ request, Matches request entry → grant request connectToken := by
  intro other entry changed token live after unsettled ready request own
  obtain ⟨named, outcome, found, rfl, justified⟩ :=
    applyAuthWireStatus_ok applied
  rw [ConntrackTable.getByAuthId_modifyByAuthId wf
    (ConntrackTable.keepsIdentity_complete outcome)] at after
  split at after
  · rename_i same
    subst other
    have isNamed : entry = named := Option.some.inj (live.symm.trans found)
    subst isNamed
    rw [found] at after
    cases after
    simp only [ConntrackEntry.complete, unsettled, Option.isNone_none,
      if_true, Option.some.injEq] at ready
    obtain ⟨accepted, response, parsed, code, sameToken, nonempty, named⟩ :=
      justified token ready
    subst sameToken named
    exact received response entry accepted parsed code nonempty live
      unsettled request own
  · have same : entry = changed := Option.some.inj (live.symm.trans after)
    subst same
    rw [unsettled] at ready
    cases ready

/-- Every step of another task keeps tokens justified, if what a received
`0x93` grants is. -/
theorem taskStep (vouched : Vouched grant l) (sound : Sound l)
    (received :
      ∀ json response entry, action = .receive (.auth 0 json) →
        parseL3AuthResponse cfg.codec json = .ok response →
        response.code = 0 → response.connectToken ≠ "" →
        l.live response.conntrackHash = some entry → entry.outcome = none →
        ∀ request, Matches request entry →
          grant request response.connectToken)
    (step : TaskStep cfg l action l') : Vouched grant l' := by
  have wf := sound.wellFormed
  cases step with
  | side moves => exact vouched.setOther l.vip l.shutdown l.tableOwner _
  | authorizeFlow fresh =>
      refine ⟨vouched.entries, ?_, ?_⟩
      · intro d request' attempt stands
        rcases Ledger.inPhase_start stands with impossible | before
        · cases impossible
        · exact vouched.attempts d request' attempt before
      · intro d request' token stands
        rcases Ledger.inPhase_start stands with impossible | before
        · cases impossible
        · exact vouched.answers d request' token before
  | settled free idle applied verdict =>
      refine startDelivery vouched sound free
        (Evolves.applyAuthWireStatus wf applied)
        (response_news wf applied ?_) verdict
      rintro response entry rfl
      exact received _ response entry rfl
  | applied free idle applied verdict =>
      refine vouched.evolve (Evolves.applyAuthWireStatus wf applied)
        (response_news wf applied ?_)
      rintro response entry rfl
      exact received _ response entry rfl
  | exhausted message free idle live unsettled =>
      exact startDelivery vouched sound free (Evolves.complete wf _ _)
        (failure_news wf) (verdict_complete wf live unsettled)
  | scheduled enabled free idle plain =>
      exact (vouched.evolveCalm
        (Evolves.scheduleRetry wf _ _)).setReaderPlain (ReaderPc.not_delivering plain)
  | vipChanged idle accepted found changed =>
      exact (vouched.setOther _ l.shutdown l.tableOwner
        l.side).setReaderPlain (by simp)
  | readerMove plain plain' =>
      exact vouched.setReaderPlain (ReaderPc.not_delivering plain')
  | readerSettle stands =>
      refine vouched.setReader ?_
      intro authId' token delivers c request attempt present waiting same
      rcases delivers with isSettle | isNotify
      · cases isSettle
      · cases isNotify
        have ok := vouched.attempts c request attempt present
        refine ok.pending waiting token ?_
        rw [same]
        exact Or.inl (Or.inl stands)
  | readerNotify stands =>
      refine (vouched.wake (by simp) ?_).setReaderPlain (by simp)
      intro token isSent authId' chosen
      cases isSent
      rw [beq_iff_eq.mp chosen]
      exact Or.inl (Or.inr stands)
  | retryFailed free stands verdict =>
      exact startDelivery vouched sound free (Evolves.complete wf _ _)
        (failure_news wf) verdict
  | vipClear cancelled free stands =>
      exact (vouched.evolveCalm (Evolves.clear _).calm).setReaderPlain (by simp)
  | vipCount stands => exact vouched.setReaderPlain (by simp)
  | vipDrain stands =>
      exact (vouched.wake (by simp) (by simp)).setReaderPlain (by simp)
  | vipReset stands => exact vouched.setReaderPlain (by simp)
  | vipUnsubscribe stands free =>
      have moved : Vouched grant { l with reader := .idle } :=
        vouched.setReaderPlain (by simp)
      exact moved.setOther _ _ _ _
  | touch free stands touched =>
      exact (vouched.evolveCalm
        (Evolves.touched wf touched).calm).setReaderPlain (by simp)
  | readerStop stands =>
      exact vouched.beginShutdown.setReaderPlain (by simp)
  | schedulerMove plain plain' quiet =>
      exact vouched.setSchedulerPlain (SchedulerPc.not_delivering plain')
  | retryQueued stands =>
      have moved : Vouched grant { l with scheduler := .awaitWrite } :=
        vouched.setSchedulerPlain (by simp)
      exact moved.setOther _ _ _ _
  | schedulerClosing stands =>
      exact vouched.beginShutdown.setSchedulerPlain (by simp)
  | deadlineExceeded message free stands live =>
      exact (vouched.evolveCalm
        (Evolves.fail wf _ _)).setSchedulerPlain (by simp)
  | retryTaken free stands live taken =>
      exact (vouched.evolveCalm
        (Evolves.takeRetry wf _)).setSchedulerPlain (by simp)
  | retryVoid free stands live taken =>
      exact (vouched.evolveCalm
        (Evolves.takeRetry wf _)).setSchedulerPlain (by simp)
  | outcomeFound free stands verdict =>
      refine vouched.setScheduler ?_
      intro authId' token delivers c request attempt present waiting same
      rcases delivers with isSettle | isNotify
      · cases isSettle
        exact granted_of_verdict vouched sound verdict rfl present waiting
          same
      · cases isNotify
  | outcomeMissing free stands verdict =>
      exact vouched.setSchedulerPlain (by simp)
  | schedulerSettle stands =>
      refine vouched.setScheduler ?_
      intro authId' token delivers c request attempt present waiting same
      rcases delivers with isSettle | isNotify
      · cases isSettle
      · cases isNotify
        have ok := vouched.attempts c request attempt present
        refine ok.pending waiting token ?_
        rw [same]
        exact Or.inr (Or.inl stands)
  | schedulerNotify stands =>
      refine (vouched.wake (by simp) ?_).setSchedulerPlain (by simp)
      intro token isSent authId' chosen
      cases isSent
      rw [beq_iff_eq.mp chosen]
      exact Or.inr (Or.inr stands)
  | writerClosing =>
      exact vouched.beginShutdown.setOther _ _ _ _
  | close => exact vouched.beginShutdown
  | stopSignal stands => exact vouched.setOther l.vip _ l.tableOwner _
  | unsubscribe stands free => exact vouched.setOther l.vip _ l.tableOwner _
  | clearTable cancelled free stands =>
      exact (vouched.evolveCalm (Evolves.clear _).calm).setOther l.vip _
        l.tableOwner l.side
  | countCancelled stands => exact vouched.setOther l.vip _ l.tableOwner _
  | drain stands =>
      exact (vouched.wake (by simp) (by simp)).setOther l.vip _ l.tableOwner
        l.side

end

theorem initial (grant : AuthRequest → String → Prop) (vip : Ipv4Addr)
    (now : Nat) : Vouched grant (State.initial vip now).ledger where
  entries authId entry token live := by
    simp [Ledger.live, State.ledger, State.initial, ConntrackTable.new,
      ConntrackTable.withLimits, ConntrackTable.getByAuthId,
      AList.lookup_empty] at live
  attempts c request attempt stands := by cases stands
  answers c request token stands := by cases stands

/-- Along a run, every token on its way to a caller has been granted. -/
theorem run {cfg : SessionConfig} {vip : Ipv4Addr} {now : Nat}
    {actions : List Action} {s : State}
    (ran :
      Concurrency.run (next cfg) (State.initial vip now) actions = some s) :
    Vouched (Granted cfg (State.initial vip now) actions) s.ledger := by
  refine Concurrency.invariant_of_history
    (fun past s => Vouched (Granted cfg (State.initial vip now) past) s.ledger)
    (Vouched.initial _ vip now) ?_ ran
  intro past state action after reached vouched stepped
  have sound := Sound.run reached
  have weaker :=
    vouched.mono fun _ _ granted =>
      granted.append [action]
  rcases step_of_next stepped with ⟨c, request, phase, present, step⟩ | step
  · exact weaker.callerStep sound present step
  · refine weaker.taskStep sound ?_ step
    rintro json response entry rfl parsed code nonempty live unsettled
      request own
    exact ⟨past, json, [], state, response, entry, rfl, reached, parsed, code,
      rfl, nonempty, parseL3AuthResponse_trim parsed, live, unsettled, own⟩

end Vouched

/-- Whenever a call returns a token, the server has granted that token to an
attempt for the flow and the resource of the call, while it was open. -/
theorem returned_ok_granted {cfg : SessionConfig} {vip : Ipv4Addr} {now : Nat}
    {actions : List Action} {s : State} {c : Nat} {request : AuthRequest}
    {connectToken : String}
    (ran :
      Concurrency.run (next cfg) (State.initial vip now) actions = some s)
    (returned : s.returned c = some (request, .ok connectToken)) :
    Granted cfg (State.initial vip now) actions request connectToken := by
  have vouched := Vouched.run ran
  rcases State.returned_cases returned with answered | ⟨attempt, stands, done⟩
  · exact vouched.answers c request connectToken answered
  · refine (vouched.attempts c request attempt stands).held connectToken ?_
    rw [done]
    rfl

/-- One caller, one answer. -/
theorem returned_ok_granted_sample :
    Granted (Sample.config .disabled) (State.initial Sample.vip 0)
      (Sample.firstCall ++
        [.receive (.auth 0 Sample.grantJson), .reader, .reader] ++
        Sample.advances 0 2)
      Sample.request "tok-a" := by
  have returned :
      (Concurrency.run (next (Sample.config .disabled))
          (State.initial Sample.vip 0)
          (Sample.firstCall ++
            ([.receive (.auth 0 Sample.grantJson), .reader, .reader] :
              List Action) ++
            Sample.advances 0 2)).bind (·.returned 0) =
        some (Sample.request, .ok "tok-a") := by
    decide +kernel
  obtain ⟨s, ran, answered⟩ := Option.bind_eq_some_iff.mp returned
  exact returned_ok_granted ran answered

end HermesAtrust.L3
