import HermesAtrust.L3.SessionAttempts
import HermesAtrust.L3.SessionRetries
import HermesAtrust.L3.SessionTokens

/-!
# The request behind a token

A call that finds an attempt for its flow and resource joins it or takes its
verdict; the domain of the call is not compared.  Every attempt has one sending
call, for the same flow and resource, and each `0x13` of the attempt is the
frame which that call has built.  A token that is returned was granted to such
an attempt.
-/

namespace HermesAtrust.L3

open HermesAtrust.Framing HermesAtrust.Protocol HermesAtrust.Collections

/-- The requests are for one flow and one resource. -/
structure AuthRequest.SameResource (request other : AuthRequest) : Prop where
  key : request.key = other.key
  appId : request.appId = other.appId
  nodeGroupId : request.nodeGroupId = other.nodeGroupId

theorem Matches.sameResource {request other : AuthRequest}
    {entry : ConntrackEntry} (first : Matches request entry)
    (second : Matches other entry) : request.SameResource other where
  key := first.key.symm.trans second.key
  appId := first.appId.symm.trans second.appId
  nodeGroupId := first.nodeGroupId.symm.trans second.nodeGroupId

theorem Matches.of_sameResource {request other : AuthRequest}
    {entry : ConntrackEntry} (own : Matches request entry)
    (same : request.SameResource other) : Matches other entry where
  key := own.key.trans same.key
  appId := own.appId.trans same.appId
  nodeGroupId := own.nodeGroupId.trans same.nodeGroupId

/-- The attempts under an id are for the flow and the resource of its entry and
of each other, and an entry has a sending call. -/
structure Aligned (l : Ledger) : Prop where
  own :
    ∀ c request attempt entry, l.Attempting c request attempt →
      l.live attempt.authId = some entry → Matches request entry
  shared :
    ∀ c d request other attempt joined, l.Attempting c request attempt →
      l.Attempting d other joined → attempt.authId = joined.authId →
      request.SameResource other
  sender :
    ∀ authId entry, l.live authId = some entry →
      ∃ c request, l.Sends c request authId

/-! ## What a step leaves of attempts and entries -/

/-- Registered callers keep their ids and licences, nobody registers, and
entries are those of before. -/
structure Descends (l l' : Ledger) : Prop where
  former :
    ∀ c request changed, l'.Attempting c request changed →
      ∃ attempt, l.Attempting c request attempt ∧
        changed.authId = attempt.authId
  later :
    ∀ c request attempt, l.Attempting c request attempt →
      ∃ changed, l'.Attempting c request changed ∧
        changed.authId = attempt.authId ∧ changed.mustSend = attempt.mustSend
  heirs :
    ∀ authId changed, l'.live authId = some changed →
      ∃ entry, l.live authId = some entry ∧ Heir entry changed

namespace Descends

variable {l l' : Ledger}

/-- A licence is kept. -/
theorem sends (descends : Descends l l') {c authId : Nat}
    {request : AuthRequest} (licensed : l.Sends c request authId) :
    l'.Sends c request authId := by
  obtain ⟨attempt, stands, isId, sends⟩ := licensed
  obtain ⟨changed, after, sameId, sameLicence⟩ :=
    descends.later c request attempt stands
  exact ⟨changed, after, sameId.trans isId, sameLicence.trans sends⟩

theorem aligned (descends : Descends l l') (aligned : Aligned l) :
    Aligned l' where
  own c request changed entry stands live := by
    obtain ⟨attempt, before, sameId⟩ :=
      descends.former c request changed stands
    obtain ⟨former, present, heir⟩ :=
      descends.heirs changed.authId entry live
    rw [sameId] at present
    exact (aligned.own c request attempt former before present).heir heir
  shared c d request other attempt joined first second same := by
    obtain ⟨firstBefore, before, firstId⟩ :=
      descends.former c request attempt first
    obtain ⟨secondBefore, alsoBefore, secondId⟩ :=
      descends.former d other joined second
    apply aligned.shared c d request other _ _ before alsoBefore
    rw [← firstId, ← secondId]
    exact same
  sender authId changed live := by
    obtain ⟨entry, before, -⟩ := descends.heirs authId changed live
    obtain ⟨c, request, licensed⟩ := aligned.sender authId entry before
    exact ⟨c, request, descends.sends licensed⟩

/-- Callers other than the one that moves stay, and it keeps its attempt. -/
theorem of_same {moved : Nat} {phase : CallerPhase} {mover : AuthRequest}
    (same : SameAttempts (· = moved) l l')
    (present : l.InPhase moved mover phase)
    (kept :
      ∀ attempt, phase = .attempting attempt →
        ∃ changed, l'.Attempting moved mover changed ∧
          changed.authId = attempt.authId ∧
          changed.mustSend = attempt.mustSend)
    (joins :
      (∀ attempt, phase ≠ .attempting attempt) →
        ∀ request changed, ¬ l'.Attempting moved request changed)
    (heirs :
      ∀ authId changed, l'.live authId = some changed →
        ∃ entry, l.live authId = some entry ∧ Heir entry changed) :
    Descends l l' where
  former c request changed stands := by
    by_cases isMover : c = moved
    · subst isMover
      by_cases registered : ∃ attempt, phase = .attempting attempt
      · obtain ⟨attempt, rfl⟩ := registered
        obtain ⟨after, alsoStands, sameId, -⟩ := kept attempt rfl
        obtain ⟨rfl, isChanged⟩ := Ledger.inPhase_unique alsoStands stands
        cases isChanged
        exact ⟨attempt, present, sameId⟩
      · have unregistered : ∀ attempt, phase ≠ .attempting attempt := by
          intro attempt isAttempt
          exact registered ⟨attempt, isAttempt⟩
        exact absurd stands (joins unregistered request changed)
    · obtain ⟨attempt, before, alike⟩ :=
        same.former c request changed isMover stands
      exact ⟨attempt, before, alike.authId⟩
  later c request attempt stands := by
    by_cases isMover : c = moved
    · subst isMover
      obtain ⟨rfl, isPhase⟩ := Ledger.inPhase_unique present stands
      exact kept attempt isPhase
    · obtain ⟨changed, after, alike⟩ :=
        same.later c request attempt isMover stands
      exact ⟨changed, after, alike.authId, alike.mustSend⟩
  heirs := heirs

end Descends

/-- Entries that age are the entries of before. -/
theorem Evolves.heirs {before after : ConntrackTable}
    (evolves : Evolves Aged before after) : Evolves Heir before after :=
  evolves.mono fun _ _ aged => (Aged.calm aged).toHeir

/-- A task other than a caller leaves the table with the entries of before. -/
theorem TaskStep.heirs {cfg : SessionConfig} {l l' : Ledger} {action : Action}
    (wf : l.table.WellFormed) (step : TaskStep cfg l action l') :
    Evolves Heir l.table l'.table := by
  have unchanged : Evolves Heir l.table l.table :=
    (Evolves.refl wf).heirs
  have begun : l.beginShutdown.table = l.table := by
    obtain ⟨shutdown, same⟩ := l.beginShutdown_eq
    rw [same]
  cases step with
  | settled free idle applied verdict =>
      exact Evolves.applyAuthWireStatus wf applied
  | applied free idle applied verdict =>
      exact Evolves.applyAuthWireStatus wf applied
  | exhausted message free idle live unsettled =>
      exact Evolves.complete wf _ _
  | scheduled enabled free idle plain =>
      exact (Evolves.scheduleRetry wf _ _).mono fun _ _ calm => calm.toHeir
  | retryFailed free stands verdict => exact Evolves.complete wf _ _
  | vipClear cancelled free stands =>
      exact (Evolves.clear _).heirs
  | touch free stands touched =>
      exact (Evolves.touched wf touched).heirs
  | deadlineExceeded message free stands live => exact Evolves.complete wf _ _
  | retryTaken free stands live taken =>
      exact (Evolves.takeRetry wf _).mono fun _ _ calm => calm.toHeir
  | retryVoid free stands live taken =>
      exact (Evolves.takeRetry wf _).mono fun _ _ calm => calm.toHeir
  | clearTable cancelled free stands =>
      exact (Evolves.clear _).heirs
  | readerStop stands => exact begun ▸ unchanged
  | schedulerClosing stands => exact begun ▸ unchanged
  | writerClosing => exact begun ▸ unchanged
  | close => exact begun ▸ unchanged
  | _ => exact unchanged

theorem TaskStep.descends {cfg : SessionConfig} {l l' : Ledger}
    {action : Action} (wf : l.table.WellFormed)
    (step : TaskStep cfg l action l') : Descends l l' where
  former c request changed stands := by
    obtain ⟨attempt, before, alike⟩ :=
      step.sameAttempts.former c request changed id stands
    exact ⟨attempt, before, alike.authId⟩
  later c request attempt stands := by
    obtain ⟨changed, after, alike⟩ :=
      step.sameAttempts.later c request attempt id stands
    exact ⟨changed, after, alike.authId, alike.mustSend⟩
  heirs := (step.heirs wf).continues

section

variable {cfg : SessionConfig} {s s' : State} {c : Nat}
  {request : AuthRequest} {phase : CallerPhase} {action : Action}

/-- A caller that is set to a phase without attempt has none. -/
private theorem not_attempting_setPhase {l : Ledger} {old phase : CallerPhase}
    (present : l.InPhase c request old)
    (unregistered : ∀ attempt, phase ≠ .attempting attempt)
    (other : AuthRequest) (changed : Attempt) :
    ¬ (l.setPhase c phase).Attempting c other changed := by
  intro stands
  rcases Ledger.inPhase_setPhase_cases present stands with
    ⟨-, -, isPhase⟩ | ⟨different, -⟩
  · exact unregistered changed isPhase
  · exact different rfl

/-- A registered caller leaves the table with the entries of before. -/
private theorem heirs_of_attempting {attempt : Attempt}
    (wf : s.ledger.table.WellFormed)
    (step : CallerStep cfg s c request action (.attempting attempt) s') :
    Evolves Heir s.ledger.table s'.ledger.table := by
  have unchanged : Evolves Heir s.ledger.table s.ledger.table :=
    (Evolves.refl wf).heirs
  cases step with
  | storeFrame stands free =>
      have stored := Evolves.storeFrame wf attempt.authId
      exact (stored _ _).mono fun _ _ calm => calm.toHeir
  | abandonEvict stands free => exact (Evolves.evictByAuthId wf _).heirs
  | _ => exact unchanged

/-- What a step of a caller does to attempts and entries: it registers the
caller, or it leaves them. -/
theorem CallerStep.descends (sound : Sound s.ledger)
    (present : s.ledger.InPhase c request phase)
    (step : CallerStep cfg s c request action phase s') :
    Descends s.ledger s'.ledger ∨
      (∀ attempt, phase ≠ .attempting attempt) ∧
      ∃ entry authId mustSend table,
        Registers s.table table request authId mustSend entry ∧
          s'.ledger =
            ({ s.ledger with table := table, tableOwner := none } :
              Ledger).setPhase c (.attempting
                ⟨authId, mustSend, .registered,
                  if mustSend then .build else .arm⟩) := by
  have wf := sound.wellFormed
  have same := step.sameAttempts sound present
  have unchanged : Evolves Heir s.ledger.table s.ledger.table :=
    (Evolves.refl wf).heirs
  by_cases registered : ∃ attempt, phase = .attempting attempt
  · obtain ⟨attempt, rfl⟩ := registered
    left
    refine .of_same same present ?_ ?_ (heirs_of_attempting wf step).continues
    · intro other isAttempt
      cases isAttempt
      exact step.attempt present
    · intro unregistered
      exact absurd rfl (unregistered attempt)
  · have unregistered : ∀ attempt, phase ≠ .attempting attempt := by
      intro attempt isAttempt
      exact registered ⟨attempt, isAttempt⟩
    have kept : ∀ attempt, phase = .attempting attempt →
        ∃ changed, s'.ledger.Attempting c request changed ∧
          changed.authId = attempt.authId ∧
          changed.mustSend = attempt.mustSend := by
      intro attempt isAttempt
      exact absurd isAttempt (unregistered attempt)
    cases step with
    | check checked =>
        left
        refine .of_same same present kept (fun _ => ?_) unchanged.continues
        refine not_attempting_setPhase present ?_
        rintro attempt rfl
        cases checkStep_of_checkPhase checked
    | claim free =>
        rename_i order
        left
        obtain ⟨table, gone, position, claimed, claims, effect⟩ :=
          claimFlow_effect wf order c request
        refine .of_same same present kept (fun _ => ?_) ?_
        · rw [effect]
          refine not_attempting_setPhase
            (Ledger.inPhase_mapPhases.mpr ⟨.claim, present, rfl⟩) ?_
          rintro attempt rfl
          cases claims
        · rw [effect]
          exact claimed.evolves.heirs.continues
    | claimSettle =>
        left
        refine .of_same same present kept (fun _ => ?_) unchanged.continues
        exact not_attempting_setPhase present (by simp)
    | insert room =>
        have own := (sound.claiming c request _ present rfl).2
        rcases insertFlow_cases (c := c) wf room own with
          ⟨entry, outcome, table, -, -, -, evolves, -, effect⟩ |
          ⟨entry, authId, mustSend, table, registers, effect⟩
        · left
          refine .of_same same present kept (fun _ => ?_) ?_
          · rw [effect]
            exact not_attempting_setPhase present (by simp)
          · rw [effect]
            exact evolves.heirs.continues
        · right
          refine ⟨unregistered, entry, authId, mustSend, table, registers, ?_⟩
          rw [effect]
          rfl
    | _ => exact absurd rfl (unregistered _)

end

/-! ## Registration -/

section

variable {l : Ledger} {table : ConntrackTable} {c authId : Nat}
  {request : AuthRequest} {phase : CallerPhase} {mustSend : Bool}
  {entry : ConntrackEntry}

/-- Licences are kept when another caller moves. -/
theorem Ledger.Sends.setPhase (present : l.InPhase c request phase)
    (unregistered : ∀ attempt, phase ≠ .attempting attempt)
    (table : ConntrackTable) (next : CallerPhase) {d id : Nat}
    {other : AuthRequest} (licensed : l.Sends d other id) :
    (({ l with table := table, tableOwner := none } : Ledger).setPhase c
      next).Sends d other id := by
  obtain ⟨attempt, stands, isId, sends⟩ := licensed
  have different : d ≠ c := by
    rintro rfl
    exact unregistered attempt (Ledger.inPhase_unique present stands).2
  exact ⟨attempt, (Ledger.inPhase_setPhase_of_ne different).mpr stands, isId,
    sends⟩

/-- An attempt under the id that a caller registers for is for the flow and the
resource of the caller. -/
private theorem sameResource_of_registers (aligned : Aligned l)
    (sound : Sound l)
    (registers : Registers l.table table request authId mustSend entry)
    {d : Nat} {other : AuthRequest} {attempt : Attempt}
    (stands : l.Attempting d other attempt) (isId : attempt.authId = authId) :
    other.SameResource request := by
  rcases registers.origin with ⟨former, live, own, -⟩ | ⟨fresh, -⟩
  · have joined := aligned.own d other attempt former stands
    rw [isId] at joined
    exact (joined live).sameResource own
  · have assigned := (sound.attempts d other attempt stands).assigned.2
    omega

theorem Aligned.register (aligned : Aligned l) (sound : Sound l)
    (present : l.InPhase c request phase)
    (unregistered : ∀ attempt, phase ≠ .attempting attempt)
    (registers : Registers l.table table request authId mustSend entry)
    (stage : Stage) :
    Aligned (({ l with table := table, tableOwner := none } :
      Ledger).setPhase c
        (.attempting ⟨authId, mustSend, .registered, stage⟩)) where
  own d other attempt found stands live := by
    have same : attempt.authId = authId → found = entry := by
      intro isId
      rw [isId] at live
      exact Option.some.inj (live.symm.trans registers.stored)
    rcases Ledger.inPhase_setPhase_cases present stands with
      ⟨-, rfl, isAttempt⟩ | ⟨-, before⟩
    · cases isAttempt
      rw [same rfl]
      exact registers.own
    · by_cases isId : attempt.authId = authId
      · rw [same isId]
        have joined :=
          sameResource_of_registers aligned sound registers before isId
        exact registers.own.of_sameResource
          ⟨joined.key.symm, joined.appId.symm, joined.nodeGroupId.symm⟩
      · apply aligned.own d other attempt found before
        rw [Ledger.live, ← registers.others attempt.authId isId]
        exact live
  shared d e first second attempt joined stands alsoStands same := by
    rcases Ledger.inPhase_setPhase_cases present stands with
      ⟨-, rfl, isAttempt⟩ | ⟨-, before⟩
    · cases isAttempt
      rcases Ledger.inPhase_setPhase_cases present alsoStands with
        ⟨-, rfl, isJoined⟩ | ⟨-, alsoBefore⟩
      · exact ⟨rfl, rfl, rfl⟩
      · have alike :=
          sameResource_of_registers aligned sound registers alsoBefore
            same.symm
        exact ⟨alike.key.symm, alike.appId.symm, alike.nodeGroupId.symm⟩
    · rcases Ledger.inPhase_setPhase_cases present alsoStands with
        ⟨-, rfl, isJoined⟩ | ⟨-, alsoBefore⟩
      · cases isJoined
        exact sameResource_of_registers aligned sound registers before same
      · exact aligned.shared d e first second attempt joined before alsoBefore
          same
  sender id found live := by
    by_cases isId : id = authId
    · subst isId
      cases licence : mustSend with
      | true =>
          exact ⟨c, request, _,
            Ledger.inPhase_setPhase.mpr ⟨_, present, if_pos rfl⟩, rfl, rfl⟩
      | false =>
          rcases registers.origin with ⟨former, before, -⟩ | ⟨-, sends, -⟩
          · obtain ⟨d, other, licensed⟩ := aligned.sender id former before
            exact ⟨d, other,
              licensed.setPhase present unregistered table _⟩
          · rw [licence] at sends
            cases sends
    · have before : l.live id = some found := by
        rw [Ledger.live, ← registers.others id isId]
        exact live
      obtain ⟨d, other, licensed⟩ := aligned.sender id found before
      exact ⟨d, other, licensed.setPhase present unregistered table _⟩

end

/-! ## Runs -/

section

variable {cfg : SessionConfig} {s s' : State} {action : Action}

/-- What a step keeps: the attempts under an id stay aligned, and a licence
stays with its caller. -/
theorem Aligned.next (aligned : Aligned s.ledger) (sound : Sound s.ledger)
    (stepped : next cfg s action = some s') :
    Aligned s'.ledger ∧
      ∀ c request authId, s.ledger.Sends c request authId →
        s'.ledger.Sends c request authId := by
  have descended : Descends s.ledger s'.ledger →
      Aligned s'.ledger ∧
        ∀ c request authId, s.ledger.Sends c request authId →
          s'.ledger.Sends c request authId := by
    intro descends
    refine ⟨descends.aligned aligned, ?_⟩
    intro c request authId licensed
    exact descends.sends licensed
  rcases step_of_next stepped with ⟨c, request, phase, present, step⟩ | step
  · rcases step.descends sound present with
      descends |
      ⟨unregistered, entry, authId, mustSend, table, registers, effect⟩
    · exact descended descends
    · rw [effect]
      refine ⟨aligned.register sound present unregistered registers _, ?_⟩
      intro d other id licensed
      exact licensed.setPhase present unregistered table _
  · exact descended (step.descends sound.wellFormed)

theorem Aligned.initial (vip : Ipv4Addr) (now : Nat) :
    Aligned (State.initial vip now).ledger where
  own c request attempt entry stands := by cases stands
  shared c d request other attempt joined stands := by cases stands
  sender authId entry live := by cases live

theorem Aligned.run {vip : Ipv4Addr} {now : Nat} {actions : List Action}
    (ran :
      Concurrency.run (L3.next cfg) (State.initial vip now) actions = some s) :
    Aligned s.ledger := by
  refine Concurrency.invariant_of_history (fun _ t => Aligned t.ledger)
    (Aligned.initial vip now) ?_ ran
  intro past t action after reached aligned stepped
  exact (aligned.next (Sound.run reached) stepped).1

/-- The run received a `0x93` with wire status `0`, code `0` and this trimmed,
non-empty token for the id, at a moment when the id was a live attempt without
outcome. -/
def GrantedUnder (cfg : SessionConfig) (start : State) (past : List Action)
    (authId : Nat) (connectToken : String) : Prop :=
  ∃ before json after s response entry,
    past = before ++ .receive (.auth 0 json) :: after ∧
      Concurrency.run (L3.next cfg) start before = some s ∧
      parseL3AuthResponse cfg.codec json = .ok response ∧
      response.conntrackHash = authId ∧ response.code = 0 ∧
      response.connectToken = connectToken ∧
      connectToken ≠ "" ∧ trim connectToken = connectToken ∧
      s.table.getByAuthId authId = some entry ∧ entry.outcome = none

theorem GrantedUnder.append {start : State} {past : List Action}
    {authId : Nat} {connectToken : String}
    (granted : GrantedUnder cfg start past authId connectToken)
    (later : List Action) :
    GrantedUnder cfg start (past ++ later) authId connectToken := by
  obtain ⟨before, json, after, t, response, entry, rfl, facts⟩ := granted
  exact ⟨before, json, after ++ later, t, response, entry, by simp, facts⟩

/-- The token was granted to an attempt whose sending call is for the flow and
the resource of the request. -/
def Sourced (cfg : SessionConfig) (start : State) (past : List Action)
    (l : Ledger) (request : AuthRequest) (connectToken : String) : Prop :=
  ∃ authId sender first,
    GrantedUnder cfg start past authId connectToken ∧
      l.Sends sender first authId ∧ first.SameResource request

/-- Along a run, every token on its way to a caller has a source. -/
theorem sourced_of_run {vip : Ipv4Addr} {now : Nat} {actions : List Action}
    (ran :
      Concurrency.run (L3.next cfg) (State.initial vip now) actions =
        some s) :
    Vouched (Sourced cfg (State.initial vip now) actions s.ledger)
      s.ledger := by
  refine Concurrency.invariant_of_history
    (fun past t =>
      Vouched (Sourced cfg (State.initial vip now) past t.ledger) t.ledger)
    (Vouched.initial _ vip now) ?_ ran
  intro past t action after reached vouched stepped
  have sound := Sound.run reached
  have aligned := Aligned.run reached
  have kept := (aligned.next sound stepped).2
  have weaker :
      Vouched
        (Sourced cfg (State.initial vip now) (past ++ [action]) after.ledger)
        t.ledger := by
    apply vouched.mono
    intro request token sourced
    obtain ⟨authId, sender, first, granted, licensed, same⟩ := sourced
    exact ⟨authId, sender, first, granted.append [action],
      kept sender first authId licensed, same⟩
  rcases step_of_next stepped with ⟨c, request, phase, present, step⟩ | step
  · exact weaker.callerStep sound present step
  · refine weaker.taskStep sound ?_ step
    rintro json response entry rfl parsed code nonempty live unsettled
      request own
    obtain ⟨sender, first, licensed⟩ := aligned.sender _ entry live
    refine ⟨response.conntrackHash, sender, first, ?_,
      kept sender first _ licensed, ?_⟩
    · exact ⟨past, json, [], t, response, entry, rfl, reached, parsed, rfl,
        code, rfl, nonempty, parseL3AuthResponse_trim parsed, live, unsettled⟩
    · obtain ⟨attempt, stands, isId, -⟩ := licensed
      have sends := aligned.own sender first attempt entry stands
      rw [isId] at sends
      exact (sends live).sameResource own

/-- A returned token was granted to an attempt that one call for the same flow
and resource has sent, and every `0x13` of the attempt, queued or written, is
the frame built with the domain of that call: the domain of the caller, if all
calls for the flow and the resource have the same. -/
theorem returned_token_requested {vip : Ipv4Addr} {now : Nat}
    {actions : List Action} {c : Nat} {request : AuthRequest}
    {connectToken : String}
    (ran :
      Concurrency.run (L3.next cfg) (State.initial vip now) actions = some s)
    (returned : s.returned c = some (request, .ok connectToken)) :
    ∃ authId sender first,
      GrantedUnder cfg (State.initial vip now) actions authId connectToken ∧
      s.ledger.Sends sender first authId ∧
      first.SameResource request ∧
      (∀ frame, frame ∈ s.queue ∨ frame ∈ s.wire →
        frame.asks authId = true →
          buildFlowAuthFrame cfg.codec first.ctx first.appId authId
            first.flow.toFiveTuple = .ok frame.bytes) ∧
      ∀ domain,
        (∀ d caller, s.callers d = some caller →
          caller.request.SameResource request →
            caller.request.ctx.domain = domain) →
        first.ctx.domain = domain := by
  have vouched := sourced_of_run ran
  have rationed := Rationed.run ran
  have sourced :
      Sourced cfg (State.initial vip now) actions s.ledger request
        connectToken := by
    rcases State.returned_cases returned with
      answered | ⟨attempt, stands, done⟩
    · exact vouched.answers c request connectToken answered
    · refine (vouched.attempts c request attempt stands).held connectToken ?_
      rw [done]
      rfl
  obtain ⟨authId, sender, first, granted, licensed, same⟩ := sourced
  refine ⟨authId, sender, first, granted, licensed, same, ?_, ?_⟩
  · intro frame listed asks
    have authored :=
      rationed.framed frame (List.mem_append.mpr listed) authId asks
    obtain ⟨other, request', alsoLicensed, built⟩ := authored
    have isSender :=
      rationed.sole other sender request' first authId alsoLicensed licensed
    subst isSender
    obtain ⟨attempt, stands, -⟩ := licensed
    obtain ⟨attempt', stands', -⟩ := alsoLicensed
    rw [← (Ledger.inPhase_unique stands stands').1] at built
    exact built
  · intro domain uniform
    obtain ⟨attempt, stands, -⟩ := licensed
    exact uniform sender _ stands same

end

namespace Sample

/-- The request of the flow with a domain. -/
def portalRequest : AuthRequest :=
  { request with ctx := { context with domain := some "portal.test" } }

/-- A call without a domain sends its request and is answered; a call with a
domain for the same flow and resource follows. -/
def portalCalls : List Action :=
  firstCall ++ [.receive (.auth 0 grantJson), .reader, .reader] ++
    advances 0 2 ++ [.authorizeFlow 1 portalRequest] ++ advances 1 4

end Sample

/-- One call without a domain. -/
theorem returned_token_requested_sample :
    ∃ s, Concurrency.run (next (Sample.config .disabled))
        (State.initial Sample.vip 0)
        (Sample.firstCall ++
          [.receive (.auth 0 Sample.grantJson), .reader, .reader] ++
          Sample.advances 0 2) = some s ∧
      ∃ authId sender first,
        s.ledger.Sends sender first authId ∧
        first.SameResource Sample.request ∧
        ∀ frame, frame ∈ s.queue ∨ frame ∈ s.wire →
          frame.asks authId = true →
            buildFlowAuthFrame Sample.codec first.ctx first.appId authId
              first.flow.toFiveTuple = .ok frame.bytes := by
  apply Concurrency.exists_of_view (·.returned 0)
    (some (Sample.request, .ok "tok-a")) (by decide +kernel)
  intro s ran returned
  obtain ⟨authId, sender, first, -, licensed, same, frames, -⟩ :=
    returned_token_requested ran returned
  exact ⟨authId, sender, first, licensed, same, frames⟩

/-- The call with a domain returns the token, and the only `0x13` was sent by a
call without one. -/
theorem token_reused_across_domains :
    ∃ s, Concurrency.run (next (Sample.config .disabled))
        (State.initial Sample.vip 0) Sample.portalCalls = some s ∧
      s.returned 1 = some (Sample.portalRequest, .ok "tok-a") ∧
      s.queue = [] ∧
      s.wire.map (·.origin) = [.request 1] ∧
      ¬ ∃ authId sender first, s.ledger.Sends sender first authId ∧
        first.ctx.domain = Sample.portalRequest.ctx.domain := by
  have reached :
      (Concurrency.run (next (Sample.config .disabled))
          (State.initial Sample.vip 0) Sample.portalCalls).map
        (fun s => decide
          (s.returned 1 = some (Sample.portalRequest, .ok "tok-a") ∧
            s.queue = [] ∧ s.wire.map (·.origin) = [.request 1] ∧
            (s.callers 0).map (·.request.ctx.domain) = some none ∧
            (s.callers 1).map (·.phase) = some (.answered (.ok "tok-a")))) =
        some true := by
    decide +kernel
  obtain ⟨s, ran, facts⟩ := Option.map_eq_some_iff.mp reached
  obtain ⟨returned, queue, wire, sender, joined⟩ := of_decide_eq_true facts
  refine ⟨s, ran, returned, queue, wire, ?_⟩
  rintro ⟨authId, c, first, ⟨attempt, stands, -⟩, domain⟩
  have called : s.callers c = some ⟨first, .attempting attempt⟩ := stands
  by_cases isSender : c = 0
  · rw [isSender] at called
    rw [called] at sender
    rw [Option.map_some, Option.some.injEq, domain] at sender
    cases sender
  · by_cases isJoined : c = 1
    · rw [isJoined] at called
      rw [called] at joined
      cases joined
    · have absent : s.callers c = none := by
        apply callers_eq_none_of_run ran
        intro request listed
        simp [Sample.portalCalls, Sample.firstCall, Sample.advances, isSender,
          isJoined] at listed
      rw [called] at absent
      cases absent

end HermesAtrust.L3
