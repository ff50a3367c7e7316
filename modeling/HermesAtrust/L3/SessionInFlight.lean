import HermesAtrust.L3.SessionInvariant

/-!
# Who looks after an attempt in flight

Entries in flight are exempt from pruning, so only their callers can remove
them: the timer of a registered caller evicts the entry.  On an open session
every entry in flight has such a caller as long as no future is dropped that
was the last one, and no address update drains the waiters of an entry that was
registered after it cleared the table.
-/

namespace HermesAtrust.L3

open HermesAtrust.Framing HermesAtrust.Protocol HermesAtrust.Collections

/-- The caller runs towards its timer, waits on it, or is about to evict. -/
def Stage.watching : Stage → Bool
  | .build | .storeFrame _ | .openWrite _ | .enqueue _ | .awaitWrite
  | .recordSent | .arm | .await _ | .abandonEvict _ => true
  | _ => false

namespace Ledger

/-- Caller `c` is a live registered waiter of the id. -/
def Watches (l : Ledger) (c authId : Nat) : Prop :=
  ∃ request attempt, l.Attempting c request attempt ∧
    attempt.authId = authId ∧ attempt.slot = .registered ∧
    attempt.stage.watching = true

/-- Every entry in flight has a live registered waiter. -/
def Attended (l : Ledger) : Prop :=
  ∀ authId entry, l.live authId = some entry → entry.authInFlight = true →
    ∃ c, l.Watches c authId

end Ledger

/-- The step leaves the open session with a waiter for each entry in flight: a
dropped future was not the last one, and the drain of an address update finds
no entry in flight. -/
def KeepsWatch (s : State) : Action → Prop
  | .cancel c =>
      s.closed = false →
        ∀ request attempt, s.callers c = some ⟨request, .attempting attempt⟩ →
          ∀ entry, s.table.getByAuthId attempt.authId = some entry →
            entry.authInFlight = true →
            ∃ d, d ≠ c ∧ s.ledger.Watches d attempt.authId
  | .reader =>
      s.closed = false → s.reader = .vipDrain →
        ∀ authId entry, s.table.getByAuthId authId = some entry →
          entry.authInFlight = false
  | _ => True

namespace Ledger

section

variable {l : Ledger} {c d authId : Nat} {request : AuthRequest}
  {phase old : CallerPhase}

theorem watches_setPhase_of_ne (different : d ≠ c)
    (watches : l.Watches d authId) : (l.setPhase c phase).Watches d authId := by
  obtain ⟨request, attempt, stands, facts⟩ := watches
  exact ⟨request, attempt, (inPhase_setPhase_of_ne different).mpr stands, facts⟩

namespace Attended

/-- One caller moves; the others go on watching. -/
theorem setPhase (attended : Attended l)
    (self :
      ∀ authId entry, l.live authId = some entry →
        entry.authInFlight = true → l.Watches c authId →
        ∃ d, (l.setPhase c phase).Watches d authId) :
    Attended (l.setPhase c phase) := by
  intro authId entry live flying
  obtain ⟨d, watches⟩ := attended authId entry live flying
  by_cases same : d = c
  · subst d
    exact self authId entry live flying watches
  · exact ⟨d, watches_setPhase_of_ne same watches⟩

/-- A caller without attempt moves. -/
theorem setUnregistered (attended : Attended l)
    (present : l.InPhase c request old)
    (unregistered : ∀ attempt, old ≠ .attempting attempt) :
    Attended (l.setPhase c phase) := by
  refine attended.setPhase ?_
  rintro authId entry - - ⟨request', attempt, stands, -⟩
  exact absurd (inPhase_unique present stands).2 (unregistered attempt)

theorem setStage (attended : Attended l) {attempt : Attempt}
    (present : l.Attempting c request attempt) {stage : Stage}
    (kept :
      attempt.slot = .registered → attempt.stage.watching = true →
        stage.watching = true) :
    Attended (l.setPhase c (.attempting { attempt with stage := stage })) := by
  refine attended.setPhase ?_
  rintro authId entry - - ⟨request', own, stands, same, waiting, watching⟩
  obtain ⟨-, isOwn⟩ := inPhase_unique present stands
  cases isOwn
  refine ⟨c, request, { attempt with stage := stage }, ?_, same, waiting,
    kept waiting watching⟩
  exact inPhase_setPhase.mpr ⟨_, present, if_pos rfl⟩

/-- Entries in flight have been in flight. -/
theorem evolve (attended : Attended l) {table : ConntrackTable}
    (evolves : Evolves Heir l.table table) :
    Attended { l with table := table } := by
  intro authId changed live flying
  obtain ⟨entry, former, heir⟩ := evolves.continues authId changed live
  exact attended authId entry former (heir.inFlight flying)

theorem evolveCalm (attended : Attended l) {table : ConntrackTable}
    (evolves : Evolves Calm l.table table) :
    Attended { l with table := table } :=
  attended.evolve (evolves.mono fun _ _ calm => calm.toHeir)

/-- Senders of ids that are not in flight are used or dropped. -/
theorem wake (attended : Attended l) {selected : Nat → Bool} {slot : Slot}
    (idle :
      ∀ authId entry, l.live authId = some entry →
        entry.authInFlight = true → selected authId = false) :
    Attended (l.wake selected slot) := by
  intro authId entry live flying
  obtain ⟨d, request, attempt, stands, same, waiting, watching⟩ :=
    attended authId entry live flying
  have spared : selected attempt.authId = false := by
    rw [same]
    exact idle authId entry live flying
  refine ⟨d, request, attempt.wake selected slot,
    attempting_wake.mpr ⟨attempt, stands, rfl⟩, ?_, ?_, ?_⟩
  · simpa using same
  · rw [Attempt.wake_slot, if_neg (by simp [spared])]
    exact waiting
  · simpa using watching

/-- The caller that holds the mutex registers. -/
theorem register (attended : Attended l) (present : l.InPhase c request old)
    (unregistered : ∀ attempt, old ≠ .attempting attempt)
    {table : ConntrackTable} {mustSend : Bool} {entry : ConntrackEntry}
    {stage : Stage}
    (registers : Registers l.table table request authId mustSend entry)
    (watching : stage.watching = true) :
    Attended ({ l with table := table, tableOwner := none }.setPhase c
      (.attempting ⟨authId, mustSend, .registered, stage⟩)) := by
  intro other found live flying
  by_cases same : other = authId
  · subst other
    exact ⟨c, request, _, inPhase_setPhase.mpr ⟨_, present, if_pos rfl⟩, rfl,
      rfl, watching⟩
  · obtain ⟨d, watches⟩ :=
      attended other found ((registers.others other same).symm.trans live)
        flying
    have different : d ≠ c := by
      rintro rfl
      obtain ⟨request', attempt, stands, -⟩ := watches
      exact unregistered attempt (inPhase_unique present stands).2
    exact ⟨d, watches_setPhase_of_ne different watches⟩

/-- An entry with an outcome is not in flight. -/
private theorem not_inFlight {entry : ConntrackEntry}
    (settled : entry.outcome ≠ none) : entry.authInFlight = false := by
  unfold ConntrackEntry.authInFlight
  cases outcome : entry.outcome with
  | none => exact absurd outcome settled
  | some verdict => simp

/-- The outcome of an id that is being delivered reaches its waiters. -/
theorem deliver (attended : Attended l) (sound : Sound l)
    {outcome : AuthOutcome} (delivers : l.Delivering authId outcome)
    (slot : Slot) : Attended (l.wake (· == authId) slot) := by
  refine attended.wake ?_
  intro other entry live flying
  rw [beq_eq_false_iff_ne]
  rintro rfl
  have settled := (sound.delivering other outcome delivers).2 entry live
  rw [not_inFlight settled] at flying
  cases flying

end Attended

end

section

variable {cfg : SessionConfig} {s s' : State} {c : Nat}
  {request : AuthRequest} {phase : CallerPhase} {action : Action}

namespace Attended

private theorem readStage_watching {attempt : Attempt} {stage : Stage}
    (moved : s.readStage cfg c request attempt = some stage)
    (waiting : attempt.slot = .registered)
    (watching : attempt.stage.watching = true) : stage.watching = true := by
  cases readStep_of_readStage moved with
  | ready stands sent => rw [waiting] at sent; cases sent
  | refused stands sent => rw [waiting] at sent; cases sent
  | dropped stands dropped => rw [waiting] at dropped; cases dropped
  | granted stands => rw [stands] at watching; cases watching
  | ended stands own => rw [stands] at watching; cases watching
  | moved stands foreign =>
      rcases stands with ⟨connectToken, stands⟩ | stands
      · rw [stands] at watching
        cases watching
      · rw [stands] at watching
        cases watching
  | reported stands => rw [stands] at watching; cases watching
  | _ => rfl

private theorem claimFlow (attended : Attended s.ledger)
    (sound : Sound s.ledger) (present : s.ledger.InPhase c request .claim)
    (order : IterationOrder ConntrackEntry) :
    Attended (s.claimFlow order c request).ledger := by
  obtain ⟨table, gone, position, claimed, -, effect⟩ :=
    claimFlow_effect sound.wellFormed order c request
  rw [effect]
  have locked :
      Attended { s.ledger with table := table, tableOwner := some c } :=
    attended.evolveCalm claimed.evolves.calm
  refine (locked.wake ?_).setUnregistered
    (inPhase_mapPhases.mpr ⟨.claim, present, rfl⟩)
    (by simp [CallerPhase.wake])
  intro authId entry live flying
  cases chosen : gone authId with
  | false => rfl
  | true =>
      have absent := claimed.evicted authId chosen
      change table.getByAuthId authId = some entry at live
      rw [absent] at live
      cases live

/-- A step of a caller that keeps watch. -/
theorem callerStep (attended : Attended s.ledger) (sound : Sound s.ledger)
    (keeps : KeepsWatch s action) (open_ : s.closed = false)
    (present : s.ledger.InPhase c request phase)
    (step : CallerStep cfg s c request action phase s') :
    Attended s'.ledger := by
  cases step with
  | check checked =>
      refine attended.setUnregistered present ?_
      rintro attempt rfl
      cases checkStep_of_checkPhase checked
  | claim free => exact claimFlow attended sound present _
  | claimSettle => exact attended.setUnregistered present (by simp)
  | insert room =>
      have own := (sound.claiming c request _ present rfl).2
      rcases insertFlow_cases (c := c) sound.wellFormed room own with
        ⟨entry, outcome, table, -, -, -, evolves, -, effect⟩ |
        ⟨entry, authId, mustSend, table, registers, effect⟩
      · rw [effect]
        exact (attended.evolveCalm evolves.calm).setUnregistered present (by simp)
      · rw [effect]
        refine attended.register present (by simp) registers ?_
        split <;> rfl
  | read moved => exact attended.setStage present (readStage_watching moved)
  | storeFrame stands free =>
      exact (attended.evolveCalm
        (Evolves.storeFrame sound.wellFormed _ _ _)).setStage present
          (fun _ _ => rfl)
  | enqueueFailed stands ended =>
      exact attended.setStage present (fun _ _ => rfl)
  | enqueue stands => exact attended.setStage present (fun _ _ => rfl)
  | recordSent stands => exact attended.setStage present (fun _ _ => rfl)
  | abandonEvict stands free =>
      rename_i attempt reason
      have evolves := Evolves.evictByAuthId sound.wellFormed attempt.authId
      refine (attended.evolveCalm evolves.calm).setPhase ?_
      rintro authId entry live - ⟨request', own, before, same, -⟩
      obtain ⟨-, isOwn⟩ := inPhase_unique present before
      cases isOwn
      subst same
      change (s.ledger.table.evictByAuthId attempt.authId).1.getByAuthId
        attempt.authId = some entry at live
      rw [ConntrackTable.getByAuthId_evictByAuthId sound.wellFormed,
        if_pos rfl] at live
      cases live
  | abandonRemove stands =>
      rename_i attempt reason
      have gone :=
        (sound.attempts c request attempt present).evicted reason stands
      have woken : Attended (s.ledger.wake (· == attempt.authId) .dropped) := by
        refine attended.wake ?_
        intro authId entry live flying
        rw [beq_eq_false_iff_ne]
        rintro rfl
        rw [Ledger.live, gone] at live
        cases live
      refine woken.setStage (attempting_wake.mpr ⟨attempt, present, rfl⟩) ?_
      intro _ watching
      rw [Attempt.wake_stage, stands] at watching
      cases watching
  | settleTimeout stands =>
      refine attended.setStage present ?_
      intro _ watching
      rw [stands] at watching
      cases watching
  | expire stands empty due =>
      exact attended.setStage present (fun _ _ => rfl)
  | cancel suspended =>
      rename_i attempt
      refine attended.setPhase ?_
      rintro authId entry live flying ⟨request', own, before, same, -⟩
      obtain ⟨-, isOwn⟩ := inPhase_unique present before
      cases isOwn
      subst same
      obtain ⟨d, different, watches⟩ :=
        keeps open_ request attempt present entry live flying
      exact ⟨d, watches_setPhase_of_ne different watches⟩

/-- A step of another task that keeps watch. -/
theorem taskStep {l' : Ledger} (attended : Attended s.ledger)
    (sound : Sound s.ledger) (keeps : KeepsWatch s action)
    (open_ : s.closed = false) (step : TaskStep cfg s.ledger action l') :
    Attended l' := by
  have wf := sound.wellFormed
  cases step with
  | authorizeFlow fresh =>
      intro authId entry live flying
      obtain ⟨d, request', attempt, stands, facts⟩ :=
        attended authId entry live flying
      exact ⟨d, request', attempt, inPhase_start_of_fresh fresh stands, facts⟩
  | settled free idle applied verdict =>
      exact attended.evolve (Evolves.applyAuthWireStatus wf applied)
  | applied free idle applied verdict =>
      exact attended.evolve (Evolves.applyAuthWireStatus wf applied)
  | exhausted message free idle live unsettled =>
      exact attended.evolve (Evolves.complete wf _ _)
  | scheduled enabled free idle plain =>
      exact attended.evolveCalm (Evolves.scheduleRetry wf _ _)
  | retryFailed free stands verdict =>
      exact attended.evolve (Evolves.complete wf _ _)
  | vipClear cancelled free stands =>
      exact attended.evolveCalm (Evolves.clear _).calm
  | clearTable cancelled free stands =>
      exact attended.evolveCalm (Evolves.clear _).calm
  | touch free stands touched =>
      exact attended.evolveCalm (Evolves.touched wf touched).calm
  | deadlineExceeded message free stands live =>
      exact attended.evolveCalm (Evolves.fail wf _ _)
  | retryTaken free stands live taken =>
      exact attended.evolveCalm (Evolves.takeRetry wf _)
  | retryVoid free stands live taken =>
      exact attended.evolveCalm (Evolves.takeRetry wf _)
  | readerNotify stands =>
      exact attended.deliver sound (Or.inl (Or.inr stands)) _
  | schedulerNotify stands =>
      exact attended.deliver sound (Or.inr (Or.inr stands)) _
  | vipDrain stands =>
      have none_ := keeps open_ stands
      have woken : Attended (s.ledger.wake (fun _ => true) .dropped) := by
        refine attended.wake ?_
        intro authId entry live flying
        rw [none_ authId entry live] at flying
        cases flying
      exact woken
  | drain stands =>
      have closed : s.ledger.closed := by simp [Ledger.closed, stands]
      rw [← State.closed_iff, open_] at closed
      cases closed
  | readerStop stands =>
      obtain ⟨shutdown, begun⟩ := s.ledger.beginShutdown_eq
      rw [begun]
      exact attended
  | schedulerClosing stands =>
      obtain ⟨shutdown, begun⟩ := s.ledger.beginShutdown_eq
      rw [begun]
      exact attended
  | writerClosing =>
      obtain ⟨shutdown, begun⟩ := s.ledger.beginShutdown_eq
      rw [begun]
      exact attended
  | close =>
      obtain ⟨shutdown, begun⟩ := s.ledger.beginShutdown_eq
      rw [begun]
      exact attended
  | _ => exact attended

/-- The invariant holds along runs that keep watch, until the session is
closed. -/
theorem run {vip : Ipv4Addr} {now : Nat} {actions : List Action}
    (keeps :
      Concurrency.Meets (next cfg) KeepsWatch (State.initial vip now) actions)
    (ran :
      Concurrency.run (next cfg) (State.initial vip now) actions = some s) :
    s.ledger.closed ∨ Attended s.ledger := by
  refine invariant_of_steps
    (fun t => t.ledger.closed ∨ Attended t.ledger) (Or.inr ?_) ?_ ?_ keeps ran
  · intro authId entry live
    cases live
  · intro t after action c request phase sound kept keeping present step
    cases closed : t.closed with
    | true =>
        left
        rw [Ledger.closed, step.shutdown]
        exact State.closed_iff.mp closed
    | false =>
        right
        rw [← State.closed_iff, closed] at kept
        exact (kept.resolve_left (by simp)).callerStep sound keeping closed
          present step
  · intro t after action sound kept keeping step
    cases closed : t.closed with
    | true => exact Or.inl (step.closed (State.closed_iff.mp closed))
    | false =>
        right
        rw [← State.closed_iff, closed] at kept
        exact (kept.resolve_left (by simp)).taskStep sound keeping closed step

end Attended

end

end Ledger

/-- The timer of a registered caller removes its entry. -/
theorem evicted_of_timeout {cfg : SessionConfig} {s : State} {c : Nat}
    {request : AuthRequest} {attempt : Attempt} {deadline : Nat}
    (wf : s.table.WellFormed)
    (present : s.callers c = some ⟨request, .attempting attempt⟩)
    (waiting : attempt.slot = .registered)
    (stands : attempt.stage = .await deadline) (free : s.tableOwner = none)
    (order : IterationOrder ConntrackEntry) :
    ∃ after,
      Concurrency.run (next cfg) s
          [.tick deadline, .expire c, .advance c order] = some after ∧
        after.table.getByAuthId attempt.authId = none := by
  let late : State := { s with now := s.now + deadline }
  let fired : State :=
    late.setAttempt c { attempt with stage := .abandonEvict .timedOut }
  let gone : State :=
    { fired with
      table := (s.table.evictByAuthId attempt.authId).1 }.setAttempt c
      { attempt with stage := .abandonRemove .timedOut }
  have ticks : next cfg s (.tick deadline) = some late := rfl
  have expires : next cfg late (.expire c) = some fired := by
    have due : deadline ≤ late.now := Nat.le_add_left _ _
    have standing : late.callers c = some ⟨request, .attempting attempt⟩ :=
      present
    simp [next, standing, State.expire, stands, waiting, due, fired]
  have standing :
      fired.callers c =
        some ⟨request, .attempting
          { attempt with stage := .abandonEvict .timedOut }⟩ := by
    simp [fired, late, State.setAttempt, State.setPhase, State.mapPhases,
      present]
  have evicts : next cfg fired (.advance c order) = some gone := by
    have unlocked : fired.tableOwner = none := free
    simp only [next, standing, Option.bind_some, State.advanceCaller,
      State.advanceAttempt, if_pos unlocked]
    rfl
  refine ⟨gone, by simp only [Concurrency.run, ticks, expires, evicts], ?_⟩
  change (s.table.evictByAuthId attempt.authId).1.getByAuthId attempt.authId =
    none
  rw [ConntrackTable.getByAuthId_evictByAuthId wf, if_pos rfl]

/-- In a run that keeps watch, an entry in flight on an open session has a live
registered waiter, and the timer of that waiter evicts the entry. -/
theorem inFlight_watched {cfg : SessionConfig} {vip : Ipv4Addr} {now : Nat}
    {actions : List Action} {s : State} {authId : Nat}
    {entry : ConntrackEntry}
    (keeps :
      Concurrency.Meets (next cfg) KeepsWatch (State.initial vip now) actions)
    (ran :
      Concurrency.run (next cfg) (State.initial vip now) actions = some s)
    (open_ : s.closed = false)
    (live : s.table.getByAuthId authId = some entry)
    (flying : entry.authInFlight = true) :
    ∃ c request attempt,
      s.callers c = some ⟨request, .attempting attempt⟩ ∧
        attempt.authId = authId ∧ attempt.slot = .registered ∧
        attempt.stage.watching = true ∧
        ∀ deadline order, attempt.stage = .await deadline →
          s.tableOwner = none →
          ∃ after,
            Concurrency.run (next cfg) s
                [.tick deadline, .expire c, .advance c order] = some after ∧
              after.table.getByAuthId authId = none := by
  have kept := Ledger.Attended.run keeps ran
  rw [← State.closed_iff, open_] at kept
  obtain ⟨c, request, attempt, present, rfl, waiting, watching⟩ :=
    kept.resolve_left (by simp) authId entry live flying
  refine ⟨c, request, attempt, present, rfl, waiting, watching, ?_⟩
  intro deadline order stands free
  exact evicted_of_timeout (Sound.run ran).wellFormed present waiting stands
    free order

namespace Sample

/-- Only the first caller is dropped, while the second waits on its id. -/
def watched (s : State) : Action → Bool
  | .cancel c =>
      match c, s.callers 0, s.callers 1 with
      | 0, some ⟨_, .attempting attempt⟩, some ⟨_, .attempting other⟩ =>
          other.authId == attempt.authId && other.slot == .registered &&
            other.stage.watching
      | _, _, _ => false
  | .reader => s.reader != .vipDrain
  | _ => true

theorem keepsWatch_of_watched {s : State} {action : Action}
    (watched : Sample.watched s action = true) : KeepsWatch s action := by
  cases action with
  | cancel c =>
      intro _ request attempt present entry live flying
      cases c with
      | succ c => cases watched
      | zero =>
          simp only [Sample.watched, present] at watched
          split at watched
          · rename_i stands joins
            cases stands
            simp only [Bool.and_eq_true, beq_iff_eq] at watched
            obtain ⟨⟨same, waits⟩, watching⟩ := watched
            exact ⟨1, by decide, _, _, joins, same, waits, watching⟩
          · cases watched
  | reader =>
      intro _ drains
      simp [Sample.watched, drains] at watched
  | _ => trivial

/-- A second caller joins the attempt, then the first one is dropped. -/
def firstDropped : List Action :=
  firstCall ++ [.tick second, .authorizeFlow 1 request] ++ advances 1 5 ++
    [.cancel 0]

end Sample

/-- The entry of the dropped caller is watched by the one that joined. -/
theorem inFlight_watched_sample :
    ∃ s entry,
      Concurrency.run (next (Sample.config .disabled))
          (State.initial Sample.vip 0) Sample.firstDropped = some s ∧
        (s.callers 0).map (·.phase) =
          some (.attempting ⟨1, true, .registered, .cancelled⟩) ∧
        s.table.getByAuthId 1 = some entry ∧ entry.authInFlight = true ∧
        ∃ c request attempt,
          s.callers c = some ⟨request, .attempting attempt⟩ ∧
            attempt.authId = 1 ∧ attempt.slot = .registered ∧
            attempt.stage.watching = true := by
  have watched :
      Concurrency.Meets (next (Sample.config .disabled))
        (fun s action => Sample.watched s action = true)
        (State.initial Sample.vip 0) Sample.firstDropped := by
    decide +kernel
  have shows :
      (Concurrency.run (next (Sample.config .disabled))
          (State.initial Sample.vip 0) Sample.firstDropped).map
          (fun s =>
            ((s.closed, (s.callers 0).map (·.phase)),
              (s.table.getByAuthId 1).map (·.authInFlight))) =
        some ((false, some (.attempting ⟨1, true, .registered, .cancelled⟩)),
          some true) := by
    decide +kernel
  obtain ⟨s, ran, seen⟩ := Option.map_eq_some_iff.mp shows
  obtain ⟨⟨open_, dropped⟩, listed⟩ :=
    And.imp_left Prod.mk.inj (Prod.mk.inj seen)
  obtain ⟨entry, live, flying⟩ := Option.map_eq_some_iff.mp listed
  have keeps :=
    Concurrency.meets_mono (fun _ _ => Sample.keepsWatch_of_watched) watched
  obtain ⟨c, request, attempt, present, same, waiting, watching, -⟩ :=
    inFlight_watched keeps ran open_ live flying
  exact ⟨s, entry, ran, dropped, live, flying, c, request, attempt, present,
    same, waiting, watching⟩

/-- The future of the only caller is dropped while it waits; its entry stays in
flight and nobody is left to evict it. -/
theorem inFlight_unwatched :
    ¬ ∀ (cfg : SessionConfig) (vip : Ipv4Addr) (now : Nat)
      (actions : List Action) (s : State) (authId : Nat)
      (entry : ConntrackEntry),
      Concurrency.run (next cfg) (State.initial vip now) actions = some s →
      s.closed = false → s.table.getByAuthId authId = some entry →
      entry.authInFlight = true → ∃ c, s.ledger.Watches c authId := by
  intro claim
  have shows :
      (Concurrency.run (next (Sample.config .disabled))
          (State.initial Sample.vip 0)
          (Sample.firstCall ++ [Action.cancel 0])).map
          (fun s =>
            ((s.closed, (s.callers 0).map (·.phase)),
              (s.table.getByAuthId 1).map (·.authInFlight))) =
        some ((false, some (.attempting ⟨1, true, .registered, .cancelled⟩)),
          some true) := by
    decide +kernel
  obtain ⟨s, ran, seen⟩ := Option.map_eq_some_iff.mp shows
  obtain ⟨⟨open_, standing⟩, listed⟩ :=
    And.imp_left Prod.mk.inj (Prod.mk.inj seen)
  obtain ⟨entry, live, flying⟩ := Option.map_eq_some_iff.mp listed
  obtain ⟨c, request, attempt, present, same, waiting, watching⟩ :=
    claim _ _ _ _ s 1 entry ran open_ live flying
  by_cases first : c = 0
  · subst c
    rw [show s.callers 0 = _ from present] at standing
    cases standing
    cases watching
  · have unknown := callers_eq_none_of_run ran (c := c) (by
      intro called
      simp [Sample.firstCall, Sample.advances, first])
    rw [show s.callers c = _ from present] at unknown
    cases unknown

end HermesAtrust.L3
