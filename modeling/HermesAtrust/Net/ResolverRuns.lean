import HermesAtrust.Net.Resolver

/-!
# Gates and last checks over whole runs

All calls with one key that hold a gate hold the same gate, since a gate that
somebody holds stays in the map; so the lock of the gate keeps them apart.  A
fresh answer is checked against the epoch and then against the generation, and
both are current at the second check if no session was replaced between the
two.  An answer from the cache is checked against the epoch alone.
-/

namespace HermesAtrust.Net

open HermesAtrust.Auth.ResourceCache (ResourceSnapshot ResourceTable)
open HermesAtrust.Auth HermesAtrust.Client HermesAtrust.Collections
open HermesAtrust.Concurrency HermesAtrust.L3 HermesAtrust.Search
open HermesAtrust.Text

/-! ## What a move does to the gates -/

/-- A call moves on without taking a gate or a lock. -/
def LookupPhase.Continues (before after : LookupPhase) : Prop :=
  (∀ gate, after.holds gate = false) ∨
    ∃ key gate stage next, before = .holding key gate stage ∧
      after = .holding key gate next ∧
      (next.pastGate = true → stage.pastGate = true)

namespace LookupPhase

variable {client : AtrustClient} {before after : LookupPhase}

theorem continues_proceed (moved : before.proceed client = some after) :
    before.Continues after := by
  left
  intro gate
  cases before with
  | checking host =>
      simp only [proceed] at moved
      split at moved
      · cases moved
        rfl
      · cases moved
        unfold accept
        split
        · rfl
        · split
          · rfl
          · rfl
  | readingEpoch host =>
      cases moved
      rfl
  | takingSession host epoch =>
      cases moved
      rfl
  | readingSnapshot host epoch session =>
      cases moved
      rfl
  | joining key snapshot => cases moved
  | holding key gate stage => cases moved
  | finished result => cases moved

theorem continues_readCache {config : ResolverConfig}
    {cache : HashTable CacheKey Cached} {first second : Instant}
    (moved : before.readCache config client cache first second = some after) :
    before.Continues after := by
  unfold readCache at moved
  split at moved
  · next key gate snapshot =>
      right
      have inside :
          ∃ next, after = .holding key gate next := by
        simp only at moved
        split at moved
        · split at moved
          · exact ⟨_, (Option.some.inj moved).symm⟩
          · split at moved
            · exact ⟨_, (Option.some.inj moved).symm⟩
            · exact ⟨_, (Option.some.inj moved).symm⟩
        · split at moved
          · exact ⟨_, (Option.some.inj moved).symm⟩
          · exact ⟨_, (Option.some.inj moved).symm⟩
      obtain ⟨next, rfl⟩ := inside
      exact ⟨key, gate, _, next, rfl, rfl, fun _ => rfl⟩
  · cases moved

theorem continues_answer {outcome : Except IoError Answer}
    (moved : before.answer outcome = some after) :
    before.Continues after := by
  unfold answer at moved
  split at moved
  · next key gate =>
      right
      split at moved
      · cases moved
        exact ⟨key, gate, _, _, rfl, rfl, fun _ => rfl⟩
      · cases moved
        exact ⟨key, gate, _, _, rfl, rfl, fun _ => rfl⟩
  · cases moved

theorem continues_recheck (moved : before.recheck client = some after) :
    before.Continues after := by
  unfold recheck at moved
  right
  split at moved
  · next key gate answer =>
      split at moved
      · cases moved
        exact ⟨key, gate, _, _, rfl, rfl, fun _ => rfl⟩
      · cases moved
        exact ⟨key, gate, _, _, rfl, rfl, fun _ => rfl⟩
  · next key gate answer =>
      cases moved
      exact ⟨key, gate, _, _, rfl, rfl, fun _ => rfl⟩
  · next key gate answer session =>
      split at moved
      · cases moved
        exact ⟨key, gate, _, _, rfl, rfl, fun _ => rfl⟩
      · cases moved
        exact ⟨key, gate, _, _, rfl, rfl, fun _ => rfl⟩
  · cases moved

theorem continues_leave (moved : before.leave = some after) :
    before.Continues after := by
  unfold leave at moved
  split at moved
  · next key gate result =>
      cases moved
      exact .inr ⟨key, gate, _, _, rfl, rfl, fun _ => rfl⟩
  · cases moved
    exact .inl fun _ => rfl
  · cases moved

theorem continues_cancel (moved : before.cancel = some after) :
    before.Continues after := by
  cases before with
  | holding key gate stage =>
      right
      cases stage with
      | unlocking result => cases moved
      | dropping result => cases moved
      | waiting snapshot =>
          cases moved
          exact ⟨key, gate, _, _, rfl, rfl, nofun⟩
      | readingCache snapshot =>
          cases moved
          exact ⟨key, gate, _, _, rfl, rfl, fun _ => rfl⟩
      | exchanging =>
          cases moved
          exact ⟨key, gate, _, _, rfl, rfl, fun _ => rfl⟩
      | recheckingEpoch answer =>
          cases moved
          exact ⟨key, gate, _, _, rfl, rfl, fun _ => rfl⟩
      | retakingSession answer =>
          cases moved
          exact ⟨key, gate, _, _, rfl, rfl, fun _ => rfl⟩
      | recheckingGeneration answer session =>
          cases moved
          exact ⟨key, gate, _, _, rfl, rfl, fun _ => rfl⟩
      | storing answer current =>
          cases moved
          exact ⟨key, gate, _, _, rfl, rfl, fun _ => rfl⟩
  | finished result => cases moved
  | checking host =>
      cases moved
      exact .inl fun _ => rfl
  | readingEpoch host =>
      cases moved
      exact .inl fun _ => rfl
  | takingSession host epoch =>
      cases moved
      exact .inl fun _ => rfl
  | readingSnapshot host epoch session =>
      cases moved
      exact .inl fun _ => rfl
  | joining key snapshot =>
      cases moved
      exact .inl fun _ => rfl

end LookupPhase

namespace ResolverState

variable {lastInstant : Instant} {config : ResolverConfig}
  {state after : ResolverState} {action : ResolverAction}

theorem advance_eq_some {call : Nat} {move : LookupPhase → Option LookupPhase}
    (advanced : state.advance call move = some after) :
    ∃ phase next, state.calls[call]? = some phase ∧ move phase = some next ∧
      after = { state with calls := state.calls.set call next } := by
  simp only [advance, Option.bind_eq_bind, Option.bind_eq_some_iff,
    Option.pure_def, Option.some.injEq] at advanced
  obtain ⟨phase, listed, next, moved, rfl⟩ := advanced
  exact ⟨phase, next, listed, moved, rfl⟩

/-- The gates before and after a step in which one call moves on. -/
structure Moves (state after : ResolverState) (call : Nat)
    (phase next : LookupPhase) : Prop where
  listed : state.calls[call]? = some phase
  calls : after.calls = state.calls.set call next
  client : after.client = state.client

theorem store_eq_some {call : Nat} {surroundings : CacheSurroundings}
    (stored :
      state.store lastInstant config call surroundings = some after) :
    ∃ key gate answer current result,
      state.Moves after call (.holding key gate (.storing answer current))
          (.holding key gate (.unlocking result)) ∧
        after.flights = state.flights ∧
        (result = .panicked ∨
          ∃ fresh, result = .answered key fresh current) := by
  unfold store at stored
  split at stored
  · next key gate answer current listed =>
      simp only [Option.some.injEq] at stored
      subst stored
      cases known :
          (Net.store lastInstant config state.cache key answer
            surroundings).2 with
      | none => exact ⟨key, gate, answer, current, _, ⟨listed, rfl, rfl⟩, rfl,
          .inl rfl⟩
      | some fresh => exact ⟨key, gate, answer, current, _, ⟨listed, rfl, rfl⟩,
          rfl, .inr ⟨fresh, rfl⟩⟩
  · cases stored

/-- A call takes its gate: one from the map that somebody holds, or a new one
that takes the place of one that nobody holds. -/
theorem join_eq_some {call : Nat} (joined : state.join call = some after) :
    ∃ key snapshot gate,
      state.Moves after call (.joining key snapshot)
          (.holding key gate (.waiting snapshot)) ∧
        after.flights.lookup key = some gate ∧
        (∀ other held, state.flights.lookup other = some held →
          state.strongCount held ≠ 0 →
          after.flights.lookup other = some held) := by
  have living :
      ∀ {other : CacheKey} {held : GateId},
        state.flights.lookup other = some held →
        state.strongCount held ≠ 0 →
        (HashTable.filterMapValues
          (fun gate =>
            if state.strongCount gate = 0 then none else some gate)
          state.flights).lookup other = some held := by
    intro other held found alive
    rw [HashTable.lookup_filterMapValues, found, Option.bind_some,
      if_neg alive]
  unfold join at joined
  split at joined
  · next key snapshot listed =>
      simp only at joined
      split at joined
      · next gate found =>
          cases joined
          exact ⟨key, snapshot, gate, ⟨listed, rfl, rfl⟩, found,
            fun other held found alive => living found alive⟩
      · next missing =>
          cases joined
          refine ⟨key, snapshot, state.nextGate, ⟨listed, rfl, rfl⟩,
            AList.lookup_insert _, ?_⟩
          intro other held found alive
          have kept := living found alive
          simp only [HashTable.lookup_insert_eq_if]
          by_cases same : other = key
          · subst same
            rw [missing] at kept
            cases kept
          · rw [if_neg same]
            exact kept
  · cases joined

/-- What a step does to the gates. -/
theorem step_gates (stepped : state.step lastInstant config action = some after) :
    (∃ host, after.calls = state.calls ++ [.checking host] ∧
      after.flights = state.flights) ∨
      (after.calls = state.calls ∧ after.flights = state.flights) ∨
      (∃ call phase next, state.Moves after call phase next ∧
        after.flights = state.flights ∧
        (phase.Continues next ∨
          phase.lock state.calls = some next)) ∨
      ∃ call key snapshot gate,
        state.Moves after call (.joining key snapshot)
            (.holding key gate (.waiting snapshot)) ∧
          after.flights.lookup key = some gate ∧
          (∀ other held, state.flights.lookup other = some held →
            state.strongCount held ≠ 0 →
            after.flights.lookup other = some held) := by
  have moving :
      ∀ {call : Nat} {move : LookupPhase → Option LookupPhase},
        (∀ phase next, move phase = some next →
          phase.Continues next ∨ phase.lock state.calls = some next) →
        state.advance call move = some after →
        ∃ call phase next, state.Moves after call phase next ∧
          after.flights = state.flights ∧
          (phase.Continues next ∨ phase.lock state.calls = some next) := by
    intro call move continues advanced
    obtain ⟨phase, next, listed, moved, rfl⟩ := advance_eq_some advanced
    exact ⟨call, phase, next, ⟨listed, rfl, rfl⟩, rfl,
      continues phase next moved⟩
  cases action with
  | call host =>
      cases stepped
      exact .inl ⟨host, rfl, rfl⟩
  | proceed call =>
      exact .inr (.inr (.inl (moving
        (fun _ _ moved => .inl (LookupPhase.continues_proceed moved))
        stepped)))
  | join call =>
      obtain ⟨key, snapshot, gate, joins⟩ := join_eq_some stepped
      exact .inr (.inr (.inr ⟨call, key, snapshot, gate, joins⟩))
  | lock call =>
      exact .inr (.inr (.inl (moving (fun _ _ moved => .inr moved) stepped)))
  | readCache call first second =>
      exact .inr (.inr (.inl (moving
        (fun _ _ moved => .inl (LookupPhase.continues_readCache moved))
        stepped)))
  | answer call outcome =>
      exact .inr (.inr (.inl (moving
        (fun _ _ moved => .inl (LookupPhase.continues_answer moved))
        stepped)))
  | recheck call =>
      exact .inr (.inr (.inl (moving
        (fun _ _ moved => .inl (LookupPhase.continues_recheck moved))
        stepped)))
  | store call surroundings =>
      obtain ⟨key, gate, answer, current, result, moves, kept, -⟩ :=
        store_eq_some stepped
      exact .inr (.inr (.inl ⟨call, _, _, moves, kept,
        .inl (.inr ⟨key, gate, _, _, rfl, rfl, fun _ => rfl⟩)⟩))
  | leave call =>
      exact .inr (.inr (.inl (moving
        (fun _ _ moved => .inl (LookupPhase.continues_leave moved)) stepped)))
  | cancel call =>
      exact .inr (.inr (.inl (moving
        (fun _ _ moved => .inl (LookupPhase.continues_cancel moved)) stepped)))
  | refresh session resources =>
      cases stepped
      exact .inr (.inl ⟨rfl, rfl⟩)
  | invalidate session =>
      cases stepped
      exact .inr (.inl ⟨rfl, rfl⟩)
  | shutdown =>
      cases stepped
      exact .inr (.inl ⟨rfl, rfl⟩)
  | replaceSession resources =>
      cases stepped
      exact .inr (.inl ⟨rfl, rfl⟩)

/-! ## The gates keep calls apart -/

/-- Whoever holds a gate holds the one in the map, and no two calls hold the
guard of one gate. -/
structure Gated (state : ResolverState) : Prop where
  shared :
    ∀ (call : Nat) key gate stage,
      state.calls[call]? = some (.holding key gate stage) →
      state.flights.lookup key = some gate
  exclusive :
    ∀ (first second : Nat) (firstPhase secondPhase : LookupPhase) gate,
      state.calls[first]? = some firstPhase →
      state.calls[second]? = some secondPhase →
      firstPhase.guards gate = true → secondPhase.guards gate = true →
      first = second

theorem strongCount_ne_zero {call : Nat} {key : CacheKey} {gate : GateId}
    {stage : GateStage}
    (listed : state.calls[call]? = some (.holding key gate stage)) :
    state.strongCount gate ≠ 0 := by
  have positive : 0 < state.strongCount gate := by
    rw [strongCount, List.countP_pos_iff]
    exact ⟨_, List.mem_of_getElem? listed, by simp [LookupPhase.holds]⟩
  omega

theorem holds_of_guards {gate : GateId} {phase : LookupPhase}
    (guards : phase.guards gate = true) :
    ∃ key stage, phase = .holding key gate stage ∧ stage.pastGate = true := by
  cases phase with
  | holding key other stage =>
      simp only [LookupPhase.guards, Bool.and_eq_true, decide_eq_true_eq]
        at guards
      obtain ⟨rfl, past⟩ := guards
      exact ⟨key, stage, rfl, past⟩
  | checking host => cases guards
  | readingEpoch host => cases guards
  | takingSession host epoch => cases guards
  | readingSnapshot host epoch session => cases guards
  | joining key snapshot => cases guards
  | finished result => cases guards

/-- A call that moves on guards only what it guarded before. -/
theorem guards_of_continues {before next : LookupPhase} {gate : GateId}
    (continues : before.Continues next) (guards : next.guards gate = true) :
    before.guards gate = true := by
  obtain ⟨key, stage, rfl, past⟩ := holds_of_guards guards
  rcases continues with free | within
  · have held := free gate
    simp [LookupPhase.holds] at held
  · obtain ⟨_, _, earlier, _, rfl, same, kept⟩ := within
    cases same
    simp [LookupPhase.guards, kept past]

section Moving

variable {call : Nat} {phase next : LookupPhase}

/-- The phase of a call after one call has moved. -/
theorem Moves.phase_cases (moves : state.Moves after call phase next)
    {other : Nat} {reached : LookupPhase}
    (listed : after.calls[other]? = some reached) :
    (other = call ∧ reached = next) ∨ state.calls[other]? = some reached := by
  rw [moves.calls, List.getElem?_set] at listed
  by_cases same : call = other
  · subst same
    left
    simp only [if_true] at listed
    split at listed
    · exact ⟨rfl, (Option.some.inj listed).symm⟩
    · cases listed
  · rw [if_neg same] at listed
    exact .inr listed

theorem Gated.move (gated : state.Gated)
    (moves : state.Moves after call phase next)
    (kept : after.flights = state.flights)
    (continues : phase.Continues next) : after.Gated := by
  constructor
  · intro other key gate stage listed
    rw [kept]
    rcases moves.phase_cases listed with moved | stayed
    · obtain ⟨rfl, rfl⟩ := moved
      rcases continues with free | within
      · have held := free gate
        simp [LookupPhase.holds] at held
      · obtain ⟨_, _, earlier, _, rfl, same, -⟩ := within
        cases same
        exact gated.shared other key gate earlier moves.listed
    · exact gated.shared other key gate stage stayed
  · have before :
        ∀ (other : Nat) (reached : LookupPhase) gate,
          after.calls[other]? = some reached →
          reached.guards gate = true →
          ∃ earlier, state.calls[other]? = some earlier ∧
            earlier.guards gate = true := by
      intro other reached gate listed guards
      rcases moves.phase_cases listed with moved | stayed
      · obtain ⟨rfl, rfl⟩ := moved
        exact ⟨phase, moves.listed, guards_of_continues continues guards⟩
      · exact ⟨reached, stayed, guards⟩
    intro first second firstPhase secondPhase gate firstListed secondListed
      firstGuards secondGuards
    obtain ⟨firstEarlier, firstStored, firstGuarded⟩ :=
      before first firstPhase gate firstListed firstGuards
    obtain ⟨secondEarlier, secondStored, secondGuarded⟩ :=
      before second secondPhase gate secondListed secondGuards
    exact gated.exclusive first second firstEarlier secondEarlier gate
      firstStored secondStored firstGuarded secondGuarded

/-- The lock of a gate is taken only while nobody holds its guard. -/
theorem Gated.lock (gated : state.Gated)
    (moves : state.Moves after call phase next)
    (kept : after.flights = state.flights)
    (locked : phase.lock state.calls = some next) : after.Gated := by
  unfold LookupPhase.lock at locked
  split at locked
  · next key gate snapshot =>
      split at locked
      · cases locked
      · next free =>
          cases locked
          have unguarded :
              ∀ (other : Nat) (reached : LookupPhase),
                state.calls[other]? = some reached →
                reached.guards gate = false := by
            intro other reached listed
            by_contra guarded
            apply free
            exact List.any_eq_true.mpr
              ⟨reached, List.mem_of_getElem? listed, by simpa using guarded⟩
          constructor
          · intro other otherKey otherGate stage listed
            rw [kept]
            rcases moves.phase_cases listed with moved | stayed
            · obtain ⟨rfl, same⟩ := moved
              cases same
              exact gated.shared other key gate _ moves.listed
            · exact gated.shared other otherKey otherGate stage stayed
          · intro first second firstPhase secondPhase other firstListed
              secondListed firstGuards secondGuards
            have ofGate :
                ∀ reached,
                  reached = LookupPhase.holding key gate
                    (.readingCache snapshot) →
                  reached.guards other = true → other = gate := by
              intro reached same guards
              subst same
              simp only [LookupPhase.guards, Bool.and_eq_true,
                decide_eq_true_eq] at guards
              exact guards.1.symm
            rcases moves.phase_cases firstListed with firstMoved | firstStayed
            · rcases moves.phase_cases secondListed with
                secondMoved | secondStayed
              · exact firstMoved.1.trans secondMoved.1.symm
              · have same := ofGate firstPhase firstMoved.2 firstGuards
                subst same
                rw [unguarded second secondPhase secondStayed] at secondGuards
                cases secondGuards
            · rcases moves.phase_cases secondListed with
                secondMoved | secondStayed
              · have same := ofGate secondPhase secondMoved.2 secondGuards
                subst same
                rw [unguarded first firstPhase firstStayed] at firstGuards
                cases firstGuards
              · exact gated.exclusive first second firstPhase secondPhase other
                  firstStayed secondStayed firstGuards secondGuards
  · cases locked

theorem Gated.join (gated : state.Gated) {key : CacheKey}
    {snapshot : ResourceSnapshot} {gate : GateId}
    (moves :
      state.Moves after call (.joining key snapshot)
        (.holding key gate (.waiting snapshot)))
    (found : after.flights.lookup key = some gate)
    (living :
      ∀ other held, state.flights.lookup other = some held →
        state.strongCount held ≠ 0 →
        after.flights.lookup other = some held) : after.Gated := by
  constructor
  · intro other otherKey otherGate stage listed
    rcases moves.phase_cases listed with moved | stayed
    · obtain ⟨rfl, same⟩ := moved
      cases same
      exact found
    · exact living otherKey otherGate
        (gated.shared other otherKey otherGate stage stayed)
        (strongCount_ne_zero stayed)
  · have before :
        ∀ (other : Nat) (reached : LookupPhase) held,
          after.calls[other]? = some reached →
          reached.guards held = true → state.calls[other]? = some reached := by
      intro other reached held listed guards
      rcases moves.phase_cases listed with moved | stayed
      · obtain ⟨rfl, rfl⟩ := moved
        simp [LookupPhase.guards, GateStage.pastGate] at guards
      · exact stayed
    intro first second firstPhase secondPhase held firstListed secondListed
      firstGuards secondGuards
    exact gated.exclusive first second firstPhase secondPhase held
      (before first firstPhase held firstListed firstGuards)
      (before second secondPhase held secondListed secondGuards) firstGuards
      secondGuards

end Moving

theorem Gated.step (gated : state.Gated)
    (stepped : state.step lastInstant config action = some after) :
    after.Gated := by
  rcases step_gates stepped with called | kept | moved | joined
  · obtain ⟨host, calls, flights⟩ := called
    have before :
        ∀ (call : Nat) (reached : LookupPhase),
          after.calls[call]? = some reached →
          (∃ gate, reached.holds gate = true) →
          state.calls[call]? = some reached := by
      intro call reached listed holds
      rw [calls, List.getElem?_append] at listed
      split at listed
      · exact listed
      · rw [List.getElem?_singleton] at listed
        split at listed
        · cases listed
          obtain ⟨gate, held⟩ := holds
          cases held
        · cases listed
    have holds :
        ∀ reached gate, LookupPhase.guards gate reached = true →
          ∃ gate, reached.holds gate = true := by
      intro reached gate guards
      obtain ⟨key, stage, rfl, -⟩ := holds_of_guards guards
      exact ⟨gate, by simp [LookupPhase.holds]⟩
    constructor
    · intro call key gate stage listed
      rw [flights]
      exact gated.shared call key gate stage
        (before call _ listed ⟨gate, by simp [LookupPhase.holds]⟩)
    · intro first second firstPhase secondPhase gate firstListed secondListed
        firstGuards secondGuards
      exact gated.exclusive first second firstPhase secondPhase gate
        (before first _ firstListed (holds _ gate firstGuards))
        (before second _ secondListed (holds _ gate secondGuards)) firstGuards
        secondGuards
  · constructor
    · rw [kept.1, kept.2]
      exact gated.shared
    · rw [kept.1]
      exact gated.exclusive
  · obtain ⟨call, phase, next, moves, flights, continues | locked⟩ := moved
    · exact gated.move moves flights continues
    · exact gated.lock moves flights locked
  · obtain ⟨call, key, snapshot, gate, moves, found, living⟩ := joined
    exact gated.join moves found living

theorem gated_start (resources : ResourceTable) : (start resources).Gated := by
  constructor
  · intro call key gate stage listed
    simp [start] at listed
  · intro first second firstPhase secondPhase gate firstListed
    simp [start] at firstListed

/-- Of the calls with one key at most one is past the gate. -/
theorem Gated.unique (gated : state.Gated) {first second : Nat}
    {key : CacheKey} {firstGate secondGate : GateId}
    {firstStage secondStage : GateStage}
    (firstListed :
      state.calls[first]? = some (.holding key firstGate firstStage))
    (secondListed :
      state.calls[second]? = some (.holding key secondGate secondStage))
    (firstPast : firstStage.pastGate = true)
    (secondPast : secondStage.pastGate = true) : first = second := by
  have firstShared := gated.shared first key firstGate firstStage firstListed
  have secondShared :=
    gated.shared second key secondGate secondStage secondListed
  rw [firstShared] at secondShared
  cases secondShared
  exact gated.exclusive first second _ _ firstGate firstListed secondListed
    (by simp [LookupPhase.guards, firstPast])
    (by simp [LookupPhase.guards, secondPast])

end ResolverState

/-! ## What the last checks say -/

/-- The answer is of the epoch and the generation that were current at its
last check. -/
def LookupResult.Sound : LookupResult → Prop
  | .answered key _ current => current = key.policy
  | _ => True

/-- What the checks so far have shown. -/
def GateStage.Sound (client : AtrustClient) (key : CacheKey) :
    GateStage → Prop
  | .retakingSession _ => client.sessionEpoch = key.epoch
  | .recheckingGeneration _ session =>
      client.sessionEpoch = key.epoch ∧ session = client.active
  | .storing _ current => current = key.policy
  | .unlocking result => result.Sound
  | .dropping result => result.Sound
  | _ => True

def LookupPhase.Sound (client : AtrustClient) : LookupPhase → Prop
  | .holding key _ stage => stage.Sound client key
  | .finished result => result.Sound
  | _ => True

namespace LookupPhase

variable {client : AtrustClient} {before after : LookupPhase}

theorem sound_proceed (moved : before.proceed client = some after) :
    after.Sound client := by
  cases before with
  | checking host =>
      simp only [proceed] at moved
      split at moved
      · cases moved
        trivial
      · cases moved
        unfold accept
        split
        · trivial
        · split
          · trivial
          · trivial
  | readingEpoch host =>
      cases moved
      trivial
  | takingSession host epoch =>
      cases moved
      trivial
  | readingSnapshot host epoch session =>
      cases moved
      trivial
  | joining key snapshot => cases moved
  | holding key gate stage => cases moved
  | finished result => cases moved

theorem sound_lock {calls : List LookupPhase}
    (moved : before.lock calls = some after) : after.Sound client := by
  unfold lock at moved
  split at moved
  · split at moved
    · cases moved
    · cases moved
      trivial
  · cases moved

/-- An answer from the cache is sound if the generation of its key is
current. -/
theorem sound_readCache {config : ResolverConfig}
    {cache : HashTable CacheKey Cached} {first second : Instant}
    (current :
      ∀ key gate snapshot cached,
        before = .holding key gate (.readingCache snapshot) →
        cache.lookup key = some cached → first < cached.expiry →
        client.sessionEpoch = key.epoch →
        client.resources.generation = key.generation)
    (moved : before.readCache config client cache first second = some after) :
    after.Sound client := by
  unfold readCache at moved
  split at moved
  · next key gate snapshot =>
      have unchecked :
          ∀ {addresses : List Ipv4Addr},
            (if addresses = [] then
              LookupPhase.holding key gate .exchanging
            else
              .holding key gate
                (.recheckingEpoch ⟨addresses, config.maxTtl⟩)).Sound
              client := by
        intro addresses
        split
        · trivial
        · trivial
      simp only at moved
      split at moved
      · next cached found =>
          split at moved
          · next hit =>
              cases moved
              have generation :=
                current key gate snapshot cached rfl found hit.1 hit.2
              exact Prod.ext hit.2 generation
          · cases moved
            exact unchecked
      · cases moved
        exact unchecked
  · cases moved

theorem sound_answer {outcome : Except IoError Answer}
    (moved : before.answer outcome = some after) : after.Sound client := by
  unfold answer at moved
  split at moved
  · split at moved
    · cases moved
      trivial
    · cases moved
      trivial
  · cases moved

/-- Each check of a fresh answer adds what it has read. -/
theorem sound_recheck (sound : before.Sound client)
    (moved : before.recheck client = some after) : after.Sound client := by
  unfold recheck at moved
  split at moved
  · split at moved
    · next same =>
        cases moved
        exact same
    · cases moved
      trivial
  · cases moved
    exact ⟨sound, rfl⟩
  · split at moved
    · next same =>
        cases moved
        obtain ⟨epoch, rfl⟩ := sound
        exact Prod.ext epoch same
    · cases moved
      trivial
  · cases moved

theorem sound_leave (sound : before.Sound client)
    (moved : before.leave = some after) : after.Sound client := by
  unfold leave at moved
  split at moved
  · cases moved
    exact sound
  · cases moved
    exact sound
  · cases moved

theorem sound_cancel (moved : before.cancel = some after) :
    after.Sound client := by
  unfold cancel at moved
  split at moved
  · cases moved
  · cases moved
  · cases moved
    trivial
  · cases moved
    trivial
  · cases moved
  · cases moved
    trivial

/-- Only a replaced session makes a check worthless, and only between the two
checks of a fresh answer. -/
theorem sound_of_client {other : AtrustClient} (sound : before.Sound client)
    (kept :
      (other.sessionEpoch = client.sessionEpoch ∧
        other.active = client.active) ∨
      ∀ key gate stage, before = .holding key gate stage →
        stage.betweenChecks = false) : before.Sound other := by
  cases before with
  | holding key gate stage =>
      cases stage with
      | retakingSession answer =>
          rcases kept with same | apart
          · exact same.1.trans sound
          · cases apart key gate _ rfl
      | recheckingGeneration answer session =>
          rcases kept with same | apart
          · exact ⟨same.1.trans sound.1, sound.2.trans same.2.symm⟩
          · cases apart key gate _ rfl
      | waiting snapshot => trivial
      | readingCache snapshot => trivial
      | exchanging => trivial
      | recheckingEpoch answer => trivial
      | storing answer current => exact sound
      | unlocking result => exact sound
      | dropping result => exact sound
  | finished result => exact sound
  | checking host => trivial
  | readingEpoch host => trivial
  | takingSession host epoch => trivial
  | readingSnapshot host epoch session => trivial
  | joining key snapshot => trivial

end LookupPhase

namespace ResolverState

variable {lastInstant : Instant} {config : ResolverConfig}
  {state after : ResolverState} {action : ResolverAction}

/-- No newer generation is current when a call takes its answer from the
cache, and no session is replaced while a call is between the two checks of a
fresh answer. -/
def Undisturbed (state : ResolverState) : ResolverAction → Prop
  | .readCache call first _ =>
      ∀ key gate snapshot cached,
        state.calls[call]? = some (.holding key gate (.readingCache snapshot)) →
        state.cache.lookup key = some cached → first < cached.expiry →
        state.client.sessionEpoch = key.epoch →
        state.client.resources.generation = key.generation
  | .replaceSession _ =>
      ∀ key gate stage, .holding key gate stage ∈ state.calls →
        stage.betweenChecks = false
  | _ => True

/-- All calls are sound. -/
def Checked (state : ResolverState) : Prop :=
  ∀ phase ∈ state.calls, phase.Sound state.client

theorem Checked.move {call : Nat} {phase next : LookupPhase}
    (checked : state.Checked) (moves : state.Moves after call phase next)
    (sound : phase.Sound state.client → next.Sound state.client) :
    after.Checked := by
  intro reached member
  rw [moves.client]
  rw [moves.calls] at member
  rcases List.mem_or_eq_of_mem_set member with stayed | rfl
  · exact checked reached stayed
  · exact sound (checked phase (List.mem_of_getElem? moves.listed))

theorem Checked.advance {call : Nat}
    {move : LookupPhase → Option LookupPhase} (checked : state.Checked)
    (sound :
      ∀ phase next, state.calls[call]? = some phase → move phase = some next →
        phase.Sound state.client → next.Sound state.client)
    (advanced : state.advance call move = some after) : after.Checked := by
  obtain ⟨phase, next, listed, moved, rfl⟩ := advance_eq_some advanced
  exact checked.move ⟨listed, rfl, rfl⟩ (sound phase next listed moved)

theorem Checked.withClient (checked : state.Checked) {client : AtrustClient}
    (kept :
      (client.sessionEpoch = state.client.sessionEpoch ∧
        client.active = state.client.active) ∨
      ∀ key gate stage, .holding key gate stage ∈ state.calls →
        stage.betweenChecks = false) :
    Checked { state with client := client } := by
  intro phase member
  apply LookupPhase.sound_of_client (checked phase member)
  rcases kept with same | apart
  · exact .inl same
  · right
    intro key gate stage isHolding
    subst isHolding
    exact apart key gate stage member

theorem Checked.step (checked : state.Checked)
    (undisturbed : state.Undisturbed action)
    (stepped : state.step lastInstant config action = some after) :
    after.Checked := by
  cases action with
  | call host =>
      cases stepped
      intro phase member
      rcases List.mem_append.mp member with stayed | added
      · exact checked phase stayed
      · rw [List.mem_singleton.mp added]
        trivial
  | proceed call =>
      exact checked.advance
        (fun _ _ _ moved _ => LookupPhase.sound_proceed moved) stepped
  | join call =>
      obtain ⟨key, snapshot, gate, moves, -⟩ := join_eq_some stepped
      exact checked.move moves fun _ => trivial
  | lock call =>
      exact checked.advance
        (fun _ _ _ moved _ => LookupPhase.sound_lock moved) stepped
  | readCache call first second =>
      refine checked.advance ?_ stepped
      intro phase next listed moved _
      refine LookupPhase.sound_readCache ?_ moved
      intro key gate snapshot cached isReading
      subst isReading
      exact undisturbed key gate snapshot cached listed
  | answer call outcome =>
      exact checked.advance
        (fun _ _ _ moved _ => LookupPhase.sound_answer moved) stepped
  | recheck call =>
      exact checked.advance
        (fun _ _ _ moved sound => LookupPhase.sound_recheck sound moved) stepped
  | store call surroundings =>
      obtain ⟨key, gate, answer, current, result, moves, -, ending⟩ :=
        store_eq_some stepped
      apply checked.move moves
      intro sound
      rcases ending with rfl | returned
      · trivial
      · obtain ⟨fresh, rfl⟩ := returned
        exact sound
  | leave call =>
      exact checked.advance
        (fun _ _ _ moved sound => LookupPhase.sound_leave sound moved) stepped
  | cancel call =>
      exact checked.advance
        (fun _ _ _ moved _ => LookupPhase.sound_cancel moved) stepped
  | refresh session resources =>
      cases stepped
      exact checked.withClient (.inl ⟨rfl, rfl⟩)
  | invalidate session =>
      cases stepped
      exact checked.withClient (.inl ⟨rfl, rfl⟩)
  | shutdown =>
      cases stepped
      exact checked.withClient (.inl ⟨rfl, rfl⟩)
  | replaceSession resources =>
      cases stepped
      exact checked.withClient (.inr undisturbed)

end ResolverState

/-- In every interleaving at most one call of a key is past its gate; and if no
newer generation is current when a call takes its answer from the cache and no
session is replaced between the two checks of a fresh answer, every answer is
of the epoch and the generation that were current at its last check. -/
theorem lookup_with_ttl_runs {lastInstant : Instant} {config : ResolverConfig}
    {resources : ResourceTable} {actions : List ResolverAction}
    {final : ResolverState}
    (ran :
      run (ResolverState.step lastInstant config) (.start resources) actions =
        some final) :
    (∀ (first second : Nat) key firstGate secondGate firstStage secondStage,
      final.calls[first]? = some (.holding key firstGate firstStage) →
      final.calls[second]? = some (.holding key secondGate secondStage) →
      firstStage.pastGate = true → secondStage.pastGate = true →
      first = second) ∧
      (Meets (ResolverState.step lastInstant config) ResolverState.Undisturbed
          (.start resources) actions →
        ∀ (call : Nat) key answer current,
          final.calls[call]? =
            some (.finished (.answered key answer current)) →
          current = (key.epoch, key.generation)) := by
  constructor
  · have gated : final.Gated := by
      refine invariant_of_run ResolverState.Gated
        (ResolverState.gated_start resources) ?_ ran
      intro state action after gated stepped
      exact gated.step stepped
    intro first second key firstGate secondGate firstStage secondStage
      firstListed secondListed firstPast secondPast
    exact gated.unique firstListed secondListed firstPast secondPast
  · intro undisturbed call key answer current listed
    have checked : final.Checked := by
      refine invariant_of_meets ResolverState.Checked ?_ ?_ undisturbed ran
      · intro phase member
        simp [ResolverState.start] at member
      · intro state action after checked undisturbed stepped
        exact checked.step undisturbed stepped
    exact checked _ (List.mem_of_getElem? listed)

/-! ## An answer of an older generation -/

theorem staticIps_of_empty (generation : Nat) (host : Str) :
    staticIps (.new generation ⟨⟨[], []⟩, []⟩) host = [] := by
  have unindexed : (ResourceIndex.build ⟨[], []⟩).domain = [] :=
    List.mergeSort_nil
  simp only [staticIps, ResourceSnapshot.new,
    ResourceIndex.domainResourcesForHost, unindexed]
  split
  · rfl
  · rfl

def sampleConfig : ResolverConfig :=
  ⟨60, 8⟩

def sampleKey : CacheKey :=
  ⟨1, 1, ['h']⟩

/-- A call for the host `h` takes the lock of its gate. -/
def firstEnters : List ResolverAction :=
  [.call ['h'], .proceed 0, .proceed 0, .proceed 0, .proceed 0, .join 0,
    .lock 0]

/-- The call at a stage behind its gate, nothing being in the cache. -/
def firstAt (stage : GateStage) : ResolverState where
  client := .start ⟨⟨[], []⟩, []⟩
  cache := ∅
  flights := (∅ : HashTable CacheKey GateId).insert sampleKey 0
  nextGate := 1
  calls := [.holding sampleKey 0 stage]

theorem run_firstEnters :
    run (ResolverState.step 1000 sampleConfig) (.start ⟨⟨[], []⟩, []⟩) firstEnters =
      some (firstAt (.readingCache (.new 1 ⟨⟨[], []⟩, []⟩))) := by
  rfl

theorem step_firstReads :
    (firstAt (.readingCache (.new 1 ⟨⟨[], []⟩, []⟩))).step 1000 sampleConfig
        (.readCache 0 0 0) =
      some (firstAt .exchanging) := by
  have missed :
      LookupPhase.readCache sampleConfig (.start ⟨⟨[], []⟩, []⟩) ∅ 0 0
          (.holding sampleKey 0 (.readingCache (.new 1 ⟨⟨[], []⟩, []⟩))) =
        some (.holding sampleKey 0 .exchanging) := by
    simp only [LookupPhase.readCache, staticIps_of_empty, if_true,
      AList.lookup_empty]
  change
    (LookupPhase.readCache sampleConfig (.start ⟨⟨[], []⟩, []⟩) ∅ 0 0
        (.holding sampleKey 0 (.readingCache (.new 1 ⟨⟨[], []⟩, []⟩)))).bind
      (fun next => some { firstAt .exchanging with calls := [next] }) = _
  rw [missed]
  rfl

theorem run_firstReads :
    run (ResolverState.step 1000 sampleConfig) (.start ⟨⟨[], []⟩, []⟩)
        (firstEnters ++ [.readCache 0 0 0]) =
      some (firstAt .exchanging) :=
  run_snoc run_firstEnters step_firstReads

/-- The answer arrives, is checked twice and stored. -/
def firstReturns : List ResolverAction :=
  [.answer 0 (.ok ⟨[⟨10, 0, 0, 7⟩], 60⟩), .recheck 0, .recheck 0, .recheck 0,
    .store 0 ⟨fun _ => 0, 0, .stored⟩, .leave 0, .leave 0]

/-- A second call waits at the gate while the resources are refreshed, and then
finds the answer in the cache. -/
def secondReturns : List ResolverAction :=
  [.call ['h'], .proceed 1, .proceed 1, .proceed 1, .proceed 1, .join 1,
    .refresh 0 ⟨⟨[], []⟩, []⟩, .lock 1, .readCache 1 1 1, .leave 1, .leave 1]

theorem cached_answer_of_older_generation :
    ∃ final,
      run (ResolverState.step 1000 sampleConfig) (.start ⟨⟨[], []⟩, []⟩)
          (firstEnters ++ [.readCache 0 0 0] ++
            (firstReturns ++ secondReturns)) =
        some final ∧
        final.calls[1]? =
          some
            (.finished
              (.answered ⟨1, 1, ['h']⟩ ⟨[⟨10, 0, 0, 7⟩], 59⟩ (1, 2))) := by
  rw [run_append, run_firstReads]
  exact ⟨_, rfl, rfl⟩

/-- Whether the step neither reads the cache nor replaces the session. -/
def ResolverAction.plain : ResolverAction → Bool
  | .readCache _ _ _ | .replaceSession _ => false
  | _ => true

theorem ResolverState.undisturbed_of_plain {state : ResolverState}
    {action : ResolverAction} (plain : action.plain = true) :
    state.Undisturbed action := by
  cases action <;> trivial

theorem meets_of_plain {state : ResolverState} {actions : List ResolverAction}
    (plain : actions.all ResolverAction.plain = true) :
    Meets (ResolverState.step 1000 sampleConfig) ResolverState.Undisturbed
      state actions :=
  meets_of_forall fun _ action listed =>
    ResolverState.undisturbed_of_plain (List.all_eq_true.mp plain action listed)

/-- A second call comes to the cache. -/
def secondEnters : List ResolverAction :=
  [.call ['h'], .proceed 1, .proceed 1, .proceed 1, .proceed 1, .join 1,
    .lock 1]

/-- The resources are refreshed when the second call has read the cache. -/
def secondLeaves : List ResolverAction :=
  [.refresh 0 ⟨⟨[], []⟩, []⟩, .leave 1, .leave 1]

theorem lookup_with_ttl_runs_fresh :
    ∃ final current,
      run (ResolverState.step 1000 sampleConfig) (.start ⟨⟨[], []⟩, []⟩)
          (firstEnters ++ [.readCache 0 0 0] ++
            ((firstReturns ++ secondEnters) ++
              (.readCache 1 1 1 :: secondLeaves))) =
        some final ∧
        final.client.current = (1, 2) ∧
        final.calls[1]? =
          some
            (.finished
              (.answered ⟨1, 1, ['h']⟩ ⟨[⟨10, 0, 0, 7⟩], 59⟩ current)) ∧
        current = (1, 1) := by
  obtain ⟨middle, entered, generation, ⟨gate, snapshot, reads⟩, after, left,
      final, leaves, refreshed, listed⟩ :
      ∃ middle,
        run (ResolverState.step 1000 sampleConfig) (firstAt .exchanging)
            (firstReturns ++ secondEnters) = some middle ∧
          middle.client.resources.generation = 1 ∧
          (∃ gate snapshot, middle.calls[1]? =
            some (.holding sampleKey gate (.readingCache snapshot))) ∧
          ∃ after,
            middle.step 1000 sampleConfig (.readCache 1 1 1) = some after ∧
            ∃ final,
              run (ResolverState.step 1000 sampleConfig) after secondLeaves =
                  some final ∧
                final.client.current = (1, 2) ∧
                final.calls[1]? =
                  some
                    (.finished
                      (.answered ⟨1, 1, ['h']⟩ ⟨[⟨10, 0, 0, 7⟩], 59⟩
                        (1, 1))) :=
    ⟨_, rfl, rfl, ⟨_, _, rfl⟩, _, rfl, _, rfl, rfl, rfl⟩
  have ran :
      run (ResolverState.step 1000 sampleConfig) (.start ⟨⟨[], []⟩, []⟩)
          (firstEnters ++ [.readCache 0 0 0] ++
            ((firstReturns ++ secondEnters) ++
              (.readCache 1 1 1 :: secondLeaves))) =
        some final := by
    rw [run_append, run_firstReads, Option.bind_some, run_append, entered,
      Option.bind_some, run, left]
    exact leaves
  have undisturbed :
      Meets (ResolverState.step 1000 sampleConfig) ResolverState.Undisturbed
        (.start ⟨⟨[], []⟩, []⟩)
        (firstEnters ++ [ResolverAction.readCache 0 0 0] ++
          ((firstReturns ++ secondEnters) ++
            (ResolverAction.readCache 1 1 1 :: secondLeaves))) := by
    refine meets_append
      (meets_append (meets_of_plain rfl) run_firstEnters ⟨?_, ?_⟩)
      run_firstReads (meets_append (meets_of_plain rfl) entered ⟨?_, ?_⟩)
    · intro key gate snapshot cached _ found
      simp [firstAt] at found
    · exact fun _ _ => trivial
    · intro key gate snapshot cached held found early current
      rw [reads] at held
      cases held
      exact generation
    · intro reached stepped
      exact meets_of_plain rfl
  exact ⟨final, (1, 1), ran, refreshed, listed,
    (lookup_with_ttl_runs ran).2 undisturbed 1 ⟨1, 1, ['h']⟩ _ _ listed⟩

end HermesAtrust.Net
