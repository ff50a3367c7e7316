import HermesAtrust.Auth.Routing
import HermesAtrust.Concurrency.Transitions

/-!
# The cache of the resource table

Model of `ResourceCache`.  A `refresh` asks the gateway for the table without
any lock.  A table that has arrived waits for the write lock of the current
snapshot; the lock is handed to the waiting calls in the order in which they
asked for it.  Under the lock the next generation is made, stored and sent to
the watch channel.

The answers of the gateway are numbered in the order in which it gives them,
and reach their calls in any order.
-/

namespace HermesAtrust.Auth.ResourceCache

open HermesAtrust.Concurrency HermesAtrust.Text

structure NodeAddress where
  address : Str
  addressType : Str
  deriving DecidableEq, Repr

structure NodeGroup where
  id : Str
  addresses : List NodeAddress
  deriving DecidableEq, Repr

/-- The tables of a `clientResource` response together with its node
groups. -/
structure ResourceTable extends ClientResources where
  nodeGroups : List NodeGroup

/-- One published generation. -/
structure ResourceSnapshot where
  generation : Nat
  resources : ResourceTable
  routing : ResourceIndex

/-- `ResourceSnapshot::new`. -/
def ResourceSnapshot.new (generation : Nat) (resources : ResourceTable) :
    ResourceSnapshot where
  generation := generation
  resources := resources
  routing := ResourceIndex.build resources.toClientResources

/-- `u64::MAX`. -/
def maxGeneration : Nat := 2 ^ 64 - 1

/-- `saturating_add(1)` on a `u64`. -/
def nextGeneration (generation : Nat) : Nat :=
  min (generation + 1) maxGeneration

inductive ResourceError where
  | invalidJson (error : String)
  | rejected (code : Int) (message : String)
  | missingData
  deriving DecidableEq, Repr

def ResourceError.toText : ResourceError → String
  | .invalidJson error =>
      "clientResource response is not valid JSON: " ++ error
  | .rejected code message =>
      "clientResource rejected with code " ++ toString code ++ ": " ++ message
  | .missingData => "clientResource response is missing data"

/-- The errors of the control plane; those that nothing here distinguishes are
given by their text. -/
inductive AuthError where
  | unexpectedStatus (status : UInt16)
  | authenticationRejected (code : Int) (message : String)
  | resource (error : ResourceError)
  | other (text : String)
  deriving DecidableEq, Repr

def AuthError.toText : AuthError → String
  | .unexpectedStatus status =>
      "aTrust returned unexpected HTTP status " ++ toString status
  | .authenticationRejected code message =>
      "authentication rejected with code " ++ toString code ++ ": " ++ message
  | .resource error => "failed to parse clientResource: " ++ error.toText
  | .other text => text

/-- `SESSION_INVALID_CODE`. -/
def sessionInvalidCode : Int := 75500002

/-- `is_session_invalid`. -/
def AuthError.isSessionInvalid : AuthError → Bool
  | .authenticationRejected code _ => code == sessionInvalidCode
  | .resource (.rejected code _) => code == sessionInvalidCode
  | _ => false

abbrev CallId := Nat

inductive Event where
  | resourcePublished
      (generation ipResources domainResources nodeGroups : Nat)
  | resourceRefreshFailed (generationInUse consecutiveFailures : Nat)
      (error : String)
  | sessionInvalidated (reason : String)
  deriving DecidableEq, Repr

/-- Where a call of `refresh` stands.  An answer carries its number. -/
inductive RefreshPhase where
  | fetching
  | answered (number : Nat) (answer : Except AuthError ResourceTable)
  | waiting
  | reporting (consecutive : Nat) (error : AuthError)
  | returned (result : Except AuthError ResourceSnapshot)
  | cancelled

/-- The call has returned a snapshot. -/
def RefreshPhase.succeeded : RefreshPhase → Bool
  | .returned (.ok _) => true
  | _ => false

/-- A call that waits for the write lock with the table it has got. -/
structure Waiting where
  call : CallId
  number : Nat
  resources : ResourceTable

/-- The cache and the calls of `refresh`.  `published` is the number of the
answer that the current snapshot was made from. -/
structure State where
  current : ResourceSnapshot
  updates : ResourceSnapshot
  consecutiveFailures : Nat
  invalidated : Bool
  events : List Event
  refreshes : List RefreshPhase
  queue : List Waiting
  answers : Nat
  published : Nat

/-- `ResourceCache::new`, from the first answer of the gateway. -/
def new (resources : ResourceTable) : State where
  current := .new 1 resources
  updates := .new 1 resources
  consecutiveFailures := 0
  invalidated := false
  events := []
  refreshes := []
  queue := []
  answers := 1
  published := 0

/-- `refresh` is called, is answered by the gateway, gets the answer, gets the
write lock, reports a failure or is dropped. -/
inductive Action where
  | refresh
  | answer (call : CallId) (answer : Except AuthError ResourceTable)
  | arrive (call : CallId)
  | publish
  | report (call : CallId)
  | cancel (call : CallId)

namespace State

def setPhase (state : State) (call : CallId) (phase : RefreshPhase) : State :=
  { state with refreshes := state.refreshes.set call phase }

def emit (state : State) (event : Event) : State :=
  { state with events := state.events ++ [event] }

/-- `report_failure`, up to the read lock. -/
def reportFailure (state : State) (call : CallId) (error : AuthError) :
    State :=
  if error.isSessionInvalid then
    ({ state with invalidated := true }.emit
      (.sessionInvalidated error.toText)).setPhase call
        (.returned (.error error))
  else
    let consecutive := (state.consecutiveFailures + 1) % 2 ^ 32
    { state with consecutiveFailures := consecutive }.setPhase call
      (.reporting consecutive error)

/-- The answer of the gateway reaches its call. -/
def arrive (state : State) (call : CallId) : Option State :=
  match state.refreshes[call]? with
  | some (.answered number (.ok resources)) =>
      some
        ({ state with
          queue := state.queue ++ [Waiting.mk call number resources]
        }.setPhase call .waiting)
  | some (.answered _ (.error error)) => some (state.reportFailure call error)
  | _ => none

/-- What `refresh` does under the write lock. -/
def publish (state : State) : Option State :=
  match state.queue with
  | [] => none
  | waiting :: later =>
      let next :=
        ResourceSnapshot.new (nextGeneration state.current.generation)
          waiting.resources
      some
        (({ state with
          current := next
          updates := next
          consecutiveFailures := 0
          queue := later
          published := waiting.number }.emit
            (.resourcePublished next.generation
              next.resources.ipResources.length
              next.resources.domainResources.length
              next.resources.nodeGroups.length)).setPhase waiting.call
                (.returned (.ok next)))

/-- The end of `report_failure`. -/
def report (state : State) (call : CallId) : Option State :=
  match state.refreshes[call]? with
  | some (.reporting consecutive error) =>
      some
        ((state.emit
          (.resourceRefreshFailed state.current.generation consecutive
            error.toText)).setPhase call (.returned (.error error)))
  | _ => none

/-- The call is dropped before it has returned. -/
def cancel (state : State) (call : CallId) : Option State :=
  match state.refreshes[call]? with
  | none => none
  | some (.returned _) => none
  | some .cancelled => none
  | some _ =>
      some
        ({ state with
          queue := state.queue.filter fun waiting => waiting.call != call
        }.setPhase call .cancelled)

/-- One step of the cache. -/
def step (state : State) : Action → Option State
  | .refresh =>
      some { state with refreshes := state.refreshes ++ [.fetching] }
  | .answer call answer =>
      match state.refreshes[call]? with
      | some .fetching =>
          some
            ({ state with answers := state.answers + 1 }.setPhase call
              (.answered state.answers answer))
      | _ => none
  | .arrive call => state.arrive call
  | .publish => state.publish
  | .report call => state.report call
  | .cancel call => state.cancel call

/-! ## The order of the answers -/

/-- A table arrives after all tables that the gateway answered before it and
that are published or wait for the write lock, and there is a next
generation. -/
def Ordered (state : State) : Action → Prop
  | .arrive call =>
      ∀ number resources,
        state.refreshes[call]? = some (.answered number (.ok resources)) →
        state.published ≤ number ∧
          ∀ waiting ∈ state.queue, waiting.number ≤ number
  | .publish => state.current.generation < maxGeneration
  | _ => True

/-- The snapshot is complete and the watch channel has it too; the calls that
wait for the lock have tables that the gateway answered after the published
one, in the order of the answers. -/
structure InOrder (state : State) : Prop where
  watched : state.updates = state.current
  complete :
    state.current =
      .new state.current.generation state.current.resources
  later : ∀ waiting ∈ state.queue, state.published ≤ waiting.number
  sorted :
    state.queue.Pairwise fun first second => first.number ≤ second.number

theorem inOrder_new (resources : ResourceTable) :
    (new resources).InOrder where
  watched := rfl
  complete := rfl
  later := nofun
  sorted := .nil

/-- What one step does to the snapshot and to the calls that wait for the
lock. -/
theorem step_cases {state after : State} {action : Action}
    (stepped : state.step action = some after) :
    (action = .publish ∧ ∃ waiting queue,
        state.queue = waiting :: queue ∧ after.queue = queue ∧
        after.published = waiting.number ∧
        after.current = .new (nextGeneration state.current.generation)
          waiting.resources ∧
        after.updates = after.current ∧
        after.refreshes = state.refreshes.set waiting.call
          (.returned (.ok after.current))) ∨
      (after.current = state.current ∧ after.updates = state.updates ∧
        after.published = state.published ∧
        ((∃ call number resources, action = .arrive call ∧
            state.refreshes[call]? =
              some (.answered number (.ok resources)) ∧
            after.queue = state.queue ++ [⟨call, number, resources⟩]) ∨
          after.queue.Sublist state.queue)) := by
  cases action with
  | refresh =>
      cases stepped
      exact .inr ⟨rfl, rfl, rfl, .inr (.refl _)⟩
  | answer call answer =>
      simp only [step] at stepped
      split at stepped
      · cases stepped
        exact .inr ⟨rfl, rfl, rfl, .inr (.refl _)⟩
      · cases stepped
  | arrive call =>
      simp only [step, arrive] at stepped
      split at stepped
      · next number resources answered =>
          cases stepped
          exact .inr ⟨rfl, rfl, rfl,
            .inl ⟨call, number, resources, rfl, answered, rfl⟩⟩
      · cases stepped
        unfold reportFailure
        split
        · exact .inr ⟨rfl, rfl, rfl, .inr (.refl _)⟩
        · exact .inr ⟨rfl, rfl, rfl, .inr (.refl _)⟩
      · cases stepped
  | publish =>
      simp only [step, publish] at stepped
      split at stepped
      · cases stepped
      · next waiting later queued =>
          cases stepped
          exact .inl ⟨rfl, waiting, later, queued, rfl, rfl, rfl, rfl, rfl⟩
  | report call =>
      simp only [step, report] at stepped
      split at stepped
      · cases stepped
        exact .inr ⟨rfl, rfl, rfl, .inr (.refl _)⟩
      · cases stepped
  | cancel call =>
      simp only [step, cancel] at stepped
      split at stepped
      · cases stepped
      · cases stepped
      · cases stepped
      · cases stepped
        exact .inr ⟨rfl, rfl, rfl, .inr List.filter_sublist⟩

theorem InOrder.step {state after : State} {action : Action}
    (inOrder : state.InOrder) (ordered : state.Ordered action)
    (stepped : state.step action = some after) : after.InOrder := by
  rcases step_cases stepped with
    ⟨rfl, waiting, queue, queued, rest, number, published, updates, -⟩ |
      ⟨current, updates, number, changed⟩
  · have sorted := inOrder.sorted
    rw [queued, List.pairwise_cons] at sorted
    constructor
    · exact updates
    · rw [published]
      rfl
    · intro other listed
      rw [rest] at listed
      rw [number]
      exact sorted.1 other listed
    · rw [rest]
      exact sorted.2
  · constructor
    · rw [current, updates]
      exact inOrder.watched
    · rw [current]
      exact inOrder.complete
    · intro other listed
      rw [number]
      rcases changed with ⟨call, new, resources, rfl, answered, queue⟩ | fewer
      · rw [queue] at listed
        rcases List.mem_append.mp listed with earlier | last
        · exact inOrder.later other earlier
        · cases List.mem_singleton.mp last
          exact (ordered new resources answered).1
      · exact inOrder.later other (fewer.subset listed)
    · rcases changed with ⟨call, new, resources, rfl, answered, queue⟩ | fewer
      · rw [queue, List.pairwise_append]
        refine ⟨inOrder.sorted, List.pairwise_singleton _ _, ?_⟩
        intro first listed second last
        cases List.mem_singleton.mp last
        exact (ordered new resources answered).2 first listed
      · exact inOrder.sorted.sublist fewer

/-! ## Generations and successes -/

/-- The number of calls that have returned a snapshot. -/
def successes (state : State) : Nat :=
  state.refreshes.countP RefreshPhase.succeeded

/-- The calls in the queue are those that wait, each of them once, and every
success has made one generation. -/
structure Counted (state : State) : Prop where
  held :
    ∀ waiting ∈ state.queue,
      state.refreshes[waiting.call]? = some .waiting
  distinct : (state.queue.map Waiting.call).Nodup
  counted : state.current.generation = state.successes + 1

theorem counted_new (resources : ResourceTable) :
    (new resources).Counted where
  held := nofun
  distinct := .nil
  counted := rfl

theorem countP_succeeded_set {phases : List RefreshPhase} {call : CallId}
    {old phase : RefreshPhase} (found : phases[call]? = some old)
    (unfinished : old.succeeded = false) :
    (phases.set call phase).countP RefreshPhase.succeeded =
      phases.countP RefreshPhase.succeeded +
        if phase.succeeded then 1 else 0 := by
  obtain ⟨inside, same⟩ := List.getElem?_eq_some_iff.mp found
  rw [List.countP_set inside, same, unfinished]
  rfl

/-- A call that does not wait moves to a phase in which it has not
succeeded. -/
theorem Counted.moved {state after : State} (counted : state.Counted)
    {call : CallId} {old phase : RefreshPhase}
    (found : state.refreshes[call]? = some old)
    (moved : after.refreshes = state.refreshes.set call phase)
    (queue : after.queue = state.queue)
    (current : after.current = state.current)
    (unfinished : old.succeeded = false) (notWaiting : old ≠ .waiting)
    (unsuccessful : phase.succeeded = false) : after.Counted := by
  constructor
  · intro waiting listed
    rw [queue] at listed
    have held := counted.held waiting listed
    rw [moved, List.getElem?_set_ne]
    · exact held
    · intro same
      rw [← same, found] at held
      exact notWaiting (Option.some.inj held)
  · rw [queue]
    exact counted.distinct
  · rw [current, successes, moved, countP_succeeded_set found unfinished,
      unsuccessful]
    exact counted.counted

theorem Counted.arrive {state after : State} (counted : state.Counted)
    {call : CallId} (stepped : state.arrive call = some after) :
    after.Counted := by
  unfold State.arrive at stepped
  split at stepped
  · next number resources answered =>
      cases stepped
      have moved : (state.setPhase call .waiting).Counted :=
        counted.moved answered rfl rfl rfl rfl nofun rfl
      obtain ⟨inside, -⟩ := List.getElem?_eq_some_iff.mp answered
      constructor
      · intro waiting listed
        rcases List.mem_append.mp listed with earlier | last
        · exact moved.held waiting earlier
        · cases List.mem_singleton.mp last
          exact List.getElem?_set_self inside
      · change ((state.queue ++ [_]).map Waiting.call).Nodup
        rw [List.map_append, List.map_singleton, ← List.concat_eq_append,
          List.nodup_concat]
        refine ⟨?_, counted.distinct⟩
        intro listed
        obtain ⟨waiting, queued, same⟩ := List.mem_map.mp listed
        have held := counted.held waiting queued
        rw [same] at held
        cases answered.symm.trans held
      · exact moved.counted
  · next number error answered =>
      cases stepped
      unfold reportFailure
      split
      · exact counted.moved answered rfl rfl rfl rfl nofun rfl
      · exact counted.moved answered rfl rfl rfl rfl nofun rfl
  · cases stepped

theorem Counted.publish {state after : State} (counted : state.Counted)
    (room : state.current.generation < maxGeneration)
    (stepped : state.publish = some after) : after.Counted := by
  unfold State.publish at stepped
  split at stepped
  · cases stepped
  · next first later queued =>
      cases stepped
      have distinct := counted.distinct
      rw [queued, List.map_cons, List.nodup_cons] at distinct
      have listed : first ∈ state.queue := by
        rw [queued]
        exact List.mem_cons_self
      have held := counted.held first listed
      constructor
      · intro waiting remaining
        change (state.refreshes.set first.call _)[waiting.call]? = _
        rw [List.getElem?_set_ne]
        · apply counted.held waiting
          rw [queued]
          exact List.mem_cons_of_mem first remaining
        · intro same
          apply distinct.1
          rw [same]
          exact List.mem_map_of_mem remaining
      · exact distinct.2
      · change nextGeneration state.current.generation =
          (state.refreshes.set first.call _).countP _ + 1
        rw [countP_succeeded_set held rfl, nextGeneration,
          Nat.min_eq_left room, counted.counted]
        rfl

theorem Counted.cancel {state after : State} (counted : state.Counted)
    {call : CallId} (stepped : state.cancel call = some after) :
    after.Counted := by
  have unfinished :
      ∃ old, state.refreshes[call]? = some old ∧ old.succeeded = false ∧
        after =
          { state with
            queue := state.queue.filter fun waiting => waiting.call != call
          }.setPhase call .cancelled := by
    unfold State.cancel at stepped
    split at stepped
    · cases stepped
    · cases stepped
    · cases stepped
    · next old notReturned notCancelled found =>
        cases stepped
        refine ⟨old, found, ?_, rfl⟩
        cases old with
        | returned result => exact absurd rfl (notReturned result)
        | _ => rfl
  obtain ⟨old, found, unsuccessful, rfl⟩ := unfinished
  constructor
  · intro waiting listed
    obtain ⟨queued, other⟩ := List.mem_filter.mp listed
    change (state.refreshes.set call _)[waiting.call]? = _
    rw [List.getElem?_set_ne]
    · exact counted.held waiting queued
    · intro same
      simp [same] at other
  · exact counted.distinct.sublist (List.filter_sublist.map _)
  · change _ = (state.refreshes.set call _).countP _ + 1
    rw [countP_succeeded_set found unsuccessful]
    exact counted.counted

theorem Counted.step {state after : State} {action : Action}
    (counted : state.Counted) (ordered : state.Ordered action)
    (stepped : state.step action = some after) : after.Counted := by
  cases action with
  | refresh =>
      cases stepped
      constructor
      · intro waiting listed
        have held := counted.held waiting listed
        obtain ⟨inside, -⟩ := List.getElem?_eq_some_iff.mp held
        change (state.refreshes ++ [_])[waiting.call]? = _
        rw [List.getElem?_append_left inside]
        exact held
      · exact counted.distinct
      · change _ = (state.refreshes ++ [_]).countP _ + 1
        rw [List.countP_append]
        exact counted.counted
  | answer call answer =>
      simp only [State.step] at stepped
      split at stepped
      · next found =>
          cases stepped
          exact counted.moved found rfl rfl rfl rfl nofun rfl
      · cases stepped
  | arrive call => exact counted.arrive stepped
  | publish => exact counted.publish ordered stepped
  | report call =>
      simp only [State.step, report] at stepped
      split at stepped
      · next consecutive error found =>
          cases stepped
          exact counted.moved found rfl rfl rfl rfl nofun rfl
      · cases stepped
  | cancel call => exact counted.cancel stepped

end State

open State

/-! ## Overlapping refreshes -/

/-- In every run in which the tables arrive in the order in which the gateway
has answered them, and the generations do not run out: the watch channel has
the current snapshot, whose routing is built from its own table; there is one
generation for each successful `refresh`; the snapshot is replaced only by a
`refresh` that succeeds, by one of the next generation, and never by a table
that the gateway answered earlier. -/
theorem refresh_publishes_in_order {resources : ResourceTable}
    {actions : List Action} {state : State}
    (ordered : Meets step Ordered (new resources) actions)
    (ran : run step (new resources) actions = some state) :
    state.updates = state.current ∧
      state.current =
        .new state.current.generation state.current.resources ∧
      state.current.generation = state.successes + 1 ∧
      ∀ action after, state.Ordered action →
        state.step action = some after →
        state.published ≤ after.published ∧
          ((after.current = state.current ∧
              after.published = state.published ∧
              after.successes = state.successes) ∨
            (after.current.generation = state.current.generation + 1 ∧
              after.successes = state.successes + 1 ∧
              ∃ call : CallId, after.refreshes[call]? =
                some (.returned (.ok after.current)))) := by
  have inOrder : state.InOrder :=
    invariant_of_meets InOrder (inOrder_new resources)
      (fun _ _ _ holds met stepped => holds.step met stepped) ordered ran
  have counted : state.Counted :=
    invariant_of_meets Counted (counted_new resources)
      (fun _ _ _ holds met stepped => holds.step met stepped) ordered ran
  refine ⟨inOrder.watched, inOrder.complete, counted.counted, ?_⟩
  intro action after met stepped
  have still := counted.step met stepped
  rcases step_cases stepped with
    ⟨rfl, waiting, queue, queued, -, number, published, -, returned⟩ |
      ⟨current, -, number, -⟩
  · have listed : waiting ∈ state.queue := by
      rw [queued]
      exact List.mem_cons_self
    have raised :
        after.current.generation = state.current.generation + 1 := by
      rw [published]
      exact Nat.min_eq_left met
    obtain ⟨inside, -⟩ :=
      List.getElem?_eq_some_iff.mp (counted.held waiting listed)
    refine ⟨?_, .inr ⟨raised, ?_, waiting.call, ?_⟩⟩
    · rw [number]
      exact inOrder.later waiting listed
    · have before := counted.counted
      have later := still.counted
      omega
    · rw [returned]
      exact List.getElem?_set_self inside
  · refine ⟨Nat.le_of_eq number.symm, .inl ⟨current, number, ?_⟩⟩
    have before := counted.counted
    have later := still.counted
    rw [current] at later
    omega

/-- A table without any resource. -/
private def emptyTable : ResourceTable where
  ipResources := []
  domainResources := []
  nodeGroups := []

/-- A table with one node group. -/
private def groupTable : ResourceTable :=
  { emptyTable with nodeGroups := [⟨['g'], []⟩] }

/-- Two refreshes overlap; both tables have arrived before the first one is
published. -/
private def overlapping : List Action :=
  [.refresh, .refresh, .answer 0 (.ok emptyTable), .answer 1 (.ok groupTable),
    .arrive 0, .arrive 1, .publish, .publish]

theorem overlapping_refreshes_publish_in_order :
    ∃ state,
      run step (new emptyTable) overlapping = some state ∧
        state.current.generation = 3 ∧
        state.current.resources.nodeGroups = [⟨['g'], []⟩] ∧
        state.updates = state.current ∧
        state.current.generation = state.successes + 1 := by
  have ordered : Meets step Ordered (new emptyTable) overlapping := by
    refine meets_cons trivial rfl (meets_cons trivial rfl
      (meets_cons trivial rfl (meets_cons trivial rfl
        (meets_cons ?_ rfl (meets_cons ?_ rfl
          (meets_cons ?_ rfl (meets_cons ?_ rfl trivial)))))))
    · intro number resources answered
      exact ⟨Nat.zero_le number, nofun⟩
    · intro number resources answered
      cases answered
      refine ⟨Nat.zero_le 2, ?_⟩
      intro waiting listed
      cases List.mem_singleton.mp listed
      decide
    · exact (show 1 < maxGeneration by decide)
    · exact (show 2 < maxGeneration by decide)
  obtain ⟨watched, -, counted, -⟩ := refresh_publishes_in_order ordered rfl
  exact ⟨_, rfl, rfl, rfl, watched, counted⟩

/-- The gateway answers the first `refresh` before the second one, and the
second answer arrives first: the older table replaces the newer one. -/
theorem older_table_replaces_newer :
    ∃ before after,
      run step (new emptyTable)
          [.refresh, .refresh, .answer 0 (.ok emptyTable),
            .answer 1 (.ok groupTable),
            .arrive 1, .publish, .arrive 0] =
        some before ∧
      before.step .publish = some after ∧
      before.published = 2 ∧ after.published = 1 ∧
      before.current.resources.nodeGroups = [⟨['g'], []⟩] ∧
      after.current.resources.nodeGroups = [] :=
  ⟨_, _, rfl, rfl, rfl, rfl, rfl, rfl⟩

end HermesAtrust.Auth.ResourceCache
