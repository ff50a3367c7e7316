import HermesAtrust.Net.FakeIpPoolRuns
import HermesAtrust.Net.OriginalHost

/-!
# Concurrent users of the Fake IP pool

Calls of `dns_record` and `original_host` as tasks that run between refreshes
and session replacements.  A task reads the session epoch, takes hold of the
active session, reads its snapshot and only then calls the pool, with the
epoch and the generation it has read.  The pool prunes whatever is not of the
caller's epoch and generation, so a task that was slow takes away what newer
tasks have been given.

After its pool call `original_host` only consults the routing; what it makes
of the names is in `originalHost`.
-/

namespace HermesAtrust.Net

open HermesAtrust.Auth.ResourceCache (ResourceSnapshot ResourceTable)
open HermesAtrust.Auth HermesAtrust.Client HermesAtrust.Collections
open HermesAtrust.Concurrency HermesAtrust.L3 HermesAtrust.Search
open HermesAtrust.Text

/-- The time one pool call takes, with what it reads meanwhile. -/
structure CallSpan where
  start : Instant
  finish : Instant
  surroundings : Surroundings
  checked :
    ∀ binding, start ≤ surroundings.check binding ∧
      surroundings.check binding ≤ finish
  stamped : start ≤ surroundings.stamp ∧ surroundings.stamp ≤ finish

inductive DialRequest where
  | dnsRecord (host : Str) (maxTtl : Nat)
  | originalHost (host : Str)

/-- What a task wants of the pool: a record for a name in normal form, or the
name behind an address. -/
inductive Errand where
  | record (host : Str) (maxTtl : Nat)
  | restore (ip : Ipv4Addr)

/-- A real address that is to be remembered for a name. -/
structure RealRecord where
  host : Str
  epoch : Nat
  generation : Nat
  ip : Ipv4Addr
  ttl : Nat

inductive DialResult where
  | record (ip : Ipv4Addr) (ttl : Nat)
  | host (name : Str)
  | names (names : List Str)
  | failed (error : IoError)
  | panicked

inductive DialPhase where
  | checking (request : DialRequest)
  | readingEpoch (errand : Errand)
  | takingSession (errand : Errand) (epoch : Nat)
  | readingSnapshot (errand : Errand) (epoch : Nat) (session : SessionNumber)
  | assigning (host : Str) (maxTtl epoch generation : Nat)
  | restoring (ip : Ipv4Addr) (epoch generation : Nat)
  | resolving (host : Str) (maxTtl epoch : Nat) (snapshot : ResourceSnapshot)
  | recheckingEpoch (record : RealRecord)
  | retakingSession (record : RealRecord)
  | recheckingGeneration (record : RealRecord) (session : SessionNumber)
  | remembering (record : RealRecord)
  | finished (result : DialResult)

/-- `ErrorKind::Interrupted.into()`. -/
def interruptedError : IoError :=
  ⟨.interrupted, "operation interrupted"⟩

/-- `ErrorKind::AddrNotAvailable.into()`. -/
def addrNotAvailableError : IoError :=
  ⟨.addrNotAvailable, "address not available"⟩

/-- An error of the pool as an I/O error. -/
def PoolError.toIoError : PoolError → IoError
  | .addrNotAvailable message => ⟨.addrNotAvailable, message⟩

namespace DialPhase

/-- Once the session was checked. -/
def accept : DialRequest → DialPhase
  | .dnsRecord host maxTtl =>
      match normalize host with
      | .error error => .finished (.failed error)
      | .ok host => .readingEpoch (.record host maxTtl)
  | .originalHost host =>
      match parseIpv4 host with
      | some ip => .readingEpoch (.restore ip)
      | none =>
          match normalize host with
          | .error error => .finished (.failed error)
          | .ok host => .finished (.host host)

/-- Once the snapshot was read. -/
def dispatch (epoch : Nat) (snapshot : ResourceSnapshot) : Errand → DialPhase
  | .record host maxTtl =>
      match snapshot.routing.domainResourcesForHost host with
      | resource :: _ =>
          if resource.addrPretend then
            .assigning host maxTtl epoch snapshot.generation
          else
            .resolving host maxTtl epoch snapshot
      | [] => .resolving host maxTtl epoch snapshot
  | .restore ip => .restoring ip epoch snapshot.generation

/-- The steps of a task that only read the client. -/
def proceed (client : AtrustClient) : DialPhase → Option DialPhase
  | .checking request =>
      match client.checkSession with
      | .error error => some (.finished (.failed (ioError error)))
      | .ok () => some (accept request)
  | .readingEpoch errand =>
      some (.takingSession errand client.sessionEpoch)
  | .takingSession errand epoch =>
      some (.readingSnapshot errand epoch client.active)
  | .readingSnapshot errand epoch session =>
      some (dispatch epoch (client.sessions session).snapshot errand)
  | .recheckingEpoch record =>
      if client.sessionEpoch = record.epoch then
        some (.retakingSession record)
      else
        some (.finished (.failed interruptedError))
  | .retakingSession record =>
      some (.recheckingGeneration record client.active)
  | .recheckingGeneration record session =>
      if (client.sessions session).snapshot.generation = record.generation then
        some (.remembering record)
      else
        some (.finished (.failed interruptedError))
  | _ => none

/-- The answer of the resolver arrives. -/
def resolve (answer : Except IoError (List Ipv4Addr × Nat)) :
    DialPhase → Option DialPhase
  | .resolving host maxTtl epoch snapshot =>
      match answer with
      | .error error => some (.finished (.failed error))
      | .ok ([], _) => some (.finished (.failed addrNotAvailableError))
      | .ok (ip :: _, ttl) =>
          if snapshot.routing.domainResourcesForHost host = [] then
            some (.finished (.record ip (min ttl maxTtl)))
          else
            some
              (.recheckingEpoch
                ⟨host, epoch, snapshot.generation, ip, min ttl maxTtl⟩)
  | _ => none

/-- The pool call a task is about to make. -/
def poolCall : DialPhase → Option PoolCall
  | .assigning host maxTtl epoch generation =>
      some (.assign host epoch generation maxTtl)
  | .restoring ip epoch generation =>
      if FakeIpPool.isFake ip then some (.lookup ip epoch generation)
      else some (.realHosts ip epoch generation)
  | .remembering record =>
      some
        (.rememberReal record.ip record.host record.epoch record.generation
          record.ttl)
  | _ => none

/-- The outcome of its pool call, as a task reports it. -/
def conclude (phase : DialPhase) : PoolOutcome → DialResult
  | .assigned (.returned (.ok ip)) =>
      match phase with
      | .assigning _ maxTtl _ _ => .record ip maxTtl
      | _ => .panicked
  | .assigned (.returned (.error error)) => .failed error.toIoError
  | .assigned .panicked => .panicked
  | .lookedUp (some name) => .host name
  | .lookedUp none => .failed staleFakeIp
  | .remembered (.returned (.ok ())) =>
      match phase with
      | .remembering record => .record record.ip record.ttl
      | _ => .panicked
  | .remembered (.returned (.error error)) => .failed error.toIoError
  | .remembered .panicked => .panicked
  | .shared names => .names names

end DialPhase

/-- The client, the pool and the tasks.  `standing` keeps record of the Fake
IPs that `dns_record` returned for the epoch and the generation that were
current then and still are. -/
structure DialerState where
  client : AtrustClient
  pool : FakeIpPool
  now : Instant
  tasks : List DialPhase
  standing : HashTable Ipv4Addr Binding

inductive DialerAction where
  | call (request : DialRequest)
  | proceed (task : Nat)
  | resolve (task : Nat) (answer : Except IoError (List Ipv4Addr × Nat))
  | usePool (task : Nat) (span : CallSpan)
  | refresh (session : SessionNumber) (resources : ResourceTable)
  | invalidate (session : SessionNumber)
  | shutdown
  | replaceSession (resources : ResourceTable)

namespace DialerState

/-- A dialer whose pool is new. -/
def start (resources : ResourceTable) (capacity : Nat) : DialerState where
  client := .start resources
  pool := .new capacity
  now := 0
  tasks := []
  standing := ∅

/-- The client changes; what was returned before stands only if the epoch and
the generation stay. -/
def withClient (state : DialerState) (client : AtrustClient) : DialerState :=
  { state with
    client := client
    standing :=
      if client.current = state.client.current then state.standing else ∅ }

section Steps

variable (lastInstant : Instant)

/-- One pool call of a task. -/
def usePool (state : DialerState) (task : Nat) (phase : DialPhase)
    (call : PoolCall) (span : CallSpan) : DialerState :=
  let (after, outcome) :=
    state.pool.perform lastInstant span.surroundings call
  { state with
    pool := after
    now := span.finish
    tasks := state.tasks.set task (.finished (phase.conclude outcome))
    standing :=
      match PoolEvent.returned ⟨call, span.surroundings, outcome⟩ with
      | some (ip, binding) =>
          if call.carried = state.client.current then
            state.standing.insert ip binding
          else
            state.standing
      | none => state.standing }

/-- One step of the dialer. -/
def step (state : DialerState) : DialerAction → Option DialerState
  | .call request =>
      some { state with tasks := state.tasks ++ [.checking request] }
  | .proceed task => do
      let phase ← state.tasks[task]?
      let next ← phase.proceed state.client
      return { state with tasks := state.tasks.set task next }
  | .resolve task answer => do
      let phase ← state.tasks[task]?
      let next ← phase.resolve answer
      return { state with tasks := state.tasks.set task next }
  | .usePool task span => do
      let phase ← state.tasks[task]?
      let call ← phase.poolCall
      if state.now ≤ span.start then
        return state.usePool lastInstant task phase call span
      else
        none
  | .refresh session resources =>
      some (state.withClient (state.client.refresh session resources))
  | .invalidate session =>
      some (state.withClient (state.client.invalidate session))
  | .shutdown => some (state.withClient state.client.shutdown)
  | .replaceSession resources =>
      some (state.withClient (state.client.replaceSession resources))

end Steps

/-! ## What one step does -/

section OneStep

variable {lastInstant : Instant} {state after : DialerState}
  {action : DialerAction}

/-- A step moves a task, changes the client or calls the pool. -/
theorem step_cases (stepped : state.step lastInstant action = some after) :
    (∃ tasks, after = { state with tasks := tasks }) ∨
      (∃ client, after = state.withClient client) ∨
      ∃ task span phase call, action = .usePool task span ∧
        state.tasks[task]? = some phase ∧ phase.poolCall = some call ∧
        state.now ≤ span.start ∧
        after = state.usePool lastInstant task phase call span := by
  cases action with
  | call request => exact .inl ⟨_, (Option.some.inj stepped).symm⟩
  | proceed task =>
      simp only [step, Option.bind_eq_bind, Option.bind_eq_some_iff,
        Option.pure_def, Option.some.injEq] at stepped
      obtain ⟨phase, -, next, -, rfl⟩ := stepped
      exact .inl ⟨_, rfl⟩
  | resolve task answer =>
      simp only [step, Option.bind_eq_bind, Option.bind_eq_some_iff,
        Option.pure_def, Option.some.injEq] at stepped
      obtain ⟨phase, -, next, -, rfl⟩ := stepped
      exact .inl ⟨_, rfl⟩
  | usePool task span =>
      simp only [step, Option.bind_eq_bind, Option.bind_eq_some_iff,
        Option.pure_def, Option.ite_none_right_eq_some,
        Option.some.injEq] at stepped
      obtain ⟨phase, listed, call, isCall, later, rfl⟩ := stepped
      exact .inr (.inr ⟨task, span, phase, call, rfl, listed, isCall, later,
        rfl⟩)
  | refresh session resources =>
      exact .inr (.inl ⟨_, (Option.some.inj stepped).symm⟩)
  | invalidate session =>
      exact .inr (.inl ⟨_, (Option.some.inj stepped).symm⟩)
  | shutdown => exact .inr (.inl ⟨_, (Option.some.inj stepped).symm⟩)
  | replaceSession resources =>
      exact .inr (.inl ⟨_, (Option.some.inj stepped).symm⟩)

end OneStep

/-- A pool call of a task carries the current epoch and generation, unless no
Fake IP of the current ones outlives the call. -/
def Timely (state : DialerState) : DialerAction → Prop
  | .usePool task span =>
      ∀ phase call, state.tasks[task]? = some phase →
        phase.poolCall = some call →
        call.carried = state.client.current ∨
          ∀ ip binding, state.pool.fake.lookup ip = some binding →
            (binding.epoch, binding.generation) = state.client.current →
            binding.expiry ≤ span.finish
  | _ => True

/-- The pool holds every Fake IP that stands until it expires. -/
def Kept (state : DialerState) : Prop :=
  ∀ ip binding, state.standing.lookup ip = some binding →
    (binding.epoch, binding.generation) = state.client.current ∧
      (state.now < binding.expiry →
        state.pool.fake.lookup ip = some binding)

theorem Kept.withClient {state : DialerState} (kept : state.Kept)
    (client : AtrustClient) : (state.withClient client).Kept := by
  intro ip binding stands
  by_cases same : client.current = state.client.current
  · simp only [DialerState.withClient, if_pos same] at stands ⊢
    rw [same]
    exact kept ip binding stands
  · simp only [DialerState.withClient, if_neg same] at stands
    simp at stands

section PoolCalls

variable {lastInstant : Instant} {state : DialerState} {task : Nat}
  {phase : DialPhase} {call : PoolCall} {span : CallSpan}

/-- A binding that stands survives a prune by the current epoch and
generation. -/
theorem Kept.lookup_prune (kept : state.Kept) (later : state.now ≤ span.start)
    (current : call.carried = state.client.current) {ip : Ipv4Addr}
    {binding : Binding} (stands : state.standing.lookup ip = some binding)
    (outlives : span.finish < binding.expiry) :
    (state.pool.prune call.carried.1 call.carried.2
      span.surroundings).fake.lookup ip = some binding := by
  obtain ⟨ofCurrent, held⟩ := kept ip binding stands
  rw [← current] at ofCurrent
  have fresh : span.surroundings.check binding < binding.expiry :=
    Nat.lt_of_le_of_lt (span.checked binding).2 outlives
  have elapsed : state.now ≤ span.surroundings.check binding :=
    Nat.le_trans later (span.checked binding).1
  apply FakeIpPool.lookup_prune_eq_some.mpr
  exact ⟨held (Nat.lt_of_le_of_lt elapsed fresh), congrArg Prod.fst ofCurrent,
    congrArg Prod.snd ofCurrent, fresh⟩

theorem Kept.usePool (kept : state.Kept) (later : state.now ≤ span.start)
    (timely :
      call.carried = state.client.current ∨
        ∀ ip binding, state.pool.fake.lookup ip = some binding →
          (binding.epoch, binding.generation) = state.client.current →
          binding.expiry ≤ span.finish) :
    (state.usePool lastInstant task phase call span).Kept := by
  have elapsed : state.now ≤ span.finish :=
    Nat.le_trans later (Nat.le_trans span.stamped.1 span.stamped.2)
  unfold DialerState.usePool
  cases performed : state.pool.perform lastInstant span.surroundings call with
  | mk pool outcome =>
      by_cases current : call.carried = state.client.current
      · cases handed :
            PoolEvent.returned ⟨call, span.surroundings, outcome⟩ with
        | none =>
            intro ip binding stands
            simp only [handed] at stands
            refine ⟨(kept ip binding stands).1, ?_⟩
            intro outlives
            change pool.fake.lookup ip = some binding
            rw [FakeIpPool.perform_fake performed handed]
            exact kept.lookup_prune later current stands outlives
        | some written =>
            rcases FakeIpPool.perform_cases performed with assigned | quiet
            · obtain ⟨host, epoch, generation, ttl, assignedIp, rfl, rfl,
                handsOut⟩ := assigned
              obtain ⟨rfl⟩ := Option.some.inj handed
              intro ip binding stands
              simp only [handed, if_pos current,
                HashTable.lookup_insert_eq_if] at stands
              change
                (binding.epoch, binding.generation) = state.client.current ∧
                  (span.finish < binding.expiry →
                    pool.fake.lookup ip = some binding)
              rw [handsOut.fake, HashTable.lookup_insert_eq_if]
              by_cases same : ip = assignedIp
              · rw [if_pos same] at stands ⊢
                cases stands
                exact ⟨current, fun _ => rfl⟩
              · rw [if_neg same] at stands ⊢
                exact ⟨(kept ip binding stands).1,
                  fun outlives =>
                    kept.lookup_prune later current stands outlives⟩
            · rw [quiet.1] at handed
              cases handed
      · intro ip binding stands
        have unchanged : state.standing.lookup ip = some binding := by
          simp only [if_neg current] at stands
          split at stands
          · exact stands
          · exact stands
        obtain ⟨ofCurrent, held⟩ := kept ip binding unchanged
        refine ⟨ofCurrent, ?_⟩
        intro outlives
        change span.finish < binding.expiry at outlives
        have expired :=
          timely.resolve_left current ip binding
            (held (Nat.lt_of_le_of_lt elapsed outlives)) ofCurrent
        exact absurd outlives (Nat.not_lt_of_le expired)

end PoolCalls

theorem Kept.step {lastInstant : Instant} {state after : DialerState}
    {action : DialerAction} (kept : state.Kept)
    (timely : state.Timely action)
    (stepped : state.step lastInstant action = some after) : after.Kept := by
  rcases step_cases stepped with moved | changed | called
  · obtain ⟨tasks, rfl⟩ := moved
    exact kept
  · obtain ⟨client, rfl⟩ := changed
    exact kept.withClient client
  · obtain ⟨task, span, phase, call, rfl, listed, isCall, later, rfl⟩ := called
    exact kept.usePool later (timely phase call listed isCall)

end DialerState

/-- In every interleaving whose pool calls are timely, a Fake IP that
`dns_record` returned for the epoch and the generation that were current then
and still are resolves to its host until it expires. -/
theorem fake_ip_keeps_resolving {lastInstant : Instant}
    {resources : ResourceTable} {capacity : Nat}
    {actions : List DialerAction} {final : DialerState}
    (timely :
      Meets (DialerState.step lastInstant) DialerState.Timely
        (.start resources capacity) actions)
    (ran :
      run (DialerState.step lastInstant) (.start resources capacity) actions =
        some final) :
    ∀ ip binding, final.standing.lookup ip = some binding →
      ∀ surroundings, final.now ≤ surroundings.check binding →
        surroundings.check binding < binding.expiry →
        (final.pool.lookup ip final.client.sessionEpoch
          final.client.resources.generation surroundings).2 =
            some binding.host := by
  have kept : final.Kept := by
    refine invariant_of_meets DialerState.Kept ?_ ?_ timely ran
    · intro ip binding stands
      simp [DialerState.start] at stands
    · intro state action after kept timely stepped
      exact kept.step timely stepped
  intro ip binding stands surroundings later fresh
  obtain ⟨ofCurrent, held⟩ := kept ip binding stands
  rw [FakeIpPool.lookup]
  have survives :
      (final.pool.prune final.client.sessionEpoch
        final.client.resources.generation surroundings).fake.lookup ip =
          some binding := by
    apply FakeIpPool.lookup_prune_eq_some.mpr
    exact ⟨held (Nat.lt_of_le_of_lt later fresh), congrArg Prod.fst ofCurrent,
      congrArg Prod.snd ofCurrent, fresh⟩
  rw [survives, Option.map_some]

/-! ## A slow task -/

/-- A call within one instant. -/
def CallSpan.instant (time : Instant) : CallSpan where
  start := time
  finish := time
  surroundings := ⟨fun _ => time, time, .stored⟩
  checked := fun _ => ⟨Nat.le_refl time, Nat.le_refl time⟩
  stamped := ⟨Nat.le_refl time, Nat.le_refl time⟩

/-- A table that has a Fake IP for the name `p`. -/
def pretendTable : ResourceTable :=
  ⟨⟨[], [{ anyFlowTo ['p'] ['a'] with addrPretend := true }]⟩, []⟩

theorem dispatch_pretendTable (maxTtl epoch generation : Nat) :
    DialPhase.dispatch epoch (.new generation pretendTable)
        (.record ['p'] maxTtl) =
      .assigning ['p'] maxTtl epoch generation := by
  have indexed :
      indexDomains pretendTable.domainResources =
        [⟨⟨['p'], false⟩,
          { anyFlowTo ['p'] ['a'] with addrPretend := true }⟩] := by
    decide
  have policies :
      (ResourceSnapshot.new generation pretendTable).routing.domainResourcesForHost
          ['p'] =
        [{ anyFlowTo ['p'] ['a'] with addrPretend := true }] := by
    simp only [ResourceIndex.domainResourcesForHost, ResourceSnapshot.new,
      ResourceIndex.build, indexed, sortByKey_singleton]
    decide
  simp only [DialPhase.dispatch, policies]
  rfl

/-- The first Fake IP. -/
def firstFakeIp : Ipv4Addr := ⟨198, 18, 0, 1⟩

/-- A task is about to restore an address; then the resources are refreshed
and a task for the name `p` reads the new generation. -/
def slowStart : List DialerAction :=
  [.call (.originalHost "198.18.0.9".toList), .proceed 0, .proceed 0,
    .proceed 0, .proceed 0, .refresh 0 pretendTable, .call (.dnsRecord ['p'] 60),
    .proceed 1, .proceed 1, .proceed 1]

def slowMiddle (phase : DialPhase) : DialerState where
  client := (AtrustClient.start pretendTable).refresh 0 pretendTable
  pool := .new 8192
  now := 0
  tasks := [.restoring ⟨198, 18, 0, 9⟩ 1 1, phase]
  standing := ∅

theorem run_slowStart :
    run (DialerState.step 1000) (.start pretendTable 8192) slowStart =
      some (slowMiddle (.readingSnapshot (.record ['p'] 60) 1 0)) := by
  rfl

theorem step_slowMiddle :
    (slowMiddle (.readingSnapshot (.record ['p'] 60) 1 0)).step 1000
        (.proceed 1) =
      some (slowMiddle (.assigning ['p'] 60 1 2)) := by
  change
    some
        (slowMiddle
          (DialPhase.dispatch 1 (.new 2 pretendTable) (.record ['p'] 60))) =
      _
  rw [dispatch_pretendTable]

theorem run_slowReady :
    run (DialerState.step 1000) (.start pretendTable 8192)
        (slowStart ++ [.proceed 1]) =
      some (slowMiddle (.assigning ['p'] 60 1 2)) :=
  run_snoc run_slowStart step_slowMiddle

/-- The task for the name gets its Fake IP and then the slow task restores its
address: the new Fake IP is gone. -/
theorem slow_task_takes_fake_ip_away :
    ∃ final,
      run (DialerState.step 1000) (.start pretendTable 8192)
          (slowStart ++ [.proceed 1] ++
            [.usePool 1 (.instant 0), .usePool 0 (.instant 1)]) =
        some final ∧
        final.client.current = (1, 2) ∧ final.now = 1 ∧
        final.tasks[1]? = some (.finished (.record firstFakeIp 60)) ∧
        final.standing.lookup firstFakeIp = some ⟨['p'], 1, 2, 60⟩ ∧
        (final.pool.lookup firstFakeIp 1 2
          (CallSpan.instant 1).surroundings).2 = none := by
  rw [run_append, run_slowReady]
  exact ⟨_, rfl, rfl, rfl, rfl, rfl, rfl⟩

theorem fake_ip_keeps_resolving_after_record :
    ∃ final,
      run (DialerState.step 1000) (.start pretendTable 8192)
          (slowStart ++ [.proceed 1] ++ [.usePool 1 (.instant 0)]) =
        some final ∧
        (final.pool.lookup firstFakeIp final.client.sessionEpoch
          final.client.resources.generation
          (CallSpan.instant 59).surroundings).2 = some ['p'] := by
  obtain ⟨final, ran, stands, started⟩ :
      ∃ final,
        run (DialerState.step 1000) (.start pretendTable 8192)
            (slowStart ++ [DialerAction.proceed 1] ++
              [DialerAction.usePool 1 (.instant 0)]) =
          some final ∧
          final.standing.lookup firstFakeIp = some ⟨['p'], 1, 2, 60⟩ ∧
          final.now = 0 := by
    rw [run_append, run_slowReady]
    exact ⟨_, rfl, rfl, rfl⟩
  have timely :
      Meets (DialerState.step 1000) DialerState.Timely (.start pretendTable 8192)
        (slowStart ++ [DialerAction.proceed 1] ++
          [DialerAction.usePool 1 (.instant 0)]) := by
    refine meets_append (meets_of_forall ?_) run_slowReady ⟨?_, ?_⟩
    · intro state action listed
      simp only [slowStart, List.cons_append, List.nil_append, List.mem_cons,
        List.not_mem_nil, or_false] at listed
      rcases listed with rfl | rfl | rfl | rfl | rfl | rfl | rfl | rfl | rfl |
        rfl | rfl <;> trivial
    · intro phase call listed isCall
      cases listed
      cases isCall
      exact .inl rfl
    · intro middle _
      trivial
  refine ⟨final, ran, ?_⟩
  have elapsed :
      final.now ≤
        (CallSpan.instant 59).surroundings.check ⟨['p'], 1, 2, 60⟩ := by
    rw [started]
    exact Nat.zero_le 59
  exact fake_ip_keeps_resolving timely ran firstFakeIp _ stands _ elapsed
    (by decide)

end HermesAtrust.Net
