import HermesAtrust.Client.Replacement
import HermesAtrust.Concurrency.Transitions

/-!
# What holds in every run of a client

The control lock has at most one holder, so that a switch and a shutdown
exclude each other: while a `replace_session` is about to switch, the client
is not closed.  A session that was built but is not active yet belongs to one
call, and is not stopped.  The record of the switches agrees with the epoch
and with the results of the calls.
-/

namespace HermesAtrust.Client.Replacement

open HermesAtrust.Concurrency

namespace State

/-! ## Sessions, the control lock and the closed client -/

/-- What holds for a call in its phase. -/
structure CallSound (state : State) (call : CallId) (phase : Phase) :
    Prop where
  owned :
    ∀ next, phase.owns = some next →
      next < state.nextSession ∧ next ≠ state.active ∧
        state.stop next = false
  holder : phase.holdsControl = true → state.control = some call
  opened : ∀ next, phase = .switching next → state.closed = false
  shut : phase.afterClosing = true → state.closed = true
  stopped : phase.afterStop = true → state.stop state.active = true

structure Sound (state : State) : Prop where
  each :
    ∀ call phase, state.calls call = some phase → state.CallSound call phase
  unique :
    ∀ call other phase otherPhase next, state.calls call = some phase →
      state.calls other = some otherPhase → phase.owns = some next →
      otherPhase.owns = some next → call = other
  known : state.active < state.nextSession
  unbuilt :
    ∀ session, state.nextSession ≤ session → state.stop session = false

theorem sound_start (gateway : GatewayEndpoint) : (start gateway).Sound where
  each := by
    intro call phase found
    cases found
  unique := by
    intro call other phase otherPhase next found
    cases found
  known := Nat.zero_lt_one
  unbuilt := fun _ _ => rfl

theorem update_eq_some {calls : CallId → Option Phase} {call other : CallId}
    {new phase : Phase}
    (found : Function.update calls call (some new) other = some phase) :
    (other = call ∧ phase = new) ∨
      (other ≠ call ∧ calls other = some phase) := by
  by_cases same : other = call
  · rw [same, Function.update_self] at found
    exact .inl ⟨same, (Option.some.inj found).symm⟩
  · rw [Function.update_of_ne same] at found
    exact .inr ⟨same, found⟩

theorem Begins.idle {phase : Phase} (initial : Begins phase) :
    phase.idle = true := by
  cases initial <;> rfl

theorem Plain.idle {state : State} {old phase : Phase}
    (move : state.Plain old phase) : old.idle = true ∧ phase.idle = true := by
  cases move with
  | enters gateway =>
      unfold enter
      split
      · exact ⟨rfl, rfl⟩
      · split
        · exact ⟨rfl, rfl⟩
        · exact ⟨rfl, rfl⟩
  | checks session =>
      unfold checkSession
      split
      · exact ⟨rfl, rfl⟩
      · split
        · exact ⟨rfl, rfl⟩
        · exact ⟨rfl, rfl⟩
  | polls session =>
      unfold pollStop
      split
      · exact ⟨rfl, rfl⟩
      · exact ⟨rfl, rfl⟩
  | _ => exact ⟨rfl, rfl⟩

/-- What does not hold of a call that is idle. -/
theorem idle_facts {phase : Phase} (idle : phase.idle = true) :
    phase.owns = none ∧ phase.holdsControl = false ∧
      phase.afterClosing = false ∧ phase.afterStop = false ∧
      phase.switched = false ∧ ∀ next, phase ≠ .switching next := by
  cases phase with
  | replaced result =>
      cases result with
      | error error => exact ⟨rfl, rfl, rfl, rfl, rfl, nofun⟩
      | ok value => cases idle
  | built next => cases idle
  | discarding next => cases idle
  | switching next => cases idle
  | retiring previous => cases idle
  | closed => cases idle
  | stopping session => cases idle
  | shutDown => cases idle
  | cancelled => cases idle
  | _ => exact ⟨rfl, rfl, rfl, rfl, rfl, nofun⟩

/-- A call moves to another phase. -/
theorem Sound.moved {state after : State} (sound : state.Sound)
    {call : CallId} {phase : Phase}
    (calls : after.calls = Function.update state.calls call (some phase))
    (known : after.active < after.nextSession)
    (unbuilt :
      ∀ session, after.nextSession ≤ session → after.stop session = false)
    (own : after.CallSound call phase)
    (others :
      ∀ other otherPhase, other ≠ call →
        state.calls other = some otherPhase → after.CallSound other otherPhase)
    (fresh :
      ∀ other otherPhase next, other ≠ call →
        state.calls other = some otherPhase → phase.owns = some next →
        otherPhase.owns ≠ some next) :
    after.Sound := by
  constructor
  · intro other otherPhase found
    rw [calls] at found
    rcases update_eq_some found with ⟨rfl, rfl⟩ | ⟨different, kept⟩
    · exact own
    · exact others other otherPhase different kept
  · intro first second firstPhase secondPhase next firstFound secondFound
      firstOwns secondOwns
    rw [calls] at firstFound secondFound
    rcases update_eq_some firstFound with ⟨rfl, rfl⟩ | ⟨notFirst, firstKept⟩
    · rcases update_eq_some secondFound with ⟨rfl, -⟩ | ⟨other, secondKept⟩
      · rfl
      · exact absurd secondOwns
          (fresh second secondPhase next other secondKept firstOwns)
    · rcases update_eq_some secondFound with ⟨rfl, rfl⟩ | ⟨-, secondKept⟩
      · exact absurd firstOwns
          (fresh first firstPhase next notFirst firstKept secondOwns)
      · exact sound.unique first second firstPhase secondPhase next firstKept
          secondKept firstOwns secondOwns
  · exact known
  · exact unbuilt

/-- What a call may rely on is kept when nothing about the sessions changes. -/
theorem CallSound.kept {state after : State} {call : CallId} {phase : Phase}
    (sound : state.CallSound call phase)
    (active : after.active = state.active)
    (nextSession : state.nextSession ≤ after.nextSession)
    (stop : after.stop = state.stop) (closed : after.closed = state.closed)
    (control : state.control = some call → after.control = some call) :
    after.CallSound call phase := by
  constructor
  · intro next owns
    obtain ⟨bound, rest⟩ := sound.owned next owns
    rw [active, stop]
    exact ⟨Nat.lt_of_lt_of_le bound nextSession, rest⟩
  · intro holds
    exact control (sound.holder holds)
  · rw [closed]
    exact sound.opened
  · rw [closed]
    exact sound.shut
  · rw [stop, active]
    exact sound.stopped

/-- A session that is stopped twice stays stopped, and so do the others. -/
theorem update_stop {stop : SessionNumber → Bool} {session : SessionNumber}
    (other : SessionNumber) (stopped : stop session = true) :
    Function.update stop other true session = true := by
  by_cases same : session = other
  · rw [same, Function.update_self]
  · rw [Function.update_of_ne same, stopped]

/-- What a call may rely on is kept when a session is stopped that is not its
own. -/
theorem CallSound.sendStop {state after : State} {call : CallId}
    {phase : Phase} (sound : state.CallSound call phase)
    {session : SessionNumber} (foreign : phase.owns ≠ some session)
    (stop : after.stop = Function.update state.stop session true)
    (active : after.active = state.active)
    (nextSession : after.nextSession = state.nextSession)
    (closed : after.closed = state.closed)
    (control : state.control = some call → after.control = some call) :
    after.CallSound call phase := by
  constructor
  · intro next owns
    obtain ⟨bound, inactive, running⟩ := sound.owned next owns
    rw [active, nextSession, stop]
    refine ⟨bound, inactive, ?_⟩
    rw [Function.update_of_ne]
    · exact running
    · intro same
      rw [same] at owns
      exact foreign owns
  · intro holds
    exact control (sound.holder holds)
  · rw [closed]
    exact sound.opened
  · rw [closed]
    exact sound.shut
  · intro stopping
    rw [stop, active]
    exact update_stop session (sound.stopped stopping)

theorem Sound.unbuilt_update {state : State} (sound : state.Sound)
    {session : SessionNumber} (bound : session < state.nextSession) :
    ∀ other, state.nextSession ≤ other →
      Function.update state.stop session true other = false := by
  intro other unbuilt
  rw [Function.update_of_ne]
  · exact sound.unbuilt other unbuilt
  · exact Nat.ne_of_gt (Nat.lt_of_lt_of_le bound unbuilt)

theorem callSound_of_idle {state : State} {call : CallId} {phase : Phase}
    (idle : phase.idle = true) : state.CallSound call phase := by
  obtain ⟨owns, holds, closing, stopping, -, different⟩ := idle_facts idle
  constructor
  · intro next own
    rw [owns] at own
    cases own
  · intro locked
    rw [holds] at locked
    cases locked
  · intro next same
    exact absurd same (different next)
  · intro shut
    rw [closing] at shut
    cases shut
  · intro stopped
    rw [stopping] at stopped
    cases stopped

theorem Sound.setIdle {state : State} (sound : state.Sound) {call : CallId}
    {phase : Phase} (idle : phase.idle = true) :
    (state.setPhase call phase).Sound := by
  refine sound.moved rfl sound.known sound.unbuilt (callSound_of_idle idle)
    ?_ ?_
  · intro other otherPhase _ found
    exact (sound.each other otherPhase found).kept rfl (Nat.le_refl _) rfl rfl
      fun same => same
  · intro other otherPhase next _ _ owns
    rw [(idle_facts idle).1] at owns
    cases owns

/-- A call builds a session. -/
theorem Sound.build {state : State} (sound : state.Sound) (call : CallId) :
    ({ state with nextSession := state.nextSession + 1 }.setPhase call
      (.built state.nextSession)).Sound := by
  apply sound.moved rfl (Nat.lt_succ_of_lt sound.known)
  · intro session bound
    exact sound.unbuilt session (Nat.le_of_succ_le bound)
  · refine ⟨?_, nofun, nofun, nofun, nofun⟩
    intro next owns
    cases owns
    exact ⟨Nat.lt_succ_self _, Nat.ne_of_gt sound.known,
      sound.unbuilt _ (Nat.le_refl _)⟩
  · intro other otherPhase _ found
    exact (sound.each other otherPhase found).kept rfl (Nat.le_succ _) rfl rfl
      fun same => same
  · intro other otherPhase next _ found owns otherOwns
    cases owns
    have bound := ((sound.each other otherPhase found).owned _ otherOwns).1
    exact Nat.lt_irrefl _ bound

/-- The session that the call has built is not one of another call. -/
theorem Sound.notOwned {state : State} (sound : state.Sound) {call : CallId}
    {phase : Phase} {next : SessionNumber}
    (found : state.calls call = some phase) (owns : phase.owns = some next) :
    ∀ other otherPhase, other ≠ call → state.calls other = some otherPhase →
      otherPhase.owns ≠ some next := by
  intro other otherPhase different listed otherOwns
  exact different (sound.unique other call otherPhase phase next listed found
    otherOwns owns)

/-- Without a holder of the control lock no call is in a phase with the
lock. -/
theorem Sound.unlocked {state : State} (sound : state.Sound)
    (free : state.control = none) {call : CallId} {phase : Phase}
    (found : state.calls call = some phase) :
    phase.holdsControl = false := by
  cases holds : phase.holdsControl with
  | false => rfl
  | true =>
      have locked := (sound.each call phase found).holder holds
      rw [free] at locked
      cases locked

/-- `replace_session` finds the client closed when it gets the lock. -/
theorem Sound.discard {state : State} (sound : state.Sound) {call : CallId}
    {next : SessionNumber} (found : state.calls call = some (.built next))
    (free : state.control = none) :
    (({ state with control := some call }.sendStop next).setPhase call
      (.discarding next)).Sound := by
  obtain ⟨bound, -, -⟩ := (sound.each call _ found).owned next rfl
  refine sound.moved rfl sound.known (sound.unbuilt_update bound)
    ⟨nofun, fun _ => rfl, nofun, nofun, nofun⟩ ?_ nofun
  intro other phase different listed
  refine (sound.each other phase listed).sendStop
    (sound.notOwned found rfl other phase different listed) rfl rfl rfl rfl ?_
  intro locked
  rw [free] at locked
  cases locked

/-- `replace_session` gets the lock of a client that is not closed. -/
theorem Sound.lock {state : State} (sound : state.Sound) {call : CallId}
    {next : SessionNumber} (found : state.calls call = some (.built next))
    (free : state.control = none) (opened : state.closed = false) :
    ({ state with control := some call }.setPhase call
      (.switching next)).Sound := by
  refine sound.moved rfl sound.known sound.unbuilt
    ⟨?_, fun _ => rfl, fun _ _ => opened, nofun, nofun⟩ ?_ ?_
  · intro owned owns
    cases owns
    exact (sound.each call _ found).owned next rfl
  · intro other phase different listed
    refine (sound.each other phase listed).kept rfl (Nat.le_refl _) rfl rfl ?_
    intro locked
    rw [free] at locked
    cases locked
  · intro other phase owned different listed owns
    cases owns
    exact sound.notOwned found rfl other phase different listed

/-- The switch from the active session to the new one. -/
theorem Sound.switch {state : State} (sound : state.Sound) {call : CallId}
    {next : SessionNumber}
    (found : state.calls call = some (.switching next)) :
    (state.switch call next).Sound := by
  have own := sound.each call _ found
  obtain ⟨bound, notActive, -⟩ := own.owned next rfl
  have opened := own.opened next rfl
  refine sound.moved rfl bound (sound.unbuilt_update sound.known)
    ⟨nofun, fun _ => own.holder rfl, nofun, nofun, nofun⟩ ?_ nofun
  intro other phase different listed
  have call := sound.each other phase listed
  constructor
  · intro owned owns
    obtain ⟨built, inactive, unstopped⟩ := call.owned owned owns
    refine ⟨built, ?_, (Function.update_of_ne inactive _ _).trans unstopped⟩
    intro same
    change owned = next at same
    rw [same] at owns
    exact sound.notOwned found rfl other phase different listed owns
  · exact call.holder
  · exact call.opened
  · exact call.shut
  · intro stopping
    have closed : state.closed = true := by
      apply call.shut
      cases phase <;> first | rfl | cases stopping
    rw [opened] at closed
    cases closed

/-- A call ends and releases the control lock. -/
theorem Sound.release {state : State} (sound : state.Sound) {call : CallId}
    {old phase : Phase} (found : state.calls call = some old)
    (move : Ends old phase) : (state.release call phase).Sound := by
  have own := sound.each call old found
  have locked : state.control = some call := by
    apply own.holder
    cases move <;> rfl
  refine sound.moved rfl sound.known sound.unbuilt ?_ ?_ ?_
  · cases move with
    | discarded next => exact callSound_of_idle rfl
    | retired previous => exact ⟨nofun, nofun, nofun, nofun, nofun⟩
    | stopped session =>
        exact ⟨nofun, nofun, nofun, fun _ => own.shut rfl,
          fun _ => own.stopped rfl⟩
  · intro other otherPhase different listed
    refine (sound.each other otherPhase listed).kept rfl (Nat.le_refl _) rfl
      rfl ?_
    intro otherLocked
    rw [locked] at otherLocked
    exact absurd (Option.some.inj otherLocked).symm different
  · intro other otherPhase next _ _ owns
    cases move <;> cases owns

/-- `shutdown` gets the control lock. -/
theorem Sound.close {state : State} (sound : state.Sound) {call : CallId}
    (free : state.control = none) :
    ({ state with control := some call, closed := true }.setPhase call
      .closed).Sound := by
  refine sound.moved rfl sound.known sound.unbuilt
    ⟨nofun, fun _ => rfl, nofun, fun _ => rfl, nofun⟩ ?_ nofun
  intro other phase _ listed
  have call := sound.each other phase listed
  have unlocked := sound.unlocked free listed
  constructor
  · exact call.owned
  · intro holds
    rw [unlocked] at holds
    cases holds
  · intro next same
    rw [same] at unlocked
    cases unlocked
  · intro _
    rfl
  · exact call.stopped

/-- `shutdown` stops the active session. -/
theorem Sound.stop {state : State} (sound : state.Sound) {call : CallId}
    (found : state.calls call = some .closed) :
    ((state.sendStop state.active).setPhase call
      (.stopping state.active)).Sound := by
  have own := sound.each call _ found
  refine sound.moved rfl sound.known (sound.unbuilt_update sound.known)
    ⟨nofun, fun _ => own.holder rfl, nofun, fun _ => own.shut rfl,
      fun _ => Function.update_self _ _ _⟩ ?_ nofun
  intro other phase _ listed
  refine (sound.each other phase listed).sendStop ?_ rfl rfl rfl rfl
    fun same => same
  intro owns
  exact ((sound.each other phase listed).owned _ owns).2.1 rfl

theorem dropSession_of_owns {state : State} {phase : Phase}
    {next : SessionNumber} (owns : phase.owns = some next) :
    state.dropSession phase = state.sendStop next := by
  cases phase <;> first | (cases owns; rfl) | cases owns

theorem dropSession_of_none {state : State} {phase : Phase}
    (owns : phase.owns = none) : state.dropSession phase = state := by
  cases phase <;> first | rfl | cases owns

/-- A call is dropped. -/
theorem Sound.cancel {state : State} (sound : state.Sound) {call : CallId}
    {phase : Phase} (found : state.calls call = some phase) :
    ({ state.dropSession phase with
      control := if state.control = some call then none else state.control
    }.setPhase call .cancelled).Sound := by
  have control :
      ∀ other, other ≠ call → state.control = some other →
        (if state.control = some call then none else state.control) =
          some other := by
    intro other different locked
    rw [if_neg]
    · exact locked
    · intro same
      rw [locked] at same
      exact different (Option.some.inj same)
  cases owns : phase.owns with
  | none =>
      rw [dropSession_of_none owns]
      refine sound.moved rfl sound.known sound.unbuilt
        ⟨nofun, nofun, nofun, nofun, nofun⟩ ?_ nofun
      intro other otherPhase different listed
      exact (sound.each other otherPhase listed).kept rfl (Nat.le_refl _) rfl
        rfl (control other different)
  | some next =>
      rw [dropSession_of_owns owns]
      obtain ⟨bound, -, -⟩ := (sound.each call phase found).owned next owns
      refine sound.moved rfl sound.known (sound.unbuilt_update bound)
        ⟨nofun, nofun, nofun, nofun, nofun⟩ ?_ nofun
      intro other otherPhase different listed
      exact (sound.each other otherPhase listed).sendStop
        (sound.notOwned found owns other otherPhase different listed) rfl rfl
        rfl rfl (control other different)

theorem Sound.step {state after : State} {action : Action}
    (sound : state.Sound) (stepped : state.step action = some after) :
    after.Sound := by
  cases moves_of_step stepped with
  | invalidates session =>
      refine ⟨?_, sound.unique, sound.known, sound.unbuilt⟩
      intro call phase found
      exact (sound.each call phase found).kept rfl (Nat.le_refl _) rfl rfl
        fun same => same
  | begins unused initial => exact sound.setIdle initial.idle
  | plain found move => exact sound.setIdle move.idle.2
  | builds found => exact sound.build _
  | discards found free shut => exact sound.discard found free
  | locks found free opened => exact sound.lock found free opened
  | switches found => exact sound.switch found
  | ends found move => exact sound.release found move
  | closes found free => exact sound.close free
  | stops found => exact sound.stop found
  | cancels found => exact sound.cancel found

theorem sound_of_run {gateway : GatewayEndpoint} {actions : List Action}
    {state : State} (ran : run step (start gateway) actions = some state) :
    state.Sound :=
  invariant_of_run Sound (sound_start gateway)
    (fun _ _ _ holds stepped => holds.step stepped) ran

/-- A stop signal is never taken back. -/
theorem step_stop {state after : State} {action : Action}
    (stepped : state.step action = some after) {session : SessionNumber}
    (stopped : state.stop session = true) : after.stop session = true := by
  have sent : ∀ other, (state.sendStop other).stop session = true :=
    fun other => update_stop other stopped
  cases moves_of_step stepped with
  | discards found free shut => exact sent _
  | switches found => exact sent _
  | stops found => exact sent _
  | @cancels call phase found =>
      change (state.dropSession phase).stop session = true
      cases owns : phase.owns with
      | none =>
          rw [dropSession_of_none owns]
          exact stopped
      | some next =>
          rw [dropSession_of_owns owns]
          exact sent next
  | _ => exact stopped

/-! ## The record of the switches -/

/-- How often the call has switched. -/
def switchesOf (state : State) (call : CallId) : Nat :=
  state.switches.countP fun switch => switch.call == call

structure Logged (state : State) : Prop where
  epoch : state.sessionEpoch = (1 + state.switches.length) % 2 ^ 64
  begun : ∀ call, state.calls call = none → state.switchesOf call = 0
  each :
    ∀ call phase, state.calls call = some phase → phase ≠ .cancelled →
      state.switchesOf call = if phase.switched then 1 else 0

theorem logged_start (gateway : GatewayEndpoint) :
    (start gateway).Logged where
  epoch := rfl
  begun := fun _ _ => rfl
  each := by
    intro call phase found
    cases found

theorem Logged.moved {state after : State} (logged : state.Logged)
    {call : CallId} {phase : Phase}
    (calls : after.calls = Function.update state.calls call (some phase))
    (epoch : after.sessionEpoch = state.sessionEpoch)
    (switches : after.switches = state.switches)
    (own :
      phase ≠ .cancelled →
        state.switchesOf call = if phase.switched then 1 else 0) :
    after.Logged := by
  have same : ∀ other, after.switchesOf other = state.switchesOf other := by
    intro other
    rw [switchesOf, switches]
    rfl
  constructor
  · rw [epoch, switches]
    exact logged.epoch
  · intro other unused
    rw [calls] at unused
    rw [same]
    by_cases target : other = call
    · rw [target, Function.update_self] at unused
      cases unused
    · rw [Function.update_of_ne target] at unused
      exact logged.begun other unused
  · intro other otherPhase found uncancelled
    rw [calls] at found
    rw [same]
    rcases update_eq_some found with ⟨rfl, rfl⟩ | ⟨-, kept⟩
    · exact own uncancelled
    · exact logged.each other otherPhase kept uncancelled

/-- A move between two phases that agree on whether the call has switched. -/
theorem Logged.movedFrom {state after : State} (logged : state.Logged)
    {call : CallId} {old phase : Phase}
    (found : state.calls call = some old)
    (calls : after.calls = Function.update state.calls call (some phase))
    (epoch : after.sessionEpoch = state.sessionEpoch)
    (switches : after.switches = state.switches)
    (uncancelled : old ≠ .cancelled)
    (switched : phase.switched = old.switched) : after.Logged := by
  refine logged.moved calls epoch switches fun _ => ?_
  rw [switched]
  exact logged.each call old found uncancelled

theorem Logged.switch {state : State} (logged : state.Logged) {call : CallId}
    {next : SessionNumber}
    (found : state.calls call = some (.switching next)) :
    (state.switch call next).Logged := by
  have counts :
      ∀ other, (state.switch call next).switchesOf other =
        state.switchesOf other + if call == other then 1 else 0 :=
    fun other => List.countP_cons
  have unchanged :
      ∀ other, other ≠ call →
        (state.switch call next).switchesOf other =
          state.switchesOf other := by
    intro other different
    rw [counts, if_neg]
    · rfl
    · intro same
      exact different (beq_iff_eq.mp same).symm
  constructor
  · change (state.sessionEpoch + 1) % 2 ^ 64 =
      (1 + (state.switches.length + 1)) % 2 ^ 64
    rw [logged.epoch]
    omega
  · intro other unused
    change Function.update state.calls call _ other = none at unused
    by_cases target : other = call
    · rw [target, Function.update_self] at unused
      cases unused
    · rw [Function.update_of_ne target] at unused
      rw [unchanged other target]
      exact logged.begun other unused
  · intro other phase listed uncancelled
    rcases update_eq_some listed with ⟨rfl, rfl⟩ | ⟨different, kept⟩
    · rw [counts, logged.each other _ found nofun, beq_self_eq_true]
      rfl
    · rw [unchanged other different]
      exact logged.each other phase kept uncancelled

theorem Logged.step {state after : State} {action : Action}
    (logged : state.Logged) (stepped : state.step action = some after) :
    after.Logged := by
  cases moves_of_step stepped with
  | invalidates session => exact ⟨logged.epoch, logged.begun, logged.each⟩
  | begins unused initial =>
      refine logged.moved rfl rfl rfl fun _ => ?_
      rw [(idle_facts initial.idle).2.2.2.2.1]
      exact logged.begun _ unused
  | plain found move =>
      obtain ⟨before, later⟩ := move.idle
      refine logged.movedFrom found rfl rfl rfl ?_ ?_
      · rintro rfl
        cases before
      · rw [(idle_facts before).2.2.2.2.1, (idle_facts later).2.2.2.2.1]
  | builds found => exact logged.movedFrom found rfl rfl rfl nofun rfl
  | discards found free shut =>
      exact logged.movedFrom found rfl rfl rfl nofun rfl
  | locks found free opened =>
      exact logged.movedFrom found rfl rfl rfl nofun rfl
  | switches found => exact logged.switch found
  | ends found move =>
      cases move with
      | discarded next => exact logged.movedFrom found rfl rfl rfl nofun rfl
      | retired previous => exact logged.movedFrom found rfl rfl rfl nofun rfl
      | stopped session => exact logged.movedFrom found rfl rfl rfl nofun rfl
  | closes found free => exact logged.movedFrom found rfl rfl rfl nofun rfl
  | stops found => exact logged.movedFrom found rfl rfl rfl nofun rfl
  | @cancels call phase found =>
      cases owns : phase.owns with
      | none =>
          rw [dropSession_of_none owns]
          exact logged.moved rfl rfl rfl fun uncancelled =>
            absurd rfl uncancelled
      | some next =>
          rw [dropSession_of_owns owns]
          exact logged.moved rfl rfl rfl fun uncancelled =>
            absurd rfl uncancelled

/-- The active session and the epoch change only in a switch, and besides
only `shutdown` stops the active session. -/
theorem step_switches {state after : State} {action : Action}
    (sound : state.Sound) (stepped : state.step action = some after) :
    (∃ call next, state.calls call = some (.switching next) ∧
        after = state.switch call next) ∨
      (after.switches = state.switches ∧ after.active = state.active ∧
        after.sessionEpoch = state.sessionEpoch ∧
        (after.stop state.active = state.stop state.active ∨
          ∃ call, state.calls call = some .closed ∧
            after.calls call = some (.stopping state.active))) := by
  cases moves_of_step stepped with
  | @discards call next found free shut =>
      obtain ⟨-, notActive, -⟩ := (sound.each call _ found).owned next rfl
      exact .inr ⟨rfl, rfl, rfl,
        .inl (Function.update_of_ne notActive.symm _ _)⟩
  | @switches call next found => exact .inl ⟨call, next, found, rfl⟩
  | @stops call found =>
      exact .inr ⟨rfl, rfl, rfl,
        .inr ⟨call, found, Function.update_self _ _ _⟩⟩
  | @cancels call phase found =>
      cases owns : phase.owns with
      | none =>
          rw [dropSession_of_none owns]
          exact .inr ⟨rfl, rfl, rfl, .inl rfl⟩
      | some next =>
          rw [dropSession_of_owns owns]
          obtain ⟨-, notActive, -⟩ :=
            (sound.each call phase found).owned next owns
          exact .inr ⟨rfl, rfl, rfl,
            .inl (Function.update_of_ne notActive.symm _ _)⟩
  | _ => exact .inr ⟨rfl, rfl, rfl, .inl rfl⟩

/-! ## After a shutdown -/

/-- Where a call stands that began after the shutdown of the session: no
operation polls its work, and no replacement asks the gateway. -/
def refused (session : SessionNumber) : Phase → Prop
  | .entered _ => True
  | .replaced result => result = .error .closed
  | .closing => True
  | .closed => True
  | .stopping _ => True
  | .shutDown => True
  | .started => True
  | .holding held => held = session
  | .finished result => result = .error .closed
  | .cancelled => True
  | _ => False

/-- What holds from the end of a shutdown on. -/
structure Ended (base state : State) : Prop where
  closed : state.closed = true
  active : state.active = base.active
  stopped : state.stop base.active = true
  switches : state.switches = base.switches
  later :
    ∀ call phase, base.calls call = none → state.calls call = some phase →
      refused base.active phase

theorem Ended.moved {base state after : State} (ended : Ended base state)
    {call : CallId} {phase : Phase}
    (calls : after.calls = Function.update state.calls call (some phase))
    (closed : after.closed = true) (active : after.active = state.active)
    (stopped : after.stop base.active = true)
    (switches : after.switches = state.switches)
    (own : base.calls call = none → refused base.active phase) :
    Ended base after := by
  refine ⟨closed, active.trans ended.active, stopped,
    switches.trans ended.switches, ?_⟩
  intro other otherPhase unused found
  rw [calls] at found
  rcases update_eq_some found with ⟨rfl, rfl⟩ | ⟨-, kept⟩
  · exact own unused
  · exact ended.later other otherPhase unused kept

/-- A call that began after the shutdown is still refused after a move of its
own. -/
theorem Ended.plain {base state : State} (ended : Ended base state)
    {old phase : Phase} (before : refused base.active old)
    (move : state.Plain old phase) : refused base.active phase := by
  cases move with
  | enters gateway =>
      rw [enter, if_pos ended.closed]
      rfl
  | holds => exact ended.active
  | checks session =>
      have same : session = base.active := before
      rw [checkSession, same, if_pos ended.stopped]
      rfl
  | validates => cases before
  | rejected error => cases before
  | unfetched error => cases before
  | polls session => cases before
  | pending session => cases before
  | finishes session result => cases before

theorem Ended.step {base state after : State} {action : Action}
    (sound : state.Sound) (ended : Ended base state)
    (stepped : state.step action = some after) : Ended base after := by
  have stopped := step_stop stepped ended.stopped
  cases moves_of_step stepped with
  | invalidates session =>
      exact ⟨ended.closed, ended.active, ended.stopped, ended.switches,
        ended.later⟩
  | begins unused initial =>
      refine ended.moved rfl ended.closed rfl stopped rfl fun _ => ?_
      cases initial <;> trivial
  | plain found move =>
      refine ended.moved rfl ended.closed rfl stopped rfl fun unused => ?_
      exact ended.plain (ended.later _ _ unused found) move
  | builds found =>
      refine ended.moved rfl ended.closed rfl stopped rfl fun unused => ?_
      cases ended.later _ _ unused found
  | discards found free shut =>
      refine ended.moved rfl ended.closed rfl stopped rfl fun unused => ?_
      cases ended.later _ _ unused found
  | locks found free opened =>
      rw [ended.closed] at opened
      cases opened
  | switches found =>
      have opened := (sound.each _ _ found).opened _ rfl
      rw [ended.closed] at opened
      cases opened
  | ends found move =>
      refine ended.moved rfl ended.closed rfl stopped rfl fun unused => ?_
      have before := ended.later _ _ unused found
      cases move with
      | discarded next => cases before
      | retired previous => cases before
      | stopped session => trivial
  | closes found free =>
      exact ended.moved rfl rfl rfl stopped rfl fun _ => trivial
  | stops found =>
      exact ended.moved rfl ended.closed rfl stopped rfl fun _ => trivial
  | @cancels call phase found =>
      cases owns : phase.owns with
      | none =>
          rw [dropSession_of_none owns] at stopped ⊢
          exact ended.moved rfl ended.closed rfl stopped rfl fun _ => trivial
      | some next =>
          rw [dropSession_of_owns owns] at stopped ⊢
          exact ended.moved rfl ended.closed rfl stopped rfl fun _ => trivial

theorem ended_of_shutDown {base : State} (sound : base.Sound) {call : CallId}
    (found : base.calls call = some .shutDown) : Ended base base where
  closed := (sound.each call _ found).shut rfl
  active := rfl
  stopped := (sound.each call _ found).stopped rfl
  switches := rfl
  later := by
    intro other phase unused listed
    rw [unused] at listed
    cases listed

theorem ended_of_run {base final : State} (sound : base.Sound)
    {call : CallId} (found : base.calls call = some .shutDown)
    {later : List Action} (ran : run step base later = some final) :
    Ended base final := by
  have both : final.Sound ∧ Ended base final :=
    invariant_of_run (fun state => state.Sound ∧ Ended base state)
      ⟨sound, ended_of_shutDown sound found⟩
      (fun _ _ _ holds stepped =>
        ⟨holds.1.step stepped, holds.2.step holds.1 stepped⟩) ran
  exact both.2

/-! ## Operations on a session that was stopped -/

/-- The operation will not poll its work again. -/
def halted (session : SessionNumber) : Phase → Prop
  | .holding held => held = session
  | .running held => held = session
  | .finished result => result = .error .closed
  | .cancelled => True
  | _ => False

/-- An operation that is not in the middle of a poll, on a session that was
stopped. -/
structure Halted (call : CallId) (session : SessionNumber) (state : State) :
    Prop where
  stopped : state.stop session = true
  phase : ∃ phase, state.calls call = some phase ∧ halted session phase

theorem Halted.moved {call : CallId} {session : SessionNumber}
    {state after : State} (halts : Halted call session state)
    {other : CallId} {phase : Phase}
    (calls : after.calls = Function.update state.calls other (some phase))
    (stopped : after.stop session = true)
    (own :
      ∀ old, state.calls other = some old → halted session old →
        halted session phase) :
    Halted call session after := by
  refine ⟨stopped, ?_⟩
  obtain ⟨current, found, holds⟩ := halts.phase
  rw [calls]
  by_cases target : call = other
  · rw [← target, Function.update_self]
    rw [target] at found
    exact ⟨phase, rfl, own current found holds⟩
  · rw [Function.update_of_ne target]
    exact ⟨current, found, holds⟩

theorem Halted.plain {call : CallId} {session : SessionNumber} {state : State}
    (halts : Halted call session state) {old phase : Phase}
    (before : halted session old) (move : state.Plain old phase) :
    halted session phase := by
  cases move with
  | checks held =>
      have same : held = session := before
      rw [checkSession, same, if_pos halts.stopped]
      rfl
  | polls held =>
      have same : held = session := before
      rw [pollStop, same, if_pos halts.stopped]
      rfl
  | _ => cases before

theorem Halted.step {call : CallId} {session : SessionNumber}
    {state after : State} {action : Action}
    (halts : Halted call session state)
    (stepped : state.step action = some after) :
    Halted call session after := by
  have stopped := step_stop stepped halts.stopped
  have not_halted :
      ∀ {other : CallId} {known phase : Phase},
        state.calls other = some known → ¬ halted session known →
        ∀ old, state.calls other = some old → halted session old →
          halted session phase := by
    intro other known phase found moving old same before
    cases found.symm.trans same
    exact absurd before moving
  cases moves_of_step stepped with
  | invalidates session => exact ⟨halts.stopped, halts.phase⟩
  | begins unused initial =>
      refine halts.moved rfl stopped ?_
      intro old found
      rw [unused] at found
      cases found
  | plain found move =>
      refine halts.moved rfl stopped ?_
      intro old same before
      cases found.symm.trans same
      exact halts.plain before move
  | builds found => exact halts.moved rfl stopped (not_halted found id)
  | discards found free shut =>
      exact halts.moved rfl stopped (not_halted found id)
  | locks found free opened =>
      exact halts.moved rfl stopped (not_halted found id)
  | switches found => exact halts.moved rfl stopped (not_halted found id)
  | ends found move =>
      refine halts.moved rfl stopped (not_halted found ?_)
      cases move <;> exact id
  | closes found free => exact halts.moved rfl stopped (not_halted found id)
  | stops found => exact halts.moved rfl stopped (not_halted found id)
  | @cancels other phase found =>
      cases owns : phase.owns with
      | none =>
          rw [dropSession_of_none owns] at stopped ⊢
          exact halts.moved rfl stopped fun _ _ _ => trivial
      | some next =>
          rw [dropSession_of_owns owns] at stopped ⊢
          exact halts.moved rfl stopped fun _ _ _ => trivial

end State

open State

/-! ## Replacements, shutdowns and operations -/

/-- In every state of every run: a `replace_session` that has failed has not
switched, one that has succeeded has switched once, and the epoch counts the
switches.  A switch stops the active session, puts the new session in its
place, which is not stopped, and raises the epoch; no other step changes the
active session or the epoch, and besides only `shutdown` stops the active
session.  After a shutdown there are no switches, the active session stays
stopped, and what begins then comes to nothing but `Closed`.  An operation
whose session is stopped while it does not poll its work can only end with
`Closed`. -/
theorem session_handover {gateway : GatewayEndpoint} {actions : List Action}
    {state : State} (ran : run step (start gateway) actions = some state) :
    state.sessionEpoch = (1 + state.switches.length) % 2 ^ 64 ∧
      (∀ call error, state.calls call = some (.replaced (.error error)) →
        state.switchesOf call = 0) ∧
      (∀ call, state.calls call = some (.replaced (.ok ())) →
        state.switchesOf call = 1) ∧
      (∀ action after, state.step action = some after →
        (∃ call next, after.switches =
              ⟨call, state.active, next⟩ :: state.switches ∧
            after.active = next ∧ next ≠ state.active ∧
            after.sessionEpoch = (state.sessionEpoch + 1) % 2 ^ 64 ∧
            after.stop state.active = true ∧ after.stop next = false) ∨
          (after.switches = state.switches ∧ after.active = state.active ∧
            after.sessionEpoch = state.sessionEpoch ∧
            (after.stop state.active = state.stop state.active ∨
              ∃ call, state.calls call = some .closed ∧
                after.calls call = some (.stopping state.active)))) ∧
      (∀ call, state.calls call = some .shutDown →
        ∀ later final, run step state later = some final →
          final.switches = state.switches ∧ final.active = state.active ∧
            final.stop final.active = true ∧
            ∀ other phase, state.calls other = none →
              final.calls other = some phase → refused state.active phase) ∧
      ∀ call session,
        state.calls call = some (.holding session) ∨
          state.calls call = some (.running session) →
        state.stop session = true →
        ∀ later final, run step state later = some final →
          ∀ result, final.calls call = some (.finished result) →
            result = .error .closed := by
  have sound := sound_of_run ran
  have logged : state.Logged :=
    invariant_of_run Logged (logged_start gateway)
      (fun _ _ _ holds stepped => holds.step stepped) ran
  refine ⟨logged.epoch, ?_, ?_, ?_, ?_, ?_⟩
  · intro call error found
    exact logged.each call _ found nofun
  · intro call found
    exact logged.each call _ found nofun
  · intro action after stepped
    rcases step_switches sound stepped with ⟨call, next, found, rfl⟩ | same
    · obtain ⟨-, notActive, running⟩ := (sound.each call _ found).owned next rfl
      refine .inl ⟨call, next, rfl, rfl, notActive, rfl,
        Function.update_self _ _ _, ?_⟩
      exact (Function.update_of_ne notActive _ _).trans running
    · exact .inr same
  · intro call found later final ranLater
    have ended := ended_of_run sound found ranLater
    refine ⟨ended.switches, ended.active, ?_, ended.later⟩
    rw [ended.active]
    exact ended.stopped
  · intro call session phase stopped later final ranLater result finished
    have halts : Halted call session state := by
      refine ⟨stopped, ?_⟩
      rcases phase with found | found
      · exact ⟨_, found, rfl⟩
      · exact ⟨_, found, rfl⟩
    have still : Halted call session final :=
      invariant_of_run (Halted call session) halts
        (fun _ _ _ holds stepped => holds.step stepped) ranLater
    obtain ⟨current, found, holds⟩ := still.phase
    cases found.symm.trans finished
    exact holds

/-- A shutdown that has ended, and an operation and a replacement after it. -/
theorem session_handover_after_shutdown :
    ∃ state final,
      run step (start ⟨"gateway", 443⟩)
          [.shutdown 0, .proceed 0, .proceed 0, .proceed 0] = some state ∧
      run step state
          [.operation 1, .proceed 1, .proceed 1,
            .replaceSession 2 ⟨"gateway", 443⟩, .proceed 2] = some final ∧
      final.active = 0 ∧ final.stop 0 = true := by
  refine ⟨_, _, rfl, rfl, ?_⟩
  obtain ⟨-, -, -, -, shut, -⟩ :=
    @session_handover ⟨"gateway", 443⟩
      [.shutdown 0, .proceed 0, .proceed 0, .proceed 0] _ rfl
  obtain ⟨-, active, stopped, -⟩ :=
    shut 0 rfl
      [.operation 1, .proceed 1, .proceed 1,
        .replaceSession 2 ⟨"gateway", 443⟩, .proceed 2] _ rfl
  exact ⟨active, stopped⟩

/-- While an operation polls its work, another thread replaces its session;
the poll that is under way still ends with success. -/
theorem operation_succeeds_after_stop :
    ∃ state after,
      run step (start ⟨"gateway", 443⟩)
          [.operation 0, .proceed 0, .proceed 0, .proceed 0,
            .replaceSession 1 ⟨"gateway", 443⟩, .proceed 1,
            .answer 1 (.ok ()), .answer 1 (.ok ()), .proceed 1,
            .proceed 1] = some state ∧
      state.stop 0 = true ∧ state.calls 0 = some (.polling 0) ∧
      state.step (.work 0 (some (.ok ()))) = some after ∧
      after.calls 0 = some (.finished (.ok ())) :=
  ⟨_, _, rfl, rfl, rfl, rfl, rfl⟩

end HermesAtrust.Client.Replacement
