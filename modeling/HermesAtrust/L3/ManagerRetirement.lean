import HermesAtrust.Concurrency.Transitions
import HermesAtrust.L3.Manager

/-!
# Retirement of a session manager

`retire` sets a flag that every call of `session` checks after it has the lock
and again before it stores a new session, and then asks the stored session to
close.  For the last part it only tries the lock.  The argument is that the
holder of the lock, if there is one, either has no session to keep open or
will look at the flag again.
-/

namespace HermesAtrust.L3.Manager

open HermesAtrust.Concurrency

/-- The phases in which a call has the lock. -/
def Call.holds : Call → Bool
  | .session .starting => false
  | .session .locking => false
  | .session (.returned _) => false
  | .session _ => true
  | .currentSession .holding => true
  | .currentSession _ => false
  | .lastVip .holding => true
  | .lastVip _ => false
  | .invalidate _ .holding => true
  | .invalidate _ _ => false
  | .close .holding => true
  | .close .closing => true
  | .close _ => false
  | .retire .holding => true
  | .retire _ => false

/-- Past its last look at the flag and about to store a new session. -/
def Call.storing : Call → Bool
  | .session (.storing _ _ _) => true
  | _ => false

/-- The session a call of `session` has returned. -/
def Call.handsOut : Call → Option SessionRef
  | .session (.returned (.ok handed)) => some handed
  | _ => none

/-- The flag is set. -/
def Call.flagged : Call → Bool
  | .retire .starting => false
  | .retire _ => true
  | _ => false

/-- The stored session, if there is one, was told to close. -/
def StoredTold (state : State) : Prop :=
  ∀ session, state.session = some session → state.told session

/-- No session is stored beyond the next free position. -/
def HeapFresh (state : State) : Prop :=
  ∀ session, state.nextSession ≤ session → state.sessions session = none

/-- The invariant of every run: sessions are found in the heap, the lock has
one holder, and behind the first step of `retire` the flag is set. -/
structure Guarded (state : State) : Prop where
  fresh : HeapFresh state
  known :
    ∀ session, state.session = some session →
      (state.sessions session).isSome
  holder :
    ∀ id call, state.calls id = some call → call.holds →
      state.holder = some id
  flagged :
    ∀ id call, state.calls id = some call → call.flagged →
      state.retired = true

/-- Nothing is left to close: the flag is set, the stored session was told to
close, and no call is about to store another. -/
structure Settled (state : State) : Prop where
  retired : state.retired = true
  stored : StoredTold state
  storeless :
    ∀ id call, state.calls id = some call → call.storing = false

/-- A `retire` that finds the lock taken returns at once; it may do so if the
stored session, if there is one, was told to close and the holder is not about
to store another. -/
def RetiresCleanly (state : State) : Action → Prop
  | .advance id =>
      state.calls id = some (.retire .tryingLock) →
        state.holder = none ∨
          (StoredTold state ∧
            ∀ holder call, state.holder = some holder →
              state.calls holder = some call → call.storing = false)
  | _ => True

theorem holds_of_storing {call : Call} (storing : call.storing) :
    call.holds := by
  match call, storing with
  | .session (.storing _ _ _), _ => rfl

/-- Sessions stay in the heap, and stay told to close. -/
structure HeapGrows (state after : State) : Prop where
  fresh : HeapFresh state → HeapFresh after
  known :
    ∀ session, (state.sessions session).isSome →
      (after.sessions session).isSome
  told : ∀ session, state.told session → after.told session

theorem heapGrows_of_eq {state after : State}
    (same : after.sessions = state.sessions)
    (next : after.nextSession = state.nextSession) :
    HeapGrows state after where
  fresh fresh session beyond := by
    rw [same]
    rw [next] at beyond
    exact fresh session beyond
  known session known := by rw [same]; exact known
  told session told := by rw [State.told, same]; exact told

theorem heapGrows_requestClose {state after : State} (session : SessionRef)
    (same : after.sessions = (state.requestClose session).sessions)
    (next : after.nextSession = state.nextSession) :
    HeapGrows state after where
  fresh fresh other beyond := by
    rw [next] at beyond
    rw [same, State.requestClose_sessions]
    by_cases equal : other = session
    · rw [if_pos equal, ← equal, fresh other beyond]
      rfl
    · rw [if_neg equal]
      exact fresh other beyond
  known other known := by
    rw [same, State.requestClose_sessions]
    by_cases equal : other = session
    · rw [if_pos equal, ← equal, Option.isSome_map]
      exact known
    · rw [if_neg equal]
      exact known
  told other told := by
    obtain ⟨view, found, isTold⟩ := told
    rw [State.told, same, State.requestClose_sessions]
    by_cases equal : other = session
    · rw [if_pos equal, ← equal, found]
      exact ⟨_, rfl, rfl⟩
    · rw [if_neg equal]
      exact ⟨view, found, isTold⟩

/-- A new session is put at the next free position. -/
theorem heapGrows_insert {state after : State} {view : SessionView}
    (fresh : HeapFresh state)
    (inserted :
      after.sessions =
        Function.update state.sessions state.nextSession (some view))
    (next : after.nextSession = state.nextSession + 1) :
    HeapGrows state after where
  fresh _ session beyond := by
    rw [next] at beyond
    rw [inserted, Function.update_of_ne (Nat.ne_of_gt beyond)]
    exact fresh session (Nat.le_of_succ_le beyond)
  known session known := by
    rw [inserted, Function.update_apply]
    split
    · rfl
    · exact known
  told session told := by
    obtain ⟨old, found, isTold⟩ := told
    have different : session ≠ state.nextSession := by
      intro same
      rw [same, fresh _ (Nat.le_refl _)] at found
      cases found
    rw [State.told, inserted, Function.update_of_ne different]
    exact ⟨old, found, isTold⟩

/-- The view of a session changes, but not whether it was told to close. -/
theorem heapGrows_replace {state after : State} {session : SessionRef}
    {old new : SessionView} (found : state.sessions session = some old)
    (replaced :
      after.sessions = Function.update state.sessions session (some new))
    (same : new.told = old.told)
    (next : after.nextSession = state.nextSession) :
    HeapGrows state after where
  fresh fresh other beyond := by
    rw [next] at beyond
    have different : other ≠ session := by
      intro equal
      rw [← equal, fresh other beyond] at found
      cases found
    rw [replaced, Function.update_of_ne different]
    exact fresh other beyond
  known other known := by
    rw [replaced, Function.update_apply]
    split
    · rfl
    · exact known
  told other told := by
    obtain ⟨view, known, isTold⟩ := told
    rw [State.told, replaced, Function.update_apply]
    by_cases equal : other = session
    · rw [equal, found] at known
      cases known
      exact ⟨new, by rw [if_pos equal], by rw [same, isTold]⟩
    · exact ⟨view, by rw [if_neg equal, known], isTold⟩

/-- How a step of one call may change what the invariant speaks about. -/
structure Moves (state after : State) (id : CallId) (call : Call) : Prop where
  calls : after.calls = Function.update state.calls id (some call)
  heap : HeapGrows state after
  retired : state.retired = true → after.retired = true
  flagged : call.flagged → after.retired = true
  retires : call.flagged → ∃ phase, state.calls id = some (.retire phase)
  holds : call.holds → after.holder = some id
  holder :
    state.holder = some id ∨ state.holder = none ∨
      after.holder = state.holder
  storing : call.storing → state.retired = false
  session :
    after.session = state.session ∨ after.session = none ∨
      (∃ call, state.calls id = some call ∧ call.storing) ∧
        ∀ session, after.session = some session →
          (after.sessions session).isSome
  handsOut :
    ∀ session, call.handsOut = some session →
      state.session = some session ∨
        ∃ call, state.calls id = some call ∧ call.storing

theorem Moves.guarded {state after : State} {id : CallId} {call : Call}
    (moves : Moves state after id call) (guarded : Guarded state) :
    Guarded after where
  fresh := moves.heap.fresh guarded.fresh
  known session stored := by
    rcases moves.session with kept | gone | ⟨-, exists'⟩
    · exact moves.heap.known session (guarded.known session (kept ▸ stored))
    · rw [gone] at stored
      cases stored
    · exact exists' session stored
  holder other held found holds := by
    rw [moves.calls, Function.update_apply] at found
    by_cases same : other = id
    · rw [if_pos same] at found
      cases found
      rw [same]
      exact moves.holds holds
    · rw [if_neg same] at found
      have before := guarded.holder other held found holds
      rcases moves.holder with mine | free | kept
      · rw [mine] at before
        exact absurd (Option.some.inj before).symm same
      · rw [free] at before
        cases before
      · rw [kept, before]
  flagged other flag found flagged := by
    rw [moves.calls, Function.update_apply] at found
    by_cases same : other = id
    · rw [if_pos same] at found
      cases found
      exact moves.flagged flagged
    · rw [if_neg same] at found
      exact moves.retired (guarded.flagged other flag found flagged)

/-- Once nothing is left to close, it stays so. -/
theorem Moves.settled {state after : State} {id : CallId} {call : Call}
    (moves : Moves state after id call) (settled : Settled state) :
    Settled after where
  retired := moves.retired settled.retired
  stored session stored := by
    rcases moves.session with kept | gone | ⟨⟨storing, found, isStoring⟩, -⟩
    · exact moves.heap.told session (settled.stored session (kept ▸ stored))
    · rw [gone] at stored
      cases stored
    · rw [settled.storeless id storing found] at isStoring
      cases isStoring
  storeless other storing found := by
    rw [moves.calls, Function.update_apply] at found
    by_cases same : other = id
    · rw [if_pos same] at found
      cases found
      by_contra isStoring
      have unset := moves.storing (by simpa using isStoring)
      rw [settled.retired] at unset
      cases unset
    · rw [if_neg same] at found
      exact settled.storeless other storing found

/-- A step of a call other than `retire` that stores no session. -/
theorem moves_plain {state after : State} {id : CallId} {call : Call}
    (calls : after.calls = Function.update state.calls id (some call))
    (heap : HeapGrows state after) (retired : after.retired = state.retired)
    (session : after.session = state.session ∨ after.session = none)
    (holder :
      state.holder = some id ∨ state.holder = none ∨
        after.holder = state.holder)
    (holds : call.holds → after.holder = some id)
    (plain : call.flagged = false)
    (storing : call.storing → state.retired = false)
    (handsOut :
      ∀ session, call.handsOut = some session →
        state.session = some session) :
    Moves state after id call where
  calls := calls
  heap := heap
  retired set := by rw [retired, set]
  flagged flagged := by simp [plain] at flagged
  retires flagged := by simp [plain] at flagged
  holds := holds
  holder := holder
  storing := storing
  session := session.elim .inl fun gone => .inr (.inl gone)
  handsOut session out := .inl (handsOut session out)

theorem lock_eq_some {state locked : State} {id : CallId}
    (acquired : state.lock id = some locked) :
    state.holder = none ∧ locked = { state with holder := some id } := by
  unfold State.lock at acquired
  cases held : state.holder with
  | none =>
      rw [held] at acquired
      exact ⟨rfl, (Option.some.inj acquired).symm⟩
  | some holder => simp [held] at acquired

/-- A call that waits for the lock gets it. -/
theorem moves_lock {state after : State} {id : CallId} {call : Call}
    (stepped :
      ((state.lock id).map fun locked => locked.setCall id call) = some after)
    (plain : call.flagged = false) (notStoring : call.storing = false)
    (waiting : call.handsOut = none) :
    Moves state after id call := by
  obtain ⟨locked, acquired, rfl⟩ := Option.map_eq_some_iff.mp stepped
  obtain ⟨free, rfl⟩ := lock_eq_some acquired
  refine moves_plain rfl (heapGrows_of_eq rfl rfl) rfl (.inl rfl) (.inr (.inl free))
    (fun _ => rfl) plain ?_ ?_
  · intro storing
    simp [notStoring] at storing
  · intro session out
    simp [waiting] at out

/-- A call goes on without touching the state. -/
theorem moves_stay {state : State} {id : CallId} {call : Call}
    (held : call.holds → state.holder = some id)
    (plain : call.flagged = false)
    (storing : call.storing → state.retired = false)
    (handsOut :
      ∀ session, call.handsOut = some session →
        state.session = some session) :
    Moves state (state.setCall id call) id call :=
  moves_plain rfl (heapGrows_of_eq rfl rfl) rfl (.inl rfl) (.inr (.inr rfl))
    held plain storing handsOut

/-- A call releases the lock; the stored session stays or is taken. -/
theorem moves_unlock {state middle : State} {id : CallId} {call : Call}
    (mine : state.holder = some id) (calls : middle.calls = state.calls)
    (heap : HeapGrows state middle) (retired : middle.retired = state.retired)
    (session : middle.session = state.session ∨ middle.session = none)
    (idle : call.holds = false) (plain : call.flagged = false)
    (notStoring : call.storing = false)
    (handsOut :
      ∀ session, call.handsOut = some session →
        state.session = some session) :
    Moves state (middle.unlock.setCall id call) id call := by
  refine moves_plain ?_ ⟨heap.fresh, heap.known, heap.told⟩ retired session
    (.inl mine) ?_ plain ?_ handsOut
  · rw [State.setCall_calls]
    exact congrArg (fun calls => Function.update calls id (some call)) calls
  · intro holds
    simp [idle] at holds
  · intro storing
    simp [notStoring] at storing

theorem moves_advanceSession {state after : State} {id : CallId}
    {phase : SessionPhase} (guarded : Guarded state)
    (called : state.calls id = some (.session phase))
    (stepped : state.advanceSession id phase = some after) :
    ∃ call, Moves state after id call := by
  have mine (holds : (Call.session phase).holds) : state.holder = some id :=
    guarded.holder id _ called holds
  have unchanged : HeapGrows state state := heapGrows_of_eq rfl rfl
  cases phase with
  | starting =>
      simp only [State.advanceSession] at stepped
      split at stepped
      · cases stepped
        exact ⟨_, moves_stay nofun rfl nofun nofun⟩
      · cases stepped
        exact ⟨_, moves_stay nofun rfl nofun nofun⟩
  | locking => exact ⟨_, moves_lock stepped rfl rfl rfl⟩
  | locked =>
      simp only [State.advanceSession] at stepped
      split at stepped
      · cases stepped
        exact ⟨_, moves_unlock (mine rfl) rfl unchanged rfl (.inl rfl)
          rfl rfl rfl nofun⟩
      · cases stepped
        exact ⟨_, moves_stay (fun _ => mine rfl) rfl nofun nofun⟩
  | checked =>
      simp only [State.advanceSession] at stepped
      split at stepped
      · cases stepped
        exact ⟨_, moves_stay (fun _ => mine rfl) rfl nofun nofun⟩
      · next session stored =>
        split at stepped
        · cases stepped
          refine ⟨.session .closing, moves_plain (by simp)
            (heapGrows_requestClose session ?_ (by simp)) (by simp) (.inr (by simp))
            (.inl (mine rfl)) (fun _ => ?_) rfl nofun nofun⟩
          · exact State.requestClose_sessions_congr state session rfl
          · simpa using mine rfl
        · cases stepped
          refine ⟨_, moves_unlock (mine rfl) rfl unchanged rfl (.inl rfl)
            rfl rfl rfl ?_⟩
          intro handed out
          cases out
          exact stored
  | closing =>
      cases stepped
      exact ⟨_, moves_stay (fun _ => mine rfl) rfl nofun nofun⟩
  | resting =>
      simp only [State.advanceSession] at stepped
      split at stepped
      · cases stepped
        exact ⟨_, moves_unlock (mine rfl) rfl unchanged rfl (.inl rfl)
          rfl rfl rfl nofun⟩
      · cases stepped
        exact ⟨_, moves_stay (fun _ => mine rfl) rfl nofun nofun⟩
  | connecting endpoints start offset => cases stepped
  | connected session index count =>
      simp only [State.advanceSession] at stepped
      split at stepped
      · cases stepped
        exact ⟨_, moves_unlock (mine rfl) (by simp)
          (heapGrows_requestClose session rfl (by simp)) (by simp) (.inl (by simp))
          rfl rfl rfl nofun⟩
      · next unset =>
          cases stepped
          exact ⟨_, moves_stay (fun _ => mine rfl) rfl
            (fun _ => by simpa using unset) nofun⟩
  | storing session index count =>
      simp only [State.advanceSession] at stepped
      cases found : state.sessions session with
      | none => simp [found] at stepped
      | some view =>
          simp only [found, Option.some.injEq] at stepped
          subst stepped
          refine ⟨.session (.returned (.ok session)), rfl,
            heapGrows_of_eq rfl rfl, fun set => set, nofun, nofun, nofun,
            .inl (mine rfl), nofun, ?_, fun _ _ => .inr ⟨_, called, rfl⟩⟩
          right; right
          refine ⟨⟨_, called, rfl⟩, ?_⟩
          intro stored same
          cases same
          exact Option.isSome_iff_exists.mpr ⟨view, found⟩
  | returned result => cases stepped

theorem moves_establish {state after : State} {id : CallId}
    {phase : SessionPhase} {result : Except EstablishError Ipv4Addr}
    (guarded : Guarded state)
    (called : state.calls id = some (.session phase))
    (stepped : state.establish id result phase = some after) :
    ∃ call, Moves state after id call := by
  cases phase with
  | connecting endpoints start offset =>
      have mine := guarded.holder id _ called rfl
      simp only [State.establish] at stepped
      split at stepped
      · cases stepped
      · next endpoint chosen =>
        split at stepped
        · next vip =>
          cases stepped
          exact ⟨_, moves_plain rfl (heapGrows_insert guarded.fresh rfl rfl) rfl
            (.inl rfl) (.inl mine) (fun _ => mine) rfl nofun nofun⟩
        · next error =>
          split at stepped
          · split at stepped
            · cases stepped
              exact ⟨_, moves_plain rfl (heapGrows_of_eq rfl rfl) rfl (.inl rfl)
                (.inl mine) (fun _ => mine) rfl nofun nofun⟩
            · cases stepped
              exact ⟨_, moves_unlock mine rfl (heapGrows_of_eq rfl rfl) rfl
                (.inl rfl) rfl rfl rfl nofun⟩
          · cases stepped
            exact ⟨_, moves_unlock mine rfl (heapGrows_of_eq rfl rfl) rfl
              (.inl rfl) rfl rfl rfl nofun⟩
  | _ => cases stepped

theorem moves_advanceCurrentSession {state after : State} {id : CallId}
    {phase : CurrentSessionPhase} (guarded : Guarded state)
    (called : state.calls id = some (.currentSession phase))
    (stepped : state.advanceCurrentSession id phase = some after) :
    ∃ call, Moves state after id call := by
  cases phase with
  | locking => exact ⟨_, moves_lock stepped rfl rfl rfl⟩
  | holding =>
      cases stepped
      exact ⟨_, moves_unlock (guarded.holder id _ called rfl) rfl
        (heapGrows_of_eq rfl rfl) rfl (.inl rfl) rfl rfl rfl nofun⟩
  | returned session => cases stepped

theorem moves_advanceLastVip {state after : State} {id : CallId}
    {phase : LastVipPhase} (guarded : Guarded state)
    (called : state.calls id = some (.lastVip phase))
    (stepped : state.advanceLastVip id phase = some after) :
    ∃ call, Moves state after id call := by
  cases phase with
  | locking => exact ⟨_, moves_lock stepped rfl rfl rfl⟩
  | holding =>
      cases stepped
      exact ⟨_, moves_unlock (guarded.holder id _ called rfl) rfl
        (heapGrows_of_eq rfl rfl) rfl (.inl rfl) rfl rfl rfl nofun⟩
  | returned vip => cases stepped

theorem moves_advanceInvalidate {state after : State} {id : CallId}
    {failed : SessionRef} {phase : InvalidatePhase} (guarded : Guarded state)
    (called : state.calls id = some (.invalidate failed phase))
    (stepped : state.advanceInvalidate id failed phase = some after) :
    ∃ call, Moves state after id call := by
  cases phase with
  | locking => exact ⟨_, moves_lock stepped rfl rfl rfl⟩
  | holding =>
      have mine := guarded.holder id _ called rfl
      simp only [State.advanceInvalidate] at stepped
      split at stepped
      · cases stepped
        exact ⟨_, moves_unlock mine rfl (heapGrows_of_eq rfl rfl) rfl (.inr rfl)
          rfl rfl rfl nofun⟩
      · cases stepped
        exact ⟨_, moves_unlock mine rfl (heapGrows_of_eq rfl rfl) rfl (.inl rfl)
          rfl rfl rfl nofun⟩
  | closing =>
      cases stepped
      exact ⟨.invalidate failed .joining, moves_plain (by simp)
        (heapGrows_requestClose failed rfl (by simp)) (by simp) (.inl (by simp))
        (.inr (.inr (by simp))) nofun rfl nofun nofun⟩
  | joining =>
      cases stepped
      exact ⟨_, moves_plain rfl (heapGrows_of_eq rfl rfl) rfl (.inl rfl)
        (.inr (.inr rfl)) nofun rfl nofun nofun⟩
  | returned => cases stepped

theorem moves_advanceClose {state after : State} {id : CallId}
    {phase : ClosePhase} (guarded : Guarded state)
    (called : state.calls id = some (.close phase))
    (stepped : state.advanceClose id phase = some after) :
    ∃ call, Moves state after id call := by
  cases phase with
  | locking => exact ⟨_, moves_lock stepped rfl rfl rfl⟩
  | holding =>
      have mine := guarded.holder id _ called rfl
      simp only [State.advanceClose] at stepped
      split at stepped
      · cases stepped
        exact ⟨_, moves_unlock mine rfl (heapGrows_of_eq rfl rfl) rfl (.inl rfl)
          rfl rfl rfl nofun⟩
      · next session stored =>
        cases stepped
        refine ⟨.close .closing, moves_plain (by simp)
          (heapGrows_requestClose session ?_ (by simp)) (by simp) (.inr (by simp))
          (.inl mine) (fun _ => ?_) rfl nofun nofun⟩
        · exact State.requestClose_sessions_congr state session rfl
        · simpa using mine
  | closing =>
      cases stepped
      exact ⟨_, moves_plain rfl (heapGrows_of_eq rfl rfl) rfl (.inl rfl)
        (.inl (guarded.holder id _ called rfl)) nofun rfl nofun nofun⟩
  | returned => cases stepped

/-- No call is about to store a session while another has the lock. -/
theorem Guarded.storeless {state : State} (guarded : Guarded state)
    {holder : CallId} (held : state.holder = some holder)
    (notHolder :
      ∀ call, state.calls holder = some call → call.storing = false) :
    ∀ other call, state.calls other = some call → call.storing = false := by
  intro other call found
  by_contra isStoring
  have storing : call.storing := by simpa using isStoring
  have same := guarded.holder other call found (holds_of_storing storing)
  rw [held] at same
  cases same
  rw [notHolder call found] at storing
  cases storing

theorem moves_advanceRetire {state after : State} {id : CallId}
    {phase : RetirePhase} (guarded : Guarded state)
    (called : state.calls id = some (.retire phase))
    (stepped : state.advanceRetire id phase = some after) :
    ∃ call, Moves state after id call := by
  cases phase with
  | starting =>
      cases stepped
      exact ⟨.retire .tryingLock, rfl, heapGrows_of_eq rfl rfl, fun _ => rfl,
        fun _ => rfl, fun _ => ⟨_, called⟩, nofun, .inr (.inr rfl), nofun,
        .inl rfl, nofun⟩
  | tryingLock =>
      have set := guarded.flagged id _ called rfl
      simp only [State.advanceRetire] at stepped
      cases held : state.holder with
      | none =>
          simp only [held, Option.some.injEq] at stepped
          subst stepped
          exact ⟨.retire .holding, rfl, heapGrows_of_eq rfl rfl, fun _ => set,
            fun _ => set, fun _ => ⟨_, called⟩, fun _ => rfl,
            .inr (.inl held), nofun, .inl rfl, nofun⟩
      | some holder =>
          simp only [held, Option.some.injEq] at stepped
          subst stepped
          exact ⟨.retire .returned, rfl, heapGrows_of_eq rfl rfl, fun _ => set,
            fun _ => set, fun _ => ⟨_, called⟩, nofun, .inr (.inr rfl),
            nofun, .inl rfl, nofun⟩
  | holding =>
      have mine := guarded.holder id _ called rfl
      have set := guarded.flagged id _ called rfl
      simp only [State.advanceRetire] at stepped
      cases stored : state.session with
      | none =>
          simp only [stored, Option.some.injEq] at stepped
          subst stepped
          exact ⟨.retire .returned, rfl, heapGrows_of_eq rfl rfl, fun _ => set,
            fun _ => set, fun _ => ⟨_, called⟩, nofun, .inl mine, nofun,
            .inl rfl, nofun⟩
      | some session =>
          simp only [stored, Option.some.injEq] at stepped
          subst stepped
          refine ⟨.retire .returned, by simp [State.unlock],
            heapGrows_requestClose session rfl (by simp [State.unlock]),
            fun _ => ?_, fun _ => ?_, fun _ => ⟨_, called⟩, nofun, .inl mine,
            nofun, .inl (by simp [State.unlock]), nofun⟩
          · simpa [State.unlock] using set
          · simpa [State.unlock] using set
  | returned => cases stepped

/-- A `retire` that returns in a clean way leaves nothing to close. -/
theorem settled_of_retire_returns {state after : State} {id : CallId}
    {phase : RetirePhase} (guarded : Guarded state)
    (called : state.calls id = some (.retire phase))
    (clean : RetiresCleanly state (.advance id))
    (stepped : state.advanceRetire id phase = some after)
    (returned : after.calls id = some (.retire .returned)) :
    Settled after := by
  cases phase with
  | starting =>
      cases stepped
      simp at returned
  | tryingLock =>
      have set := guarded.flagged id _ called rfl
      simp only [State.advanceRetire] at stepped
      cases held : state.holder with
      | none =>
          simp only [held, Option.some.injEq] at stepped
          subst stepped
          simp at returned
      | some holder =>
          simp only [held, Option.some.injEq] at stepped
          subst stepped
          rcases clean called with free | ⟨told, idle⟩
          · rw [held] at free
            cases free
          · have before : Settled state :=
              ⟨set, told, guarded.storeless held
                fun call found => idle holder call held found⟩
            have moves :
                Moves state (state.setCall id (.retire .returned)) id
                  (.retire .returned) :=
              ⟨rfl, heapGrows_of_eq rfl rfl, fun _ => set, fun _ => set,
                fun _ => ⟨_, called⟩, nofun, .inr (.inr rfl), nofun, .inl rfl, nofun⟩
            exact moves.settled before
  | holding =>
      have mine := guarded.holder id _ called rfl
      have set := guarded.flagged id _ called rfl
      obtain ⟨call, moves⟩ := moves_advanceRetire guarded called stepped
      have storeless :
          ∀ other call, state.calls other = some call →
            call.storing = false := by
        apply guarded.storeless mine
        intro call found
        rw [called] at found
        cases found
        rfl
      simp only [State.advanceRetire] at stepped
      cases stored : state.session with
      | none =>
          apply moves.settled
          refine ⟨set, ?_, storeless⟩
          intro session same
          rw [stored] at same
          cases same
      | some session =>
          simp only [stored, Option.some.injEq] at stepped
          subst stepped
          refine ⟨moves.retired set, ?_, ?_⟩
          · intro other same
            have equal : session = other := by
              simpa [State.unlock, stored] using same
            subst equal
            obtain ⟨view, found⟩ :=
              Option.isSome_iff_exists.mp (guarded.known session stored)
            have changed := State.requestClose_sessions state session session
            rw [if_pos rfl, found] at changed
            exact ⟨_, changed, rfl⟩
          · intro other call found
            rw [State.setCall_calls, Function.update_apply] at found
            by_cases same : other = id
            · rw [if_pos same] at found
              cases found
              rfl
            · rw [if_neg same] at found
              exact storeless other call (by simpa [State.unlock] using found)
  | returned => cases stepped

/-! ## Every action -/

/-- Actions of the environment, and the end of a call that is dropped. -/
structure Surrounds (state after : State) : Prop where
  calls : ∀ id call, after.calls id = some call → state.calls id = some call
  heap : HeapGrows state after
  retired : after.retired = state.retired
  session : after.session = state.session
  holder :
    ∀ id call, after.calls id = some call → state.holder = some id →
      after.holder = some id

theorem Surrounds.guarded {state after : State}
    (surrounds : Surrounds state after) (guarded : Guarded state) :
    Guarded after where
  fresh := surrounds.heap.fresh guarded.fresh
  known session stored := by
    rw [surrounds.session] at stored
    exact surrounds.heap.known session (guarded.known session stored)
  holder id call found holds :=
    surrounds.holder id call found
      (guarded.holder id call (surrounds.calls id call found) holds)
  flagged id call found flagged := by
    rw [surrounds.retired]
    exact guarded.flagged id call (surrounds.calls id call found) flagged

theorem Surrounds.settled {state after : State}
    (surrounds : Surrounds state after) (settled : Settled state) :
    Settled after where
  retired := by rw [surrounds.retired, settled.retired]
  stored session stored := by
    rw [surrounds.session] at stored
    exact surrounds.heap.told session (settled.stored session stored)
  storeless id call found :=
    settled.storeless id call (surrounds.calls id call found)

theorem surrounds_cancel {state after : State} {id : CallId}
    (stepped : state.cancel id = some after) : Surrounds state after := by
  have dropped : after = state.dropCall id := by
    unfold State.cancel at stepped
    cases called : state.calls id with
    | none => simp [called] at stepped
    | some call =>
        simp only [called, Option.ite_none_right_eq_some,
          Option.some.injEq] at stepped
        exact stepped.2.symm
  subst dropped
  refine ⟨?_, heapGrows_of_eq rfl rfl, rfl, rfl, ?_⟩
  · intro other call found
    simp only [State.dropCall, Function.update_apply] at found
    by_cases same : other = id
    · rw [if_pos same] at found
      cases found
    · rw [if_neg same] at found
      exact found
  · intro other call found held
    simp only [State.dropCall, Function.update_apply] at found ⊢
    by_cases same : other = id
    · rw [if_pos same] at found
      cases found
    · have different : state.holder ≠ some id := by
        rw [held]
        intro equal
        exact same (Option.some.inj equal)
      rw [if_neg different, held]

theorem surrounds_applyVipUpdate {state after : State} {session : SessionRef}
    {current : Ipv4Addr}
    (stepped : state.applyVipUpdate session current = some after) :
    Surrounds state after := by
  unfold State.applyVipUpdate at stepped
  cases found : state.sessions session with
  | none => simp [found] at stepped
  | some view =>
      simp only [found] at stepped
      split at stepped
      · cases stepped
        exact ⟨fun _ _ found => found, heapGrows_of_eq rfl rfl, rfl, rfl,
          fun _ _ _ held => held⟩
      · cases stepped
        exact ⟨fun _ _ found => found,
          heapGrows_replace found rfl rfl rfl, rfl, rfl, fun _ _ _ held => held⟩

theorem surrounds_failSession {state after : State} {session : SessionRef}
    (stepped : state.failSession session = some after) :
    Surrounds state after := by
  unfold State.failSession at stepped
  cases found : state.sessions session with
  | none => simp [found] at stepped
  | some view =>
      simp only [found, Option.some.injEq] at stepped
      subst stepped
      exact ⟨fun _ _ found => found,
        heapGrows_replace found rfl rfl rfl, rfl, rfl, fun _ _ _ held => held⟩

theorem moves_advance {state after : State} {id : CallId}
    (guarded : Guarded state) (stepped : state.advance id = some after) :
    ∃ call, Moves state after id call := by
  unfold State.advance at stepped
  split at stepped
  · cases stepped
  · next phase called => exact moves_advanceSession guarded called stepped
  · next phase called =>
      exact moves_advanceCurrentSession guarded called stepped
  · next phase called => exact moves_advanceLastVip guarded called stepped
  · next failed phase called =>
      exact moves_advanceInvalidate guarded called stepped
  · next phase called => exact moves_advanceClose guarded called stepped
  · next phase called => exact moves_advanceRetire guarded called stepped

theorem moves_call (state : State) (request : Request) :
    Moves state
      ({ state with nextCall := state.nextCall + 1 }.setCall state.nextCall
        request.call)
      state.nextCall request.call := by
  refine moves_plain rfl (heapGrows_of_eq rfl rfl) rfl (.inl rfl)
    (.inr (.inr rfl)) ?_ ?_ ?_ ?_
  · cases request <;> nofun
  · cases request <;> rfl
  · cases request <;> nofun
  · cases request <;> nofun

/-- Every action is a step of one call or leaves the calls alone. -/
theorem next_cases {state after : State} {action : Action}
    (guarded : Guarded state) (stepped : next state action = some after) :
    (∃ id call, Moves state after id call) ∨ Surrounds state after := by
  cases action with
  | call request =>
      cases stepped
      exact .inl ⟨_, _, moves_call state request⟩
  | advance id => exact .inl ⟨id, moves_advance guarded stepped⟩
  | establish id result =>
      left
      simp only [next] at stepped
      split at stepped
      · next phase called =>
          exact ⟨id, moves_establish guarded called stepped⟩
      · cases stepped
  | cancel id => exact .inr (surrounds_cancel stepped)
  | updateEndpoints endpoints =>
      cases stepped
      exact .inr ⟨fun _ _ found => found, heapGrows_of_eq rfl rfl, rfl, rfl,
        fun _ _ _ held => held⟩
  | vipUpdate session current => exact .inr (surrounds_applyVipUpdate stepped)
  | sessionFails session => exact .inr (surrounds_failSession stepped)

theorem guarded_next {state after : State} {action : Action}
    (guarded : Guarded state) (stepped : next state action = some after) :
    Guarded after := by
  rcases next_cases guarded stepped with ⟨id, call, moves⟩ | surrounds
  · exact moves.guarded guarded
  · exact surrounds.guarded guarded

theorem settled_next {state after : State} {action : Action}
    (guarded : Guarded state) (settled : Settled state)
    (stepped : next state action = some after) : Settled after := by
  rcases next_cases guarded stepped with ⟨id, call, moves⟩ | surrounds
  · exact moves.settled settled
  · exact surrounds.settled settled

/-- A `retire` that has returned after an action had returned before, or the
action is its last step. -/
theorem retire_returns {state after : State} {action : Action} {id : CallId}
    (guarded : Guarded state) (stepped : next state action = some after)
    (returned : after.calls id = some (.retire .returned)) :
    state.calls id = some (.retire .returned) ∨
      action = .advance id ∧ ∃ phase,
        state.calls id = some (.retire phase) ∧
          state.advanceRetire id phase = some after := by
  have unmoved {other : CallId} {call : Call}
      (moves : Moves state after other call) (different : id ≠ other) :
      state.calls id = some (.retire .returned) := by
    rw [moves.calls, Function.update_of_ne different] at returned
    exact returned
  have moved {call : Call} (moves : Moves state after id call) :
      ∃ phase, state.calls id = some (.retire phase) := by
    rw [moves.calls, Function.update_self] at returned
    cases returned
    exact moves.retires rfl
  cases action with
  | call request =>
      have moves : Moves state after state.nextCall request.call := by
        cases stepped
        exact moves_call state request
      by_cases same : id = state.nextCall
      · rw [moves.calls, same, Function.update_self] at returned
        cases request <;> cases returned
      · exact .inl (unmoved moves same)
  | advance other =>
      obtain ⟨call, moves⟩ := moves_advance guarded stepped
      by_cases same : id = other
      · subst same
        obtain ⟨phase, called⟩ := moved moves
        refine .inr ⟨rfl, phase, called, ?_⟩
        simpa [next, State.advance, called] using stepped
      · exact .inl (unmoved moves same)
  | establish other result =>
      simp only [next] at stepped
      split at stepped
      · next phase called =>
          obtain ⟨call, moves⟩ := moves_establish guarded called stepped
          by_cases same : id = other
          · subst same
            obtain ⟨phase', retiring⟩ := moved moves
            rw [called] at retiring
            cases retiring
          · exact .inl (unmoved moves same)
      · cases stepped
  | cancel other =>
      exact .inl ((surrounds_cancel stepped).calls id _ returned)
  | updateEndpoints endpoints =>
      cases stepped
      exact .inl returned
  | vipUpdate session current =>
      exact .inl ((surrounds_applyVipUpdate stepped).calls id _ returned)
  | sessionFails session =>
      exact .inl ((surrounds_failSession stepped).calls id _ returned)

/-! ## Runs -/

theorem guarded_new (nodeGroupId : String) (endpoints : List L3NodeEndpoint) :
    Guarded (new nodeGroupId endpoints) where
  fresh _ _ := rfl
  known _ stored := by cases stored
  holder _ _ found := by cases found
  flagged _ _ found := by cases found

theorem guarded_of_run {nodeGroupId : String} {endpoints : List L3NodeEndpoint}
    {actions : List Action} {state : State}
    (ran : run next (new nodeGroupId endpoints) actions = some state) :
    Guarded state := by
  apply invariant_of_run Guarded (guarded_new nodeGroupId endpoints) _ ran
  intro state action after guarded stepped
  exact guarded_next guarded stepped

/-- A step that meets the condition keeps it so that behind a `retire` that has
returned nothing is left to close. -/
theorem settled_of_next {state after : State} {action : Action} {id : CallId}
    (guarded : Guarded state)
    (settled :
      ∀ id, state.calls id = some (.retire .returned) → Settled state)
    (clean : RetiresCleanly state action)
    (stepped : next state action = some after)
    (returned : after.calls id = some (.retire .returned)) :
    Settled after := by
  rcases retire_returns guarded stepped returned with
    already | ⟨rfl, phase, called, retired⟩
  · exact settled_next guarded (settled id already) stepped
  · exact settled_of_retire_returns guarded called clean retired returned

theorem settled_of_returned {nodeGroupId : String}
    {endpoints : List L3NodeEndpoint} {actions : List Action} {state : State}
    {id : CallId}
    (meets :
      Meets next RetiresCleanly (new nodeGroupId endpoints) actions)
    (ran : run next (new nodeGroupId endpoints) actions = some state)
    (returned : state.calls id = some (.retire .returned)) :
    Settled state := by
  have invariant :
      Guarded state ∧
        ∀ id, state.calls id = some (.retire .returned) → Settled state := by
    refine invariant_of_meets
      (fun state =>
        Guarded state ∧
          ∀ id, state.calls id = some (.retire .returned) → Settled state)
      ⟨guarded_new nodeGroupId endpoints, ?_⟩ ?_ meets ran
    · intro id found
      cases found
    · intro state action after holds clean stepped
      obtain ⟨guarded, settled⟩ := holds
      exact ⟨guarded_next guarded stepped, fun _ returned =>
        settled_of_next guarded settled clean stepped returned⟩
  exact invariant.2 id returned

/-- A session handed out by one action is the stored one or about to be. -/
theorem handsOut_cases {state after : State} {action : Action} {caller : CallId}
    {session : SessionRef} (guarded : Guarded state)
    (stepped : next state action = some after)
    (handed : after.calls caller = some (.session (.returned (.ok session))))
    (new : state.calls caller ≠ after.calls caller) :
    state.session = some session ∨
      ∃ id call, state.calls id = some call ∧ call.storing := by
  rcases next_cases guarded stepped with ⟨id, call, moves⟩ | surrounds
  · by_cases same : caller = id
    · subst same
      rw [moves.calls, Function.update_self] at handed
      cases handed
      rcases moves.handsOut session rfl with stored | ⟨call, found, storing⟩
      · exact .inl stored
      · exact .inr ⟨caller, call, found, storing⟩
    · rw [moves.calls, Function.update_of_ne same] at new
      exact absurd rfl new
  · have before := surrounds.calls caller _ handed
    rw [before, handed] at new
    exact absurd rfl new

/-- The manager retains only sessions that were told to close, and hands out
no others next. -/
def OnlyTold (state : State) : Prop :=
  (∀ session, state.session = some session → state.told session) ∧
    ∀ action after caller session,
      next state action = some after →
      after.calls caller = some (.session (.returned (.ok session))) →
      state.calls caller ≠ after.calls caller →
      state.told session

theorem Settled.onlyTold {state : State} (settled : Settled state)
    (guarded : Guarded state) : OnlyTold state := by
  refine ⟨settled.stored, ?_⟩
  intro action after caller session stepped handed isNew
  rcases handsOut_cases guarded stepped handed isNew with
    stored | ⟨id, call, found, storing⟩
  · exact settled.stored session stored
  · rw [settled.storeless id call found] at storing
    cases storing

/-- From the moment a `retire` has returned in a run in which each `retire`
finds the lock free, or a stored session that was told to close and a holder
that is not about to store another. -/
theorem onlyTold_of_returned {nodeGroupId : String}
    {endpoints : List L3NodeEndpoint} {before later : List Action}
    {middle final : State} {id : CallId}
    (meets : Meets next RetiresCleanly (new nodeGroupId endpoints) before)
    (ran : run next (new nodeGroupId endpoints) before = some middle)
    (returned : middle.calls id = some (.retire .returned))
    (continued : run next middle later = some final) : OnlyTold final := by
  have guarded : Guarded middle := guarded_of_run ran
  have invariant : Guarded final ∧ Settled final := by
    refine invariant_of_run (fun state => Guarded state ∧ Settled state)
      ⟨guarded, settled_of_returned meets ran returned⟩ ?_ continued
    intro state action after holds stepped
    exact ⟨guarded_next holds.1 stepped,
      settled_next holds.1 holds.2 stepped⟩
  exact invariant.2.onlyTold invariant.1

/-- A session is established at the first endpoint and stored. -/
def establishing (vip : Ipv4Addr) : List Action :=
  [.call .session, .advance 0, .advance 0, .advance 0, .advance 0, .advance 0,
    .establish 0 (.ok vip), .advance 0, .advance 0]

/-- `retire` finds the lock with a call of `current_session` and returns; the
manager retains a session that nobody told to close. -/
theorem retirement_not_final :
    ∃ (middle : State),
      run next (new "office" [⟨"node", 443⟩])
          (establishing ⟨10, 0, 0, 1⟩ ++
            [.call .currentSession, .advance 1, .call .retire, .advance 2,
              .advance 2]) =
        some middle ∧
      middle.calls 2 = some (.retire .returned) ∧
      middle.session = some 0 ∧
      ¬ middle.told 0 := by
  refine ⟨_, rfl, rfl, rfl, ?_⟩
  intro told
  obtain ⟨view, found, isTold⟩ := told
  cases found
  cases isTold

end HermesAtrust.L3.Manager
