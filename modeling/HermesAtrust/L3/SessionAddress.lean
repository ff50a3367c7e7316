import HermesAtrust.L3.FlowKeyText
import HermesAtrust.L3.SessionInvariant

/-!
# State that belongs to the current address

An address update first changes the address, then clears the table, then the
subscriptions.  `subscribe_flow` compares the address while it holds the
subscriber mutex, so nothing slips past the clear.  `authorize_flow` compares
it before it takes the conntrack mutex: a caller that passed the check may
insert its entry after the update has cleared the table.
-/

namespace HermesAtrust.L3

open HermesAtrust.Framing HermesAtrust.Protocol HermesAtrust.Collections

/-- Inside `apply_vip_update`. -/
def ReaderPc.updatingVip : ReaderPc → Bool
  | .vipClear | .vipCount _ | .vipDrain | .vipReset | .vipUnsubscribe => true
  | _ => false

theorem ReaderPc.not_updatingVip_of_plain {position : ReaderPc}
    (plain : position.plain = true) : position.updatingVip = false := by
  cases position <;> first | rfl | cases plain

/-- `shutdown` has not come to the subscriptions. -/
def ShutdownPhase.beforeUnsubscribe : ShutdownPhase → Bool
  | .stopSignal | .unsubscribe => true
  | _ => false

/-- `shutdown` has left the subscriptions behind. -/
def ShutdownPhase.afterUnsubscribe : ShutdownPhase → Bool
  | .clearTable | .countCancelled _ | .drain | .finished => true
  | _ => false

theorem ShutdownPhase.not_before_of_after {phase : ShutdownPhase}
    (ends : phase.afterUnsubscribe = true) :
    phase.beforeUnsubscribe = false := by
  cases phase <;> first | rfl | cases ends

/-- The key is the key of a flow from the address. -/
def FlowKey.From (vip : Ipv4Addr) (key : FlowKey) : Prop :=
  ∃ flow : Ipv4Flow, flow.flowKey = key ∧ flow.srcAddr = vip

namespace Ledger

/-- Somebody is still going to clear the table. -/
def ClearAhead (l : Ledger) : Prop :=
  l.reader = .vipClear ∨ l.shutdown.beforeUnsubscribe = true ∨
    l.shutdown = .clearTable

/-- Somebody is still going to clear the subscriptions. -/
def UnsubscribeAhead (l : Ledger) : Prop :=
  l.reader.updatingVip = true ∨ l.shutdown.beforeUnsubscribe = true

/-- No address update and no shutdown is part-way through. -/
def AtRest (l : Ledger) : Prop :=
  l.reader.updatingVip = false ∧
    (l.shutdown = .running ∨ l.shutdown = .finished)

/-- Entries and subscriptions belong to the current address, unless they are
going to be cleared. -/
structure Addressed (l : Ledger) : Prop where
  entries :
    ∀ authId entry, l.live authId = some entry →
      FlowKey.From l.vip entry.key ∨ l.ClearAhead
  subscriptions :
    ∀ key id, l.side.subscribers.lookup key = some id →
      FlowKey.From l.vip key ∨ l.UnsubscribeAhead
  inserting :
    ∀ flow, l.side.subscribing = some (.insert flow) →
      flow.srcAddr = l.vip ∨ l.UnsubscribeAhead
  ended :
    l.shutdown.afterUnsubscribe = true →
      l.side.subscribing = none ∧
        ∀ key, l.side.subscribers.lookup key = none

end Ledger

/-- A caller that inserts works for the current address, or the table is going
to be cleared. -/
def InsertsCurrent (s : State) : Action → Prop
  | .advance c _ =>
      ∀ request, s.callers c = some ⟨request, .claimInsert⟩ →
        request.flow.srcAddr = s.vip ∨ s.ledger.ClearAhead
  | _ => True

namespace Ledger

section

variable {l l' : Ledger}

namespace Addressed

/-- The table evolves and nothing else. -/
theorem evolve (addressed : Addressed l) {table : ConntrackTable}
    (evolves : Evolves Heir l.table table) :
    Addressed { l with table := table } where
  entries authId changed live := by
    obtain ⟨entry, former, heir⟩ := evolves.continues authId changed live
    rw [heir.key]
    exact addressed.entries authId entry former
  subscriptions := addressed.subscriptions
  inserting := addressed.inserting
  ended := addressed.ended

theorem evolveCalm (addressed : Addressed l) {table : ConntrackTable}
    (evolves : Evolves Calm l.table table) :
    Addressed { l with table := table } :=
  addressed.evolve (evolves.mono fun _ _ calm => calm.toHeir)

/-- Callers, mutex and scheduler do not matter. -/
theorem setTasks (addressed : Addressed l) (tableOwner : Option Nat)
    (callers : Nat → Option Caller) (scheduler : SchedulerPc) :
    Addressed
      { l with
        tableOwner := tableOwner
        callers := callers
        scheduler := scheduler } :=
  ⟨addressed.entries, addressed.subscriptions, addressed.inserting,
    addressed.ended⟩

/-- The reader moves outside an address update. -/
theorem setReader (addressed : Addressed l)
    (outside : l.reader.updatingVip = false) (position : ReaderPc) :
    Addressed { l with reader := position } where
  entries authId entry live := by
    refine (addressed.entries authId entry live).imp_right ?_
    rintro (stands | shutdown)
    · rw [stands] at outside
      cases outside
    · exact Or.inr shutdown
  subscriptions key id held := by
    refine (addressed.subscriptions key id held).imp_right ?_
    rintro (updating | shutdown)
    · rw [outside] at updating
      cases updating
    · exact Or.inr shutdown
  inserting flow stands := by
    refine (addressed.inserting flow stands).imp_right ?_
    rintro (updating | shutdown)
    · rw [outside] at updating
      cases updating
    · exact Or.inr shutdown
  ended := addressed.ended

/-- The reader goes on inside an address update, behind the clear. -/
theorem goOn (addressed : Addressed l) (behind : l.reader ≠ .vipClear)
    {position : ReaderPc} (inside : position.updatingVip = true) :
    Addressed { l with reader := position } where
  entries authId entry live := by
    refine (addressed.entries authId entry live).imp_right ?_
    rintro (stands | shutdown)
    · exact absurd stands behind
    · exact Or.inr shutdown
  subscriptions key id held :=
    (addressed.subscriptions key id held).imp_right fun _ => Or.inl inside
  inserting flow stands :=
    (addressed.inserting flow stands).imp_right fun _ => Or.inl inside
  ended := addressed.ended

theorem beginShutdown (addressed : Addressed l) :
    Addressed l.beginShutdown := by
  unfold Ledger.beginShutdown
  split
  · exact ⟨fun _ _ _ => Or.inr (Or.inr (Or.inl rfl)),
      fun _ _ _ => Or.inr (Or.inr rfl), fun _ _ => Or.inr (Or.inr rfl),
      fun impossible => by cases impossible⟩
  · exact addressed

/-- Nothing is live. -/
theorem clear (addressed : Addressed l) :
    Addressed { l with table := l.table.clear.1 } :=
  addressed.evolveCalm (Evolves.clear _).calm

/-- The shutdown goes on behind the subscriptions. -/
theorem setShutdown (addressed : Addressed l)
    (ends : l.shutdown.afterUnsubscribe = true) {position : ShutdownPhase}
    (entries :
      ∀ authId entry, l.live authId = some entry →
        FlowKey.From l.vip entry.key ∨ l.reader = .vipClear) :
    Addressed { l with shutdown := position } where
  entries authId entry live := (entries authId entry live).imp_right Or.inl
  subscriptions key id held := by
    have none_ := (addressed.ended ends).2 key
    rw [show l.side.subscribers.lookup key = _ from held] at none_
    cases none_
  inserting flow stands := by
    have none_ := (addressed.ended ends).1
    rw [show l.side.subscribing = _ from stands] at none_
    cases none_
  ended _ := addressed.ended ends

/-- Behind the clear of the shutdown only an address update clears. -/
theorem entries_of_cleared (addressed : Addressed l)
    (ends : l.shutdown.afterUnsubscribe = true)
    (cleared : l.shutdown ≠ .clearTable) (authId : Nat)
    (entry : ConntrackEntry) (live : l.live authId = some entry) :
    FlowKey.From l.vip entry.key ∨ l.reader = .vipClear := by
  refine (addressed.entries authId entry live).imp_right ?_
  rintro (clears | before | clears)
  · exact clears
  · rw [ShutdownPhase.not_before_of_after ends] at before
    cases before
  · exact absurd clears cleared

/-- What the writer does. -/
theorem setWriter (addressed : Addressed l) {side : Periphery}
    (subscribers : side.subscribers = l.side.subscribers)
    (subscribing : side.subscribing = l.side.subscribing) :
    Addressed { l with side := side } where
  entries := addressed.entries
  subscriptions key id held := by
    refine addressed.subscriptions key id ?_
    rw [← subscribers]
    exact held
  inserting flow stands := by
    refine addressed.inserting flow ?_
    rw [← subscribing]
    exact stands
  ended ends := by
    change side.subscribing = none ∧ ∀ key, side.subscribers.lookup key = none
    rw [subscribers, subscribing]
    exact addressed.ended ends

/-- Every step beside the table keeps the invariant. -/
theorem sideStep (addressed : Addressed l) {action : Action}
    {side : Periphery} (moves : SideStep l action side) :
    Addressed { l with side := side } := by
  cases moves with
  | subscribe running free =>
      refine ⟨addressed.entries, addressed.subscriptions, ?_, ?_⟩
      · intro flow stands
        cases stands
      · intro ends
        rw [running] at ends
        cases ends
  | subscriberLeft =>
      refine ⟨addressed.entries, addressed.subscriptions, ?_, ?_⟩
      · intro flow stands
        cases stands
      · intro ends
        exact ⟨rfl, (addressed.ended ends).2⟩
  | subscriberChecked stands own =>
      refine ⟨addressed.entries, addressed.subscriptions, ?_, ?_⟩
      · intro flow inserts
        cases inserts
        exact Or.inl own
      · intro ends
        rw [(addressed.ended ends).1] at stands
        cases stands
  | subscriberInserted stands =>
      rename_i flow id
      refine ⟨addressed.entries, ?_, ?_, ?_⟩
      · intro key found held
        rw [HashTable.lookup_insert_eq_if] at held
        split at held
        · rename_i same
          subst key
          exact (addressed.inserting flow stands).imp_left fun own =>
            ⟨flow, rfl, own⟩
        · exact addressed.subscriptions key found held
      · intro other impossible
        cases impossible
      · intro ends
        rw [(addressed.ended ends).1] at stands
        cases stands
  | flowPacketsDropped =>
      rename_i dropped id
      have kept :
          ∀ key found,
            (l.side.subscribers.erase dropped).lookup key = some found →
            l.side.subscribers.lookup key = some found := by
        intro key found held
        by_cases same : key = dropped
        · subst key
          rw [AList.lookup_erase] at held
          cases held
        · rwa [AList.lookup_erase_ne same] at held
      refine ⟨addressed.entries, ?_, addressed.inserting, ?_⟩
      · intro key found held
        exact addressed.subscriptions key found (kept key found held)
      · intro ends
        refine ⟨(addressed.ended ends).1, ?_⟩
        intro key
        cases held : (l.side.subscribers.erase dropped).lookup key with
        | none => rfl
        | some found =>
            have before := (addressed.ended ends).2 key
            rw [kept key found held] at before
            cases before
  | _ => exact addressed.setWriter rfl rfl

/-- A caller registers with an entry for the current address. -/
theorem register (addressed : Addressed l) {table : ConntrackTable}
    {request : AuthRequest} {authId : Nat} {mustSend : Bool}
    {entry : ConntrackEntry}
    (registers : Registers l.table table request authId mustSend entry)
    (current : request.flow.srcAddr = l.vip ∨ l.ClearAhead) :
    Addressed { l with table := table } where
  entries other found live := by
    by_cases same : other = authId
    · subst other
      have isEntry := Option.some.inj (registers.stored.symm.trans live)
      subst found
      exact current.imp_left fun own =>
        ⟨request.flow, registers.own.key.symm, own⟩
    · exact addressed.entries other found
        ((registers.others other same).symm.trans live)
  subscriptions := addressed.subscriptions
  inserting := addressed.inserting
  ended := addressed.ended

/-- Every step of another task keeps the invariant. -/
theorem taskStep {cfg : SessionConfig} {action : Action}
    (addressed : Addressed l) (sound : Sound l)
    (step : TaskStep cfg l action l') : Addressed l' := by
  have wf := sound.wellFormed
  cases step with
  | side moves => exact addressed.sideStep moves
  | authorizeFlow fresh => exact addressed.setTasks _ _ _
  | settled free idle applied verdict =>
      exact (addressed.evolve
        (Evolves.applyAuthWireStatus wf applied)).setReader
          (by rw [idle]; rfl) _
  | applied free idle applied verdict =>
      exact addressed.evolve (Evolves.applyAuthWireStatus wf applied)
  | exhausted message free idle live unsettled =>
      exact (addressed.evolve (Evolves.complete wf _ _)).setReader
        (by rw [idle]; rfl) _
  | scheduled enabled free idle plain =>
      exact (addressed.evolveCalm (Evolves.scheduleRetry wf _ _)).setReader
        (by rw [idle]; rfl) _
  | vipChanged idle accepted found changed =>
      exact ⟨fun _ _ _ => Or.inr (Or.inl rfl),
        fun _ _ _ => Or.inr (Or.inl rfl), fun _ _ => Or.inr (Or.inl rfl),
        addressed.ended⟩
  | readerMove plain plain' =>
      exact addressed.setReader (ReaderPc.not_updatingVip_of_plain plain) _
  | readerSettle stands => exact addressed.setReader (by rw [stands]; rfl) _
  | readerNotify stands =>
      rename_i authId outcome
      have woken :=
        addressed.setTasks l.tableOwner
          (l.wake (· == authId) (.sent outcome)).callers l.scheduler
      exact woken.setReader (by rw [stands]; rfl) _
  | retryFailed free stands verdict =>
      exact (addressed.evolve (Evolves.complete wf _ _)).setReader
        (by rw [stands]; rfl) _
  | vipClear cancelled free stands =>
      refine ⟨?_, ?_, ?_, addressed.ended⟩
      · intro authId entry live
        simp [Ledger.live] at live
      · exact fun _ _ _ => Or.inr (Or.inl rfl)
      · exact fun _ _ => Or.inr (Or.inl rfl)
  | vipCount stands => exact addressed.goOn (by simp [stands]) rfl
  | vipDrain stands =>
      have drained :=
        addressed.setTasks l.tableOwner
          (l.wake (fun _ => true) .dropped).callers l.scheduler
      exact drained.goOn (by simp [stands]) rfl
  | vipReset stands => exact addressed.goOn (by simp [stands]) rfl
  | vipUnsubscribe stands free =>
      refine ⟨?_, ?_, ?_, ?_⟩
      · intro authId entry live
        refine (addressed.entries authId entry live).imp_right ?_
        rintro (clears | shutdown)
        · rw [stands] at clears
          cases clears
        · exact Or.inr shutdown
      · intro key id held
        simp [Periphery.unsubscribeAll, AList.lookup_empty] at held
      · intro flow inserts
        rw [show l.side.subscribing = _ from inserts] at free
        cases free
      · intro ends
        refine ⟨free, ?_⟩
        intro key
        simp [Periphery.unsubscribeAll, AList.lookup_empty]
  | touch free stands touched =>
      exact (addressed.evolveCalm (Evolves.touched wf touched).calm).setReader
        (by rw [stands]; rfl) _
  | readerStop stands =>
      have begun := addressed.beginShutdown
      obtain ⟨shutdown, same⟩ := l.beginShutdown_eq
      rw [same] at begun ⊢
      exact begun.setReader (by rw [stands]; rfl) .stopped
  | schedulerMove plain plain' quiet => exact addressed.setTasks _ _ _
  | retryQueued stands =>
      exact (addressed.setTasks l.tableOwner l.callers
        .awaitWrite).setWriter rfl rfl
  | schedulerClosing stands => exact addressed.beginShutdown.setTasks _ _ _
  | deadlineExceeded message free stands live =>
      exact (addressed.evolveCalm (Evolves.fail wf _ _)).setTasks _ _ _
  | retryTaken free stands live taken =>
      exact (addressed.evolveCalm (Evolves.takeRetry wf _)).setTasks _ _ _
  | retryVoid free stands live taken =>
      exact (addressed.evolveCalm (Evolves.takeRetry wf _)).setTasks _ _ _
  | outcomeFound free stands verdict => exact addressed.setTasks _ _ _
  | outcomeMissing free stands verdict => exact addressed.setTasks _ _ _
  | schedulerSettle stands => exact addressed.setTasks _ _ _
  | schedulerNotify stands => exact addressed.setTasks _ _ _
  | writerClosing =>
      refine addressed.beginShutdown.setWriter ?_ ?_
      · rw [l.beginShutdown_side]
        rfl
      · rw [l.beginShutdown_side]
        rfl
  | close => exact addressed.beginShutdown
  | stopSignal stands =>
      exact ⟨fun _ _ _ => Or.inr (Or.inr (Or.inl rfl)),
        fun _ _ _ => Or.inr (Or.inr rfl), fun _ _ => Or.inr (Or.inr rfl),
        fun impossible => by cases impossible⟩
  | unsubscribe stands free =>
      refine ⟨fun _ _ _ => Or.inr (Or.inr (Or.inr rfl)), ?_, ?_, ?_⟩
      · intro key id held
        simp [Periphery.unsubscribeAll, AList.lookup_empty] at held
      · intro flow inserts
        rw [show l.side.subscribing = _ from inserts] at free
        cases free
      · intro _
        refine ⟨free, ?_⟩
        intro key
        simp [Periphery.unsubscribeAll, AList.lookup_empty]
  | clearTable cancelled free stands =>
      refine addressed.clear.setShutdown (by rw [stands]; rfl) ?_
      intro authId entry live
      simp [Ledger.live] at live
  | countCancelled stands =>
      exact addressed.setShutdown (by rw [stands]; rfl)
        (addressed.entries_of_cleared (by rw [stands]; rfl) (by simp [stands]))
  | drain stands =>
      have drained :=
        addressed.setTasks l.tableOwner
          (l.wake (fun _ => true) .dropped).callers l.scheduler
      exact drained.setShutdown (by rw [stands]; rfl)
        (drained.entries_of_cleared (by rw [stands]; rfl) (by simp [stands]))

end Addressed

end

section

variable {cfg : SessionConfig} {s s' : State} {c : Nat}
  {request : AuthRequest} {phase : CallerPhase} {action : Action}

namespace Addressed

private theorem claimFlow (addressed : Addressed s.ledger)
    (sound : Sound s.ledger) (order : IterationOrder ConntrackEntry) :
    Addressed (s.claimFlow order c request).ledger := by
  obtain ⟨table, gone, position, claimed, -, effect⟩ :=
    claimFlow_effect sound.wellFormed order c request
  rw [effect]
  exact (addressed.evolveCalm claimed.evolves.calm).setTasks _ _ _

/-- A step of a caller that inserts for the current address. -/
theorem callerStep (addressed : Addressed s.ledger) (sound : Sound s.ledger)
    (inserts : InsertsCurrent s action)
    (present : s.ledger.InPhase c request phase)
    (step : CallerStep cfg s c request action phase s') :
    Addressed s'.ledger := by
  have wf := sound.wellFormed
  cases step with
  | claim free => exact claimFlow addressed sound _
  | insert room =>
      have own := (sound.claiming c request _ present rfl).2
      rcases insertFlow_cases (c := c) wf room own with
        ⟨entry, outcome, table, -, -, -, evolves, -, effect⟩ |
        ⟨entry, authId, mustSend, table, registers, effect⟩
      · rw [effect]
        exact (addressed.evolveCalm evolves.calm).setTasks _ _ _
      · rw [effect]
        exact (addressed.register registers
          (inserts request present)).setTasks _ _ _
  | storeFrame stands free =>
      exact (addressed.evolveCalm
        (Evolves.storeFrame wf _ _ _)).setTasks _ _ _
  | abandonEvict stands free =>
      exact (addressed.evolveCalm
        (Evolves.evictByAuthId wf _).calm).setTasks _ _ _
  | enqueue stands =>
      exact (addressed.setTasks _ _ _).setWriter rfl rfl
  | _ => exact addressed.setTasks _ _ _

/-- The invariant holds along runs that insert for the current address. -/
theorem run {vip : Ipv4Addr} {now : Nat} {actions : List Action}
    (inserts :
      Concurrency.Meets (next cfg) InsertsCurrent (State.initial vip now)
        actions)
    (ran :
      Concurrency.run (next cfg) (State.initial vip now) actions = some s) :
    Addressed s.ledger := by
  refine invariant_of_steps (fun t => Addressed t.ledger) ⟨?_, ?_, ?_, ?_⟩ ?_
    ?_ inserts ran
  · intro authId entry live
    cases live
  · intro key id held
    cases held
  · intro flow stands
    cases stands
  · intro ends
    cases ends
  · intro t after action c request phase sound addressed current present step
    exact addressed.callerStep sound current present step
  · intro t after action sound addressed _ step
    exact addressed.taskStep sound step

end Addressed

end

end Ledger

/-- In a run whose callers insert for the current address, whenever no address
update and no shutdown is part-way through, every entry and every subscription
has the current address, and a closed session has no subscription. -/
theorem atRest_addressed {cfg : SessionConfig} {vip : Ipv4Addr} {now : Nat}
    {actions : List Action} {s : State}
    (inserts :
      Concurrency.Meets (next cfg) InsertsCurrent (State.initial vip now)
        actions)
    (ran :
      Concurrency.run (next cfg) (State.initial vip now) actions = some s)
    (rest : s.ledger.AtRest) :
    (∀ key entry, s.table.byKey.lookup key = some entry →
        FlowKey.From s.vip key) ∧
      (∀ key id, s.subscribers.lookup key = some id →
        FlowKey.From s.vip key) ∧
      (s.closed = true → ∀ key, s.subscribers.lookup key = none) := by
  have addressed := Ledger.Addressed.run inserts ran
  have wf : s.table.WellFormed := (Sound.run ran).wellFormed
  obtain ⟨outside, ended⟩ := rest
  have quiet : s.ledger.shutdown.beforeUnsubscribe = false := by
    rcases ended with stands | stands <;> rw [stands] <;> rfl
  have noUnsubscribe : ¬ s.ledger.UnsubscribeAhead := by
    simp [Ledger.UnsubscribeAhead, outside, quiet]
  refine ⟨?_, ?_, ?_⟩
  · intro key entry held
    have live := ConntrackTable.getByAuthId_of_lookup wf held
    rw [← wf.stored_key key entry held]
    refine (addressed.entries entry.authId entry live).resolve_right ?_
    rintro (clears | before | clears)
    · rw [clears] at outside
      cases outside
    · rw [quiet] at before
      cases before
    · rcases ended with stands | stands <;> rw [stands] at clears <;>
        cases clears
  · intro key id held
    exact (addressed.subscriptions key id held).resolve_right noUnsubscribe
  · intro closed
    refine (addressed.ended ?_).2
    rcases ended with stands | stands
    · exact absurd stands (State.closed_iff.mp closed)
    · rw [stands]
      rfl

namespace Sample

/-- Callers insert for the current address. -/
def current (s : State) : Action → Bool
  | .advance c _ =>
      match s.callers c with
      | some ⟨request, .claimInsert⟩ => request.flow.srcAddr == s.vip
      | _ => true
  | _ => true

theorem insertsCurrent_of_current {s : State} {action : Action}
    (current : Sample.current s action = true) : InsertsCurrent s action := by
  cases action with
  | advance c order =>
      intro request stands
      simp only [Sample.current, stands, beq_iff_eq] at current
      exact Or.inl current
  | _ => trivial

/-- A flow from the address after the update. -/
def movedFlow : Ipv4Flow := ⟨.tcp, otherVip, 40000, ⟨10, 0, 0, 9⟩, 443⟩

def movedRequest : AuthRequest := ⟨context, "app-1", "group-1", movedFlow⟩

/-- An entry and a subscription before an address update, and another of each
behind it. -/
def moved : List Action :=
  [.authorizeFlow 0 request] ++ advances 0 4 ++
    [.subscribeFlow flow, .subscriber, .subscriber,
      .receive (.vipUpdate 0 vipJson)] ++
    List.replicate 5 .reader ++ [.authorizeFlow 1 movedRequest] ++
    advances 1 4 ++ [.subscribeFlow movedFlow, .subscriber, .subscriber]

end Sample

/-- Only the entry and the subscription of the new address are left. -/
theorem atRest_addressed_sample :
    ∃ s,
      Concurrency.run (next (Sample.config .disabled))
          (State.initial Sample.vip 0) Sample.moved = some s ∧
        (s.table.byKey.lookup Sample.request.key).isNone = true ∧
        s.subscribers.lookup Sample.flow.flowKey = none ∧
        (s.table.byKey.lookup Sample.movedRequest.key).isSome = true ∧
        s.subscribers.lookup Sample.movedFlow.flowKey = some 2 ∧
        FlowKey.From s.vip Sample.movedRequest.key := by
  have current :
      Concurrency.Meets (next (Sample.config .disabled))
        (fun s action => Sample.current s action = true)
        (State.initial Sample.vip 0) Sample.moved := by
    decide +kernel
  apply Concurrency.exists_of_view
    (fun s =>
      ((s.reader, s.shutdown),
        (((s.table.byKey.lookup Sample.request.key).isNone,
            s.subscribers.lookup Sample.flow.flowKey),
          ((s.table.byKey.lookup Sample.movedRequest.key).isSome,
            s.subscribers.lookup Sample.movedFlow.flowKey))))
    ((.idle, .running), ((true, none), (true, some 2))) (by decide +kernel)
  intro s ran seen
  obtain ⟨tasks, stored⟩ := Prod.mk.inj seen
  obtain ⟨reader, shutdown⟩ := Prod.mk.inj tasks
  obtain ⟨⟨gone, dropped⟩, listed, subscribed⟩ :=
    And.imp Prod.mk.inj Prod.mk.inj (Prod.mk.inj stored)
  have rest : s.ledger.AtRest := by
    refine ⟨?_, Or.inl shutdown⟩
    change s.reader.updatingVip = false
    rw [reader]
    rfl
  have inserts :=
    Concurrency.meets_mono (fun _ _ => Sample.insertsCurrent_of_current)
      current
  obtain ⟨entry, held⟩ := Option.isSome_iff_exists.mp listed
  exact ⟨gone, dropped, listed, subscribed,
    (atRest_addressed inserts ran rest).1 _ entry held⟩

/-- The caller passes the address check, then the address changes and the table
is cleared, then the caller inserts its entry for the old address. -/
theorem stale_entry_after_update :
    ¬ ∀ (cfg : SessionConfig) (vip : Ipv4Addr) (now : Nat)
      (actions : List Action) (s : State),
      Concurrency.run (next cfg) (State.initial vip now) actions = some s →
      s.ledger.AtRest →
      ∀ key entry, s.table.byKey.lookup key = some entry →
        FlowKey.From s.vip key := by
  intro claim
  have shows :
      (Concurrency.run (next (Sample.config .disabled))
          (State.initial Sample.vip 0)
          (Action.authorizeFlow 0 Sample.request :: Sample.advances 0 2 ++
            Action.receive (.vipUpdate 0 Sample.vipJson) ::
              List.replicate 5 Action.reader ++ Sample.advances 0 2)).map
          (fun s =>
            ((s.reader, s.shutdown),
              (s.vip, (s.table.byKey.lookup Sample.request.key).isSome))) =
        some ((.idle, .running), (Sample.otherVip, true)) := by
    decide +kernel
  obtain ⟨s, ran, seen⟩ := Option.map_eq_some_iff.mp shows
  obtain ⟨tasks, stored⟩ := Prod.mk.inj seen
  obtain ⟨reader, shutdown⟩ := Prod.mk.inj tasks
  obtain ⟨current, listed⟩ := Prod.mk.inj stored
  obtain ⟨entry, held⟩ := Option.isSome_iff_exists.mp listed
  have rest : s.ledger.AtRest := by
    refine ⟨?_, Or.inl shutdown⟩
    change s.reader.updatingVip = false
    rw [reader]
    rfl
  obtain ⟨flow, sameKey, source⟩ := claim _ _ _ _ s ran rest _ entry held
  have sameFlow : flow = Sample.flow := Ipv4Flow.eq_of_flowKey_eq sameKey
  rw [sameFlow, current] at source
  exact absurd source (by decide)

end HermesAtrust.L3
