import HermesAtrust.L3.SessionLaws

/-!
# The packet subscriptions of a session

Who may change the subscriptions: `subscribe_flow` adds one, the end of a
`FlowPackets` takes one away, and an address update and the shutdown clear them.
-/

namespace HermesAtrust.L3

open HermesAtrust.Framing HermesAtrust.Protocol HermesAtrust.Collections

/-- The step adds no subscription, and takes none away or all. -/
structure KeepsSubscriptions (s s' : State) : Prop where
  nextSubscriber : s'.nextSubscriber = s.nextSubscriber
  subscribers : s'.subscribers = s.subscribers ∨ s'.subscribers = ∅
  closed : s.closed = true → s'.closed = true

namespace KeepsSubscriptions

variable {cfg : SessionConfig} {s s' : State}

theorem of_eq (nextSubscriber : s'.nextSubscriber = s.nextSubscriber)
    (subscribers : s'.subscribers = s.subscribers)
    (shutdown : s'.shutdown = s.shutdown) : KeepsSubscriptions s s' where
  nextSubscriber := nextSubscriber
  subscribers := .inl subscribers
  closed isClosed := by
    unfold State.closed at isClosed ⊢
    rw [shutdown]
    exact isClosed

theorem same : KeepsSubscriptions s s :=
  of_eq rfl rfl rfl

theorem trans {middle : State} (first : KeepsSubscriptions s middle)
    (second : KeepsSubscriptions middle s') : KeepsSubscriptions s s' where
  nextSubscriber := second.nextSubscriber.trans first.nextSubscriber
  subscribers := by
    rcases second.subscribers with kept | cleared
    · rw [kept]
      exact first.subscribers
    · exact .inr cleared
  closed isClosed := second.closed (first.closed isClosed)

theorem beginShutdown (executor : ShutdownBy) :
    KeepsSubscriptions s (s.beginShutdown executor) where
  nextSubscriber := by
    unfold State.beginShutdown
    split <;> rfl
  subscribers := by
    unfold State.beginShutdown
    split <;> exact .inl rfl
  closed isClosed := by
    unfold State.beginShutdown
    split
    · rfl
    · exact isClosed

theorem failFrames (frames : List OutboundFrame) :
    KeepsSubscriptions s (s.failFrames frames) := by
  unfold State.failFrames
  induction frames generalizing s with
  | nil => exact same
  | cons frame later inductionHypothesis =>
      have first : KeepsSubscriptions s
          (s.acknowledge frame.written .failed) := by
        cases frame.written <;> exact of_eq rfl rfl rfl
      exact first.trans inductionHypothesis

theorem callerStep {c : Nat} {request : AuthRequest} {action : Action}
    {phase : CallerPhase} (step : CallerStep cfg s c request action phase s') :
    KeepsSubscriptions s s' := by
  cases step with
  | claim free =>
      unfold State.claimFlow
      dsimp only
      split <;> exact of_eq rfl rfl rfl
  | insert room =>
      unfold State.insertFlow
      dsimp only
      split
      · exact same
      · split <;> exact of_eq rfl rfl rfl
  | _ => exact of_eq rfl rfl rfl

theorem dispatch {frame : Inbound}
    (stepped : s.dispatch cfg frame = some s') : KeepsSubscriptions s s' := by
  have settled : ∀ (t : State) (status : UInt8) (json : Bytes),
      KeepsSubscriptions s t →
      KeepsSubscriptions s (t.dispatchSettled cfg status json) := by
    intro t status json keeps
    unfold State.dispatchSettled
    split
    · exact keeps
    · split <;> exact ⟨keeps.nextSubscriber, keeps.subscribers, keeps.closed⟩
  have transient : ∀ (t : State) (delay : Nat) (json : Bytes),
      KeepsSubscriptions s t →
      KeepsSubscriptions s (t.dispatchTransient cfg delay json) := by
    intro t delay json keeps
    unfold State.dispatchTransient
    split
    · exact keeps
    · simp only
      split
      · exact keeps
      · split
        · exact keeps
        · split
          · exact keeps
          · split <;>
              exact ⟨keeps.nextSubscriber, keeps.subscribers, keeps.closed⟩
  unfold State.dispatch at stepped
  split at stepped
  · split at stepped
    · cases stepped
      unfold State.dispatchAuth
      split
      · split
        · exact transient _ _ _ (of_eq rfl rfl rfl)
        · exact settled _ _ _ (of_eq rfl rfl rfl)
      · split
        · exact transient _ _ _ (of_eq rfl rfl rfl)
        · exact settled _ _ _ (of_eq rfl rfl rfl)
      · exact settled _ _ _ same
    · cases stepped
  · split at stepped
    · cases stepped
      exact same
    · split at stepped
      · cases stepped
        exact same
      · cases stepped
        unfold State.applyVipUpdate
        split
        · exact same
        · exact of_eq rfl rfl rfl
  · cases stepped
    exact of_eq rfl rfl rfl
  · cases stepped
    exact of_eq rfl rfl rfl
  · cases stepped
    exact same

theorem reader (stepped : s.advanceReader = some s') :
    KeepsSubscriptions s s' := by
  simp only [State.advanceReader] at stepped
  repeat' split at stepped
  all_goals first
    | cases stepped
      exact of_eq rfl rfl rfl
    | cases stepped
      exact ⟨rfl, .inr rfl, fun isClosed => isClosed⟩
    | cases stepped

theorem scheduler (stepped : s.advanceScheduler = some s') :
    KeepsSubscriptions s s' := by
  simp only [State.advanceScheduler] at stepped
  repeat' split at stepped
  all_goals first
    | cases stepped
      exact of_eq rfl rfl rfl
    | cases stepped
      exact (beginShutdown _).trans (of_eq rfl rfl rfl)
    | cases stepped

theorem acknowledge (target : AckTarget) (ack : Ack) :
    KeepsSubscriptions s (s.acknowledge target ack) := by
  cases target <;> exact of_eq rfl rfl rfl

theorem writer {result : WriteResult}
    (stepped : s.advanceWriter result = some s') :
    KeepsSubscriptions s s' := by
  simp only [State.advanceWriter] at stepped
  repeat' split at stepped
  all_goals first
    | cases stepped
      exact of_eq rfl rfl rfl
    | cases stepped
      exact (acknowledge _ _).trans (of_eq rfl rfl rfl)
    | cases stepped
      exact (beginShutdown _).trans (of_eq rfl rfl rfl)
    | cases stepped
      exact (failFrames _).trans (of_eq rfl rfl rfl)
    | cases stepped

theorem shutdown (stepped : s.advanceShutdown = some s') :
    KeepsSubscriptions s s' := by
  simp only [State.advanceShutdown] at stepped
  repeat' split at stepped
  all_goals first
    | cases stepped
      exact ⟨rfl, .inl rfl, fun _ => rfl⟩
    | cases stepped
      exact ⟨rfl, .inr rfl, fun _ => rfl⟩
    | cases stepped

/-- Only `subscribe_flow` and the end of a `FlowPackets` change single
subscriptions. -/
theorem of_next {action : Action} (stepped : next cfg s action = some s')
    (notSubscriber : action ≠ .subscriber)
    (notDropped : ∀ key id, action ≠ .dropFlowPackets key id) :
    KeepsSubscriptions s s' := by
  cases action with
  | authorizeFlow c request =>
      simp only [next] at stepped
      split at stepped
      · cases stepped
        exact of_eq rfl rfl rfl
      · cases stepped
  | advance c order =>
      obtain ⟨⟨request, phase⟩, -, moved⟩ := Option.bind_eq_some_iff.mp stepped
      have step := callerStep_of_advanceCaller moved
      exact callerStep step
  | expire c =>
      obtain ⟨⟨request, phase⟩, -, moved⟩ := Option.bind_eq_some_iff.mp stepped
      have step : CallerStep cfg s c request (.expire c) phase s' :=
        callerStep_of_expire moved
      exact callerStep step
  | cancel c =>
      obtain ⟨⟨request, phase⟩, -, moved⟩ := Option.bind_eq_some_iff.mp stepped
      have step : CallerStep cfg s c request (.cancel c) phase s' :=
        callerStep_of_cancel moved
      exact callerStep step
  | receive frame =>
      simp only [next] at stepped
      split at stepped
      · exact dispatch stepped
      · cases stepped
  | reader => exact reader stepped
  | readerStop =>
      simp only [next] at stepped
      split at stepped
      · cases stepped
        exact (beginShutdown _).trans (of_eq rfl rfl rfl)
      · cases stepped
  | scheduler => exact scheduler stepped
  | writer result => exact writer stepped
  | close =>
      cases stepped
      exact beginShutdown _
  | shutdown => exact shutdown stepped
  | subscribeFlow flow =>
      simp only [next] at stepped
      split at stepped
      · cases stepped
        split
        · exact same
        · exact of_eq rfl rfl rfl
      · cases stepped
  | subscriber => exact absurd rfl notSubscriber
  | dropFlowPackets key id => exact absurd rfl (notDropped key id)
  | enqueueOther bytes =>
      simp only [next] at stepped
      split at stepped
      · cases stepped
        exact of_eq rfl rfl rfl
      · cases stepped
  | tick duration =>
      cases stepped
      exact of_eq rfl rfl rfl

end KeepsSubscriptions

/-- `subscribe_flow` ends with an error or puts a new subscription under a key
that had none. -/
theorem subscriber_cases {s s' : State}
    (stepped : s.advanceSubscriber = some s') :
    (s'.subscribers = s.subscribers ∧
        s'.nextSubscriber = s.nextSubscriber ∧ s'.shutdown = s.shutdown ∧
        ∀ flow, s.subscribing = some (.insert flow) →
          (s.subscribers.lookup flow.flowKey).isSome) ∨
      ∃ flow, s.subscribing = some (.insert flow) ∧
        s.subscribers.lookup flow.flowKey = none ∧
        s' =
          { s with
            subscribers := s.subscribers.insert flow.flowKey s.nextSubscriber
            nextSubscriber := s.nextSubscriber + 1
            subscribing := none } := by
  unfold State.advanceSubscriber at stepped
  split at stepped
  · cases stepped
  · rename_i checked stands
    left
    split at stepped
    · cases stepped
      refine ⟨rfl, rfl, rfl, ?_⟩
      intro flow inserting
      rw [stands] at inserting
      cases inserting
    · cases stepped
      refine ⟨rfl, rfl, rfl, ?_⟩
      intro flow inserting
      rw [stands] at inserting
      cases inserting
  · rename_i inserted stands
    split at stepped
    · rename_i taken
      cases stepped
      refine .inl ⟨rfl, rfl, rfl, ?_⟩
      intro flow inserting
      rw [stands] at inserting
      cases inserting
      exact taken
    · rename_i free
      cases stepped
      exact .inr ⟨inserted, stands, by simpa using free, rfl⟩

end HermesAtrust.L3
