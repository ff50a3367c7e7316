import HermesAtrust.L3.SessionSettlements

/-!
# Callers and the split of the recorded ids

What a step of `authorize_flow` does to the split of the recorded ids into
settled, cancelled, owed and open ones: the sender records its request, evicts
its entry and counts its timeout, a claim cancels the attempt it replaces, and
every other step leaves the split as it is.
-/

namespace HermesAtrust.L3

open HermesAtrust.Framing HermesAtrust.Protocol HermesAtrust.Collections

/-! ## Steps of registered callers -/

namespace Accounted

variable {recorded settled cancelled : List Nat} {cfg : SessionConfig}
  {l l' : Ledger} {c : Nat} {request : AuthRequest}
  {attempt changed : Attempt}

/-- Only the sender of an id has to end its attempt. -/
private theorem lone (accounted : Accounted recorded settled cancelled l)
    (rationed : Rationed cfg l) (present : l.Attempting c request attempt)
    (licensed : attempt.mustSend = true) {d : Nat} {request' : AuthRequest}
    {other : Attempt} (different : d ≠ c)
    (stands : l.Attempting d request' other)
    (sameId : other.authId = attempt.authId) :
    other.progress ≠ .unrecorded ∧ other.progress ≠ .owing ∧
      (l.table.Flying attempt.authId → other.progress ≠ .expiring) := by
  have placed := accounted.placed d request' other stands
  have unlicensed : other.mustSend ≠ true := by
    intro alsoLicensed
    apply different
    exact rationed.sole d c request' request attempt.authId
      ⟨other, stands, sameId, alsoLicensed⟩ ⟨attempt, present, rfl, licensed⟩
  refine ⟨?_, ?_, ?_⟩
  · intro stage
    exact unlicensed (placed.unrecorded stage).1
  · intro stage
    exact unlicensed (placed.owing stage)
  · intro flies stage
    rw [← sameId] at flies
    exact unlicensed ((placed.expiring stage).2.mpr flies)

/-- What the step of one caller changes in the timeouts that are owed. -/
private theorem indicator_owing
    (accounted : Accounted recorded settled cancelled l)
    (rationed : Rationed cfg l) (present : l.Attempting c request attempt)
    (moved : l'.Attempting c request changed)
    (sameId : changed.authId = attempt.authId)
    (sameLicence : changed.mustSend = attempt.mustSend)
    (same : SameAttempts (· = c) l l')
    (licence : changed.progress = .owing → changed.mustSend = true)
    (authId : Nat) :
    indicator (l'.Holds .owing authId) +
        indicator (attempt.authId = authId ∧ attempt.progress = .owing) =
      indicator (l.Holds .owing authId) +
        indicator (attempt.authId = authId ∧ changed.progress = .owing) := by
  rw [Ledger.holds_iff_beside present, Ledger.holds_iff_beside moved,
    Ledger.holdsBeside_iff_of_same same, sameId]
  by_cases isId : attempt.authId = authId
  · by_cases beside : l.HoldsBeside c .owing authId
    · have unlicensed : attempt.mustSend ≠ true := by
        intro licensed
        obtain ⟨d, request', other, different, stands, stage, otherId⟩ :=
          beside
        exact (accounted.lone rationed present licensed different stands
          (otherId.trans isId.symm)).2.1 stage
      have before : attempt.progress ≠ .owing :=
        fun stage => unlicensed
          ((accounted.placed c request attempt present).owing stage)
      have after : changed.progress ≠ .owing :=
        fun stage => unlicensed (sameLicence.symm.trans (licence stage))
      rw [indicator_of (Or.inl beside), indicator_of (Or.inl beside),
        indicator_of_not fun both => before both.2,
        indicator_of_not fun both => after both.2]
    · simp only [beside, false_or, isId, true_and, and_true]
      exact Nat.add_comm _ _
  · simp only [isId, and_false, or_false, false_and]

/-- A registered caller moves, and possibly evicts its entry or counts its
timeout. -/
theorem shift {added : List Nat} (evicted : Prop)
    (accounted : Accounted recorded settled cancelled l)
    (rationed : Rationed cfg l) (present : l.Attempting c request attempt)
    (moved : l'.Attempting c request changed)
    (sameId : changed.authId = attempt.authId)
    (sameLicence : changed.mustSend = attempt.mustSend)
    (same : SameAttempts (· = c) l l')
    (ids : l.table.nextAuthId ≤ l'.table.nextAuthId)
    (wire : ∀ authId, l.Sent authId → l'.Sent authId)
    (frames :
      ∀ authId, l'.Asked authId → l.Asked authId ∨
        (authId = attempt.authId ∧ changed.progress = .unrecorded))
    (flying :
      ∀ authId, l'.table.Flying authId ↔
        l.table.Flying authId ∧ ¬ (evicted ∧ attempt.authId = authId))
    (reader : l'.reader = l.reader) (scheduler : l'.scheduler = l.scheduler)
    (placed : changed.Placed recorded l'.table)
    (licensed :
      evicted → l.table.Flying attempt.authId → attempt.mustSend = true)
    (leaves :
      attempt.progress = .unrecorded → changed.progress ≠ .unrecorded →
        l'.table.Flying attempt.authId → ¬ l'.Asked attempt.authId)
    (counted :
      ∀ authId,
        added.count authId +
            indicator (attempt.authId = authId ∧ changed.progress = .owing) =
          indicator (attempt.authId = authId ∧ attempt.progress = .owing) +
            indicator ((evicted ∧ attempt.authId = authId) ∧
              l.table.Flying authId ∧ authId ∈ recorded)) :
    Accounted recorded (settled ++ added) cancelled l' where
  distinct := accounted.distinct
  assigned authId listed :=
    Nat.le_trans (accounted.assigned authId listed) ids
  sent authId listed := wire authId (accounted.sent authId listed)
  placed d request' after stands := by
    by_cases isOwn : d = c
    · subst isOwn
      have unique := (Ledger.inPhase_unique moved stands).2
      cases unique
      exact placed
    · obtain ⟨other, before, alike⟩ :=
        same.former d request' after isOwn stands
      have otherPlaced := accounted.placed d request' other before
      apply otherPlaced.alike alike (fun _ listed => listed)
      · intro stage
        exact (otherPlaced.unrecorded stage).2.1
      · intro stage
        rw [flying]
        constructor
        · intro flies
          exact flies.1
        · intro flies
          refine ⟨flies, ?_⟩
          rintro ⟨isEvicted, sameAuthId⟩
          have ownFlies : l.table.Flying attempt.authId := by
            rw [sameAuthId]
            exact flies
          have apart :=
            accounted.lone rationed present (licensed isEvicted ownFlies)
              isOwn before sameAuthId.symm
          rcases stage with stage | stage
          · exact apart.1 stage
          · exact apart.2.2 ownFlies stage
  queued authId flies asked := by
    rcases frames authId asked with former | ⟨isOwn, stage⟩
    · rcases accounted.queued authId ((flying authId).mp flies).1 former with
        listed | holds
      · exact Or.inl listed
      · right
        rw [Ledger.holds_iff_beside present] at holds
        rw [Ledger.holds_iff_beside moved,
          Ledger.holdsBeside_iff_of_same same]
        rcases holds with beside | ⟨stage, isOwn⟩
        · exact Or.inl beside
        · by_cases stays : changed.progress = .unrecorded
          · exact Or.inr ⟨stays, sameId.trans isOwn⟩
          · rw [← isOwn] at flies asked
            exact absurd asked (leaves stage stays flies)
    · right
      rw [isOwn]
      exact ⟨c, request, changed, moved, stage, sameId⟩
  balance authId := by
    have before := accounted.balance authId
    have owing :=
      accounted.indicator_owing rationed present moved sameId sameLicence same
        placed.owing authId
    have owed := counted authId
    rw [indicator_flying _ (evicted ∧ attempt.authId = authId)] at before
    rw [reader, scheduler, flying authId, List.count_append]
    omega

/-- The sender records its request. -/
theorem record (accounted : Accounted recorded settled cancelled l)
    (rationed : Rationed cfg l) (sound : Sound l)
    (present : l.Attempting c request attempt)
    (stage : attempt.progress = .unrecorded)
    (sent : l.Sent attempt.authId)
    (moved : l'.Attempting c request changed)
    (sameId : changed.authId = attempt.authId)
    (waits : changed.progress = .waiting)
    (same : SameAttempts (· = c) l l') (table : l'.table = l.table)
    (side : l'.side = l.side) (reader : l'.reader = l.reader)
    (scheduler : l'.scheduler = l.scheduler) :
    Accounted (recorded ++ [attempt.authId]) settled cancelled l' := by
  obtain ⟨licensed, unlisted, flies⟩ :=
    (accounted.placed c request attempt present).unrecorded stage
  refine ⟨?_, ?_, ?_, ?_, ?_, ?_⟩
  · exact List.nodup_append.mpr ⟨accounted.distinct, by simp, by
      intro first listed second isOwn
      rw [List.mem_singleton.mp isOwn]
      intro isSame
      rw [isSame] at listed
      exact unlisted listed⟩
  · intro authId listed
    rw [table]
    rcases List.mem_append.mp listed with former | isOwn
    · exact accounted.assigned authId former
    · rw [List.mem_singleton.mp isOwn]
      exact (sound.attempts c request attempt present).assigned.2
  · intro authId listed
    unfold Ledger.Sent
    rw [side]
    rcases List.mem_append.mp listed with former | isOwn
    · exact accounted.sent authId former
    · rw [List.mem_singleton.mp isOwn]
      exact sent
  · intro d request' after stands
    by_cases isOwn : d = c
    · subst isOwn
      have unique := (Ledger.inPhase_unique moved stands).2
      cases unique
      refine ⟨?_, ?_, ?_, ?_⟩
      · intro impossible
        cases waits.symm.trans impossible
      · intro _ _
        rw [sameId]
        simp
      · intro impossible
        cases waits.symm.trans impossible
      · intro impossible
        cases waits.symm.trans impossible
    · obtain ⟨other, before, alike⟩ :=
        same.former d request' after isOwn stands
      have placed := accounted.placed d request' other before
      apply placed.alike alike
      · exact fun _ listed => List.mem_append_left _ listed
      · intro otherStage listed
        rcases List.mem_append.mp listed with former | isSame
        · exact (placed.unrecorded otherStage).2.1 former
        · exact (accounted.lone rationed present licensed isOwn before
            (List.mem_singleton.mp isSame)).1 otherStage
      · intro _
        rw [table]
  · intro authId fliesNow asked
    rw [table] at fliesNow
    unfold Ledger.Asked at asked
    rw [side] at asked
    rcases accounted.queued authId fliesNow asked with listed | holds
    · exact Or.inl (List.mem_append_left _ listed)
    · rw [Ledger.holds_iff_beside present] at holds
      rcases holds with beside | ⟨-, isOwn⟩
      · right
        rw [Ledger.holds_iff_beside moved,
          Ledger.holdsBeside_iff_of_same same]
        exact Or.inl beside
      · exact Or.inl (by simp [isOwn])
  · intro authId
    have before := accounted.balance authId
    have owing : l'.Holds .owing authId ↔ l.Holds .owing authId := by
      rw [Ledger.holds_iff_beside present, Ledger.holds_iff_beside moved,
        Ledger.holdsBeside_iff_of_same same, waits, stage]
      simp
    rw [reader, scheduler, table, owing, List.count_append]
    by_cases isOwn : authId = attempt.authId
    · subst isOwn
      have absent :
          ¬ (l.table.Flying attempt.authId ∧ attempt.authId ∈ recorded) :=
        fun both => unlisted both.2
      have open_ :
          l.table.Flying attempt.authId ∧
            attempt.authId ∈ recorded ++ [attempt.authId] :=
        ⟨flies, by simp⟩
      rw [indicator_of_not absent] at before
      rw [indicator_of open_, List.count_singleton_self]
      omega
    · have sameListed :
          authId ∈ recorded ++ [attempt.authId] ↔ authId ∈ recorded := by
        simp [isOwn]
      rw [sameListed, List.count_singleton,
        if_neg (by simpa using Ne.symm isOwn)]
      exact before

/-- A caller registers for a fresh attempt or joins one in flight. -/
theorem register {authId : Nat} {mustSend : Bool} {slot : Slot}
    (accounted : Accounted recorded settled cancelled l) (sound : Sound l)
    (unregistered : ∀ request' other, ¬ l.Attempting c request' other)
    (moved :
      l'.Attempting c request
        ⟨authId, mustSend, slot, if mustSend then .build else .arm⟩)
    (same : SameAttempts (· = c) l l')
    (ids : l.table.nextAuthId ≤ l'.table.nextAuthId)
    (side : l'.side = l.side) (reader : l'.reader = l.reader)
    (scheduler : l'.scheduler = l.scheduler)
    (flying :
      ∀ other,
        l'.table.Flying other ↔ l.table.Flying other ∨ other = authId)
    (licence :
      if mustSend then l.table.nextAuthId < authId
      else l.table.Flying authId) :
    Accounted recorded settled cancelled l' := by
  have beside : ∀ progress other,
      l.Holds progress other ↔ l.HoldsBeside c progress other := by
    intro progress other
    constructor
    · intro holds
      obtain ⟨d, request', attempt, stands, stage, isId⟩ := holds
      refine ⟨d, request', attempt, ?_, stands, stage, isId⟩
      intro isOwn
      rw [isOwn] at stands
      exact unregistered request' attempt stands
    · intro holds
      obtain ⟨d, request', attempt, -, stands, stage, isId⟩ := holds
      exact ⟨d, request', attempt, stands, stage, isId⟩
  have fresh : mustSend = true → authId ∉ recorded := by
    intro licensed listed
    rw [licensed, if_pos rfl] at licence
    exact absurd (accounted.assigned authId listed) (Nat.not_le.mpr licence)
  have joins : mustSend = false → l.table.Flying authId := by
    intro unlicensed
    rw [unlicensed] at licence
    simpa using licence
  refine ⟨accounted.distinct, ?_, ?_, ?_, ?_, ?_⟩
  · intro other listed
    exact Nat.le_trans (accounted.assigned other listed) ids
  · intro other listed
    unfold Ledger.Sent
    rw [side]
    exact accounted.sent other listed
  · intro d request' after stands
    by_cases isOwn : d = c
    · subst isOwn
      have unique := (Ledger.inPhase_unique moved stands).2
      cases unique
      cases mustSend with
      | true =>
          refine ⟨?_, ?_, ?_, ?_⟩
          · intro _
            exact ⟨rfl, fresh rfl, (flying authId).mpr (Or.inr rfl)⟩
          · intro impossible
            cases impossible
          · intro impossible
            cases impossible
          · intro impossible
            cases impossible
      | false =>
          refine ⟨?_, ?_, ?_, ?_⟩
          · intro impossible
            cases impossible
          · intro _ impossible
            cases impossible
          · intro impossible
            cases impossible
          · intro impossible
            cases impossible
    · obtain ⟨other, before, alike⟩ :=
        same.former d request' after isOwn stands
      have placed := accounted.placed d request' other before
      apply placed.alike alike (fun _ listed => listed)
      · intro stage
        exact (placed.unrecorded stage).2.1
      · intro _
        rw [flying]
        constructor
        · intro flies
          rcases flies with flies | isNew
          · exact flies
          · cases mustSend with
            | true =>
                have bound := (sound.attempts d request' other before).assigned
                rw [if_pos rfl, ← isNew] at licence
                exact absurd bound.2 (Nat.not_le.mpr licence)
            | false =>
                rw [isNew]
                exact joins rfl
        · intro flies
          exact Or.inl flies
  · intro other flies asked
    unfold Ledger.Asked at asked
    rw [side] at asked
    rw [Ledger.holds_iff_beside moved, Ledger.holdsBeside_iff_of_same same,
      ← beside]
    rcases (flying other).mp flies with former | isNew
    · rcases accounted.queued other former asked with listed | holds
      · exact Or.inl listed
      · exact Or.inr (Or.inl holds)
    · cases mustSend with
      | true => exact Or.inr (Or.inr ⟨rfl, isNew.symm⟩)
      | false =>
          have former : l.table.Flying other := by
            rw [isNew]
            exact joins rfl
          rcases accounted.queued other former asked with listed | holds
          · exact Or.inl listed
          · exact Or.inr (Or.inl holds)
  · intro other
    have before := accounted.balance other
    have owing : l'.Holds .owing other ↔ l.Holds .owing other := by
      rw [Ledger.holds_iff_beside moved, Ledger.holdsBeside_iff_of_same same,
        ← beside]
      cases mustSend with
      | true => simp [Attempt.progress]
      | false => simp [Attempt.progress]
    have open_ :
        l'.table.Flying other ∧ other ∈ recorded ↔
          l.table.Flying other ∧ other ∈ recorded := by
      rw [flying]
      constructor
      · rintro ⟨flies | isNew, listed⟩
        · exact ⟨flies, listed⟩
        · cases mustSend with
          | true =>
              rw [isNew] at listed
              exact absurd listed (fresh rfl)
          | false =>
              rw [isNew]
              rw [isNew] at listed
              exact ⟨joins rfl, listed⟩
      · rintro ⟨flies, listed⟩
        exact ⟨Or.inl flies, listed⟩
    rw [reader, scheduler, owing, open_]
    exact before

/-- A registered caller goes on with its attempt, or leaves it to others. -/
theorem move (accounted : Accounted recorded settled cancelled l)
    (rationed : Rationed cfg l) (present : l.Attempting c request attempt)
    (moved : l'.Attempting c request changed)
    (sameId : changed.authId = attempt.authId)
    (sameLicence : changed.mustSend = attempt.mustSend)
    (same : SameAttempts (· = c) l l')
    (ids : l.table.nextAuthId ≤ l'.table.nextAuthId)
    (wire : ∀ authId, l.Sent authId → l'.Sent authId)
    (frames :
      ∀ authId, l'.Asked authId → l.Asked authId ∨
        (authId = attempt.authId ∧ changed.progress = .unrecorded))
    (flying : ∀ authId, l'.table.Flying authId ↔ l.table.Flying authId)
    (reader : l'.reader = l.reader) (scheduler : l'.scheduler = l.scheduler)
    (progress :
      changed.progress = attempt.progress ∨
        (changed.progress = .done ∧ attempt.progress ≠ .owing))
    (leaves :
      attempt.progress = .unrecorded → changed.progress ≠ .unrecorded →
        ¬ l'.Asked attempt.authId) :
    Accounted recorded settled cancelled l' := by
  have placed := accounted.placed c request attempt present
  have shifted : Accounted recorded (settled ++ []) cancelled l' := by
    refine accounted.shift False rationed present moved sameId sameLicence
      same ids wire frames ?_ reader scheduler ?_ ?_ ?_ ?_
    · intro authId
      rw [flying]
      simp
    · apply placed.carry sameId sameLicence
      · rcases progress with same | ⟨finished, -⟩
        · exact Or.inl same
        · exact Or.inr finished
      · exact fun _ listed => listed
      · exact fun stage => (placed.unrecorded stage).2.1
      · exact fun _ => flying _
    · exact fun impossible => impossible.elim
    · exact fun stage leaves' _ => leaves stage leaves'
    · intro authId
      have sameOwing :
          changed.progress = .owing ↔ attempt.progress = .owing := by
        rcases progress with same | ⟨finished, other⟩
        · rw [same]
        · rw [finished]
          simp [other]
      have never :
          ¬ ((False ∧ attempt.authId = authId) ∧
            l.table.Flying authId ∧ authId ∈ recorded) :=
        fun impossible => impossible.1.1
      rw [sameOwing, indicator_of_not never]
      simp
  rwa [List.append_nil] at shifted

end Accounted

theorem attempting_setAttempt {s t : State} {c : Nat} {request : AuthRequest}
    {old : CallerPhase} (present : s.ledger.InPhase c request old)
    (same : t.callers = s.callers) (changed : Attempt) :
    (t.setAttempt c changed).ledger.Attempting c request changed := by
  have before : t.ledger.InPhase c request old :=
    (congrFun same c).trans present
  exact Ledger.inPhase_setPhase.mpr ⟨old, before, if_pos rfl⟩

theorem progress_readStage {cfg : SessionConfig} {s : State} {c : Nat}
    {request : AuthRequest} {attempt : Attempt} {stage : Stage}
    (moved : s.readStage cfg c request attempt = some stage) :
    attempt.stage ≠ .recordSent ∧ attempt.stage ≠ .settleTimeout ∧
      (({ attempt with stage := stage } : Attempt).progress =
          attempt.progress ∨
        (({ attempt with stage := stage } : Attempt).progress = .done ∧
          attempt.progress ≠ .owing ∧ attempt.progress ≠ .unrecorded)) := by
  cases readStep_of_readStage moved with
  | moved stands foreign =>
      rcases stands with ⟨connectToken, stands⟩ | stands
      · simp [Attempt.progress, stands]
      · simp [Attempt.progress, stands]
  | buildFailed stands => simp [Attempt.progress, stands]
  | built stands built => simp [Attempt.progress, stands]
  | openClosed stands closed => simp [Attempt.progress, stands]
  | openRunning stands => simp [Attempt.progress, stands]
  | writeStopped stands stopped => simp [Attempt.progress, stands]
  | writeFailed stands failed => simp [Attempt.progress, stands]
  | written stands => simp [Attempt.progress, stands]
  | armed stands => simp [Attempt.progress, stands]
  | ready stands sent => simp [Attempt.progress, stands]
  | refused stands sent => simp [Attempt.progress, stands]
  | dropped stands dropped => simp [Attempt.progress, stands]
  | granted stands => simp [Attempt.progress, stands]
  | ended stands own => simp [Attempt.progress, stands]
  | reported stands => simp [Attempt.progress, stands]

namespace Accounted

variable {recorded settled cancelled : List Nat} {cfg : SessionConfig}
  {s s' : State} {c : Nat} {request : AuthRequest} {attempt : Attempt}
  {action : Action}

/-- The split after the events of a step. -/
def After (recorded settled cancelled : List Nat) (events : List AuthEvent)
    (l : Ledger) : Prop :=
  Accounted (recorded ++ AuthEvent.recordedIds events)
    (settled ++ AuthEvent.settledIds events)
    (cancelled ++ AuthEvent.cancelledIds events) l

theorem after_nil {l : Ledger} {events : List AuthEvent}
    (nothing : events = []) :
    After recorded settled cancelled events l ↔
      Accounted recorded settled cancelled l := by
  subst nothing
  simp [After, AuthEvent.recordedIds, AuthEvent.settledIds,
    AuthEvent.cancelledIds]

/-- The caller evicts the entry of its attempt. -/
private theorem abandonEvict {reason : AbandonReason}
    (accounted : Accounted recorded settled cancelled s.ledger)
    (rationed : Rationed cfg s.ledger) (sound : Sound s.ledger)
    (present : s.ledger.Attempting c request attempt)
    (stands : attempt.stage = .abandonEvict reason)
    (same :
      SameAttempts (· = c) s.ledger
        ({ s with
            table := (s.table.evictByAuthId attempt.authId).1 }.setAttempt c
          { attempt with stage := .abandonRemove reason }).ledger) :
    Accounted recorded settled cancelled
      ({ s with
          table := (s.table.evictByAuthId attempt.authId).1 }.setAttempt c
        { attempt with stage := .abandonRemove reason }).ledger := by
  have wf : s.table.WellFormed := sound.wellFormed
  have placed := accounted.placed c request attempt present
  have open_ :
      attempt.progress = .unrecorded ∨ attempt.progress = .expiring := by
    cases reason with
    | timedOut => exact Or.inr (by simp [Attempt.progress, stands])
    | _ => exact Or.inl (by simp [Attempt.progress, stands])
  have licensed : s.table.Flying attempt.authId → attempt.mustSend = true := by
    intro flies
    rcases open_ with unrecorded | expiring
    · exact (placed.unrecorded unrecorded).1
    · exact (placed.expiring expiring).2.mpr flies
  have owes :
      ({ attempt with stage := .abandonRemove reason } : Attempt).progress =
          .owing ↔
        s.table.Flying attempt.authId ∧ attempt.authId ∈ recorded := by
    cases reason with
    | timedOut =>
        obtain ⟨listed, decides⟩ :=
          placed.expiring (by simp [Attempt.progress, stands])
        have owing :
            ({ attempt with stage := .abandonRemove .timedOut } :
                Attempt).progress = .owing ↔ attempt.mustSend = true := by
          simp [Attempt.progress]
        rw [owing]
        constructor
        · intro isLicensed
          exact ⟨decides.mp isLicensed, listed isLicensed⟩
        · intro both
          exact decides.mpr both.1
    | buildFailed error =>
        have unlisted :=
          (placed.unrecorded (by simp [Attempt.progress, stands])).2.1
        simp [Attempt.progress, unlisted]
    | writeFailed =>
        have unlisted :=
          (placed.unrecorded (by simp [Attempt.progress, stands])).2.1
        simp [Attempt.progress, unlisted]
  have finished :
      ({ attempt with stage := .abandonRemove reason } : Attempt).progress ≠
          .unrecorded ∧
        ({ attempt with stage := .abandonRemove reason } : Attempt).progress ≠
          .waiting ∧
        ({ attempt with stage := .abandonRemove reason } : Attempt).progress ≠
          .expiring := by
    cases reason with
    | timedOut =>
        simp only [Attempt.progress]
        split <;> simp
    | _ => simp [Attempt.progress]
  have shifted :
      Accounted recorded (settled ++ []) cancelled
        ({ s with
            table := (s.table.evictByAuthId attempt.authId).1 }.setAttempt c
          { attempt with stage := .abandonRemove reason }).ledger := by
    refine accounted.shift True rationed present
      (attempting_setAttempt present rfl _) rfl rfl same ?_ (fun _ sent => sent)
      (fun _ asked => Or.inl asked) ?_ rfl rfl ?_ (fun _ => licensed) ?_ ?_
    · exact Nat.le_of_eq
        (Evolves.evictByAuthId wf attempt.authId).nextAuthId.symm
    · intro authId
      have evicted :
          (s.table.evictByAuthId attempt.authId).1.Flying authId ↔
            s.table.Flying authId ∧ authId ≠ attempt.authId :=
        ConntrackTable.flying_evictByAuthId wf
      have turned :
          authId ≠ attempt.authId ↔ ¬ (True ∧ attempt.authId = authId) := by
        simp [eq_comm]
      rw [turned] at evicted
      exact evicted
    · refine ⟨?_, ?_, ?_, ?_⟩
      · exact fun impossible => absurd impossible finished.1
      · exact fun impossible => absurd impossible finished.2.1
      · exact fun impossible => absurd impossible finished.2.2
      · exact fun owing => licensed (owes.mp owing).1
    · intro _ _ flies
      exact absurd rfl
        ((ConntrackTable.flying_evictByAuthId wf).mp flies).2
    · intro authId
      have notOwing : ¬ (attempt.authId = authId ∧ attempt.progress = .owing) := by
        rintro ⟨-, owing⟩
        rcases open_ with stage | stage
        · cases stage.symm.trans owing
        · cases stage.symm.trans owing
      have moves :
          attempt.authId = authId ∧
              ({ attempt with
                stage := .abandonRemove reason } : Attempt).progress = .owing ↔
            (True ∧ attempt.authId = authId) ∧
              s.ledger.table.Flying authId ∧ authId ∈ recorded := by
        rw [owes, true_and]
        constructor
        · rintro ⟨rfl, both⟩
          exact ⟨rfl, both⟩
        · rintro ⟨rfl, both⟩
          exact ⟨rfl, both⟩
      rw [indicator_of_not notOwing, moves]
      simp
  rwa [List.append_nil] at shifted

/-- The caller drops the waiters of the id. -/
private theorem abandonRemove {reason : AbandonReason}
    (accounted : Accounted recorded settled cancelled s.ledger)
    (rationed : Rationed cfg s.ledger)
    (present : s.ledger.Attempting c request attempt)
    (stands : attempt.stage = .abandonRemove reason)
    (same :
      SameAttempts (· = c) s.ledger
        ((s.dropWaiters attempt.authId).setAttempt c
          { attempt.wake (· == attempt.authId) .dropped with
            stage :=
              State.afterAbandon request attempt.mustSend reason }).ledger) :
    Accounted recorded settled cancelled
      ((s.dropWaiters attempt.authId).setAttempt c
        { attempt.wake (· == attempt.authId) .dropped with
          stage :=
            State.afterAbandon request attempt.mustSend reason }).ledger := by
  have woken :
      (s.dropWaiters attempt.authId).ledger.InPhase c request
        (.attempting (attempt.wake (· == attempt.authId) .dropped)) :=
    Ledger.attempting_wake.mpr ⟨attempt, present, rfl⟩
  have progress :
      ({ attempt.wake (· == attempt.authId) .dropped with
          stage := State.afterAbandon request attempt.mustSend reason } :
        Attempt).progress = attempt.progress := by
    cases reason with
    | timedOut =>
        cases licence : attempt.mustSend with
        | true => simp [Attempt.progress, State.afterAbandon, stands, licence]
        | false => simp [Attempt.progress, State.afterAbandon, stands, licence]
    | _ => simp [Attempt.progress, State.afterAbandon, stands]
  refine accounted.move rationed present (attempting_setAttempt woken rfl _)
    ?_ ?_ same (Nat.le_refl _) (fun _ sent => sent)
    (fun _ asked => Or.inl asked) (fun _ => Iff.rfl) rfl rfl
    (Or.inl progress) ?_
  · exact Attempt.wake_authId ..
  · exact Attempt.wake_mustSend ..
  · intro unrecorded leaves
    exact absurd (progress.trans unrecorded) leaves

/-- The caller counts its timeout. -/
private theorem settleTimeout
    (accounted : Accounted recorded settled cancelled s.ledger)
    (rationed : Rationed cfg s.ledger)
    (present : s.ledger.Attempting c request attempt)
    (stands : attempt.stage = .settleTimeout)
    (same :
      SameAttempts (· = c) s.ledger
        ({ s with stats := s.stats.settleAuth true }.setAttempt c
          { attempt with
            stage :=
              .answered (.error (.authTimeout request.key.text)) }).ledger) :
    Accounted recorded (settled ++ [attempt.authId]) cancelled
      ({ s with stats := s.stats.settleAuth true }.setAttempt c
        { attempt with
          stage :=
            .answered (.error (.authTimeout request.key.text)) }).ledger := by
  have owing : attempt.progress = .owing := by
    simp [Attempt.progress, stands]
  refine accounted.shift False rationed present
    (attempting_setAttempt present rfl _) rfl rfl same (Nat.le_refl _)
    (fun _ sent => sent) (fun _ asked => Or.inl asked) ?_ rfl rfl ?_
    (fun impossible => impossible.elim) ?_ ?_
  · intro authId
    simp [State.ledger, State.setAttempt, State.setPhase, State.mapPhases]
  · refine ⟨?_, ?_, ?_, ?_⟩
    · exact fun impossible => by cases impossible
    · exact fun impossible => by cases impossible
    · exact fun impossible => by cases impossible
    · exact fun impossible => by cases impossible
  · intro unrecorded
    cases owing.symm.trans unrecorded
  · intro authId
    have answered :
        ¬ (attempt.authId = authId ∧
          ({ attempt with
            stage := .answered (.error (.authTimeout request.key.text)) } :
              Attempt).progress = .owing) := by
      simp [Attempt.progress]
    have never :
        ¬ ((False ∧ attempt.authId = authId) ∧
          s.ledger.table.Flying authId ∧ authId ∈ recorded) :=
      fun impossible => impossible.1.1
    rw [indicator_of_not answered, indicator_of_not never]
    by_cases isOwn : attempt.authId = authId
    · rw [indicator_of ⟨isOwn, owing⟩, isOwn, List.count_singleton_self]
    · rw [indicator_of_not fun both => isOwn both.1, List.count_singleton,
        if_neg (by simpa using isOwn)]

/-- The timer of the caller fires. -/
private theorem expire {deadline : Nat}
    (accounted : Accounted recorded settled cancelled s.ledger)
    (rationed : Rationed cfg s.ledger) (orderly : Orderly cfg s (.expire c))
    (present : s.ledger.Attempting c request attempt)
    (stands : attempt.stage = .await deadline)
    (same :
      SameAttempts (· = c) s.ledger
        (s.setAttempt c
          { attempt with stage := .abandonEvict .timedOut }).ledger) :
    Accounted recorded settled cancelled
      (s.setAttempt c
        { attempt with stage := .abandonEvict .timedOut }).ledger := by
  have waits : attempt.progress = .waiting := by
    simp [Attempt.progress, stands]
  have placed := accounted.placed c request attempt present
  have shifted :
      Accounted recorded (settled ++ []) cancelled
        (s.setAttempt c
          { attempt with stage := .abandonEvict .timedOut }).ledger := by
    refine accounted.shift False rationed present
      (attempting_setAttempt present rfl _) rfl rfl same (Nat.le_refl _)
      (fun _ sent => sent) (fun _ asked => Or.inl asked) ?_ rfl rfl ?_
      (fun impossible => impossible.elim) ?_ ?_
    · intro authId
      simp [State.ledger, State.setAttempt, State.setPhase, State.mapPhases]
    · refine ⟨?_, ?_, ?_, ?_⟩
      · exact fun impossible => by cases impossible
      · exact fun impossible => by cases impossible
      · intro _
        exact ⟨placed.waiting waits, orderly request attempt present⟩
      · exact fun impossible => by cases impossible
    · intro unrecorded
      cases waits.symm.trans unrecorded
    · intro authId
      have before :
          ¬ (attempt.authId = authId ∧ attempt.progress = .owing) := by
        simp [waits]
      have after :
          ¬ (attempt.authId = authId ∧
            ({ attempt with stage := .abandonEvict .timedOut } :
              Attempt).progress = .owing) := by
        simp [Attempt.progress]
      have never :
          ¬ ((False ∧ attempt.authId = authId) ∧
            s.ledger.table.Flying authId ∧ authId ∈ recorded) :=
        fun impossible => impossible.1.1
      rw [indicator_of_not before, indicator_of_not after,
        indicator_of_not never]
      simp
  rwa [List.append_nil] at shifted

/-- The future of the caller is dropped. -/
private theorem cancel
    (accounted : Accounted recorded settled cancelled s.ledger)
    (rationed : Rationed cfg s.ledger) (orderly : Orderly cfg s (.cancel c))
    (present : s.ledger.Attempting c request attempt)
    (suspended :
      (∃ frame, attempt.stage = .enqueue frame) ∨
        attempt.stage = .awaitWrite ∨
        ∃ deadline, attempt.stage = .await deadline)
    (same :
      SameAttempts (· = c) s.ledger
        (s.setAttempt c { attempt with stage := .cancelled }).ledger) :
    Accounted recorded settled cancelled
      (s.setAttempt c { attempt with stage := .cancelled }).ledger := by
  have notOwing : attempt.progress ≠ .owing := by
    rcases suspended with ⟨frame, stands⟩ | stands | ⟨deadline, stands⟩
    · simp [Attempt.progress, stands]
    · simp [Attempt.progress, stands]
    · simp [Attempt.progress, stands]
  refine accounted.move rationed present
    (attempting_setAttempt present rfl _) rfl rfl same (Nat.le_refl _)
    (fun _ sent => sent) (fun _ asked => Or.inl asked) (fun _ => Iff.rfl) rfl
    rfl (Or.inr ⟨rfl, notOwing⟩) ?_
  intro unrecorded _ asked
  rcases suspended with ⟨frame, stands⟩ | stands | ⟨deadline, stands⟩
  · have unsent :=
      (rationed.licensed c request attempt present (by rw [stands]; rfl)).2
    exact absurd asked (List.count_eq_zero.mp unsent)
  · exact absurd stands (orderly request attempt present)
  · simp [Attempt.progress, stands] at unrecorded

/-- A step of a registered caller keeps the split. -/
theorem attemptStep
    (accounted : Accounted recorded settled cancelled s.ledger)
    (rationed : Rationed cfg s.ledger) (sound : Sound s.ledger)
    (delivered : Delivered s) (orderly : Orderly cfg s action)
    (present : s.ledger.Attempting c request attempt)
    (step : CallerStep cfg s c request action (.attempting attempt) s') :
    After recorded settled cancelled (authEvents s action) s'.ledger := by
  have wf : s.table.WellFormed := sound.wellFormed
  have same := step.sameAttempts sound present
  have placed := accounted.placed c request attempt present
  have kept : ∀ (t : State) (stage : Stage), t.callers = s.callers →
      (t.setAttempt c { attempt with stage := stage }).ledger.Attempting c
        request { attempt with stage := stage } :=
    fun t stage callers => attempting_setAttempt present callers _
  cases step with
  | check checked => cases checkStep_of_checkPhase checked
  | read moved =>
      rename_i order stage
      obtain ⟨notRecording, notSettling, progress⟩ := progress_readStage moved
      have nothing : authEvents s (.advance c order) = [] := by
        rw [authEvents_attempting order present]
        split
        · rename_i stands
          exact absurd stands notRecording
        · rename_i stands
          exact absurd stands notSettling
        · rfl
      rw [after_nil nothing]
      refine accounted.move rationed present (kept s stage rfl) rfl rfl same
        (Nat.le_refl _) (fun _ sent => sent) (fun _ asked => Or.inl asked)
        (fun _ => Iff.rfl) rfl rfl ?_ ?_
      · rcases progress with isSame | ⟨finished, other, -⟩
        · exact Or.inl isSame
        · exact Or.inr ⟨finished, other⟩
      · intro unrecorded leaves
        rcases progress with isSame | ⟨-, -, other⟩
        · exact absurd (isSame.trans unrecorded) leaves
        · exact absurd unrecorded other
  | storeFrame stands free =>
      rename_i order frame
      have nothing : authEvents s (.advance c order) = [] := by
        rw [authEvents_attempting order present, stands]
      rw [after_nil nothing]
      refine accounted.move rationed present (kept _ _ rfl) rfl rfl same ?_
        (fun _ sent => sent) (fun _ asked => Or.inl asked) ?_ rfl rfl ?_ ?_
      · exact Nat.le_of_eq
          (Evolves.storeFrame wf attempt.authId frame _).nextAuthId.symm
      · intro authId
        apply ConntrackTable.flying_modify wf
          (keepsIdentity_storeFrame frame _)
        intro entry
        split
        · rfl
        · rfl
      · simp [Attempt.progress, stands]
      · simp [Attempt.progress, stands]
  | enqueueFailed stands ended =>
      rename_i order frame
      have nothing : authEvents s (.advance c order) = [] := by
        rw [authEvents_attempting order present, stands]
      rw [after_nil nothing]
      refine accounted.move rationed present (kept s _ rfl) rfl rfl same
        (Nat.le_refl _) (fun _ sent => sent) (fun _ asked => Or.inl asked)
        (fun _ => Iff.rfl) rfl rfl ?_ ?_
      · simp [Attempt.progress, stands]
      · simp [Attempt.progress, stands]
  | enqueue stands =>
      rename_i order frame
      have nothing : authEvents s (.advance c order) = [] := by
        rw [authEvents_attempting order present, stands]
      rw [after_nil nothing]
      refine accounted.move rationed present (kept _ _ rfl) rfl rfl same
        (Nat.le_refl _) (fun _ sent => sent) ?_ (fun _ => Iff.rfl) rfl rfl ?_ ?_
      · intro authId asked
        obtain ⟨queued, listed, isRequest⟩ := List.mem_map.mp asked
        have grown :
            queued ∈
              (s.periphery.enqueue
                ⟨frame, .request attempt.authId, .caller c⟩).frames :=
          listed
        rcases Periphery.mem_frames_enqueue.mp grown with new | old
        · rw [new] at isRequest
          cases isRequest
          exact Or.inr ⟨rfl, rfl⟩
        · exact Or.inl (List.mem_map.mpr ⟨queued, old, isRequest⟩)
      · simp [Attempt.progress, stands]
      · simp [Attempt.progress, stands]
  | recordSent stands =>
      rename_i order
      have events :
          authEvents s (.advance c order) = [.recorded attempt.authId] := by
        rw [authEvents_attempting order present, stands]
      have sent : s.ledger.Sent attempt.authId :=
        delivered.recording c request attempt present stands
      have grown :=
        accounted.record rationed sound present
          (by simp [Attempt.progress, stands]) sent
          (kept { s with stats := s.stats.recordAuthSent } .arm rfl) rfl rfl
          same rfl rfl rfl rfl
      unfold After
      rw [events]
      simpa [AuthEvent.recordedIds, AuthEvent.settledIds,
        AuthEvent.cancelledIds] using grown
  | abandonEvict stands free =>
      rename_i order reason
      have nothing : authEvents s (.advance c order) = [] := by
        rw [authEvents_attempting order present, stands]
      rw [after_nil nothing]
      exact accounted.abandonEvict rationed sound present stands same
  | abandonRemove stands =>
      rename_i order reason
      have nothing : authEvents s (.advance c order) = [] := by
        rw [authEvents_attempting order present, stands]
      rw [after_nil nothing]
      exact accounted.abandonRemove rationed present stands same
  | settleTimeout stands =>
      rename_i order
      have events :
          authEvents s (.advance c order) = [.settled attempt.authId] := by
        rw [authEvents_attempting order present, stands]
      have counted := accounted.settleTimeout rationed present stands same
      unfold After
      rw [events]
      simpa [AuthEvent.recordedIds, AuthEvent.settledIds,
        AuthEvent.cancelledIds] using counted
  | expire stands empty due =>
      have expired := accounted.expire rationed orderly present stands same
      exact (after_nil rfl).mpr expired
  | cancel suspended =>
      have dropped :=
        accounted.cancel rationed orderly present suspended same
      exact (after_nil rfl).mpr dropped

end Accounted

/-! ## Steps of callers that are not registered -/

/-- A caller that is registered neither before nor after its step does not
count. -/
theorem SameAttempts.of_unregistered {l l' : Ledger} {c : Nat}
    (same : SameAttempts (· = c) l l')
    (before : ∀ request attempt, ¬ l.Attempting c request attempt)
    (after : ∀ request attempt, ¬ l'.Attempting c request attempt) :
    SameAttempts (fun _ => False) l l' where
  former d request changed _ stands := by
    apply same.former d request changed ?_ stands
    intro isOwn
    rw [isOwn] at stands
    exact after request changed stands
  later d request attempt _ stands := by
    apply same.later d request attempt ?_ stands
    intro isOwn
    rw [isOwn] at stands
    exact before request attempt stands

theorem not_attempting_of_inPhase {l : Ledger} {c : Nat}
    {request : AuthRequest} {phase : CallerPhase}
    (present : l.InPhase c request phase)
    (other : ∀ attempt, phase ≠ .attempting attempt)
    (request' : AuthRequest) (attempt : Attempt) :
    ¬ l.Attempting c request' attempt := by
  intro stands
  exact other attempt (Ledger.inPhase_unique present stands).2

/-- A caller that is not registered moves. -/
theorem SameAttempts.of_stroll {t : State} {c : Nat} {request : AuthRequest}
    {old phase : CallerPhase} (present : t.ledger.InPhase c request old)
    (before : ∀ attempt, old ≠ .attempting attempt)
    (after : ∀ attempt, phase ≠ .attempting attempt) :
    SameAttempts (fun _ => False) t.ledger (t.setPhase c phase).ledger := by
  have moved :
      SameAttempts (· = c) t.ledger (t.setPhase c phase).ledger :=
    .of_setPhase rfl
  have stands : (t.setPhase c phase).ledger.InPhase c request phase :=
    Ledger.inPhase_setPhase.mpr ⟨old, present, if_pos rfl⟩
  exact moved.of_unregistered (not_attempting_of_inPhase present before)
    (not_attempting_of_inPhase stands after)

namespace Accounted

variable {recorded settled cancelled : List Nat} {cfg : SessionConfig}
  {s s' : State} {c : Nat} {request : AuthRequest} {action : Action}

/-- A caller that is not registered moves and ends no attempt. -/
private theorem stroll {t : State}
    (accounted : Accounted recorded settled cancelled s.ledger)
    (same : SameAttempts (fun _ => False) s.ledger t.ledger)
    (ids : s.table.nextAuthId ≤ t.table.nextAuthId)
    (side : t.periphery = s.periphery) (reader : t.reader = s.reader)
    (scheduler : t.scheduler = s.scheduler)
    (flying : ∀ authId, t.table.Flying authId ↔ s.table.Flying authId) :
    Accounted recorded settled cancelled t.ledger := by
  refine accounted.still same ids ?_ ?_ flying ?_
  · intro authId sent
    have stillSent :
        FrameOrigin.request authId ∈ t.periphery.wire.map (·.origin) := by
      rw [side]
      exact sent
    exact stillSent
  · intro authId asked
    have alreadyAsked :
        FrameOrigin.request authId ∈ t.periphery.frames.map (·.origin) :=
      asked
    rw [side] at alreadyAsked
    exact alreadyAsked
  · intro authId
    show _ + _ + t.reader.owed.count authId + t.scheduler.owed.count authId = _
    rw [reader, scheduler]
    rfl

/-- The first part of a claim keeps the split; an attempt in flight that it
replaces is cancelled. -/
private theorem claim {order : IterationOrder ConntrackEntry}
    (accounted : Accounted recorded settled cancelled s.ledger)
    (rationed : Rationed cfg s.ledger) (sound : Sound s.ledger)
    (orderly : Orderly cfg s (.advance c order))
    (present : s.ledger.InPhase c request .claim) :
    After recorded settled cancelled (authEvents s (.advance c order))
      (s.claimFlow order c request).ledger := by
  have wf : s.table.WellFormed := sound.wellFormed
  have stands : s.callers c = some ⟨request, .claim⟩ := present
  have pruned :=
    ConntrackTable.pruned_maintainForFlow wf order request.key s.now
  have evolves := Evolves.pruned wf pruned
  have flying : ∀ authId,
      (s.table.maintainForFlow order request.key s.now).1.Flying authId ↔
        s.table.Flying authId :=
    fun authId => ConntrackTable.flying_of_pruned wf pruned
  have events := authEvents_claim order present
  cases found : s.replaced order request with
  | none =>
      rw [found] at events
      rw [after_nil events]
      have effect :
          s.claimFlow order c request =
            { s with
              table := (s.table.maintainForFlow order request.key s.now).1
              tableOwner := some c }.setPhase c .claimInsert := by
        unfold State.claimFlow
        unfold State.replaced at found
        simp only [found]
      rw [effect]
      have same :
          SameAttempts (fun _ => False) s.ledger
            ({ s with
                table := (s.table.maintainForFlow order request.key s.now).1
                tableOwner := some c }.setPhase c .claimInsert).ledger := by
        have copied :
            SameAttempts (fun _ => False) s.ledger
              { s with
                table := (s.table.maintainForFlow order request.key s.now).1
                tableOwner := some c }.ledger :=
          .of_callers rfl
        exact copied.trans (.of_stroll present (by simp) (by simp))
      exact accounted.stroll same (Nat.le_of_eq evolves.nextAuthId.symm) rfl
        rfl rfl flying
  | some old =>
      have held :
          (s.table.maintainForFlow order request.key s.now).1.byKey.lookup
            request.key = some old := by
        unfold State.replaced at found
        exact (Option.filter_eq_some_iff.mp found).1
      have live :=
        ConntrackTable.getByAuthId_of_lookup evolves.wellFormed held
      have evicts := Evolves.evictByAuthId evolves.wellFormed old.authId
      have evicted : ∀ authId,
          ((s.table.maintainForFlow order request.key
              s.now).1.evictByAuthId old.authId).1.Flying authId ↔
            s.table.Flying authId ∧ authId ≠ old.authId := by
        intro authId
        rw [ConntrackTable.flying_evictByAuthId evolves.wellFormed, flying]
      have effect :
          s.claimFlow order c request =
            ({ s with
                table :=
                  ((s.table.maintainForFlow order request.key
                    s.now).1.evictByAuthId old.authId).1
                tableOwner := some c }.notify old.authId
              (.failed "flow resource changed during authorization")).setPhase
                c (if old.authInFlight then .claimSettle
                  else .claimInsert) := by
        unfold State.claimFlow
        unfold State.replaced at found
        simp only [found]
      have same :
          SameAttempts (fun _ => False) s.ledger
            (s.claimFlow order c request).ledger := by
        rw [effect]
        have woken :
            SameAttempts (fun _ => False) s.ledger
              ({ s with
                  table :=
                    ((s.table.maintainForFlow order request.key
                      s.now).1.evictByAuthId old.authId).1
                  tableOwner := some c }.notify old.authId
                (.failed
                  "flow resource changed during authorization")).ledger :=
          .of_wake rfl
        have stays :
            ({ s with
                table :=
                  ((s.table.maintainForFlow order request.key
                    s.now).1.evictByAuthId old.authId).1
                tableOwner := some c }.notify old.authId
              (.failed
                "flow resource changed during authorization")).ledger.InPhase
              c request .claim := by
          show Option.map _ (s.callers c) = _
          rw [stands]
          rfl
        refine woken.trans (.of_stroll stays (by simp) ?_)
        intro attempt
        split <;> simp
      have ids :
          s.table.nextAuthId ≤
            (s.claimFlow order c request).table.nextAuthId := by
        rw [effect]
        exact Nat.le_of_eq
          (evicts.nextAuthId.trans evolves.nextAuthId).symm
      have after : ∀ authId,
          (s.claimFlow order c request).table.Flying authId ↔
            s.table.Flying authId ∧ authId ≠ old.authId := by
        rw [effect]
        exact evicted
      have side :
          (s.claimFlow order c request).periphery = s.periphery := by
        rw [effect]
        rfl
      have reader : (s.claimFlow order c request).reader = s.reader := by
        rw [effect]
        rfl
      have scheduler :
          (s.claimFlow order c request).scheduler = s.scheduler := by
        rw [effect]
        rfl
      rw [found] at events
      cases inFlight : old.authInFlight with
      | true =>
          have flies : s.table.Flying old.authId :=
            (flying old.authId).mp ⟨old, live, inFlight⟩
          have awaited := orderly request old stands found inFlight
          simp only [inFlight, if_true] at events
          unfold After
          rw [events]
          simp only [AuthEvent.recordedIds, AuthEvent.settledIds,
            AuthEvent.cancelledIds, List.filterMap_cons, List.filterMap_nil,
            List.append_nil]
          apply accounted.finish rationed awaited flies same ids side after
          intro other
          show _ + _ + (s.claimFlow order c request).reader.owed.count other +
            (s.claimFlow order c request).scheduler.owed.count other = _
          rw [reader, scheduler, List.count_append]
          omega
      | false =>
          have lands : ¬ s.table.Flying old.authId := by
            intro flies
            obtain ⟨entry, same', open_⟩ := (flying old.authId).mpr flies
            rw [live] at same'
            cases same'
            rw [inFlight] at open_
            cases open_
          simp only [inFlight] at events
          rw [after_nil events]
          apply accounted.stroll same ids side reader scheduler
          intro authId
          rw [after]
          constructor
          · exact fun both => both.1
          · intro flies
            refine ⟨flies, ?_⟩
            intro isOld
            rw [isOld] at flies
            exact lands flies

/-- The second part of a claim keeps the split. -/
private theorem insert
    (accounted : Accounted recorded settled cancelled s.ledger)
    (sound : Sound s.ledger) (fit : s.table.Fit)
    (room : s.table.nextAuthId + 1 < authIdSpace)
    (present : s.ledger.InPhase c request .claimInsert) :
    Accounted recorded settled cancelled (s.insertFlow c request).ledger := by
  have own := (sound.claiming c request _ present rfl).2
  rcases insertFlow_cases (c := c) sound.wellFormed room own with
    ⟨entry, outcome, table, -, -, -, evolves, retains, effect⟩ |
    ⟨entry, authId, mustSend, table, registers, effect⟩
  · rw [effect]
    have copied :
        SameAttempts (fun _ => False) s.ledger
          { s with table := table, tableOwner := none }.ledger :=
      .of_callers rfl
    have same :
        SameAttempts (fun _ => False) s.ledger
          ({ s with table := table, tableOwner := none }.setPhase c
            (.answered outcome.result)).ledger :=
      copied.trans (.of_stroll present (by simp) (by simp))
    apply accounted.stroll same (Nat.le_of_eq evolves.nextAuthId.symm) rfl rfl
      rfl
    intro authId
    exact ConntrackTable.flying_of_aged evolves retains
  · rw [effect]
    have started : ∀ id former, s.table.getByAuthId id = some former →
        former.authStarted = true :=
      fun id former live => (fit id former live).started
    have copied :
        SameAttempts (· = c) s.ledger
          { s with table := table, tableOwner := none }.ledger :=
      .of_callers rfl
    have flying : ∀ other,
        (table.Flying other ↔ s.table.Flying other ∨ other = authId) ∧
          (if mustSend then s.table.nextAuthId < authId
          else s.table.Flying authId) :=
      fun other => ConntrackTable.flying_of_registers registers started
    have moved :
        ({ s with table := table, tableOwner := none }.setAttempt c
          ⟨authId, mustSend, .registered,
            if mustSend then .build else .arm⟩).ledger.Attempting c request
          ⟨authId, mustSend, .registered, if mustSend then .build else .arm⟩ :=
      attempting_setAttempt present rfl _
    exact accounted.register sound
      (not_attempting_of_inPhase present (by simp)) moved
      (copied.trans (.of_setPhase rfl)) registers.nextAuthId_le rfl rfl rfl
      (fun other => (flying other).1) (flying authId).2

/-- A step of a caller keeps the split. -/
theorem callerStep {phase : CallerPhase}
    (accounted : Accounted recorded settled cancelled s.ledger)
    (rationed : Rationed cfg s.ledger) (sound : Sound s.ledger)
    (fit : s.table.Fit) (delivered : Delivered s)
    (orderly : Orderly cfg s action)
    (present : s.ledger.InPhase c request phase)
    (step : CallerStep cfg s c request action phase s') :
    After recorded settled cancelled (authEvents s action) s'.ledger := by
  have stands : s.callers c = some ⟨request, phase⟩ := present
  have checks :
      phase ≠ .claim → (∀ attempt, phase ≠ .attempting attempt) →
        phase.claiming = false →
        CallerStep cfg s c request action phase s' →
        After recorded settled cancelled (authEvents s action) s'.ledger := by
    intro notClaim notAttempting notClaiming step
    cases step with
    | check checked =>
        rename_i order phase'
        have nothing : authEvents s (.advance c order) = [] := by
          cases checkStep_of_checkPhase checked <;>
            simp only [authEvents, stands]
        rw [after_nil nothing]
        have after : ∀ attempt, phase' ≠ .attempting attempt := by
          intro attempt
          cases checkStep_of_checkPhase checked <;> simp
        have same :
            SameAttempts (fun _ => False) s.ledger
              (s.setPhase c phase').ledger :=
          .of_stroll present notAttempting after
        exact accounted.stroll same (Nat.le_refl _) rfl rfl rfl
          fun _ => Iff.rfl
    | claim free => exact absurd rfl notClaim
    | claimSettle => cases notClaiming
    | insert room => cases notClaiming
    | _ => exact absurd rfl (notAttempting _)
  cases phase with
  | attempting attempt =>
      exact accounted.attemptStep rationed sound delivered orderly present step
  | claim =>
      cases step with
      | check checked => cases checkStep_of_checkPhase checked
      | claim free =>
          exact accounted.claim rationed sound orderly present
  | claimInsert =>
      cases step with
      | check checked => cases checkStep_of_checkPhase checked
      | insert room =>
          rename_i order
          have nothing : authEvents s (.advance c order) = [] := by
            simp only [authEvents, stands]
          rw [after_nil nothing]
          exact accounted.insert sound fit room present
  | claimSettle =>
      cases step with
      | check checked => cases checkStep_of_checkPhase checked
      | claimSettle =>
          rename_i order
          have nothing : authEvents s (.advance c order) = [] := by
            simp only [authEvents, stands]
          rw [after_nil nothing]
          have same :
              SameAttempts (fun _ => False) s.ledger
                ({ s with
                    stats :=
                      { s.stats with
                        inFlight := s.stats.inFlight - 1 } }.setPhase c
                  .claimInsert).ledger :=
            .of_stroll present (by simp) (by simp)
          exact accounted.stroll same (Nat.le_refl _) rfl rfl rfl
            fun _ => Iff.rfl
  | checkClosed => exact checks (by simp) (by simp) rfl step
  | checkVip => exact checks (by simp) (by simp) rfl step
  | reportVip => exact checks (by simp) (by simp) rfl step
  | answered result => exact checks (by simp) (by simp) rfl step

end Accounted

end HermesAtrust.L3
