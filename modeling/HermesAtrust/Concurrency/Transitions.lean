import Mathlib.Data.Option.Basic

/-!
# Runs of partial transition functions

A system is given by a function that says, for a state and the name of an
atomic step, either that the step is not enabled or which state it leads to.
An interleaving is a list of step names.  Safety is proved from a step lemma:
an invariant that holds at the start and survives every enabled step, possibly
only the steps that meet a condition, holds in every state a run reaches.
-/

namespace HermesAtrust.Concurrency

universe u v

variable {State : Type u} {Action : Type v}

/-- The state after the steps, if each of them is enabled in its turn. -/
def run (next : State → Action → Option State) :
    State → List Action → Option State
  | state, [] => some state
  | state, action :: later =>
      match next state action with
      | none => none
      | some middle => run next middle later

/-- Every step of the run meets the condition in the state it is taken from. -/
def Meets (next : State → Action → Option State)
    (condition : State → Action → Prop) : State → List Action → Prop
  | _, [] => True
  | state, action :: later =>
      condition state action ∧
        ∀ middle, next state action = some middle →
          Meets next condition middle later

/-- What an observer notes along a run: each step is observed in the state it is
taken from. -/
def observed {Event : Type*} (next : State → Action → Option State)
    (observe : State → Action → List Event) : State → List Action → List Event
  | _, [] => []
  | state, action :: later =>
      match next state action with
      | none => []
      | some middle => observe state action ++ observed next observe middle later

section

variable {next : State → Action → Option State} {start final : State}
  {actions : List Action}

theorem run_append (before after : List Action) :
    run next start (before ++ after) =
      (run next start before).bind fun middle => run next middle after := by
  induction before generalizing start with
  | nil => rfl
  | cons action later inductionHypothesis =>
      simp only [List.cons_append, run]
      cases next start action with
      | none => rfl
      | some middle => exact inductionHypothesis

/-- A run of one more step. -/
theorem run_snoc {middle : State} {action : Action}
    (ran : run next start actions = some middle)
    (stepped : next middle action = some final) :
    run next start (actions ++ [action]) = some final := by
  rw [run_append, ran]
  simp [run, stepped]

theorem meets_cons {condition : State → Action → Prop} {middle : State}
    {action : Action} (met : condition start action)
    (stepped : next start action = some middle)
    (later : Meets next condition middle actions) :
    Meets next condition start (action :: actions) := by
  refine ⟨met, ?_⟩
  intro other same
  cases stepped.symm.trans same
  exact later

theorem meets_append {condition : State → Action → Prop} {middle : State}
    {before after : List Action}
    (first : Meets next condition start before)
    (ran : run next start before = some middle)
    (later : Meets next condition middle after) :
    Meets next condition start (before ++ after) := by
  induction before generalizing start with
  | nil =>
      cases ran
      exact later
  | cons action rest inductionHypothesis =>
      rw [run] at ran
      refine ⟨first.1, ?_⟩
      intro reached stepped
      rw [stepped] at ran
      exact inductionHypothesis (first.2 reached stepped) ran

/-- A condition that can be decided can be checked along a run. -/
instance decidableMeets {condition : State → Action → Prop}
    [∀ state action, Decidable (condition state action)] :
    ∀ (start : State) (actions : List Action),
      Decidable (Meets next condition start actions)
  | _, [] => isTrue trivial
  | start, action :: later =>
      match reached : next start action with
      | none =>
          decidable_of_iff (condition start action)
            ⟨fun met => ⟨met, fun middle stepped => by
              rw [reached] at stepped
              cases stepped⟩, fun met => met.1⟩
      | some middle =>
          have : Decidable (Meets next condition middle later) :=
            decidableMeets middle later
          decidable_of_iff
            (condition start action ∧ Meets next condition middle later)
            ⟨fun met => meets_cons met.1 reached met.2,
              fun met => ⟨met.1, met.2 middle reached⟩⟩

/-- A state that a run reaches, known by what a view shows of it. -/
theorem exists_of_view {View : Type*} {reached : Option State}
    {holds : State → Prop} (view : State → View) (shown : View)
    (shows : reached.map view = some shown)
    (known : ∀ state, reached = some state → view state = shown → holds state) :
    ∃ state, reached = some state ∧ holds state := by
  obtain ⟨state, ran, seen⟩ := Option.map_eq_some_iff.mp shows
  exact ⟨state, ran, known state ran seen⟩

/-- A condition that the named steps meet in every state. -/
theorem meets_of_forall {condition : State → Action → Prop}
    (met : ∀ state, ∀ action ∈ actions, condition state action) :
    Meets next condition start actions := by
  induction actions generalizing start with
  | nil => trivial
  | cons action later inductionHypothesis =>
      refine ⟨met start action List.mem_cons_self, ?_⟩
      intro middle _
      exact inductionHypothesis fun state action listed =>
        met state action (List.mem_cons_of_mem _ listed)

theorem meets_mono {condition weaker : State → Action → Prop}
    (implied : ∀ state action, condition state action → weaker state action)
    (meets : Meets next condition start actions) :
    Meets next weaker start actions := by
  induction actions generalizing start with
  | nil => trivial
  | cons action later inductionHypothesis =>
      refine ⟨implied start action meets.1, ?_⟩
      intro middle stepped
      exact inductionHypothesis (meets.2 middle stepped)

/-- The invariant rule for runs whose steps meet a condition. -/
theorem invariant_of_meets {condition : State → Action → Prop}
    (invariant : State → Prop) (initially : invariant start)
    (step :
      ∀ state action after, invariant state → condition state action →
        next state action = some after → invariant after)
    (meets : Meets next condition start actions)
    (ran : run next start actions = some final) : invariant final := by
  induction actions generalizing start with
  | nil =>
      cases ran
      exact initially
  | cons action later inductionHypothesis =>
      rw [run] at ran
      cases stepped : next start action with
      | none => simp [stepped] at ran
      | some middle =>
          simp only [stepped] at ran
          exact inductionHypothesis
            (step start action middle initially meets.1 stepped)
            (meets.2 middle stepped) ran

/-- The invariant rule for invariants that speak about what has been observed,
in runs whose steps meet a condition. -/
theorem invariant_of_observed {Event : Type*}
    {condition : State → Action → Prop}
    {observe : State → Action → List Event}
    (invariant : List Event → State → Prop) (initially : invariant [] start)
    (step :
      ∀ events state action after, invariant events state →
        condition state action → next state action = some after →
        invariant (events ++ observe state action) after)
    (meets : Meets next condition start actions)
    (ran : run next start actions = some final) :
    invariant (observed next observe start actions) final := by
  have general :
      ∀ (events : List Event) (state : State) (future : List Action),
        invariant events state → Meets next condition state future →
        run next state future = some final →
        invariant (events ++ observed next observe state future) final := by
    intro events state future
    induction future generalizing events state with
    | nil =>
        intro holds _ ended
        cases ended
        simpa [observed] using holds
    | cons action later inductionHypothesis =>
        intro holds met ended
        rw [run] at ended
        rw [observed]
        cases stepped : next state action with
        | none => simp [stepped] at ended
        | some middle =>
            simp only [stepped] at ended
            have continued :=
              inductionHypothesis (events ++ observe state action) middle
                (step events state action middle holds met.1 stepped)
                (met.2 middle stepped) ended
            simpa using continued
  simpa using general [] start actions initially meets ran

/-- The invariant rule for invariants that speak about the steps so far. -/
theorem invariant_of_history (invariant : List Action → State → Prop)
    (initially : invariant [] start)
    (step :
      ∀ past state action after, run next start past = some state →
        invariant past state → next state action = some after →
        invariant (past ++ [action]) after)
    (ran : run next start actions = some final) : invariant actions final := by
  have general :
      ∀ (future past : List Action) (state : State),
        run next start past = some state → invariant past state →
        run next state future = some final →
        invariant (past ++ future) final := by
    intro future
    induction future with
    | nil =>
        intro past state reached holds ended
        cases ended
        simpa using holds
    | cons action later inductionHypothesis =>
        intro past state reached holds ended
        rw [run] at ended
        cases stepped : next state action with
        | none => simp [stepped] at ended
        | some middle =>
            simp only [stepped] at ended
            have continued :=
              inductionHypothesis (past ++ [action]) middle
                (run_snoc reached stepped)
                (step past state action middle reached holds stepped) ended
            simpa using continued
  simpa using general actions [] start rfl initially ran

/-- The invariant rule for all runs. -/
theorem invariant_of_run (invariant : State → Prop)
    (initially : invariant start)
    (step :
      ∀ state action after, invariant state →
        next state action = some after → invariant after)
    (ran : run next start actions = some final) : invariant final := by
  refine invariant_of_history (fun _ => invariant) initially ?_ ran
  intro past state action after reached holds stepped
  exact step state action after holds stepped

end

end HermesAtrust.Concurrency
