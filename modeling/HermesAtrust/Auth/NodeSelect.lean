import HermesAtrust.Client.HostPort
import HermesAtrust.Search.LeastIndex

/-!
# Selecting a node

`select_node_with`: every advertised endpoint is probed and the measurements
are ranked; without a request the first reachable one is chosen, with a request
the one that was asked for.  A request that is not advertised is refused before
anything is probed, or probed alone.

A probe may answer each call differently, even for the same endpoint.
-/

namespace HermesAtrust.Auth.NodeSelect

open HermesAtrust.Client.Nodes (splitHostPort defaultNodePort portText)
open HermesAtrust.Search HermesAtrust.Text

/-- Resolved data-plane endpoint for a node group member. -/
structure ResolvedNodeEndpoint where
  host : Str
  port : UInt16
  addressType : Str
  fromSdpcPlaceholder : Bool
  deriving DecidableEq, Repr

inductive NodeTlsProbeOutcome where
  | ok
  | tcpConnectFailed
  | tlsHandshakeFailed
  | timeout
  | invalidServerName
  deriving DecidableEq, Repr

/-- One endpoint's measured reachability, with the elapsed time in
nanoseconds. -/
structure NodeMeasurement where
  groupId : Str
  endpoint : ResolvedNodeEndpoint
  outcome : NodeTlsProbeOutcome
  elapsed : Nat
  deriving DecidableEq, Repr

def NodeMeasurement.reachable (measurement : NodeMeasurement) : Bool :=
  measurement.outcome == .ok

/-- Why the chosen endpoint won. -/
inductive SelectionSource where
  | requested
  | requestedUnadvertised
  | lowestLatency
  deriving DecidableEq, Repr

/-- What to do with a request that the gateway never advertised. -/
inductive UnadvertisedNode where
  | reject
  | allow
  deriving DecidableEq, Repr

/-- Outcome of one selection pass. -/
structure NodeSelection where
  chosen : NodeMeasurement
  ranked : List NodeMeasurement
  source : SelectionSource
  deriving DecidableEq, Repr

inductive NodeSelectError where
  | noCandidates
  | malformedAddress (address : Str)
  | notAdvertised (requested : Str) (advertised : List Str)
  | requestedUnreachable (requested : Str) (outcome : NodeTlsProbeOutcome)
  | allUnreachable (ranked : List NodeMeasurement)
  deriving DecidableEq, Repr

/-- A node group and an endpoint of it. -/
abbrev Candidate := Str × ResolvedNodeEndpoint

/-- The answers of a probe, by the number of the call. -/
abbrev Probe := Nat → Str → UInt16 → NodeTlsProbeOutcome × Nat

/-! ## Addresses -/

/-- `format_host_port`. -/
def formatHostPort (host : Str) (port : UInt16) : Str :=
  if ':' ∈ host ∧ host.head? ≠ some '[' then
    '[' :: host ++ ']' :: ':' :: portText port
  else
    host ++ ':' :: portText port

/-- `socket_display`. -/
def ResolvedNodeEndpoint.socketDisplay (endpoint : ResolvedNodeEndpoint) :
    Str :=
  formatHostPort endpoint.host endpoint.port

/-- `parse_host_port`. -/
def parseHostPort (value : Str) : Option (Str × UInt16) :=
  splitHostPort value defaultNodePort

/-- `matches_endpoint`. -/
def matchesEndpoint (endpoint : ResolvedNodeEndpoint) (host : Str)
    (port : UInt16) : Bool :=
  endpoint.port == port && eqIgnoreAsciiCase endpoint.host host

/-- `is_advertised`. -/
def isAdvertised (candidates : List Candidate) (host : Str) (port : UInt16) :
    Bool :=
  candidates.any fun candidate => matchesEndpoint candidate.2 host port

/-- `advertised_addresses`: in order and without repetitions. -/
def advertisedAddresses (candidates : List Candidate) : List Str :=
  ((candidates.map fun candidate => candidate.2.socketDisplay).mergeSort
    fun first second => decide (first ≤ second)).dedup

/-! ## Measuring and choosing -/

/-- The measurement of a call. -/
def measure (probe : Probe) (call : Nat) (candidate : Candidate) :
    NodeMeasurement :=
  let answer := probe call candidate.2.host candidate.2.port
  ⟨candidate.1, candidate.2, answer.1, answer.2⟩

/-- The measurements of all candidates. -/
def measureAll (probe : Probe) (candidates : List Candidate) :
    List NodeMeasurement :=
  candidates.mapIdx (measure probe)

/-- Reachable first, then ascending latency. -/
def measurementKey (measurement : NodeMeasurement) : ℕ ×ₗ ℕ :=
  toLex (if measurement.reachable then 0 else 1, measurement.elapsed)

/-- The endpoint of a request that is not advertised. -/
def unadvertisedCandidate (host : Str) (port : UInt16) : Candidate :=
  ([], ⟨host, port, "override".toList, false⟩)

/-- What is chosen of the ranked measurements. -/
def choose (candidates : List Candidate) (request : Option (Str × UInt16))
    (ranked : List NodeMeasurement) :
    Except NodeSelectError NodeSelection :=
  match request with
  | some (host, port) =>
      match ranked.find? fun measurement =>
          matchesEndpoint measurement.endpoint host port with
      | none =>
          .error
            (.notAdvertised (formatHostPort host port)
              (advertisedAddresses candidates))
      | some measurement =>
          if measurement.reachable then
            .ok ⟨measurement, ranked, .requested⟩
          else
            .error
              (.requestedUnreachable (formatHostPort host port)
                measurement.outcome)
  | none =>
      match ranked.find? NodeMeasurement.reachable with
      | none => .error (.allUnreachable ranked)
      | some chosen => .ok ⟨chosen, ranked, .lowestLatency⟩

/-- The part of `select_node_with` behind the check of a request. -/
def selectAdvertised (candidates : List Candidate)
    (request : Option (Str × UInt16)) (probe : Probe) :
    Except NodeSelectError NodeSelection × List NodeMeasurement :=
  if candidates = [] then
    (.error .noCandidates, [])
  else
    let measurements := measureAll probe candidates
    (choose candidates request (sortByKey measurementKey measurements),
      measurements)

/-- A request that is not advertised, probed alone. -/
def selectUnadvertised (host : Str) (port : UInt16) (probe : Probe) :
    Except NodeSelectError NodeSelection × List NodeMeasurement :=
  let measurement := measure probe 0 (unadvertisedCandidate host port)
  if measurement.reachable then
    (.ok ⟨measurement, [measurement], .requestedUnadvertised⟩,
      [measurement])
  else
    (.error
      (.requestedUnreachable (formatHostPort host port) measurement.outcome),
      [measurement])

/-- `select_node_with`, and the measurements that were made. -/
def selectNodeWith (candidates : List Candidate) (requested : Option Str)
    (unadvertised : UnadvertisedNode) (probe : Probe) :
    Except NodeSelectError NodeSelection × List NodeMeasurement :=
  match requested with
  | none => selectAdvertised candidates none probe
  | some value =>
      match parseHostPort value with
      | none => (.error (.malformedAddress value), [])
      | some (host, port) =>
          if isAdvertised candidates host port then
            selectAdvertised candidates (some (host, port)) probe
          else
            match unadvertised with
            | .reject =>
                (.error
                  (.notAdvertised (formatHostPort host port)
                    (advertisedAddresses candidates)), [])
            | .allow => selectUnadvertised host port probe

/-- `failover_endpoints`. -/
def NodeSelection.failoverEndpoints (selection : NodeSelection) :
    List ResolvedNodeEndpoint :=
  match selection.source with
  | .requested | .requestedUnadvertised => [selection.chosen.endpoint]
  | .lowestLatency =>
      (selection.ranked.filter NodeMeasurement.reachable).map
        NodeMeasurement.endpoint

/-! ## What a selection promises -/

/-- The endpoint is the one that was asked for. -/
def Answers (value : Str) (endpoint : ResolvedNodeEndpoint) : Prop :=
  ∃ host port, parseHostPort value = some (host, port) ∧
    endpoint.port = port ∧
      toAsciiLowercase endpoint.host = toAsciiLowercase host

/-- Reachable measurements come first, the faster ones before the slower
ones. -/
def Precedes (first second : NodeMeasurement) : Prop :=
  (second.reachable = true → first.reachable = true) ∧
    (second.reachable = true → first.elapsed ≤ second.elapsed)

/-- What holds of the result of a selection and of the measurements made. -/
structure Selects (candidates : List Candidate) (requested : Option Str)
    (unadvertised : UnadvertisedNode) (probe : Probe)
    (result : Except NodeSelectError NodeSelection)
    (measurements : List NodeMeasurement) : Prop where
  reachable :
    ∀ selection, result = .ok selection →
      selection.chosen.reachable = true ∧
        selection.chosen ∈ selection.ranked
  ranked :
    ∀ selection, result = .ok selection →
      selection.ranked.Perm measurements ∧
        selection.ranked.Pairwise Precedes
  reported :
    ∀ ranked, result = .error (.allUnreachable ranked) →
      ranked.Perm measurements ∧ ranked.Pairwise Precedes
  measured :
    (∀ value, requested = some value →
      ∃ candidate ∈ candidates, Answers value candidate.2) →
    measurements = measureAll probe candidates
  fastest :
    requested = none → ∀ selection, result = .ok selection →
      ∀ measurement ∈ measureAll probe candidates,
        measurement.reachable = true →
          selection.chosen.elapsed ≤ measurement.elapsed
  fails :
    requested = none →
      ((∃ error, result = .error error) ↔
        ∀ measurement ∈ measureAll probe candidates,
          measurement.reachable = false)
  pinned :
    ∀ value, requested = some value → ∀ selection, result = .ok selection →
      Answers value selection.chosen.endpoint
  refused :
    ∀ value, requested = some value → unadvertised = .reject →
      (¬ ∃ candidate ∈ candidates, Answers value candidate.2) →
      (∃ error, result = .error error) ∧ measurements = []
  failover :
    ∀ selection, result = .ok selection →
      (∀ endpoint ∈ selection.failoverEndpoints,
        ∃ measurement ∈ measurements,
          measurement.reachable = true ∧
            measurement.endpoint = endpoint) ∧
      (requested.isSome = true →
        selection.failoverEndpoints = [selection.chosen.endpoint])

theorem matchesEndpoint_iff {endpoint : ResolvedNodeEndpoint} {host : Str}
    {port : UInt16} :
    matchesEndpoint endpoint host port = true ↔
      endpoint.port = port ∧
        toAsciiLowercase endpoint.host = toAsciiLowercase host := by
  rw [matchesEndpoint, Bool.and_eq_true, beq_iff_eq, eqIgnoreAsciiCase,
    decide_eq_true_iff]

/-- A request is advertised if a candidate answers it. -/
theorem isAdvertised_iff {candidates : List Candidate} {value host : Str}
    {port : UInt16} (parsed : parseHostPort value = some (host, port)) :
    isAdvertised candidates host port = true ↔
      ∃ candidate ∈ candidates, Answers value candidate.2 := by
  rw [isAdvertised, List.any_eq_true]
  constructor
  · rintro ⟨candidate, listed, matching⟩
    exact ⟨candidate, listed, host, port, parsed,
      matchesEndpoint_iff.mp matching⟩
  · rintro ⟨candidate, listed, host', port', parsed', answers⟩
    rw [parsed] at parsed'
    cases parsed'
    exact ⟨candidate, listed, matchesEndpoint_iff.mpr answers⟩

theorem precedes_of_key {first second : NodeMeasurement}
    (below : measurementKey first ≤ measurementKey second) :
    Precedes first second := by
  unfold measurementKey at below
  rw [Prod.Lex.toLex_le_toLex] at below
  unfold Precedes
  by_cases reached : second.reachable = true
  · rw [if_pos reached] at below
    by_cases before : first.reachable = true
    · rw [if_pos before] at below
      have faster : first.elapsed ≤ second.elapsed := by
        rcases below with less | ⟨-, elapsed⟩
        · exact absurd less (Nat.lt_irrefl 0)
        · exact elapsed
      exact ⟨fun _ => before, fun _ => faster⟩
    · rw [if_neg before] at below
      rcases below with less | ⟨same, -⟩
      · exact absurd less (Nat.not_lt_zero 1)
      · exact absurd same Nat.one_ne_zero
  · exact ⟨fun other => absurd other reached, fun other => absurd other reached⟩

theorem ranked_pairwise (measurements : List NodeMeasurement) :
    (sortByKey measurementKey measurements).Pairwise Precedes :=
  (sortByKey_pairwise measurementKey measurements).imp precedes_of_key

section

variable {candidates : List Candidate} {ranked : List NodeMeasurement}
  {selection : NodeSelection}

/-- What is chosen for a request answers it. -/
theorem choose_requested {host : Str} {port : UInt16}
    (chosen : choose candidates (some (host, port)) ranked = .ok selection) :
    selection.ranked = ranked ∧ selection.chosen ∈ ranked ∧
      selection.chosen.reachable = true ∧
      matchesEndpoint selection.chosen.endpoint host port = true ∧
      selection.source = .requested := by
  unfold choose at chosen
  simp only at chosen
  split at chosen
  · cases chosen
  · next measurement found =>
      split at chosen
      · next reached =>
          cases chosen
          have matching := List.find?_some found
          exact ⟨rfl, List.mem_of_find?_eq_some found, reached, matching, rfl⟩
      · cases chosen

/-- Without a request the first reachable measurement is chosen. -/
theorem choose_unrequested
    (chosen : choose candidates none ranked = .ok selection) :
    selection.ranked = ranked ∧
      ranked.find? NodeMeasurement.reachable = some selection.chosen ∧
      selection.source = .lowestLatency := by
  unfold choose at chosen
  simp only at chosen
  split at chosen
  · cases chosen
  · next measurement found =>
      cases chosen
      exact ⟨rfl, found, rfl⟩

end

section

variable {candidates : List Candidate} {requested : Option Str}
  {unadvertised : UnadvertisedNode} {probe : Probe}

/-- A refusal before anything is probed. -/
theorem selects_of_refusal {error : NodeSelectError}
    (unranked : ∀ ranked, error ≠ .allUnreachable ranked)
    (unanswered :
      (∀ value, requested = some value →
        ∃ candidate ∈ candidates, Answers value candidate.2) →
      candidates = []) :
    Selects candidates requested unadvertised probe (.error error) [] := by
  constructor
  · intro selection absurdity
    cases absurdity
  · intro selection absurdity
    cases absurdity
  · intro ranked same
    cases same
    exact absurd rfl (unranked ranked)
  · intro answered
    rw [unanswered answered]
    rfl
  · intro _ selection absurdity
    cases absurdity
  · intro none
    have empty : candidates = [] := by
      apply unanswered
      intro value some
      rw [none] at some
      cases some
    rw [empty]
    constructor
    · intro _ measurement listed
      cases listed
    · intro _
      exact ⟨error, rfl⟩
  · intro value _ selection absurdity
    cases absurdity
  · intro value _ _ _
    exact ⟨⟨error, rfl⟩, rfl⟩
  · intro selection absurdity
    cases absurdity

/-- Without a request the fastest of the reachable candidates is chosen. -/
theorem selects_unrequested :
    Selects candidates none unadvertised probe
      (choose candidates none
        (sortByKey measurementKey (measureAll probe candidates)))
      (measureAll probe candidates) := by
  have permuted :=
    sortByKey_perm measurementKey (measureAll probe candidates)
  have ordered := ranked_pairwise (measureAll probe candidates)
  generalize sortByKey measurementKey (measureAll probe candidates) = ranked
    at permuted ordered
  constructor
  · intro selection chosen
    obtain ⟨same, found, -⟩ := choose_unrequested chosen
    rw [same]
    exact ⟨List.find?_some found, List.mem_of_find?_eq_some found⟩
  · intro selection chosen
    rw [(choose_unrequested chosen).1]
    exact ⟨permuted, ordered⟩
  · intro reported failed
    unfold choose at failed
    simp only at failed
    split at failed
    · cases failed
      exact ⟨permuted, ordered⟩
    · cases failed
  · intro _
    rfl
  · intro _ selection chosen measurement measured reached
    obtain ⟨-, found, -⟩ := choose_unrequested chosen
    obtain ⟨-, before, after, split, rejected⟩ :=
      List.find?_eq_some_iff_append.mp found
    have listed := permuted.mem_iff.mpr measured
    rw [split] at listed ordered
    rcases List.mem_append.mp listed with earlier | later
    · have unreached := rejected measurement earlier
      rw [reached] at unreached
      cases unreached
    · rcases List.mem_cons.mp later with rfl | behind
      · exact Nat.le_refl _
      · have pair := (List.pairwise_append.mp ordered).2.1
        exact ((List.pairwise_cons.mp pair).1 measurement behind).2 reached
  · intro _
    constructor
    · rintro ⟨error, failed⟩ measurement measured
      cases found : ranked.find? NodeMeasurement.reachable with
      | some other =>
          rw [choose, found] at failed
          cases failed
      | none =>
          have rejected :=
            List.find?_eq_none.mp found measurement
              (permuted.mem_iff.mpr measured)
          exact Bool.eq_false_iff.mpr rejected
    · intro unreached
      have absent : ranked.find? NodeMeasurement.reachable = none := by
        rw [List.find?_eq_none]
        intro measurement listed
        rw [unreached measurement (permuted.mem_iff.mp listed)]
        exact Bool.false_ne_true
      refine ⟨.allUnreachable ranked, ?_⟩
      rw [choose, absent]
  · intro value absurdity
    cases absurdity
  · intro value absurdity
    cases absurdity
  · intro selection chosen
    obtain ⟨same, -, source⟩ := choose_unrequested chosen
    rw [NodeSelection.failoverEndpoints, source, same]
    constructor
    · intro endpoint listed
      obtain ⟨measurement, kept, rfl⟩ := List.mem_map.mp listed
      obtain ⟨inRanked, reached⟩ := List.mem_filter.mp kept
      exact ⟨measurement, permuted.mem_iff.mp inRanked, reached, rfl⟩
    · intro absurdity
      cases absurdity

/-- A request that a candidate answers is answered by what is chosen. -/
theorem selects_requested {value host : Str} {port : UInt16}
    (parsed : parseHostPort value = some (host, port))
    (advertised : ∃ candidate ∈ candidates, Answers value candidate.2) :
    Selects candidates (some value) unadvertised probe
      (choose candidates (some (host, port))
        (sortByKey measurementKey (measureAll probe candidates)))
      (measureAll probe candidates) := by
  have permuted :=
    sortByKey_perm measurementKey (measureAll probe candidates)
  have ordered := ranked_pairwise (measureAll probe candidates)
  generalize sortByKey measurementKey (measureAll probe candidates) = ranked
    at permuted ordered
  constructor
  · intro selection chosen
    obtain ⟨same, listed, reached, -⟩ := choose_requested chosen
    rw [same]
    exact ⟨reached, listed⟩
  · intro selection chosen
    rw [(choose_requested chosen).1]
    exact ⟨permuted, ordered⟩
  · intro reported failed
    unfold choose at failed
    simp only at failed
    split at failed
    · cases failed
    · split at failed
      · cases failed
      · cases failed
  · intro _
    rfl
  · intro absurdity
    cases absurdity
  · intro absurdity
    cases absurdity
  · intro other same selection chosen
    cases same
    obtain ⟨-, -, -, matching, -⟩ := choose_requested chosen
    exact ⟨host, port, parsed, matchesEndpoint_iff.mp matching⟩
  · intro other same _ unanswered
    cases same
    exact absurd advertised unanswered
  · intro selection chosen
    obtain ⟨-, listed, reached, -, source⟩ := choose_requested chosen
    rw [NodeSelection.failoverEndpoints, source]
    constructor
    · intro endpoint same
      exact ⟨selection.chosen, permuted.mem_iff.mp listed, reached,
        (List.mem_singleton.mp same).symm⟩
    · intro _
      rfl

/-- A request that no candidate answers is probed alone if that is allowed. -/
theorem selects_unadvertised {value host : Str} {port : UInt16}
    (parsed : parseHostPort value = some (host, port))
    (unanswered : ¬ ∃ candidate ∈ candidates, Answers value candidate.2) :
    Selects candidates (some value) .allow probe
      (selectUnadvertised host port probe).1
      (selectUnadvertised host port probe).2 := by
  have answers :
      Answers value
        (measure probe 0 (unadvertisedCandidate host port)).endpoint :=
    ⟨host, port, parsed, rfl, rfl⟩
  unfold selectUnadvertised
  generalize measure probe 0 (unadvertisedCandidate host port) = measurement
    at answers
  simp only
  by_cases reached : measurement.reachable = true
  · rw [if_pos reached]
    constructor
    · intro selection chosen
      cases chosen
      exact ⟨reached, List.mem_singleton.mpr rfl⟩
    · intro selection chosen
      cases chosen
      exact ⟨List.Perm.refl _, List.pairwise_singleton _ _⟩
    · intro ranked absurdity
      cases absurdity
    · intro answered
      exact absurd (answered value rfl) unanswered
    · intro absurdity
      cases absurdity
    · intro absurdity
      cases absurdity
    · intro other same selection chosen
      cases same
      cases chosen
      exact answers
    · intro other _ absurdity
      cases absurdity
    · intro selection chosen
      cases chosen
      constructor
      · intro endpoint same
        exact ⟨measurement, List.mem_singleton.mpr rfl, reached,
          (List.mem_singleton.mp same).symm⟩
      · intro _
        rfl
  · rw [if_neg reached]
    constructor
    · intro selection absurdity
      cases absurdity
    · intro selection absurdity
      cases absurdity
    · intro ranked absurdity
      cases absurdity
    · intro answered
      exact absurd (answered value rfl) unanswered
    · intro absurdity
      cases absurdity
    · intro absurdity
      cases absurdity
    · intro other _ selection absurdity
      cases absurdity
    · intro other _ absurdity
      cases absurdity
    · intro selection absurdity
      cases absurdity

/-- A selection chooses a reachable node, the fastest one or the one that was
asked for, and ranks what it has measured. -/
theorem selectNodeWith_selects (candidates : List Candidate)
    (requested : Option Str) (unadvertised : UnadvertisedNode)
    (probe : Probe) :
    Selects candidates requested unadvertised probe
      (selectNodeWith candidates requested unadvertised probe).1
      (selectNodeWith candidates requested unadvertised probe).2 := by
  unfold selectNodeWith
  cases requested with
  | none =>
      simp only [selectAdvertised]
      by_cases empty : candidates = []
      · rw [if_pos empty]
        exact selects_of_refusal (fun ranked => by simp) fun _ => empty
      · rw [if_neg empty]
        exact selects_unrequested
  | some value =>
      simp only
      cases parsed : parseHostPort value with
      | none =>
          apply selects_of_refusal (fun ranked => by simp)
          intro answered
          obtain ⟨-, -, host, port, known, -⟩ := answered value rfl
          rw [parsed] at known
          cases known
      | some address =>
          obtain ⟨host, port⟩ := address
          simp only
          by_cases known : isAdvertised candidates host port = true
          · have advertised := (isAdvertised_iff parsed).mp known
            have nonempty : candidates ≠ [] := by
              rintro rfl
              cases known
            rw [if_pos known, selectAdvertised, if_neg nonempty]
            exact selects_requested parsed advertised
          · have unanswered := mt (isAdvertised_iff parsed).mpr known
            rw [if_neg known]
            cases unadvertised with
            | reject =>
                apply selects_of_refusal (fun ranked => by simp)
                intro answered
                exact absurd (answered value rfl) unanswered
            | allow => exact selects_unadvertised parsed unanswered

end

end HermesAtrust.Auth.NodeSelect
