import HermesAtrust.L3.ManagerPlacement
import Mathlib.Data.List.Rotate

/-!
# Dialing the candidates of a node group

What the calls of `session` dial is kept in a log.  Each call is accounted for
on its own: the candidates it read, the index it began at, the endpoints it
dialed with their results, and the index it left behind.  The phase of a call
tells how far its account has come.
-/

namespace HermesAtrust.L3.Manager

/-- The attempt is the last one of its call and may be repeated later. -/
def State.exhausts (state : State) (id : CallId)
    (result : Except EstablishError Ipv4Addr) : Bool :=
  match state.calls id, result with
  | some (.session (.connecting endpoints _ offset)), .error error =>
      establishmentIsRetryable error && !decide (offset + 1 < endpoints.length)
  | _, _ => false

/-- A call of `session` reads the candidates and `next_endpoint`, learns how an
attempt ended, sets `next_endpoint`, or gives up. -/
inductive DialEvent where
  | opened (id : CallId) (candidates : List L3NodeEndpoint) (first : Nat)
  | dialed (id : CallId) (endpoint : L3NodeEndpoint)
      (result : Except EstablishError Ipv4Addr)
  | stored (id : CallId) (nextEndpoint : Nat)
  | exhausted (id : CallId)

/-- The call the event is about. -/
def DialEvent.caller : DialEvent → CallId
  | .opened id _ _ => id
  | .dialed id _ _ => id
  | .stored id _ => id
  | .exhausted id => id

/-- What an action adds to the log. -/
def State.observe (state : State) : Action → List DialEvent
  | .advance id =>
      match state.calls id with
      | some (.session .resting) =>
          if state.endpoints = [] then
            []
          else
            [.opened id state.endpoints state.nextEndpoint]
      | some (.session (.storing _ index count)) =>
          [.stored id ((index + 1) % count)]
      | _ => []
  | .establish id result =>
      match state.calls id with
      | some (.session (.connecting endpoints start offset)) =>
          match endpoints[(start + offset) % endpoints.length]? with
          | none => []
          | some endpoint =>
              .dialed id endpoint result ::
                if state.exhausts id result then [.exhausted id] else []
      | _ => []
  | _ => []

/-- What one call has done. -/
structure Record where
  opened : List (List L3NodeEndpoint × Nat)
  dialed : List (L3NodeEndpoint × Except EstablishError Ipv4Addr)
  stored : List Nat

def Record.blank : Record := ⟨[], [], []⟩

def Record.note (record : Record) : DialEvent → Record
  | .opened _ candidates first =>
      { record with opened := record.opened ++ [(candidates, first)] }
  | .dialed _ endpoint result =>
      { record with dialed := record.dialed ++ [(endpoint, result)] }
  | .stored _ nextEndpoint =>
      { record with stored := record.stored ++ [nextEndpoint] }
  | .exhausted _ => record

/-- The record of a call in a log. -/
def recordOf (id : CallId) (events : List DialEvent) : Record :=
  (events.filter fun event => decide (event.caller = id)).foldl Record.note
    .blank

/-- The `next_endpoint` that a log leaves behind. -/
def nextEndpointAfter (first : Nat) : List DialEvent → Nat
  | [] => first
  | .stored _ nextEndpoint :: later => nextEndpointAfter nextEndpoint later
  | _ :: later => nextEndpointAfter first later

/-- The attempt failed and may be repeated. -/
def Retried (dial : L3NodeEndpoint × Except EstablishError Ipv4Addr) : Prop :=
  ∃ error, dial.2 = .error error ∧ establishmentIsRetryable error = true

/-- The call has read candidates, and dialed a part of them in cyclic order
from the first one; no attempt followed another unless that one failed and may
be repeated. -/
structure InTurn (record : Record) (candidates : List L3NodeEndpoint)
    (first : Nat) : Prop where
  opened : record.opened = [(candidates, first)]
  distinct : candidates.Nodup
  order :
    record.dialed.map Prod.fst =
      (candidates.rotate (first % candidates.length)).take
        record.dialed.length
  bounded : record.dialed.length ≤ candidates.length
  repeated : ∀ dial ∈ record.dialed.dropLast, Retried dial

/-- The last attempt succeeded, and the call left the index behind that follows
the one of its endpoint. -/
def Followed (record : Record) (candidates : List L3NodeEndpoint) : Prop :=
  ∃ (index : Nat) (endpoint : L3NodeEndpoint) (vip : Ipv4Addr),
    candidates[index]? = some endpoint ∧
    record.dialed.getLast? = some (endpoint, .ok vip) ∧
    record.stored = [(index + 1) % candidates.length]

/-- The last attempt succeeded at the index, and no index was left behind. -/
def Succeeded (record : Record) (index count : Nat) : Prop :=
  ∃ (candidates : List L3NodeEndpoint) (first : Nat)
      (endpoint : L3NodeEndpoint) (vip : Ipv4Addr),
    InTurn record candidates first ∧
    record.stored = [] ∧
    count = candidates.length ∧
    candidates[index]? = some endpoint ∧
    record.dialed.getLast? = some (endpoint, .ok vip)

/-- The last attempt failed with the error, which may be repeated only if every
candidate has been dialed. -/
def GaveUp (record : Record) (error : EstablishError) : Prop :=
  ∃ (candidates : List L3NodeEndpoint) (first : Nat)
      (endpoint : L3NodeEndpoint),
    InTurn record candidates first ∧
    record.stored = [] ∧
    record.dialed.getLast? = some (endpoint, .error error) ∧
    (establishmentIsRetryable error = true →
      record.dialed.length = candidates.length)

/-- The call has dialed nothing, or a part of its candidates in their turn. -/
def Orderly (record : Record) : Prop :=
  record = .blank ∨ ∃ candidates first, InTurn record candidates first ∧
    (record.stored = [] ∨ Followed record candidates)

/-- What a call of `session` has done when it is in a phase. -/
def SessionPhase.Fits (record : Record) : SessionPhase → Prop
  | .connecting candidates start offset =>
      ∃ first, InTurn record candidates first ∧
        record.stored = [] ∧
        start = first % candidates.length ∧
        record.dialed.length = offset ∧
        offset < candidates.length ∧
        ∀ dial ∈ record.dialed, Retried dial
  | .connected _ index count => Succeeded record index count
  | .storing _ index count => Succeeded record index count
  | .returned (.ok _) =>
      record = .blank ∨ ∃ candidates first, InTurn record candidates first ∧
        Followed record candidates
  | .returned (.error (.session error)) => GaveUp record error
  | .returned (.error .retired) =>
      record = .blank ∨ ∃ index count, Succeeded record index count
  | _ => record = .blank

/-- What a call has done, as far as its phase tells. -/
def Fits (record : Record) : Option Call → Prop
  | some (.session phase) => phase.Fits record
  | _ => Orderly record

section

variable {record : Record} {candidates : List L3NodeEndpoint}
  {first : Nat} {endpoint : L3NodeEndpoint}

/-- One more attempt, at the next candidate. -/
theorem InTurn.dial (inTurn : InTurn record candidates first) (id : CallId)
    (result : Except EstablishError Ipv4Addr)
    (failed : ∀ dial ∈ record.dialed, Retried dial)
    (room : record.dialed.length < candidates.length)
    (chosen :
      candidates[(first % candidates.length + record.dialed.length) %
        candidates.length]? = some endpoint) :
    InTurn (record.note (.dialed id endpoint result)) candidates first where
  opened := inTurn.opened
  distinct := inTurn.distinct
  order := by
    have next :
        (candidates.rotate (first % candidates.length))[
          record.dialed.length]? = some endpoint := by
      rw [List.getElem?_rotate room, Nat.add_comm]
      exact chosen
    simp only [Record.note, List.map_append, List.map_cons, List.map_nil,
      List.length_append, List.length_cons, List.length_nil, Nat.zero_add]
    rw [List.take_add_one, next, inTurn.order]
    rfl
  bounded := by
    simp only [Record.note, List.length_append, List.length_cons,
      List.length_nil]
    omega
  repeated := by
    simp only [Record.note, List.dropLast_concat]
    exact failed

/-- The attempts so far, and the one that is under way, are at different
candidates. -/
theorem InTurn.once (inTurn : InTurn record candidates first) :
    (record.dialed.map Prod.fst).Nodup := by
  rw [inTurn.order]
  exact (List.nodup_rotate.mpr inTurn.distinct).sublist (List.take_sublist ..)

/-- An index is left behind, and nothing is dialed. -/
theorem InTurn.store (inTurn : InTurn record candidates first) (id : CallId)
    (nextEndpoint : Nat) :
    InTurn (record.note (.stored id nextEndpoint)) candidates first :=
  ⟨inTurn.opened, inTurn.distinct, inTurn.order, inTurn.bounded,
    inTurn.repeated⟩

theorem inTurn_opened (id : CallId) (distinct : candidates.Nodup) :
    InTurn (Record.blank.note (.opened id candidates first)) candidates
      first where
  opened := rfl
  distinct := distinct
  order := by simp [Record.note, Record.blank]
  bounded := Nat.zero_le _
  repeated dial listed := by cases listed

/-- Whatever the phase, a call has dialed in turn. -/
theorem Fits.orderly {call : Option Call} (fits : Fits record call) :
    Orderly record := by
  match call, fits with
  | none, fits => exact fits
  | some (.currentSession _), fits => exact fits
  | some (.lastVip _), fits => exact fits
  | some (.invalidate _ _), fits => exact fits
  | some (.close _), fits => exact fits
  | some (.retire _), fits => exact fits
  | some (.session phase), fits =>
      have finished : ∀ index count, Succeeded record index count →
          Orderly record := by
        intro index count succeeded
        obtain ⟨candidates, first, endpoint, vip, inTurn, stored, -⟩ :=
          succeeded
        exact .inr ⟨candidates, first, inTurn, .inl stored⟩
      cases phase with
      | connecting candidates start offset =>
          obtain ⟨first, inTurn, stored, -⟩ := fits
          exact .inr ⟨candidates, first, inTurn, .inl stored⟩
      | connected session index count => exact finished index count fits
      | storing session index count => exact finished index count fits
      | returned result =>
          match result, fits with
          | .ok session, .inl blank => exact .inl blank
          | .ok session, .inr ⟨candidates, first, inTurn, followed⟩ =>
              exact .inr ⟨candidates, first, inTurn, .inr followed⟩
          | .error (.session error), fits =>
              obtain ⟨candidates, first, endpoint, inTurn, stored, -⟩ := fits
              exact .inr ⟨candidates, first, inTurn, .inl stored⟩
          | .error .retired, .inl blank => exact .inl blank
          | .error .retired, .inr ⟨index, count, succeeded⟩ =>
              exact finished index count succeeded
          | .error (.noEndpoints _), fits => exact .inl fits
      | _ => exact .inl fits

end

/-! ## One step -/

section

variable {state after : State} {id : CallId} {record : Record}

/-- A record with what an action adds for the call that takes it. -/
def Record.extend (record : Record) (events : List DialEvent) : Record :=
  events.foldl Record.note record

theorem fits_advanceSession {phase : SessionPhase}
    (distinct : state.endpoints.Nodup)
    (called : state.calls id = some (.session phase))
    (stepped : state.advanceSession id phase = some after)
    (fits : phase.Fits record) :
    Fits (record.extend (state.observe (.advance id))) (after.calls id) := by
  cases phase with
  | starting =>
      simp only [State.observe, called]
      simp only [State.advanceSession] at stepped
      split at stepped
      · cases stepped
        rw [State.setCall_calls, Function.update_self]
        exact .inl fits
      · cases stepped
        rw [State.setCall_calls, Function.update_self]
        exact fits
  | locking =>
      simp only [State.observe, called]
      obtain ⟨locked, -, rfl⟩ := Option.map_eq_some_iff.mp stepped
      rw [State.setCall_calls, Function.update_self]
      exact fits
  | locked =>
      simp only [State.observe, called]
      simp only [State.advanceSession] at stepped
      split at stepped
      · cases stepped
        rw [State.setCall_calls, Function.update_self]
        exact .inl fits
      · cases stepped
        rw [State.setCall_calls, Function.update_self]
        exact fits
  | checked =>
      simp only [State.observe, called]
      simp only [State.advanceSession] at stepped
      split at stepped
      · cases stepped
        rw [State.setCall_calls, Function.update_self]
        exact fits
      · split at stepped
        · cases stepped
          rw [State.setCall_calls, Function.update_self]
          exact fits
        · cases stepped
          rw [State.setCall_calls, Function.update_self]
          exact .inl fits
  | closing =>
      simp only [State.observe, called]
      cases stepped
      rw [State.setCall_calls, Function.update_self]
      exact fits
  | resting =>
      simp only [State.observe, called]
      simp only [State.advanceSession] at stepped
      split at stepped
      · next empty =>
          cases stepped
          rw [State.setCall_calls, Function.update_self, if_pos empty]
          exact fits
      · next supplied =>
          cases stepped
          rw [State.setCall_calls, Function.update_self, if_neg supplied]
          have blank : record = .blank := fits
          subst blank
          exact ⟨_, inTurn_opened id distinct, rfl, rfl, rfl,
            List.length_pos_iff.mpr supplied, fun dial listed => by
              cases listed⟩
  | connecting candidates start offset => cases stepped
  | connected session index count =>
      simp only [State.observe, called]
      simp only [State.advanceSession] at stepped
      split at stepped
      · cases stepped
        rw [State.setCall_calls, Function.update_self]
        exact .inr ⟨index, count, fits⟩
      · cases stepped
        rw [State.setCall_calls, Function.update_self]
        exact fits
  | storing session index count =>
      simp only [State.observe, called]
      simp only [State.advanceSession] at stepped
      split at stepped
      · cases stepped
      · cases stepped
        rw [State.setCall_calls, Function.update_self]
        obtain ⟨candidates, first, endpoint, vip, inTurn, stored, rfl, chosen,
          succeeded⟩ := fits
        right
        refine ⟨candidates, first, inTurn.store id _, index, endpoint, vip,
          chosen, succeeded, ?_⟩
        simp [Record.extend, Record.note, stored]
  | returned result => cases stepped

/-- The index of an attempt is one of the list. -/
theorem exists_candidate {candidates : List L3NodeEndpoint} {offset : Nat}
    (start : Nat) (inside : offset < candidates.length) :
    ∃ endpoint,
      candidates[(start + offset) % candidates.length]? = some endpoint := by
  have bound : (start + offset) % candidates.length < candidates.length :=
    Nat.mod_lt _ (Nat.zero_lt_of_lt inside)
  exact ⟨_, List.getElem?_eq_getElem bound⟩

theorem fits_establish {phase : SessionPhase}
    {result : Except EstablishError Ipv4Addr}
    (called : state.calls id = some (.session phase))
    (stepped : state.establish id result phase = some after)
    (fits : phase.Fits record) :
    Fits (record.extend (state.observe (.establish id result)))
      (after.calls id) := by
  cases phase with
  | connecting candidates start offset =>
      obtain ⟨first, inTurn, stored, rfl, rfl, room, failed⟩ := fits
      obtain ⟨endpoint, chosen⟩ :=
        exists_candidate (first % candidates.length) room
      have dialed := inTurn.dial id result failed room chosen
      have last :
          (record.note (.dialed id endpoint result)).dialed.getLast? =
            some (endpoint, result) := by
        simp [Record.note]
      simp only [State.observe, called, chosen]
      simp only [State.establish, chosen] at stepped
      cases result with
      | ok vip =>
          cases stepped
          rw [State.setCall_calls, Function.update_self]
          simp only [State.exhausts, called]
          exact ⟨candidates, first, endpoint, vip, dialed, stored, rfl, chosen,
            last⟩
      | error error =>
          simp only [State.exhausts, called]
          by_cases retryable : establishmentIsRetryable error = true
          · by_cases more : record.dialed.length + 1 < candidates.length
            · simp only [retryable, more, if_true] at stepped
              cases stepped
              rw [State.setCall_calls, Function.update_self]
              simp only [retryable, more, decide_true, Bool.not_true,
                Bool.and_false]
              refine ⟨first, dialed, stored, rfl, ?_, more, ?_⟩
              · simp [Record.note, Record.extend]
              · intro dial listed
                rcases List.mem_append.mp listed with earlier | latest
                · exact failed dial earlier
                · rw [List.mem_singleton.mp latest]
                  exact ⟨error, rfl, retryable⟩
            · simp only [retryable, more, if_true, if_false] at stepped
              cases stepped
              rw [State.setCall_calls, Function.update_self]
              simp only [retryable, more, decide_false, Bool.not_false,
                Bool.and_self]
              refine ⟨candidates, first, endpoint, dialed, stored, last, ?_⟩
              intro _
              simp only [Record.note, Record.extend, List.foldl_cons,
                if_true, List.foldl_nil, List.length_append,
                List.length_singleton]
              omega
          · simp only [if_neg retryable] at stepped
            cases stepped
            rw [State.setCall_calls, Function.update_self]
            rw [Bool.not_eq_true] at retryable
            simp only [retryable, Bool.false_and]
            refine ⟨candidates, first, endpoint, dialed, stored, last, ?_⟩
            intro impossible
            rw [retryable] at impossible
            cases impossible
  | _ => cases stepped

/-- The next index is changed where a session is stored only, and the
candidates are changed by `update_endpoints` only. -/
structure Carries (state after : State) (action : Action) : Prop where
  endpoints : after.endpoints = state.endpoints
  nextEndpoint :
    after.nextEndpoint =
      nextEndpointAfter state.nextEndpoint (state.observe action)

/-- Asking a session to close leaves the next index alone. -/
@[simp] theorem State.requestClose_nextEndpoint (state : State)
    (session : SessionRef) :
    (state.requestClose session).nextEndpoint = state.nextEndpoint := by
  rw [State.requestClose_eq]

theorem carries_advanceSession {phase : SessionPhase}
    (called : state.calls id = some (.session phase))
    (stepped : state.advanceSession id phase = some after) :
    Carries state after (.advance id) := by
  have carried :
      after.endpoints = state.endpoints ∧
        after.nextEndpoint =
          nextEndpointAfter state.nextEndpoint
            (state.observe (.advance id)) := by
    simp only [State.observe, called]
    cases phase with
    | starting =>
        simp only [State.advanceSession] at stepped
        split at stepped <;> cases stepped <;> exact ⟨rfl, rfl⟩
    | locking =>
        obtain ⟨locked, acquired, rfl⟩ := Option.map_eq_some_iff.mp stepped
        obtain ⟨-, rfl⟩ := lock_eq_some acquired
        exact ⟨rfl, rfl⟩
    | locked =>
        simp only [State.advanceSession] at stepped
        split at stepped <;> cases stepped <;> exact ⟨rfl, rfl⟩
    | checked =>
        simp only [State.advanceSession] at stepped
        split at stepped
        · cases stepped
          exact ⟨rfl, rfl⟩
        · split at stepped
          · cases stepped
            constructor
            · rw [State.setCall_endpoints, State.requestClose_endpoints]
            · exact State.requestClose_nextEndpoint _ _
          · cases stepped
            exact ⟨rfl, rfl⟩
    | closing =>
        cases stepped
        exact ⟨rfl, rfl⟩
    | resting =>
        simp only [State.advanceSession] at stepped
        split at stepped
        · next empty =>
            cases stepped
            rw [if_pos empty]
            exact ⟨rfl, rfl⟩
        · next supplied =>
            cases stepped
            rw [if_neg supplied]
            exact ⟨rfl, rfl⟩
    | connecting candidates start offset => cases stepped
    | connected session index count =>
        simp only [State.advanceSession] at stepped
        split at stepped
        · cases stepped
          exact ⟨State.requestClose_endpoints _ _,
            State.requestClose_nextEndpoint _ _⟩
        · cases stepped
          exact ⟨rfl, rfl⟩
    | storing session index count =>
        simp only [State.advanceSession] at stepped
        split at stepped
        · cases stepped
        · cases stepped
          exact ⟨rfl, rfl⟩
    | returned result => cases stepped
  exact ⟨carried.1, carried.2⟩

theorem carries_establish {phase : SessionPhase}
    {result : Except EstablishError Ipv4Addr}
    (called : state.calls id = some (.session phase))
    (stepped : state.establish id result phase = some after) :
    Carries state after (.establish id result) := by
  cases phase with
  | connecting candidates start offset =>
      have silent :
          nextEndpointAfter state.nextEndpoint
              (state.observe (.establish id result)) =
            state.nextEndpoint := by
        simp only [State.observe, called]
        split
        · rfl
        · split <;> rfl
      simp only [State.establish] at stepped
      split at stepped
      · cases stepped
      · split at stepped
        · cases stepped
          exact ⟨rfl, silent.symm⟩
        · split at stepped
          · split at stepped <;> cases stepped <;>
              exact ⟨rfl, silent.symm⟩
          · cases stepped
            exact ⟨rfl, silent.symm⟩
  | _ => cases stepped

/-- Neither the candidates nor the next index change. -/
def KeepsTurn (state after : State) : Prop :=
  after.endpoints = state.endpoints ∧
    after.nextEndpoint = state.nextEndpoint

theorem keepsTurn_lock {call : Call}
    (stepped :
      ((state.lock id).map fun locked => locked.setCall id call) =
        some after) :
    KeepsTurn state after := by
  obtain ⟨locked, acquired, rfl⟩ := Option.map_eq_some_iff.mp stepped
  obtain ⟨-, rfl⟩ := lock_eq_some acquired
  exact ⟨rfl, rfl⟩

theorem keepsTurn_requestClose (state : State) (session : SessionRef) :
    KeepsTurn state (state.requestClose session) := by
  constructor
  · exact State.requestClose_endpoints state session
  · exact State.requestClose_nextEndpoint state session

theorem keepsTurn_advanceInvalidate {failed : SessionRef}
    {phase : InvalidatePhase}
    (stepped : state.advanceInvalidate id failed phase = some after) :
    KeepsTurn state after := by
  cases phase with
  | locking => exact keepsTurn_lock stepped
  | holding =>
      simp only [State.advanceInvalidate] at stepped
      split at stepped <;> cases stepped <;> exact ⟨rfl, rfl⟩
  | closing =>
      cases stepped
      exact keepsTurn_requestClose state failed
  | joining =>
      cases stepped
      exact ⟨rfl, rfl⟩
  | returned => cases stepped

theorem keepsTurn_advanceClose {phase : ClosePhase}
    (stepped : state.advanceClose id phase = some after) :
    KeepsTurn state after := by
  cases phase with
  | locking => exact keepsTurn_lock stepped
  | holding =>
      simp only [State.advanceClose] at stepped
      split at stepped
      · cases stepped
        exact ⟨rfl, rfl⟩
      · cases stepped
        exact keepsTurn_requestClose { state with session := none } _
  | closing =>
      cases stepped
      exact ⟨rfl, rfl⟩
  | returned => cases stepped

theorem keepsTurn_advanceRetire {phase : RetirePhase}
    (stepped : state.advanceRetire id phase = some after) :
    KeepsTurn state after := by
  cases phase with
  | starting =>
      cases stepped
      exact ⟨rfl, rfl⟩
  | tryingLock =>
      simp only [State.advanceRetire] at stepped
      split at stepped <;> cases stepped <;> exact ⟨rfl, rfl⟩
  | holding =>
      simp only [State.advanceRetire] at stepped
      split at stepped
      · cases stepped
        exact ⟨rfl, rfl⟩
      · cases stepped
        exact keepsTurn_requestClose state _
  | returned => cases stepped

theorem KeepsTurn.carries {action : Action} (kept : KeepsTurn state after)
    (silent : state.observe action = []) : Carries state after action where
  endpoints := kept.1
  nextEndpoint := by
    rw [silent]
    exact kept.2

/-- Only calls of `session` are observed. -/
theorem observe_advance_eq_nil
    (other : ∀ phase, state.calls id ≠ some (.session phase)) :
    state.observe (.advance id) = [] := by
  simp only [State.observe]
  split
  · next called => exact absurd called (other _)
  · next called => exact absurd called (other _)
  · rfl

theorem carries_advance (stepped : state.advance id = some after) :
    Carries state after (.advance id) := by
  have quiet : ∀ call, state.calls id = some call → call.request ≠ .session →
      state.observe (.advance id) = [] := by
    intro call called different
    apply observe_advance_eq_nil
    intro phase same
    rw [called] at same
    cases same
    exact different rfl
  unfold State.advance at stepped
  split at stepped
  · cases stepped
  · next phase called => exact carries_advanceSession called stepped
  · next phase called =>
      have silent := quiet _ called (by simp [Call.request])
      cases phase with
      | locking => exact (keepsTurn_lock stepped).carries silent
      | holding =>
          cases stepped
          exact KeepsTurn.carries ⟨rfl, rfl⟩ silent
      | returned session => cases stepped
  · next phase called =>
      have silent := quiet _ called (by simp [Call.request])
      cases phase with
      | locking => exact (keepsTurn_lock stepped).carries silent
      | holding =>
          cases stepped
          exact KeepsTurn.carries ⟨rfl, rfl⟩ silent
      | returned vip => cases stepped
  · next failed phase called =>
      exact (keepsTurn_advanceInvalidate stepped).carries
        (quiet _ called (by simp [Call.request]))
  · next phase called =>
      exact (keepsTurn_advanceClose stepped).carries
        (quiet _ called (by simp [Call.request]))
  · next phase called =>
      exact (keepsTurn_advanceRetire stepped).carries
        (quiet _ called (by simp [Call.request]))

/-- What is observed is about the call that takes the step. -/
theorem caller_of_observe {event : DialEvent} {action : Action}
    (listed : event ∈ state.observe action) :
    action = .advance event.caller ∨
      ∃ result, action = .establish event.caller result := by
  cases action with
  | advance id =>
      simp only [State.observe] at listed
      split at listed
      · split at listed
        · cases listed
        · rw [List.mem_singleton.mp listed]
          exact .inl rfl
      · rw [List.mem_singleton.mp listed]
        exact .inl rfl
      · cases listed
  | establish id result =>
      simp only [State.observe] at listed
      split at listed
      · split at listed
        · cases listed
        · rcases List.mem_cons.mp listed with rfl | later
          · exact .inr ⟨result, rfl⟩
          · split at later
            · rw [List.mem_singleton.mp later]
              exact .inr ⟨result, rfl⟩
            · cases later
      · cases listed
  | _ => cases listed

end

/-! ## Runs -/

section

variable {state after : State} {id : CallId} {events : List DialEvent}

theorem recordOf_append (id : CallId) (events later : List DialEvent) :
    recordOf id (events ++ later) =
      (recordOf id events).extend
        (later.filter fun event => decide (event.caller = id)) := by
  rw [recordOf, List.filter_append, List.foldl_append]
  rfl

/-- The call that takes a step extends its record by all that is observed. -/
theorem recordOf_mine {later : List DialEvent}
    (mine : ∀ event ∈ later, event.caller = id) :
    recordOf id (events ++ later) = (recordOf id events).extend later := by
  rw [recordOf_append, List.filter_eq_self.mpr]
  intro event listed
  exact decide_eq_true (mine event listed)

/-- Other records stay as they are. -/
theorem recordOf_other {later : List DialEvent}
    (others : ∀ event ∈ later, event.caller ≠ id) :
    recordOf id (events ++ later) = recordOf id events := by
  rw [recordOf_append, List.filter_eq_nil_iff.mpr]
  · rfl
  · intro event listed
    rw [decide_eq_true_iff]
    exact others event listed

theorem nextEndpointAfter_append (first : Nat) (events later : List DialEvent) :
    nextEndpointAfter first (events ++ later) =
      nextEndpointAfter (nextEndpointAfter first events) later := by
  induction events generalizing first with
  | nil => rfl
  | cons event rest inductionHypothesis =>
      cases event <;> exact inductionHypothesis _

/-- No candidate is listed twice. -/
theorem nodup_deduplicateFrom (seen endpoints : List L3NodeEndpoint) :
    (deduplicateFrom seen endpoints).Nodup := by
  induction endpoints generalizing seen with
  | nil => exact List.nodup_nil
  | cons endpoint later inductionHypothesis =>
      by_cases known : endpoint ∈ seen
      · rw [deduplicateFrom, if_pos known]
        exact inductionHypothesis seen
      · rw [deduplicateFrom, if_neg known, List.nodup_cons,
          mem_deduplicateFrom]
        refine ⟨?_, inductionHypothesis _⟩
        intro again
        exact again.2 List.mem_cons_self

/-- An action changes the candidates by `update_endpoints` only. -/
theorem carries_next {action : Action}
    (stepped : next state action = some after) :
    (∃ endpoints, action = .updateEndpoints endpoints ∧
      after = state.updateEndpoints endpoints) ∨
      Carries state after action := by
  cases action with
  | call request =>
      cases stepped
      exact .inr ⟨rfl, rfl⟩
  | advance id => exact .inr (carries_advance stepped)
  | establish id result =>
      simp only [next] at stepped
      split at stepped
      · next phase called => exact .inr (carries_establish called stepped)
      · cases stepped
  | cancel id =>
      simp only [next, State.cancel] at stepped
      split at stepped
      · cases stepped
      · split at stepped <;> cases stepped
        exact .inr ⟨rfl, rfl⟩
  | updateEndpoints endpoints =>
      cases stepped
      exact .inl ⟨endpoints, rfl, rfl⟩
  | vipUpdate session current =>
      simp only [next, State.applyVipUpdate] at stepped
      split at stepped
      · cases stepped
      · split at stepped <;> cases stepped <;> exact .inr ⟨rfl, rfl⟩
  | sessionFails session =>
      simp only [next, State.failSession] at stepped
      split at stepped <;> cases stepped
      exact .inr ⟨rfl, rfl⟩

/-- Every call has done what its phase tells, calls that were not made have done
nothing, and the next index is the one that was left behind last. -/
structure Scheduled (events : List DialEvent) (state : State) : Prop where
  guarded : Guarded state
  numbered : Numbered state
  fits : ∀ id, Fits (recordOf id events) (state.calls id)
  fresh : ∀ id, state.nextCall ≤ id → recordOf id events = .blank
  distinct : state.endpoints.Nodup
  nextEndpoint : state.nextEndpoint = nextEndpointAfter 0 events

/-- A call that does not exist is not observed. -/
theorem caller_ne_of_absent {action : Action} (absent : state.calls id = none) :
    ∀ event ∈ state.observe action, event.caller ≠ id := by
  rintro event listed rfl
  rcases caller_of_observe listed with rfl | ⟨result, rfl⟩
  · simp only [State.observe, absent] at listed
    cases listed
  · simp only [State.observe, absent] at listed
    cases listed

/-- Calls of other functions are not told apart. -/
theorem fits_of_orderly {record : Record} {call : Call}
    (orderly : Orderly record) (other : call.request ≠ .session) :
    Fits record (some call) := by
  cases call with
  | session phase => exact absurd rfl other
  | _ => exact orderly

theorem Scheduled.fits_advance (scheduled : Scheduled events state)
    (stepped : state.advance id = some after) (other : CallId) :
    Fits (recordOf other (events ++ state.observe (.advance id)))
      (after.calls other) := by
  obtain ⟨call, places⟩ := places_advance stepped
  have mine : ∀ event ∈ state.observe (.advance id), event.caller = id := by
    intro event listed
    rcases caller_of_observe listed with same | ⟨result, impossible⟩
    · cases same
      rfl
    · cases impossible
  by_cases same : other = id
  · subst same
    rw [recordOf_mine mine]
    have fits := scheduled.fits other
    cases called : state.calls other with
    | none =>
        rw [State.advance, called] at stepped
        cases stepped
    | some former =>
        rw [called] at fits
        have plain : former.request ≠ .session →
            Fits ((recordOf other events).extend
              (state.observe (.advance other))) (after.calls other) := by
          intro different
          rw [observe_advance_eq_nil, places.calls, Function.update_self]
          · apply fits_of_orderly fits.orderly
            rcases places.continues with ⟨known, present, continues, -⟩ |
              ⟨new, -⟩
            · rw [called] at present
              cases present
              rw [← continues]
              exact different
            · have free := scheduled.numbered other (Nat.le_of_eq new.symm)
              rw [called] at free
              cases free
          · intro phase impossible
            rw [called] at impossible
            cases impossible
            exact different rfl
        cases former with
        | session phase =>
            simp only [State.advance, called] at stepped
            exact fits_advanceSession scheduled.distinct called stepped fits
        | _ => exact plain (by simp [Call.request])
  · rw [recordOf_other, places.calls, Function.update_of_ne same]
    · exact scheduled.fits other
    · intro event listed
      rw [mine event listed]
      exact Ne.symm same

theorem Scheduled.fits_establish (scheduled : Scheduled events state)
    {phase : SessionPhase} {result : Except EstablishError Ipv4Addr}
    (called : state.calls id = some (.session phase))
    (stepped : state.establish id result phase = some after)
    (other : CallId) :
    Fits (recordOf other (events ++ state.observe (.establish id result)))
      (after.calls other) := by
  obtain ⟨call, places⟩ := places_establish scheduled.guarded called stepped
  have mine : ∀ event ∈ state.observe (.establish id result),
      event.caller = id := by
    intro event listed
    rcases caller_of_observe listed with impossible | ⟨other, same⟩
    · cases impossible
    · cases same
      rfl
  by_cases same : other = id
  · subst same
    have fits := scheduled.fits other
    rw [called] at fits
    rw [recordOf_mine mine]
    exact Manager.fits_establish called stepped fits
  · rw [recordOf_other, places.calls, Function.update_of_ne same]
    · exact scheduled.fits other
    · intro event listed
      rw [mine event listed]
      exact Ne.symm same

theorem Scheduled.fits_bystands (scheduled : Scheduled events state)
    {action : Action} (bystands : Bystands state after action)
    (other : CallId) :
    Fits (recordOf other events) (after.calls other) := by
  have fits := scheduled.fits other
  cases kept : after.calls other with
  | none => exact fits.orderly
  | some call =>
      rw [bystands.calls other call kept] at fits
      exact fits

theorem Scheduled.next {action : Action} (scheduled : Scheduled events state)
    (stepped : Manager.next state action = some after) :
    Scheduled (events ++ state.observe action) after where
  guarded := guarded_next scheduled.guarded stepped
  numbered := scheduled.numbered.next scheduled.guarded stepped
  fits := by
    intro other
    cases action with
    | call request =>
        simp only [State.observe, List.append_nil]
        have places := places_call state request
        cases stepped
        rw [places.calls]
        by_cases same : other = state.nextCall
        · subst same
          rw [Function.update_self, scheduled.fresh _ le_rfl]
          cases request with
          | session => exact rfl
          | _ => exact .inl rfl
        · rw [Function.update_of_ne same]
          exact scheduled.fits other
    | advance id => exact scheduled.fits_advance stepped other
    | establish id result =>
        simp only [Manager.next] at stepped
        split at stepped
        · next phase called =>
            exact scheduled.fits_establish called stepped other
        · cases stepped
    | cancel id =>
        simp only [State.observe, List.append_nil]
        exact scheduled.fits_bystands (bystands_cancel stepped) other
    | updateEndpoints endpoints =>
        simp only [State.observe, List.append_nil]
        cases stepped
        exact scheduled.fits other
    | vipUpdate session current =>
        simp only [State.observe, List.append_nil]
        exact scheduled.fits_bystands (bystands_applyVipUpdate stepped) other
    | sessionFails session =>
        simp only [State.observe, List.append_nil]
        exact scheduled.fits_bystands (bystands_failSession stepped) other
  fresh := by
    intro other beyond
    have more : state.nextCall ≤ after.nextCall := by
      rcases places_next scheduled.guarded stepped with
        ⟨id, call, places⟩ | bystands
      · rcases places.continues with ⟨-, -, -, count⟩ | ⟨-, count⟩
        · exact count.ge
        · rw [count]
          exact Nat.le_succ _
      · exact bystands.count.ge
    have unmade := Nat.le_trans more beyond
    rw [recordOf_other (caller_ne_of_absent (scheduled.numbered other unmade))]
    exact scheduled.fresh other unmade
  distinct := by
    rcases carries_next stepped with ⟨endpoints, rfl, rfl⟩ | carries
    · exact nodup_deduplicateFrom [] endpoints
    · rw [carries.endpoints]
      exact scheduled.distinct
  nextEndpoint := by
    rw [nextEndpointAfter_append, ← scheduled.nextEndpoint]
    rcases carries_next stepped with ⟨endpoints, rfl, rfl⟩ | carries
    · rfl
    · exact carries.nextEndpoint

end

end HermesAtrust.L3.Manager
