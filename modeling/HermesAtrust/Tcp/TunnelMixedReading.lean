import HermesAtrust.Concurrency.Transitions
import HermesAtrust.Tcp.TunnelWriting

/-!
# Switching between the two readers

`read_app` and `poll_read` decode the same bytes, but only `poll_read` looks
at the bytes it has decoded and not delivered.  A caller may use either at any
time.  As long as it turns to `read_app` only when nothing is left over from
`poll_read`, the two together deliver what each of them would.
-/

namespace HermesAtrust.Tcp

open HermesAtrust.Framing HermesAtrust.Protocol HermesAtrust.Concurrency

/-- A poll of a `read_app` future, or a poll of `poll_read` with room for so
many bytes. -/
inductive ReadCall where
  | readApp
  | pollRead (remaining : Nat)
  deriving DecidableEq, Repr

/-- A tunnel that is being read: what the stream below will answer, the bytes
delivered so far, and the first end that was reported. -/
structure Reading where
  tunnel : TcpTunnel
  polls : List ReadPoll
  delivered : Bytes
  ending : Option StreamEnd

section

variable (fromSlice : Bytes → Option StatusBody)

/-- The answers up to the first stall. -/
def answersAtOnce (polls : List ReadPoll) : List ReadAnswer :=
  answersOf (polls.takeWhile (· ≠ .pending))

/-- The first stall and what follows it. -/
def fromStall (polls : List ReadPoll) : List ReadPoll :=
  polls.dropWhile (· ≠ .pending)

/-- `read_app` polled once: it returns, or waits behind the first stall. -/
def pollReadApp (tunnel : TcpTunnel) (polls : List ReadPoll) :
    TcpTunnel × ReadAppResult × List ReadPoll :=
  match readApp fromSlice tunnel (answersAtOnce polls) with
  | (after, .waiting, _) => (after, .waiting, (fromStall polls).tail)
  | (after, .returned result, later) =>
      (after, .returned result, later.map .ready ++ fromStall polls)

/-- Remember the first end that is reported. -/
def Reading.report (reading : Reading) (ending : StreamEnd) : Reading :=
  { reading with ending := reading.ending.or (some ending) }

def Reading.next (reading : Reading) : ReadCall → Option Reading
  | .readApp =>
      match pollReadApp fromSlice reading.tunnel reading.polls with
      | (after, .returned (.ok (some payload)), later) =>
          some ⟨after, later, reading.delivered ++ payload, reading.ending⟩
      | (after, .returned (.ok none), later) =>
          some ({ reading with tunnel := after, polls := later }.report .ended)
      | (after, .returned (.error error), later) =>
          some
            ({ reading with tunnel := after, polls := later }.report
              (.failed error))
      | (after, .waiting, later) =>
          let moved := { reading with tunnel := after, polls := later }
          some (if later = [] then moved.report .waiting else moved)
  | .pollRead remaining =>
      match pollRead fromSlice reading.tunnel remaining reading.polls with
      | (after, filled, .ready (.ok ()), later) =>
          let moved : Reading :=
            ⟨after, later, reading.delivered ++ filled, reading.ending⟩
          some
            (if filled = [] ∧ remaining ≠ 0 then
              moved.report .ended
            else
              moved)
      | (after, _, .ready (.error error), later) =>
          some
            ({ reading with tunnel := after, polls := later }.report
              (.failed error.toTunnelError))
      | (after, _, .pending, later) =>
          let moved := { reading with tunnel := after, polls := later }
          some (if later = [] then moved.report .waiting else moved)

/-- The calls that ask for at least one byte. -/
def ReadCall.asks : ReadCall → Bool
  | .readApp => true
  | .pollRead remaining => 0 < remaining

/-- `read_app` is called only when `poll_read` has left nothing behind. -/
def ReadsInOrder (reading : Reading) : ReadCall → Prop
  | .readApp => reading.tunnel.appPending = []
  | .pollRead _ => True

/-! ## One poll of `read_app` -/

theorem answersOf_append (first second : List ReadPoll) :
    answersOf (first ++ second) = answersOf first ++ answersOf second := by
  simp [answersOf]

theorem answersOf_map_ready (answers : List ReadAnswer) :
    answersOf (answers.map .ready) = answers := by
  induction answers with
  | nil => rfl
  | cons answer later inductionHypothesis =>
      rw [List.map_cons, answersOf_ready, inductionHypothesis]

theorem stalls_map_ready (answers : List ReadAnswer) (polls : List ReadPoll) :
    stalls (answers.map .ready ++ polls) = stalls polls := by
  induction answers with
  | nil => rfl
  | cons answer later inductionHypothesis =>
      rw [List.map_cons, List.cons_append, stalls_ready, inductionHypothesis]

/-- The answers are those that come at once and those behind the stall. -/
theorem answersAtOnce_append (polls : List ReadPoll) :
    answersAtOnce polls ++ answersOf (fromStall polls) = answersOf polls := by
  rw [answersAtOnce, fromStall, ← answersOf_append,
    List.takeWhile_append_dropWhile]

theorem stalls_fromStall (polls : List ReadPoll) :
    stalls (fromStall polls) = stalls polls := by
  induction polls with
  | nil => rfl
  | cons poll later inductionHypothesis =>
      cases poll with
      | pending => rfl
      | ready answer =>
          rw [stalls_ready, ← inductionHypothesis]
          rfl

/-- Behind the stall there is one stall less. -/
theorem fromStall_tail (polls : List ReadPoll) :
    answersOf (fromStall polls).tail = answersOf (fromStall polls) ∧
      ((fromStall polls).tail ≠ [] →
        stalls (fromStall polls).tail < stalls polls) := by
  rw [← stalls_fromStall polls]
  induction polls with
  | nil => exact ⟨rfl, fun none => absurd rfl none⟩
  | cons poll later inductionHypothesis =>
      cases poll with
      | pending =>
          refine ⟨rfl, fun _ => ?_⟩
          change stalls later < stalls (.pending :: later)
          rw [stalls_pending]
          exact Nat.lt_succ_self _
      | ready answer => exact inductionHypothesis

/-- What a return of `read_app` says about the content of the stream when more
answers follow. -/
theorem content_readAppLoop_append (tunnel : TcpTunnel)
    (answers more : List ReadAnswer) :
    content fromSlice tunnel.readBuf (answers ++ more) =
      match readAppLoop fromSlice tunnel answers with
      | (after, .returned (.ok (some payload)), later) =>
          behind payload (content fromSlice after.readBuf (later ++ more))
      | (_, .returned (.ok none), _) => ([], .ended)
      | (_, .returned (.error error), _) => ([], .failed error)
      | (after, .waiting, _) => content fromSlice after.readBuf more := by
  fun_induction readAppLoop fromSlice tunnel answers with
  | case4 tunnel rest decoded =>
      exact content_of_needMore fromSlice decoded more
  | case7 tunnel rest decoded head tail later inductionHypothesis =>
      rw [content_eq, decoded]
      exact inductionHypothesis
  | _ =>
      rw [content_eq]
      simp_all

/-- The loop of `read_app` does not touch the bytes of `poll_read`, and closes
the tunnel only where it reports the end. -/
theorem readAppLoop_frame {tunnel after : TcpTunnel}
    {answers later : List ReadAnswer} {result : ReadAppResult}
    (returned :
      readAppLoop fromSlice tunnel answers = (after, result, later)) :
    after.appPending = tunnel.appPending ∧
      (result ≠ .returned (.ok none) → after.closed = tunnel.closed) ∧
      (result = .returned (.ok none) → after.closed = true) ∧
      (result = .waiting →
        content fromSlice after.readBuf [] = ([], .waiting)) := by
  fun_induction readAppLoop fromSlice tunnel answers with
  | case4 tunnel rest decoded =>
      simp only [Prod.mk.injEq] at returned
      obtain ⟨rfl, rfl, rfl⟩ := returned
      simp [content_waiting fromSlice decoded]
  | case7 tunnel rest decoded head tail later inductionHypothesis =>
      exact inductionHypothesis returned
  | _ =>
      simp only [Prod.mk.injEq] at returned
      obtain ⟨rfl, rfl, rfl⟩ := returned
      simp

/-- The loop of `poll_read` closes the tunnel where it reports the end. -/
theorem pollReadLoop_end {remaining : Nat} (room : 0 < remaining)
    {tunnel after : TcpTunnel} {polls later : List ReadPoll}
    (returned :
      pollReadLoop fromSlice remaining tunnel polls =
        (after, [], .ready (.ok ()), later)) :
    after.closed = true ∧ after.appPending = tunnel.appPending := by
  fun_induction pollReadLoop fromSlice remaining tunnel polls with
  | case2 tunnel polls payload rest decoded after' filled' delivered =>
      have pending :
          { tunnel with
            readBuf := rest
            appPending := tunnel.appPending ++ payload }.appPending ≠ [] := by
        simp [nextApp_app fromSlice decoded]
      obtain ⟨nonempty, -⟩ := deliver_cases room pending delivered
      simp only [Prod.mk.injEq] at returned
      exact absurd returned.2.1 nonempty
  | case8 tunnel rest decoded head tail later inductionHypothesis =>
      exact inductionHypothesis returned
  | case3 tunnel polls rest decoded =>
      simp only [Prod.mk.injEq] at returned
      rw [← returned.1]
      exact ⟨rfl, rfl⟩
  | case7 tunnel rest decoded later =>
      simp only [Prod.mk.injEq] at returned
      rw [← returned.1]
      exact ⟨rfl, rfl⟩
  | _ => simp at returned

theorem pollRead_end {remaining : Nat} (room : 0 < remaining)
    {tunnel after : TcpTunnel} (isOpen : tunnel.closed = false)
    {polls later : List ReadPoll}
    (returned :
      pollRead fromSlice tunnel remaining polls =
        (after, [], .ready (.ok ()), later)) :
    after.closed = true ∧ after.appPending = [] := by
  have hasRoom : remaining ≠ 0 := by omega
  simp only [pollRead, hasRoom, if_false] at returned
  by_cases pending : tunnel.appPending = []
  · simp only [pending, ne_eq, not_true, if_false, isOpen,
      Bool.false_eq_true] at returned
    rw [← pending]
    exact pollReadLoop_end fromSlice room returned
  · rcases delivered : tunnel.deliver remaining with ⟨moved, given⟩
    obtain ⟨nonempty, -⟩ := deliver_cases room pending delivered
    simp only [ne_eq, pending, not_false_eq_true, if_true, delivered,
      Prod.mk.injEq] at returned
    exact absurd returned.2.1 nonempty

/-! ## One call -/

/-- What is left to deliver to the caller. -/
def Reading.rest (reading : Reading) : Bytes × StreamEnd :=
  undelivered fromSlice reading.tunnel reading.polls

/-- The four outcomes of a call that asks an open tunnel for bytes. -/
inductive Outcome (reading after : Reading) : Prop
  | bytes (given : Bytes) (some : given ≠ [])
      (delivered : after.delivered = reading.delivered ++ given)
      (ending : after.ending = reading.ending)
      (isOpen : after.tunnel.closed = false)
      (rest : reading.rest fromSlice = behind given (after.rest fromSlice))
      (fewer : stalls after.polls ≤ stalls reading.polls)
  | ended (delivered : after.delivered = reading.delivered)
      (ending : after.ending = reading.ending.or (some .ended))
      (closed : after.tunnel.closed = true)
      (drained : after.tunnel.appPending = [])
      (rest : reading.rest fromSlice = ([], .ended))
  | failed (error : TunnelError)
      (rest : reading.rest fromSlice = ([], .failed error))
  | stalled (delivered : after.delivered = reading.delivered)
      (isOpen : after.tunnel.closed = false)
      (rest : reading.rest fromSlice = after.rest fromSlice)
      (waits :
        after.polls = [] → after.ending = reading.ending.or (some .waiting) ∧
          reading.rest fromSlice = ([], .waiting))
      (fewer :
        after.polls ≠ [] → after.ending = reading.ending ∧
          stalls after.polls < stalls reading.polls)

theorem outcome_readApp {reading after : Reading}
    (isOpen : reading.tunnel.closed = false)
    (drained : reading.tunnel.appPending = [])
    (stepped : reading.next fromSlice .readApp = some after) :
    Outcome fromSlice reading after := by
  have whole :=
    content_readAppLoop_append fromSlice reading.tunnel
      (answersAtOnce reading.polls) (answersOf (fromStall reading.polls))
  rw [answersAtOnce_append] at whole
  have before :
      reading.rest fromSlice =
        content fromSlice reading.tunnel.readBuf (answersOf reading.polls) := by
    rw [Reading.rest, undelivered, drained]
    rfl
  rw [← before] at whole
  rcases returned :
      readAppLoop fromSlice reading.tunnel (answersAtOnce reading.polls) with
    ⟨moved, result, later⟩
  rw [returned] at whole
  obtain ⟨samePending, sameClosed, ends, waits⟩ :=
    readAppLoop_frame fromSlice returned
  rw [drained] at samePending
  simp only [Reading.next, pollReadApp, readApp, isOpen, Bool.false_eq_true,
    if_false, returned] at stepped
  cases result with
  | returned value =>
      cases value with
      | error error => exact .failed error whole
      | ok payload =>
          cases payload with
          | none =>
              cases stepped
              exact .ended rfl rfl (ends rfl) samePending whole
          | some payload =>
              cases stepped
              obtain ⟨nonempty, -⟩ := readAppLoop_some fromSlice returned
              refine .bytes payload nonempty rfl rfl
                ((sameClosed (by simp)).trans isOpen) ?_ ?_
              · rw [whole, Reading.rest, undelivered, answersOf_append,
                  answersOf_map_ready, samePending]
                rfl
              · rw [stalls_map_ready, stalls_fromStall]
  | waiting =>
      obtain ⟨sameAnswers, fewer⟩ := fromStall_tail reading.polls
      have after_rest :
          reading.rest fromSlice =
            undelivered fromSlice moved (fromStall reading.polls).tail := by
        rw [whole, undelivered, sameAnswers, samePending]
        rfl
      simp only [Option.some.injEq] at stepped
      by_cases exhausted : (fromStall reading.polls).tail = []
      · rw [if_pos exhausted] at stepped
        subst stepped
        refine .stalled rfl ((sameClosed (by simp)).trans isOpen) after_rest
          (fun _ => ⟨rfl, ?_⟩) (fun some => absurd exhausted some)
        rw [after_rest, undelivered, samePending, exhausted, answersOf_nil,
          waits rfl]
        rfl
      · rw [if_neg exhausted] at stepped
        subst stepped
        exact .stalled rfl ((sameClosed (by simp)).trans isOpen) after_rest
          (fun none => absurd none exhausted)
          (fun _ => ⟨rfl, fewer exhausted⟩)

theorem outcome_pollRead {reading after : Reading} {remaining : Nat}
    (room : 0 < remaining) (isOpen : reading.tunnel.closed = false)
    (stepped : reading.next fromSlice (.pollRead remaining) = some after) :
    Outcome fromSlice reading after := by
  have hasRoom : remaining ≠ 0 := by omega
  rcases returned :
      pollRead fromSlice reading.tunnel remaining reading.polls with
    ⟨moved, filled, result, later⟩
  simp only [Reading.next, returned] at stepped
  rcases pollRead_cases fromSlice room isOpen returned with
    ⟨rfl, rfl, whole⟩ |
    ⟨rfl, nonempty, stillOpen, whole, fewer⟩ |
    ⟨error, rfl, whole⟩ |
    ⟨rfl, stillOpen, whole, waits, fewer⟩
  · obtain ⟨closed, drained⟩ := pollRead_end fromSlice room isOpen returned
    simp only [hasRoom, ne_eq, not_false_eq_true, and_self, if_true,
      Option.some.injEq, List.append_nil] at stepped
    subst stepped
    exact .ended rfl rfl closed drained whole
  · simp only [nonempty, false_and, if_false, Option.some.injEq] at stepped
    subst stepped
    exact .bytes filled nonempty rfl rfl stillOpen whole fewer
  · exact .failed error.toTunnelError whole
  · simp only [Option.some.injEq] at stepped
    by_cases exhausted : later = []
    · rw [if_pos exhausted] at stepped
      subst stepped
      exact .stalled rfl stillOpen whole
        (fun _ => ⟨rfl, waits exhausted⟩)
        (fun some => absurd exhausted some)
    · rw [if_neg exhausted] at stepped
      subst stepped
      exact .stalled rfl stillOpen whole (fun none => absurd none exhausted)
        (fun _ => ⟨rfl, fewer exhausted⟩)

/-- A call on a closed tunnel with nothing left over reports the end. -/
theorem next_closed {reading after : Reading} {call : ReadCall}
    (closed : reading.tunnel.closed = true)
    (drained : reading.tunnel.appPending = [])
    (stepped : reading.next fromSlice call = some after) :
    after.tunnel = reading.tunnel ∧ after.delivered = reading.delivered ∧
      (after.ending = reading.ending ∨
        after.ending = reading.ending.or (some .ended)) := by
  cases call with
  | readApp =>
      simp only [Reading.next, pollReadApp, readApp, closed, if_true,
        Option.some.injEq] at stepped
      subst stepped
      exact ⟨rfl, rfl, .inr rfl⟩
  | pollRead remaining =>
      by_cases noRoom : remaining = 0
      · simp only [Reading.next, pollRead, noRoom, if_true, ne_eq, not_true,
          and_false, if_false, Option.some.injEq, List.append_nil] at stepped
        subst stepped
        exact ⟨rfl, rfl, .inl rfl⟩
      · simp only [Reading.next, pollRead, noRoom, if_false, drained, ne_eq,
          not_true, closed, if_true, not_false_eq_true, and_self,
          Option.some.injEq, List.append_nil] at stepped
        subst stepped
        exact ⟨rfl, rfl, .inr rfl⟩

/-- A call without room changes nothing. -/
theorem next_noRoom {reading after : Reading} {call : ReadCall}
    (noRoom : call.asks = false)
    (stepped : reading.next fromSlice call = some after) : after = reading := by
  cases call with
  | readApp => cases noRoom
  | pollRead remaining =>
      have zero : remaining = 0 := by simpa [ReadCall.asks] using noRoom
      simp only [Reading.next, pollRead, zero, if_true, ne_eq, not_true,
        and_false, if_false, Option.some.injEq, List.append_nil] at stepped
      exact stepped.symm

theorem outcome_next {reading after : Reading} {call : ReadCall}
    (asks : call.asks = true) (isOpen : reading.tunnel.closed = false)
    (inOrder : ReadsInOrder reading call)
    (stepped : reading.next fromSlice call = some after) :
    Outcome fromSlice reading after := by
  cases call with
  | readApp => exact outcome_readApp fromSlice isOpen inOrder stepped
  | pollRead remaining =>
      have room : 0 < remaining := by simpa [ReadCall.asks] using asks
      exact outcome_pollRead fromSlice room isOpen stepped

/-! ## Runs -/

/-- The invariant of reading in order.  Before an end is reported the rest
follows what was delivered, and every call that asked for bytes got some or
passed a stall.  Behind the end nothing is left. -/
structure InOrder (whole : Bytes × StreamEnd) (allowed : Nat) (asked : Nat)
    (reading : Reading) : Prop where
  before :
    reading.ending = none →
      reading.tunnel.closed = false ∧
        behind reading.delivered (reading.rest fromSlice) = whole ∧
        asked + stalls reading.polls ≤ reading.delivered.length + allowed
  behind :
    ∀ ending, reading.ending = some ending →
      ending = whole.2 ∧ reading.delivered = whole.1 ∧
        (reading.tunnel.closed = true ∧ reading.tunnel.appPending = [] ∨
          reading.tunnel.closed = false ∧
            reading.rest fromSlice = ([], .waiting))

variable {whole : Bytes × StreamEnd} {allowed asked : Nat}

/-- A call before the end. -/
theorem InOrder.next_before {reading after : Reading}
    (inOrder : InOrder fromSlice whole allowed asked reading)
    (intact : ∀ error, whole.2 ≠ .failed error)
    (going : reading.ending = none)
    (outcome : Outcome fromSlice reading after) :
    InOrder fromSlice whole allowed (asked + 1) after := by
  obtain ⟨isOpen, total, bound⟩ := inOrder.before going
  cases outcome with
  | bytes given some delivered ending stillOpen rest fewer =>
      have positive := List.length_pos_of_ne_nil some
      refine ⟨fun _ => ⟨stillOpen, ?_, ?_⟩, ?_⟩
      · rw [← total, rest, delivered]
        simp [Tcp.behind]
      · rw [delivered, List.length_append]
        omega
      · intro other reported
        rw [ending, going] at reported
        cases reported
  | ended delivered ending closed drained rest =>
      rw [going] at ending
      rw [rest] at total
      refine ⟨?_, ?_⟩
      · intro none
        rw [ending] at none
        cases none
      · intro other reported
        rw [ending] at reported
        cases reported
        rw [← total, delivered]
        exact ⟨rfl, (List.append_nil _).symm, .inl ⟨closed, drained⟩⟩
  | failed error rest =>
      rw [rest] at total
      exact absurd (congrArg Prod.snd total).symm (intact error)
  | stalled delivered stillOpen rest waits fewer =>
      by_cases exhausted : after.polls = []
      · obtain ⟨ending, waiting⟩ := waits exhausted
        rw [going] at ending
        refine ⟨?_, ?_⟩
        · intro none
          rw [ending] at none
          cases none
        · intro other reported
          rw [ending] at reported
          cases reported
          rw [waiting] at total
          rw [← total, delivered]
          exact ⟨rfl, (List.append_nil _).symm,
            .inr ⟨stillOpen, rest.symm.trans waiting⟩⟩
      · obtain ⟨ending, oneFewer⟩ := fewer exhausted
        refine ⟨fun _ => ⟨stillOpen, ?_, ?_⟩, ?_⟩
        · rw [← total, rest, delivered]
        · rw [delivered]
          omega
        · intro other reported
          rw [ending, going] at reported
          cases reported

/-- A call behind the end of a stream that only waits. -/
theorem InOrder.next_waiting {reading after : Reading} {ending : StreamEnd}
    (inOrder : InOrder fromSlice whole allowed asked reading)
    (reported : reading.ending = some ending)
    (waiting : reading.rest fromSlice = ([], .waiting))
    (outcome : Outcome fromSlice reading after) :
    InOrder fromSlice whole allowed (asked + 1) after := by
  obtain ⟨ends, all, -⟩ := inOrder.behind ending reported
  cases outcome with
  | bytes given some delivered ending stillOpen rest fewer =>
      rw [waiting] at rest
      have none := congrArg Prod.fst rest
      simp [Tcp.behind, some] at none
  | ended delivered ending closed drained rest =>
      rw [waiting] at rest
      cases rest
  | failed error rest =>
      rw [waiting] at rest
      cases rest
  | stalled delivered stillOpen rest waits fewer =>
      have still : after.ending = some ending := by
        by_cases exhausted : after.polls = []
        · rw [(waits exhausted).1, reported]
          rfl
        · rw [(fewer exhausted).1, reported]
      refine ⟨?_, ?_⟩
      · intro none
        rw [still] at none
        cases none
      · intro other same
        rw [still] at same
        cases same
        exact ⟨ends, delivered.trans all,
          .inr ⟨stillOpen, rest.symm.trans waiting⟩⟩

/-- Every call in order keeps the invariant. -/
theorem inOrder_next {reading after : Reading} {call : ReadCall}
    (inOrder : InOrder fromSlice whole allowed asked reading)
    (intact : ∀ error, whole.2 ≠ .failed error)
    (readsInOrder : ReadsInOrder reading call)
    (stepped : reading.next fromSlice call = some after) :
    InOrder fromSlice whole allowed (asked + if call.asks then 1 else 0)
      after := by
  cases asks : call.asks with
  | false =>
      rw [next_noRoom fromSlice asks stepped]
      exact inOrder
  | true =>
      simp only [if_true]
      cases going : reading.ending with
      | none =>
          apply inOrder.next_before fromSlice intact going
          exact outcome_next fromSlice asks (inOrder.before going).1
            readsInOrder stepped
      | some ending =>
          obtain ⟨ends, all, closed | waits⟩ := inOrder.behind ending going
          · obtain ⟨sameTunnel, sameBytes, kept⟩ :=
              next_closed fromSlice closed.1 closed.2 stepped
            have still : after.ending = some ending := by
              rcases kept with same | same <;> rw [same, going]
              rfl
            refine ⟨?_, ?_⟩
            · intro none
              rw [still] at none
              cases none
            · intro other reported
              rw [still] at reported
              cases reported
              rw [sameTunnel]
              exact ⟨ends, sameBytes.trans all, .inl closed⟩
          · apply inOrder.next_waiting fromSlice going waits.2
            exact outcome_next fromSlice asks waits.1 readsInOrder stepped

theorem inOrder_of_run {calls : List ReadCall} {start final : Reading}
    (inOrder : InOrder fromSlice whole allowed asked start)
    (intact : ∀ error, whole.2 ≠ .failed error)
    (meets : Meets (Reading.next fromSlice) ReadsInOrder start calls)
    (ran : run (Reading.next fromSlice) start calls = some final) :
    InOrder fromSlice whole allowed (asked + calls.countP ReadCall.asks)
      final := by
  induction calls generalizing start asked with
  | nil =>
      cases ran
      exact inOrder
  | cons call later inductionHypothesis =>
      rw [run] at ran
      cases stepped : start.next fromSlice call with
      | none => simp [stepped] at ran
      | some middle =>
          simp only [stepped] at ran
          have continued :=
            inductionHypothesis
              (inOrder_next fromSlice inOrder intact meets.1 stepped)
              (meets.2 middle stepped) ran
          rw [List.countP_cons]
          rw [Nat.add_assoc, Nat.add_comm (if call.asks then 1 else 0)]
            at continued
          exact continued

/-- A fresh tunnel over a stream that answers like this. -/
def Reading.fresh (sent : Bytes) (polls : List ReadPoll) : Reading where
  tunnel := .fromStream sent
  polls := polls
  delivered := []
  ending := none

/-- Frames that arrive in any pieces, read by calls of either reader in any
order, with buffers of any sizes and any stalls.  In every run in which
`read_app` is called only when `poll_read` has left nothing behind, the bytes
delivered are the start of the concatenated payloads, and all of them once an
end was reported; enough calls reach the end. -/
theorem mixed_readers_deliver_payloads {payloads chunks : List Bytes}
    {polls : List ReadPoll} {tail : StreamTail} {calls : List ReadCall}
    {sent : Bytes} {final : Reading}
    (fits : ∀ payload ∈ payloads, payload.length ≤ 65535)
    (cut : chunks.flatten = payloads.flatMap dataFrame)
    (nonempty : ∀ chunk ∈ chunks, chunk ≠ [])
    (intact : ∀ code, tail ≠ .fails code)
    (answered : answersOf polls = readsOf chunks tail)
    (meets :
      Meets (Reading.next fromSlice) ReadsInOrder (.fresh sent polls) calls)
    (ran :
      run (Reading.next fromSlice) (.fresh sent polls) calls = some final) :
    Delivers (payloads.flatten, (received tail.answers).2)
        (final.delivered, final.ending) ∧
      (payloads.flatten.length + stalls polls <
          calls.countP ReadCall.asks →
        final.delivered = payloads.flatten ∧ final.ending.isSome) := by
  have start :
      InOrder fromSlice (payloads.flatten, (received tail.answers).2)
        (stalls polls) 0 (.fresh sent polls) := by
    refine ⟨fun _ => ⟨rfl, ?_, ?_⟩, ?_⟩
    · rw [← content_frames fromSlice fits cut nonempty tail, ← answered]
      rfl
    · simp [Reading.fresh]
    · intro ending reported
      cases reported
  have noFailure :
      ∀ error, (received tail.answers).2 ≠ .failed error := by
    intro error failed
    cases tail with
    | stays => cases failed
    | ends => cases failed
    | fails code => exact intact code rfl
  have inOrder := inOrder_of_run fromSlice start noFailure meets ran
  cases going : final.ending with
  | none =>
      obtain ⟨-, total, bound⟩ := inOrder.before going
      have within : final.delivered <+: payloads.flatten :=
        ⟨(final.rest fromSlice).1, congrArg Prod.fst total⟩
      refine ⟨⟨within, by simp⟩, ?_⟩
      intro enough
      have shorter := within.length_le
      omega
  | some ending =>
      obtain ⟨ends, all, -⟩ := inOrder.behind ending going
      refine ⟨⟨⟨[], ?_⟩, ?_⟩, ?_⟩
      · rw [List.append_nil]
        exact all
      · intro other same
        cases same
        exact ⟨all, ends⟩
      · intro _
        exact ⟨all, rfl⟩

theorem nextApp_dataFrame (payload rest : Bytes) (nonempty : payload ≠ [])
    (fits : payload.length ≤ 65535) :
    nextApp fromSlice (dataFrame payload ++ rest) =
      (.ok (.app payload), rest) := by
  have decoded :
      tryDecodeApp fromSlice (dataFrame payload ++ rest) =
        (.ok (.app payload), rest) := by
    rw [tryDecodeApp_eq, scanItem_dataFrame fits]
    simp [decodeScanned, decodeItem, Found.toResult]
  rw [nextApp]
  split
  · next probe =>
      rw [decoded] at probe
      cases probe
      exact absurd rfl nonempty
  · exact decoded

theorem nextApp_nil : nextApp fromSlice [] = (.ok .needMore, []) := by
  rw [nextApp, tryDecodeApp_eq]
  rfl

end

/-- Two frames in one piece, and the end of the stream. -/
def twoFrames : List ReadPoll :=
  [.ready (.received [1, 0, 0, 2, 0x61, 0x62, 1, 0, 0, 1, 0x63]),
    .ready (.received [])]

theorem nextApp_firstFrame :
    nextApp (fun _ => none) [1, 0, 0, 2, 0x61, 0x62, 1, 0, 0, 1, 0x63] =
      (.ok (.app [0x61, 0x62]), [1, 0, 0, 1, 0x63]) :=
  nextApp_dataFrame (fun _ => none) [0x61, 0x62] [1, 0, 0, 1, 0x63] (by simp)
    (by simp)

theorem nextApp_secondFrame :
    nextApp (fun _ => none) [1, 0, 0, 1, 0x63] = (.ok (.app [0x63]), []) :=
  nextApp_dataFrame (fun _ => none) [0x63] [] (by simp) (by simp)

/-- The first frame is taken with `poll_read` as a whole, the second with
`read_app`. -/
theorem mixed_readers_deliver_payloads_sample :
    ∃ final : Reading,
      run (Reading.next fun _ => none) (.fresh [] twoFrames)
          [.pollRead 2, .readApp, .readApp] =
        some final ∧
      Delivers ([0x61, 0x62, 0x63], .ended)
        (final.delivered, final.ending) := by
  have first :
      (Reading.fresh [] twoFrames).next (fun _ => none) (.pollRead 2) =
        some
          ⟨{ TcpTunnel.fromStream [] with readBuf := [1, 0, 0, 1, 0x63] },
            [.ready (.received [])], [0x61, 0x62], none⟩ := by
    simp [Reading.next, Reading.fresh, twoFrames, TcpTunnel.fromStream,
      pollRead, pollReadLoop, nextApp_nil, nextApp_firstFrame,
      TcpTunnel.deliver]
  have second :
      Reading.next (fun _ => none)
          ⟨{ TcpTunnel.fromStream [] with readBuf := [1, 0, 0, 1, 0x63] },
            [.ready (.received [])], [0x61, 0x62], none⟩ .readApp =
        some
          ⟨TcpTunnel.fromStream [], [.ready (.received [])],
            [0x61, 0x62, 0x63], none⟩ := by
    simp [Reading.next, TcpTunnel.fromStream, pollReadApp, readApp,
      readAppLoop, nextApp_secondFrame, answersAtOnce, fromStall]
  have third :
      Reading.next (fun _ => none)
          ⟨TcpTunnel.fromStream [], [.ready (.received [])],
            [0x61, 0x62, 0x63], none⟩ .readApp =
        some
          ⟨{ TcpTunnel.fromStream [] with closed := true }, [],
            [0x61, 0x62, 0x63], some .ended⟩ := by
    simp [Reading.next, TcpTunnel.fromStream, pollReadApp, readApp,
      readAppLoop, nextApp_nil, answersAtOnce, fromStall, Reading.report]
  have ran :
      run (Reading.next fun _ => none) (.fresh [] twoFrames)
          [.pollRead 2, .readApp, .readApp] =
        some
          ⟨{ TcpTunnel.fromStream [] with closed := true }, [],
            [0x61, 0x62, 0x63], some .ended⟩ := by
    simp only [run, first, second, third]
  have meets :
      Meets (Reading.next fun _ => none) ReadsInOrder (.fresh [] twoFrames)
        [.pollRead 2, .readApp, .readApp] :=
    meets_cons trivial first
      (meets_cons rfl second (meets_cons rfl third trivial))
  have delivers :=
    @mixed_readers_deliver_payloads (fun _ => none) [[0x61, 0x62], [0x63]]
      [[1, 0, 0, 2, 0x61, 0x62, 1, 0, 0, 1, 0x63]] twoFrames .ends
      [.pollRead 2, .readApp, .readApp] [] _ (by simp) (by decide) (by simp)
      (by simp) rfl meets ran
  exact ⟨_, ran, delivers.1⟩

/-- `poll_read` leaves the second byte of the first frame behind, and
`read_app` passes it over. -/
theorem mixed_readers_reorder :
    ∃ final : Reading,
      run (Reading.next fun _ => none) (.fresh [] twoFrames)
          [.pollRead 1, .readApp, .pollRead 1] =
        some final ∧
      final.delivered = [0x61, 0x63, 0x62] := by
  have first :
      (Reading.fresh [] twoFrames).next (fun _ => none) (.pollRead 1) =
        some
          ⟨{ TcpTunnel.fromStream [] with
              readBuf := [1, 0, 0, 1, 0x63]
              appPending := [0x62] },
            [.ready (.received [])], [0x61], none⟩ := by
    simp [Reading.next, Reading.fresh, twoFrames, TcpTunnel.fromStream,
      pollRead, pollReadLoop, nextApp_nil, nextApp_firstFrame,
      TcpTunnel.deliver]
  have second :
      Reading.next (fun _ => none)
          ⟨{ TcpTunnel.fromStream [] with
              readBuf := [1, 0, 0, 1, 0x63]
              appPending := [0x62] },
            [.ready (.received [])], [0x61], none⟩ .readApp =
        some
          ⟨{ TcpTunnel.fromStream [] with appPending := [0x62] },
            [.ready (.received [])], [0x61, 0x63], none⟩ := by
    simp [Reading.next, TcpTunnel.fromStream, pollReadApp, readApp,
      readAppLoop, nextApp_secondFrame, answersAtOnce, fromStall]
  refine ⟨⟨TcpTunnel.fromStream [], [.ready (.received [])],
    [0x61, 0x63, 0x62], none⟩, ?_, rfl⟩
  simp only [run, first, second]
  rfl

end HermesAtrust.Tcp
