import HermesAtrust.Tcp.TunnelFraming

/-!
# The pending frame of a tunnel

A frame that `poll_write` or `poll_shutdown` could not write at once stays in
the tunnel, and the next poll goes on with it: with its bytes, and with its
length as the number of bytes accepted.  Whoever polls next is answered for
that frame.  It may be a caller with another buffer, or a shutdown that has
then no close frame left to write.
-/

namespace HermesAtrust.Tcp

open HermesAtrust.Framing HermesAtrust.Protocol HermesAtrust.Concurrency

/-- Everything a caller can do with a tunnel: write to it, drop a direct call
at an `await`, and read from it. -/
inductive TunnelStep where
  | write (step : EndpointStep)
  | dropCall
  | readApp (answers : List ReadAnswer)
  | pollRead (remaining : Nat) (polls : List ReadPoll)

section Use

variable (fromSlice : Bytes → Option StatusBody)

/-- One step of the caller.  A call under way borrows the tunnel. -/
def Endpoint.use (endpoint : Endpoint) : TunnelStep → Option Endpoint
  | .write step => endpoint.next step
  | .dropCall => some { endpoint with call := none }
  | .readApp answers =>
      if endpoint.call = none then
        some
          { endpoint with
            tunnel := (readApp fromSlice endpoint.tunnel answers).1 }
      else
        none
  | .pollRead remaining polls =>
      if endpoint.call = none then
        some
          { endpoint with
            tunnel := (pollRead fromSlice endpoint.tunnel remaining polls).1 }
      else
        none

/-! ## What can be pending -/

/-- Nothing, the close frame, or a data frame. -/
def PendingFrame (pending : Bytes) : Prop :=
  pending = [] ∨ pending = encodeTcpClose ∨
    ∃ payload : Bytes,
      1 ≤ payload.length ∧ payload.length ≤ 65535 ∧
        pending = dataFrame payload

theorem writePending_writeLoop (tunnel : TcpTunnel) (answers : List WritePoll) :
    (writeLoop tunnel answers).1.writePending = tunnel.writePending := by
  induction answers generalizing tunnel with
  | nil =>
      rw [writeLoop]
      split <;> rfl
  | cons answer later inductionHypothesis =>
      unfold writeLoop
      by_cases complete : tunnel.writePending.length ≤ tunnel.writeOffset
      · rw [if_pos complete]
      · rw [if_neg complete]
        cases answer with
        | pending => rfl
        | failed code => rfl
        | ready count =>
            cases count with
            | zero => rfl
            | succ count =>
                exact inductionHypothesis (tunnel.accept (count + 1))

theorem writePending_readAppLoop (tunnel : TcpTunnel)
    (answers : List ReadAnswer) :
    (readAppLoop fromSlice tunnel answers).1.writePending =
      tunnel.writePending := by
  fun_induction readAppLoop fromSlice tunnel answers with
  | case7 tunnel rest decoded head tail later inductionHypothesis =>
      exact inductionHypothesis
  | _ => rfl

theorem writePending_readApp (tunnel : TcpTunnel) (answers : List ReadAnswer) :
    (readApp fromSlice tunnel answers).1.writePending =
      tunnel.writePending := by
  unfold readApp
  split
  · rfl
  · exact writePending_readAppLoop fromSlice tunnel answers

theorem writePending_pollReadLoop (remaining : Nat) (tunnel : TcpTunnel)
    (polls : List ReadPoll) :
    (pollReadLoop fromSlice remaining tunnel polls).1.writePending =
      tunnel.writePending := by
  fun_induction pollReadLoop fromSlice remaining tunnel polls with
  | case2 tunnel polls payload rest decoded after filled delivered =>
      simp only [TcpTunnel.deliver, Prod.mk.injEq] at delivered
      rw [← delivered.1]
  | case8 tunnel rest decoded head tail later inductionHypothesis =>
      exact inductionHypothesis
  | _ => rfl

theorem writePending_pollRead (tunnel : TcpTunnel) (remaining : Nat)
    (polls : List ReadPoll) :
    (pollRead fromSlice tunnel remaining polls).1.writePending =
      tunnel.writePending := by
  unfold pollRead
  split
  · rfl
  · split
    · rfl
    · split
      · rfl
      · exact writePending_pollReadLoop fromSlice remaining tunnel polls

end Use

/-- The frame that a poll of `poll_write` goes on with: the pending one, or
that of the first chunk of the buffer. -/
def TcpTunnel.frameInHand (tunnel : TcpTunnel) (buf : Bytes) : Bytes :=
  if tunnel.writePending = [] then
    dataFrame (chunkOf buf)
  else
    tunnel.writePending

theorem armWrite_frameInHand (tunnel : TcpTunnel) (buf : Bytes) :
    ∃ armed, tunnel.armWrite buf = .ok armed ∧
      armed.writePending = tunnel.frameInHand buf ∧
      armed.stream = tunnel.stream := by
  by_cases idle : tunnel.writePending = []
  · refine ⟨_, armWrite_empty buf idle, ?_, rfl⟩
    rw [TcpTunnel.frameInHand, if_pos idle]
  · refine ⟨tunnel, ?_, ?_, rfl⟩
    · rw [TcpTunnel.armWrite, if_neg idle]
    · rw [TcpTunnel.frameInHand, if_neg idle]

theorem pendingFrame_frameInHand {tunnel : TcpTunnel} {buf : Bytes}
    (pending : PendingFrame tunnel.writePending) (nonempty : buf ≠ []) :
    PendingFrame (tunnel.frameInHand buf) := by
  by_cases idle : tunnel.writePending = []
  · rw [TcpTunnel.frameInHand, if_pos idle]
    exact .inr (.inr ⟨chunkOf buf, length_chunkOf_pos nonempty,
      (length_chunkOf_le buf).1, rfl⟩)
  · rw [TcpTunnel.frameInHand, if_neg idle]
    exact pending

theorem pendingFrame_pollWrite {tunnel : TcpTunnel}
    (pending : PendingFrame tunnel.writePending) (buf : Bytes)
    (answers : List WritePoll) :
    PendingFrame (pollWrite tunnel buf answers).1.writePending := by
  by_cases closed : tunnel.closed
  · simpa [pollWrite, closed] using pending
  by_cases empty : buf = []
  · simpa [pollWrite, closed, empty] using pending
  obtain ⟨armed, arming, inHand, -⟩ := armWrite_frameInHand tunnel buf
  have kept := writePending_writeLoop armed answers
  rw [inHand] at kept
  have stillPending := pendingFrame_frameInHand pending empty
  rcases looped : writeLoop armed answers with ⟨after, ending⟩
  simp only [looped] at kept
  rw [← kept] at stillPending
  cases ending with
  | written =>
      have cleared : PendingFrame [] := .inl rfl
      simpa [pollWrite, closed, empty, arming, looped] using cleared
  | pending =>
      simpa [pollWrite, closed, empty, arming, looped] using stillPending
  | failed error =>
      simpa [pollWrite, closed, empty, arming, looped] using stillPending

/-- The tunnel as `poll_shutdown` starts to write. -/
def TcpTunnel.armShutdown (tunnel : TcpTunnel) : TcpTunnel :=
  if tunnel.closed = false ∧ tunnel.writePending = [] then
    { tunnel with writePending := encodeTcpClose, writeOffset := 0 }
  else
    tunnel

theorem stream_armShutdown (tunnel : TcpTunnel) :
    tunnel.armShutdown.stream = tunnel.stream := by
  unfold TcpTunnel.armShutdown
  split <;> rfl

theorem pollShutdown_eq (tunnel : TcpTunnel) (answers : List WritePoll)
    (shutdown : UnitPoll) :
    pollShutdown tunnel answers shutdown =
      match writeLoop tunnel.armShutdown answers with
      | (after, .pending) => (after, .pending)
      | (after, .failed error) =>
          ({ after with writePending := [], closed := true },
            .ready (.error error))
      | (after, .written) =>
          ({ after with writePending := [], closed := true }, shutdown) :=
  rfl

theorem pendingFrame_pollShutdown {tunnel : TcpTunnel}
    (pending : PendingFrame tunnel.writePending) (answers : List WritePoll)
    (shutdown : UnitPoll) :
    PendingFrame (pollShutdown tunnel answers shutdown).1.writePending := by
  have armed : PendingFrame tunnel.armShutdown.writePending := by
    unfold TcpTunnel.armShutdown
    split
    · exact .inr (.inl rfl)
    · exact pending
  rw [pollShutdown_eq]
  rcases looped : writeLoop tunnel.armShutdown answers with ⟨after, ending⟩
  cases ending with
  | written => exact .inl rfl
  | failed error => exact .inl rfl
  | pending =>
      rw [← writePending_writeLoop _ answers, looped] at armed
      exact armed

/-- The direct calls leave the pending frame alone. -/
theorem pendingFrame_next {endpoint after : Endpoint} {step : EndpointStep}
    (pending : PendingFrame endpoint.tunnel.writePending)
    (stepped : endpoint.next step = some after) :
    PendingFrame after.tunnel.writePending := by
  cases step with
  | pollWrite buf answers =>
      simp only [Endpoint.next, Option.ite_none_right_eq_some,
        Option.some.injEq] at stepped
      rw [← stepped.2]
      exact pendingFrame_pollWrite pending buf answers
  | pollFlush flush =>
      simp only [Endpoint.next, Option.ite_none_right_eq_some,
        Option.some.injEq] at stepped
      rw [← stepped.2]
      exact pending
  | pollShutdown answers shutdown =>
      simp only [Endpoint.next, Option.ite_none_right_eq_some,
        Option.some.injEq] at stepped
      rw [← stepped.2]
      exact pendingFrame_pollShutdown pending answers shutdown
  | sendProbe =>
      simp only [Endpoint.next, Option.ite_none_right_eq_some,
        Option.some.injEq] at stepped
      rw [← stepped.2]
      unfold Endpoint.startProbe
      split <;> exact pending
  | close =>
      simp only [Endpoint.next, Option.ite_none_right_eq_some,
        Option.some.injEq] at stepped
      rw [← stepped.2]
      unfold Endpoint.startClose
      split <;> exact pending
  | resumeWrite answers =>
      simp only [Endpoint.next, Endpoint.resumeWrite] at stepped
      split at stepped
      · cases stepped
        exact pending
      · cases stepped
        exact pending
      · cases stepped
  | resumeUnit answer =>
      simp only [Endpoint.next, Endpoint.resumeUnit] at stepped
      split at stepped <;> cases stepped <;> exact pending

theorem pendingFrame_use {fromSlice : Bytes → Option StatusBody}
    {endpoint after : Endpoint} {step : TunnelStep}
    (pending : PendingFrame endpoint.tunnel.writePending)
    (stepped : endpoint.use fromSlice step = some after) :
    PendingFrame after.tunnel.writePending := by
  cases step with
  | write step => exact pendingFrame_next pending stepped
  | dropCall =>
      cases stepped
      exact pending
  | readApp answers =>
      simp only [Endpoint.use, Option.ite_none_right_eq_some,
        Option.some.injEq] at stepped
      rw [← stepped.2]
      simp only [writePending_readApp]
      exact pending
  | pollRead remaining polls =>
      simp only [Endpoint.use, Option.ite_none_right_eq_some,
        Option.some.injEq] at stepped
      rw [← stepped.2]
      simp only [writePending_pollRead]
      exact pending

/-- What can be pending in any state a caller can bring a tunnel into. -/
theorem pendingFrame_of_run {fromSlice : Bytes → Option StatusBody}
    {steps : List TunnelStep} {endpoint : Endpoint}
    (ran : run (Endpoint.use fromSlice) .fresh steps = some endpoint) :
    PendingFrame endpoint.tunnel.writePending := by
  refine invariant_of_run
    (fun endpoint => PendingFrame endpoint.tunnel.writePending)
    (.inl rfl) ?_ ran
  intro endpoint step after pending stepped
  exact pendingFrame_use pending stepped

/-! ## What a write is answered for -/

/-- A write loop that has written puts the rest of the frame on the wire. -/
theorem stream_of_written {tunnel after : TcpTunnel} {answers : List WritePoll}
    (returned : writeLoop tunnel answers = (after, .written)) :
    after.stream = tunnel.stream ++ tunnel.unwritten := by
  induction answers generalizing tunnel with
  | nil =>
      unfold writeLoop at returned
      split at returned
      · next complete =>
          cases returned
          rw [TcpTunnel.unwritten, List.drop_of_length_le complete,
            List.append_nil]
      · cases returned
  | cons answer later inductionHypothesis =>
      unfold writeLoop at returned
      by_cases complete : tunnel.writePending.length ≤ tunnel.writeOffset
      · rw [if_pos complete] at returned
        cases returned
        rw [TcpTunnel.unwritten, List.drop_of_length_le complete,
          List.append_nil]
      · rw [if_neg complete] at returned
        cases answer with
        | pending => cases returned
        | failed code => cases returned
        | ready count =>
            cases count with
            | zero => cases returned
            | succ count =>
                have continued := inductionHypothesis returned
                rw [accept_eq_advance, unwritten_advance] at continued
                rw [continued]
                simp only [TcpTunnel.advance, List.append_assoc,
                  List.take_append_drop]

/-- A stream below that takes the whole frame at once. -/
theorem writeLoop_whole (tunnel : TcpTunnel) {count : Nat}
    (enough : tunnel.writePending.length ≤ count + 1) :
    (writeLoop tunnel [.ready (count + 1)]).2 = .written := by
  have length := length_unwritten tunnel
  unfold writeLoop
  by_cases complete : tunnel.writePending.length ≤ tunnel.writeOffset
  · rw [if_pos complete]
  · rw [if_neg complete]
    simp only [accept_eq_advance]
    rw [writeLoop, if_pos]
    simp only [TcpTunnel.advance]
    omega

theorem userLen_of_pendingFrame {tunnel : TcpTunnel}
    (pending : PendingFrame tunnel.writePending) :
    tunnel.userLen = (tunnel.writePending.drop 4).length := by
  rcases pending with none | close | ⟨payload, -, fits, data⟩
  · rw [TcpTunnel.userLen, none]
    rfl
  · rw [TcpTunnel.userLen, close]
    rfl
  · rw [userLen_dataFrame data fits, data, List.length_drop, length_dataFrame]
    omega

/-- The bytes a successful poll has accepted: the payload of the frame it
finished. -/
def TcpTunnel.acceptedBytes (tunnel : TcpTunnel) (buf : Bytes) : Bytes :=
  (tunnel.frameInHand buf).drop 4

/-- A poll of `poll_write` that succeeds has put the rest of the frame in hand
on the wire and reports the length of its payload. -/
theorem pollWrite_finishes {tunnel after : TcpTunnel} {buf : Bytes}
    {answers : List WritePoll} {count : Nat}
    (pending : PendingFrame tunnel.writePending) (nonempty : buf ≠ [])
    (returned : pollWrite tunnel buf answers = (after, .ready (.ok count))) :
    tunnel.closed = false ∧
      count = (tunnel.acceptedBytes buf).length ∧
      ∃ rest, rest <:+ tunnel.frameInHand buf ∧
        after.stream = tunnel.stream ++ rest := by
  by_cases closed : tunnel.closed
  · simp [pollWrite, closed] at returned
  obtain ⟨armed, arming, inHand, sameStream⟩ := armWrite_frameInHand tunnel buf
  have armedPending : PendingFrame armed.writePending := by
    rw [inHand]
    exact pendingFrame_frameInHand pending nonempty
  rcases looped : writeLoop armed answers with ⟨looped', ending⟩
  cases ending with
  | written =>
      simp only [pollWrite, closed, nonempty, arming, looped, if_false,
        Bool.false_eq_true, Prod.mk.injEq, PollWriteResult.ready.injEq,
        Except.ok.injEq] at returned
      obtain ⟨rfl, rfl⟩ := returned
      refine ⟨by simpa using closed, ?_, armed.unwritten, ?_, ?_⟩
      · rw [userLen_of_pendingFrame armedPending, inHand,
          TcpTunnel.acceptedBytes]
      · rw [← inHand]
        exact List.drop_suffix armed.writeOffset armed.writePending
      · have wire := stream_of_written looped
        rw [← sameStream]
        exact wire
  | pending =>
      simp [pollWrite, closed, nonempty, arming, looped] at returned
  | failed error =>
      simp [pollWrite, closed, nonempty, arming, looped] at returned

/-- An open tunnel over a stream that takes the frame in hand at once. -/
theorem pollWrite_whole {tunnel : TcpTunnel} {buf : Bytes}
    (pending : PendingFrame tunnel.writePending) (nonempty : buf ≠ [])
    (isOpen : tunnel.closed = false) :
    ∃ answers after,
      pollWrite tunnel buf answers =
        (after, .ready (.ok (tunnel.acceptedBytes buf).length)) := by
  obtain ⟨armed, arming, inHand, -⟩ := armWrite_frameInHand tunnel buf
  have armedPending : PendingFrame armed.writePending := by
    rw [inHand]
    exact pendingFrame_frameInHand pending nonempty
  have whole :=
    writeLoop_whole armed (Nat.le_succ armed.writePending.length)
  refine ⟨[.ready (armed.writePending.length + 1)], ?_⟩
  rcases looped : writeLoop armed [.ready (armed.writePending.length + 1)] with
    ⟨after, ending⟩
  rw [looped] at whole
  subst whole
  refine ⟨{ after with writePending := [], writeOffset := 0 }, ?_⟩
  simp only [pollWrite, isOpen, nonempty, arming, looped, if_false,
    Bool.false_eq_true]
  rw [userLen_of_pendingFrame armedPending, inHand, TcpTunnel.acceptedBytes]

theorem chunkOf_begins (buf : Bytes) : chunkOf buf <+: buf :=
  ⟨buf.drop (chunkOf buf).length, chunkOf_append_drop buf⟩

theorem acceptedBytes_idle {tunnel : TcpTunnel} (buf : Bytes)
    (idle : tunnel.writePending = []) :
    tunnel.acceptedBytes buf = chunkOf buf := by
  rw [TcpTunnel.acceptedBytes, TcpTunnel.frameInHand, if_pos idle]
  rfl

theorem acceptedBytes_pending {tunnel : TcpTunnel} (buf : Bytes)
    (busy : tunnel.writePending ≠ []) :
    tunnel.acceptedBytes buf = tunnel.writePending.drop 4 := by
  rw [TcpTunnel.acceptedBytes, TcpTunnel.frameInHand, if_neg busy]

/-- The accepted bytes start the buffer exactly if the payload of a pending
frame does. -/
theorem acceptedBytes_prefix_iff (tunnel : TcpTunnel) (buf : Bytes) :
    tunnel.acceptedBytes buf <+: buf ↔
      tunnel.writePending.drop 4 <+: buf := by
  by_cases idle : tunnel.writePending = []
  · rw [acceptedBytes_idle buf idle, idle]
    exact iff_of_true (chunkOf_begins buf) List.nil_prefix
  · rw [acceptedBytes_pending buf idle]

/-- In every state a caller can bring a tunnel into, a poll with a buffer that
is not empty accepts the payload of the frame it finishes.  These bytes are
the start of the buffer, and no more than the buffer has, exactly if the
tunnel is closed or the payload of the pending frame, if there is one, is a
start of the buffer. -/
theorem poll_write_accepts_own_bytes_iff
    {fromSlice : Bytes → Option StatusBody} {steps : List TunnelStep}
    {endpoint : Endpoint} {buf : Bytes}
    (ran : run (Endpoint.use fromSlice) .fresh steps = some endpoint)
    (nonempty : buf ≠ []) :
    (∀ answers after count,
      pollWrite endpoint.tunnel buf answers = (after, .ready (.ok count)) →
        count = (endpoint.tunnel.acceptedBytes buf).length ∧
          ∃ rest, rest <:+ endpoint.tunnel.frameInHand buf ∧
            after.stream = endpoint.tunnel.stream ++ rest) ∧
      ((∀ answers after count,
        pollWrite endpoint.tunnel buf answers = (after, .ready (.ok count)) →
          count ≤ buf.length ∧
            (endpoint.tunnel.acceptedBytes buf).take count <+: buf) ↔
        endpoint.tunnel.closed = true ∨
          endpoint.tunnel.writePending.drop 4 <+: buf) := by
  have pending := pendingFrame_of_run ran
  refine ⟨?_, ?_, ?_⟩
  · intro answers after count returned
    exact (pollWrite_finishes pending nonempty returned).2
  · intro accepts
    cases closed : endpoint.tunnel.closed with
    | true => exact .inl rfl
    | false =>
        right
        obtain ⟨answers, after, returned⟩ :=
          pollWrite_whole pending nonempty closed
        have own := (accepts answers after _ returned).2
        rw [List.take_length] at own
        exact (acceptedBytes_prefix_iff _ buf).mp own
  · intro condition answers after count returned
    obtain ⟨isOpen, reported, -⟩ :=
      pollWrite_finishes pending nonempty returned
    rcases condition with closed | own
    · rw [closed] at isOpen
      cases isOpen
    · have own := (acceptedBytes_prefix_iff _ buf).mpr own
      rw [reported, List.take_length]
      exact ⟨own.length_le, own⟩

/-- The caller comes back with the buffer it gave up on, and more. -/
theorem poll_write_accepts_own_bytes_iff_sample :
    ∃ endpoint : Endpoint,
      run (Endpoint.use fun _ => none) .fresh
          [.write (.pollWrite [0x61, 0x62] [.ready 5, .pending])] =
        some endpoint ∧
      endpoint.tunnel.writePending ≠ [] ∧
      ∀ answers after count,
        pollWrite endpoint.tunnel [0x61, 0x62, 0x63] answers =
            (after, .ready (.ok count)) →
          count ≤ 3 ∧
            (endpoint.tunnel.acceptedBytes [0x61, 0x62, 0x63]).take count <+:
              [0x61, 0x62, 0x63] := by
  refine ⟨_, rfl, by decide, ?_⟩
  have exact_condition :=
    @poll_write_accepts_own_bytes_iff (fun _ => none)
      [.write (.pollWrite [0x61, 0x62] [.ready 5, .pending])] _
      [0x61, 0x62, 0x63] rfl (by simp)
  exact exact_condition.2.mpr (.inr (by decide))

/-- The caller gives up on two bytes and comes back with another one. -/
theorem poll_write_accepts_other_bytes :
    ∃ (steps : List TunnelStep) (endpoint : Endpoint) (after : TcpTunnel),
      run (Endpoint.use fun _ => none) .fresh steps = some endpoint ∧
      pollWrite endpoint.tunnel [0x63] [.ready 6] =
        (after, .ready (.ok 2)) ∧
      ¬ (2 ≤ [0x63].length) ∧
      after.stream = dataFrame [0x61, 0x62] := by
  refine ⟨[.write (.pollWrite [0x61, 0x62] [.pending])], _, _, rfl, rfl,
    by decide, by decide⟩

/-! ## Shutdown -/

/-- `poll_shutdown` polled until it is ready. -/
def driveShutdown :
    TcpTunnel → List (List WritePoll × UnitPoll) → TcpTunnel × UnitPoll
  | tunnel, [] => (tunnel, .pending)
  | tunnel, (answers, shutdown) :: later =>
      match pollShutdown tunnel answers shutdown with
      | (after, .pending) => driveShutdown after later
      | (after, .ready result) => (after, .ready result)

/-- One poll on an open tunnel below which nothing fails: the rest of the
frame in hand is on the wire and the tunnel is closed, or a part of it is. -/
theorem pollShutdown_cases {tunnel after : TcpTunnel}
    {answers : List WritePoll} {shutdown result : UnitPoll}
    (clean : ∀ answer ∈ answers, answer.Clean)
    (returned : pollShutdown tunnel answers shutdown = (after, result)) :
    (result = shutdown ∧ after.closed = true ∧ after.writePending = [] ∧
        after.stream = tunnel.stream ++ tunnel.armShutdown.unwritten) ∨
      (result = .pending ∧
        ∃ count < tunnel.armShutdown.unwritten.length,
          after = tunnel.armShutdown.advance count) := by
  rw [pollShutdown_eq] at returned
  rcases looped : writeLoop tunnel.armShutdown answers with ⟨moved, ending⟩
  obtain ⟨count, -, rfl, outcome, -⟩ := writeLoop_cases clean looped
  rw [looped] at returned
  rcases outcome with ⟨rfl, all⟩ | ⟨rfl, part⟩
  · left
    have wire := stream_of_written looped
    rw [stream_armShutdown] at wire
    obtain ⟨rfl, rfl⟩ := Prod.mk.inj returned
    exact ⟨rfl, rfl, rfl, wire⟩
  · right
    obtain ⟨rfl, rfl⟩ := Prod.mk.inj returned
    exact ⟨rfl, count, part, rfl⟩

/-- Once the tunnel is closed nothing more is written. -/
theorem driveShutdown_closed {tunnel : TcpTunnel}
    (closed : tunnel.closed = true) (written : tunnel.writePending = [])
    (polls : List (List WritePoll × UnitPoll)) :
    (driveShutdown tunnel polls).1.stream = tunnel.stream := by
  induction polls generalizing tunnel with
  | nil => rfl
  | cons poll later inductionHypothesis =>
      obtain ⟨answers, shutdown⟩ := poll
      have looped : writeLoop tunnel answers = (tunnel, .written) := by
        unfold writeLoop
        cases answers <;> simp [written]
      have polled :
          pollShutdown tunnel answers shutdown =
            ({ tunnel with writePending := [], closed := true }, shutdown) := by
        simp [pollShutdown, closed, looped]
      rw [driveShutdown, polled]
      cases shutdown with
      | ready result => rfl
      | pending => exact inductionHypothesis rfl rfl

/-- Schedules of the stream below without errors. -/
def CleanShutdown (polls : List (List WritePoll × UnitPoll)) : Prop :=
  ∀ poll ∈ polls, ∀ answer ∈ poll.1, answer.Clean

/-- A shutdown that has come to its end has put the rest of the frame in hand
on the wire and nothing else. -/
theorem driveShutdown_stream {tunnel final : TcpTunnel}
    {polls : List (List WritePoll × UnitPoll)}
    {result : Except IoError Unit} (isOpen : tunnel.closed = false)
    (clean : CleanShutdown polls)
    (driven : driveShutdown tunnel polls = (final, .ready result)) :
    final.stream = tunnel.stream ++ tunnel.armShutdown.unwritten := by
  induction polls generalizing tunnel with
  | nil => cases driven
  | cons poll later inductionHypothesis =>
      obtain ⟨answers, shutdown⟩ := poll
      have laterClean : CleanShutdown later :=
        fun poll member => clean poll (List.mem_cons_of_mem _ member)
      rcases polled : pollShutdown tunnel answers shutdown with
        ⟨after, outcome⟩
      rcases pollShutdown_cases (clean _ List.mem_cons_self) polled with
        ⟨rfl, closed, written, wire⟩ | ⟨rfl, count, part, rfl⟩
      · rw [driveShutdown, polled] at driven
        cases outcome with
        | ready result' =>
            cases driven
            exact wire
        | pending =>
            simp only at driven
            rw [← wire, ← driveShutdown_closed closed written later, driven]
      · rw [driveShutdown, polled] at driven
        have busy : tunnel.armShutdown.writePending ≠ [] := by
          intro none
          rw [length_unwritten, none] at part
          simp at part
        have stillOpen : (tunnel.armShutdown.advance count).closed = false := by
          simp only [TcpTunnel.advance, TcpTunnel.armShutdown]
          split <;> exact isOpen
        have settled :
            (tunnel.armShutdown.advance count).armShutdown =
              tunnel.armShutdown.advance count := by
          rw [TcpTunnel.armShutdown, if_neg]
          intro idle
          exact busy idle.2
        have rest := inductionHypothesis stillOpen laterClean driven
        rw [rest, settled, unwritten_advance]
        rw [← stream_armShutdown tunnel]
        simp only [TcpTunnel.advance, List.append_assoc,
          List.take_append_drop]

/-- What a shutdown has to put on the wire: the rest of the pending frame and
the close frame, which may itself be the pending one. -/
def TcpTunnel.closingBytes (tunnel : TcpTunnel) : Bytes :=
  if tunnel.writePending = encodeTcpClose then
    tunnel.unwritten
  else
    tunnel.unwritten ++ encodeTcpClose

/-- The frame in hand is all that has to be written exactly if no data frame
is pending. -/
theorem armShutdown_unwritten_iff {tunnel : TcpTunnel}
    (isOpen : tunnel.closed = false) :
    tunnel.armShutdown.unwritten = tunnel.closingBytes ↔
      tunnel.writePending = [] ∨ tunnel.writePending = encodeTcpClose := by
  by_cases idle : tunnel.writePending = []
  · refine iff_of_true ?_ (.inl idle)
    rw [TcpTunnel.armShutdown, if_pos ⟨isOpen, idle⟩, TcpTunnel.closingBytes,
      if_neg (by rw [idle]; decide), TcpTunnel.unwritten, TcpTunnel.unwritten,
      idle, List.drop_nil]
    rfl
  · rw [TcpTunnel.armShutdown, if_neg fun both => idle both.2,
      TcpTunnel.closingBytes]
    by_cases close : tunnel.writePending = encodeTcpClose
    · rw [if_pos close]
      exact iff_of_true rfl (.inr close)
    · rw [if_neg close]
      refine iff_of_false ?_ (fun either => either.elim idle close)
      intro same
      have lengths := congrArg List.length same
      simp [encodeTcpClose] at lengths

/-- An open tunnel over a stream that takes everything at once. -/
theorem driveShutdown_whole (tunnel : TcpTunnel) :
    ∃ polls final, CleanShutdown polls ∧
      driveShutdown tunnel polls = (final, .ready (.ok ())) := by
  have whole :=
    writeLoop_whole tunnel.armShutdown
      (Nat.le_succ tunnel.armShutdown.writePending.length)
  refine ⟨[([.ready (tunnel.armShutdown.writePending.length + 1)],
    .ready (.ok ()))], ?_⟩
  rcases looped : writeLoop tunnel.armShutdown
      [.ready (tunnel.armShutdown.writePending.length + 1)] with
    ⟨after, ending⟩
  rw [looped] at whole
  subst whole
  refine ⟨{ after with writePending := [], closed := true }, ?_, ?_⟩
  · intro poll member answer inPoll
    rw [List.mem_singleton.mp member] at inPoll
    rw [List.mem_singleton.mp inPoll]
    exact Nat.succ_pos _
  · rw [driveShutdown, pollShutdown_eq, looped]

/-- In every open state a caller can bring a tunnel into, a shutdown that
succeeds over a stream without errors has completed the pending frame and then
written one close frame exactly if no data frame was pending. -/
theorem shutdown_ends_with_close_iff {fromSlice : Bytes → Option StatusBody}
    {steps : List TunnelStep} {endpoint : Endpoint}
    (ran : run (Endpoint.use fromSlice) .fresh steps = some endpoint)
    (isOpen : endpoint.tunnel.closed = false) :
    (∀ polls final, CleanShutdown polls →
      driveShutdown endpoint.tunnel polls = (final, .ready (.ok ())) →
        final.stream =
          endpoint.tunnel.stream ++ endpoint.tunnel.closingBytes) ↔
      ¬ ∃ payload : Bytes,
        payload ≠ [] ∧ endpoint.tunnel.writePending = dataFrame payload := by
  have noData :
      (¬ ∃ payload : Bytes,
        payload ≠ [] ∧ endpoint.tunnel.writePending = dataFrame payload) ↔
      endpoint.tunnel.writePending = [] ∨
        endpoint.tunnel.writePending = encodeTcpClose := by
    constructor
    · intro none
      rcases pendingFrame_of_run ran with
        idle | close | ⟨payload, positive, -, data⟩
      · exact .inl idle
      · exact .inr close
      · exact absurd ⟨payload, List.ne_nil_of_length_pos positive, data⟩ none
    · intro either data
      obtain ⟨payload, -, data⟩ := data
      rw [data] at either
      rcases either with idle | close
      · cases idle
      · simp [dataFrame, encodeTcpClose] at close
  rw [noData, ← armShutdown_unwritten_iff isOpen]
  constructor
  · intro completes
    obtain ⟨polls, final, clean, driven⟩ := driveShutdown_whole endpoint.tunnel
    have wire := driveShutdown_stream isOpen clean driven
    rw [completes polls final clean driven] at wire
    exact (List.append_cancel_left wire).symm
  · intro same polls final clean driven
    rw [driveShutdown_stream isOpen clean driven, same]

/-- A shutdown that is interrupted within the close frame and taken up
again. -/
theorem shutdown_ends_with_close_iff_sample :
    ∃ endpoint : Endpoint,
      run (Endpoint.use fun _ => none) .fresh
          [.write (.pollWrite [0x61] [.ready 5]),
            .write (.pollShutdown [.ready 3, .pending] .pending)] =
        some endpoint ∧
      endpoint.tunnel.closed = false ∧
      ∀ polls final, CleanShutdown polls →
        driveShutdown endpoint.tunnel polls = (final, .ready (.ok ())) →
          final.stream = dataFrame [0x61] ++ encodeTcpClose := by
  refine ⟨_, rfl, rfl, ?_⟩
  have exact_condition :=
    @shutdown_ends_with_close_iff (fun _ => none)
      [.write (.pollWrite [0x61] [.ready 5]),
        .write (.pollShutdown [.ready 3, .pending] .pending)] _ rfl rfl
  apply exact_condition.mpr
  intro data
  obtain ⟨payload, -, data⟩ := data
  have second : (0x01 : UInt8) = 0x00 := congrArg (byteAt · 1) data
  exact absurd second (by decide)

/-- A data frame is pending when the shutdown starts: it is completed, the
shutdown succeeds, and no close frame was written. -/
theorem shutdown_ends_without_close :
    ∃ (steps : List TunnelStep) (endpoint : Endpoint) (final : TcpTunnel),
      run (Endpoint.use fun _ => none) .fresh steps = some endpoint ∧
      endpoint.tunnel.closed = false ∧
      driveShutdown endpoint.tunnel [([.ready 9], .ready (.ok ()))] =
        (final, .ready (.ok ())) ∧
      final.stream = dataFrame [0x61] := by
  exact ⟨[.write (.pollWrite [0x61] [.ready 2, .pending])], _, _, rfl, rfl, rfl,
    by decide⟩

end HermesAtrust.Tcp
