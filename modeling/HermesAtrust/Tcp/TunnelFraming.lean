import HermesAtrust.Concurrency.Transitions
import HermesAtrust.Tcp.TunnelWriting

/-!
# Frame boundaries on the wire

`poll_write` and `poll_shutdown` share the pending frame of the tunnel, and a
caller may give up on a half-written frame and come back with another buffer.
`send_probe` and `close` write to the stream below directly.  They borrow the
tunnel until they return, so nothing else writes while one of them is under
way; but nothing makes them wait for a half-written frame either.
-/

namespace HermesAtrust.Tcp

open HermesAtrust.Framing HermesAtrust.Protocol HermesAtrust.Concurrency

/-- Where a call of `send_probe` or `close` stands: with the bytes of its
frame that the stream below has not accepted, or behind them.  `close` keeps
its first error. -/
inductive DirectCall where
  | probeWriting (remaining : Bytes)
  | probeFlushing
  | closeWriting (remaining : Bytes)
  | closeFlushing (firstError : Option IoError)
  | closeShuttingDown (firstError : Option IoError)
  deriving DecidableEq, Repr

/-- A tunnel and the call that borrows it. -/
structure Endpoint where
  tunnel : TcpTunnel
  call : Option DirectCall
  deriving DecidableEq, Repr

def Endpoint.fresh : Endpoint where
  tunnel := .fromStream []
  call := none

/-- `AsyncWriteExt::write_all` on the stream below: the wire, the bytes left
and how it ended. -/
def streamWriteAll :
    Bytes → Bytes → List WritePoll → Bytes × Bytes × WriteLoopEnd
  | stream, [], _ => (stream, [], .written)
  | stream, head :: tail, [] => (stream, head :: tail, .pending)
  | stream, head :: tail, .pending :: _ => (stream, head :: tail, .pending)
  | stream, head :: tail, .failed code :: _ =>
      (stream, head :: tail, .failed (.underlay code))
  | stream, head :: tail, .ready 0 :: _ =>
      (stream, head :: tail, .failed (.writeZero ""))
  | stream, head :: tail, .ready (count + 1) :: later =>
      streamWriteAll (stream ++ (head :: tail).take (count + 1))
        (tail.drop count) later

/-- What can happen at an endpoint: a poll of one of the poll functions, the
start of a direct call, or progress of the call under way. -/
inductive EndpointStep where
  | pollWrite (buf : Bytes) (answers : List WritePoll)
  | pollFlush (flush : UnitPoll)
  | pollShutdown (answers : List WritePoll) (shutdown : UnitPoll)
  | sendProbe
  | close
  | resumeWrite (answers : List WritePoll)
  | resumeUnit (answer : UnitPoll)

/-- `send_probe` up to its first await: on a closed tunnel it returns. -/
def Endpoint.startProbe (endpoint : Endpoint) : Endpoint :=
  if endpoint.tunnel.closed then
    endpoint
  else
    { endpoint with call := some (.probeWriting encodeTcpProbe) }

/-- `close` up to its first await: on a closed tunnel it returns. -/
def Endpoint.startClose (endpoint : Endpoint) : Endpoint :=
  if endpoint.tunnel.closed then
    endpoint
  else
    { tunnel := { endpoint.tunnel with closed := true }
      call := some (.closeWriting encodeTcpClose) }

/-- A poll of the call under way while it writes its frame. -/
def Endpoint.resumeWrite (endpoint : Endpoint) (answers : List WritePoll) :
    Option Endpoint :=
  match endpoint.call with
  | some (.probeWriting remaining) =>
      let (stream, left, ending) :=
        streamWriteAll endpoint.tunnel.stream remaining answers
      some
        { tunnel := { endpoint.tunnel with stream := stream }
          call :=
            match ending with
            | .pending => some (.probeWriting left)
            | .failed _ => none
            | .written => some .probeFlushing }
  | some (.closeWriting remaining) =>
      let (stream, left, ending) :=
        streamWriteAll endpoint.tunnel.stream remaining answers
      some
        { tunnel := { endpoint.tunnel with stream := stream }
          call :=
            match ending with
            | .pending => some (.closeWriting left)
            | .failed error => some (.closeFlushing (some error))
            | .written => some (.closeFlushing none) }
  | _ => none

/-- `get_or_insert` of the first error. -/
def firstError (known : Option IoError) : Except IoError Unit → Option IoError
  | .ok () => known
  | .error error => known.or (some error)

/-- A poll of the call under way while it flushes or shuts down. -/
def Endpoint.resumeUnit (endpoint : Endpoint) (answer : UnitPoll) :
    Option Endpoint :=
  match endpoint.call, answer with
  | some .probeFlushing, .pending => some endpoint
  | some .probeFlushing, .ready _ => some { endpoint with call := none }
  | some (.closeFlushing _), .pending => some endpoint
  | some (.closeFlushing known), .ready result =>
      some
        { endpoint with
          call := some (.closeShuttingDown (firstError known result)) }
  | some (.closeShuttingDown _), .pending => some endpoint
  | some (.closeShuttingDown _), .ready _ => some { endpoint with call := none }
  | _, _ => none

/-- One step of an endpoint.  A call under way excludes all others. -/
def Endpoint.next (endpoint : Endpoint) : EndpointStep → Option Endpoint
  | .pollWrite buf answers =>
      if endpoint.call = none then
        some { endpoint with tunnel := (pollWrite endpoint.tunnel buf answers).1 }
      else
        none
  | .pollFlush flush =>
      if endpoint.call = none then
        some { endpoint with tunnel := (pollFlush endpoint.tunnel flush).1 }
      else
        none
  | .pollShutdown answers shutdown =>
      if endpoint.call = none then
        some
          { endpoint with
            tunnel := (pollShutdown endpoint.tunnel answers shutdown).1 }
      else
        none
  | .sendProbe => if endpoint.call = none then some endpoint.startProbe else none
  | .close => if endpoint.call = none then some endpoint.startClose else none
  | .resumeWrite answers => endpoint.resumeWrite answers
  | .resumeUnit answer => endpoint.resumeUnit answer

/-! ## Frames on the wire -/

/-- A complete frame: data, probe or close. -/
def IsFrame (frame : Bytes) : Prop :=
  frame = encodeTcpProbe ∨ frame = encodeTcpClose ∨
    ∃ payload : Bytes,
      1 ≤ payload.length ∧ payload.length ≤ 65535 ∧ frame = dataFrame payload

/-- The bytes start a concatenation of complete frames. -/
def Framed (wire : Bytes) : Prop :=
  ∃ frames : List Bytes,
    (∀ frame ∈ frames, IsFrame frame) ∧ wire <+: frames.flatten

theorem isFrame_dataFrame_chunkOf {buf : Bytes} (nonempty : buf ≠ []) :
    IsFrame (dataFrame (chunkOf buf)) :=
  .inr (.inr ⟨chunkOf buf, length_chunkOf_pos nonempty,
    (length_chunkOf_le buf).1, rfl⟩)

theorem IsFrame.length_pos {frame : Bytes} (isFrame : IsFrame frame) :
    0 < frame.length := by
  rcases isFrame with rfl | rfl | ⟨payload, -, -, rfl⟩
  · decide
  · decide
  · rw [length_dataFrame]
    omega

theorem isFrame_append {frames : List Bytes} {frame : Bytes}
    (complete : ∀ frame ∈ frames, IsFrame frame) (isFrame : IsFrame frame) :
    ∀ other ∈ frames ++ [frame], IsFrame other := by
  intro other member
  rcases List.mem_append.mp member with earlier | last
  · exact complete other earlier
  · rw [List.mem_singleton.mp last]
    exact isFrame

/-- The wire of a tunnel is complete frames and the written part of the
pending one. -/
structure Framing (frames : List Bytes) (tunnel : TcpTunnel) : Prop where
  complete : ∀ frame ∈ frames, IsFrame frame
  pending :
    tunnel.writePending = [] ∨
      (IsFrame tunnel.writePending ∧
        tunnel.writeOffset < tunnel.writePending.length)
  wire :
    tunnel.stream =
      frames.flatten ++ tunnel.writePending.take tunnel.writeOffset

/-- The write loop without errors keeps to the pending frame, and where it has
written it the wire is complete frames. -/
theorem Framing.writeLoop {frames : List Bytes} {tunnel after : TcpTunnel}
    {answers : List WritePoll} {ending : WriteLoopEnd}
    (framing : Framing frames tunnel)
    (clean : ∀ answer ∈ answers, answer.Clean)
    (returned : writeLoop tunnel answers = (after, ending)) :
    (ending = .pending ∧ Framing frames after) ∨
      (ending = .written ∧ ∃ frames' : List Bytes,
        (∀ frame ∈ frames', IsFrame frame) ∧
          after.stream = frames'.flatten) := by
  obtain ⟨count, bound, rfl, outcome, -⟩ := writeLoop_cases clean returned
  have length := length_unwritten tunnel
  have advanced :
      (tunnel.advance count).stream =
        frames.flatten ++
          tunnel.writePending.take (tunnel.writeOffset + count) := by
    simp only [TcpTunnel.advance, TcpTunnel.unwritten]
    rw [framing.wire, List.append_assoc, ← List.take_add]
  rcases outcome with ⟨rfl, all⟩ | ⟨rfl, part⟩
  · right
    refine ⟨rfl, ?_⟩
    rcases framing.pending with none | ⟨isFrame, within⟩
    · refine ⟨frames, framing.complete, ?_⟩
      rw [advanced, none, List.take_nil, List.append_nil]
    · refine ⟨frames ++ [tunnel.writePending],
        isFrame_append framing.complete isFrame, ?_⟩
      rw [advanced, List.take_of_length_le (by omega)]
      simp
  · left
    refine ⟨rfl, framing.complete, ?_, advanced⟩
    rcases framing.pending with none | ⟨isFrame, within⟩
    · exact .inl none
    · right
      refine ⟨isFrame, ?_⟩
      simp only [TcpTunnel.advance]
      omega

/-- Between frames, with nothing pending. -/
theorem framing_of_idle {frames : List Bytes} {tunnel : TcpTunnel}
    (complete : ∀ frame ∈ frames, IsFrame frame)
    (idle : tunnel.writePending = []) (wire : tunnel.stream = frames.flatten) :
    Framing frames tunnel where
  complete := complete
  pending := .inl idle
  wire := by rw [idle, List.take_nil, List.append_nil, wire]

theorem Framing.pollWrite {frames : List Bytes} {tunnel : TcpTunnel}
    (framing : Framing frames tunnel) (buf : Bytes) {answers : List WritePoll}
    (clean : ∀ answer ∈ answers, answer.Clean) :
    ∃ frames', Framing frames' (pollWrite tunnel buf answers).1 := by
  unfold Tcp.pollWrite
  by_cases closed : tunnel.closed
  · simp only [closed, if_true]
    exact ⟨frames, framing⟩
  by_cases empty : buf = []
  · simp only [closed, empty, if_false, if_true, Bool.false_eq_true]
    exact ⟨frames, framing⟩
  have armed :
      ∃ armed, tunnel.armWrite buf = .ok armed ∧ Framing frames armed := by
    by_cases idle : tunnel.writePending = []
    · refine ⟨_, armWrite_empty buf idle, framing.complete, ?_, ?_⟩
      · exact .inr ⟨isFrame_dataFrame_chunkOf empty,
          (isFrame_dataFrame_chunkOf empty).length_pos⟩
      · simpa [idle] using framing.wire
    · exact ⟨tunnel, by rw [TcpTunnel.armWrite, if_neg idle], framing⟩
  obtain ⟨armed, arming, armedFraming⟩ := armed
  rcases looped : Tcp.writeLoop armed answers with ⟨after, ending⟩
  simp only [closed, empty, if_false, Bool.false_eq_true, arming, looped]
  rcases armedFraming.writeLoop clean looped with
    ⟨rfl, stillFraming⟩ | ⟨rfl, frames', complete, wire⟩
  · exact ⟨frames, stillFraming⟩
  · exact ⟨frames', framing_of_idle complete rfl wire⟩

theorem Framing.pollShutdown {frames : List Bytes} {tunnel : TcpTunnel}
    (framing : Framing frames tunnel) {answers : List WritePoll}
    (clean : ∀ answer ∈ answers, answer.Clean) (shutdown : UnitPoll) :
    ∃ frames', Framing frames' (pollShutdown tunnel answers shutdown).1 := by
  have armed :
      Framing frames
        (if tunnel.closed = false ∧ tunnel.writePending = [] then
          { tunnel with writePending := encodeTcpClose, writeOffset := 0 }
        else
          tunnel) := by
    split
    · next idle =>
        have isFrame : IsFrame encodeTcpClose := .inr (.inl rfl)
        refine ⟨framing.complete, .inr ⟨isFrame, isFrame.length_pos⟩, ?_⟩
        simpa [idle.2] using framing.wire
    · exact framing
  unfold Tcp.pollShutdown
  simp only
  rcases looped : Tcp.writeLoop
      (if tunnel.closed = false ∧ tunnel.writePending = [] then
        { tunnel with writePending := encodeTcpClose, writeOffset := 0 }
      else
        tunnel) answers with ⟨after, ending⟩
  rcases armed.writeLoop clean looped with
    ⟨rfl, stillFraming⟩ | ⟨rfl, frames', complete, wire⟩
  · exact ⟨frames, stillFraming⟩
  · exact ⟨frames', framing_of_idle complete rfl wire⟩

/-! ## Direct calls -/

theorem streamWriteAll_cases {stream buf stream' left : Bytes}
    {answers : List WritePoll} {ending : WriteLoopEnd}
    (clean : ∀ answer ∈ answers, answer.Clean)
    (returned : streamWriteAll stream buf answers = (stream', left, ending)) :
    ∃ written, buf = written ++ left ∧ stream' = stream ++ written ∧
      ((ending = .written ∧ left = []) ∨ ending = .pending) := by
  fun_induction streamWriteAll stream buf answers with
  | case1 stream answers =>
      simp only [Prod.mk.injEq] at returned
      obtain ⟨rfl, rfl, rfl⟩ := returned
      exact ⟨[], rfl, by simp, .inl ⟨rfl, rfl⟩⟩
  | case2 stream head tail =>
      simp only [Prod.mk.injEq] at returned
      obtain ⟨rfl, rfl, rfl⟩ := returned
      exact ⟨[], rfl, by simp, .inr rfl⟩
  | case3 stream head tail later =>
      simp only [Prod.mk.injEq] at returned
      obtain ⟨rfl, rfl, rfl⟩ := returned
      exact ⟨[], rfl, by simp, .inr rfl⟩
  | case4 stream head tail code later =>
      exact (clean _ List.mem_cons_self).elim
  | case5 stream head tail later =>
      exact absurd (clean _ List.mem_cons_self) (Nat.lt_irrefl 0)
  | case6 stream head tail count later inductionHypothesis =>
      obtain ⟨written, split, wire, outcome⟩ :=
        inductionHypothesis
          (fun answer member => clean answer (List.mem_cons_of_mem _ member))
          returned
      refine ⟨(head :: tail).take (count + 1) ++ written, ?_, ?_, outcome⟩
      · rw [List.append_assoc, ← split, List.take_succ_cons, List.cons_append,
          List.take_append_drop]
      · rw [wire, List.append_assoc]

/-- No byte of a pending frame is on the wire. -/
def TcpTunnel.Unstarted (tunnel : TcpTunnel) : Prop :=
  tunnel.writePending = [] ∨ tunnel.writeOffset = 0

/-- A direct call has put the start of its frame behind complete frames, and
the pending frame of the tunnel is not started. -/
structure Interposed (frames : List Bytes) (frame remaining : Bytes)
    (tunnel : TcpTunnel) : Prop where
  complete : ∀ frame ∈ frames, IsFrame frame
  isFrame : IsFrame frame
  unstarted : tunnel.Unstarted
  pending :
    tunnel.writePending = [] ∨
      (IsFrame tunnel.writePending ∧
        tunnel.writeOffset < tunnel.writePending.length)
  wire :
    ∃ written,
      frame = written ++ remaining ∧ tunnel.stream = frames.flatten ++ written

theorem TcpTunnel.Unstarted.take_eq_nil {tunnel : TcpTunnel}
    (unstarted : tunnel.Unstarted) :
    tunnel.writePending.take tunnel.writeOffset = [] := by
  rcases unstarted with none | zero
  · rw [none, List.take_nil]
  · rw [zero, List.take_zero]

theorem Framing.interpose {frames : List Bytes} {tunnel : TcpTunnel}
    {frame : Bytes} (framing : Framing frames tunnel)
    (unstarted : tunnel.Unstarted) (isFrame : IsFrame frame) :
    Interposed frames frame frame tunnel where
  complete := framing.complete
  isFrame := isFrame
  unstarted := unstarted
  pending := framing.pending
  wire := ⟨[], rfl, by rw [framing.wire, unstarted.take_eq_nil]⟩

/-- A poll of a direct call without errors goes on with its frame or completes
it. -/
theorem Interposed.streamWriteAll {frames : List Bytes}
    {frame remaining stream left : Bytes} {tunnel : TcpTunnel}
    {answers : List WritePoll} {ending : WriteLoopEnd}
    (interposed : Interposed frames frame remaining tunnel)
    (clean : ∀ answer ∈ answers, answer.Clean)
    (returned :
      streamWriteAll tunnel.stream remaining answers =
        (stream, left, ending)) :
    (ending = .pending ∧
        Interposed frames frame left { tunnel with stream := stream }) ∨
      (ending = .written ∧
        Framing (frames ++ [frame]) { tunnel with stream := stream }) := by
  obtain ⟨more, split, wire, outcome⟩ := streamWriteAll_cases clean returned
  obtain ⟨before, whole, sofar⟩ := interposed.wire
  rcases outcome with ⟨rfl, rfl⟩ | rfl
  · right
    refine ⟨rfl, isFrame_append interposed.complete interposed.isFrame,
      interposed.pending, ?_⟩
    rw [interposed.unstarted.take_eq_nil, wire, sofar, whole, split]
    simp
  · left
    refine ⟨rfl, interposed.complete, interposed.isFrame,
      interposed.unstarted, interposed.pending, before ++ more, ?_, ?_⟩
    · rw [whole, split, List.append_assoc]
    · rw [wire, sofar, List.append_assoc]

/-- The frame a call is writing, with the bytes not accepted yet. -/
def DirectCall.frame : DirectCall → Option (Bytes × Bytes)
  | .probeWriting remaining => some (encodeTcpProbe, remaining)
  | .closeWriting remaining => some (encodeTcpClose, remaining)
  | _ => none

/-- The wire of an endpoint is complete frames and the start of at most one
more. -/
def Aligned (endpoint : Endpoint) : Prop :=
  ∃ frames : List Bytes,
    match endpoint.call.bind DirectCall.frame with
    | none => Framing frames endpoint.tunnel
    | some (frame, remaining) =>
        Interposed frames frame remaining endpoint.tunnel

theorem Aligned.framed {endpoint : Endpoint} (aligned : Aligned endpoint) :
    Framed endpoint.tunnel.stream := by
  obtain ⟨frames, aligned⟩ := aligned
  cases under : endpoint.call.bind DirectCall.frame with
  | none =>
      rw [under] at aligned
      rcases aligned.pending with none | ⟨isFrame, -⟩
      · refine ⟨frames, aligned.complete, [], ?_⟩
        rw [aligned.wire, none, List.take_nil, List.append_nil,
          List.append_nil]
      · refine ⟨frames ++ [endpoint.tunnel.writePending],
          isFrame_append aligned.complete isFrame, ?_⟩
        rw [aligned.wire, List.flatten_append, List.flatten_singleton]
        exact (List.prefix_append_right_inj _).mpr (List.take_prefix _ _)
  | some call =>
      obtain ⟨frame, remaining⟩ := call
      rw [under] at aligned
      obtain ⟨written, whole, wire⟩ := aligned.wire
      refine ⟨frames ++ [frame],
        isFrame_append aligned.complete aligned.isFrame, ?_⟩
      rw [wire, whole, List.flatten_append, List.flatten_singleton]
      exact (List.prefix_append_right_inj _).mpr (List.prefix_append _ _)

/-! ## Runs -/

/-- The stream below reports no error during the step. -/
def EndpointStep.Clean : EndpointStep → Prop
  | .pollWrite _ answers => ∀ answer ∈ answers, answer.Clean
  | .pollFlush flush => ∀ error, flush ≠ .ready (.error error)
  | .pollShutdown answers shutdown =>
      (∀ answer ∈ answers, answer.Clean) ∧
        ∀ error, shutdown ≠ .ready (.error error)
  | .sendProbe => True
  | .close => True
  | .resumeWrite answers => ∀ answer ∈ answers, answer.Clean
  | .resumeUnit answer => ∀ error, answer ≠ .ready (.error error)

/-- A direct call on an open tunnel starts only while no byte of a pending
frame is on the wire. -/
def StartsBetweenFrames (endpoint : Endpoint) : EndpointStep → Prop
  | .sendProbe => endpoint.tunnel.closed = false → endpoint.tunnel.Unstarted
  | .close => endpoint.tunnel.closed = false → endpoint.tunnel.Unstarted
  | _ => True

theorem Aligned.framing {endpoint : Endpoint} (aligned : Aligned endpoint)
    (free : endpoint.call = none) :
    ∃ frames, Framing frames endpoint.tunnel := by
  obtain ⟨frames, aligned⟩ := aligned
  rw [free] at aligned
  exact ⟨frames, aligned⟩

theorem Aligned.of_framing {tunnel : TcpTunnel} {call : Option DirectCall}
    {frames : List Bytes} (silent : call.bind DirectCall.frame = none)
    (framing : Framing frames tunnel) : Aligned ⟨tunnel, call⟩ := by
  refine ⟨frames, ?_⟩
  rw [silent]
  exact framing

theorem Aligned.startProbe {endpoint : Endpoint} (aligned : Aligned endpoint)
    (free : endpoint.call = none)
    (between :
      endpoint.tunnel.closed = false → endpoint.tunnel.Unstarted) :
    Aligned endpoint.startProbe := by
  unfold Endpoint.startProbe
  by_cases closed : endpoint.tunnel.closed
  · rw [if_pos closed]
    exact aligned
  · rw [if_neg closed]
    obtain ⟨frames, framing⟩ := aligned.framing free
    exact ⟨frames, framing.interpose (between (by simpa using closed)) (.inl rfl)⟩

theorem Aligned.startClose {endpoint : Endpoint} (aligned : Aligned endpoint)
    (free : endpoint.call = none)
    (between :
      endpoint.tunnel.closed = false → endpoint.tunnel.Unstarted) :
    Aligned endpoint.startClose := by
  unfold Endpoint.startClose
  by_cases closed : endpoint.tunnel.closed
  · rw [if_pos closed]
    exact aligned
  · rw [if_neg closed]
    obtain ⟨frames, framing⟩ := aligned.framing free
    have marked : Framing frames { endpoint.tunnel with closed := true } :=
      ⟨framing.complete, framing.pending, framing.wire⟩
    exact ⟨frames, marked.interpose (between (by simpa using closed))
      (.inr (.inl rfl))⟩

/-- Progress of a direct call that is writing its frame. -/
theorem Aligned.resumeWrite {endpoint after : Endpoint}
    (aligned : Aligned endpoint) {answers : List WritePoll}
    (clean : ∀ answer ∈ answers, answer.Clean)
    (stepped : endpoint.resumeWrite answers = some after) : Aligned after := by
  obtain ⟨tunnel, call⟩ := endpoint
  obtain ⟨frames, aligned⟩ := aligned
  match call with
  | none => simp [Endpoint.resumeWrite] at stepped
  | some .probeFlushing => simp [Endpoint.resumeWrite] at stepped
  | some (.closeFlushing _) => simp [Endpoint.resumeWrite] at stepped
  | some (.closeShuttingDown _) => simp [Endpoint.resumeWrite] at stepped
  | some (.probeWriting remaining) =>
      have interposed :
          Interposed frames encodeTcpProbe remaining tunnel := aligned
      rcases wrote : Tcp.streamWriteAll tunnel.stream remaining answers with
        ⟨stream, left, ending⟩
      simp only [Endpoint.resumeWrite, wrote, Option.some.injEq] at stepped
      subst stepped
      rcases interposed.streamWriteAll clean wrote with
        ⟨rfl, goesOn⟩ | ⟨rfl, framing⟩
      · exact ⟨frames, goesOn⟩
      · exact ⟨frames ++ [encodeTcpProbe], framing⟩
  | some (.closeWriting remaining) =>
      have interposed :
          Interposed frames encodeTcpClose remaining tunnel := aligned
      rcases wrote : Tcp.streamWriteAll tunnel.stream remaining answers with
        ⟨stream, left, ending⟩
      simp only [Endpoint.resumeWrite, wrote, Option.some.injEq] at stepped
      subst stepped
      rcases interposed.streamWriteAll clean wrote with
        ⟨rfl, goesOn⟩ | ⟨rfl, framing⟩
      · exact ⟨frames, goesOn⟩
      · exact ⟨frames ++ [encodeTcpClose], framing⟩

/-- Flushing and shutting down transfer no bytes. -/
theorem Aligned.resumeUnit {endpoint after : Endpoint}
    (aligned : Aligned endpoint) {answer : UnitPoll}
    (stepped : endpoint.resumeUnit answer = some after) : Aligned after := by
  obtain ⟨tunnel, call⟩ := endpoint
  obtain ⟨frames, aligned⟩ := aligned
  match call, answer with
  | some .probeFlushing, .pending =>
      cases stepped
      exact ⟨frames, aligned⟩
  | some .probeFlushing, .ready _ =>
      cases stepped
      exact ⟨frames, aligned⟩
  | some (.closeFlushing _), .pending =>
      cases stepped
      exact ⟨frames, aligned⟩
  | some (.closeFlushing _), .ready _ =>
      cases stepped
      exact ⟨frames, aligned⟩
  | some (.closeShuttingDown _), .pending =>
      cases stepped
      exact ⟨frames, aligned⟩
  | some (.closeShuttingDown _), .ready _ =>
      cases stepped
      exact ⟨frames, aligned⟩
  | none, _ => simp [Endpoint.resumeUnit] at stepped
  | some (.probeWriting _), _ => simp [Endpoint.resumeUnit] at stepped
  | some (.closeWriting _), _ => simp [Endpoint.resumeUnit] at stepped

/-- Every step without errors keeps to frame boundaries, provided direct calls
start between frames. -/
theorem aligned_next {endpoint after : Endpoint} {step : EndpointStep}
    (aligned : Aligned endpoint) (clean : step.Clean)
    (between : StartsBetweenFrames endpoint step)
    (stepped : endpoint.next step = some after) : Aligned after := by
  cases step with
  | pollWrite buf answers =>
      simp only [Endpoint.next, Option.ite_none_right_eq_some,
        Option.some.injEq] at stepped
      obtain ⟨free, rfl⟩ := stepped
      obtain ⟨frames, framing⟩ := aligned.framing free
      obtain ⟨frames', framing'⟩ := framing.pollWrite buf clean
      exact .of_framing (by rw [free]; rfl) framing'
  | pollFlush flush =>
      simp only [Endpoint.next, Option.ite_none_right_eq_some,
        Option.some.injEq] at stepped
      obtain ⟨-, rfl⟩ := stepped
      exact aligned
  | pollShutdown answers shutdown =>
      simp only [Endpoint.next, Option.ite_none_right_eq_some,
        Option.some.injEq] at stepped
      obtain ⟨free, rfl⟩ := stepped
      obtain ⟨frames, framing⟩ := aligned.framing free
      obtain ⟨frames', framing'⟩ := framing.pollShutdown clean.1 shutdown
      exact .of_framing (by rw [free]; rfl) framing'
  | sendProbe =>
      simp only [Endpoint.next, Option.ite_none_right_eq_some,
        Option.some.injEq] at stepped
      obtain ⟨free, rfl⟩ := stepped
      exact aligned.startProbe free between
  | close =>
      simp only [Endpoint.next, Option.ite_none_right_eq_some,
        Option.some.injEq] at stepped
      obtain ⟨free, rfl⟩ := stepped
      exact aligned.startClose free between
  | resumeWrite answers => exact aligned.resumeWrite clean stepped
  | resumeUnit answer => exact aligned.resumeUnit stepped

theorem aligned_fresh : Aligned .fresh :=
  ⟨[], by simp, .inl rfl, rfl⟩

/-- In every run without errors in which probes and closes start between
frames, the wire is always the start of a concatenation of complete frames. -/
theorem endpoint_wire_framed {steps : List EndpointStep} {final : Endpoint}
    (meets :
      Meets Endpoint.next
        (fun endpoint step =>
          step.Clean ∧ StartsBetweenFrames endpoint step)
        .fresh steps)
    (ran : run Endpoint.next .fresh steps = some final) :
    Framed final.tunnel.stream := by
  apply Aligned.framed
  refine invariant_of_meets Aligned aligned_fresh ?_ meets ran
  intro endpoint step after aligned condition stepped
  exact aligned_next aligned condition.1 condition.2 stepped

theorem endpoint_wire_framed_sample :
    Framed
      [0x01, 0x00, 0x00, 0x01, 0x78, 0x01, 0x00, 0x00, 0x00, 0x01, 0x01] := by
  have met :
      Meets Endpoint.next
        (fun endpoint step =>
          step.Clean ∧ StartsBetweenFrames endpoint step)
        .fresh
        [.pollWrite [0x78] [.ready 2, .pending], .pollWrite [0x78] [.ready 9],
          .sendProbe, .resumeWrite [.ready 4], .resumeUnit (.ready (.ok ())),
          .close, .resumeWrite [.ready 2]] := by
    refine meets_cons ⟨?_, trivial⟩ rfl ?_
    · simp [EndpointStep.Clean, WritePoll.Clean]
    refine meets_cons ⟨?_, trivial⟩ rfl ?_
    · simp [EndpointStep.Clean, WritePoll.Clean]
    refine meets_cons ⟨trivial, fun _ => .inl rfl⟩ rfl ?_
    refine meets_cons ⟨?_, trivial⟩ rfl ?_
    · simp [EndpointStep.Clean, WritePoll.Clean]
    refine meets_cons ⟨?_, trivial⟩ rfl ?_
    · simp [EndpointStep.Clean]
    refine meets_cons ⟨trivial, fun _ => .inl rfl⟩ rfl ?_
    refine meets_cons ⟨?_, trivial⟩ rfl trivial
    simp [EndpointStep.Clean, WritePoll.Clean]
  exact endpoint_wire_framed met rfl

/-- Every frame starts with the octet `01`. -/
theorem IsFrame.head {frame : Bytes} (isFrame : IsFrame frame) :
    ∃ rest, frame = 0x01 :: rest := by
  rcases isFrame with rfl | rfl | ⟨payload, -, -, rfl⟩
  · exact ⟨_, rfl⟩
  · exact ⟨_, rfl⟩
  · exact ⟨_, rfl⟩

/-- A data frame of one byte with a probe in place of its payload. -/
theorem not_framed_torn :
    ¬ Framed [0x01, 0x00, 0x00, 0x01, 0x01, 0x00, 0x00, 0x00] := by
  intro framed
  obtain ⟨frames, complete, prefixed⟩ := framed
  cases frames with
  | nil => simp at prefixed
  | cons frame later =>
      rcases complete frame List.mem_cons_self with
        rfl | rfl | ⟨payload, -, fits, rfl⟩
      · simp [encodeTcpProbe, List.cons_prefix_cons] at prefixed
      · simp [encodeTcpClose, List.cons_prefix_cons] at prefixed
      · have value :
            beU16 (UInt8.ofNat (payload.length / 256))
                (UInt8.ofNat payload.length) = payload.length :=
          beU16_toBeU16 (by omega)
        simp only [dataFrame, toBeU16, List.flatten_cons, List.cons_append,
          List.nil_append, List.cons_prefix_cons, true_and] at prefixed
        obtain ⟨high, low, prefixed⟩ := prefixed
        rw [← high, ← low] at value
        have one : payload.length = 1 := by
          rw [← value]
          decide
        obtain ⟨octet, rfl⟩ := List.length_eq_one_iff.mp one
        simp only [List.singleton_append, List.cons_prefix_cons] at prefixed
        obtain ⟨-, prefixed⟩ := prefixed
        cases later with
        | nil => simp at prefixed
        | cons second rest =>
            obtain ⟨tail, rfl⟩ :=
              (complete second (by simp)).head
            simp [List.cons_prefix_cons] at prefixed

theorem endpoint_wire_torn :
    ∃ (steps : List EndpointStep) (final : Endpoint),
      (∀ step ∈ steps, step.Clean) ∧
        run Endpoint.next .fresh steps = some final ∧
        ¬ Framed final.tunnel.stream := by
  refine ⟨[.pollWrite [0x78] [.ready 4, .pending], .sendProbe,
      .resumeWrite [.ready 4]], _, ?_, rfl, not_framed_torn⟩
  simp [EndpointStep.Clean, WritePoll.Clean]

end HermesAtrust.Tcp
