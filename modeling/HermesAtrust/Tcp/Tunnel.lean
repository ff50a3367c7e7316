import HermesAtrust.Protocol.TcpFrame

/-!
# The TCP tunnel

Model of `stream.rs`.  A tunnel owns the stream below it, the bytes received
and not decoded, the application bytes decoded and not delivered, and the
frame that is being written together with the number of its bytes already on
the wire.

The stream below is the environment.  Its write side is the byte string it has
accepted, and its answers to single polls are arguments: a list of answers
that is used up stands for a stream that is not ready.  An `await` passes over
`Poll::Pending`, so the asynchronous readers take the answers of reads only.
-/

namespace HermesAtrust.Tcp

open HermesAtrust.Framing HermesAtrust.Protocol

/-- `std::io::Error` as it occurs here: from the stream below, or made by the
tunnel. -/
inductive IoError where
  | underlay (code : Nat)
  | brokenPipe (text : String)
  | writeZero (text : String)
  | invalidInput (error : TcpFrameError)
  deriving DecidableEq, Repr

inductive TunnelError where
  | closed
  | frame (error : TcpFrameError)
  | io (error : IoError)
  | unexpectedFrame (first second : UInt8)
  | protocolError (body : String)
  deriving DecidableEq, Repr

structure TcpTunnel where
  stream : Bytes
  readBuf : Bytes
  appPending : Bytes
  writePending : Bytes
  writeOffset : Nat
  closed : Bool
  deriving DecidableEq, Repr

/-- `from_stream`. -/
def TcpTunnel.fromStream (stream : Bytes) : TcpTunnel where
  stream := stream
  readBuf := []
  appPending := []
  writePending := []
  writeOffset := 0
  closed := false

/-! ## Decoding -/

/-- `SERVER_CLOSE_TRAILER`. -/
def serverCloseTrailer : Bytes :=
  [0x30, 0x30]

/-- `MAX_SKIPPED_CHATTER_BYTES`. -/
def maxSkippedChatterBytes : Nat := 1024

inductive Decode where
  | app (payload : Bytes)
  | closed
  | needMore
  deriving DecidableEq, Repr

section Decoding

variable (fromSlice : Bytes → Option StatusBody)

/-- The loop of `try_decode_app`: its result and the buffer it leaves. -/
def tryDecodeAppLoop (skipped : Nat) (readBuf : Bytes) :
    Except TunnelError Decode × Bytes :=
  if readBuf.length - skipped < 2 then
    (.ok .needMore, readBuf)
  else
    let h0 := byteAt readBuf skipped
    let h1 := byteAt readBuf (skipped + 1)
    let len := beU16 (byteAt readBuf (skipped + 2)) (byteAt readBuf (skipped + 3))
    if h0 = 0x01 ∧ h1 = 0x00 then
      if readBuf.length < skipped + 4 then
        (.ok .needMore, readBuf)
      else if readBuf.length < skipped + 4 + len then
        (.ok .needMore, readBuf)
      else
        (.ok (.app ((readBuf.drop (skipped + 4)).take len)),
          readBuf.drop (skipped + 4 + len))
    else if h0 = 0x01 ∧ h1 = 0x01 then
      if readBuf.length < skipped + 4 then
        (.ok .needMore, readBuf)
      else if
          [byteAt readBuf (skipped + 2), byteAt readBuf (skipped + 3)] =
            serverCloseTrailer then
        (.ok .closed, readBuf.drop (skipped + 4))
      else
        tryDecodeAppLoop 0 (readBuf.drop (skipped + 4))
    else if h0 = 0x05 ∧ h1 = 0x81 then
      tryDecodeAppLoop 0 (readBuf.drop (skipped + 2))
    else if h0 = 0x53 ∧ h1 = 0x00 then
      if readBuf.length < skipped + 4 then
        (.ok .needMore, readBuf)
      else if readBuf.length < skipped + 4 + len then
        (.ok .needMore, readBuf)
      else
        let body := (readBuf.drop (skipped + 4)).take len
        if isStatusOk fromSlice body then
          tryDecodeAppLoop 0 (readBuf.drop (skipped + 4 + len))
        else
          (.error (.protocolError (fromUtf8Lossy body)),
            readBuf.drop (skipped + 4 + len))
    else if maxSkippedChatterBytes < skipped + 2 then
      (.error (.unexpectedFrame h0 h1), readBuf)
    else
      tryDecodeAppLoop (skipped + 2) readBuf
termination_by readBuf.length - skipped
decreasing_by
  · simp only [List.length_drop]
    omega
  · simp only [List.length_drop]
    omega
  · simp only [List.length_drop]
    omega
  · omega

/-- `try_decode_app`. -/
def tryDecodeApp (readBuf : Bytes) : Except TunnelError Decode × Bytes :=
  tryDecodeAppLoop fromSlice 0 readBuf

/-- A decoded payload has left the buffer with its header. -/
theorem tryDecodeAppLoop_app_length {skipped : Nat} {readBuf rest payload : Bytes}
    (decoded :
      tryDecodeAppLoop fromSlice skipped readBuf = (.ok (.app payload), rest)) :
    rest.length < readBuf.length := by
  fun_induction tryDecodeAppLoop fromSlice skipped readBuf <;>
    simp_all only [Prod.mk.injEq, Except.ok.injEq, reduceCtorEq, false_and,
      List.length_drop, true_implies, Decode.app.injEq] <;>
    grind

/-- The decoding part of the loops of `read_app` and `poll_read`: a payload
of length zero is a probe and decoding goes on. -/
def nextApp (readBuf : Bytes) : Except TunnelError Decode × Bytes :=
  match _decoded : tryDecodeApp fromSlice readBuf with
  | (.ok (.app []), rest) => nextApp rest
  | other => other
termination_by readBuf.length
decreasing_by exact tryDecodeAppLoop_app_length fromSlice (by assumption)

/-! ## Reading -/

/-- What the stream below answers to a read; no bytes are the end of it. -/
inductive ReadAnswer where
  | received (chunk : Bytes)
  | failed (code : Nat)
  deriving DecidableEq, Repr

inductive ReadPoll where
  | pending
  | ready (answer : ReadAnswer)
  deriving DecidableEq, Repr

/-- State of a `read_app` call: still waiting for the stream, or returned. -/
inductive ReadAppResult where
  | waiting
  | returned (result : Except TunnelError (Option Bytes))
  deriving DecidableEq

/-- The loop of `read_app`, with the reads it does not use. -/
def readAppLoop :
    TcpTunnel → List ReadAnswer →
      TcpTunnel × ReadAppResult × List ReadAnswer
  | tunnel, answers =>
      match nextApp fromSlice tunnel.readBuf with
      | (.error error, rest) =>
          ({ tunnel with readBuf := rest }, .returned (.error error), answers)
      | (.ok (.app payload), rest) =>
          ({ tunnel with readBuf := rest }, .returned (.ok (some payload)),
            answers)
      | (.ok .closed, rest) =>
          ({ tunnel with readBuf := rest, closed := true },
            .returned (.ok none), answers)
      | (.ok .needMore, rest) =>
          match answers with
          | [] => ({ tunnel with readBuf := rest }, .waiting, [])
          | .failed code :: later =>
              ({ tunnel with readBuf := rest },
                .returned (.error (.io (.underlay code))), later)
          | .received [] :: later =>
              ({ tunnel with readBuf := rest, closed := true },
                .returned (.ok none), later)
          | .received (head :: tail) :: later =>
              readAppLoop { tunnel with readBuf := rest ++ head :: tail } later

/-- `read_app`. -/
def readApp (tunnel : TcpTunnel) (answers : List ReadAnswer) :
    TcpTunnel × ReadAppResult × List ReadAnswer :=
  if tunnel.closed then
    (tunnel, .returned (.ok none), answers)
  else
    readAppLoop fromSlice tunnel answers

/-- The errors of `poll_read`: those of the stream below as they are, those of
the decoder as the source of an `InvalidData` error. -/
inductive PollReadError where
  | io (error : IoError)
  | invalidData (error : TunnelError)
  deriving DecidableEq, Repr

inductive PollReadResult where
  | pending
  | ready (result : Except PollReadError Unit)
  deriving DecidableEq

/-- Move as many undelivered bytes as the caller has room for. -/
def TcpTunnel.deliver (tunnel : TcpTunnel) (remaining : Nat) :
    TcpTunnel × Bytes :=
  let n := min remaining tunnel.appPending.length
  ({ tunnel with appPending := tunnel.appPending.drop n },
    tunnel.appPending.take n)

/-- The loop of `poll_read`: the tunnel after it, the bytes put into the
caller's buffer, the result, and the polls it does not use. -/
def pollReadLoop (remaining : Nat) :
    TcpTunnel → List ReadPoll →
      TcpTunnel × Bytes × PollReadResult × List ReadPoll
  | tunnel, polls =>
      match nextApp fromSlice tunnel.readBuf with
      | (.error error, rest) =>
          ({ tunnel with readBuf := rest }, [],
            .ready (.error (.invalidData error)), polls)
      | (.ok (.app payload), rest) =>
          let (after, filled) :=
            { tunnel with
              readBuf := rest
              appPending := tunnel.appPending ++ payload }.deliver remaining
          (after, filled, .ready (.ok ()), polls)
      | (.ok .closed, rest) =>
          ({ tunnel with readBuf := rest, closed := true }, [],
            .ready (.ok ()), polls)
      | (.ok .needMore, rest) =>
          match polls with
          | [] => ({ tunnel with readBuf := rest }, [], .pending, [])
          | .pending :: later =>
              ({ tunnel with readBuf := rest }, [], .pending, later)
          | .ready (.failed code) :: later =>
              ({ tunnel with readBuf := rest }, [],
                .ready (.error (.io (.underlay code))), later)
          | .ready (.received []) :: later =>
              ({ tunnel with readBuf := rest, closed := true }, [],
                .ready (.ok ()), later)
          | .ready (.received (head :: tail)) :: later =>
              pollReadLoop remaining
                { tunnel with readBuf := rest ++ head :: tail } later

/-- `poll_read` with a buffer that has room for `remaining` bytes. -/
def pollRead (tunnel : TcpTunnel) (remaining : Nat) (polls : List ReadPoll) :
    TcpTunnel × Bytes × PollReadResult × List ReadPoll :=
  if remaining = 0 then
    (tunnel, [], .ready (.ok ()), polls)
  else if tunnel.appPending ≠ [] then
    let (after, filled) := tunnel.deliver remaining
    (after, filled, .ready (.ok ()), polls)
  else if tunnel.closed then
    (tunnel, [], .ready (.ok ()), polls)
  else
    pollReadLoop fromSlice remaining tunnel polls

end Decoding

/-! ## Writing -/

/-- What the stream below answers to one poll of a write.  It never accepts
more bytes than it is offered. -/
inductive WritePoll where
  | pending
  | ready (count : Nat)
  | failed (code : Nat)
  deriving DecidableEq, Repr

inductive WriteLoopEnd where
  | written
  | pending
  | failed (error : IoError)
  deriving DecidableEq, Repr

/-- The stream below accepts up to `count` bytes of the pending frame. -/
def TcpTunnel.accept (tunnel : TcpTunnel) (count : Nat) : TcpTunnel :=
  let taken := (tunnel.writePending.drop tunnel.writeOffset).take count
  { tunnel with
    stream := tunnel.stream ++ taken
    writeOffset := tunnel.writeOffset + taken.length }

/-- The loop that writes the pending frame, in `poll_write` and in
`poll_shutdown`. -/
def writeLoop : TcpTunnel → List WritePoll → TcpTunnel × WriteLoopEnd
  | tunnel, [] =>
      if tunnel.writePending.length ≤ tunnel.writeOffset then
        (tunnel, .written)
      else
        (tunnel, .pending)
  | tunnel, answer :: later =>
      if tunnel.writePending.length ≤ tunnel.writeOffset then
        (tunnel, .written)
      else
        match answer with
        | .pending => (tunnel, .pending)
        | .failed code => (tunnel, .failed (.underlay code))
        | .ready 0 => (tunnel, .failed (.writeZero "write zero"))
        | .ready (count + 1) => writeLoop (tunnel.accept (count + 1)) later

inductive PollWriteResult where
  | pending
  | ready (result : Except IoError Nat)
  deriving DecidableEq

/-- Start the frame of the next chunk unless a frame is pending. -/
def TcpTunnel.armWrite (tunnel : TcpTunnel) (buf : Bytes) :
    Except TcpFrameError TcpTunnel :=
  if tunnel.writePending = [] then
    match encodeTcpAppData (buf.take (min buf.length 65535)) with
    | .error error => .error error
    | .ok frame =>
        .ok { tunnel with writePending := frame, writeOffset := 0 }
  else
    .ok tunnel

/-- `user_len`: the length field of the pending frame. -/
def TcpTunnel.userLen (tunnel : TcpTunnel) : Nat :=
  if 4 ≤ tunnel.writePending.length then
    beU16 (byteAt tunnel.writePending 2) (byteAt tunnel.writePending 3)
  else
    0

/-- `poll_write`. -/
def pollWrite (tunnel : TcpTunnel) (buf : Bytes) (answers : List WritePoll) :
    TcpTunnel × PollWriteResult :=
  if tunnel.closed then
    (tunnel, .ready (.error (.brokenPipe "tunnel closed")))
  else if buf = [] then
    (tunnel, .ready (.ok 0))
  else
    match tunnel.armWrite buf with
    | .error error => (tunnel, .ready (.error (.invalidInput error)))
    | .ok armed =>
        match writeLoop armed answers with
        | (after, .pending) => (after, .pending)
        | (after, .failed error) => (after, .ready (.error error))
        | (after, .written) =>
            ({ after with writePending := [], writeOffset := 0 },
              .ready (.ok armed.userLen))

/-- Result of a poll of the stream below that transfers no bytes. -/
inductive UnitPoll where
  | pending
  | ready (result : Except IoError Unit)
  deriving DecidableEq

/-- `poll_flush`. -/
def pollFlush (tunnel : TcpTunnel) (flush : UnitPoll) : TcpTunnel × UnitPoll :=
  (tunnel, flush)

/-- `poll_shutdown`, with the answer to the shutdown of the stream below. -/
def pollShutdown (tunnel : TcpTunnel) (answers : List WritePoll)
    (shutdown : UnitPoll) : TcpTunnel × UnitPoll :=
  let armed :=
    if tunnel.closed = false ∧ tunnel.writePending = [] then
      { tunnel with writePending := encodeTcpClose, writeOffset := 0 }
    else
      tunnel
  match writeLoop armed answers with
  | (after, .pending) => (after, .pending)
  | (after, .failed error) =>
      ({ after with writePending := [], closed := true },
        .ready (.error error))
  | (after, .written) =>
      ({ after with writePending := [], closed := true }, shutdown)

end HermesAtrust.Tcp
