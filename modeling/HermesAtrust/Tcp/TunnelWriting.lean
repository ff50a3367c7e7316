import HermesAtrust.Tcp.TunnelReading

/-!
# Writing application data

`write_all` polls `poll_write` with what is left of its buffer until nothing
is.  Each poll either completes the frame of the next chunk of the buffer or
leaves it half-written in the tunnel, and the next poll goes on with the same
chunk.  The wire therefore grows by exactly the frames of the chunks, whatever
the stream below accepts at a time.

A schedule gives, for each poll of `poll_write`, the answers of the stream
below during that poll.
-/

namespace HermesAtrust.Tcp

open HermesAtrust.Framing HermesAtrust.Protocol

/-! ## The asynchronous writers -/

inductive WriteAllResult where
  | done
  | waiting
  | failed (error : IoError)
  | panicked
  deriving DecidableEq, Repr

/-- `AsyncWriteExt::write_all` on a tunnel, with the polls it does not use.
Splitting the buffer behind its end would be a panic. -/
def writeAll :
    TcpTunnel → Bytes → List (List WritePoll) →
      TcpTunnel × WriteAllResult × List (List WritePoll)
  | tunnel, [], polls => (tunnel, .done, polls)
  | tunnel, _ :: _, [] => (tunnel, .waiting, [])
  | tunnel, head :: tail, answers :: later =>
      match pollWrite tunnel (head :: tail) answers with
      | (after, .pending) => writeAll after (head :: tail) later
      | (after, .ready (.error error)) => (after, .failed error, later)
      | (after, .ready (.ok count)) =>
          if (head :: tail).length < count then
            (after, .panicked, later)
          else if count = 0 then
            (after, .failed (.writeZero ""), later)
          else
            writeAll after ((head :: tail).drop count) later

/-- A call of a writer, with how the stream below is flushed after it. -/
inductive WriteCall where
  | writeAll (buf : Bytes)
  | writeApp (payload : Bytes) (flush : UnitPoll)

inductive WritesResult where
  | done
  | waiting
  | failed (error : TunnelError)
  | panicked
  deriving DecidableEq, Repr

def WriteAllResult.toWrites : WriteAllResult → WritesResult
  | .done => .done
  | .waiting => .waiting
  | .failed error => .failed (.io error)
  | .panicked => .panicked

/-- `write_app`. -/
def writeApp (tunnel : TcpTunnel) (payload : Bytes) (flush : UnitPoll)
    (polls : List (List WritePoll)) :
    TcpTunnel × WritesResult × List (List WritePoll) :=
  if tunnel.closed then
    (tunnel, .failed .closed, polls)
  else
    match writeAll tunnel payload polls with
    | (after, .done, later) =>
        match flush with
        | .pending => (after, .waiting, later)
        | .ready (.error error) => (after, .failed (.io error), later)
        | .ready (.ok ()) => (after, .done, later)
    | (after, other, later) => (after, other.toWrites, later)

def writeCall (tunnel : TcpTunnel) (polls : List (List WritePoll)) :
    WriteCall → TcpTunnel × WritesResult × List (List WritePoll)
  | .writeAll buf =>
      let (after, result, later) := writeAll tunnel buf polls
      (after, result.toWrites, later)
  | .writeApp payload flush => writeApp tunnel payload flush polls

/-- Calls of the writers one after the other, as long as they succeed. -/
def writeCalls :
    TcpTunnel → List WriteCall → List (List WritePoll) →
      TcpTunnel × WritesResult × List (List WritePoll)
  | tunnel, [], polls => (tunnel, .done, polls)
  | tunnel, call :: calls, polls =>
      match writeCall tunnel polls call with
      | (after, .done, later) => writeCalls after calls later
      | other => other

/-! ## Schedules without errors -/

/-- A stream below that accepts some bytes or is not ready. -/
def WritePoll.Clean : WritePoll → Prop
  | .pending => True
  | .ready count => 0 < count
  | .failed _ => False

def CleanPolls (polls : List (List WritePoll)) : Prop :=
  ∀ answers ∈ polls, ∀ answer ∈ answers, answer.Clean

/-- The part of the pending frame that is not on the wire. -/
def TcpTunnel.unwritten (tunnel : TcpTunnel) : Bytes :=
  tunnel.writePending.drop tunnel.writeOffset

/-- The tunnel after the stream below has accepted so many bytes of the
pending frame. -/
def TcpTunnel.advance (tunnel : TcpTunnel) (count : Nat) : TcpTunnel :=
  { tunnel with
    stream := tunnel.stream ++ tunnel.unwritten.take count
    writeOffset := tunnel.writeOffset + count }

theorem accept_eq_advance (tunnel : TcpTunnel) (count : Nat) :
    tunnel.accept count =
      tunnel.advance (min count tunnel.unwritten.length) := by
  simp [TcpTunnel.accept, TcpTunnel.advance, TcpTunnel.unwritten]

theorem unwritten_advance (tunnel : TcpTunnel) (count : Nat) :
    (tunnel.advance count).unwritten = tunnel.unwritten.drop count := by
  simp [TcpTunnel.advance, TcpTunnel.unwritten]

theorem advance_advance (tunnel : TcpTunnel) (first second : Nat) :
    (tunnel.advance first).advance second =
      tunnel.advance (first + second) := by
  simp only [TcpTunnel.advance, TcpTunnel.unwritten, List.append_assoc,
    Nat.add_assoc, ← List.drop_drop]
  rw [List.take_add]

theorem length_unwritten (tunnel : TcpTunnel) :
    tunnel.unwritten.length =
      tunnel.writePending.length - tunnel.writeOffset :=
  List.length_drop

theorem advance_zero (tunnel : TcpTunnel) : tunnel.advance 0 = tunnel := by
  simp [TcpTunnel.advance]

/-- Without errors the write loop puts a part of the pending frame on the
wire, at least one byte of it if the stream below accepts one at once, and all
of it where it is not pending. -/
theorem writeLoop_cases {tunnel after : TcpTunnel} {answers : List WritePoll}
    {ending : WriteLoopEnd} (clean : ∀ answer ∈ answers, answer.Clean)
    (returned : writeLoop tunnel answers = (after, ending)) :
    ∃ count ≤ tunnel.unwritten.length, after = tunnel.advance count ∧
      ((ending = .written ∧ count = tunnel.unwritten.length) ∨
        (ending = .pending ∧ count < tunnel.unwritten.length)) ∧
      (∀ accepted later, answers = .ready accepted :: later →
        0 < tunnel.unwritten.length → 0 < count) := by
  induction answers generalizing tunnel with
  | nil =>
      have length := length_unwritten tunnel
      refine ⟨0, Nat.zero_le _, ?_, ?_, by simp⟩
      · rw [advance_zero]
        unfold writeLoop at returned
        split at returned <;> exact (Prod.mk.inj returned).1.symm
      · unfold writeLoop at returned
        split at returned
        · exact .inl ⟨(Prod.mk.inj returned).2.symm, by omega⟩
        · exact .inr ⟨(Prod.mk.inj returned).2.symm, by omega⟩
  | cons answer later inductionHypothesis =>
      have length := length_unwritten tunnel
      unfold writeLoop at returned
      by_cases complete : tunnel.writePending.length ≤ tunnel.writeOffset
      · rw [if_pos complete] at returned
        obtain ⟨rfl, rfl⟩ := Prod.mk.inj returned
        refine ⟨0, Nat.zero_le _, (advance_zero tunnel).symm, ?_, ?_⟩
        · exact .inl ⟨rfl, by omega⟩
        · intro accepted rest _ some
          omega
      · rw [if_neg complete] at returned
        have answerClean := clean answer List.mem_cons_self
        cases answer with
        | pending =>
            obtain ⟨rfl, rfl⟩ := Prod.mk.inj returned
            refine ⟨0, Nat.zero_le _, (advance_zero tunnel).symm, ?_, by simp⟩
            exact .inr ⟨rfl, by omega⟩
        | failed code => exact answerClean.elim
        | ready accepted =>
            cases accepted with
            | zero => exact absurd answerClean (Nat.lt_irrefl 0)
            | succ accepted =>
                simp only [accept_eq_advance] at returned
                obtain ⟨count, bound, moved, outcome, -⟩ :=
                  inductionHypothesis
                    (fun answer member =>
                      clean answer (List.mem_cons_of_mem _ member))
                    returned
                rw [unwritten_advance, List.length_drop] at bound outcome
                rw [advance_advance] at moved
                refine ⟨min (accepted + 1) tunnel.unwritten.length + count,
                  by omega, moved, ?_, ?_⟩
                · rcases outcome with ⟨written, all⟩ | ⟨pending, part⟩
                  · exact .inl ⟨written, by omega⟩
                  · exact .inr ⟨pending, by omega⟩
                · intro _ _ _ _
                  omega

/-! ## One frame -/

/-- The payload of the next frame for a buffer. -/
def chunkOf (buf : Bytes) : Bytes :=
  buf.take 65535

theorem armWrite_empty {tunnel : TcpTunnel} (buf : Bytes)
    (idle : tunnel.writePending = []) :
    tunnel.armWrite buf =
      .ok { tunnel with
            writePending := dataFrame (chunkOf buf)
            writeOffset := 0 } := by
  have chunk : buf.take (min buf.length 65535) = chunkOf buf := by
    rw [Nat.min_comm, ← List.take_eq_take_min]
    rfl
  have fits : (chunkOf buf).length ≤ 65535 := by
    rw [chunkOf, List.length_take]
    omega
  rw [TcpTunnel.armWrite, if_pos idle, chunk, encodeTcpAppData_of_le fits]

theorem userLen_dataFrame {tunnel : TcpTunnel} {payload : Bytes}
    (frame : tunnel.writePending = dataFrame payload)
    (fits : payload.length ≤ 65535) : tunnel.userLen = payload.length := by
  have long : 4 ≤ (dataFrame payload).length := by
    rw [length_dataFrame]
    omega
  rw [TcpTunnel.userLen, frame, if_pos long]
  exact beU16_toBeU16 (by omega)

/-- A tunnel on its way through a buffer: the wire is `base` and the written
part of the frame of the next chunk. -/
structure Midway (base : Bytes) (buf : Bytes) (tunnel : TcpTunnel) : Prop where
  isOpen : tunnel.closed = false
  wire :
    (tunnel.writePending = [] ∧ tunnel.stream = base) ∨
      (buf ≠ [] ∧ tunnel.writePending = dataFrame (chunkOf buf) ∧
        tunnel.writeOffset < (dataFrame (chunkOf buf)).length ∧
        tunnel.stream =
          base ++ (dataFrame (chunkOf buf)).take tunnel.writeOffset)

/-- The frame of the next chunk is started, or it is already on its way. -/
theorem Midway.armWrite {base buf : Bytes} {tunnel : TcpTunnel}
    (midway : Midway base buf tunnel) :
    ∃ armed, tunnel.armWrite buf = .ok armed ∧ armed.closed = false ∧
      armed.stream = tunnel.stream ∧
      armed.writePending = dataFrame (chunkOf buf) ∧
      armed.writeOffset < (dataFrame (chunkOf buf)).length ∧
      armed.stream =
        base ++ (dataFrame (chunkOf buf)).take armed.writeOffset := by
  have long : 0 < (dataFrame (chunkOf buf)).length := by
    rw [length_dataFrame]
    omega
  rcases midway.wire with ⟨idle, stream⟩ | ⟨_, frame, offset, stream⟩
  · refine ⟨_, armWrite_empty buf idle, midway.isOpen, rfl, rfl, long, ?_⟩
    simpa using stream
  · have pending : tunnel.writePending ≠ [] := by
      rw [frame]
      exact List.ne_nil_of_length_pos long
    refine ⟨tunnel, ?_, midway.isOpen, rfl, frame, offset, stream⟩
    rw [TcpTunnel.armWrite, if_neg pending]

/-- `poll_write` without errors on a buffer it is in the middle of: it stays
in the middle of it, having written something if the stream below accepts
anything at once, or the frame of the next chunk is complete. -/
theorem pollWrite_cases {base buf : Bytes} {tunnel after : TcpTunnel}
    {answers : List WritePoll} {result : PollWriteResult} (nonempty : buf ≠ [])
    (midway : Midway base buf tunnel)
    (clean : ∀ answer ∈ answers, answer.Clean)
    (returned : pollWrite tunnel buf answers = (after, result)) :
    (result = .pending ∧ Midway base buf after ∧
        tunnel.stream.length ≤ after.stream.length ∧
        ∀ accepted later, answers = .ready accepted :: later →
          tunnel.stream.length < after.stream.length) ∨
      (result = .ready (.ok (chunkOf buf).length) ∧
        (∀ rest, Midway (base ++ dataFrame (chunkOf buf)) rest after) ∧
        tunnel.stream.length < after.stream.length ∧
        after.stream = base ++ dataFrame (chunkOf buf)) := by
  obtain ⟨armed, arming, isOpen, sameStream, frame, offset, stream⟩ :=
    midway.armWrite
  have fits : (chunkOf buf).length ≤ 65535 := by
    rw [chunkOf, List.length_take]
    omega
  have unwritten :
      armed.unwritten = (dataFrame (chunkOf buf)).drop armed.writeOffset := by
    rw [TcpTunnel.unwritten, frame]
  have remaining :
      armed.unwritten.length =
        (dataFrame (chunkOf buf)).length - armed.writeOffset := by
    rw [unwritten, List.length_drop]
  have streamLength :
      armed.stream.length = base.length + armed.writeOffset := by
    rw [stream, List.length_append, List.length_take]
    omega
  rcases looped : writeLoop armed answers with ⟨written, ending⟩
  obtain ⟨count, bound, rfl, outcome, accepts⟩ := writeLoop_cases clean looped
  have advanced :
      (armed.advance count).stream =
        base ++ (dataFrame (chunkOf buf)).take (armed.writeOffset + count) := by
    simp only [TcpTunnel.advance]
    rw [unwritten, stream, List.append_assoc, ← List.take_add]
  have advancedLength :
      (armed.advance count).stream.length = armed.stream.length + count := by
    simp only [TcpTunnel.advance, List.length_append, List.length_take]
    omega
  simp only [pollWrite, midway.isOpen, Bool.false_eq_true, if_false, nonempty,
    arming, looped] at returned
  rcases outcome with ⟨rfl, all⟩ | ⟨rfl, part⟩
  · obtain ⟨rfl, rfl⟩ := Prod.mk.inj returned
    have complete :
        (armed.advance count).stream = base ++ dataFrame (chunkOf buf) := by
      rw [advanced, List.take_of_length_le (by omega)]
    right
    refine ⟨by rw [userLen_dataFrame frame fits], ?_, ?_, complete⟩
    · intro rest
      exact ⟨isOpen, .inl ⟨rfl, complete⟩⟩
    · rw [← sameStream]
      simp only
      omega
  · obtain ⟨rfl, rfl⟩ := Prod.mk.inj returned
    left
    refine ⟨rfl, ⟨isOpen, .inr ⟨nonempty, frame, ?_, advanced⟩⟩, ?_, ?_⟩
    · simp only [TcpTunnel.advance]
      omega
    · rw [← sameStream]
      omega
    · intro accepted later accepting
      have some := accepts accepted later accepting (by omega)
      rw [← sameStream]
      omega

/-! ## A whole buffer -/

theorem length_chunkOf_pos {buf : Bytes} (nonempty : buf ≠ []) :
    0 < (chunkOf buf).length := by
  have positive := List.length_pos_of_ne_nil nonempty
  rw [chunkOf, List.length_take]
  omega

theorem length_chunkOf_le (buf : Bytes) :
    (chunkOf buf).length ≤ 65535 ∧ (chunkOf buf).length ≤ buf.length := by
  rw [chunkOf, List.length_take]
  omega

theorem chunkOf_append_drop (buf : Bytes) :
    chunkOf buf ++ buf.drop (chunkOf buf).length = buf := by
  have shorter : chunkOf buf = buf.take (chunkOf buf).length := by
    rw [chunkOf, List.length_take, ← List.take_eq_take_min]
  calc
    chunkOf buf ++ buf.drop (chunkOf buf).length =
        buf.take (chunkOf buf).length ++ buf.drop (chunkOf buf).length := by
      rw [← shorter]
    _ = buf := List.take_append_drop _ buf

/-- The payloads of the frames of a buffer. -/
def payloadsOf (buf : Bytes) : List Bytes :=
  if _nonempty : buf ≠ [] then
    chunkOf buf :: payloadsOf (buf.drop (chunkOf buf).length)
  else
    []
termination_by buf.length
decreasing_by
  have positive := length_chunkOf_pos (by assumption)
  have bound := (length_chunkOf_le buf).2
  rw [List.length_drop]
  omega

theorem payloadsOf_nil : payloadsOf [] = [] := by
  rw [payloadsOf]
  simp

theorem payloadsOf_of_ne_nil {buf : Bytes} (nonempty : buf ≠ []) :
    payloadsOf buf =
      chunkOf buf :: payloadsOf (buf.drop (chunkOf buf).length) := by
  rw [payloadsOf, dif_pos nonempty]

theorem flatten_payloadsOf (buf : Bytes) : (payloadsOf buf).flatten = buf := by
  fun_induction payloadsOf buf with
  | case1 buf nonempty inductionHypothesis =>
      rw [List.flatten_cons, inductionHypothesis, chunkOf_append_drop]
  | case2 buf empty =>
      simp only [ne_eq, not_not] at empty
      rw [empty, List.flatten_nil]

theorem length_of_mem_payloadsOf {buf payload : Bytes}
    (member : payload ∈ payloadsOf buf) :
    1 ≤ payload.length ∧ payload.length ≤ 65535 := by
  fun_induction payloadsOf buf with
  | case1 buf nonempty inductionHypothesis =>
      rcases List.mem_cons.mp member with rfl | later
      · exact ⟨length_chunkOf_pos nonempty, (length_chunkOf_le buf).1⟩
      · exact inductionHypothesis later
  | case2 buf empty => simp at member

/-- The wire bytes of a buffer. -/
def wireOf (buf : Bytes) : Bytes :=
  (payloadsOf buf).flatMap dataFrame

theorem wireOf_of_ne_nil {buf : Bytes} (nonempty : buf ≠ []) :
    wireOf buf =
      dataFrame (chunkOf buf) ++ wireOf (buf.drop (chunkOf buf).length) := by
  rw [wireOf, payloadsOf_of_ne_nil nonempty, List.flatMap_cons]
  rfl

/-- Whether the stream below accepts bytes as soon as it is polled. -/
def accepts : List WritePoll → Bool
  | .ready _ :: _ => true
  | _ => false

/-- The wire of a tunnel in the middle of a buffer starts the wire of the
whole buffer and misses some of it. -/
theorem Midway.stream_prefix {base buf : Bytes} {tunnel : TcpTunnel}
    (midway : Midway base buf tunnel) (nonempty : buf ≠ []) :
    tunnel.stream <+: base ++ wireOf buf ∧
      tunnel.stream.length < (base ++ wireOf buf).length := by
  have long : 0 < (dataFrame (chunkOf buf)).length := by
    rw [length_dataFrame]
    omega
  rw [wireOf_of_ne_nil nonempty]
  rcases midway.wire with ⟨_, stream⟩ | ⟨_, _, offset, stream⟩
  · rw [stream]
    refine ⟨List.prefix_append _ _, ?_⟩
    simp only [List.length_append]
    omega
  · rw [stream]
    constructor
    · apply (List.prefix_append_right_inj base).mpr
      exact (List.take_prefix _ _).trans (List.prefix_append _ _)
    · simp only [List.length_append, List.length_take]
      omega

theorem writeAll_nil (tunnel : TcpTunnel) (polls : List (List WritePoll)) :
    writeAll tunnel [] polls = (tunnel, .done, polls) := by
  cases polls <;> rfl

theorem exists_ready_of_accepts {answers : List WritePoll}
    (accepted : accepts answers) :
    ∃ count later, answers = .ready count :: later := by
  match answers with
  | [] => simp [accepts] at accepted
  | .pending :: _ => simp [accepts] at accepted
  | .failed _ :: _ => simp [accepts] at accepted
  | .ready count :: later => exact ⟨count, later, rfl⟩

/-- With nothing left of the buffer the tunnel is idle. -/
theorem Midway.finished {base : Bytes} {tunnel : TcpTunnel}
    (midway : Midway base [] tunnel) :
    tunnel.writePending = [] ∧ tunnel.stream = base ++ wireOf [] := by
  rcases midway.wire with ⟨idle, stream⟩ | ⟨nonempty, _⟩
  · refine ⟨idle, ?_⟩
    rw [stream, wireOf, payloadsOf_nil, List.flatMap_nil, List.append_nil]
  · exact absurd rfl nonempty

/-- `write_all` without errors: it ends with exactly the frames of the buffer
on the wire, or it waits with a proper start of them there.  Every poll that
the stream below accepts bytes of at once has written one. -/
theorem writeAll_cases {base buf : Bytes} {tunnel after : TcpTunnel}
    {polls later : List (List WritePoll)} {result : WriteAllResult}
    (midway : Midway base buf tunnel) (clean : CleanPolls polls)
    (returned : writeAll tunnel buf polls = (after, result, later)) :
    (result = .done ∧ after.closed = false ∧ after.writePending = [] ∧
        after.stream = base ++ wireOf buf ∧ CleanPolls later ∧
        tunnel.stream.length + polls.countP accepts ≤
          after.stream.length + later.countP accepts) ∨
      (result = .waiting ∧ after.stream <+: base ++ wireOf buf ∧
        tunnel.stream.length + polls.countP accepts ≤ after.stream.length ∧
        after.stream.length < (base ++ wireOf buf).length) := by
  induction polls generalizing base buf tunnel with
  | nil =>
      cases buf with
      | nil =>
          rw [writeAll_nil, Prod.mk.injEq, Prod.mk.injEq] at returned
          obtain ⟨rfl, rfl, rfl⟩ := returned
          obtain ⟨idle, wire⟩ := midway.finished
          exact .inl ⟨rfl, midway.isOpen, idle, wire, clean, le_rfl⟩
      | cons head tail =>
          have nonempty : head :: tail ≠ [] := by simp
          rw [writeAll, Prod.mk.injEq, Prod.mk.injEq] at returned
          obtain ⟨rfl, rfl, -⟩ := returned
          obtain ⟨started, missing⟩ := midway.stream_prefix nonempty
          exact .inr ⟨rfl, started, by simp, missing⟩
  | cons answers polls inductionHypothesis =>
      have answersClean := clean answers List.mem_cons_self
      have pollsClean : CleanPolls polls :=
        fun answers member => clean answers (List.mem_cons_of_mem _ member)
      cases buf with
      | nil =>
          rw [writeAll_nil, Prod.mk.injEq, Prod.mk.injEq] at returned
          obtain ⟨rfl, rfl, rfl⟩ := returned
          obtain ⟨idle, wire⟩ := midway.finished
          exact .inl ⟨rfl, midway.isOpen, idle, wire, clean, le_rfl⟩
      | cons head tail =>
          have nonempty : head :: tail ≠ [] := by simp
          have counted :
              (answers :: polls).countP accepts =
                polls.countP accepts + if accepts answers then 1 else 0 :=
            List.countP_cons
          rw [writeAll] at returned
          rcases polled : pollWrite tunnel (head :: tail) answers with
            ⟨middle, result'⟩
          rw [polled] at returned
          rcases pollWrite_cases nonempty midway answersClean polled with
            ⟨rfl, stillMidway, grows, accepting⟩ |
            ⟨rfl, nextMidway, grows, complete⟩
          · have oneMore :
                tunnel.stream.length + (if accepts answers then 1 else 0) ≤
                  middle.stream.length := by
              split
              · next accepted =>
                  obtain ⟨count, rest, rfl⟩ := exists_ready_of_accepts accepted
                  exact accepting count rest rfl
              · exact grows
            rcases inductionHypothesis stillMidway pollsClean returned with
              ⟨done, isOpen, idle, wire, laterClean, used⟩ |
              ⟨waits, started, used, missing⟩
            · exact .inl ⟨done, isOpen, idle, wire, laterClean, by omega⟩
            · exact .inr ⟨waits, started, by omega, missing⟩
          · have oneMore :
                tunnel.stream.length + (if accepts answers then 1 else 0) ≤
                  middle.stream.length := by
              split <;> omega
            have positive := length_chunkOf_pos nonempty
            have bound := (length_chunkOf_le (head :: tail)).2
            simp only [Nat.not_lt.mpr bound, if_false,
              Nat.ne_of_gt positive] at returned
            rw [wireOf_of_ne_nil nonempty, ← List.append_assoc]
            rcases inductionHypothesis (nextMidway _) pollsClean returned with
              ⟨done, isOpen, idle, wire, laterClean, used⟩ |
              ⟨waits, started, used, missing⟩
            · exact .inl ⟨done, isOpen, idle, wire, laterClean, by omega⟩
            · exact .inr ⟨waits, started, by omega, missing⟩

/-! ## A sequence of buffers -/

def WriteCall.buffer : WriteCall → Bytes
  | .writeAll buf => buf
  | .writeApp payload _ => payload

/-- The stream below does not fail to flush. -/
def WriteCall.Clean : WriteCall → Prop
  | .writeAll _ => True
  | .writeApp _ flush => ∀ error, flush ≠ .ready (.error error)

/-- The stream below has flushed. -/
def WriteCall.Flushed : WriteCall → Prop
  | .writeAll _ => True
  | .writeApp _ flush => flush = .ready (.ok ())

/-- A call of either writer on an idle tunnel without errors. -/
theorem writeCall_cases {tunnel after : TcpTunnel} {call : WriteCall}
    {polls later : List (List WritePoll)} {result : WritesResult}
    (isOpen : tunnel.closed = false) (idle : tunnel.writePending = [])
    (clean : CleanPolls polls) (callClean : call.Clean)
    (returned : writeCall tunnel polls call = (after, result, later)) :
    (result = .done ∧ after.closed = false ∧ after.writePending = [] ∧
        after.stream = tunnel.stream ++ wireOf call.buffer ∧
        CleanPolls later ∧
        tunnel.stream.length + polls.countP accepts ≤
          after.stream.length + later.countP accepts) ∨
      (result = .waiting ∧
        after.stream <+: tunnel.stream ++ wireOf call.buffer ∧
        (call.Flushed →
          tunnel.stream.length + polls.countP accepts ≤ after.stream.length ∧
          after.stream.length <
            (tunnel.stream ++ wireOf call.buffer).length)) := by
  have midway : Midway tunnel.stream call.buffer tunnel :=
    ⟨isOpen, .inl ⟨idle, rfl⟩⟩
  rcases written : writeAll tunnel call.buffer polls with
    ⟨middle, outcome, rest⟩
  rcases writeAll_cases midway clean written with
    ⟨rfl, stillOpen, stillIdle, wire, restClean, used⟩ |
    ⟨rfl, started, used, missing⟩
  · cases call with
    | writeAll buf =>
        simp only [WriteCall.buffer] at written
        simp only [writeCall, written, WriteAllResult.toWrites,
          Prod.mk.injEq] at returned
        obtain ⟨rfl, rfl, rfl⟩ := returned
        exact .inl ⟨rfl, stillOpen, stillIdle, wire, restClean, used⟩
    | writeApp payload flush =>
        simp only [WriteCall.buffer] at written
        simp only [writeCall, writeApp, isOpen, written] at returned
        match flush with
        | .pending =>
            simp only [Bool.false_eq_true, if_false, Prod.mk.injEq] at returned
            obtain ⟨rfl, rfl, rfl⟩ := returned
            refine .inr ⟨rfl, ⟨[], by rw [List.append_nil, wire]⟩, ?_⟩
            intro flushed
            simp [WriteCall.Flushed] at flushed
        | .ready (.error error) => exact absurd rfl (callClean error)
        | .ready (.ok ()) =>
            simp only [Bool.false_eq_true, if_false, Prod.mk.injEq] at returned
            obtain ⟨rfl, rfl, rfl⟩ := returned
            exact .inl ⟨rfl, stillOpen, stillIdle, wire, restClean, used⟩
  · right
    cases call with
    | writeAll buf =>
        simp only [WriteCall.buffer] at written
        simp only [writeCall, written, WriteAllResult.toWrites,
          Prod.mk.injEq] at returned
        obtain ⟨rfl, rfl, rfl⟩ := returned
        exact ⟨rfl, started, fun _ => ⟨used, missing⟩⟩
    | writeApp payload flush =>
        simp only [WriteCall.buffer] at written
        simp only [writeCall, writeApp, isOpen, written, WriteAllResult.toWrites,
          Bool.false_eq_true, if_false, Prod.mk.injEq] at returned
        obtain ⟨rfl, rfl, rfl⟩ := returned
        exact ⟨rfl, started, fun _ => ⟨used, missing⟩⟩

/-- The payloads of the frames of all buffers, in order. -/
def payloadsOfCalls (calls : List WriteCall) : List Bytes :=
  calls.flatMap fun call => payloadsOf call.buffer

theorem flatten_payloadsOfCalls (calls : List WriteCall) :
    (payloadsOfCalls calls).flatten = (calls.map WriteCall.buffer).flatten := by
  induction calls with
  | nil => rfl
  | cons call later inductionHypothesis =>
      have first :
          payloadsOfCalls (call :: later) =
            payloadsOf call.buffer ++ payloadsOfCalls later :=
        List.flatMap_cons
      rw [first, List.flatten_append, flatten_payloadsOf, inductionHypothesis,
        List.map_cons, List.flatten_cons]

/-- The writers without errors put exactly the frames of the buffers on the
wire, or wait with the start of them there. -/
theorem writeCalls_cases {tunnel after : TcpTunnel} {calls : List WriteCall}
    {polls later : List (List WritePoll)} {result : WritesResult}
    (isOpen : tunnel.closed = false) (idle : tunnel.writePending = [])
    (clean : CleanPolls polls) (callsClean : ∀ call ∈ calls, call.Clean)
    (returned : writeCalls tunnel calls polls = (after, result, later)) :
    let wire := tunnel.stream ++ (payloadsOfCalls calls).flatMap dataFrame
    (result = .done ∧ after.stream = wire) ∨
      (result = .waiting ∧ after.stream <+: wire ∧
        ((∀ call ∈ calls, call.Flushed) →
          tunnel.stream.length + polls.countP accepts < wire.length)) := by
  induction calls generalizing tunnel polls with
  | nil =>
      simp only [writeCalls, Prod.mk.injEq] at returned
      obtain ⟨rfl, rfl, rfl⟩ := returned
      exact .inl ⟨rfl, by simp [payloadsOfCalls]⟩
  | cons call calls inductionHypothesis =>
      have split :
          tunnel.stream ++ (payloadsOfCalls (call :: calls)).flatMap dataFrame =
            (tunnel.stream ++ wireOf call.buffer) ++
              (payloadsOfCalls calls).flatMap dataFrame := by
        simp [payloadsOfCalls, wireOf]
      have laterClean : ∀ call ∈ calls, call.Clean :=
        fun call member => callsClean call (List.mem_cons_of_mem _ member)
      unfold writeCalls at returned
      rcases called : writeCall tunnel polls call with ⟨middle, outcome, rest⟩
      rw [called] at returned
      simp only [split]
      rcases writeCall_cases isOpen idle clean
          (callsClean call List.mem_cons_self) called with
        ⟨rfl, stillOpen, stillIdle, wire, restClean, used⟩ |
        ⟨rfl, started, missing⟩
      · rw [← wire]
        rcases inductionHypothesis stillOpen stillIdle restClean laterClean
            returned with
          done | ⟨waits, prefixed, short⟩
        · exact .inl done
        · refine .inr ⟨waits, prefixed, ?_⟩
          intro flushed
          have remaining :=
            short fun call member => flushed call (List.mem_cons_of_mem _ member)
          omega
      · simp only [Prod.mk.injEq] at returned
        obtain ⟨rfl, rfl, rfl⟩ := returned
        refine .inr ⟨rfl, started.trans (List.prefix_append _ _), ?_⟩
        intro flushed
        obtain ⟨used, short⟩ := missing (flushed call List.mem_cons_self)
        rw [List.length_append]
        omega

/-! ## Reading the wire back -/

/-- A data frame is decoded to its payload, whatever its bytes and whatever
follows. -/
theorem scanItem_dataFrame {payload : Bytes} (fits : payload.length ≤ 65535)
    (rest : Bytes) :
    scanItem 0 (dataFrame payload ++ rest) =
      .frame (.app payload) (dataFrame payload).length := by
  have value :
      beU16 (UInt8.ofNat (payload.length / 256)) (UInt8.ofNat payload.length) =
        payload.length :=
    beU16_toBeU16 (by omega)
  rw [length_dataFrame]
  simp only [dataFrame, toBeU16, List.cons_append, List.nil_append, scanItem,
    scanBody, byteAt_cons_zero, byteAt_cons_succ, value, and_self, if_true,
    List.drop_succ_cons, List.drop_zero, List.length_cons, List.length_append,
    List.take_left]
  rw [if_neg (by omega)]

theorem decodeWhole_dataFrame (fromSlice : Bytes → Option StatusBody)
    {payload : Bytes} (fits : payload.length ≤ 65535)
    (gathered rest : Bytes) :
    decodeWhole fromSlice id gathered (dataFrame payload ++ rest) =
      decodeWhole fromSlice id (gathered ++ payload) rest := by
  rw [decodeWhole_eq, tryDecodeApp_eq, scanItem_dataFrame fits]
  simp only [decodeScanned, decodeItem, Found.toResult, List.drop_left, id]

theorem decodeWhole_frames (fromSlice : Bytes → Option StatusBody)
    {payloads : List Bytes}
    (fits : ∀ payload ∈ payloads, payload.length ≤ 65535) (gathered : Bytes) :
    decodeWhole fromSlice id gathered (payloads.flatMap dataFrame) =
      (gathered ++ payloads.flatten, .needMore, []) := by
  induction payloads generalizing gathered with
  | nil =>
      rw [List.flatMap_nil, decodeWhole_eq, tryDecodeApp_eq]
      simp [scanItem, decodeScanned]
  | cons payload later inductionHypothesis =>
      have laterFits : ∀ payload ∈ later, payload.length ≤ 65535 :=
        fun payload member => fits payload (List.mem_cons_of_mem _ member)
      rw [List.flatMap_cons,
        decodeWhole_dataFrame fromSlice (fits payload List.mem_cons_self),
        inductionHypothesis laterFits]
      simp

/-- Reading frames back in any chunks gives their payloads. -/
theorem content_frames (fromSlice : Bytes → Option StatusBody)
    {payloads chunks : List Bytes}
    (fits : ∀ payload ∈ payloads, payload.length ≤ 65535)
    (cut : chunks.flatten = payloads.flatMap dataFrame)
    (nonempty : ∀ chunk ∈ chunks, chunk ≠ []) (tail : StreamTail) :
    content fromSlice [] (readsOf chunks tail) =
      (payloads.flatten, (received tail.answers).2) := by
  rw [content, received_readsOf nonempty, List.nil_append, cut,
    decodeWhole_frames fromSlice fits]
  rfl

/-- Round trip of application data.  Whatever the stream below accepts at a
time and however often it is not ready, the writers put frames with payloads
of 1 to 65535 bytes on the wire that concatenate to the buffers, and finish
once the stream below has been ready often enough.  The wire, cut into chunks
anywhere, gives a reader of either kind the same bytes. -/
theorem tunnel_round_trip (fromSlice : Bytes → Option StatusBody)
    (calls : List WriteCall) (polls : List (List WritePoll))
    (clean : CleanPolls polls) (callsClean : ∀ call ∈ calls, call.Clean) :
    ∃ payloads : List Bytes,
      (∀ payload ∈ payloads, 1 ≤ payload.length ∧ payload.length ≤ 65535) ∧
      payloads.flatten = (calls.map WriteCall.buffer).flatten ∧
      (∀ after result later,
        writeCalls (.fromStream []) calls polls = (after, result, later) →
          (result = .done ∧ after.stream = payloads.flatMap dataFrame) ∨
            (result = .waiting ∧
              after.stream <+: payloads.flatMap dataFrame ∧
              ((∀ call ∈ calls, call.Flushed) →
                polls.countP accepts <
                  (payloads.flatMap dataFrame).length))) ∧
      ∀ chunks : List Bytes,
        chunks.flatten = payloads.flatMap dataFrame →
        (∀ chunk ∈ chunks, chunk ≠ []) → ∀ tail : StreamTail,
          let whole :=
            ((calls.map WriteCall.buffer).flatten, (received tail.answers).2)
          (∀ count,
            let seen :=
              readApps fromSlice count (.fromStream []) (readsOf chunks tail)
            Delivers whole seen ∧
              (whole.1.length < count → seen = (whole.1, some whole.2))) ∧
          ∀ reads, answersOf reads = readsOf chunks tail → ∀ sizes,
            let seen := pollReads fromSlice sizes (.fromStream []) reads
            Delivers whole seen ∧
              (whole.1.length + stalls reads < sizes.countP (0 < ·) →
                seen = (whole.1, some whole.2)) := by
  have bounds :
      ∀ payload ∈ payloadsOfCalls calls,
        1 ≤ payload.length ∧ payload.length ≤ 65535 := by
    intro payload member
    obtain ⟨call, _, inCall⟩ := List.mem_flatMap.mp member
    exact length_of_mem_payloadsOf inCall
  refine ⟨payloadsOfCalls calls, bounds, flatten_payloadsOfCalls calls, ?_, ?_⟩
  · intro after result later returned
    simpa [TcpTunnel.fromStream] using
      writeCalls_cases rfl rfl clean callsClean returned
  · intro chunks cut nonempty tail
    have whole :=
      content_frames fromSlice
        (fun payload member => (bounds payload member).2) cut nonempty tail
    rw [flatten_payloadsOfCalls] at whole
    constructor
    · intro count
      exact readApps_whole fromSlice whole [] count
    · intro reads answered sizes
      apply pollReads_whole fromSlice _ [] sizes
      rw [answered, whole]

theorem tunnel_round_trip_sample :
    (writeCalls (.fromStream [])
        [.writeAll [0x01, 0x01], .writeApp [0x41] (.ready (.ok ()))]
        [[.ready 3, .pending], [.pending], [.ready 9], [.ready 1, .ready 9]]).2.1 =
      .done ∧
      ∃ payloads : List Bytes,
        payloads.flatten = [0x01, 0x01, 0x41] ∧
          (writeCalls (.fromStream [])
              [.writeAll [0x01, 0x01], .writeApp [0x41] (.ready (.ok ()))]
              [[.ready 3, .pending], [.pending], [.ready 9],
                [.ready 1, .ready 9]]).1.stream =
            payloads.flatMap dataFrame := by
  have finished :
      (writeCalls (.fromStream [])
        [.writeAll [0x01, 0x01], .writeApp [0x41] (.ready (.ok ()))]
        [[.ready 3, .pending], [.pending], [.ready 9],
          [.ready 1, .ready 9]]).2.1 = .done := by
    decide
  obtain ⟨payloads, -, buffers, written, -⟩ :=
    tunnel_round_trip (fun _ => none)
      [.writeAll [0x01, 0x01], .writeApp [0x41] (.ready (.ok ()))]
      [[.ready 3, .pending], [.pending], [.ready 9], [.ready 1, .ready 9]]
      (by simp [CleanPolls, WritePoll.Clean])
      (by simp [WriteCall.Clean])
  refine ⟨finished, payloads, buffers, ?_⟩
  rcases written _ _ _ rfl with ⟨-, wire⟩ | ⟨waits, -⟩
  · exact wire
  · cases waits

end HermesAtrust.Tcp
