import HermesAtrust.Framing.ExactReads
import HermesAtrust.Tcp.TunnelDecoding

/-!
# The handshake of a TCP tunnel

Model of `complete_handshake`.  The client writes its two frames, waits for the
node to accept the address, writes a probe and waits for the connect status.
It reads nothing beyond the two bytes of the connect status, since what follows
them belongs to the tunnel.

The stream delivers the bytes of the server in chunks; its writes succeed.
-/

namespace HermesAtrust.Tcp

open HermesAtrust.Framing HermesAtrust.Protocol

/-- The errors of a handshake on a stream whose writes succeed. -/
inductive DialTcpError where
  | frame (error : TcpFrameError)
  | unexpectedEof
  | unexpectedStatusHeader (bytes : Bytes)
  | addressRejected (body : String)
  | connectRejected (status : UInt8)
  deriving DecidableEq, Repr

/-- The body of an address response; the nested form is unpacked. -/
def addressBody (payload : Bytes) : Except TcpFrameError Bytes :=
  if [0x53, 0x00].isPrefixOf payload then
    parseStatusPayload payload
  else
    .ok payload

section Handshake

variable (fromSlice : Bytes → Option StatusBody)

/-- `wait_for_address_ok` behind the header `53 00`. -/
def readAddressStatus (stream : List (Chunk UInt8)) :
    Except DialTcpError Unit × List (Chunk UInt8) :=
  match readExact 2 stream with
  | (none, rest) => (.error .unexpectedEof, rest)
  | (some lenBytes, rest) =>
      match readExact (beU16 (byteAt lenBytes 0) (byteAt lenBytes 1)) rest with
      | (none, rest) => (.error .unexpectedEof, rest)
      | (some payload, rest) =>
          match addressBody payload with
          | .error error => (.error (.frame error), rest)
          | .ok body =>
              if isStatusOk fromSlice body then
                (.ok (), rest)
              else
                (.error (.addressRejected (fromUtf8Lossy body)), rest)

/-- `wait_for_address_ok`: its result and what is left of the stream. -/
def waitForAddressOk (stream : List (Chunk UInt8)) :
    Except DialTcpError Unit × List (Chunk UInt8) :=
  match _read : readExact 2 stream with
  | (none, rest) => (.error .unexpectedEof, rest)
  | (some header, rest) =>
      if header = [0x05, 0x81] then
        waitForAddressOk rest
      else if byteAt header 0 ≠ 0x53 ∨ byteAt header 1 ≠ 0x00 then
        (.error (.unexpectedStatusHeader header), rest)
      else
        readAddressStatus fromSlice rest
termination_by (streamItems stream).length
decreasing_by
  obtain ⟨length, items⟩ := streamItems_of_readExact _read
  rw [items, List.length_append]
  omega

/-- `wait_for_connect_status`. -/
def waitForConnectStatus (stream : List (Chunk UInt8)) :
    Except DialTcpError Unit × List (Chunk UInt8) :=
  match readExact 2 stream with
  | (none, rest) => (.error .unexpectedEof, rest)
  | (some status, rest) =>
      if byteAt status 0 ≠ 0x05 then
        (.error (.unexpectedStatusHeader status), rest)
      else if byteAt status 1 = 0x00 then
        (.ok (), rest)
      else
        (.error (.connectRejected (byteAt status 1)), rest)

/-- `complete_handshake`. -/
def completeHandshake (stream : DuplexStream UInt8)
    (initFrame destFrame : Bytes) :
    Except DialTcpError (DuplexStream UInt8) :=
  let stream := (stream.writeAll initFrame).writeAll destFrame
  match waitForAddressOk fromSlice stream.incoming with
  | (.error error, _) => .error error
  | (.ok (), rest) =>
      let stream := { stream with incoming := rest }.writeAll encodeTcpProbe
      match waitForConnectStatus stream.incoming with
      | (.error error, _) => .error error
      | (.ok (), rest) => .ok { stream with incoming := rest }

/-! ## The bytes of a successful handshake -/

/-- The address response that the client waits for, behind noise. -/
def addressBytes (noise : Nat) (body : Bytes) : Bytes :=
  (List.replicate noise [0x05, 0x81]).flatten ++
    ([0x53, 0x00] ++ toBeU16 body.length ++ body)

/-- All that the server sends in a successful handshake. -/
def handshakeBytes (noise : Nat) (body : Bytes) : Bytes :=
  addressBytes noise body ++ [0x05, 0x00]

/-- The body, or the payload nested in it, says that the address is
accepted. -/
def AcceptsAddress (body : Bytes) : Prop :=
  ∃ inner, addressBody body = .ok inner ∧ isStatusOk fromSlice inner = true

theorem addressBytes_succ (noise : Nat) (body : Bytes) :
    addressBytes (noise + 1) body =
      [0x05, 0x81] ++ addressBytes noise body := by
  rw [addressBytes, List.replicate_succ, List.flatten_cons, List.append_assoc]
  rfl

theorem addressBytes_zero (body : Bytes) :
    addressBytes 0 body =
      [0x53, 0x00] ++ (toBeU16 body.length ++ body) := by
  rw [addressBytes, List.replicate_zero, List.flatten_nil, List.nil_append,
    List.append_assoc]

/-! ## The address response -/

variable {fromSlice} {stream rest : List (Chunk UInt8)} {body later : Bytes}

theorem readAddressStatus_ok (fits : body.length ≤ 65535)
    (accepts : AcceptsAddress fromSlice body)
    (front : streamItems stream = toBeU16 body.length ++ body ++ later) :
    ∃ rest, readAddressStatus fromSlice stream = (.ok (), rest) ∧
      streamItems rest = later := by
  obtain ⟨inner, unpacked, accepted⟩ := accepts
  rw [List.append_assoc] at front
  obtain ⟨middle, readLength, between⟩ := readExact_of_streamItems front
  obtain ⟨rest, readBody, after⟩ := readExact_of_streamItems between
  refine ⟨rest, ?_, after⟩
  have length : beU16 (byteAt (toBeU16 body.length) 0)
      (byteAt (toBeU16 body.length) 1) = body.length :=
    beU16_toBeU16 (Nat.lt_succ_of_le fits)
  rw [length_toBeU16] at readLength
  simp only [readAddressStatus, readLength, length, readBody, unpacked,
    accepted, if_true]

theorem ok_of_readAddressStatus
    (accepted : readAddressStatus fromSlice stream = (.ok (), rest)) :
    ∃ body : Bytes, body.length ≤ 65535 ∧ AcceptsAddress fromSlice body ∧
      streamItems stream =
        toBeU16 body.length ++ body ++ streamItems rest := by
  unfold readAddressStatus at accepted
  split at accepted
  · cases accepted
  · next lenBytes middle readLength =>
      obtain ⟨two, front⟩ := streamItems_of_readExact readLength
      split at accepted
      · cases accepted
      · next payload after readBody =>
          obtain ⟨length, between⟩ := streamItems_of_readExact readBody
          split at accepted
          · cases accepted
          · next inner unpacked =>
              split at accepted
              · next ok =>
                  cases accepted
                  obtain ⟨high, low, rfl⟩ := List.length_eq_two.mp two
                  refine ⟨payload, ?_, ⟨inner, unpacked, ok⟩, ?_⟩
                  · rw [length]
                    exact beU16_le _ _
                  · rw [length, front, between, byteAt_cons_zero,
                      byteAt_cons_succ, byteAt_cons_zero, toBeU16_beU16,
                      List.append_assoc]
              · cases accepted

/-- The response is cut off in its length or its body. -/
theorem readAddressStatus_truncated (fits : body.length ≤ 65535)
    (cut : streamItems stream ++ later = toBeU16 body.length ++ body)
    (missing : later ≠ []) :
    readAddressStatus fromSlice stream = (.error .unexpectedEof, []) := by
  have positive : 0 < later.length := List.length_pos_iff.mpr missing
  by_cases short : (streamItems stream).length < 2
  · simp only [readAddressStatus, readExact_short short]
  · have lengths := congrArg List.length cut
    rw [List.length_append, List.length_append, length_toBeU16] at lengths
    obtain ⟨part, front⟩ :
        ∃ part, streamItems stream = toBeU16 body.length ++ part := by
      rcases List.append_eq_append_iff.mp cut with
        ⟨part, same, -⟩ | ⟨part, same, -⟩
      · have two := congrArg List.length same
        rw [length_toBeU16, List.length_append] at two
        have none : part = [] := List.length_eq_zero_iff.mp (by omega)
        rw [none, List.append_nil] at same
        exact ⟨[], by rw [same, List.append_nil]⟩
      · exact ⟨part, same⟩
    obtain ⟨middle, readLength, between⟩ := readExact_of_streamItems front
    have length : beU16 (byteAt (toBeU16 body.length) 0)
        (byteAt (toBeU16 body.length) 1) = body.length :=
      beU16_toBeU16 (Nat.lt_succ_of_le fits)
    have few : (streamItems middle).length < body.length := by
      rw [front, List.length_append, length_toBeU16] at lengths
      rw [between]
      omega
    rw [length_toBeU16] at readLength
    simp only [readAddressStatus, readLength, length, readExact_short few]

theorem waitForAddressOk_chatter
    (read : readExact 2 stream = (some [0x05, 0x81], rest)) :
    waitForAddressOk fromSlice stream = waitForAddressOk fromSlice rest := by
  rw [waitForAddressOk]
  split
  · next other =>
      rw [read] at other
      cases other
  · next other =>
      rw [read] at other
      cases other
      rw [if_pos rfl]

theorem waitForAddressOk_status
    (read : readExact 2 stream = (some [0x53, 0x00], rest)) :
    waitForAddressOk fromSlice stream = readAddressStatus fromSlice rest := by
  rw [waitForAddressOk]
  split
  · next other =>
      rw [read] at other
      cases other
  · next other =>
      rw [read] at other
      cases other
      rw [if_neg (by decide), if_neg (by decide)]

theorem waitForAddressOk_short (short : (streamItems stream).length < 2) :
    waitForAddressOk fromSlice stream = (.error .unexpectedEof, []) := by
  rw [waitForAddressOk]
  split
  · next other =>
      rw [readExact_short short] at other
      cases other
      rfl
  · next other =>
      rw [readExact_short short] at other
      cases other

theorem waitForAddressOk_ok {noise : Nat} (fits : body.length ≤ 65535)
    (accepts : AcceptsAddress fromSlice body)
    (front : streamItems stream = addressBytes noise body ++ later) :
    ∃ rest, waitForAddressOk fromSlice stream = (.ok (), rest) ∧
      streamItems rest = later := by
  induction noise generalizing stream with
  | zero =>
      rw [addressBytes_zero, List.append_assoc] at front
      obtain ⟨middle, read, between⟩ := readExact_of_streamItems front
      rw [waitForAddressOk_status read]
      exact readAddressStatus_ok fits accepts between
  | succ noise inductionHypothesis =>
      rw [addressBytes_succ, List.append_assoc] at front
      obtain ⟨middle, read, between⟩ := readExact_of_streamItems front
      rw [waitForAddressOk_chatter read]
      exact inductionHypothesis between

theorem ok_of_waitForAddressOk
    (accepted : waitForAddressOk fromSlice stream = (.ok (), rest)) :
    ∃ (noise : Nat) (body : Bytes), body.length ≤ 65535 ∧
      AcceptsAddress fromSlice body ∧
      streamItems stream = addressBytes noise body ++ streamItems rest := by
  fun_induction waitForAddressOk fromSlice stream with
  | case1 stream left read => cases accepted
  | case2 stream left read inductionHypothesis =>
      obtain ⟨-, front⟩ := streamItems_of_readExact read
      obtain ⟨noise, body, fits, accepts, between⟩ :=
        inductionHypothesis accepted
      refine ⟨noise + 1, body, fits, accepts, ?_⟩
      rw [front, between, addressBytes_succ, List.append_assoc]
  | case3 stream header left read notChatter unexpected => cases accepted
  | case4 stream header left read notChatter expected =>
      obtain ⟨two, front⟩ := streamItems_of_readExact read
      obtain ⟨first, second, rfl⟩ := List.length_eq_two.mp two
      simp only [byteAt_cons_zero, byteAt_cons_succ, not_or,
        not_not] at expected
      obtain ⟨rfl, rfl⟩ := expected
      obtain ⟨body, fits, accepts, between⟩ :=
        ok_of_readAddressStatus accepted
      refine ⟨0, body, fits, accepts, ?_⟩
      rw [front, between, addressBytes_zero]
      simp only [List.append_assoc]

/-- The server closes the stream within the address response. -/
theorem waitForAddressOk_truncated {noise : Nat} (fits : body.length ≤ 65535)
    (cut : streamItems stream ++ later = addressBytes noise body)
    (missing : later ≠ []) :
    waitForAddressOk fromSlice stream = (.error .unexpectedEof, []) := by
  have header :
      ∀ (first second : UInt8) (more : Bytes) (items : Bytes),
        ¬items.length < 2 → items ++ later = [first, second] ++ more →
        ∃ part, items = [first, second] ++ part ∧ part ++ later = more := by
    intro first second more items long same
    cases items with
    | nil => exact absurd (Nat.zero_lt_succ 1) long
    | cons one others =>
        cases others with
        | nil => exact absurd (Nat.lt_succ_self 1) long
        | cons two part =>
            cases same
            exact ⟨part, rfl, rfl⟩
  induction noise generalizing stream with
  | zero =>
      by_cases short : (streamItems stream).length < 2
      · exact waitForAddressOk_short short
      · rw [addressBytes_zero] at cut
        obtain ⟨part, front, remaining⟩ := header _ _ _ _ short cut
        obtain ⟨middle, read, between⟩ := readExact_of_streamItems front
        rw [waitForAddressOk_status read]
        refine readAddressStatus_truncated fits ?_ missing
        rw [between]
        exact remaining
  | succ noise inductionHypothesis =>
      by_cases short : (streamItems stream).length < 2
      · exact waitForAddressOk_short short
      · rw [addressBytes_succ] at cut
        obtain ⟨part, front, remaining⟩ := header _ _ _ _ short cut
        obtain ⟨middle, read, between⟩ := readExact_of_streamItems front
        rw [waitForAddressOk_chatter read]
        apply inductionHypothesis
        rw [between]
        exact remaining

/-! ## The connect status -/

theorem waitForConnectStatus_ok
    (front : streamItems stream = [0x05, 0x00] ++ later) :
    ∃ rest, waitForConnectStatus stream = (.ok (), rest) ∧
      streamItems rest = later := by
  obtain ⟨rest, read, after⟩ := readExact_of_streamItems front
  refine ⟨rest, ?_, after⟩
  change readExact 2 stream = _ at read
  simp [waitForConnectStatus, read]

theorem ok_of_waitForConnectStatus
    (connected : waitForConnectStatus stream = (.ok (), rest)) :
    streamItems stream = [0x05, 0x00] ++ streamItems rest := by
  unfold waitForConnectStatus at connected
  split at connected
  · cases connected
  · next status after read =>
      obtain ⟨two, front⟩ := streamItems_of_readExact read
      obtain ⟨first, second, rfl⟩ := List.length_eq_two.mp two
      split at connected
      · cases connected
      · next version =>
          split at connected
          · next success =>
              cases connected
              rw [byteAt_cons_zero, not_not] at version
              rw [byteAt_cons_succ, byteAt_cons_zero] at success
              rw [front, version, success]
          · cases connected

/-- The server closes the stream within the connect status. -/
theorem waitForConnectStatus_short (short : (streamItems stream).length < 2) :
    waitForConnectStatus stream = (.error .unexpectedEof, []) := by
  simp only [waitForConnectStatus, readExact_short short]

/-! ## The whole handshake -/

variable {node : DuplexStream UInt8} {initFrame destFrame : Bytes}
  {noise : Nat}

/-- The handshake succeeds and leaves what is behind its bytes. -/
theorem completeHandshake_ok (fits : body.length ≤ 65535)
    (accepts : AcceptsAddress fromSlice body)
    (front :
      streamItems node.incoming = handshakeBytes noise body ++ later) :
    ∃ rest, completeHandshake fromSlice node initFrame destFrame =
        .ok ⟨rest,
          node.written ++ initFrame ++ destFrame ++ encodeTcpProbe⟩ ∧
      streamItems rest = later := by
  rw [handshakeBytes, List.append_assoc] at front
  obtain ⟨middle, address, between⟩ :=
    waitForAddressOk_ok fits accepts front
  obtain ⟨rest, connect, after⟩ := waitForConnectStatus_ok between
  refine ⟨rest, ?_, after⟩
  simp only [completeHandshake, DuplexStream.writeAll, address, connect]

theorem ok_of_completeHandshake {after : DuplexStream UInt8}
    (completed :
      completeHandshake fromSlice node initFrame destFrame = .ok after) :
    ∃ (noise : Nat) (body : Bytes), body.length ≤ 65535 ∧
      AcceptsAddress fromSlice body ∧
      streamItems node.incoming =
        handshakeBytes noise body ++ streamItems after.incoming := by
  unfold completeHandshake at completed
  simp only [DuplexStream.writeAll] at completed
  split at completed
  · cases completed
  · next middle address =>
      split at completed
      · cases completed
      · next rest connect =>
          cases completed
          obtain ⟨noise, body, fits, accepts, front⟩ :=
            ok_of_waitForAddressOk address
          refine ⟨noise, body, fits, accepts, ?_⟩
          rw [front, ok_of_waitForConnectStatus connect, handshakeBytes,
            List.append_assoc]

/-- The server closes the stream within the handshake. -/
theorem completeHandshake_truncated (fits : body.length ≤ 65535)
    (accepts : AcceptsAddress fromSlice body)
    (cut : streamItems node.incoming ++ later = handshakeBytes noise body)
    (missing : later ≠ []) :
    completeHandshake fromSlice node initFrame destFrame =
      .error .unexpectedEof := by
  have positive : 0 < later.length := List.length_pos_iff.mpr missing
  rcases List.append_eq_append_iff.mp cut with
    ⟨part, inAddress, -⟩ | ⟨part, behind, status⟩
  · by_cases whole : part = []
    · rw [whole, List.append_nil] at inAddress
      have front : streamItems node.incoming =
          addressBytes noise body ++ [] := by
        rw [List.append_nil]
        exact inAddress.symm
      obtain ⟨middle, address, between⟩ :=
        waitForAddressOk_ok fits accepts front
      have short : (streamItems middle).length < 2 := by
        rw [between]
        exact Nat.zero_lt_succ 1
      simp only [completeHandshake, DuplexStream.writeAll, address,
        waitForConnectStatus_short short]
    · have failed :=
        @waitForAddressOk_truncated fromSlice node.incoming body part noise
          fits inAddress.symm whole
      simp only [completeHandshake, DuplexStream.writeAll, failed]
  · obtain ⟨middle, address, between⟩ :=
      waitForAddressOk_ok fits accepts behind
    have short : (streamItems middle).length < 2 := by
      have lengths := congrArg List.length status
      rw [List.length_append, List.length_cons, List.length_cons,
        List.length_nil] at lengths
      rw [between]
      omega
    simp only [completeHandshake, DuplexStream.writeAll, address,
      waitForConnectStatus_short short]

end Handshake

/-- `complete_handshake` succeeds exactly if the server's bytes start with
noise, an address response that is accepted, and the connect status of
success.  It consumes these bytes and no more, so the tunnel on the stream
decodes what is behind them.  If the stream ends within them, the handshake
fails.  In all this it does not matter how the bytes are cut into chunks. -/
theorem complete_handshake_exact (fromSlice : Bytes → Option StatusBody)
    (node : DuplexStream UInt8) (initFrame destFrame : Bytes) :
    ((∃ after, completeHandshake fromSlice node initFrame destFrame =
          .ok after) ↔
        ∃ noise body later, body.length ≤ 65535 ∧
          AcceptsAddress fromSlice body ∧
          streamItems node.incoming = handshakeBytes noise body ++ later) ∧
      (∀ noise body later, body.length ≤ 65535 →
        AcceptsAddress fromSlice body →
        streamItems node.incoming = handshakeBytes noise body ++ later →
        ∃ after, completeHandshake fromSlice node initFrame destFrame =
            .ok after ∧
          streamItems after.incoming = later ∧
          after.written =
            node.written ++ initFrame ++ destFrame ++ encodeTcpProbe ∧
          decodeChunks fromSlice (TcpTunnel.fromStream after.written).readBuf
              (after.incoming.map Chunk.items) =
            decodeChunks fromSlice [] [later]) ∧
      ∀ noise body missing, body.length ≤ 65535 →
        AcceptsAddress fromSlice body → missing ≠ [] →
        streamItems node.incoming ++ missing = handshakeBytes noise body →
        completeHandshake fromSlice node initFrame destFrame =
          .error .unexpectedEof := by
  refine ⟨⟨?_, ?_⟩, ?_, ?_⟩
  · intro succeeded
    obtain ⟨after, completed⟩ := succeeded
    obtain ⟨noise, body, fits, accepts, front⟩ :=
      ok_of_completeHandshake completed
    exact ⟨noise, body, _, fits, accepts, front⟩
  · intro accepted
    obtain ⟨noise, body, later, fits, accepts, front⟩ := accepted
    obtain ⟨rest, completed, -⟩ := completeHandshake_ok fits accepts front
    exact ⟨_, completed⟩
  · intro noise body later fits accepts front
    obtain ⟨rest, completed, after⟩ :=
      completeHandshake_ok fits accepts front
    refine ⟨_, completed, after, rfl, ?_⟩
    apply decodeChunks_congr
    rw [← List.flatMap_def, List.flatten_cons, List.flatten_nil,
      List.append_nil]
    exact after
  · intro noise body missing fits accepts some cut
    exact completeHandshake_truncated fits accepts cut some

end HermesAtrust.Tcp
