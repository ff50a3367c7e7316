import HermesAtrust.Framing.ExactReads
import HermesAtrust.L3.Packet

/-!
# The Get-IP exchange

Model of `request_ipv4`.  The node answers with control frames, each an ack of
two bytes or a status with a length and a body, and then with the address reply,
whose body has a length that depends on the type of the address.  The session
goes on to use the same stream, so the exchange must end with the last byte of
the reply.

The JSON library is not part of the repository; `sidJson` stands for the bytes
that it makes of a request.  Writes succeed.
-/

namespace HermesAtrust.L3

open HermesAtrust.Framing

/-- `MAX_PROTOCOL_RESPONSE`. -/
def maxProtocolResponse : Nat := 64 * 1024

/-- `MAX_RESPONSE_FRAMES`. -/
def maxResponseFrames : Nat := 8

/-- The errors of an exchange on a stream whose writes succeed. -/
inductive GetIpv4Error where
  | unexpectedEof
  | requestTooLarge
  | responseTooLarge (length : Nat)
  | protocolRejected (status : UInt8)
  | unexpectedHeader (first second : UInt8)
  | tooManyResponseFrames
  | addressRejected (status : UInt8)
  | unsupportedAddressType (addressType : UInt8)
  deriving DecidableEq, Repr

structure GetIpv4Response where
  address : Ipv4Addr
  addressType : UInt8
  vipData : Bytes
  statusBodies : List Bytes
  deriving DecidableEq, Repr

/-- `vip_payload_length`. -/
def vipPayloadLength (addressType : UInt8) : Nat :=
  if addressType = 1 then 6
  else if addressType = 4 then 18
  else if addressType = 5 then 22
  else 4

/-- `ipv4_from_vip_data`. -/
def ipv4FromVipData (addressType : UInt8) (vipData : Bytes) :
    Option Ipv4Addr :=
  if (addressType = 1 ∨ addressType = 5) ∧ 4 ≤ vipData.length then
    some (addrAt vipData 0)
  else
    none

/-- The address reply behind its header `05 00`. -/
def readAddressReply (statusBodies : List Bytes)
    (stream : List (Chunk UInt8)) :
    Except GetIpv4Error GetIpv4Response × List (Chunk UInt8) :=
  match readExact 2 stream with
  | (none, rest) => (.error .unexpectedEof, rest)
  | (some tail, rest) =>
      let status := byteAt tail 0
      let addressType := byteAt tail 1
      if status ≠ 0 then
        (.error (.addressRejected status), rest)
      else
        match readExact (vipPayloadLength addressType) rest with
        | (none, rest) => (.error .unexpectedEof, rest)
        | (some vipData, rest) =>
            match ipv4FromVipData addressType vipData with
            | none => (.error (.unsupportedAddressType addressType), rest)
            | some address =>
                (.ok ⟨address, addressType, vipData, statusBodies⟩, rest)

/-- The body of a status behind its header `53 00`. -/
def readStatusBody (stream : List (Chunk UInt8)) :
    Except GetIpv4Error Bytes × List (Chunk UInt8) :=
  match readExact 2 stream with
  | (none, rest) => (.error .unexpectedEof, rest)
  | (some lenBytes, rest) =>
      let responseLen := beU16 (byteAt lenBytes 0) (byteAt lenBytes 1)
      if maxProtocolResponse < responseLen then
        (.error (.responseTooLarge responseLen), rest)
      else
        match readExact responseLen rest with
        | (none, rest) => (.error .unexpectedEof, rest)
        | (some response, rest) => (.ok response, rest)

/-- The loop of `request_ipv4`, with the number of frames that it may still
read.  `captured` says that bytes behind an unexpected header arrive in time to
be read for the log. -/
def readResponses (captured : Bool) :
    Nat → List Bytes → List (Chunk UInt8) →
      Except GetIpv4Error GetIpv4Response × List (Chunk UInt8)
  | 0, _, stream => (.error .tooManyResponseFrames, stream)
  | frames + 1, statusBodies, stream =>
      match readExact 2 stream with
      | (none, rest) => (.error .unexpectedEof, rest)
      | (some header, rest) =>
          if header = [0x05, 0xd0] then
            readResponses captured frames statusBodies rest
          else if byteAt header 0 = 0x53 then
            if byteAt header 1 ≠ 0 then
              (.error (.protocolRejected (byteAt header 1)), rest)
            else
              match readStatusBody rest with
              | (.error error, rest) => (.error error, rest)
              | (.ok body, rest) =>
                  readResponses captured frames (statusBodies ++ [body]) rest
          else if header = [0x05, 0x00] then
            readAddressReply statusBodies rest
          else
            (.error
                (.unexpectedHeader (byteAt header 0) (byteAt header 1)),
              if captured then (readOnce 64 rest).2 else rest)

theorem readResponses_zero (captured : Bool) (statusBodies : List Bytes)
    (stream : List (Chunk UInt8)) :
    readResponses captured 0 statusBodies stream =
      (.error .tooManyResponseFrames, stream) := by
  rw [readResponses]

/-- `request_ipv4`: its result, and the stream after it. -/
def requestIpv4 (sidJson : String → Bytes) (captured : Bool)
    (stream : DuplexStream UInt8) (sid : String) :
    Except GetIpv4Error GetIpv4Response × DuplexStream UInt8 :=
  let json := sidJson sid
  if 65535 < json.length then
    (.error .requestTooLarge, stream)
  else
    let init := [0x05, 0x01, 0xd0, 0x53, 0x00] ++ toBeU16 json.length ++ json
    let request := [0x05, 0x04, 0x00, 0x01, 0, 0, 0, 0, 0, 0]
    let stream := (stream.writeAll init).writeAll request
    let (result, rest) :=
      readResponses captured maxResponseFrames [] stream.incoming
    (result, { stream with incoming := rest })

/-! ## The bytes of an exchange -/

inductive ControlFrame where
  | methodAck
  | status (body : Bytes)
  deriving DecidableEq, Repr

namespace ControlFrame

def wire : ControlFrame → Bytes
  | .methodAck => [0x05, 0xd0]
  | .status body => [0x53, 0x00] ++ (toBeU16 body.length ++ body)

/-- The length field of the frame can hold its length. -/
def Fits : ControlFrame → Prop
  | .methodAck => True
  | .status body => body.length ≤ 65535

def body : ControlFrame → Option Bytes
  | .methodAck => none
  | .status body => some body

end ControlFrame

def controlBytes (frames : List ControlFrame) : Bytes :=
  frames.flatMap ControlFrame.wire

def addressReply (addressType : UInt8) (body : Bytes) : Bytes :=
  [0x05, 0x00] ++ ([0x00, addressType] ++ body)

section

variable {stream rest : List (Chunk UInt8)} {body later : Bytes}
  {addressType : UInt8} {statusBodies : List Bytes} {captured : Bool}

/-! ## Status bodies -/

theorem readStatusBody_ok (fits : body.length ≤ 65535)
    (front : streamItems stream = toBeU16 body.length ++ body ++ later) :
    ∃ rest, readStatusBody stream = (.ok body, rest) ∧
      streamItems rest = later := by
  rw [List.append_assoc] at front
  obtain ⟨middle, readLength, between⟩ := readExact_of_streamItems front
  obtain ⟨rest, readBody, after⟩ := readExact_of_streamItems between
  refine ⟨rest, ?_, after⟩
  have length : beU16 (byteAt (toBeU16 body.length) 0)
      (byteAt (toBeU16 body.length) 1) = body.length :=
    beU16_toBeU16 (Nat.lt_succ_of_le fits)
  have within : ¬maxProtocolResponse < body.length := by
    unfold maxProtocolResponse
    omega
  rw [length_toBeU16] at readLength
  simp only [readStatusBody, readLength, length, if_neg within, readBody]

theorem ok_of_readStatusBody
    (read : readStatusBody stream = (.ok body, rest)) :
    body.length ≤ 65535 ∧
      streamItems stream = toBeU16 body.length ++ body ++ streamItems rest := by
  unfold readStatusBody at read
  split at read
  · cases read
  · next lenBytes middle readLength =>
      simp only at read
      split at read
      · cases read
      · split at read
        · cases read
        · next response after readBody =>
            cases read
            obtain ⟨two, front⟩ := streamItems_of_readExact readLength
            obtain ⟨length, between⟩ := streamItems_of_readExact readBody
            obtain ⟨high, low, rfl⟩ := List.length_eq_two.mp two
            rw [length]
            refine ⟨beU16_le _ _, ?_⟩
            rw [front, between, byteAt_cons_zero, byteAt_cons_succ,
              byteAt_cons_zero, toBeU16_beU16, List.append_assoc]

/-! ## The address reply -/

/-- A reply with a complete body is consumed, whatever its type is. -/
theorem readAddressReply_eq
    (complete : body.length = vipPayloadLength addressType)
    (front : streamItems stream = [0x00, addressType] ++ body ++ later) :
    ∃ rest, streamItems rest = later ∧
      readAddressReply statusBodies stream =
        match ipv4FromVipData addressType body with
        | none => (.error (.unsupportedAddressType addressType), rest)
        | some address =>
            (.ok ⟨address, addressType, body, statusBodies⟩, rest) := by
  rw [List.append_assoc] at front
  obtain ⟨middle, readTail, between⟩ := readExact_of_streamItems front
  obtain ⟨rest, readBody, after⟩ := readExact_of_streamItems between
  refine ⟨rest, after, ?_⟩
  change readExact 2 stream = _ at readTail
  rw [complete] at readBody
  simp only [readAddressReply, readTail, byteAt_cons_zero, byteAt_cons_succ,
    readBody, ne_eq, not_true_eq_false, if_false]

theorem ok_of_readAddressReply {response : GetIpv4Response}
    (read : readAddressReply statusBodies stream = (.ok response, rest)) :
    ∃ (addressType : UInt8) (body : Bytes),
      (addressType = 1 ∨ addressType = 5) ∧
      body.length = vipPayloadLength addressType ∧
      streamItems stream =
        [0x00, addressType] ++ body ++ streamItems rest := by
  unfold readAddressReply at read
  split at read
  · cases read
  · next tail middle readTail =>
      simp only at read
      split at read
      · cases read
      · next accepted =>
          split at read
          · cases read
          · next vipData after readBody =>
              split at read
              · cases read
              · next address found =>
                  cases read
                  obtain ⟨two, front⟩ := streamItems_of_readExact readTail
                  obtain ⟨length, between⟩ := streamItems_of_readExact readBody
                  obtain ⟨status, addressType, rfl⟩ :=
                    List.length_eq_two.mp two
                  rw [byteAt_cons_zero, not_not] at accepted
                  subst accepted
                  rw [byteAt_cons_succ, byteAt_cons_zero] at found length
                  unfold ipv4FromVipData at found
                  split at found
                  · next supported =>
                      refine ⟨addressType, vipData, supported.1, length, ?_⟩
                      rw [front, between, List.append_assoc]
                  · cases found

/-! ## The loop over the frames -/

theorem readResponses_methodAck {budget : Nat}
    (read : readExact 2 stream = (some [0x05, 0xd0], rest)) :
    readResponses captured (budget + 1) statusBodies stream =
      readResponses captured budget statusBodies rest := by
  simp only [readResponses, read, if_true]

theorem readResponses_status {budget : Nat}
    {middle : List (Chunk UInt8)}
    (read : readExact 2 stream = (some [0x53, 0x00], middle))
    (readBody : readStatusBody middle = (.ok body, rest)) :
    readResponses captured (budget + 1) statusBodies stream =
      readResponses captured budget (statusBodies ++ [body]) rest := by
  have notAck : ¬([0x53, 0x00] : Bytes) = [0x05, 0xd0] := by
    decide
  simp only [readResponses, read, if_neg notAck, byteAt_cons_zero,
    byteAt_cons_succ, if_true, ne_eq, not_true_eq_false, if_false, readBody]

theorem readResponses_address {budget : Nat}
    (read : readExact 2 stream = (some [0x05, 0x00], rest)) :
    readResponses captured (budget + 1) statusBodies stream =
      readAddressReply statusBodies rest := by
  have notAck : ¬([0x05, 0x00] : Bytes) = [0x05, 0xd0] := by
    decide
  have notStatus : ¬(0x05 : UInt8) = 0x53 := by
    decide
  simp only [readResponses, read, if_neg notAck, byteAt_cons_zero,
    if_neg notStatus, if_true]

/-- The control frames in front are passed over, and their bodies kept. -/
theorem readResponses_control {frames : List ControlFrame} {budget : Nat}
    (fits : ∀ frame ∈ frames, frame.Fits)
    (front : streamItems stream = controlBytes frames ++ later) :
    ∃ rest, streamItems rest = later ∧
      readResponses captured (frames.length + budget) statusBodies stream =
        readResponses captured budget
          (statusBodies ++ frames.filterMap ControlFrame.body) rest := by
  induction frames generalizing stream statusBodies with
  | nil =>
      refine ⟨stream, front, ?_⟩
      rw [List.length_nil, Nat.zero_add, List.filterMap_nil, List.append_nil]
  | cons frame frames inductionHypothesis =>
      have others : ∀ frame ∈ frames, frame.Fits := by
        intro frame listed
        exact fits frame (List.mem_cons_of_mem _ listed)
      have budgets :
          (frame :: frames).length + budget =
            frames.length + budget + 1 := by
        rw [List.length_cons]
        omega
      rw [controlBytes, List.flatMap_cons, List.append_assoc] at front
      rw [budgets]
      cases frame with
      | methodAck =>
          obtain ⟨middle, read, between⟩ := readExact_of_streamItems front
          obtain ⟨rest, after, continued⟩ :=
            @inductionHypothesis middle statusBodies others between
          refine ⟨rest, after, ?_⟩
          rw [readResponses_methodAck read, continued]
          rfl
      | status body =>
          have length := fits (.status body) List.mem_cons_self
          rw [ControlFrame.wire, List.append_assoc] at front
          obtain ⟨header, read, behind⟩ := readExact_of_streamItems front
          obtain ⟨middle, readBody, between⟩ :=
            readStatusBody_ok length behind
          obtain ⟨rest, after, continued⟩ :=
            @inductionHypothesis middle (statusBodies ++ [body]) others between
          refine ⟨rest, after, ?_⟩
          rw [readResponses_status read readBody, continued,
            List.append_assoc]
          rfl

/-- A successful exchange has read control frames and a reply. -/
theorem ok_of_readResponses {budget : Nat} {response : GetIpv4Response}
    (read :
      readResponses captured budget statusBodies stream =
        (.ok response, rest)) :
    ∃ (frames : List ControlFrame) (addressType : UInt8) (body : Bytes),
      frames.length < budget ∧ (∀ frame ∈ frames, frame.Fits) ∧
      (addressType = 1 ∨ addressType = 5) ∧
      body.length = vipPayloadLength addressType ∧
      streamItems stream =
        controlBytes frames ++ addressReply addressType body ++
          streamItems rest := by
  induction budget generalizing stream statusBodies with
  | zero =>
      rw [readResponses_zero] at read
      cases read
  | succ budget inductionHypothesis =>
      rw [readResponses] at read
      split at read
      · cases read
      · next header middle readHeader =>
          obtain ⟨two, front⟩ := streamItems_of_readExact readHeader
          split at read
          · next ack =>
              obtain ⟨frames, addressType, body, few, fits, supported,
                complete, between⟩ := inductionHypothesis read
              refine ⟨.methodAck :: frames, addressType, body,
                Nat.succ_lt_succ few, ?_, supported, complete, ?_⟩
              · intro frame listed
                rcases List.mem_cons.mp listed with rfl | listed
                · trivial
                · exact fits frame listed
              · rw [front, ack, between]
                simp only [controlBytes, List.flatMap_cons,
                  ControlFrame.wire, List.append_assoc]
          · split at read
            · next first =>
                split at read
                · cases read
                · next second =>
                    rw [not_not] at second
                    split at read
                    · cases read
                    · next body after readBody =>
                        obtain ⟨length, behind⟩ :=
                          ok_of_readStatusBody readBody
                        obtain ⟨frames, addressType, reply, few, fits,
                          supported, complete, between⟩ :=
                          inductionHypothesis read
                        obtain ⟨h0, h1, rfl⟩ := List.length_eq_two.mp two
                        rw [byteAt_cons_zero] at first
                        rw [byteAt_cons_succ, byteAt_cons_zero] at second
                        refine ⟨.status body :: frames, addressType, reply,
                          Nat.succ_lt_succ few, ?_, supported, complete, ?_⟩
                        · intro frame listed
                          rcases List.mem_cons.mp listed with rfl | listed
                          · exact length
                          · exact fits frame listed
                        · rw [front, first, second, behind, between]
                          simp only [controlBytes, List.flatMap_cons,
                            ControlFrame.wire, List.append_assoc]
            · split at read
              · next address =>
                  obtain ⟨addressType, body, supported, complete, between⟩ :=
                    ok_of_readAddressReply read
                  refine ⟨[], addressType, body, Nat.zero_lt_succ _, ?_,
                    supported, complete, ?_⟩
                  · intro frame listed
                    cases listed
                  · rw [front, address, between]
                    simp only [controlBytes, List.flatMap_nil, addressReply,
                      List.append_assoc, List.nil_append]
              · cases read

/-- The control frames and a reply with a complete body are consumed. -/
theorem readResponses_eq {frames : List ControlFrame} {budget : Nat}
    (few : frames.length < budget) (fits : ∀ frame ∈ frames, frame.Fits)
    (complete : body.length = vipPayloadLength addressType)
    (front :
      streamItems stream =
        controlBytes frames ++ addressReply addressType body ++ later) :
    ∃ rest, streamItems rest = later ∧
      readResponses captured budget [] stream =
        match ipv4FromVipData addressType body with
        | none => (.error (.unsupportedAddressType addressType), rest)
        | some address =>
            (.ok ⟨address, addressType, body,
              frames.filterMap ControlFrame.body⟩, rest) := by
  obtain ⟨more, budgets⟩ := Nat.exists_eq_add_of_lt few
  rw [List.append_assoc] at front
  obtain ⟨middle, between, control⟩ :=
    @readResponses_control stream _ [] captured frames (more + 1) fits front
  rw [addressReply, List.append_assoc] at between
  obtain ⟨header, read, behind⟩ := readExact_of_streamItems between
  obtain ⟨rest, after, reply⟩ :=
    @readAddressReply_eq header body later addressType
      (frames.filterMap ControlFrame.body) complete behind
  refine ⟨rest, after, ?_⟩
  rw [budgets, Nat.add_assoc, control, readResponses_address read,
    List.nil_append, reply]

theorem ipv4FromVipData_supported
    (supported : addressType = 1 ∨ addressType = 5)
    (complete : body.length = vipPayloadLength addressType) :
    ipv4FromVipData addressType body = some (addrAt body 0) := by
  rw [ipv4FromVipData, if_pos]
  refine ⟨supported, ?_⟩
  rw [complete]
  rcases supported with rfl | rfl <;> decide

end

/-- What `request_ipv4` writes. -/
def getIpRequest (json : Bytes) : Bytes :=
  [0x05, 0x01, 0xd0, 0x53, 0x00] ++ toBeU16 json.length ++ json ++
    [0x05, 0x04, 0x00, 0x01, 0, 0, 0, 0, 0, 0]

/-- `request_ipv4` succeeds exactly if the node's bytes start with at most seven
control frames and the reply with an IPv4 address.  It returns the address and
the bodies of the status frames, and it consumes these bytes and no more.  A
reply of a type without an IPv4 address is consumed as well before the error.
How the bytes are cut into chunks does not matter. -/
theorem request_ipv4_exact {sidJson : String → Bytes} {sid : String}
    (fits : (sidJson sid).length ≤ 65535) (captured : Bool)
    (stream : DuplexStream UInt8) :
    ((∃ response after,
          requestIpv4 sidJson captured stream sid = (.ok response, after)) ↔
        ∃ (frames : List ControlFrame) (addressType : UInt8) (body later : Bytes),
          frames.length ≤ 7 ∧ (∀ frame ∈ frames, frame.Fits) ∧
          (addressType = 1 ∨ addressType = 5) ∧
          body.length = vipPayloadLength addressType ∧
          streamItems stream.incoming =
            controlBytes frames ++ addressReply addressType body ++ later) ∧
      (∀ (frames : List ControlFrame) (addressType : UInt8) (body later : Bytes),
        frames.length ≤ 7 → (∀ frame ∈ frames, frame.Fits) →
        (addressType = 1 ∨ addressType = 5) →
        body.length = vipPayloadLength addressType →
        streamItems stream.incoming =
          controlBytes frames ++ addressReply addressType body ++ later →
        ∃ after,
          requestIpv4 sidJson captured stream sid =
            (.ok ⟨⟨byteAt body 0, byteAt body 1, byteAt body 2,
                byteAt body 3⟩, addressType, body,
              frames.filterMap ControlFrame.body⟩, after) ∧
          after.written = stream.written ++ getIpRequest (sidJson sid) ∧
          streamItems after.incoming = later) ∧
      ∀ (frames : List ControlFrame) (addressType : UInt8) (body later : Bytes),
        frames.length ≤ 7 → (∀ frame ∈ frames, frame.Fits) →
        addressType ≠ 1 → addressType ≠ 5 →
        body.length = vipPayloadLength addressType →
        streamItems stream.incoming =
          controlBytes frames ++ addressReply addressType body ++ later →
        ∃ after,
          requestIpv4 sidJson captured stream sid =
            (.error (.unsupportedAddressType addressType), after) ∧
          streamItems after.incoming = later := by
  have small : ¬65535 < (sidJson sid).length := Nat.not_lt.mpr fits
  have exchange :
      ∀ result rest,
        readResponses captured maxResponseFrames [] stream.incoming =
          (result, rest) →
        requestIpv4 sidJson captured stream sid =
          (result, ⟨rest, stream.written ++ getIpRequest (sidJson sid)⟩) := by
    intro result rest read
    simp only [requestIpv4, if_neg small, DuplexStream.writeAll, read,
      getIpRequest, List.append_assoc]
  refine ⟨⟨?_, ?_⟩, ?_, ?_⟩
  · intro succeeded
    obtain ⟨response, after, exchanged⟩ := succeeded
    cases read : readResponses captured maxResponseFrames []
        stream.incoming with
    | mk result rest =>
        rw [exchange result rest read] at exchanged
        cases exchanged
        obtain ⟨frames, addressType, body, few, allFit, supported, complete,
          front⟩ := ok_of_readResponses read
        exact ⟨frames, addressType, body, _, Nat.le_of_lt_succ few, allFit,
          supported, complete, front⟩
  · intro accepted
    obtain ⟨frames, addressType, body, later, few, allFit, supported,
      complete, front⟩ := accepted
    obtain ⟨rest, -, read⟩ :=
      @readResponses_eq _ _ _ _ captured _ _ (Nat.lt_succ_of_le few) allFit
        complete front
    rw [ipv4FromVipData_supported supported complete] at read
    exact ⟨_, _, exchange _ _ read⟩
  · intro frames addressType body later few allFit supported complete front
    obtain ⟨rest, after, read⟩ :=
      @readResponses_eq _ _ _ _ captured _ _ (Nat.lt_succ_of_le few) allFit
        complete front
    rw [ipv4FromVipData_supported supported complete] at read
    exact ⟨_, exchange _ _ read, rfl, after⟩
  · intro frames addressType body later few allFit notFour notBoth complete
      front
    obtain ⟨rest, after, read⟩ :=
      @readResponses_eq _ _ _ _ captured _ _ (Nat.lt_succ_of_le few) allFit
        complete front
    have unsupported : ipv4FromVipData addressType body = none := by
      rw [ipv4FromVipData, if_neg]
      intro supported
      exact supported.1.elim notFour notBoth
    rw [unsupported] at read
    exact ⟨_, exchange _ _ read, after⟩

/-- The JSON of the sid `s`, an ack, and an address in two chunks. -/
theorem request_ipv4_after_ack :
    ∃ after,
      requestIpv4
          (fun _ => [0x7b, 0x22, 0x73, 0x69, 0x64, 0x22, 0x3a, 0x22, 0x73,
            0x22, 0x7d])
          false
          ⟨[⟨0x05, [0xd0, 0x05]⟩,
            ⟨0x00, [0x00, 0x01, 10, 8, 0, 7, 0xde, 0xad, 0x05, 0x95]⟩], []⟩
          "s" =
        (.ok ⟨⟨10, 8, 0, 7⟩, 1, [10, 8, 0, 7, 0xde, 0xad], []⟩, after) ∧
      streamItems after.incoming = [0x05, 0x95] := by
  obtain ⟨after, exchanged, -, rest⟩ :=
    (@request_ipv4_exact
      (fun _ => [0x7b, 0x22, 0x73, 0x69, 0x64, 0x22, 0x3a, 0x22, 0x73, 0x22,
        0x7d]) "s" (by decide) false
      ⟨[⟨0x05, [0xd0, 0x05]⟩,
        ⟨0x00, [0x00, 0x01, 10, 8, 0, 7, 0xde, 0xad, 0x05, 0x95]⟩], []⟩).2.1
      [.methodAck] 1 [10, 8, 0, 7, 0xde, 0xad] [0x05, 0x95] (by decide)
      (fun _ listed => by
        cases List.mem_singleton.mp listed
        trivial)
      (.inl rfl) rfl rfl
  exact ⟨after, exchanged, rest⟩

end HermesAtrust.L3
