import HermesAtrust.Framing.StreamSplitter
import HermesAtrust.L3.FlowAuth
import HermesAtrust.Protocol.L3FrameDecoding

/-!
# Splitting the downstream L3 byte stream

Model of `next_frame` and of the buffer handling of `read_loop`.  After two
header bytes a frame has one of three shapes: a status byte and a length, a
length alone, or the dual-format data body.  A frame is recognized as soon as
its last byte has arrived and never before, so how the transport cuts the
stream into reads does not matter.
-/

namespace HermesAtrust.L3

open HermesAtrust.Framing HermesAtrust.Protocol

/-- `L3_SECOND_VIP_RESP`. -/
def l3SecondVipResp : UInt8 := 0x96

/-- `L3_VIP_UPDATE_RESP`. -/
def l3VipUpdateResp : UInt8 := 0x97

/-- `MAX_PENDING_READ`. -/
def maxPendingRead : Nat := 1024 * 1024

/-- First byte of a nested protocol message. -/
def protocolMessage : UInt8 := 0x53

inductive L3SessionError where
  | flowAlreadySubscribed
  | frame (error : L3FrameError)
  | flowAuth (error : FlowAuthError)
  | packet (error : PacketError)
  | authTimeout (flow : String)
  | closed
  | vipChanged (packetSource sessionVip : Ipv4Addr)
  | unexpectedVersion (byte : UInt8)
  | protocolRejected (status : UInt8)
  deriving DecidableEq, Repr

/-- One decoded downstream frame. -/
inductive Inbound where
  | auth (status : UInt8) (json : Bytes)
  | data (packets : DataRespPackets)
  | heartbeat
  | secondVip (status : UInt8) (json : Bytes)
  | vipUpdate (status : UInt8) (json : Bytes)
  | protocol (body : Bytes)
  | ignored (cmd : UInt8)
  deriving DecidableEq, Repr

/-- `<hdr> <u16 len> <payload>`: the length of a complete frame. -/
def lengthPrefixed (buf : Bytes) : Option Nat :=
  if buf.length < 4 then
    none
  else
    let total := 4 + beU16 (byteAt buf 2) (byteAt buf 3)
    if total ≤ buf.length then some total else none

/-- `05 <cmd> <status> <u16 len> <json>`. -/
def statusAndJson (buf : Bytes) : Option (UInt8 × Bytes × Nat) :=
  if buf.length < 5 then
    none
  else
    let total := 5 + beU16 (byteAt buf 3) (byteAt buf 4)
    if buf.length < total then
      none
    else
      some (byteAt buf 2, (buf.take total).drop 5, total)

/-- Frame with a length header, or a request for more bytes. -/
def splitLengthPrefixed (buf : Bytes) (build : Nat → Inbound) :
    SplitResult Inbound L3SessionError :=
  match lengthPrefixed buf with
  | none => .needMore
  | some total => .frame (build total) total

/-- Frame with a status byte and a length, or a request for more bytes. -/
def splitStatusAndJson (buf : Bytes) (build : UInt8 → Bytes → Inbound) :
    SplitResult Inbound L3SessionError :=
  match statusAndJson buf with
  | none => .needMore
  | some (status, json, total) => .frame (build status json) total

/-- Splits one frame off the front of the buffer. -/
def nextFrame (buf : Bytes) : SplitResult Inbound L3SessionError :=
  if buf.length < 2 then
    .needMore
  else if byteAt buf 0 = protocolMessage then
    if byteAt buf 1 ≠ 0 then
      .failed (.protocolRejected (byteAt buf 1))
    else
      splitLengthPrefixed buf fun total =>
        .protocol ((buf.take total).drop 4)
  else if byteAt buf 0 ≠ l3Version then
    .failed (.unexpectedVersion (byteAt buf 0))
  else if byteAt buf 1 = L3Cmd.authResp then
    splitStatusAndJson buf .auth
  else if byteAt buf 1 = l3SecondVipResp then
    splitStatusAndJson buf .secondVip
  else if byteAt buf 1 = l3VipUpdateResp then
    splitStatusAndJson buf .vipUpdate
  else if byteAt buf 1 = L3Cmd.heartbeatResp then
    splitLengthPrefixed buf fun _ => .heartbeat
  else if byteAt buf 1 = L3Cmd.dataResp then
    match decodeL3DataRespBody (buf.drop 2) with
    | .ok (packets, bodyLen) => .frame (.data packets) (2 + bodyLen)
    | .error (.truncated _ _) => .needMore
    | .error error => .failed (.frame error)
  else
    splitLengthPrefixed buf fun _ => .ignored (byteAt buf 1)

/-! ## Answers survive later bytes -/

theorem lengthPrefixed_append {buf : Bytes} {total : Nat} (rest : Bytes)
    (complete : lengthPrefixed buf = some total) :
    lengthPrefixed (buf ++ rest) = some total := by
  unfold lengthPrefixed at complete ⊢
  split at complete
  · cases complete
  · rename_i long
    simp only at complete
    split at complete
    · rename_i fits
      rw [List.length_append, if_neg (by omega),
        byteAt_append_left (by omega), byteAt_append_left (by omega)]
      simp only
      rw [if_pos (by omega)]
      exact complete
    · cases complete

theorem lengthPrefixed_bounds {buf : Bytes} {total : Nat}
    (complete : lengthPrefixed buf = some total) :
    4 ≤ total ∧ total ≤ buf.length := by
  unfold lengthPrefixed at complete
  split at complete
  · cases complete
  · simp only at complete
    split at complete
    · cases complete
      omega
    · cases complete

theorem statusAndJson_append {buf : Bytes}
    {answer : UInt8 × Bytes × Nat} (rest : Bytes)
    (complete : statusAndJson buf = some answer) :
    statusAndJson (buf ++ rest) = some answer := by
  unfold statusAndJson at complete ⊢
  split at complete
  · cases complete
  · rename_i long
    simp only at complete
    split at complete
    · cases complete
    · rename_i fits
      rw [List.length_append, if_neg (by omega),
        byteAt_append_left (by omega), byteAt_append_left (by omega),
        byteAt_append_left (by omega)]
      simp only
      rw [if_neg (by omega), List.take_append_of_le_length (by omega)]
      exact complete

theorem statusAndJson_bounds {buf : Bytes} {status : UInt8} {json : Bytes}
    {total : Nat} (complete : statusAndJson buf = some (status, json, total)) :
    5 ≤ total ∧ total ≤ buf.length := by
  unfold statusAndJson at complete
  split at complete
  · cases complete
  · simp only at complete
    split at complete
    · cases complete
    · cases complete
      omega

section

variable {buf : Bytes}

private theorem splitLengthPrefixed_append {build : Nat → Inbound}
    {build' : Nat → Inbound} (rest : Bytes)
    (agree : ∀ total, total ≤ buf.length → build' total = build total)
    (decided : splitLengthPrefixed buf build ≠ .needMore) :
    splitLengthPrefixed (buf ++ rest) build' =
      splitLengthPrefixed buf build := by
  unfold splitLengthPrefixed at decided ⊢
  cases complete : lengthPrefixed buf with
  | none => simp [complete] at decided
  | some total =>
      simp only [lengthPrefixed_append rest complete,
        agree total (lengthPrefixed_bounds complete).2]

private theorem splitLengthPrefixed_bounds {build : Nat → Inbound}
    {decoded : Inbound} {consumed : Nat}
    (accepted : splitLengthPrefixed buf build = .frame decoded consumed) :
    4 ≤ consumed ∧ consumed ≤ buf.length := by
  unfold splitLengthPrefixed at accepted
  cases complete : lengthPrefixed buf with
  | none => simp [complete] at accepted
  | some total =>
      simp only [complete] at accepted
      cases accepted
      exact lengthPrefixed_bounds complete

private theorem splitStatusAndJson_append {build : UInt8 → Bytes → Inbound}
    (rest : Bytes) (decided : splitStatusAndJson buf build ≠ .needMore) :
    splitStatusAndJson (buf ++ rest) build =
      splitStatusAndJson buf build := by
  unfold splitStatusAndJson at decided ⊢
  cases complete : statusAndJson buf with
  | none => simp [complete] at decided
  | some answer => rw [statusAndJson_append rest complete]

private theorem splitStatusAndJson_bounds {build : UInt8 → Bytes → Inbound}
    {decoded : Inbound} {consumed : Nat}
    (accepted : splitStatusAndJson buf build = .frame decoded consumed) :
    4 ≤ consumed ∧ consumed ≤ buf.length := by
  unfold splitStatusAndJson at accepted
  cases complete : statusAndJson buf with
  | none => simp [complete] at accepted
  | some answer =>
      obtain ⟨status, json, total⟩ := answer
      simp only [complete] at accepted
      cases accepted
      have bounds := statusAndJson_bounds complete
      omega

/-- A choice is final when both of its branches are. -/
private theorem ite_final {condition : Prop} [Decidable condition]
    {yes no yes' no' : SplitResult Inbound L3SessionError}
    (finalYes : yes ≠ .needMore → yes' = yes)
    (finalNo : no ≠ .needMore → no' = no)
    (decided : (if condition then yes else no) ≠ .needMore) :
    (if condition then yes' else no') = if condition then yes else no := by
  by_cases holds : condition
  · rw [if_pos holds] at decided
    rw [if_pos holds, if_pos holds, finalYes decided]
  · rw [if_neg holds] at decided
    rw [if_neg holds, if_neg holds, finalNo decided]

/-- An answer other than a request for more bytes is final. -/
theorem nextFrame_append (rest : Bytes)
    (decided : nextFrame buf ≠ .needMore) :
    nextFrame (buf ++ rest) = nextFrame buf := by
  unfold nextFrame at decided ⊢
  by_cases short : buf.length < 2
  · simp [short] at decided
  · rw [if_neg short] at decided
    rw [if_neg short, if_neg (by rw [List.length_append]; omega),
      byteAt_append_left (by omega), byteAt_append_left (by omega)]
    refine ite_final ?_ ?_ decided
    · refine ite_final (fun _ => rfl) ?_
      refine splitLengthPrefixed_append rest ?_
      intro total fits
      rw [List.take_append_of_le_length fits]
    · refine ite_final (fun _ => rfl) ?_
      refine ite_final (splitStatusAndJson_append rest) ?_
      refine ite_final (splitStatusAndJson_append rest) ?_
      refine ite_final (splitStatusAndJson_append rest) ?_
      refine ite_final
        (splitLengthPrefixed_append rest fun _ _ => rfl) ?_
      refine ite_final ?_
        (splitLengthPrefixed_append rest fun _ _ => rfl)
      intro dataDecided
      rw [List.drop_append_of_le_length (by omega)]
      cases body : decodeL3DataRespBody (buf.drop 2) with
      | ok answer => rw [decodeL3DataRespBody_append rest body]
      | error error =>
          obtain ⟨needed, got, rfl⟩ := decodeL3DataRespBody_error body
          simp [body] at dataDecided

/-- A frame takes at least four bytes and at most the buffer. -/
theorem nextFrame_bounds {decoded : Inbound} {consumed : Nat}
    (accepted : nextFrame buf = .frame decoded consumed) :
    4 ≤ consumed ∧ consumed ≤ buf.length := by
  unfold nextFrame at accepted
  split at accepted
  · cases accepted
  · rename_i long
    split at accepted
    · split at accepted
      · cases accepted
      · exact splitLengthPrefixed_bounds accepted
    · split at accepted
      · cases accepted
      · split at accepted
        · exact splitStatusAndJson_bounds accepted
        · split at accepted
          · exact splitStatusAndJson_bounds accepted
          · split at accepted
            · exact splitStatusAndJson_bounds accepted
            · split at accepted
              · exact splitLengthPrefixed_bounds accepted
              · split at accepted
                · cases body : decodeL3DataRespBody (buf.drop 2) with
                  | ok answer =>
                      obtain ⟨packets, bodyLen⟩ := answer
                      rw [body] at accepted
                      cases accepted
                      have bounds := decodeL3DataRespBody_bounds body
                      rw [List.length_drop] at bounds
                      omega
                  | error error =>
                      obtain ⟨needed, got, rfl⟩ :=
                        decodeL3DataRespBody_error body
                      simp [body] at accepted
                · exact splitLengthPrefixed_bounds accepted

end

/-- The splitter of the read loop meets the rules of `StableSplitter`. -/
theorem stableSplitter_nextFrame : StableSplitter nextFrame where
  consumed_pos accepted := by
    have bounds := nextFrame_bounds accepted
    omega
  consumed_le accepted := (nextFrame_bounds accepted).2
  frame_append rest accepted := by
    rw [nextFrame_append rest (by simp [accepted]), accepted]
  failed_append rest refused := by
    rw [nextFrame_append rest (by simp [refused]), refused]

/-- Two cuts of one downstream stream into reads are dispatched alike: the
handler sees the same frames with the same lengths, the loop ends for the same
cause and the same bytes stay undecoded.  Underneath, every answer of
`nextFrame` is final, a frame takes between four bytes and the whole buffer,
and no drain loop runs forever. -/
theorem readLoop_nextFrame_independent_of_chunks :
    (∀ (σ R : Type) (handle : σ → Inbound → Nat → σ × Option R) (state : σ)
        (chunks chunks' : List Bytes),
      chunks.flatten = chunks'.flatten →
      (∀ chunk ∈ chunks, chunk ≠ []) → (∀ chunk ∈ chunks', chunk ≠ []) →
      (readLoop nextFrame handle maxPendingRead state [] chunks).ending ≠
        .overflow →
      (readLoop nextFrame handle maxPendingRead state [] chunks').ending ≠
        .overflow →
      let read := readLoop nextFrame handle maxPendingRead state [] chunks
      let read' := readLoop nextFrame handle maxPendingRead state [] chunks'
      read.state = read'.state ∧ read.ending = read'.ending ∧
        read.pending ++ read.unread.flatten =
          read'.pending ++ read'.unread.flatten ∧
        (read.ending = .awaiting → read.pending = read'.pending)) ∧
    (∀ buf rest : Bytes, nextFrame buf ≠ .needMore →
      nextFrame (buf ++ rest) = nextFrame buf) ∧
    (∀ (buf : Bytes) (decoded : Inbound) (consumed : Nat),
      nextFrame buf = .frame decoded consumed →
      4 ≤ consumed ∧ consumed ≤ buf.length) ∧
    (∀ (σ R : Type) (handle : σ → Inbound → Nat → σ × Option R) (state : σ)
        (buf : Bytes),
      (drain nextFrame handle state buf).ending ≠ .outOfFuel) := by
  refine ⟨?_, ?_, ?_, ?_⟩
  · intro σ R handle state chunks chunks' same nonempty nonempty' fits fits'
    exact readLoop_chunks_congr stableSplitter_nextFrame state same nonempty
      nonempty' fits fits'
  · intro buf rest decided
    exact nextFrame_append rest decided
  · intro buf decoded consumed accepted
    exact nextFrame_bounds accepted
  · intro σ R handle state buf
    exact drain_ending_ne_outOfFuel stableSplitter_nextFrame state buf

theorem readLoop_nextFrame_heartbeat_in_two_reads :
    (readLoop (R := Unit) nextFrame collect maxPendingRead [] []
        [[0x05, 0x95, 0x00], [0x00, 0x53]]).state =
      (readLoop (R := Unit) nextFrame collect maxPendingRead [] []
        [[0x05], [0x95, 0x00, 0x00, 0x53]]).state ∧
    nextFrame [0x05, 0x95, 0x00, 0x00, 0x53] = .frame .heartbeat 4 :=
  ⟨(readLoop_nextFrame_independent_of_chunks.1 _ _ _ _ _ _ (by decide)
    (by decide) (by decide) (by decide +kernel) (by decide +kernel)).1,
    by decide⟩

/-! ## Round trip over whole streams -/

/-- A downstream frame that its header can announce. -/
inductive WireFrame where
  | auth (status : UInt8) (body : Bytes) (fits : body.length ≤ 65535)
  | secondVip (status : UInt8) (body : Bytes) (fits : body.length ≤ 65535)
  | vipUpdate (status : UInt8) (body : Bytes) (fits : body.length ≤ 65535)
  | plain (cmd : UInt8) (payload : Bytes)
      (generic :
        cmd ≠ L3Cmd.authResp ∧ cmd ≠ L3Cmd.dataResp ∧
          cmd ≠ l3SecondVipResp ∧ cmd ≠ l3VipUpdateResp)
      (fits : payload.length ≤ 65535)
  | protocol (body : Bytes) (fits : body.length ≤ 65535)
  | data (packet : Bytes) (nonempty : packet ≠ [])
      (fits : packet.length ≤ 65535) (delimited : SelfDelimiting packet)

namespace WireFrame

/-- Bytes of the frame on the wire. -/
def encode : WireFrame → Bytes
  | auth status body _ =>
      [l3Version, L3Cmd.authResp, status] ++ encodePacket body
  | secondVip status body _ =>
      [l3Version, l3SecondVipResp, status] ++ encodePacket body
  | vipUpdate status body _ =>
      [l3Version, l3VipUpdateResp, status] ++ encodePacket body
  | plain cmd payload _ _ => [l3Version, cmd] ++ encodePacket payload
  | protocol body _ => [protocolMessage, 0x00] ++ encodePacket body
  | data packet _ _ _ => [l3Version, L3Cmd.dataResp] ++ encodePacket packet

/-- What the reader dispatches for the frame. -/
def inbound : WireFrame → Inbound
  | auth status body _ => .auth status body
  | secondVip status body _ => .secondVip status body
  | vipUpdate status body _ => .vipUpdate status body
  | plain cmd _ _ _ =>
      if cmd = L3Cmd.heartbeatResp then .heartbeat else .ignored cmd
  | protocol body _ => .protocol body
  | data packet _ _ _ => .data (.lengthPrefixed packet)

end WireFrame

theorem lengthPrefixed_encode (first second : UInt8) {payload : Bytes}
    (fits : payload.length ≤ 65535) (rest : Bytes) :
    lengthPrefixed ([first, second] ++ encodePacket payload ++ rest) =
      some (4 + payload.length) := by
  have field :
      beU16 (UInt8.ofNat (payload.length / 256))
          (UInt8.ofNat payload.length) = payload.length :=
    beU16_toBeU16 (by omega)
  unfold lengthPrefixed
  simp only [encodePacket, toBeU16, List.cons_append, List.nil_append,
    byteAt_cons_succ, byteAt_cons_zero, field, List.length_cons,
    List.length_append]
  rw [if_neg (by omega), if_pos (by omega)]

theorem statusAndJson_encode (first second status : UInt8) {body : Bytes}
    (fits : body.length ≤ 65535) (rest : Bytes) :
    statusAndJson ([first, second, status] ++ encodePacket body ++ rest) =
      some (status, body, 5 + body.length) := by
  have field :
      beU16 (UInt8.ofNat (body.length / 256))
          (UInt8.ofNat body.length) = body.length :=
    beU16_toBeU16 (by omega)
  unfold statusAndJson
  simp only [encodePacket, toBeU16, List.cons_append, List.nil_append,
    byteAt_cons_succ, byteAt_cons_zero, field, List.length_cons,
    List.length_append]
  rw [if_neg (by omega), if_neg (by omega),
    show 5 + body.length = body.length + 5 by omega]
  simp

private theorem splitStatusAndJson_encode (first second status : UInt8)
    {body : Bytes} (fits : body.length ≤ 65535) (rest : Bytes)
    (build : UInt8 → Bytes → Inbound) :
    splitStatusAndJson ([first, second, status] ++ encodePacket body ++ rest)
        build =
      .frame (build status body)
        ([first, second, status] ++ encodePacket body).length := by
  unfold splitStatusAndJson
  rw [statusAndJson_encode first second status fits rest]
  simp [encodePacket]
  omega

private theorem splitLengthPrefixed_encode (first second : UInt8)
    {payload : Bytes} (fits : payload.length ≤ 65535) (rest : Bytes)
    (build : Nat → Inbound) :
    splitLengthPrefixed ([first, second] ++ encodePacket payload ++ rest)
        build =
      .frame (build (4 + payload.length))
        ([first, second] ++ encodePacket payload).length := by
  unfold splitLengthPrefixed
  rw [lengthPrefixed_encode first second fits rest]
  simp [encodePacket]
  omega

/-- The choice that `next_frame` makes once two bytes are there. -/
private theorem nextFrame_cons_cons (first second : UInt8) (tail : Bytes) :
    nextFrame (first :: second :: tail) =
      let buf := first :: second :: tail
      if first = protocolMessage then
        if second ≠ 0 then
          .failed (.protocolRejected second)
        else
          splitLengthPrefixed buf fun total =>
            .protocol ((buf.take total).drop 4)
      else if first ≠ l3Version then
        .failed (.unexpectedVersion first)
      else if second = L3Cmd.authResp then
        splitStatusAndJson buf .auth
      else if second = l3SecondVipResp then
        splitStatusAndJson buf .secondVip
      else if second = l3VipUpdateResp then
        splitStatusAndJson buf .vipUpdate
      else if second = L3Cmd.heartbeatResp then
        splitLengthPrefixed buf fun _ => .heartbeat
      else if second = L3Cmd.dataResp then
        match decodeL3DataRespBody tail with
        | .ok (packets, bodyLen) => .frame (.data packets) (2 + bodyLen)
        | .error (.truncated _ _) => .needMore
        | .error error => .failed (.frame error)
      else
        splitLengthPrefixed buf fun _ => .ignored second := by
  unfold nextFrame
  rw [if_neg (by simp)]
  rfl

/-- Each frame is found at the front of its encoding, whatever follows. -/
theorem nextFrame_encode (frame : WireFrame) (rest : Bytes) :
    nextFrame (frame.encode ++ rest) =
      .frame frame.inbound frame.encode.length := by
  have versions : l3Version ≠ protocolMessage := by decide
  have distinct :
      l3SecondVipResp ≠ L3Cmd.authResp ∧ l3VipUpdateResp ≠ L3Cmd.authResp ∧
        l3VipUpdateResp ≠ l3SecondVipResp ∧
        L3Cmd.dataResp ≠ L3Cmd.authResp ∧
        L3Cmd.dataResp ≠ l3SecondVipResp ∧
        L3Cmd.dataResp ≠ l3VipUpdateResp ∧
        L3Cmd.dataResp ≠ L3Cmd.heartbeatResp ∧
        L3Cmd.heartbeatResp ≠ L3Cmd.authResp ∧
        L3Cmd.heartbeatResp ≠ l3SecondVipResp ∧
        L3Cmd.heartbeatResp ≠ l3VipUpdateResp := by
    decide
  cases frame with
  | auth status body fits =>
      have found :=
        splitStatusAndJson_encode l3Version L3Cmd.authResp status fits rest
          .auth
      simpa [nextFrame_cons_cons, WireFrame.encode, WireFrame.inbound, versions]
        using found
  | secondVip status body fits =>
      have found :=
        splitStatusAndJson_encode l3Version l3SecondVipResp status fits rest
          .secondVip
      simpa [nextFrame_cons_cons, WireFrame.encode, WireFrame.inbound, versions,
        distinct] using found
  | vipUpdate status body fits =>
      have found :=
        splitStatusAndJson_encode l3Version l3VipUpdateResp status fits rest
          .vipUpdate
      simpa [nextFrame_cons_cons, WireFrame.encode, WireFrame.inbound, versions,
        distinct] using found
  | plain cmd payload generic fits =>
      obtain ⟨notAuth, notData, notSecond, notUpdate⟩ := generic
      by_cases heartbeat : cmd = L3Cmd.heartbeatResp
      · have found :=
          splitLengthPrefixed_encode l3Version cmd fits rest
            fun _ => .heartbeat
        simpa [nextFrame_cons_cons, WireFrame.encode, WireFrame.inbound, versions,
          distinct, heartbeat] using found
      · have found :=
          splitLengthPrefixed_encode l3Version cmd fits rest
            fun _ => .ignored cmd
        simpa [nextFrame_cons_cons, WireFrame.encode, WireFrame.inbound, versions,
          notAuth, notData, notSecond, notUpdate, heartbeat] using found
  | protocol body fits =>
      have slice :
          (([protocolMessage, 0x00] ++ encodePacket body ++ rest).take
            (4 + body.length)).drop 4 = body := by
        rw [show 4 + body.length = body.length + 4 by omega]
        simp [encodePacket, toBeU16]
      have found :=
        splitLengthPrefixed_encode protocolMessage 0x00 fits rest
          fun total =>
            .protocol ((([protocolMessage, 0x00] ++ encodePacket body ++
              rest).take total).drop 4)
      rw [slice] at found
      simpa [nextFrame_cons_cons, WireFrame.encode, WireFrame.inbound]
        using found
  | data packet nonempty fits delimited =>
      have found :=
        (decodeL3DataRespBody_encodePacket_iff rest nonempty fits).mpr
          delimited
      simp [nextFrame_cons_cons, WireFrame.encode, WireFrame.inbound, versions,
        distinct, found]
      simp [encodePacket]
      omega

/-- The frame of an accepted packet is its header and its length-prefixed
body. -/
private theorem eq_of_encodeL3DataRespLengthPrefixed {packet frame : Bytes}
    (encoded : encodeL3DataRespLengthPrefixed packet = .ok frame) :
    packet ≠ [] ∧ packet.length ≤ 65535 ∧
      frame = l3Version :: L3Cmd.dataResp :: encodePacket packet := by
  unfold encodeL3DataRespLengthPrefixed at encoded
  split at encoded
  · cases encoded
  · rename_i nonempty
    split at encoded
    · cases encoded
    · cases encoded
      exact ⟨nonempty, by omega, rfl⟩

private theorem exists_decode_encodePacket_iff {packet : Bytes}
    (nonempty : packet ≠ []) (fits : packet.length ≤ 65535) :
    (∃ consumed, decodeL3DataRespBody (encodePacket packet) =
        .ok (.lengthPrefixed packet, consumed)) ↔ SelfDelimiting packet := by
  have whole := decodeL3DataRespBody_encodePacket_iff [] nonempty fits
  rw [List.append_nil] at whole
  constructor
  · rintro ⟨consumed, accepted⟩
    have length := decodeL3DataRespBody_lengthPrefixed accepted
    subst consumed
    exact whole.mp accepted
  · intro delimited
    exact ⟨_, whole.mpr delimited⟩

private theorem exists_nextFrame_data_iff {packet : Bytes} (tail : Bytes) :
    (∃ consumed, nextFrame (l3Version :: L3Cmd.dataResp :: tail) =
        .frame (.data (.lengthPrefixed packet)) consumed) ↔
      ∃ consumed, decodeL3DataRespBody tail =
        .ok (.lengthPrefixed packet, consumed) := by
  have branch :
      nextFrame (l3Version :: L3Cmd.dataResp :: tail) =
        match decodeL3DataRespBody tail with
        | .ok (packets, bodyLen) => .frame (.data packets) (2 + bodyLen)
        | .error (.truncated _ _) => .needMore
        | .error error => .failed (.frame error) :=
    nextFrame_cons_cons _ _ _
  rw [branch]
  cases body : decodeL3DataRespBody tail with
  | ok answer =>
      obtain ⟨packets, bodyLen⟩ := answer
      simp
  | error error =>
      obtain ⟨needed, got, rfl⟩ := decodeL3DataRespBody_error body
      simp

private theorem exists_decodeL3DataRespFrame_iff {packet : Bytes}
    (tail : Bytes) :
    (∃ consumed, decodeL3DataRespFrame
        (l3Version :: L3Cmd.dataResp :: tail) =
        .ok (.lengthPrefixed packet, consumed)) ↔
      ∃ consumed, decodeL3DataRespBody tail =
        .ok (.lengthPrefixed packet, consumed) := by
  have long : ¬ (l3Version :: L3Cmd.dataResp :: tail).length < 2 := by
    simp only [List.length_cons]
    omega
  have header :
      ¬ (byteAt (l3Version :: L3Cmd.dataResp :: tail) 0 ≠ l3Version ∨
        byteAt (l3Version :: L3Cmd.dataResp :: tail) 1 ≠
          L3Cmd.dataResp) := by
    simp [byteAt]
  unfold decodeL3DataRespFrame
  rw [if_neg long, if_neg header, List.drop_succ_cons, List.drop_succ_cons,
    List.drop_zero]
  cases body : decodeL3DataRespBody tail with
  | ok answer =>
      obtain ⟨packets, bodyLen⟩ := answer
      simp
  | error error => simp

/-- Decoding a concatenation of downstream frames gives the frames back with
their lengths and leaves nothing over; and the frame of a length-prefixed
packet gives the packet back exactly when the packet is self-delimiting. -/
theorem drain_nextFrame_wireFrames :
    (∀ frames : List WireFrame,
      drain (R := Unit) nextFrame collect [] (frames.flatMap WireFrame.encode) =
        ⟨frames.map fun frame => (frame.inbound, frame.encode.length), [],
          .needMore⟩) ∧
    (∀ packet frame : Bytes,
      encodeL3DataRespLengthPrefixed packet = .ok frame →
      ((∃ consumed, nextFrame frame =
          .frame (.data (.lengthPrefixed packet)) consumed) ↔
        SelfDelimiting packet) ∧
      ((∃ consumed, decodeL3DataRespFrame frame =
          .ok (.lengthPrefixed packet, consumed)) ↔
        SelfDelimiting packet)) := by
  constructor
  · intro frames
    have decoded :=
      drain_encodings (R := Unit) stableSplitter_nextFrame WireFrame.encode
        WireFrame.inbound frames
        (fun frame _ rest => nextFrame_encode frame rest) rfl []
    simpa using decoded
  · intro packet frame encoded
    obtain ⟨nonempty, fits, rfl⟩ :=
      eq_of_encodeL3DataRespLengthPrefixed encoded
    have bodies := exists_decode_encodePacket_iff nonempty fits
    exact ⟨(exists_nextFrame_data_iff _).trans bodies,
      (exists_decodeL3DataRespFrame_iff _).trans bodies⟩

theorem drain_nextFrame_wireFrames_ipv4 :
    (∃ consumed, nextFrame [0x05, 0x94, 0x00, 0x02, 0x45, 0x00] =
        .frame (.data (.lengthPrefixed [0x45, 0x00])) consumed) ∧
      encodeL3DataRespLengthPrefixed [0x45, 0x00] =
        .ok [0x05, 0x94, 0x00, 0x02, 0x45, 0x00] :=
  ⟨(drain_nextFrame_wireFrames.2 _ _ (by decide)).1.mpr (by decide),
    by decide⟩

end HermesAtrust.L3
