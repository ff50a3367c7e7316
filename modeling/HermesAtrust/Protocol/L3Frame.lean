import HermesAtrust.Framing.ByteOrder

/-!
# L3 tunnel binary frames

Codec of `l3_frame.rs`.  After the command header `05 94` the body of a data
response has one of two layouts:

* a big-endian `n` with `0 < n ≤ 4096` announces one length-prefixed packet;
* a larger `n` announces one too when the bytes behind it start an IPv4 or
  IPv6 packet whose own length field equals `n`;
* every other body is token-framed, with the layout of a data request.

Slices are byte lists and a slice index is the source's `usize` cursor.
-/

namespace HermesAtrust.Protocol

open HermesAtrust.Framing

/-- `L3_VERSION`. -/
def l3Version : UInt8 := 0x05

namespace L3Cmd

def authReq : UInt8 := 0x13
def authResp : UInt8 := 0x93
def dataReq : UInt8 := 0x14
def dataResp : UInt8 := 0x94
def heartbeatResp : UInt8 := 0x95

end L3Cmd

/-- `MAX_LENGTH_PREFIXED_DATA_RESP`. -/
def maxLengthPrefixedDataResp : Nat := 4096

inductive L3FrameError where
  | tokenTooLong (length : Nat)
  | tooManyPackets (count : Nat)
  | packetTooLarge (length : Nat)
  | jsonTooLarge (length : Nat)
  | emptyLengthPrefixedPacket
  | truncated (needed got : Nat)
  | unexpectedHeader (first second : UInt8)
  deriving DecidableEq, Repr

/-- Which body layout follows `05 94`. -/
inductive DataRespLayout where
  | lengthPrefixed (packetLen : Nat)
  | tokenFramed
  deriving DecidableEq, Repr

/-- Decoded IP packets from one `0x94` body. -/
inductive DataRespPackets where
  | lengthPrefixed (packet : Bytes)
  | tokenFramed (packets : List Bytes)
  deriving DecidableEq, Repr

def classifyDataRespPrefix (first second : UInt8) : DataRespLayout :=
  let n := beU16 first second
  if 0 < n ∧ n ≤ maxLengthPrefixedDataResp then
    .lengthPrefixed n
  else
    .tokenFramed

inductive LargePacketCheck where
  | needMore (needed : Nat)
  | valid
  | notIp
  deriving DecidableEq, Repr

/-- The look-alike test made when the leading length exceeds `4096`. -/
def largeLengthPrefixedPacket (body : Bytes) (packetLen : Nat) :
    LargePacketCheck :=
  match (body[2]? : Option UInt8) with
  | none => .needMore 3
  | some byte =>
      if byte >>> 4 = 4 ∧ 20 ≤ packetLen then
        if body.length < 6 then
          .needMore 6
        else
          let ihl := (byte &&& 0x0f).toNat * 4
          if 20 ≤ ihl ∧ ihl ≤ packetLen ∧
              beU16 (byteAt body 4) (byteAt body 5) = packetLen then
            .valid
          else
            .notIp
      else if byte >>> 4 = 6 ∧ 40 ≤ packetLen then
        if body.length < 8 then
          .needMore 8
        else if beU16 (byteAt body 6) (byteAt body 7) + 40 = packetLen then
          .valid
        else
          .notIp
      else
        .notIp

def encodeL3AuthReq (json : Bytes) : Except L3FrameError Bytes :=
  if 65535 < json.length then
    .error (.jsonTooLarge json.length)
  else
    .ok ([l3Version, L3Cmd.authReq] ++ toBeU16 json.length ++ json)

/-- One packet of a token-framed body: its length field, then its bytes. -/
def encodePacket (packet : Bytes) : Bytes :=
  toBeU16 packet.length ++ packet

/-- `tokenLen | token | 00 00 | count | [u16 len][packet]...`. -/
def tokenDataBody (token : Bytes) (packets : List Bytes) : Bytes :=
  UInt8.ofNat token.length :: token ++
    [0x00, 0x00, UInt8.ofNat packets.length] ++ packets.flatMap encodePacket

/-- The size checks run over the packets in order, so the first packet that
does not fit is the one reported. -/
def encodeL3DataReq (token : Bytes) (packets : List Bytes) :
    Except L3FrameError Bytes :=
  if 255 < token.length then
    .error (.tokenTooLong token.length)
  else if 255 < packets.length then
    .error (.tooManyPackets packets.length)
  else
    match packets.find? fun packet => 65535 < packet.length with
    | some packet => .error (.packetTooLarge packet.length)
    | none => .ok ([l3Version, L3Cmd.dataReq] ++ tokenDataBody token packets)

def encodeL3DataRespLengthPrefixed (packet : Bytes) :
    Except L3FrameError Bytes :=
  if packet = [] then
    .error .emptyLengthPrefixedPacket
  else if 65535 < packet.length then
    .error (.packetTooLarge packet.length)
  else
    .ok ([l3Version, L3Cmd.dataResp] ++ encodePacket packet)

/-- The packet loop of `parse_l3_token_data_body`: `count` turns from cursor
`idx`. -/
def parsePackets (body : Bytes) :
    (count idx : Nat) → Except L3FrameError (List Bytes)
  | 0, _ => .ok []
  | count + 1, idx =>
      if body.length < idx + 2 then
        .error (.truncated (idx + 2) body.length)
      else
        let plen := beU16 (byteAt body idx) (byteAt body (idx + 1))
        if body.length < idx + 2 + plen then
          .error (.truncated (idx + 2 + plen) body.length)
        else
          match parsePackets body count (idx + 2 + plen) with
          | .ok packets => .ok ((body.drop (idx + 2)).take plen :: packets)
          | .error error => .error error

def parseL3TokenDataBody (body : Bytes) : Except L3FrameError (List Bytes) :=
  if body.length < 4 then
    .error (.truncated 4 body.length)
  else
    let idx := 1 + (byteAt body 0).toNat
    if body.length < idx + 3 then
      .error (.truncated (idx + 3) body.length)
    else
      parsePackets body (byteAt body (idx + 2)).toNat (idx + 3)

/-- The cursor loop of `token_body_len`. -/
def skipPackets (body : Bytes) :
    (count idx : Nat) → Except L3FrameError Nat
  | 0, idx => .ok idx
  | count + 1, idx =>
      if body.length < idx + 2 then
        .error (.truncated (idx + 2) body.length)
      else
        let plen := beU16 (byteAt body idx) (byteAt body (idx + 1))
        if body.length < idx + 2 + plen then
          .error (.truncated (idx + 2 + plen) body.length)
        else
          skipPackets body count (idx + 2 + plen)

/-- Bytes consumed while parsing a token-framed body from a stream buffer. -/
def tokenBodyLen (body : Bytes) : Except L3FrameError Nat :=
  if body = [] then
    .error (.truncated 1 0)
  else
    let idx := 1 + (byteAt body 0).toNat
    if body.length < idx + 3 then
      .error (.truncated (idx + 3) body.length)
    else
      skipPackets body (byteAt body (idx + 2)).toNat (idx + 3)

/-- Layout chosen for a body of at least two bytes. -/
def dataRespLayout (body : Bytes) : Except L3FrameError DataRespLayout :=
  let packetLen := beU16 (byteAt body 0) (byteAt body 1)
  match classifyDataRespPrefix (byteAt body 0) (byteAt body 1) with
  | .tokenFramed =>
      if maxLengthPrefixedDataResp < packetLen then
        match largeLengthPrefixedPacket body packetLen with
        | .needMore needed => .error (.truncated needed body.length)
        | .valid => .ok (.lengthPrefixed packetLen)
        | .notIp => .ok .tokenFramed
      else
        .ok .tokenFramed
  | layout => .ok layout

/-- Decodes the body after `05 94` and counts the bytes it occupies. -/
def decodeL3DataRespBody (body : Bytes) :
    Except L3FrameError (DataRespPackets × Nat) :=
  if body.length < 2 then
    .error (.truncated 2 body.length)
  else
    match dataRespLayout body with
    | .error error => .error error
    | .ok (.lengthPrefixed packetLen) =>
        let need := 2 + packetLen
        if body.length < need then
          .error (.truncated need body.length)
        else
          .ok (.lengthPrefixed ((body.drop 2).take packetLen), need)
    | .ok .tokenFramed =>
        match tokenBodyLen body with
        | .error error => .error error
        | .ok consumed =>
            match parseL3TokenDataBody (body.take consumed) with
            | .error error => .error error
            | .ok packets => .ok (.tokenFramed packets, consumed)

/-- Decodes a full `05 94 ...` frame starting at the version byte. -/
def decodeL3DataRespFrame (frame : Bytes) :
    Except L3FrameError (DataRespPackets × Nat) :=
  if frame.length < 2 then
    .error (.truncated 2 frame.length)
  else if byteAt frame 0 ≠ l3Version ∨ byteAt frame 1 ≠ L3Cmd.dataResp then
    .error (.unexpectedHeader (byteAt frame 0) (byteAt frame 1))
  else
    match decodeL3DataRespBody (frame.drop 2) with
    | .error error => .error error
    | .ok (packets, bodyLen) => .ok (packets, 2 + bodyLen)

end HermesAtrust.Protocol
