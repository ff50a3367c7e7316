import HermesAtrust.Framing.ByteOrder

/-!
# Frames of the TCP tunnel

Model of `tcp_frame.rs` as far as the data phase of a tunnel uses it.  Every
frame starts with two header octets.  Application data carries a sixteen-bit
length and a payload; the probe is the data frame of length zero, and the
close frame is a fixed word of four octets.

The body of a status frame is either the two letters `OK` or a JSON object.
The JSON deserializer belongs to another library and is a parameter here: it
returns the `code` and `message` of a body it accepts.
-/

namespace HermesAtrust.Protocol

open HermesAtrust.Framing

inductive TcpFrameError where
  | payloadTooLarge (length max : Nat)
  | emptyDomain
  | domainTooLong (length : Nat)
  | truncated (needed got : Nat)
  | unexpectedStatusHeader (first second : UInt8)
  deriving DecidableEq, Repr

/-- `encode_tcp_app_data`: `01 00 <u16-be len> <payload>`. -/
def encodeTcpAppData (payload : Bytes) : Except TcpFrameError Bytes :=
  if payload.length ≤ 65535 then
    .ok ([0x01, 0x00] ++ toBeU16 payload.length ++ payload)
  else
    .error (.payloadTooLarge payload.length 65535)

/-- `encode_tcp_close`. -/
def encodeTcpClose : Bytes :=
  [0x01, 0x01, 0x00, 0x00]

/-- `encode_tcp_probe`. -/
def encodeTcpProbe : Bytes :=
  [0x01, 0x00, 0x00, 0x00]

/-! ## Status bodies -/

/-- The fields of `StatusBody`. -/
structure StatusBody where
  code : Int
  message : String
  deriving DecidableEq, Repr

/-- The ASCII octets of `OK`. -/
def okBody : Bytes :=
  [0x4f, 0x4b]

/-- `is_status_ok`. -/
def isStatusOk (fromSlice : Bytes → Option StatusBody) (payload : Bytes) :
    Bool :=
  if payload = okBody then
    true
  else
    match fromSlice payload with
    | none => false
    | some body => body.code = 0 && body.message = "OK"

/-- `parse_status_payload`. -/
def parseStatusPayload (input : Bytes) : Except TcpFrameError Bytes :=
  if input.length < 4 then
    .error (.truncated 4 input.length)
  else if byteAt input 0 ≠ 0x53 ∨ byteAt input 1 ≠ 0x00 then
    .error (.unexpectedStatusHeader (byteAt input 0) (byteAt input 1))
  else
    let finish := 4 + beU16 (byteAt input 2) (byteAt input 3)
    if input.length < finish then
      .error (.truncated finish input.length)
    else
      .ok ((input.take finish).drop 4)

/-! ## Text of a rejected body -/

/-- Whether an octet continues a multi-octet scalar value. -/
def isContinuation (byte : UInt8) : Bool :=
  0x80 ≤ byte && byte ≤ 0xbf

/-- Whether the second octet of a three-octet scalar value may follow its
first: no overlong form and no surrogate. -/
def secondOfThree (first second : UInt8) : Bool :=
  if first = 0xe0 then 0xa0 ≤ second && second ≤ 0xbf
  else if first = 0xed then 0x80 ≤ second && second ≤ 0x9f
  else isContinuation second

/-- Whether the second octet of a four-octet scalar value may follow its
first: no overlong form and nothing past the last scalar value. -/
def secondOfFour (first second : UInt8) : Bool :=
  if first = 0xf0 then 0x90 ≤ second && second ≤ 0xbf
  else if first = 0xf4 then 0x80 ≤ second && second ≤ 0x8f
  else isContinuation second

/-- Six payload bits of a continuation octet. -/
def continuationBits (byte : UInt8) : Nat :=
  byte.toNat % 64

/-- The character that an octet starts together with the number of octets
after it that belong to it.  A malformed sequence is replaced as far as it
could have been the start of a well-formed one. -/
def lossyChar (first : UInt8) (rest : Bytes) : Char × Nat :=
  let second := byteAt rest 0
  let third := byteAt rest 1
  let fourth := byteAt rest 2
  let replacement := Char.ofNat 0xfffd
  if first < 0x80 then
    (Char.ofNat first.toNat, 0)
  else if 0xc2 ≤ first && first ≤ 0xdf then
    if isContinuation second then
      (Char.ofNat (first.toNat % 32 * 64 + continuationBits second), 1)
    else (replacement, 0)
  else if 0xe0 ≤ first && first ≤ 0xef then
    if secondOfThree first second then
      if isContinuation third then
        (Char.ofNat
          (first.toNat % 16 * 4096 + continuationBits second * 64 +
            continuationBits third), 2)
      else (replacement, 1)
    else (replacement, 0)
  else if 0xf0 ≤ first && first ≤ 0xf4 then
    if secondOfFour first second then
      if isContinuation third then
        if isContinuation fourth then
          (Char.ofNat
            (first.toNat % 8 * 262144 + continuationBits second * 4096 +
              continuationBits third * 64 + continuationBits fourth), 3)
        else (replacement, 2)
      else (replacement, 1)
    else (replacement, 0)
  else (replacement, 0)

/-- The characters of a body, at most as many as the fuel. -/
def lossyChars : Nat → Bytes → List Char
  | 0, _ => []
  | _ + 1, [] => []
  | fuel + 1, first :: rest =>
      let (char, taken) := lossyChar first rest
      char :: lossyChars fuel (rest.drop taken)

/-- `String::from_utf8_lossy`.  Every character takes at least one octet. -/
def fromUtf8Lossy (body : Bytes) : String :=
  String.ofList (lossyChars body.length body)

/-! ## Data frames -/

/-- The frame of a payload that fits one frame. -/
def dataFrame (payload : Bytes) : Bytes :=
  [0x01, 0x00] ++ toBeU16 payload.length ++ payload

theorem encodeTcpAppData_of_le {payload : Bytes}
    (fits : payload.length ≤ 65535) :
    encodeTcpAppData payload = .ok (dataFrame payload) := by
  rw [encodeTcpAppData, if_pos fits]
  rfl

theorem length_dataFrame (payload : Bytes) :
    (dataFrame payload).length = 4 + payload.length := by
  simp [dataFrame]
  omega

end HermesAtrust.Protocol
