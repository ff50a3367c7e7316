import HermesAtrust.Text.Str

/-!
# Per-flow authorization JSON

The `0x13` request and `0x93` response bodies of `l3_auth.rs`.  The JSON
library and the request signature are not part of the repository, so
`L3AuthCodec` takes the two calls the code makes into them as functions: the
deserialized response record, and the signed bytes of a request.
-/

namespace HermesAtrust.Protocol

open HermesAtrust.Framing

inductive L3IpProtocol where
  | icmp
  | tcp
  | udp
  deriving DecidableEq, Repr

namespace L3IpProtocol

def asU8 : L3IpProtocol → UInt8
  | .icmp => 1
  | .tcp => 6
  | .udp => 17

def fromU8 (value : UInt8) : Option L3IpProtocol :=
  if value = 1 then some .icmp
  else if value = 6 then some .tcp
  else if value = 17 then some .udp
  else none

theorem asU8_injective : Function.Injective asU8 := by
  intro first second same
  cases first <;> cases second <;> first | rfl | exact absurd same (by decide)

end L3IpProtocol

/-- Five-tuple fields embedded in the signed request. -/
structure L3AuthFiveTuple where
  atype : Nat
  protocol : L3IpProtocol
  destAddr : String
  destPort : UInt16
  srcAddr : String
  srcPort : UInt16
  deriving DecidableEq, Repr

/-- `L3AuthFiveTuple::ipv4`. -/
def L3AuthFiveTuple.ipv4 (protocol : L3IpProtocol) (srcAddr : String)
    (srcPort : UInt16) (destAddr : String) (destPort : UInt16) :
    L3AuthFiveTuple where
  atype := 0x0800
  protocol := protocol
  destAddr := destAddr
  destPort := destPort
  srcAddr := srcAddr
  srcPort := srcPort

/-- Session material of a signed request; `process` stands for the name and
path of the client process. -/
structure L3AuthContext where
  sid : String
  deviceId : String
  connectionId : String
  signKey : Bytes
  process : String × String
  lang : String
  domain : Option String
  deriving DecidableEq, Repr

inductive L3AuthError where
  | emptyAppId
  | emptyDestAddr
  | emptySrcAddr
  | json
  | responseJson
  deriving DecidableEq, Repr

/-- `L3AuthResponseWire` with its defaults filled in. -/
structure L3AuthResponseWire where
  code : Int
  message : Option String
  conntrackHash : Nat
  connectToken : Option String
  token : Option String
  deriving DecidableEq, Repr

structure L3AuthResponse where
  code : Int
  message : String
  conntrackHash : Nat
  connectToken : String
  deriving DecidableEq, Repr

/-- The JSON calls of the authorization messages.  `none` is a serializer or
deserializer error. -/
structure L3AuthCodec where
  responseWire : Bytes → Option L3AuthResponseWire
  signedRequest :
    L3AuthContext → (appId : String) → (conntrackHash : Nat) →
      L3AuthFiveTuple → Option Bytes

/-- `str::trim`. -/
def trim (text : String) : String :=
  String.ofList (Text.trim text.toList)

theorem trim_trim (text : String) : trim (trim text) = trim text := by
  simp only [trim, String.toList_ofList, Text.trim_trim]

/-- A trimmed field that is present and not blank. -/
def trimmedField (field : Option String) : Option String :=
  (field.map trim).filter fun text => text ≠ ""

def parseL3AuthResponse (codec : L3AuthCodec) (json : Bytes) :
    Except L3AuthError L3AuthResponse :=
  match codec.responseWire json with
  | none => .error .responseJson
  | some raw =>
      .ok
        { code := raw.code
          message := raw.message.getD ""
          conntrackHash := raw.conntrackHash
          connectToken :=
            ((trimmedField raw.connectToken).or
              (trimmedField raw.token)).getD "" }

/-- The checks of `build_signed_l3_auth_json_for_domain` before it serializes
and signs. -/
def buildSignedL3AuthJsonForDomain (codec : L3AuthCodec)
    (ctx : L3AuthContext) (appId : String) (conntrackHash : Nat)
    (fiveTuple : L3AuthFiveTuple) : Except L3AuthError Bytes :=
  if appId = "" then
    .error .emptyAppId
  else if fiveTuple.destAddr = "" then
    .error .emptyDestAddr
  else if fiveTuple.srcAddr = "" then
    .error .emptySrcAddr
  else
    match codec.signedRequest ctx appId conntrackHash fiveTuple with
    | none => .error .json
    | some json => .ok json

private theorem trim_of_trimmedField {field : Option String} {text : String}
    (kept : trimmedField field = some text) : trim text = text := by
  obtain ⟨present, -⟩ := Option.filter_eq_some_iff.mp kept
  obtain ⟨raw, -, rfl⟩ := Option.map_eq_some_iff.mp present
  exact trim_trim raw

/-- A parsed response carries its connect token without surrounding blanks. -/
theorem parseL3AuthResponse_trim {codec : L3AuthCodec} {json : Bytes}
    {response : L3AuthResponse}
    (parsed : parseL3AuthResponse codec json = .ok response) :
    trim response.connectToken = response.connectToken := by
  unfold parseL3AuthResponse at parsed
  split at parsed
  · cases parsed
  · rename_i raw _
    cases parsed
    cases preferred : trimmedField raw.connectToken with
    | some text => simpa using trim_of_trimmedField preferred
    | none =>
        cases fallback : trimmedField raw.token with
        | some text => simpa using trim_of_trimmedField fallback
        | none => exact (by decide : trim "" = "")

end HermesAtrust.Protocol
