import HermesAtrust.Protocol.L3Auth
import HermesAtrust.Protocol.TcpInit

/-!
# The signed request of a flow

The serializer behind `build_signed_l3_auth_json_for_domain`.  A request
carries the flow as five values of its `ip` object, and the domain that a flow
was resolved from if there is one.
-/

namespace HermesAtrust.Protocol

open HermesAtrust.Framing HermesAtrust.Text

/-- `L3IpProtocol::scheme`. -/
def L3IpProtocol.scheme : L3IpProtocol → String
  | .icmp => "icmp"
  | .tcp => "tcp"
  | .udp => "udp"

def L3AuthContext.processIdentity (ctx : L3AuthContext) : ProcessIdentity where
  name := ctx.process.1.toList
  path := ctx.process.2.toList

/-- `L3AuthIpWire`. -/
def L3AuthFiveTuple.ipWire (fiveTuple : L3AuthFiveTuple) : Json :=
  object
    [field "atype" (.number fiveTuple.atype),
      field "protocol" (.number fiveTuple.protocol.asU8.toNat),
      textField "destAddr" fiveTuple.destAddr.toList,
      field "destPort" (.number fiveTuple.destPort.toNat),
      textField "srcAddr" fiveTuple.srcAddr.toList,
      field "srcPort" (.number fiveTuple.srcPort.toNat)]

/-- `skip_serializing_if = "Option::is_none"`. -/
def domainField (domain : Option String) : List (Str × Json) :=
  (domain.map fun name => textField "domain" name.toList).toList

/-- `L3AuthWire` up to its signature. -/
def l3AuthFields (hashes : Hashes) (ctx : L3AuthContext) (appId : String)
    (conntrackHash : Nat) (fiveTuple : L3AuthFiveTuple) : List (Str × Json) :=
  let url :=
    fiveTuple.protocol.scheme.toList ++
      ':' :: hostAndPort fiveTuple.destAddr.toList fiveTuple.destPort
  let procHash := ctx.processIdentity.procHash hashes
  [textField "sid" ctx.sid.toList,
    textField "appId" appId.toList,
    textField "url" url,
    textField "deviceId" ctx.deviceId.toList,
    textField "connectionId" ctx.connectionId.toList,
    field "env" (processEnv ctx.processIdentity procHash),
    field "conntrackHash" (.number conntrackHash),
    textField "lang" ctx.lang.toList,
    field "ip" fiveTuple.ipWire,
    textField "procHash" procHash] ++ domainField ctx.domain

/-- The codec whose requests are serialized and signed as the code does. -/
def wireCodec (hashes : Hashes)
    (responseWire : Bytes → Option L3AuthResponseWire) : L3AuthCodec where
  responseWire := responseWire
  signedRequest ctx appId conntrackHash fiveTuple :=
    some
      (signRequest hashes ctx.signKey
        (l3AuthFields hashes ctx appId conntrackHash fiveTuple))

theorem L3AuthFiveTuple.ipWire_injective :
    Function.Injective L3AuthFiveTuple.ipWire := by
  intro fiveTuple fiveTuple' same
  simp only [ipWire, object_injective.eq_iff, List.cons.injEq, field_inj,
    textField_inj, Json.number.injEq, String.toList_inj, UInt8.toNat_inj, UInt16.toNat_inj,
    L3IpProtocol.asU8_injective.eq_iff, and_true] at same
  rw [L3AuthFiveTuple.mk.injEq]
  exact same

theorem domainField_injective : Function.Injective domainField := by
  intro domain domain' same
  cases domain with
  | none =>
      cases domain' with
      | none => rfl
      | some name' => cases same
  | some name =>
      cases domain' with
      | none => cases same
      | some name' =>
          have names := textField_inj.mp (List.cons.inj same).1
          rw [String.toList_inj.mp names]

/-- The key that signs a request is not part of it; everything else is. -/
theorem l3AuthFields_inj {hashes : Hashes} {ctx ctx' : L3AuthContext}
    {appId appId' : String} {conntrackHash conntrackHash' : Nat}
    {fiveTuple fiveTuple' : L3AuthFiveTuple}
    (same :
      l3AuthFields hashes ctx appId conntrackHash fiveTuple =
        l3AuthFields hashes ctx' appId' conntrackHash' fiveTuple') :
    ctx = { ctx' with signKey := ctx.signKey } ∧ appId = appId' ∧
      conntrackHash = conntrackHash' ∧ fiveTuple = fiveTuple' := by
  simp only [l3AuthFields, List.cons_append, List.nil_append, List.cons.injEq,
    field_inj, textField_inj, String.toList_inj, Json.number.injEq] at same
  obtain ⟨sid, isAppId, -, deviceId, connectionId, env, isHash, lang, ip, -,
    domain⟩ := same
  have identity := processEnv_inj env
  rw [L3AuthContext.processIdentity, L3AuthContext.processIdentity,
    ProcessIdentity.mk.injEq, String.toList_inj, String.toList_inj] at identity
  refine ⟨?_, isAppId, isHash, L3AuthFiveTuple.ipWire_injective ip⟩
  rw [L3AuthContext.mk.injEq]
  exact ⟨sid, deviceId, connectionId, rfl,
    Prod.ext identity.1 identity.2, lang, domainField_injective domain⟩

theorem signatureInserted_of_buildSignedL3AuthJson {hashes : Hashes}
    {responseWire : Bytes → Option L3AuthResponseWire} {ctx : L3AuthContext}
    {appId : String} {conntrackHash : Nat} {fiveTuple : L3AuthFiveTuple}
    {signed : Bytes}
    (built :
      buildSignedL3AuthJsonForDomain (wireCodec hashes responseWire) ctx appId
        conntrackHash fiveTuple = .ok signed) :
    SignatureInserted hashes ctx.signKey
      (unsignedJson (l3AuthFields hashes ctx appId conntrackHash fiveTuple))
      signed := by
  rw [buildSignedL3AuthJsonForDomain] at built
  split at built
  · cases built
  split at built
  · cases built
  split at built
  · cases built
  · cases built
    exact signatureInserted_signRequest hashes ctx.signKey _

/-! ## Both requests -/

/-- Every accepted request is its unsigned bytes with the signature of exactly
these bytes inserted, and the unsigned bytes determine every parameter but the
key. -/
theorem signed_requests (hashes : Hashes)
    (responseWire : Bytes → Option L3AuthResponseWire) :
    (∀ params signKey signed,
      buildSignedTcpInitJson hashes params signKey = .ok signed →
        SignatureInserted hashes signKey (unsignedJson (params.fields hashes))
          signed) ∧
    (∀ ctx appId conntrackHash fiveTuple signed,
      buildSignedL3AuthJsonForDomain (wireCodec hashes responseWire) ctx appId
          conntrackHash fiveTuple = .ok signed →
        SignatureInserted hashes ctx.signKey
          (unsignedJson (l3AuthFields hashes ctx appId conntrackHash fiveTuple))
          signed) ∧
    (∀ params params' : TcpInitParams,
      unsignedJson (params.fields hashes) =
          unsignedJson (params'.fields hashes) ↔
        params = params') ∧
    (∀ ctx ctx' appId appId' conntrackHash conntrackHash' fiveTuple fiveTuple',
      unsignedJson (l3AuthFields hashes ctx appId conntrackHash fiveTuple) =
          unsignedJson
            (l3AuthFields hashes ctx' appId' conntrackHash' fiveTuple') ↔
        ctx = { ctx' with signKey := ctx.signKey } ∧ appId = appId' ∧
          conntrackHash = conntrackHash' ∧ fiveTuple = fiveTuple') := by
  refine ⟨?_, ?_, ?_, ?_⟩
  · intro params signKey signed built
    exact signatureInserted_of_buildSignedTcpInitJson built
  · intro ctx appId conntrackHash fiveTuple signed built
    exact signatureInserted_of_buildSignedL3AuthJson built
  · intro params params'
    rw [unsignedJson_injective.eq_iff,
      (TcpInitParams.fields_injective hashes).eq_iff]
  · intro ctx ctx' appId appId' conntrackHash conntrackHash' fiveTuple fiveTuple'
    rw [unsignedJson_injective.eq_iff]
    constructor
    · intro same
      exact l3AuthFields_inj same
    · rintro ⟨isContext, rfl, rfl, rfl⟩
      rw [isContext]
      rfl

namespace SignedSample

def signKey : Bytes :=
  [0x00, 0x11, 0x22, 0x33, 0x44, 0x55, 0x66, 0x77, 0x88, 0x99, 0xaa, 0xbb,
    0xcc, 0xdd, 0xee, 0xff]

def params : TcpInitParams where
  sid := "s\"id".toList
  appId := "app-1".toList
  destHost := "10.0.0.9".toList
  destPort := 443
  deviceId := "dev".toList
  connectionId := "conn".toList
  username := "a\\b".toList
  process := ⟨"curl".toList, "/usr/bin/curl".toList⟩
  lang := "en-US".toList

def ctx : L3AuthContext where
  sid := "s\"id"
  deviceId := "dev"
  connectionId := "conn"
  signKey := signKey
  process := ("curl", "/usr/bin/curl")
  lang := "en-US"
  domain := some "intra.example"

def fiveTuple : L3AuthFiveTuple :=
  .ipv4 .tcp "10.8.0.1" 40000 "10.0.0.9" 443

def processDigest : Bytes :=
  [0xf0, 0xda, 0x95, 0x5d, 0x46, 0xaa, 0x49, 0xe3, 0xca, 0xc4, 0x77, 0xd4, 0x3e,
    0x22, 0xc5, 0x6c, 0xf8, 0x3a, 0x7c, 0xb4, 0xb2, 0xa9, 0x80, 0x5b, 0x3d,
    0x99, 0x5c, 0x29, 0x20, 0xdf, 0x9c, 0xff]

def bytes (pieces : List String) : Bytes :=
  pieces.flatMap fun piece => piece.toUTF8.data.toList

/-- The hash of the path. -/
def procHash : Bytes :=
  utf8 (upperHex processDigest)

def envText : Bytes :=
  bytes
      ["\"env\":\x7b\"application\":\x7b\"runtime\":\x7b\"process\":\x7b",
        "\"name\":\"curl\",\"digital_signature\":\"TrustAppClosed\",",
        "\"platform\":\"Linux\",\"fingerprint\":\""] ++
    procHash ++
    bytes
      ["\",\"description\":\"TrustAppClosed\",\"path\":\"/usr/bin/curl\",",
        "\"version\":\"TrustAppClosed\",\"security_env\":\"normal\"\x7d,",
        "\"process_trusted\":\"TRUSTED\"\x7d\x7d\x7d"]

/-- The TCP request up to the value of its signature. -/
def tcpText : Bytes :=
  bytes
      ["\x7b\"sid\":\"s\\\"id\",\"appId\":\"app-1\",",
        "\"url\":\"tcp://10.0.0.9:443\",\"deviceId\":\"dev\",",
        "\"connectionId\":\"conn\",\"procHash\":\""] ++
    procHash ++
    bytes
      ["\",\"userName\":\"a\\\\b\",\"rcAppliedInfo\":0,\"lang\":\"en-US\",",
        "\"destAddr\":\"10.0.0.9:443\","] ++
    envText ++ bytes [",\"xRequestSig\":\""]

def l3Text : Bytes :=
  bytes
      ["\x7b\"sid\":\"s\\\"id\",\"appId\":\"app-1\",",
        "\"url\":\"tcp:10.0.0.9:443\",\"deviceId\":\"dev\",",
        "\"connectionId\":\"conn\","] ++
    envText ++
    bytes
      [",\"conntrackHash\":1,\"lang\":\"en-US\",\"ip\":\x7b\"atype\":2048,",
        "\"protocol\":6,\"destAddr\":\"10.0.0.9\",\"destPort\":443,",
        "\"srcAddr\":\"10.8.0.1\",\"srcPort\":40000\x7d,\"procHash\":\""] ++
    procHash ++
    bytes ["\",\"domain\":\"intra.example\",\"xRequestSig\":\""]

def tcpDigest : Bytes :=
  [0x55, 0xa0, 0x50, 0x30, 0xb5, 0x0d, 0xbd, 0xca, 0x90, 0x0f, 0x0d, 0xc2, 0xad,
    0x56, 0xcb, 0x3d, 0x3c, 0xd3, 0x4f, 0x17, 0xb6, 0x88, 0x59, 0xc0, 0x7a,
    0x6c, 0x6a, 0x68, 0xb7, 0xb9, 0x3b, 0xb9]

def l3Digest : Bytes :=
  [0x86, 0x14, 0x6a, 0x60, 0x5b, 0x3a, 0x9f, 0x54, 0x90, 0x0f, 0xa3, 0xcb, 0x25,
    0xd9, 0xc0, 0xaf, 0x35, 0x3e, 0x82, 0x84, 0x1a, 0x23, 0x69, 0xf6, 0x83,
    0xa3, 0x7d, 0xe1, 0xa6, 0x29, 0x9d, 0x81]

/-- The bytes of a request with the signature. -/
def signedText (before : Bytes) (signature : Str) : Bytes :=
  before ++ utf8 signature ++ bytes ["\"\x7d"]

/-- The digests of the samples. -/
def hashes : Hashes where
  sha256 message :=
    if message = utf8 "/usr/bin/curl".toList then processDigest else []
  hmacSha256 key message :=
    if key = signKey ∧ message = signedText tcpText [] then
      tcpDigest
    else if key = signKey ∧ message = signedText l3Text [] then
      l3Digest
    else
      []

end SignedSample

open SignedSample in
theorem signed_requests_sample :
    SignatureInserted SignedSample.hashes signKey
        (unsignedJson (params.fields SignedSample.hashes))
        (signedText tcpText (upperHex tcpDigest)) ∧
      SignatureInserted SignedSample.hashes signKey
        (unsignedJson
          (l3AuthFields SignedSample.hashes ctx "app-1" 1 fiveTuple))
        (signedText l3Text (upperHex l3Digest)) := by
  have both := signed_requests SignedSample.hashes fun _ => none
  constructor
  · exact both.1 params signKey _ (by decide +kernel)
  · exact both.2.1 ctx "app-1" 1 fiveTuple _ (by decide +kernel)

end HermesAtrust.Protocol
