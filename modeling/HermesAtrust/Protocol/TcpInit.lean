import HermesAtrust.Protocol.Signing

/-!
# The body of the TCP tunnel init frame

`build_signed_tcp_init_json`: a request names the tunnel's target as a text
`host:port`, alone and behind `tcp://`, and the client process by its name, its
path and the hash of its path.
-/

namespace HermesAtrust.Protocol

open HermesAtrust.Framing HermesAtrust.Text

structure ProcessIdentity where
  name : Str
  path : Str
  deriving DecidableEq, Repr

/-- Uppercase hexadecimal SHA-256 of the path. -/
def ProcessIdentity.procHash (hashes : Hashes) (process : ProcessIdentity) :
    Str :=
  upperHex (hashes.sha256 (utf8 process.path))

/-- The `env` object of both requests. -/
def processEnv (process : ProcessIdentity) (procHash : Str) : Json :=
  object
    [field "application" <| object
      [field "runtime" <| object
        [field "process" <| object
          [textField "name" process.name,
            textField "digital_signature" "TrustAppClosed".toList,
            textField "platform" "Linux".toList,
            textField "fingerprint" procHash,
            textField "description" "TrustAppClosed".toList,
            textField "path" process.path,
            textField "version" "TrustAppClosed".toList,
            textField "security_env" "normal".toList],
          textField "process_trusted" "TRUSTED".toList]]]

structure TcpInitParams where
  sid : Str
  appId : Str
  destHost : Str
  destPort : UInt16
  deviceId : Str
  connectionId : Str
  username : Str
  process : ProcessIdentity
  lang : Str
  deriving DecidableEq, Repr

inductive TcpInitError where
  | emptyAppId
  | emptyDestHost
  | invalidPort
  deriving DecidableEq, Repr

/-- `format!("{}:{}", host, port)`. -/
def hostAndPort (host : Str) (port : UInt16) : Str :=
  host ++ ':' :: decimalText port.toNat

/-- `TcpInitWire` up to its signature. -/
def TcpInitParams.fields (hashes : Hashes) (params : TcpInitParams) :
    List (Str × Json) :=
  let destAddr := hostAndPort params.destHost params.destPort
  let url := "tcp://".toList ++ destAddr
  let procHash := params.process.procHash hashes
  [textField "sid" params.sid,
    textField "appId" params.appId,
    textField "url" url,
    textField "deviceId" params.deviceId,
    textField "connectionId" params.connectionId,
    textField "procHash" procHash,
    textField "userName" params.username,
    field "rcAppliedInfo" (.number 0),
    textField "lang" params.lang,
    textField "destAddr" destAddr,
    field "env" (processEnv params.process procHash)]

def buildSignedTcpInitJson (hashes : Hashes) (params : TcpInitParams)
    (signKey : Bytes) : Except TcpInitError Bytes :=
  if params.appId = [] then
    .error .emptyAppId
  else if params.destHost = [] then
    .error .emptyDestHost
  else if params.destPort = 0 then
    .error .invalidPort
  else
    .ok (signRequest hashes signKey (params.fields hashes))

/-! ## The fields determine the parameters -/

theorem hostAndPort_inj {host host' : Str} {port port' : UInt16}
    (same : hostAndPort host port = hostAndPort host' port') :
    host = host' ∧ port = port' := by
  have digits := notMem_decimalText (show (':').isDigit = false by decide)
  obtain ⟨hosts, ports⟩ := append_field_inj (digits _) (digits _) same
  exact ⟨hosts, UInt16.toNat_inj.mp (decimalText_injective ports)⟩

theorem textField_inj {key : String} {value value' : Str} :
    textField key value = textField key value' ↔ value = value' := by
  rw [textField, textField, field, field, Prod.mk.injEq, Json.string.injEq]
  exact and_iff_right rfl

theorem field_inj {key : String} {value value' : Json} :
    field key value = field key value' ↔ value = value' := by
  rw [field, field, Prod.mk.injEq]
  exact and_iff_right rfl

theorem processEnv_inj {process process' : ProcessIdentity}
    {procHash procHash' : Str}
    (same : processEnv process procHash = processEnv process' procHash') :
    process = process' := by
  simp only [processEnv, object_injective.eq_iff, List.cons.injEq, field_inj,
    textField_inj, and_true, true_and] at same
  obtain ⟨names, -, paths⟩ := same
  rw [ProcessIdentity.mk.injEq]
  exact ⟨names, paths⟩

theorem TcpInitParams.fields_injective (hashes : Hashes) :
    Function.Injective (TcpInitParams.fields hashes) := by
  intro params params' same
  simp only [TcpInitParams.fields, List.cons.injEq, field_inj, textField_inj,
    true_and] at same
  obtain ⟨sid, appId, -, deviceId, connectionId, -, username, lang, destAddr,
    env, -⟩ := same
  obtain ⟨destHost, destPort⟩ := hostAndPort_inj destAddr
  have process := processEnv_inj env
  rw [TcpInitParams.mk.injEq]
  exact ⟨sid, appId, destHost, destPort, deviceId, connectionId, username,
    process, lang⟩

theorem signatureInserted_of_buildSignedTcpInitJson {hashes : Hashes}
    {params : TcpInitParams} {signKey signed : Bytes}
    (built : buildSignedTcpInitJson hashes params signKey = .ok signed) :
    SignatureInserted hashes signKey (unsignedJson (params.fields hashes))
      signed := by
  rw [buildSignedTcpInitJson] at built
  split at built
  · cases built
  split at built
  · cases built
  split at built
  · cases built
  · cases built
    exact signatureInserted_signRequest hashes signKey _

end HermesAtrust.Protocol
