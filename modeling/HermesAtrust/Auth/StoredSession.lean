import HermesAtrust.Auth.SessionStoreRuns
import HermesAtrust.Client.Replacement
import HermesAtrust.Protocol.Signing
import HermesAtrust.Text.Hex
import HermesAtrust.Transport.Cookies

/-!
# Stored sessions

The identifiers of a session are checked when they are made, the session
material is assembled from a cookie of the gateway, and a stored session keeps
all of it: what `load` and `to_material` give back in another process, while
other processes save, is the material that was captured and never one with
identifiers of its own.  Hexadecimal text of a key, MD5 and the JSON of the
document are made by packages that are not part of the repository.
-/

namespace HermesAtrust.Auth

open HermesAtrust.Concurrency HermesAtrust.Framing HermesAtrust.Storage
open HermesAtrust.Text
open HermesAtrust.Client.Replacement (GatewayEndpoint)
open HermesAtrust.Protocol (upperHex)
open HermesAtrust.Transport (GatewayCookie isControl)

/-! ## Identifiers and keys -/

inductive IdentifierError where
  | empty
  | controlCharacter
  | clock
  deriving DecidableEq, Repr

/-- The text of a `SessionId`, a `DeviceId` or a `ConnectionId`. -/
structure Identifier where
  asStr : Str
  present : asStr ≠ []
  printable : asStr.any isControl = false
  deriving DecidableEq

abbrev SessionId := Identifier

abbrev DeviceId := Identifier

abbrev ConnectionId := Identifier

def Identifier.new (value : Str) : Except IdentifierError Identifier :=
  if present : value = [] then
    .error .empty
  else
    match printable : value.any isControl with
    | true => .error .controlCharacter
    | false => .ok ⟨value, present, printable⟩

/-- What `hex::encode` and `hex::decode` do. -/
structure HexCodec where
  encode : List UInt8 → Str
  decode : Str → Option (List UInt8)

inductive SecretError where
  | empty
  | invalidHex
  deriving DecidableEq, Repr

structure SignKey where
  bytes : List UInt8
  present : bytes ≠ []
  deriving DecidableEq

namespace SignKey

def fromBytes (bytes : List UInt8) : Except SecretError SignKey :=
  if present : bytes = [] then
    .error .empty
  else
    .ok ⟨bytes, present⟩

def fromHex (hex : HexCodec) (value : Str) : Except SecretError SignKey :=
  match hex.decode value with
  | none => .error .invalidHex
  | some bytes => fromBytes bytes

def toHexLower (hex : HexCodec) (key : SignKey) : Str :=
  hex.encode key.bytes

end SignKey

/-- `ConnectionId::from_device_at`. -/
def fromDeviceAt (md5 : Bytes → Bytes) (deviceId : DeviceId)
    (unixMicros : Nat) : Except IdentifierError ConnectionId :=
  Identifier.new
    (upperHex (md5 (utf8 deviceId.asStr)) ++ '-' :: decimalText unixMicros)

/-! ## Session material -/

inductive MaterialError where
  | sidCookieMissing
  | identifier (error : IdentifierError)
  | secret (error : SecretError)
  deriving DecidableEq, Repr

structure SessionMaterial where
  sid : SessionId
  deviceId : DeviceId
  connectionId : ConnectionId
  signKey : SignKey
  username : Option Str
  signKeyProvisional : Bool
  sidCookieName : Str
  sidSigPresent : Bool
  deriving DecidableEq

/-- The SID of a cookie jar: a `SecretString` is a text that is not empty. -/
structure SidCookieSource where
  value : Str
  present : value ≠ []
  cookieName : Str
  sidSigPresent : Bool
  deriving DecidableEq

def sidCookieCandidates : List String :=
  ["sid", "sid-legacy"]

def sidCookieSource (cookies : List GatewayCookie) (cookie : GatewayCookie) :
    Except MaterialError SidCookieSource :=
  if present : cookie.value = [] then
    .error (.secret .empty)
  else
    let sigName := cookie.name ++ ".sig".toList
    .ok
      { value := cookie.value
        present := present
        cookieName := cookie.name
        sidSigPresent :=
          cookies.any fun other => eqIgnoreAsciiCase other.name sigName }

def extractSidFrom (cookies : List GatewayCookie) :
    List String → Except MaterialError SidCookieSource
  | [] => .error .sidCookieMissing
  | name :: later =>
      match cookies.find? fun cookie =>
          eqIgnoreAsciiCase cookie.name name.toList with
      | some cookie => sidCookieSource cookies cookie
      | none => extractSidFrom cookies later

def extractSidFromCookies (cookies : List GatewayCookie) :
    Except MaterialError SidCookieSource :=
  extractSidFrom cookies sidCookieCandidates

/-- What the process draws or reads when it assembles material: the clock
since the epoch, unless it is set before it, and 32 random bytes. -/
structure Surroundings where
  unixMicros : Option Nat
  random : Vector UInt8 32

def generateProvisionalSignKey (surroundings : Surroundings) :
    Except MaterialError SignKey :=
  (SignKey.fromBytes surroundings.random.toList).mapError .secret

def fromCookieSid (md5 : Bytes → Bytes) (surroundings : Surroundings)
    (sidValue sidCookieName : Str) (sidSigPresent : Bool)
    (deviceId : DeviceId) (username : Option Str)
    (signKey : Option SignKey) : Except MaterialError SessionMaterial := do
  let sid ← (Identifier.new sidValue).mapError .identifier
  let unixMicros ←
    match surroundings.unixMicros with
    | none => .error (.identifier .clock)
    | some unixMicros => .ok unixMicros
  let connectionId ←
    (fromDeviceAt md5 deviceId unixMicros).mapError .identifier
  let (signKey, signKeyProvisional) ←
    match signKey with
    | some key => .ok (key, false)
    | none => do
        let key ← generateProvisionalSignKey surroundings
        .ok (key, true)
  .ok
    { sid, deviceId, connectionId, signKey, username, signKeyProvisional,
      sidCookieName, sidSigPresent }

/-- `build_session_material`, with the device identifier that it draws. -/
def buildSessionMaterial (md5 : Bytes → Bytes) (surroundings : Surroundings)
    (deviceId : DeviceId) (cookies : List GatewayCookie)
    (username : Option Str) : Except MaterialError SessionMaterial := do
  let source ← extractSidFromCookies cookies
  fromCookieSid md5 surroundings source.value source.cookieName
    source.sidSigPresent deviceId username none

/-! ## The document -/

def sessionStoreVersion : Nat :=
  1

inductive LoginMethod where
  | cas
  | password
  deriving DecidableEq, Repr

structure StoredCookie where
  name : Str
  value : Str
  domain : Option Str
  path : Option Str
  secure : Bool
  httpOnly : Bool
  deriving DecidableEq

def StoredCookie.ofGateway (cookie : GatewayCookie) : StoredCookie where
  name := cookie.name
  value := cookie.value
  domain := cookie.domain
  path := cookie.path
  secure := cookie.secure
  httpOnly := cookie.httpOnly

def StoredCookie.toGateway (cookie : StoredCookie) : GatewayCookie where
  name := cookie.name
  value := cookie.value
  domain := cookie.domain
  path := cookie.path
  secure := cookie.secure
  httpOnly := cookie.httpOnly

structure StoredSession where
  version : Nat
  savedUnixMs : Nat
  gatewayHost : Str
  gatewayPort : UInt16
  loginMethod : LoginMethod
  loginDomain : Option Str
  cookies : List StoredCookie
  sid : Str
  sidCookieName : Str
  sidSigPresent : Bool
  deviceId : Str
  connectionId : Str
  signKeyHex : Str
  signKeyProvisional : Bool
  username : Option Str
  deriving DecidableEq

inductive SessionStoreError where
  | io
  | decode
  | unsupportedVersion (version : Nat)
  | gatewayMismatch (stored requested : Str)
  | material (error : MaterialError)
  deriving DecidableEq

/-- Everything that a session is captured from. -/
structure LiveSession where
  unixMs : Nat
  gateway : GatewayEndpoint
  loginMethod : LoginMethod
  loginDomain : Option Str
  cookies : List GatewayCookie
  material : SessionMaterial
  deriving DecidableEq

/-- What `serde_json` writes for a session and reads from a document. -/
structure Serde where
  toWriter : StoredSession → List UInt8
  fromSlice : List UInt8 → Option StoredSession

namespace StoredSession

def capture (hex : HexCodec) (live : LiveSession) : StoredSession where
  version := sessionStoreVersion
  savedUnixMs := live.unixMs
  gatewayHost := live.gateway.host.toList
  gatewayPort := live.gateway.port
  loginMethod := live.loginMethod
  loginDomain := live.loginDomain
  cookies := live.cookies.map StoredCookie.ofGateway
  sid := live.material.sid.asStr
  sidCookieName := live.material.sidCookieName
  sidSigPresent := live.material.sidSigPresent
  deviceId := live.material.deviceId.asStr
  connectionId := live.material.connectionId.asStr
  signKeyHex := live.material.signKey.toHexLower hex
  signKeyProvisional := live.material.signKeyProvisional
  username := live.material.username

/-- What `save` writes: one line of JSON. -/
def document (serde : Serde) (session : StoredSession) : List UInt8 :=
  serde.toWriter session ++ [0x0A]

def load (serde : Serde) (bytes : Option (List UInt8)) :
    Except SessionStoreError StoredSession :=
  match bytes with
  | none => .error .io
  | some bytes =>
      match serde.fromSlice bytes with
      | none => .error .decode
      | some session =>
          if session.version ≠ sessionStoreVersion then
            .error (.unsupportedVersion session.version)
          else
            .ok session

def hostPort (host : Str) (port : UInt16) : Str :=
  host ++ ':' :: decimalText port.toNat

def ensureGateway (session : StoredSession) (gateway : GatewayEndpoint) :
    Except SessionStoreError Unit :=
  if eqIgnoreAsciiCase session.gatewayHost gateway.host.toList &&
      session.gatewayPort == gateway.port then
    .ok ()
  else
    .error
      (.gatewayMismatch
        (hostPort session.gatewayHost session.gatewayPort)
        (hostPort gateway.host.toList gateway.port))

def gatewayCookies (session : StoredSession) : List GatewayCookie :=
  session.cookies.map StoredCookie.toGateway

def identifier (value : Str) : Except SessionStoreError Identifier :=
  (Identifier.new value).mapError fun error => .material (.identifier error)

def toMaterial (hex : HexCodec) (session : StoredSession) :
    Except SessionStoreError SessionMaterial := do
  let sid ← identifier session.sid
  let deviceId ← identifier session.deviceId
  let connectionId ← identifier session.connectionId
  let signKey ←
    (SignKey.fromHex hex session.signKeyHex).mapError fun error =>
      .material (.secret error)
  .ok
    { sid, deviceId, connectionId, signKey
      username := session.username
      signKeyProvisional := session.signKeyProvisional
      sidCookieName := session.sidCookieName
      sidSigPresent := session.sidSigPresent }

end StoredSession

/-! ## Round trips -/

theorem Identifier.new_asStr (identifier : Identifier) :
    Identifier.new identifier.asStr = .ok identifier := by
  unfold Identifier.new
  rw [dif_neg identifier.present]
  split
  · rename_i control
    cases control.symm.trans identifier.printable
  · rfl

theorem SignKey.fromHex_toHexLower {hex : HexCodec} (key : SignKey)
    (decodes : ∀ bytes, hex.decode (hex.encode bytes) = some bytes) :
    SignKey.fromHex hex (key.toHexLower hex) = .ok key := by
  rw [SignKey.fromHex, SignKey.toHexLower, decodes]
  exact dif_neg key.present

namespace StoredSession

theorem toMaterial_capture {hex : HexCodec} (live : LiveSession)
    (decodes : ∀ bytes, hex.decode (hex.encode bytes) = some bytes) :
    (capture hex live).toMaterial hex = .ok live.material := by
  simp only [toMaterial, identifier, capture, Identifier.new_asStr,
    SignKey.fromHex_toHexLower live.material.signKey decodes,
    Except.mapError]
  rfl

theorem gatewayCookies_capture (hex : HexCodec) (live : LiveSession) :
    (capture hex live).gatewayCookies = live.cookies := by
  rw [gatewayCookies, capture, List.map_map]
  exact List.map_id _

theorem ensureGateway_capture (hex : HexCodec) (live : LiveSession) :
    (capture hex live).ensureGateway live.gateway = .ok () := by
  simp [ensureGateway, capture, eqIgnoreAsciiCase]

end StoredSession

/-! ## Assembling material -/

theorem Identifier.new_eq_ok_iff {value : Str} {identifier : Identifier} :
    Identifier.new value = .ok identifier ↔ identifier.asStr = value := by
  constructor
  · intro made
    unfold Identifier.new at made
    split at made
    · cases made
    · split at made
      · cases made
      · cases made
        rfl
  · intro same
    rw [← same]
    exact identifier.new_asStr

theorem Identifier.eq_of_asStr {first second : Identifier}
    (same : first.asStr = second.asStr) : first = second := by
  cases first
  cases second
  simpa using same

theorem SignKey.eq_of_bytes {first second : SignKey}
    (same : first.bytes = second.bytes) : first = second := by
  cases first
  cases second
  simpa using same

theorem fromDeviceAt_eq_ok_iff {md5 : Bytes → Bytes} {deviceId : DeviceId}
    {unixMicros : Nat} {connectionId : ConnectionId} :
    fromDeviceAt md5 deviceId unixMicros = .ok connectionId ↔
      connectionId.asStr =
        upperHex (md5 (utf8 deviceId.asStr)) ++
          '-' :: decimalText unixMicros :=
  Identifier.new_eq_ok_iff

/-- The first cookie of that name, in any case. -/
def FirstNamed (name : String) (cookies : List GatewayCookie)
    (cookie : GatewayCookie) : Prop :=
  eqIgnoreAsciiCase cookie.name name.toList = true ∧
    ∃ before after,
      cookies = before ++ cookie :: after ∧
        ∀ other ∈ before,
          eqIgnoreAsciiCase other.name name.toList = false

/-- A `sid-legacy` cookie counts only in a jar without any `sid` cookie. -/
def IsSidCookie (cookies : List GatewayCookie) (cookie : GatewayCookie) :
    Prop :=
  FirstNamed "sid" cookies cookie ∨
    ((∀ other ∈ cookies,
        eqIgnoreAsciiCase other.name "sid".toList = false) ∧
      FirstNamed "sid-legacy" cookies cookie)

def sigPresent (cookies : List GatewayCookie) (cookie : GatewayCookie) :
    Bool :=
  cookies.any fun other =>
    eqIgnoreAsciiCase other.name (cookie.name ++ ".sig".toList)

theorem find?_eq_some_iff_firstNamed {name : String}
    {cookies : List GatewayCookie} {cookie : GatewayCookie} :
    (cookies.find? fun cookie =>
        eqIgnoreAsciiCase cookie.name name.toList) = some cookie ↔
      FirstNamed name cookies cookie := by
  simp only [List.find?_eq_some_iff_append, FirstNamed, Bool.not_eq_true']

theorem sidCookieSource_eq_ok_iff {cookies : List GatewayCookie}
    {cookie : GatewayCookie} {source : SidCookieSource} :
    sidCookieSource cookies cookie = .ok source ↔
      source.value = cookie.value ∧ source.cookieName = cookie.name ∧
        source.sidSigPresent = sigPresent cookies cookie := by
  unfold sidCookieSource
  split
  · rename_i empty
    constructor
    · intro made
      cases made
    · intro same
      exact absurd (same.1.trans empty) source.present
  · obtain ⟨value, present, cookieName, sidSigPresent⟩ := source
    simp only [Except.ok.injEq, SidCookieSource.mk.injEq, sigPresent]
    constructor
    · rintro ⟨rfl, rfl, rfl⟩
      exact ⟨rfl, rfl, rfl⟩
    · rintro ⟨rfl, rfl, rfl⟩
      exact ⟨rfl, rfl, rfl⟩

theorem extractSidFromCookies_eq_ok_iff {cookies : List GatewayCookie}
    {source : SidCookieSource} :
    extractSidFromCookies cookies = .ok source ↔
      ∃ cookie, IsSidCookie cookies cookie ∧ source.value = cookie.value ∧
        source.cookieName = cookie.name ∧
        source.sidSigPresent = sigPresent cookies cookie := by
  simp only [extractSidFromCookies, sidCookieCandidates, extractSidFrom,
    IsSidCookie, ← find?_eq_some_iff_firstNamed]
  cases sid : cookies.find? fun cookie =>
      eqIgnoreAsciiCase cookie.name "sid".toList with
  | some chosen =>
      have named := List.find?_some sid
      have listed := List.mem_of_find?_eq_some sid
      simp only [sidCookieSource_eq_ok_iff, Option.some.injEq]
      constructor
      · intro same
        exact ⟨chosen, Or.inl rfl, same⟩
      · rintro ⟨cookie, rfl | ⟨none, -⟩, same⟩
        · exact same
        · cases named.symm.trans (none chosen listed)
  | none =>
      have none := List.find?_eq_none.mp sid
      cases legacy : cookies.find? fun cookie =>
          eqIgnoreAsciiCase cookie.name "sid-legacy".toList with
      | some chosen =>
          simp only [sidCookieSource_eq_ok_iff, Option.some.injEq]
          constructor
          · intro same
            refine ⟨chosen, Or.inr ⟨?_, rfl⟩, same⟩
            intro other listed
            exact Bool.eq_false_iff.mpr (none other listed)
          · rintro ⟨cookie, isSid | ⟨-, rfl⟩, same⟩
            · cases isSid
            · exact same
      | none => simp

theorem Surroundings.random_ne_nil (surroundings : Surroundings) :
    surroundings.random.toList ≠ [] := by
  intro empty
  have drawn := surroundings.random.length_toList
  rw [empty] at drawn
  cases drawn

theorem generateProvisionalSignKey_eq (surroundings : Surroundings) :
    generateProvisionalSignKey surroundings =
      .ok ⟨surroundings.random.toList, surroundings.random_ne_nil⟩ := by
  rw [generateProvisionalSignKey, SignKey.fromBytes,
    dif_neg surroundings.random_ne_nil]
  rfl

theorem fromCookieSid_eq_ok_iff {md5 : Bytes → Bytes}
    {surroundings : Surroundings} {sidValue sidCookieName : Str}
    {sidSigPresent : Bool} {deviceId : DeviceId} {username : Option Str}
    {material : SessionMaterial} :
    fromCookieSid md5 surroundings sidValue sidCookieName sidSigPresent
        deviceId username none = .ok material ↔
      ∃ unixMicros, surroundings.unixMicros = some unixMicros ∧
        material.sid.asStr = sidValue ∧
        material.connectionId.asStr =
          upperHex (md5 (utf8 deviceId.asStr)) ++
            '-' :: decimalText unixMicros ∧
        material.signKey.bytes = surroundings.random.toList ∧
        material.signKeyProvisional = true ∧
        material.deviceId = deviceId ∧ material.username = username ∧
        material.sidCookieName = sidCookieName ∧
        material.sidSigPresent = sidSigPresent := by
  cases clock : surroundings.unixMicros with
  | none =>
      cases sid : Identifier.new sidValue <;>
        simp [fromCookieSid, sid, clock, Except.mapError, bind, Except.bind]
  | some unixMicros =>
      cases sid : Identifier.new sidValue with
      | error error =>
          constructor
          · intro made
            simp [fromCookieSid, sid, Except.mapError, bind,
              Except.bind] at made
          · rintro ⟨_, -, same, -⟩
            cases sid.symm.trans (Identifier.new_eq_ok_iff.mpr same)
      | ok sidIdentifier =>
          cases device : fromDeviceAt md5 deviceId unixMicros with
          | error error =>
              constructor
              · intro made
                simp [fromCookieSid, sid, clock, device, Except.mapError,
                  bind, Except.bind] at made
              · rintro ⟨_, isClock, -, same, -⟩
                cases Option.some_inj.mp isClock
                cases device.symm.trans (fromDeviceAt_eq_ok_iff.mpr same)
          | ok connectionId =>
              have sidText := Identifier.new_eq_ok_iff.mp sid
              have connectionText := fromDeviceAt_eq_ok_iff.mp device
              have made :
                  fromCookieSid md5 surroundings sidValue sidCookieName
                      sidSigPresent deviceId username none =
                    .ok
                      { sid := sidIdentifier, deviceId, connectionId,
                        signKey :=
                          ⟨surroundings.random.toList,
                            surroundings.random_ne_nil⟩
                        username, signKeyProvisional := true, sidCookieName,
                        sidSigPresent } := by
                simp [fromCookieSid, sid, clock, device,
                  generateProvisionalSignKey_eq, Except.mapError, bind,
                  Except.bind]
              rw [made, Except.ok.injEq]
              constructor
              · rintro rfl
                exact ⟨unixMicros, rfl, sidText, connectionText, rfl, rfl,
                  rfl, rfl, rfl, rfl⟩
              · rintro ⟨_, isClock, sameSid, sameConnection, sameKey,
                  provisional, sameDevice, sameUser, sameName, sameSig⟩
                cases Option.some_inj.mp isClock
                cases material
                rw [SessionMaterial.mk.injEq]
                exact ⟨Identifier.eq_of_asStr (sidText.trans sameSid.symm),
                  sameDevice.symm,
                  Identifier.eq_of_asStr
                    (connectionText.trans sameConnection.symm),
                  SignKey.eq_of_bytes sameKey.symm, sameUser.symm,
                  provisional.symm, sameName.symm, sameSig.symm⟩

/-- Material is assembled exactly from a jar whose `sid` cookie, or without any
the first `sid-legacy` cookie, has a text that can be an identifier, with the
clock not before the epoch: an empty `sid` is not passed over for a legacy
cookie. -/
theorem buildSessionMaterial_eq_ok_iff (md5 : Bytes → Bytes)
    (surroundings : Surroundings) (deviceId : DeviceId)
    (cookies : List GatewayCookie) (username : Option Str)
    (material : SessionMaterial) :
    buildSessionMaterial md5 surroundings deviceId cookies username =
        .ok material ↔
      ∃ cookie unixMicros, IsSidCookie cookies cookie ∧
        surroundings.unixMicros = some unixMicros ∧
        material.sid.asStr = cookie.value ∧
        material.connectionId.asStr =
          upperHex (md5 (utf8 deviceId.asStr)) ++
            '-' :: decimalText unixMicros ∧
        material.signKey.bytes = surroundings.random.toList ∧
        material.signKeyProvisional = true ∧
        material.deviceId = deviceId ∧ material.username = username ∧
        material.sidCookieName = cookie.name ∧
        material.sidSigPresent = sigPresent cookies cookie := by
  constructor
  · intro made
    cases extracted : extractSidFromCookies cookies with
    | error error =>
        simp [buildSessionMaterial, extracted, bind, Except.bind] at made
    | ok source =>
        obtain ⟨cookie, isSid, value, name, sig⟩ :=
          extractSidFromCookies_eq_ok_iff.mp extracted
        simp only [buildSessionMaterial, extracted, bind, Except.bind]
          at made
        obtain ⟨unixMicros, clock, known⟩ :=
          fromCookieSid_eq_ok_iff.mp made
        rw [value, name, sig] at known
        exact ⟨cookie, unixMicros, isSid, clock, known⟩
  · rintro ⟨cookie, unixMicros, isSid, clock, known⟩
    have present : cookie.value ≠ [] := by
      rw [← known.1]
      exact material.sid.present
    have extracted :
        extractSidFromCookies cookies =
          .ok ⟨cookie.value, present, cookie.name,
            sigPresent cookies cookie⟩ :=
      extractSidFromCookies_eq_ok_iff.mpr ⟨cookie, isSid, rfl, rfl, rfl⟩
    simp only [buildSessionMaterial, extracted, bind, Except.bind]
    exact fromCookieSid_eq_ok_iff.mpr ⟨unixMicros, clock, known⟩

example :
    (buildSessionMaterial id ⟨some 5, .replicate 32 7⟩
        ⟨['d'], by decide, by decide⟩
        [⟨"other".toList, ['o'], none, none, true, true⟩,
          ⟨"SID".toList, ['s'], none, none, true, true⟩] none).toOption.map
        (fun material =>
          (material.connectionId.asStr, material.signKey.bytes,
            material.sidCookieName)) =
      some ("64-5".toList, .replicate 32 7, "SID".toList) := by
  decide +kernel

/-! ## Reading while others save -/

/-- Every call saves a captured session, in JSON that can be read back. -/
def SavesLive (hex : HexCodec) (serde : Serde) : Action → Prop
  | .call _ _ target document =>
      Proper target ∧
        ∃ live,
          document = (StoredSession.capture hex live).document serde ∧
            serde.fromSlice document = some (StoredSession.capture hex live)
  | .step _ _ => True

theorem kept_advance {ticket : Ticket} {directory after : Directory Str Inode}
    {save later : Save} {step : Step}
    (stepped : save.advance ticket directory step = some (after, later)) :
    later.target = save.target ∧ later.document = save.document := by
  revert stepped
  fun_cases Save.advance ticket directory save step
  all_goals
    intro stepped
    simp only [Option.some.injEq, Prod.mk.injEq, reduceCtorEq] at stepped
  all_goals
    obtain ⟨-, rfl⟩ := stepped
    exact ⟨rfl, rfl⟩

/-- A call that is known has been made, with its target and document. -/
theorem called_of_saves {before : Directory Str Nat} {state : SaveState}
    {actions : List Action}
    (ran : run next (start before) actions = some state) :
    ∀ ticket save, state.saves ticket = some save →
      Action.call ticket.process ticket.stamp save.target save.document ∈
        actions := by
  refine invariant_of_history
    (fun past reached => ∀ ticket save, reached.saves ticket = some save →
      Action.call ticket.process ticket.stamp save.target save.document ∈
        past) ?_ ?_ ran
  · intro ticket save made
    cases made
  · intro past reached action after _ known stepped ticket save made
    cases action with
    | call process stamp target document =>
        by_cases same : ticket = ⟨process, stamp, reached.sequence process⟩
        · simp only [next, Option.some_inj] at stepped
          rw [same, ← stepped] at made
          dsimp only at made
          rw [Function.update_self, Option.some_inj] at made
          rw [same, ← made]
          simp
        · rw [saves_call_of_ne same stepped] at made
          exact List.mem_append_left _ (known ticket save made)
    | step other step =>
        obtain ⟨moving, directory, later, present, advanced, rfl⟩ :=
          next_step stepped
        apply List.mem_append_left
        by_cases same : ticket = other
        · subst same
          dsimp only at made
          rw [Function.update_self, Option.some_inj] at made
          rw [← made, (kept_advance advanced).1, (kept_advance advanced).2]
          exact known ticket moving present
        · dsimp only at made
          rw [Function.update_of_ne same] at made
          exact known ticket save made

/-- Whatever processes are saving, and wherever a crash stops them, what a
process loads from a target that has been saved to is the session of one of
the calls to that target, with the cookies it was captured with, accepted for
the gateway it was captured for, and its material is the very material that
was captured. -/
theorem loaded_session_captured {before : Directory Str Nat}
    {state : SaveState} {actions : List Action} {image : Directory Str Inode}
    {name : Str} {ticket : Ticket} {hex : HexCodec} {serde : Serde}
    (decodes : ∀ bytes, hex.decode (hex.encode bytes) = some bytes)
    (proper : Proper name)
    (calls : ∀ action ∈ actions, SavesLive hex serde action)
    (ran : run next (start before) actions = some state)
    (survives : state.directory.Survives image)
    (opened : image.entries name = some (.created ticket)) :
    ∃ live,
      Action.call ticket.process ticket.stamp name
          ((StoredSession.capture hex live).document serde) ∈ actions ∧
        ∃ session,
          StoredSession.load serde
              ((image.files (.created ticket)).map File.content) =
              .ok session ∧
            session.ensureGateway live.gateway = .ok () ∧
            session.gatewayCookies = live.cookies ∧
            session.toMaterial hex = .ok live.material := by
  have targets : Meets next ProperTarget (start before) actions := by
    apply meets_of_forall
    intro _ action listed
    cases action with
    | call process stamp target document => exact (calls _ listed).1
    | step other step => trivial
  have intact := target_intact proper targets ran survives
  rw [Intact, opened] at intact
  obtain ⟨save, made, isTarget, -, held⟩ := intact
  have called := called_of_saves ran ticket save made
  obtain ⟨-, live, isDocument, readable⟩ := calls _ called
  rw [isTarget, isDocument] at called
  refine ⟨live, called, StoredSession.capture hex live, ?_,
    StoredSession.ensureGateway_capture hex live,
    StoredSession.gatewayCookies_capture hex live,
    StoredSession.toMaterial_capture live decodes⟩
  rw [held, Option.map_some, StoredSession.load]
  simp only [Save.whole, readable]
  exact if_neg (not_not.mpr rfl)

def lowercase : HexCodec where
  encode := encodeHex
  decode := decodeHex

def sampleIdentifier : Identifier :=
  ⟨['7'], by decide, by decide⟩

def sampleLive : LiveSession where
  unixMs := 5
  gateway := ⟨"g", 443⟩
  loginMethod := .cas
  loginDomain := none
  cookies := [⟨"sid".toList, ['7'], none, none, true, true⟩]
  material :=
    { sid := sampleIdentifier
      deviceId := sampleIdentifier
      connectionId := sampleIdentifier
      signKey := ⟨[0xAB], by decide⟩
      username := none
      signKeyProvisional := true
      sidCookieName := "sid".toList
      sidSigPresent := false }

/-- The document of the session, as `serde_json` writes it. -/
def sampleText : String :=
  "\x7b\"version\":1,\"saved_unix_ms\":5,\"gateway_host\":\"g\"," ++
    "\"gateway_port\":443,\"login_method\":\"cas\"," ++
    "\"login_domain\":null,\"cookies\":[\x7b\"name\":\"sid\"," ++
    "\"value\":\"7\",\"domain\":null,\"path\":null," ++
    "\"secure\":true,\"http_only\":true\x7d],\"sid\":\"7\"," ++
    "\"sid_cookie_name\":\"sid\",\"sid_sig_present\":false," ++
    "\"device_id\":\"7\",\"connection_id\":\"7\"," ++
    "\"sign_key_hex\":\"ab\",\"sign_key_provisional\":true," ++
    "\"username\":null\x7d"

/-- What `serde_json` does with one session and its text. -/
def serdeOf (text : List UInt8) (session : StoredSession) : Serde where
  toWriter _ := text
  fromSlice bytes := if bytes = text ++ [0x0A] then some session else none

theorem fromSlice_serdeOf (text : List UInt8) (session : StoredSession) :
    (serdeOf text session).fromSlice (session.document (serdeOf text session)) =
      some session :=
  if_pos rfl

def sampleSerde : Serde :=
  serdeOf (utf8 sampleText.toList)
    (StoredSession.capture lowercase sampleLive)

def sampleDocument : List UInt8 :=
  (StoredSession.capture lowercase sampleLive).document sampleSerde

def savesSample : List Action :=
  Action.call 1 10 ['s'] sampleDocument ::
    completeSave firstTicket sampleDocument.length

theorem loaded_session_captured_sample :
    ∃ state,
      run next (start sampleDirectory) savesSample = some state ∧
        ∃ live,
          Action.call 1 10 ['s']
              ((StoredSession.capture lowercase live).document
                sampleSerde) ∈ savesSample ∧
            ∃ session,
              StoredSession.load sampleSerde
                  ((state.directory.files (.created firstTicket)).map
                    File.content) = .ok session ∧
                session.ensureGateway live.gateway = .ok () ∧
                session.gatewayCookies = live.cookies ∧
                session.toMaterial lowercase = .ok live.material := by
  obtain ⟨state, ran, opened⟩ := run_firstSave sampleDocument
  refine ⟨state, ran, ?_⟩
  have proper : Proper ['s'] := proper_of_visible (by decide) []
  refine loaded_session_captured decodeHex_encodeHex proper ?_ ran
    state.directory.survives_self opened
  intro action listed
  rcases List.mem_cons.mp listed with isCall | isStep
  · rw [isCall]
    exact ⟨proper, sampleLive, rfl, fromSlice_serdeOf _ _⟩
  · obtain ⟨step, -, isAction⟩ := List.mem_map.mp isStep
    rw [← isAction]
    trivial

end HermesAtrust.Auth
