import HermesAtrust.Client.Replacement
import HermesAtrust.Text.Decimal
import HermesAtrust.Text.Str

/-!
# The CAS challenge of a gateway

A login begins at a page that the gateway names and comes back to the gateway
with a ticket, once from the CAS service and at the end from the portal.  Both
tickets come in a URL that a browser has been sent to, so the URL is checked in
every component before its ticket is taken.  The URLs are parsed by a package
that is not part of the repository, and so is the JSON of the portal.
-/

namespace HermesAtrust.Auth.Cas

open HermesAtrust.Text
open HermesAtrust.Client.Replacement (GatewayEndpoint)

/-- What is read of a parsed URL. -/
structure Url where
  asStr : Str
  scheme : Str
  authority : Str
  path : Str
  queryPairs : List (Str × Str)
  fragment : Option Str
  username : Str
  password : Option Str
  deriving DecidableEq

/-- What `Url::parse` and `Url::join` do. -/
structure UrlParser where
  parse : Str → Option Url
  join : Url → Str → Option Url

/-- A text that is not empty. -/
structure SecretString where
  expose : Str
  present : expose ≠ []

inductive CasError where
  | missingLoginUrl
  | invalidLoginUrl
  | invalidGatewayUrl
  | insecureLoginUrl
  | invalidCallbackScheme
  | invalidCallbackAuthority
  | invalidCallbackPath
  | invalidCallbackUrl
  | callbackTooLong
  | invalidTicketCount
  | ticketTooLong
  | loginDomainMismatch
  | missingTicket
  | invalidPortalScheme
  | invalidPortalAuthority
  | invalidPortalPath
  | invalidPortalUrl
  | portalUrlTooLong
  | invalidPortalData
  | missingPortalTicket
  deriving DecidableEq, Repr

def maxCallbackUrlLength : Nat :=
  16 * 1024

def maxServiceTicketLength : Nat :=
  8 * 1024

def maxPortalUrlLength : Nat :=
  16 * 1024

def callbackPath : Str :=
  "/passport/v1/auth/cas".toList

def portalCompletionPath : Str :=
  "/portal/shortcut.html".toList

def https : Str :=
  "https".toList

/-- `auth_authority`. -/
def authAuthority (endpoint : GatewayEndpoint) : Str :=
  let host := endpoint.host.toList
  let bracketed :=
    if host.contains ':' ∧ host.head? ≠ some '[' then
      '[' :: host ++ [']']
    else
      host
  if endpoint.port = 443 then
    bracketed
  else
    bracketed ++ ':' :: decimalText endpoint.port.toNat

/-- The text that every URL of a gateway is made from. -/
def endpointText (endpoint : GatewayEndpoint) : Str :=
  "https://".toList ++ authAuthority endpoint ++ ['/']

structure CasChallenge where
  loginUrl : Url
  loginDomain : Str
  callbackUrl : Url
  portalUrl : Url
  deriving DecidableEq

structure CasCallbackCredential where
  serviceTicket : SecretString
  loginDomain : Str
  callbackAuthority : Str

/-- What a URL must be for its ticket to be taken, and the errors for what it
is not. -/
structure TargetRules where
  maxLength : Nat
  authority : Str
  path : Str
  tooLong : CasError
  invalidScheme : CasError
  invalidAuthority : CasError
  invalidPath : CasError
  invalidUrl : CasError

def TargetRules.check (rules : TargetRules) (url : Url) :
    Except CasError Unit :=
  if rules.maxLength < byteLen url.asStr then
    .error rules.tooLong
  else if url.scheme ≠ https then
    .error rules.invalidScheme
  else if url.authority ≠ rules.authority then
    .error rules.invalidAuthority
  else if url.path ≠ rules.path then
    .error rules.invalidPath
  else if url.fragment.isSome ∨ url.username ≠ [] ∨ url.password.isSome then
    .error rules.invalidUrl
  else
    .ok ()

/-- A URL that passes. -/
structure TargetRules.Trusts (rules : TargetRules) (url : Url) : Prop where
  short : byteLen url.asStr ≤ rules.maxLength
  scheme : url.scheme = https
  authority : url.authority = rules.authority
  path : url.path = rules.path
  plain : url.fragment = none ∧ url.username = [] ∧ url.password = none

/-- The values of the query pairs of a name. -/
def Url.values (url : Url) (name : String) : List Str :=
  (url.queryPairs.filter fun pair => pair.1 = name.toList).map Prod.snd

def portalRules (expectedAuthority : Str) : TargetRules where
  maxLength := maxPortalUrlLength
  authority := expectedAuthority
  path := portalCompletionPath
  tooLong := .portalUrlTooLong
  invalidScheme := .invalidPortalScheme
  invalidAuthority := .invalidPortalAuthority
  invalidPath := .invalidPortalPath
  invalidUrl := .invalidPortalUrl

/-- The ticket of a portal URL; `portalTicket` reads it from the JSON. -/
def parsePortalTicket (portalTicket : Str → Option Str) (location : Url)
    (expectedAuthority : Str) : Except CasError SecretString := do
  (portalRules expectedAuthority).check location
  match location.values "data" with
  | [data] =>
      match portalTicket data with
      | none => .error .invalidPortalData
      | some ticket =>
          if present : ticket = [] then
            .error .missingPortalTicket
          else
            .ok ⟨ticket, present⟩
  | _ => .error .missingPortalTicket

namespace CasChallenge

def new (urls : UrlParser) (endpoint : GatewayEndpoint)
    (loginDomain loginUrl : Str) : Except CasError CasChallenge :=
  if loginUrl = [] then
    .error .missingLoginUrl
  else
    match urls.parse (endpointText endpoint) with
    | none => .error .invalidGatewayUrl
    | some baseUrl =>
        match urls.join baseUrl loginUrl with
        | none => .error .invalidLoginUrl
        | some loginUrl =>
            if loginUrl.scheme ≠ https then
              .error .insecureLoginUrl
            else
              match urls.join baseUrl callbackPath,
                  urls.join baseUrl portalCompletionPath with
              | some callbackUrl, some portalUrl =>
                  .ok { loginUrl, loginDomain, callbackUrl, portalUrl }
              | _, _ => .error .invalidGatewayUrl

def isCallbackTarget (challenge : CasChallenge) (callback : Url) : Bool :=
  callback.scheme == https &&
    callback.authority == challenge.callbackUrl.authority &&
    callback.path == callbackPath

def isCompletionTarget (challenge : CasChallenge) (url : Url) : Bool :=
  url.scheme == https && url.authority == challenge.portalUrl.authority &&
    url.path == portalCompletionPath

def callbackRules (challenge : CasChallenge) : TargetRules where
  maxLength := maxCallbackUrlLength
  authority := challenge.callbackUrl.authority
  path := callbackPath
  tooLong := .callbackTooLong
  invalidScheme := .invalidCallbackScheme
  invalidAuthority := .invalidCallbackAuthority
  invalidPath := .invalidCallbackPath
  invalidUrl := .invalidCallbackUrl

def finish (challenge : CasChallenge) (callback : Url) :
    Except CasError CasCallbackCredential := do
  challenge.callbackRules.check callback
  match callback.values "ticket" with
  | [ticket] =>
      if callback.values "sfDomain" ≠ [challenge.loginDomain] then
        .error .loginDomainMismatch
      else if present : ticket = [] then
        .error .missingTicket
      else if maxServiceTicketLength < byteLen ticket then
        .error .ticketTooLong
      else
        .ok
          ⟨⟨ticket, present⟩, challenge.loginDomain,
            challenge.callbackUrl.authority⟩
  | _ => .error .invalidTicketCount

def finishCompletion (portalTicket : Str → Option Str)
    (challenge : CasChallenge) (completion : Url) :
    Except CasError SecretString :=
  parsePortalTicket portalTicket completion challenge.portalUrl.authority

end CasChallenge

/-! ## The exchange of a credential -/

inductive AuthError where
  | invalidUrl
  | cas (error : CasError)
  | casCredentialGatewayMismatch
  | transport
  | unexpectedCasStatus (status : UInt16)
  | missingCasRedirect
  | invalidCasRedirect
  | invalidCasRedirectTarget
  | invalidPortalData (error : CasError)
  | missingPortalTicket
  deriving DecidableEq, Repr

def AuthError.fromPortalError : CasError → AuthError
  | .invalidPortalScheme => .invalidCasRedirectTarget
  | .invalidPortalAuthority => .invalidCasRedirectTarget
  | .invalidPortalPath => .invalidCasRedirectTarget
  | .invalidPortalUrl => .invalidCasRedirectTarget
  | .portalUrlTooLong => .invalidCasRedirectTarget
  | .invalidPortalData => .invalidPortalData .invalidPortalData
  | .missingPortalTicket => .missingPortalTicket
  | other => .cas other

/-- A URL of the gateway: the one that is parsed, the path that is set on it
and the pairs that are appended to its query. -/
structure EndpointUrl where
  base : Url
  path : Str
  query : List (Str × Str)
  deriving DecidableEq

def endpointUrl (urls : UrlParser) (endpoint : GatewayEndpoint)
    (path : Str) : Except AuthError EndpointUrl :=
  match urls.parse (endpointText endpoint) with
  | none => .error .invalidUrl
  | some base => .ok { base, path, query := [] }

/-- The URL with the domain and the ticket of a credential in its query. -/
def EndpointUrl.withCredential (url : EndpointUrl)
    (credential : CasCallbackCredential) : EndpointUrl :=
  { url with
    query :=
      url.query ++
        [("sfDomain".toList, credential.loginDomain),
          ("ticket".toList, credential.serviceTicket.expose)] }

structure HttpResponse where
  status : UInt16
  location : Option Str
  deriving DecidableEq

/-- What `exchange_cas_credential` makes of the response. -/
def readCasResponse (urls : UrlParser) (portalTicket : Str → Option Str)
    (endpoint : GatewayEndpoint) (response : HttpResponse) :
    Except AuthError SecretString :=
  if response.status ≠ 302 then
    .error (.unexpectedCasStatus response.status)
  else
    match response.location with
    | none => .error .missingCasRedirect
    | some location =>
        match urls.parse location with
        | none => .error .invalidCasRedirect
        | some redirect =>
            (parsePortalTicket portalTicket redirect
              (authAuthority endpoint)).mapError
              AuthError.fromPortalError

/-- `exchange_cas_credential`: its result and the URLs that it requests. -/
def exchangeCasCredential (urls : UrlParser) (portalTicket : Str → Option Str)
    (endpoint : GatewayEndpoint) (credential : CasCallbackCredential)
    (execute : EndpointUrl → Option HttpResponse) :
    Except AuthError SecretString × List EndpointUrl :=
  if credential.callbackAuthority ≠ authAuthority endpoint then
    (.error .casCredentialGatewayMismatch, [])
  else
    match endpointUrl urls endpoint callbackPath with
    | .error error => (.error error, [])
    | .ok url =>
        let request := url.withCredential credential
        match execute request with
        | none => (.error .transport, [request])
        | some response =>
            (readCasResponse urls portalTicket endpoint response, [request])

/-! ## Which tickets are taken -/

theorem check_eq_ok_iff {rules : TargetRules} {url : Url} :
    rules.check url = .ok () ↔ rules.Trusts url := by
  rw [TargetRules.check]
  constructor
  · intro passed
    split at passed
    · cases passed
    rename_i short
    split at passed
    · cases passed
    rename_i scheme
    split at passed
    · cases passed
    rename_i authority
    split at passed
    · cases passed
    rename_i path
    split at passed
    · cases passed
    rename_i plain
    simp only [not_or, not_not, Option.not_isSome_iff_eq_none] at plain
    exact ⟨Nat.le_of_not_lt short, not_not.mp scheme, not_not.mp authority,
      not_not.mp path, plain⟩
  · intro trusted
    rw [if_neg (Nat.not_lt_of_le trusted.short),
      if_neg (not_not.mpr trusted.scheme),
      if_neg (not_not.mpr trusted.authority),
      if_neg (not_not.mpr trusted.path), if_neg]
    simp [trusted.plain]

/-- A check in front of a result. -/
theorem bind_check_eq_ok_iff {rules : TargetRules} {url : Url} {Value : Type}
    {next : Unit → Except CasError Value} {value : Value} :
    (rules.check url >>= next) = .ok value ↔
      rules.Trusts url ∧ next () = .ok value := by
  rw [← check_eq_ok_iff]
  cases rules.check url with
  | error error => simp [bind, Except.bind]
  | ok passed => simp [bind, Except.bind]

theorem parsePortalTicket_eq_ok_iff {portalTicket : Str → Option Str}
    {location : Url} {authority : Str} {secret : SecretString} :
    parsePortalTicket portalTicket location authority = .ok secret ↔
      (portalRules authority).Trusts location ∧
        ∃ data, location.values "data" = [data] ∧
          portalTicket data = some secret.expose := by
  rw [parsePortalTicket, bind_check_eq_ok_iff, and_congr_right_iff]
  intro _
  constructor
  · intro taken
    split at taken
    · rename_i data isData
      split at taken
      · cases taken
      · rename_i ticket read
        split at taken
        · cases taken
        · cases taken
          exact ⟨data, isData, read⟩
    · cases taken
  · rintro ⟨data, isData, read⟩
    rw [isData]
    simp only [read, secret.present, dite_false]

theorem finish_eq_ok_iff {challenge : CasChallenge} {callback : Url}
    {credential : CasCallbackCredential} :
    challenge.finish callback = .ok credential ↔
      challenge.callbackRules.Trusts callback ∧
        callback.values "ticket" = [credential.serviceTicket.expose] ∧
        callback.values "sfDomain" = [challenge.loginDomain] ∧
        byteLen credential.serviceTicket.expose ≤ maxServiceTicketLength ∧
        credential.loginDomain = challenge.loginDomain ∧
        credential.callbackAuthority = challenge.callbackUrl.authority := by
  rw [CasChallenge.finish, bind_check_eq_ok_iff, and_congr_right_iff]
  intro _
  constructor
  · intro taken
    split at taken
    · rename_i ticket isTicket
      split at taken
      · cases taken
      rename_i sameDomain
      split at taken
      · cases taken
      split at taken
      · cases taken
      rename_i short
      cases taken
      exact ⟨isTicket, not_not.mp sameDomain, Nat.le_of_not_lt short, rfl,
        rfl⟩
    · cases taken
  · rintro ⟨isTicket, sameDomain, short, domain, authority⟩
    rw [isTicket]
    simp only [sameDomain, ne_eq, not_true_eq_false, if_false,
      credential.serviceTicket.present, dite_false,
      if_neg (Nat.not_lt_of_le short)]
    rw [← domain, ← authority]

/-- Only a callback target is accepted as a callback. -/
theorem isCallbackTarget_of_finish {challenge : CasChallenge} {callback : Url}
    {credential : CasCallbackCredential}
    (finished : challenge.finish callback = .ok credential) :
    challenge.isCallbackTarget callback = true := by
  obtain ⟨trusted, -⟩ := finish_eq_ok_iff.mp finished
  rw [CasChallenge.isCallbackTarget, trusted.scheme, trusted.authority,
    trusted.path]
  simp [CasChallenge.callbackRules]

/-- A portal ticket is harvested at the completion page only. -/
theorem isCompletionTarget_of_finishCompletion
    {portalTicket : Str → Option Str} {challenge : CasChallenge}
    {completion : Url} {secret : SecretString}
    (finished :
      challenge.finishCompletion portalTicket completion = .ok secret) :
    challenge.isCompletionTarget completion = true := by
  obtain ⟨trusted, -⟩ := parsePortalTicket_eq_ok_iff.mp finished
  rw [CasChallenge.isCompletionTarget, trusted.scheme, trusted.authority,
    trusted.path]
  simp [portalRules]

theorem endpointUrl_eq_ok_iff {urls : UrlParser} {endpoint : GatewayEndpoint}
    {path : Str} {url : EndpointUrl} :
    endpointUrl urls endpoint path = .ok url ↔
      ∃ base, urls.parse (endpointText endpoint) = some base ∧
        url = ⟨base, path, []⟩ := by
  rw [endpointUrl]
  cases urls.parse (endpointText endpoint) with
  | none => simp
  | some base => simp [eq_comm]

theorem readCasResponse_eq_ok_iff {urls : UrlParser}
    {portalTicket : Str → Option Str} {endpoint : GatewayEndpoint}
    {response : HttpResponse} {secret : SecretString} :
    readCasResponse urls portalTicket endpoint response = .ok secret ↔
      response.status = 302 ∧
        ∃ location redirect, response.location = some location ∧
          urls.parse location = some redirect ∧
          parsePortalTicket portalTicket redirect (authAuthority endpoint) =
            .ok secret := by
  rw [readCasResponse]
  constructor
  · intro taken
    split at taken
    · cases taken
    rename_i isRedirect
    split at taken
    · cases taken
    rename_i location isLocation
    split at taken
    · cases taken
    rename_i redirect parsed
    refine ⟨not_not.mp isRedirect, location, redirect, isLocation, parsed, ?_⟩
    cases read :
        parsePortalTicket portalTicket redirect (authAuthority endpoint) with
    | error error => simp [read, Except.mapError] at taken
    | ok ticket =>
        have same : ticket = secret := by
          simpa [read, Except.mapError] using taken
        rw [same]
  · rintro ⟨isRedirect, location, redirect, isLocation, parsed, read⟩
    simp only [isRedirect, isLocation, parsed, read, ne_eq, not_true_eq_false,
      if_false]
    rfl

/-- A credential of another gateway is sent in no request. -/
theorem exchange_of_ne {urls : UrlParser} {portalTicket : Str → Option Str}
    {endpoint : GatewayEndpoint} {credential : CasCallbackCredential}
    {execute : EndpointUrl → Option HttpResponse}
    (other : credential.callbackAuthority ≠ authAuthority endpoint) :
    exchangeCasCredential urls portalTicket endpoint credential execute =
      (.error .casCredentialGatewayMismatch, []) := by
  rw [exchangeCasCredential, if_pos other]

/-- A credential of the gateway is sent in one request, whatever comes of it,
unless the gateway has no URL. -/
theorem requests_of_eq {urls : UrlParser} {portalTicket : Str → Option Str}
    {endpoint : GatewayEndpoint} {credential : CasCallbackCredential}
    {execute : EndpointUrl → Option HttpResponse}
    (own : credential.callbackAuthority = authAuthority endpoint) :
    (exchangeCasCredential urls portalTicket endpoint credential execute).2 =
      ((urls.parse (endpointText endpoint)).map fun base =>
        EndpointUrl.withCredential ⟨base, callbackPath, []⟩
          credential).toList := by
  rw [exchangeCasCredential, if_neg (not_not.mpr own), endpointUrl]
  cases urls.parse (endpointText endpoint) with
  | none => rfl
  | some base =>
      simp only [Option.map_some, Option.toList_some]
      split <;> rfl

theorem exchange_eq_ok_iff {urls : UrlParser}
    {portalTicket : Str → Option Str} {endpoint : GatewayEndpoint}
    {credential : CasCallbackCredential}
    {execute : EndpointUrl → Option HttpResponse} {secret : SecretString}
    {requests : List EndpointUrl} :
    exchangeCasCredential urls portalTicket endpoint credential execute =
        (.ok secret, requests) ↔
      credential.callbackAuthority = authAuthority endpoint ∧
        ∃ base response location redirect,
          urls.parse (endpointText endpoint) = some base ∧
          requests =
            [EndpointUrl.withCredential ⟨base, callbackPath, []⟩
              credential] ∧
          execute
              (EndpointUrl.withCredential ⟨base, callbackPath, []⟩
                credential) =
            some response ∧
          response.status = 302 ∧ response.location = some location ∧
          urls.parse location = some redirect ∧
          parsePortalTicket portalTicket redirect (authAuthority endpoint) =
            .ok secret := by
  by_cases own : credential.callbackAuthority = authAuthority endpoint
  · rw [exchangeCasCredential, if_neg (not_not.mpr own)]
    simp only [own, true_and]
    constructor
    · intro exchanged
      split at exchanged
      · cases exchanged
      rename_i url isUrl
      obtain ⟨base, parsed, rfl⟩ := endpointUrl_eq_ok_iff.mp isUrl
      split at exchanged
      · cases exchanged
      rename_i response answered
      obtain ⟨taken, rfl⟩ := Prod.mk.injEq .. ▸ exchanged
      obtain ⟨isRedirect, location, redirect, rest⟩ :=
        readCasResponse_eq_ok_iff.mp taken
      exact ⟨base, response, location, redirect, parsed, rfl, answered,
        isRedirect, rest⟩
    · rintro ⟨base, response, location, redirect, parsed, rfl, answered,
        isRedirect, rest⟩
      rw [endpointUrl_eq_ok_iff.mpr ⟨base, parsed, rfl⟩]
      simp only [answered]
      rw [readCasResponse_eq_ok_iff.mpr
        ⟨isRedirect, location, redirect, rest⟩]
  · rw [exchange_of_ne own]
    simp [own]

/-- A callback is exchanged for a portal ticket exactly if it is the gateway's
own in every component with one ticket for the domain of the login, and the
gateway answers the one request that this ticket is sent in with a redirect to
its own portal that holds one ticket.  Whatever comes of it, a credential of
another gateway is sent in no request and one of the gateway in that request
alone; and the browser is told to stop at each page a ticket is taken from. -/
theorem callback_exchanged_iff (urls : UrlParser)
    (portalTicket : Str → Option Str) (endpoint : GatewayEndpoint)
    (challenge : CasChallenge)
    (execute : EndpointUrl → Option HttpResponse) :
    (∀ callback secret requests,
      (∃ credential, challenge.finish callback = .ok credential ∧
          exchangeCasCredential urls portalTicket endpoint credential
              execute =
            (.ok secret, requests)) ↔
        challenge.callbackRules.Trusts callback ∧
          challenge.callbackUrl.authority = authAuthority endpoint ∧
          ∃ base ticket response location redirect data,
            urls.parse (endpointText endpoint) = some base ∧
            callback.values "ticket" = [ticket] ∧ ticket ≠ [] ∧
            byteLen ticket ≤ maxServiceTicketLength ∧
            callback.values "sfDomain" = [challenge.loginDomain] ∧
            requests =
              [⟨base, callbackPath,
                [("sfDomain".toList, challenge.loginDomain),
                  ("ticket".toList, ticket)]⟩] ∧
            execute
                ⟨base, callbackPath,
                  [("sfDomain".toList, challenge.loginDomain),
                    ("ticket".toList, ticket)]⟩ =
              some response ∧
            response.status = 302 ∧ response.location = some location ∧
            urls.parse location = some redirect ∧
            (portalRules (authAuthority endpoint)).Trusts redirect ∧
            redirect.values "data" = [data] ∧
            portalTicket data = some secret.expose) ∧
      (∀ credential : CasCallbackCredential,
        (credential.callbackAuthority ≠ authAuthority endpoint →
          exchangeCasCredential urls portalTicket endpoint credential
              execute =
            (.error .casCredentialGatewayMismatch, [])) ∧
          (credential.callbackAuthority = authAuthority endpoint →
            (exchangeCasCredential urls portalTicket endpoint credential
                execute).2 =
              ((urls.parse (endpointText endpoint)).map fun base =>
                ⟨base, callbackPath,
                  [("sfDomain".toList, credential.loginDomain),
                    ("ticket".toList,
                      credential.serviceTicket.expose)]⟩).toList)) ∧
      (∀ callback credential, challenge.finish callback = .ok credential →
        challenge.isCallbackTarget callback = true) ∧
      ∀ completion secret,
        challenge.finishCompletion portalTicket completion = .ok secret →
          challenge.isCompletionTarget completion = true := by
  refine ⟨fun callback secret requests => ⟨?_, ?_⟩, fun credential =>
    ⟨exchange_of_ne, requests_of_eq⟩, fun callback credential =>
    isCallbackTarget_of_finish, fun completion secret =>
    isCompletionTarget_of_finishCompletion⟩
  · rintro ⟨credential, finished, exchanged⟩
    obtain ⟨trusted, isTicket, sameDomain, short, domain, authority⟩ :=
      finish_eq_ok_iff.mp finished
    obtain ⟨own, base, response, location, redirect, gateway, asked, answered,
      isRedirect, isLocation, parsed, read⟩ := exchange_eq_ok_iff.mp exchanged
    obtain ⟨portal, data, isData, isSecret⟩ :=
      parsePortalTicket_eq_ok_iff.mp read
    rw [EndpointUrl.withCredential, domain] at asked answered
    exact ⟨trusted, authority ▸ own, base, _, response, location, redirect,
      data, gateway, isTicket, credential.serviceTicket.present, short,
      sameDomain, asked, answered, isRedirect, isLocation, parsed, portal,
      isData, isSecret⟩
  · rintro ⟨trusted, own, base, ticket, response, location, redirect, data,
      gateway, isTicket, present, short, sameDomain, asked, answered,
      isRedirect, isLocation, parsed, portal, isData, isSecret⟩
    refine ⟨⟨⟨ticket, present⟩, challenge.loginDomain,
      challenge.callbackUrl.authority⟩, ?_, ?_⟩
    · exact finish_eq_ok_iff.mpr
        ⟨trusted, isTicket, sameDomain, short, rfl, rfl⟩
    · exact exchange_eq_ok_iff.mpr
        ⟨own, base, response, location, redirect, gateway, asked, answered,
          isRedirect, isLocation, parsed,
          parsePortalTicket_eq_ok_iff.mpr ⟨portal, data, isData, isSecret⟩⟩

end HermesAtrust.Auth.Cas
