import HermesAtrust.Collections.HashTable
import HermesAtrust.Text.Lines
import Mathlib.Data.Char
import Mathlib.Data.List.Dedup
import Mathlib.Data.List.Lex
import Mathlib.Data.List.Sort

/-!
# Importing the cookies of a gateway

`import_gateway_cookies` checks the cookies of a batch one after the other and
hands each to the cookie jar as soon as it has passed; the names and the values
of the batch are recorded behind the loop.  The jar is the sequence of
`add_cookie_str` calls that it has received.
-/

namespace HermesAtrust.Transport

open HermesAtrust.Collections HermesAtrust.Framing HermesAtrust.Text

/-- What is read of a parsed URL.  Its host has no white space. -/
structure Url where
  scheme : Str
  hostStr : Option Str
  visible : ∀ host ∈ hostStr, ∀ char ∈ host, isWhitespace char = false

structure GatewayCookie where
  name : Str
  value : Str
  domain : Option Str
  path : Option Str
  secure : Bool
  httpOnly : Bool
  deriving DecidableEq, Repr

/-- The errors of the import. -/
inductive HttpTransportError where
  | invalidCookieOrigin
  | invalidCookieName
  | invalidCookieValue
  deriving DecidableEq, Repr

structure ReqwestTransport where
  jar : List (Str × Url)
  importedCookieNames : HashTable Str (List Str)
  importedCookieValues : HashTable Str (HashTable Str Str)

/-! ## The checks of one cookie -/

/-- `validate_cookie_token`. -/
def validateCookieToken (value : Str) : Bool :=
  decide (value ≠ []) &&
    (utf8 value).all fun byte =>
      isAsciiAlphanumeric byte || byte == 0x2d || byte == 0x5f ||
        byte == 0x2e || byte == 0x21

/-- `char::is_control`. -/
def isControl (char : Char) : Bool :=
  char.toNat < 0x20 || (0x7f ≤ char.toNat && char.toNat ≤ 0x9f)

def validCookieValue (value : Str) : Bool :=
  decide (value ≠ []) &&
    !value.any fun char => isControl char || char == ';' || char == ','

/-- The domain of a cookie, which is the host of the origin if it has none. -/
def cookieDomain (originHost : Str) (cookie : GatewayCookie) : Str :=
  (((cookie.domain.map trim).filter fun domain => domain ≠ []).getD
    originHost).dropWhile (· == '.')

/-- The domain is the host or a domain above it. -/
def coversHost (originHost domain : Str) : Bool :=
  eqIgnoreAsciiCase domain originHost ||
    ('.' :: toAsciiLowercase domain).isSuffixOf (toAsciiLowercase originHost)

def cookiePath (cookie : GatewayCookie) : Str :=
  (cookie.path.filter fun path => path.head? = some '/').getD ['/']

/-- The text of an accepted cookie. -/
def setCookieText (origin : Url) (originHost : Str) (cookie : GatewayCookie) :
    Str :=
  let secure := cookie.secure || origin.scheme == "https".toList
  cookie.name ++ '=' :: cookie.value ++ "; Domain=".toList ++
    cookieDomain originHost cookie ++ "; Path=".toList ++ cookiePath cookie ++
    (if secure then "; Secure".toList else []) ++
    (if cookie.httpOnly then "; HttpOnly".toList else [])

/-- One turn of the loop: what is added to the jar. -/
def setCookie (origin : Url) (originHost : Str) (cookie : GatewayCookie) :
    Except HttpTransportError Str :=
  if validateCookieToken cookie.name = false then
    .error .invalidCookieName
  else if validCookieValue cookie.value = false then
    .error .invalidCookieValue
  else if coversHost originHost (cookieDomain originHost cookie) = false then
    .error .invalidCookieOrigin
  else
    .ok (setCookieText origin originHost cookie)

/-! ## A batch -/

/-- The loop over the batch. -/
def addCookies (origin : Url) (originHost : Str) :
    List GatewayCookie → List (Str × Url) →
      Except HttpTransportError Unit × List (Str × Url)
  | [], jar => (.ok (), jar)
  | cookie :: later, jar =>
      match setCookie origin originHost cookie with
      | .error error => (.error error, jar)
      | .ok text => addCookies origin originHost later (jar ++ [(text, origin)])

/-- `sort` and `dedup`. -/
def sortDedup (names : List Str) : List Str :=
  (names.mergeSort fun first second => decide (first ≤ second)).dedup

def recordNames (hostKey : Str) (names : List Str)
    (table : HashTable Str (List Str)) : HashTable Str (List Str) :=
  match table.lookup hostKey with
  | some existing => table.insert hostKey (sortDedup (existing ++ names))
  | none => table.insert hostKey names

def recordValues (hostKey : Str) (cookies : List GatewayCookie)
    (table : HashTable Str (HashTable Str Str)) :
    HashTable Str (HashTable Str Str) :=
  table.insert hostKey
    (cookies.foldl
      (fun entry cookie => entry.insert (toAsciiLowercase cookie.name) cookie.value)
      ((table.lookup hostKey).getD ∅))

def importGatewayCookies (transport : ReqwestTransport) (origin : Url)
    (cookies : List GatewayCookie) :
    Except HttpTransportError Unit × ReqwestTransport :=
  if origin.scheme ≠ "https".toList then
    (.error .invalidCookieOrigin, transport)
  else
    match origin.hostStr with
    | none => (.error .invalidCookieOrigin, transport)
    | some originHost =>
        match addCookies origin originHost cookies transport.jar with
        | (.error error, jar) => (.error error, { transport with jar := jar })
        | (.ok (), jar) =>
            let hostKey := toAsciiLowercase originHost
            let names := sortDedup (cookies.map GatewayCookie.name)
            (.ok (),
              { jar := jar
                importedCookieNames :=
                  recordNames hostKey names transport.importedCookieNames
                importedCookieValues :=
                  recordValues hostKey cookies
                    transport.importedCookieValues })

/-! ## Which batches leave something behind -/

/-- The checks that a cookie passes on its own. -/
def Accepted (originHost : Str) (cookie : GatewayCookie) : Prop :=
  validateCookieToken cookie.name = true ∧
    validCookieValue cookie.value = true ∧
    coversHost originHost (cookieDomain originHost cookie) = true

/-- A cookie fails behind one that has passed. -/
def RejectedBehindFirst (origin : Url) (cookies : List GatewayCookie) : Prop :=
  ∃ host first later,
    origin.scheme = "https".toList ∧ origin.hostStr = some host ∧
      cookies = first :: later ∧ Accepted host first ∧
      ∃ cookie ∈ later, ¬Accepted host cookie

section Batch

variable {origin : Url} {originHost : Str}

theorem setCookie_accepted {cookie : GatewayCookie}
    (accepted : Accepted originHost cookie) :
    setCookie origin originHost cookie =
      .ok (setCookieText origin originHost cookie) := by
  obtain ⟨name, value, domain⟩ := accepted
  rw [setCookie, name, value, domain]
  rfl

theorem setCookie_rejected (origin : Url) {cookie : GatewayCookie}
    (rejected : ¬Accepted originHost cookie) :
    ∃ error, setCookie origin originHost cookie = .error error := by
  rw [setCookie]
  by_cases name : validateCookieToken cookie.name = false
  · exact ⟨_, if_pos name⟩
  by_cases value : validCookieValue cookie.value = false
  · exact ⟨_, (if_neg name).trans (if_pos value)⟩
  by_cases domain :
      coversHost originHost (cookieDomain originHost cookie) = false
  · exact ⟨_, (if_neg name).trans ((if_neg value).trans (if_pos domain))⟩
  · rw [Bool.not_eq_false] at name value domain
    exact absurd ⟨name, value, domain⟩ rejected

/-- A batch of accepted cookies is added whole. -/
theorem addCookies_accepted {cookies : List GatewayCookie}
    (accepted : ∀ cookie ∈ cookies, Accepted originHost cookie)
    (jar : List (Str × Url)) :
    addCookies origin originHost cookies jar =
      (.ok (),
        jar ++ cookies.map fun cookie =>
          (setCookieText origin originHost cookie, origin)) := by
  induction cookies generalizing jar with
  | nil => rw [addCookies, List.map_nil, List.append_nil]
  | cons cookie later inductionHypothesis =>
      have parts := List.forall_mem_cons.mp accepted
      rw [addCookies, setCookie_accepted parts.1]
      simp only
      rw [inductionHypothesis parts.2, List.append_assoc, List.map_cons,
        List.singleton_append]

/-- A batch with a rejected cookie is refused, and the cookies before it are
in the jar. -/
theorem addCookies_rejected (origin : Url) {before : List GatewayCookie}
    {cookie : GatewayCookie} (later : List GatewayCookie)
    (accepted : ∀ cookie ∈ before, Accepted originHost cookie)
    (rejected : ¬Accepted originHost cookie) (jar : List (Str × Url)) :
    ∃ error,
      addCookies origin originHost (before ++ cookie :: later) jar =
        (.error error,
          jar ++ before.map fun cookie =>
            (setCookieText origin originHost cookie, origin)) := by
  induction before generalizing jar with
  | nil =>
      obtain ⟨error, failed⟩ := setCookie_rejected origin rejected
      refine ⟨error, ?_⟩
      rw [List.nil_append, addCookies, failed, List.map_nil, List.append_nil]
  | cons first rest inductionHypothesis =>
      have parts := List.forall_mem_cons.mp accepted
      obtain ⟨error, failed⟩ :=
        inductionHypothesis parts.2
          (jar ++ [(setCookieText origin originHost first, origin)])
      refine ⟨error, ?_⟩
      rw [List.cons_append, addCookies, setCookie_accepted parts.1]
      simp only
      rw [failed, List.append_assoc, List.map_cons, List.singleton_append]

end Batch

instance (originHost : Str) (cookie : GatewayCookie) :
    Decidable (Accepted originHost cookie) :=
  inferInstanceAs (Decidable (_ ∧ _ ∧ _))

/-- The first rejected cookie of a batch. -/
theorem exists_first_rejected {originHost : Str}
    {cookies : List GatewayCookie}
    (rejected : ∃ cookie ∈ cookies, ¬Accepted originHost cookie) :
    ∃ before cookie later, cookies = before ++ cookie :: later ∧
      (∀ other ∈ before, Accepted originHost other) ∧
      ¬Accepted originHost cookie := by
  obtain ⟨rejectedOne, member, fails⟩ := rejected
  cases found : cookies.find? fun cookie => ¬Accepted originHost cookie with
  | none =>
      have passes := List.find?_eq_none.mp found rejectedOne member
      exact absurd (decide_eq_true fails) passes
  | some cookie =>
      obtain ⟨isRejected, before, later, whole, passed⟩ :=
        List.find?_eq_some_iff_append.mp found
      refine ⟨before, cookie, later, whole, ?_, of_decide_eq_true isRejected⟩
      intro other inBefore
      simpa using passed other inBefore

section Import

variable {origin : Url} {host : Str} {cookies : List GatewayCookie}

/-- A refused batch leaves the cookies before the first rejected one in the
jar, and nothing else. -/
theorem importGatewayCookies_rejected (transport : ReqwestTransport)
    {before : List GatewayCookie} {cookie : GatewayCookie}
    (later : List GatewayCookie) (secure : origin.scheme = "https".toList)
    (named : origin.hostStr = some host)
    (accepted : ∀ other ∈ before, Accepted host other)
    (rejected : ¬Accepted host cookie) :
    ∃ error,
      importGatewayCookies transport origin (before ++ cookie :: later) =
        (.error error,
          { transport with
            jar :=
              transport.jar ++ before.map fun other =>
                (setCookieText origin host other, origin) }) := by
  obtain ⟨error, failed⟩ :=
    addCookies_rejected origin later accepted rejected transport.jar
  refine ⟨error, ?_⟩
  rw [importGatewayCookies, if_neg (not_not.mpr secure), named]
  simp only [failed]

theorem importGatewayCookies_accepted (transport : ReqwestTransport)
    (secure : origin.scheme = "https".toList)
    (named : origin.hostStr = some host)
    (accepted : ∀ cookie ∈ cookies, Accepted host cookie) :
    ∃ after,
      importGatewayCookies transport origin cookies = (.ok (), after) ∧
        after.jar =
          transport.jar ++ cookies.map fun cookie =>
            (setCookieText origin host cookie, origin) := by
  rw [importGatewayCookies, if_neg (not_not.mpr secure), named]
  simp only [addCookies_accepted accepted]
  exact ⟨_, rfl, rfl⟩

/-- A refused import leaves the transport as it was unless a cookie has passed
before the one that fails. -/
theorem unchanged_on_error_iff (transport : ReqwestTransport) (origin : Url)
    (cookies : List GatewayCookie) :
    (∀ error after,
      importGatewayCookies transport origin cookies = (.error error, after) →
        after = transport) ↔
      ¬RejectedBehindFirst origin cookies := by
  constructor
  · rintro unchanged ⟨host, first, rest, secure, named, rfl, passes, rejected⟩
    obtain ⟨before, cookie, later, rfl, passed, fails⟩ :=
      exists_first_rejected rejected
    obtain ⟨error, failed⟩ :=
      importGatewayCookies_rejected transport later secure named
        (List.forall_mem_cons.mpr ⟨passes, passed⟩) fails
    have same := congrArg ReqwestTransport.jar (unchanged error _ failed)
    have lengths := congrArg List.length same
    simp only [List.length_append, List.length_map, List.length_cons] at lengths
    omega
  · intro notBehind error after failed
    by_cases secure : origin.scheme = "https".toList
    · cases named : origin.hostStr with
      | none =>
          rw [importGatewayCookies, if_neg (not_not.mpr secure), named] at failed
          exact (congrArg Prod.snd failed).symm
      | some host =>
          by_cases accepted : ∀ cookie ∈ cookies, Accepted host cookie
          · obtain ⟨final, succeeded, -⟩ :=
              importGatewayCookies_accepted transport secure named accepted
            rw [succeeded] at failed
            cases failed
          · have rejected : ∃ cookie ∈ cookies, ¬Accepted host cookie := by
              simpa only [not_forall, exists_prop] using accepted
            obtain ⟨before, cookie, later, rfl, passed, fails⟩ :=
              exists_first_rejected rejected
            cases before with
            | nil =>
                obtain ⟨error', failed'⟩ :=
                  importGatewayCookies_rejected transport later secure named
                    passed fails
                rw [failed', List.map_nil, List.append_nil] at failed
                exact (congrArg Prod.snd failed).symm
            | cons first rest =>
                have parts := List.forall_mem_cons.mp passed
                exact absurd
                  ⟨host, first, rest ++ cookie :: later, secure, named, rfl,
                    parts.1, cookie,
                    List.mem_append_right _ List.mem_cons_self, fails⟩
                  notBehind
    · rw [importGatewayCookies, if_pos secure] at failed
      exact (congrArg Prod.snd failed).symm

end Import

/-! ## A batch that is refused behind its first cookie -/

namespace CookieSample

def gateway : Url where
  scheme := "https".toList
  hostStr := some "gw.example".toList
  visible := by
    intro host isHost char member
    cases isHost
    have shown :
        "gw.example".toList.all (fun char => !isWhitespace char) = true := by
      decide
    exact Bool.not_eq_true' _ ▸ List.all_eq_true.mp shown char member

def cookie (name value : String) : GatewayCookie where
  name := name.toList
  value := value.toList
  domain := none
  path := some ['/']
  secure := true
  httpOnly := true

def transport : ReqwestTransport where
  jar := []
  importedCookieNames := ∅
  importedCookieValues := ∅

end CookieSample

open CookieSample in
/-- The session cookie of a refused batch is in the jar. -/
theorem rejected_batch_leaves_cookie :
    ∃ after,
      importGatewayCookies transport gateway [cookie "sid" "s1", cookie "a b" "x"] =
          (.error .invalidCookieName, after) ∧
        after.jar =
          [("sid=s1; Domain=gw.example; Path=/; Secure; HttpOnly".toList,
            gateway)] ∧
        after ≠ transport := by
  refine ⟨_, rfl, rfl, ?_⟩
  intro same
  cases congrArg (fun state => state.jar.length) same

end HermesAtrust.Transport
