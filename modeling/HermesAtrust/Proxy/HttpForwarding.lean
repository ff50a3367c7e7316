import HermesAtrust.Proxy.Http

/-!
# What the target of a forwarded request receives

The rewritten header, as a reader of lines and colons takes it apart, names
one host and one connection option and nothing that is meant for the proxy.
After it come all further bytes of the client, so the target receives no more
than the body of the request exactly if the client has sent no more.
-/

namespace HermesAtrust.Proxy

open HermesAtrust.Framing HermesAtrust.L3 HermesAtrust.Text

/-! ## The header that is read -/

/-- The header and the rest are the stream, cut at an empty line. -/
theorem readHeader_complete {bytes stream header rest : Bytes}
    (read : readHeader bytes stream = .complete header rest) :
    bytes ++ stream = header ++ rest ∧ headerEnd <:+ header := by
  induction stream generalizing bytes with
  | nil =>
      simp only [readHeader] at read
      split at read
      · cases read
      · cases read
  | cons byte later inductionHypothesis =>
      simp only [readHeader] at read
      split at read
      · split at read
        · next ended =>
            cases read
            exact ⟨by simp, List.isSuffixOf_iff_suffix.mp ended⟩
        · have step := inductionHypothesis read
          rw [List.append_assoc] at step
          exact step
      · cases read

/-- A character whose only byte is excluded does not occur. -/
theorem not_mem_of_bytes {text : Str} {char : Char} {byte : UInt8}
    {accepted : UInt8 → Bool} (encoded : String.utf8EncodeChar char = [byte])
    (excluded : accepted byte = false)
    (bytes : ∀ byte ∈ utf8 text, accepted byte = true) : char ∉ text := by
  intro member
  have present : byte ∈ utf8 text := by
    apply List.mem_flatMap.mpr
    exact ⟨char, member, by rw [encoded]; exact List.mem_singleton_self byte⟩
  rw [bytes byte present] at excluded
  cases excluded

theorem encode_return : String.utf8EncodeChar '\r' = [13] := by decide

theorem encode_colon : String.utf8EncodeChar ':' = [58] := by decide

/-- A field that can be written as one line and read back. -/
structure OneLine (field : HeaderField) : Prop where
  name : '\r' ∉ field.1
  colon : ':' ∉ field.1
  value : '\r' ∉ field.2

theorem oneLine_of_wellFormed {field : HeaderField}
    (accepted : wellFormed field = true) : OneLine field := by
  simp only [wellFormed, Bool.and_eq_true, Bool.not_eq_true',
    List.all_eq_true, List.any_eq_false] at accepted
  obtain ⟨⟨-, tokens⟩, plain⟩ := accepted
  have values : ∀ byte ∈ utf8 field.2, (!isControlByte byte) = true := by
    intro byte member
    simpa using plain byte member
  constructor
  · exact not_mem_of_bytes encode_return (by decide) tokens
  · exact not_mem_of_bytes encode_colon (by decide) tokens
  · exact not_mem_of_bytes encode_return (by decide) values

theorem readField_headers {fields result : HeaderFields} {line : Str}
    (read : readField fields line = .ok result)
    (clean : ∀ field ∈ fields.headers, OneLine field) :
    ∀ field ∈ result.headers, OneLine field := by
  unfold readField at read
  split at read
  · cases read
  · next field split =>
      split at read
      · next accepted =>
          simp only [bind, Except.bind, pure, Except.pure] at read
          split at read
          · cases read
          · split at read
            · cases read
            · cases read
              intro other member
              rcases List.mem_append.mp member with earlier | last
              · exact clean other earlier
              · rw [List.mem_singleton.mp last]
                exact oneLine_of_wellFormed accepted
      · cases read

theorem readFields_headers {fields result : HeaderFields} {lines : List Str}
    (read : readFields fields lines = .ok result)
    (clean : ∀ field ∈ fields.headers, OneLine field) :
    ∀ field ∈ result.headers, OneLine field := by
  induction lines generalizing fields with
  | nil =>
      cases read
      exact clean
  | cons line later inductionHypothesis =>
      cases line with
      | nil =>
          cases read
          exact clean
      | cons char line =>
          simp only [readFields, bind, Except.bind] at read
          split at read
          · cases read
          · next first known =>
              exact inductionHypothesis read (readField_headers known clean)

theorem readRequestLine_method {line method target : Str}
    (read : readRequestLine line = .ok (method, target)) : '\r' ∉ method := by
  unfold readRequestLine at read
  split at read
  · split at read
    · next accepted =>
        cases read
        exact not_mem_of_bytes encode_return (by decide)
          (List.all_eq_true.mp accepted.2.2)
    · cases read
  · cases read

/-! ## The header that is written -/

/-- Fields as a reader of lines and colons sees them. -/
def fieldsOf (lines : List Str) : List HeaderField :=
  (lines.takeWhile fun line : Str => !line.isEmpty).filterMap (splitOnce ':')

/-- The fields of a header, after its first line. -/
def sentFields (header : Str) : List HeaderField :=
  fieldsOf ((splitCrlf header).drop 1)

/-- Fields that are written as lines are read back. -/
theorem fieldsOf_lines {fields : List HeaderField}
    (clean : ∀ field ∈ fields, ':' ∉ field.1) (rest : List Str) :
    fieldsOf (fields.map fieldLine ++ [] :: rest) = fields := by
  induction fields with
  | nil => rfl
  | cons field later inductionHypothesis =>
      have split :
          splitOnce ':' (fieldLine field) = some (field.1, field.2) :=
        splitOnce_append (clean field List.mem_cons_self) field.2
      have others :=
        inductionHypothesis fun other member =>
          clean other (List.mem_cons_of_mem _ member)
      have nonempty : (fieldLine field).isEmpty = false := by
        simp [fieldLine]
      rw [fieldsOf] at others
      rw [fieldsOf, List.map_cons, List.cons_append, List.takeWhile_cons,
        nonempty, Bool.not_false, if_pos rfl, List.filterMap_cons, split]
      simp only [others]

/-- The parts of an address that are written hold no carriage return. -/
structure UrlOneLine (url : Url) : Prop where
  path : '\r' ∉ url.path
  query : ∀ query, url.query = some query → '\r' ∉ query
  authority : '\r' ∉ url.authority

section Rewriting

variable {method : Str} {url : Url} {headers : List HeaderField}

theorem rewrittenLines_clean (plain : '\r' ∉ method) (oneLine : UrlOneLine url)
    (clean : ∀ field ∈ headers, OneLine field) :
    ∀ line ∈ rewrittenLines method url headers ++ [[]], '\r' ∉ line := by
  intro line member
  simp only [rewrittenLines, List.cons_append, List.mem_cons, List.mem_append,
    List.mem_map, List.mem_filter, List.not_mem_nil, or_false] at member
  rcases member with rfl | rfl | rfl | kept | rfl
  · have version : '\r' ∉ " HTTP/1.1".toList := by decide
    have query : '\r' ∉ url.query.elim [] ('?' :: ·) := by
      cases known : url.query with
      | none => simp
      | some query => simpa using oneLine.query query known
    simp only [List.mem_append, List.mem_cons, not_or]
    exact ⟨⟨plain, by decide, oneLine.path, query⟩, version⟩
  · have name : '\r' ∉ "Host: ".toList := by decide
    simp only [List.mem_append, not_or]
    exact ⟨name, oneLine.authority⟩
  · decide
  · obtain ⟨field, ⟨listed, -⟩, rfl⟩ := kept
    have fieldClean := clean field listed
    simp only [fieldLine, List.mem_append, List.mem_cons, not_or]
    exact ⟨fieldClean.name, by decide, fieldClean.value⟩
  · simp

/-- The target reads the host, the connection option and the fields that are
not ignored. -/
theorem sentFields_rewritten (plain : '\r' ∉ method)
    (oneLine : UrlOneLine url) (clean : ∀ field ∈ headers, OneLine field) :
    sentFields (rewritten method url headers) =
      ("Host".toList, ' ' :: url.authority) ::
        ("Connection".toList, " close".toList) ::
        headers.filter fun field => !ignored field := by
  have lines :=
    splitCrlf_joinCrlf (rewrittenLines_clean plain oneLine clean)
  have colons :
      ∀ field ∈ ("Host".toList, ' ' :: url.authority) ::
          ("Connection".toList, " close".toList) ::
          headers.filter (fun field => !ignored field),
        ':' ∉ field.1 := by
    intro field member
    simp only [List.mem_cons, List.mem_filter] at member
    rcases member with rfl | rfl | kept
    · change ':' ∉ "Host".toList
      decide
    · decide
    · exact (clean field kept.1).colon
  have read := fieldsOf_lines colons [[]]
  rw [sentFields, rewritten, lines, ← read]
  simp [rewrittenLines, fieldLine]

/-- Of the forwarded fields none has a name that is ignored. -/
theorem filter_named_kept {name : String}
    (dropped : ∀ field, named name field = true → ignored field = true) :
    (headers.filter fun field => !ignored field).filter (named name) = [] := by
  rw [List.filter_filter, List.filter_eq_nil_iff]
  intro field _ both
  simp only [Bool.and_eq_true, Bool.not_eq_true'] at both
  rw [dropped field both.1] at both
  cases both.2

end Rewriting

/-- The header names one host and one connection option and nothing that is
meant for the proxy. -/
structure ForTarget (header : Str) : Prop where
  host : ((sentFields header).filter (named "host")).length = 1
  connection :
    (sentFields header).filter (named "connection") =
      [("Connection".toList, " close".toList)]
  noAuthorization :
    (sentFields header).filter (named "proxy-authorization") = []
  noProxyConnection :
    (sentFields header).filter (named "proxy-connection") = []

theorem forTarget_rewritten {method : Str} {url : Url}
    {headers : List HeaderField} (plain : '\r' ∉ method)
    (oneLine : UrlOneLine url) (clean : ∀ field ∈ headers, OneLine field) :
    ForTarget (rewritten method url headers) := by
  have sent := sentFields_rewritten plain oneLine clean
  have host (authority : Str) :
      named "host" ("Host".toList, authority) = true ∧
        named "connection" ("Host".toList, authority) = false ∧
        named "proxy-authorization" ("Host".toList, authority) = false ∧
        named "proxy-connection" ("Host".toList, authority) = false := by
    simp only [named]
    decide
  have connection :
      named "host" ("Connection".toList, " close".toList) = false ∧
        named "connection" ("Connection".toList, " close".toList) = true ∧
        named "proxy-authorization" ("Connection".toList, " close".toList) =
          false ∧
        named "proxy-connection" ("Connection".toList, " close".toList) =
          false := by
    decide
  constructor
  · rw [sent, List.filter_cons, (host _).1, if_pos rfl, List.filter_cons,
      connection.1, if_neg (by simp), filter_named_kept]
    · rfl
    · intro field isNamed
      simp [ignored, isNamed]
  · rw [sent, List.filter_cons, (host _).2.1, if_neg (by simp),
      List.filter_cons, connection.2.1, if_pos rfl, filter_named_kept]
    intro field isNamed
    simp [ignored, isNamed]
  · rw [sent, List.filter_cons, (host _).2.2.1, if_neg (by simp),
      List.filter_cons, connection.2.2.1, if_neg (by simp), filter_named_kept]
    intro field isNamed
    simp [ignored, isNamed]
  · rw [sent, List.filter_cons, (host _).2.2.2, if_neg (by simp),
      List.filter_cons, connection.2.2.2, if_neg (by simp), filter_named_kept]
    intro field isNamed
    simp [ignored, isNamed]

/-! ## The bytes that reach the target -/

/-- What the target may have received at some time: the rewritten header and
then the copy of what the client sends. -/
def Reaches (request : Forwarded) (written : Bytes) : Prop :=
  written <+: utf8 request.header ++ request.rest

/-- The body of the request as its length frames it. -/
def ownBody (request : Forwarded) : Bytes :=
  request.rest.take (request.length.getD 0)

theorem serveRequest_forwarded {environment : Environment}
    {method target : Str} {fields : HeaderFields} {rest : Bytes}
    {request : Forwarded}
    (served :
      serveRequest environment method target fields rest =
        .forwarded request) :
    ∃ target url, environment.parseUrl target = some url ∧
      request.header = rewritten method url fields.headers ∧
      request.rest = rest := by
  unfold serveRequest at served
  split at served
  · cases served
  split at served
  · cases served
  split at served
  · cases served
  · next url host port known =>
      have parsed : ∃ target, environment.parseUrl target = some url := by
        simp only [readTarget] at known
        split at known
        · cases known
        · next found parsed =>
            split at known
            · cases known
            · split at known
              · cases known
              · split at known
                · cases known
                · cases known
                  exact ⟨_, parsed⟩
      obtain ⟨parsedTarget, parsed⟩ := parsed
      split at served
      · cases served
      · split at served
        · cases served
        · cases served
          exact ⟨parsedTarget, url, parsed, rfl, rfl⟩

theorem serve_forwarded {environment : Environment} {stream : Bytes}
    {request : Forwarded}
    (clean :
      ∀ target url, environment.parseUrl target = some url → UrlOneLine url)
    (served : serve environment stream = .forwarded request) :
    ForTarget request.header ∧
      ∃ header, readHeader [] stream = .complete header request.rest := by
  unfold serve at served
  split at served
  · cases served
  · next header rest read =>
      split at served
      · cases served
      · split at served
        · cases served
        · split at served
          · cases served
          · next method target line =>
              split at served
              · cases served
              · next fields collected =>
                  obtain ⟨parsed, url, isUrl, written, rfl⟩ :=
                    serveRequest_forwarded served
                  refine ⟨?_, header, read⟩
                  rw [written]
                  apply forTarget_rewritten (readRequestLine_method line)
                    (clean parsed url isUrl)
                  exact readFields_headers collected nofun

/-- The header of a forwarded request is in order; and what reaches the target
is this header and at most the body that belongs to the request, whatever the
client sends and however far it gets, exactly if the client sends no more than
this body after its first header. -/
theorem http_proxy_forwards_own_body {environment : Environment}
    {stream : Bytes} {request : Forwarded}
    (clean :
      ∀ target url, environment.parseUrl target = some url → UrlOneLine url)
    (served : serve environment stream = .forwarded request) :
    ForTarget request.header ∧
      (∃ header, readHeader [] stream = .complete header request.rest ∧
        stream = header ++ request.rest) ∧
      ((∀ written, Reaches request written →
          written <+: utf8 request.header ++ ownBody request) ↔
        request.rest.length ≤ request.length.getD 0) := by
  obtain ⟨forTarget, header, read⟩ := serve_forwarded clean served
  refine ⟨forTarget, ⟨header, read, (readHeader_complete read).1⟩, ?_⟩
  constructor
  · intro within
    have whole := within _ (List.prefix_refl _)
    have length := whole.length_le
    simp only [ownBody, List.length_append, List.length_take] at length
    omega
  · intro short written reaches
    rw [ownBody, List.take_of_length_le short]
    exact reaches

/-! ## A second request on the connection -/

/-- The address `http://a/`. -/
def plainUrl : Url where
  scheme := "http".toList
  username := []
  password := none
  fragment := none
  path := ['/']
  query := none
  host := some ['a']
  port := some 80
  authority := ['a']

/-- Everything can be connected to and no credentials are asked for. -/
def openEnvironment : Environment where
  credentials := none
  parseUrl := fun target =>
    if target = "http://a/".toList then some plainUrl else none
  encodeBase64 := id
  connect := fun _ _ => .ok ()

theorem openEnvironment_clean :
    ∀ target url, openEnvironment.parseUrl target = some url →
      UrlOneLine url := by
  intro target url parsed
  simp only [openEnvironment, Option.ite_none_right_eq_some,
    Option.some.injEq] at parsed
  obtain ⟨-, rfl⟩ := parsed
  exact ⟨by decide, nofun, by decide⟩

def firstRequest : Bytes :=
  utf8 "GET http://a/ HTTP/1.1\r\nHost: b\r\n\r\n".toList

def secondRequest : Bytes :=
  utf8 ("GET http://b/ HTTP/1.1\r\n" ++
    "Proxy-Authorization: Basic eDp5\r\n\r\n").toList

/-- A request with a body of two bytes. -/
def uploadRequest : Bytes :=
  utf8 "POST http://a/ HTTP/1.1\r\nContent-Length: 2\r\n\r\nhi".toList

/-- The first request as it is forwarded, with what follows it. -/
def forwardedFirst (rest : Bytes) : Forwarded where
  host := ['a']
  port := 80
  header :=
    "GET / HTTP/1.1\r\nHost: a\r\nConnection: close\r\n\r\n".toList
  length := none
  chunked := false
  rest := rest

def forwardedUpload : Forwarded where
  host := ['a']
  port := 80
  header :=
    ("POST / HTTP/1.1\r\nHost: a\r\nConnection: close\r\n" ++
      "Content-Length: 2\r\n\r\n").toList
  length := some 2
  chunked := false
  rest := [0x68, 0x69]

theorem serve_requests :
    serve openEnvironment uploadRequest = .forwarded forwardedUpload ∧
      serve openEnvironment (firstRequest ++ secondRequest) =
        .forwarded (forwardedFirst secondRequest) ∧
      0 < secondRequest.length := by
  decide +kernel

/-- A request with its body. -/
theorem http_proxy_forwards_own_body_upload :
    serve openEnvironment uploadRequest = .forwarded forwardedUpload ∧
      ownBody forwardedUpload = [0x68, 0x69] ∧
      ∀ written, Reaches forwardedUpload written →
        written <+: utf8 forwardedUpload.header ++ ownBody forwardedUpload := by
  have forwards :=
    http_proxy_forwards_own_body openEnvironment_clean serve_requests.1
  exact ⟨serve_requests.1, rfl, forwards.2.2.mpr (Nat.le_refl 2)⟩

/-- The second request of a connection reaches the target of the first, with
the credentials for the proxy. -/
theorem http_proxy_forwards_second_request :
    serve openEnvironment (firstRequest ++ secondRequest) =
        .forwarded (forwardedFirst secondRequest) ∧
      Reaches (forwardedFirst secondRequest)
        (utf8 (forwardedFirst secondRequest).header ++ secondRequest) ∧
      ¬utf8 (forwardedFirst secondRequest).header ++ secondRequest <+:
        utf8 (forwardedFirst secondRequest).header ++
          ownBody (forwardedFirst secondRequest) := by
  obtain ⟨-, served, later⟩ := serve_requests
  refine ⟨served, List.prefix_refl _, ?_⟩
  intro within
  have length := within.length_le
  have nothing : ownBody (forwardedFirst secondRequest) = [] := rfl
  rw [nothing, List.append_nil, List.length_append] at length
  omega

end HermesAtrust.Proxy
