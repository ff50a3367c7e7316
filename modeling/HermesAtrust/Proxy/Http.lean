import HermesAtrust.L3.Ipv4Text
import HermesAtrust.Text.Lines

/-!
# The HTTP proxy

`serve` of the HTTP proxy for one connection: the bytes a client sends, as far
as they come, and what becomes of them.  The first header is read and checked;
a `CONNECT` opens a tunnel, any other request is forwarded with its header
rewritten.  Whatever the client sends after the first header is copied to the
target as it is.

Reading an address is left to a URL parser, the credentials are compared in an
encoding of their own, and a connection may come about or not: all of this is
taken from outside.  Time is not modelled.
-/

namespace HermesAtrust.Proxy

open HermesAtrust.Framing HermesAtrust.L3 HermesAtrust.Text

inductive HttpError where
  | unexpectedEof
  | invalid (message : String)
  deriving DecidableEq, Repr

structure Credentials where
  username : Str
  password : Str
  deriving DecidableEq

/-- What the proxy asks of a parsed address. -/
structure Url where
  scheme : Str
  username : Str
  password : Option Str
  fragment : Option Str
  path : Str
  query : Option Str
  host : Option Str
  port : Option UInt16
  authority : Str

inductive ConnectError where
  | permissionDenied
  | other
  deriving DecidableEq, Repr

/-- What the proxy takes from outside. -/
structure Environment where
  credentials : Option Credentials
  parseUrl : Str → Option Url
  encodeBase64 : Str → Str
  connect : Str → UInt16 → Except ConnectError Unit

/-! ## The header -/

/-- The end of a header. -/
def headerEnd : Bytes := [13, 10, 13, 10]

inductive HeaderRead where
  | complete (header rest : Bytes)
  | failed (error : HttpError)
  deriving DecidableEq, Repr

/-- `header`: byte after byte, up to an empty line. -/
def readHeader (bytes : Bytes) : Bytes → HeaderRead
  | [] =>
      if bytes.length < 32768 then .failed .unexpectedEof
      else .failed (.invalid "HTTP header exceeds 32 KiB")
  | byte :: rest =>
      if bytes.length < 32768 then
        if headerEnd.isSuffixOf (bytes ++ [byte]) then
          .complete (bytes ++ [byte]) rest
        else
          readHeader (bytes ++ [byte]) rest
      else
        .failed (.invalid "HTTP header exceeds 32 KiB")

/-- A field of a header, its name and what follows the colon. -/
abbrev HeaderField := Str × Str

/-- What is collected from the lines of a header. -/
structure HeaderFields where
  headers : List HeaderField
  authorization : Option Str
  length : Option Nat
  chunked : Bool

/-- The bytes a field name may hold. -/
def isTokenByte (byte : UInt8) : Bool :=
  isAsciiAlphanumeric byte ||
    (utf8 "!#$%&'*+-.^_\x60|~".toList).contains byte

/-- The bytes a field value must not hold. -/
def isControlByte (byte : UInt8) : Bool :=
  (decide (byte < 32) && byte != 9) || byte == 127

def isMethodByte (byte : UInt8) : Bool :=
  (0x41 ≤ byte && byte ≤ 0x5a) || byte == 0x2d

/-- Whether a field has this name. -/
def named (name : String) (field : HeaderField) : Bool :=
  eqIgnoreAsciiCase field.1 name.toList

/-- What a field adds to the credentials. -/
def readAuthorization (fields : HeaderFields) (field : HeaderField) :
    Except HttpError (Option Str) :=
  if named "proxy-authorization" field then
    if fields.authorization.isSome then
      .error (.invalid "duplicate proxy authorization")
    else
      .ok (some (trim field.2))
  else
    .ok fields.authorization

/-- What a field adds to the length of the body. -/
def readLength (fields : HeaderFields) (field : HeaderField) :
    Except HttpError (Option Nat) :=
  if named "content-length" field then
    match parseU64 (trim field.2) with
    | none => .error (.invalid "invalid content length")
    | some length =>
        if fields.length.isSome then
          .error (.invalid "duplicate content length")
        else
          .ok (some length)
  else
    .ok fields.length

/-- Whether a field is accepted at all. -/
def wellFormed (field : HeaderField) : Bool :=
  !field.1.isEmpty && (utf8 field.1).all isTokenByte &&
    !(utf8 field.2).any isControlByte

/-- One line of the header. -/
def readField (fields : HeaderFields) (line : Str) :
    Except HttpError HeaderFields :=
  match splitOnce ':' line with
  | none => .error (.invalid "invalid HTTP header")
  | some field =>
      if wellFormed field then do
        let authorization ← readAuthorization fields field
        let length ← readLength fields field
        return {
          headers := fields.headers ++ [field]
          authorization := authorization
          length := length
          chunked := fields.chunked || named "transfer-encoding" field }
      else
        .error (.invalid "invalid HTTP header")

/-- The lines up to the first empty one. -/
def readFields (fields : HeaderFields) : List Str → Except HttpError HeaderFields
  | [] => .ok fields
  | [] :: _ => .ok fields
  | (char :: line) :: lines => do
      readFields (← readField fields (char :: line)) lines

/-- The three parts of a request line. -/
def readRequestLine (line : Str) : Except HttpError (Str × Str) :=
  match line.splitOn ' ' with
  | [method, target, version] =>
      if (version = "HTTP/1.0".toList ∨ version = "HTTP/1.1".toList) ∧
          method ≠ [] ∧ (utf8 method).all isMethodByte = true then
        .ok (method, target)
      else
        .error (.invalid "invalid HTTP request line")
  | _ => .error (.invalid "invalid HTTP request line")

/-! ## Serving a request -/

/-- A request that is forwarded: to whom, with which header, how its body is
framed and what the client has sent after the header. -/
structure Forwarded where
  host : Str
  port : UInt16
  header : Str
  length : Option Nat
  chunked : Bool
  rest : Bytes
  deriving DecidableEq, Repr

inductive Served where
  | failed (error : HttpError)
  | answered (response : String)
  | tunnelled (host : Str) (port : UInt16) (rest : Bytes)
  | forwarded (request : Forwarded)
  deriving DecidableEq, Repr

/-- The fields that are not forwarded. -/
def ignored (field : HeaderField) : Bool :=
  named "host" field || named "connection" field ||
    named "proxy-connection" field || named "proxy-authorization" field

/-- A field as a line. -/
def fieldLine (field : HeaderField) : Str :=
  field.1 ++ ':' :: field.2

/-- The lines of the rewritten header. -/
def rewrittenLines (method : Str) (url : Url) (headers : List HeaderField) :
    List Str :=
  (method ++ ' ' :: (url.path ++ url.query.elim [] ('?' :: ·)) ++
      " HTTP/1.1".toList) ::
    ("Host: ".toList ++ url.authority) :: "Connection: close".toList ::
    ((headers.filter fun field => !ignored field).map fieldLine)

/-- The rewritten header. -/
def rewritten (method : Str) (url : Url) (headers : List HeaderField) : Str :=
  joinCrlf (rewrittenLines method url headers ++ [[]])

def unauthorized : String :=
  "HTTP/1.1 407 Proxy Authentication Required\r\n" ++
    "Proxy-Authenticate: Basic realm=\"Hermes\"\r\n" ++
    "Connection: close\r\nContent-Length: 0\r\n\r\n"

/-- The answer to a client whose target cannot be connected to. -/
def unreachable : ConnectError → String
  | .permissionDenied =>
      "HTTP/1.1 403 Forbidden\r\n" ++
        "Connection: close\r\nContent-Length: 0\r\n\r\n"
  | .other =>
      "HTTP/1.1 502 Bad Gateway\r\n" ++
        "Connection: close\r\nContent-Length: 0\r\n\r\n"

section Serving

variable (environment : Environment)

/-- Whether the credentials of a request are the ones that are asked for. -/
def authorized (fields : HeaderFields) : Bool :=
  match environment.credentials with
  | none => true
  | some credentials =>
      decide
        (fields.authorization =
          some ("Basic ".toList ++
            environment.encodeBase64
              (credentials.username ++ ':' :: credentials.password)))

/-- The address of a request, if it is of the supported kind. -/
def readTarget (method target : Str) : Except HttpError (Url × Str × UInt16) :=
  let tunnel := decide (method = "CONNECT".toList)
  match environment.parseUrl
      (if tunnel then "http://".toList ++ target else target) with
  | none => .error (.invalid "invalid HTTP target")
  | some url =>
      if url.scheme ≠ "http".toList ∨ url.username ≠ [] ∨
          url.password.isSome = true ∨ url.fragment.isSome = true ∨
          (tunnel = true ∧ (url.path ≠ ['/'] ∨ url.query.isSome = true)) then
        .error (.invalid "unsupported HTTP target")
      else
        match url.host with
        | none => .error (.invalid "missing HTTP host")
        | some host =>
            let port :=
              if tunnel then
                (rsplitOnce ':' target).bind fun parts => parseU16 parts.2
              else
                url.port
            match port.filter (· ≠ 0) with
            | none => .error (.invalid "missing HTTP port")
            | some port => .ok (url, host, port)

/-- A request whose header is read. -/
def serveRequest (method target : Str) (fields : HeaderFields) (rest : Bytes) :
    Served :=
  if fields.chunked = true ∧ fields.length.isSome = true then
    .failed (.invalid "ambiguous HTTP body framing")
  else if authorized environment fields = false then
    .answered unauthorized
  else
    match readTarget environment method target with
    | .error error => .failed error
    | .ok (url, host, port) =>
        match environment.connect host port with
        | .error error => .answered (unreachable error)
        | .ok () =>
            if method = "CONNECT".toList then
              .tunnelled host port rest
            else
              .forwarded
                { host := host
                  port := port
                  header := rewritten method url fields.headers
                  length := fields.length
                  chunked := fields.chunked
                  rest := rest }

/-- `serve`. -/
def serve (stream : Bytes) : Served :=
  match readHeader [] stream with
  | .failed error => .failed error
  | .complete header rest =>
      match fromUtf8 header with
      | none => .failed (.invalid "HTTP header is not UTF-8")
      | some text =>
          match splitCrlf text with
          | [] => .failed (.invalid "missing HTTP request line")
          | line :: lines =>
              match readRequestLine line with
              | .error error => .failed error
              | .ok (method, target) =>
                  match readFields ⟨[], none, none, false⟩ lines with
                  | .error error => .failed error
                  | .ok fields =>
                      serveRequest environment method target fields rest

end Serving

end HermesAtrust.Proxy
