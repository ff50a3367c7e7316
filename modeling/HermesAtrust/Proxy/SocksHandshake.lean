import HermesAtrust.Auth.Routing
import HermesAtrust.Framing.Conversation
import HermesAtrust.Net.Ipv6Text
import HermesAtrust.Proxy.Http
import HermesAtrust.Proxy.Socks

/-!
# The handshake of a SOCKS5 connection

A client offers authentication methods, sends its credentials where some are
configured, and names a command and a destination; the server answers each part
before it reads the next.  Which bytes are accepted is stated exactly, for any
chunks in which they come, and a reply carries an address in the form in which
it is read back.
-/

namespace HermesAtrust.Proxy.Socks

open HermesAtrust.Framing HermesAtrust.L3 HermesAtrust.Net HermesAtrust.Text

/-- The errors that end a connection: those of `invalid`, the kind of the error
for wrong credentials, and the error of a system call. -/
inductive HandshakeError where
  | invalid (error : Invalid)
  | permissionDenied
  | system
  deriving DecidableEq, Repr

/-- Reading from and writing to the connection of the client. -/
abbrev Exchange := Program UInt8 HandshakeError

def refuse {Value : Type} (message : String) : Exchange Value :=
  .fail (.invalid ⟨message⟩)

def readU8 : Exchange UInt8 := do
  let bytes ← Program.readExactly 1
  return byteAt bytes 0

def readU16 : Exchange UInt16 := do
  let bytes ← Program.readExactly 2
  return UInt16.ofNat (beU16 (byteAt bytes 0) (byteAt bytes 1))

/-- As many bytes as the byte in front of them says. -/
def readCounted : Exchange Bytes := do
  let length ← readU8
  Program.readExactly length.toNat

/-- An IPv6 address of sixteen octets. -/
def ipv6OfOctets (octets : Bytes) : Ipv6Addr where
  groups :=
    .ofFn fun place =>
      UInt16.ofNat
        (beU16 (byteAt octets (2 * place)) (byteAt octets (2 * place + 1)))

/-- The host of an address of the given type. -/
def addressHost (kind : UInt8) : Exchange Str :=
  if kind = 1 then do
    let ip ← Program.readExactly 4
    return (Ipv4Addr.mk (byteAt ip 0) (byteAt ip 1) (byteAt ip 2)
      (byteAt ip 3)).text.toList
  else if kind = 4 then do
    let ip ← Program.readExactly 16
    return (ipv6OfOctets ip).text
  else if kind = 3 then do
    let length ← readU8
    if length = 0 then
      refuse "empty SOCKS domain"
    else do
      let host ← Program.readExactly length.toNat
      match fromUtf8 host with
      | none => refuse "invalid SOCKS domain"
      | some host => return host
  else
    refuse "unsupported SOCKS address type"

def address : Exchange (Str × UInt16) := do
  let kind ← readU8
  let host ← addressHost kind
  let port ← readU16
  return (host, port)

/-- The method that the server asks for. -/
def requiredMethod (credentials : Option Credentials) : UInt8 :=
  if credentials.isSome then 2 else 0

/-- The username and the password. -/
def authenticate (credentials : Credentials) : Exchange Unit := do
  let version ← readU8
  if version ≠ 1 then
    refuse "invalid SOCKS authentication version"
  else do
    let user ← readCounted
    let password ← readCounted
    let valid :=
      decide
        (user = utf8 credentials.username ∧
          password = utf8 credentials.password)
    Program.writeAll [1, if valid then 0 else 1]
    if valid then
      return ()
    else
      .fail .permissionDenied

/-- The negotiation of the method, and what it asks for. -/
def negotiate (credentials : Option Credentials) : Exchange Unit := do
  let version ← readU8
  if version ≠ 5 then
    refuse "unsupported SOCKS version"
  else do
    let methods ← readCounted
    if ¬methods.contains (requiredMethod credentials) then do
      Program.writeAll [5, 255]
      refuse "no supported SOCKS authentication method"
    else do
      Program.writeAll [5, requiredMethod credentials]
      match credentials with
      | none => return ()
      | some credentials => authenticate credentials

/-- The command and the destination of the request. -/
def request : Exchange (UInt8 × Str × UInt16) := do
  let header ← Program.readExactly 3
  if byteAt header 0 ≠ 5 ∨ byteAt header 2 ≠ 0 then
    refuse "invalid SOCKS request"
  else do
    let (host, port) ← address
    return (byteAt header 1, host, port)

def handshake (credentials : Option Credentials) :
    Exchange (UInt8 × Str × UInt16) := do
  negotiate credentials
  request

/-! ## What is accepted -/

open Program

theorem accepts_readU8 {input rest written : Bytes} {value : UInt8} :
    readU8.Accepts input value rest written ↔
      input = value :: rest ∧ written = [] := by
  simp only [readU8, accepts_bind, accepts_readExactly, accepts_pure]
  constructor
  · rintro ⟨taken, middle, first, second, ⟨length, rfl, rfl⟩,
      ⟨rfl, rfl, rfl⟩, rfl⟩
    obtain ⟨byte, rfl⟩ := List.length_eq_one_iff.mp length
    exact ⟨rfl, rfl⟩
  · rintro ⟨rfl, rfl⟩
    exact ⟨[value], rest, [], [], ⟨rfl, rfl, rfl⟩, ⟨rfl, rfl, rfl⟩, rfl⟩

theorem accepts_readCounted {input rest written bytes : Bytes} :
    readCounted.Accepts input bytes rest written ↔
      bytes.length ≤ 255 ∧
        input = UInt8.ofNat bytes.length :: (bytes ++ rest) ∧
        written = [] := by
  simp only [readCounted, accepts_bind, accepts_readU8, accepts_readExactly]
  constructor
  · rintro ⟨length, _, _, _, ⟨rfl, rfl⟩, ⟨same, rfl, rfl⟩, rfl⟩
    have small := length.toNat_lt
    refine ⟨by omega, ?_, rfl⟩
    rw [same, UInt8.ofNat_toNat]
  · rintro ⟨short, rfl, rfl⟩
    have size : (UInt8.ofNat bytes.length).toNat = bytes.length :=
      toNat_ofNat_byte (Nat.lt_succ_of_le short)
    exact ⟨_, bytes ++ rest, [], [], ⟨rfl, rfl⟩, ⟨size.symm, rfl, rfl⟩, rfl⟩

theorem portBytes_beU16 (high low : UInt8) :
    portBytes (UInt16.ofNat (beU16 high low)) = [high, low] := by
  have small : beU16 high low < 65536 := Nat.lt_succ_of_le (beU16_le high low)
  rw [portBytes, UInt16.toNat_ofNat', Nat.mod_eq_of_lt small,
    toBeU16_beU16]

theorem accepts_readU16 {input rest written : Bytes} {value : UInt16} :
    readU16.Accepts input value rest written ↔
      input = portBytes value ++ rest ∧ written = [] := by
  simp only [readU16, accepts_bind, accepts_readExactly, accepts_pure]
  constructor
  · rintro ⟨taken, middle, first, second, ⟨length, rfl, rfl⟩,
      ⟨rfl, rfl, rfl⟩, rfl⟩
    obtain ⟨high, low, rfl⟩ := List.length_eq_two.mp length
    exact ⟨by rw [byteAt_cons_succ, byteAt_cons_zero, byteAt_cons_zero,
      portBytes_beU16], rfl⟩
  · rintro ⟨rfl, rfl⟩
    exact ⟨portBytes value, rest, [], [], ⟨rfl, rfl, rfl⟩,
      ⟨(port_read value).symm, rfl, rfl⟩, rfl⟩

/-- The octets behind the type of an address, and the host they stand for. -/
inductive AddressForm : (kind : UInt8) → Bytes → Str → Prop where
  | v4 (ip : Ipv4Addr) :
      AddressForm 1 [ip.a, ip.b, ip.c, ip.d] ip.text.toList
  | v6 (octets : Bytes) :
      octets.length = 16 → AddressForm 4 octets (ipv6OfOctets octets).text
  | name (host : Str) :
      byteLen host ≠ 0 → byteLen host ≤ 255 →
        AddressForm 3 (UInt8.ofNat (byteLen host) :: utf8 host) host

theorem accepts_addressHost_v4 {input rest written : Bytes} {host : Str} :
    (addressHost 1).Accepts input host rest written ↔
      ∃ ip : Ipv4Addr, host = ip.text.toList ∧
        input = [ip.a, ip.b, ip.c, ip.d] ++ rest ∧ written = [] := by
  rw [addressHost, if_pos rfl]
  simp only [accepts_bind, accepts_readExactly, accepts_pure]
  constructor
  · rintro ⟨taken, middle, first, second, ⟨length, rfl, rfl⟩,
      ⟨rfl, rfl, rfl⟩, rfl⟩
    match taken, length with
    | [a, b, c, d], _ => exact ⟨⟨a, b, c, d⟩, rfl, rfl, rfl⟩
  · rintro ⟨ip, rfl, rfl, rfl⟩
    exact ⟨[ip.a, ip.b, ip.c, ip.d], rest, [], [], ⟨rfl, rfl, rfl⟩,
      ⟨rfl, rfl, rfl⟩, rfl⟩

theorem accepts_addressHost_v6 {input rest written : Bytes} {host : Str} :
    (addressHost 4).Accepts input host rest written ↔
      ∃ octets : Bytes, octets.length = 16 ∧
        host = (ipv6OfOctets octets).text ∧ input = octets ++ rest ∧
        written = [] := by
  rw [addressHost, if_neg (by decide), if_pos rfl]
  simp only [accepts_bind, accepts_readExactly, accepts_pure]
  constructor
  · rintro ⟨taken, middle, first, second, ⟨length, rfl, rfl⟩,
      ⟨rfl, rfl, rfl⟩, rfl⟩
    exact ⟨taken, length, rfl, rfl, rfl⟩
  · rintro ⟨octets, length, rfl, rfl, rfl⟩
    exact ⟨octets, rest, [], [], ⟨length, rfl, rfl⟩, ⟨rfl, rfl, rfl⟩, rfl⟩

theorem accepts_addressHost_name {input rest written : Bytes} {host : Str} :
    (addressHost 3).Accepts input host rest written ↔
      byteLen host ≠ 0 ∧ byteLen host ≤ 255 ∧
        input = UInt8.ofNat (byteLen host) :: (utf8 host ++ rest) ∧
        written = [] := by
  rw [addressHost, if_neg (by decide), if_neg (by decide), if_pos rfl,
    accepts_bind]
  constructor
  · rintro ⟨length, middle, first, second, isLength, accepted, rfl⟩
    obtain ⟨rfl, rfl⟩ := accepts_readU8.mp isLength
    split at accepted
    · exact absurd accepted accepts_fail
    · rename_i nonempty
      simp only [accepts_bind, accepts_readExactly] at accepted
      obtain ⟨taken, others, third, fourth, ⟨sameLength, rfl, rfl⟩,
        accepted, rfl⟩ := accepted
      split at accepted
      · exact absurd accepted accepts_fail
      · rename_i decoded
        obtain ⟨rfl, rfl, rfl⟩ := accepts_pure.mp accepted
        have encoded : utf8 host = taken := utf8_of_fromUtf8 decoded
        have size : byteLen host = length.toNat := by
          rw [byteLen, encoded, sameLength]
        have small := length.toNat_lt
        have positive : length.toNat ≠ 0 := by
          intro zero
          exact nonempty (UInt8.toNat_inj.mp zero)
        refine ⟨by omega, by omega, ?_, rfl⟩
        rw [size, UInt8.ofNat_toNat, encoded]
  · rintro ⟨nonempty, short, rfl, rfl⟩
    have size : (UInt8.ofNat (byteLen host)).toNat = byteLen host :=
      toNat_ofNat_byte (Nat.lt_succ_of_le short)
    have notZero : UInt8.ofNat (byteLen host) ≠ 0 := by
      intro zero
      rw [zero] at size
      exact nonempty size.symm
    refine ⟨_, utf8 host ++ rest, [], [], accepts_readU8.mpr ⟨rfl, rfl⟩, ?_,
      rfl⟩
    rw [if_neg notZero, accepts_bind]
    refine ⟨utf8 host, rest, [], [],
      accepts_readExactly.mpr ⟨size.symm, rfl, rfl⟩, ?_, rfl⟩
    rw [fromUtf8_encode]
    exact accepts_pure.mpr ⟨rfl, rfl, rfl⟩

theorem accepts_addressHost {kind : UInt8} {input rest written : Bytes}
    {host : Str} :
    (addressHost kind).Accepts input host rest written ↔
      ∃ form, AddressForm kind form host ∧ input = form ++ rest ∧
        written = [] := by
  constructor
  · intro accepted
    by_cases isV4 : kind = 1
    · subst isV4
      obtain ⟨ip, rfl, rfl, rfl⟩ := accepts_addressHost_v4.mp accepted
      exact ⟨_, .v4 ip, rfl, rfl⟩
    by_cases isV6 : kind = 4
    · subst isV6
      obtain ⟨octets, length, rfl, rfl, rfl⟩ :=
        accepts_addressHost_v6.mp accepted
      exact ⟨octets, .v6 octets length, rfl, rfl⟩
    by_cases isName : kind = 3
    · subst isName
      obtain ⟨nonempty, short, rfl, rfl⟩ :=
        accepts_addressHost_name.mp accepted
      exact ⟨_, .name host nonempty short, rfl, rfl⟩
    · rw [addressHost, if_neg isV4, if_neg isV6, if_neg isName] at accepted
      exact absurd accepted accepts_fail
  · rintro ⟨form, isForm, rfl, rfl⟩
    cases isForm with
    | v4 ip => exact accepts_addressHost_v4.mpr ⟨ip, rfl, rfl, rfl⟩
    | v6 octets length =>
        exact accepts_addressHost_v6.mpr ⟨form, length, rfl, rfl, rfl⟩
    | name host nonempty short =>
        exact accepts_addressHost_name.mpr ⟨nonempty, short, rfl, rfl⟩

theorem accepts_address {input rest written : Bytes} {host : Str}
    {port : UInt16} :
    address.Accepts input (host, port) rest written ↔
      ∃ kind form, AddressForm kind form host ∧
        input = kind :: form ++ (portBytes port ++ rest) ∧ written = [] := by
  simp only [address, accepts_bind, accepts_readU8, accepts_addressHost,
    accepts_readU16, accepts_pure, Prod.mk.injEq]
  constructor
  · rintro ⟨kind, _, _, _, ⟨rfl, rfl⟩, ⟨_, _, _, _, ⟨form, isForm, rfl, rfl⟩,
      ⟨_, _, _, _, ⟨rfl, rfl⟩, ⟨⟨rfl, rfl⟩, rfl, rfl⟩, rfl⟩, rfl⟩, rfl⟩
    exact ⟨kind, form, isForm, rfl, rfl⟩
  · rintro ⟨kind, form, isForm, rfl, rfl⟩
    exact ⟨kind, _, [], [], ⟨rfl, rfl⟩, ⟨host, _, [], [],
      ⟨form, isForm, rfl, rfl⟩, ⟨port, rest, [], [], ⟨rfl, rfl⟩,
        ⟨⟨rfl, rfl⟩, rfl, rfl⟩, rfl⟩, rfl⟩, rfl⟩

theorem accepts_request {input rest written : Bytes} {command : UInt8}
    {host : Str} {port : UInt16} :
    request.Accepts input (command, host, port) rest written ↔
      ∃ kind form, AddressForm kind form host ∧
        input = [5, command, 0] ++ (kind :: form ++ (portBytes port ++ rest)) ∧
        written = [] := by
  rw [request, accepts_bind]
  constructor
  · rintro ⟨header, middle, first, second, isHeader, accepted, rfl⟩
    obtain ⟨length, rfl, rfl⟩ := accepts_readExactly.mp isHeader
    match header, length with
    | [version, code, reserved], _ =>
        split at accepted
        · exact absurd accepted accepts_fail
        · rename_i valid
          simp only [byteAt_cons_zero, byteAt_cons_succ, not_or,
            not_not] at valid
          obtain ⟨rfl, rfl⟩ := valid
          simp only [accepts_bind, accepts_pure, Prod.mk.injEq] at accepted
          obtain ⟨⟨_, _⟩, _, _, _, isAddress,
            ⟨⟨rfl, rfl, rfl⟩, rfl, rfl⟩, rfl⟩ := accepted
          obtain ⟨kind, form, isForm, rfl, rfl⟩ :=
            accepts_address.mp isAddress
          exact ⟨kind, form, isForm, rfl, rfl⟩
  · rintro ⟨kind, form, isForm, rfl, rfl⟩
    refine ⟨[5, command, 0], _, [], [],
      accepts_readExactly.mpr ⟨rfl, rfl, rfl⟩, ?_, rfl⟩
    rw [if_neg (by simp), accepts_bind]
    exact ⟨(host, port), rest, [], [],
      accepts_address.mpr ⟨kind, form, isForm, rfl, rfl⟩,
      accepts_pure.mpr ⟨rfl, rfl, rfl⟩, rfl⟩

/-- The bytes that carry the credentials. -/
def credentialBytes (credentials : Credentials) : Bytes :=
  1 :: UInt8.ofNat (byteLen credentials.username) ::
    (utf8 credentials.username ++
      UInt8.ofNat (byteLen credentials.password) ::
        utf8 credentials.password)

/-- Credentials that a client can send. -/
def Sendable (credentials : Credentials) : Prop :=
  byteLen credentials.username ≤ 255 ∧ byteLen credentials.password ≤ 255

theorem accepts_authenticate {credentials : Credentials}
    {input rest written : Bytes} {done : Unit} :
    (authenticate credentials).Accepts input done rest written ↔
      Sendable credentials ∧ input = credentialBytes credentials ++ rest ∧
        written = [1, 0] := by
  rw [authenticate, accepts_bind]
  constructor
  · rintro ⟨version, middle, first, second, isVersion, accepted, rfl⟩
    obtain ⟨rfl, rfl⟩ := accepts_readU8.mp isVersion
    split at accepted
    · exact absurd accepted accepts_fail
    · rename_i isOne
      simp only [accepts_bind, accepts_readCounted] at accepted
      obtain ⟨user, _, _, _, ⟨userShort, rfl, rfl⟩, ⟨password, _, _, _,
        ⟨passwordShort, rfl, rfl⟩, ⟨_, _, _, _, wrote, checked, rfl⟩, rfl⟩,
        rfl⟩ := accepted
      obtain ⟨rfl, rfl⟩ := accepts_writeAll.mp wrote
      split at checked
      · rename_i valid
        obtain ⟨-, rfl, rfl⟩ := accepts_pure.mp checked
        obtain ⟨rfl, rfl⟩ := of_decide_eq_true valid
        refine ⟨⟨userShort, passwordShort⟩, ?_, by simp⟩
        simp [credentialBytes, byteLen, not_not.mp isOne]
      · exact absurd checked accepts_fail
  · rintro ⟨⟨userShort, passwordShort⟩, rfl, rfl⟩
    refine ⟨1, _, [], [1, 0], accepts_readU8.mpr ⟨rfl, rfl⟩, ?_, rfl⟩
    rw [if_neg (by simp)]
    simp only [accepts_bind, accepts_readCounted]
    refine ⟨utf8 credentials.username,
      UInt8.ofNat (byteLen credentials.password) ::
        (utf8 credentials.password ++ rest),
      [], [1, 0], ⟨userShort, by simp [byteLen], rfl⟩, ?_, rfl⟩
    refine ⟨utf8 credentials.password, rest, [], [1, 0],
      ⟨passwordShort, rfl, rfl⟩, ?_, rfl⟩
    refine ⟨(), rest, [1, 0], [], accepts_writeAll.mpr ⟨rfl, by simp⟩, ?_,
      rfl⟩
    rw [if_pos (by simp)]
    exact accepts_pure.mpr ⟨rfl, rfl, rfl⟩

/-- What a client that is let in sends before its request, and what it is
answered: without credentials it offers the method 0, and with credentials it
offers the method 2 and sends them. -/
inductive Greeting : Option Credentials → Bytes → Bytes → Prop where
  | free (methods : Bytes) :
      methods.length ≤ 255 → 0 ∈ methods →
        Greeting none (5 :: UInt8.ofNat methods.length :: methods) [5, 0]
  | password (credentials : Credentials) (methods : Bytes) :
      methods.length ≤ 255 → 2 ∈ methods → Sendable credentials →
        Greeting (some credentials)
          (5 :: UInt8.ofNat methods.length ::
            (methods ++ credentialBytes credentials))
          [5, 2, 1, 0]

theorem accepts_negotiate {credentials : Option Credentials}
    {input rest written : Bytes} {done : Unit} :
    (negotiate credentials).Accepts input done rest written ↔
      ∃ greeting, Greeting credentials greeting written ∧
        input = greeting ++ rest := by
  unfold negotiate
  rw [accepts_bind]
  constructor
  · rintro ⟨version, middle, first, second, isVersion, accepted, rfl⟩
    obtain ⟨rfl, rfl⟩ := accepts_readU8.mp isVersion
    split at accepted
    · exact absurd accepted accepts_fail
    · rename_i isFive
      rw [not_not] at isFive
      rw [accepts_bind] at accepted
      obtain ⟨methods, _, _, _, isMethods, accepted, rfl⟩ := accepted
      obtain ⟨short, rfl, rfl⟩ := accepts_readCounted.mp isMethods
      split at accepted
      · rw [accepts_bind] at accepted
        obtain ⟨_, _, _, _, _, failed, _⟩ := accepted
        exact absurd failed accepts_fail
      · rename_i offered
        rw [not_not, List.contains_iff_mem] at offered
        rw [accepts_bind] at accepted
        obtain ⟨_, _, _, _, wrote, accepted, rfl⟩ := accepted
        obtain ⟨rfl, rfl⟩ := accepts_writeAll.mp wrote
        subst isFive
        cases credentials with
        | none =>
            obtain ⟨-, rfl, rfl⟩ := accepts_pure.mp accepted
            exact ⟨_, .free methods short offered, by simp⟩
        | some credentials =>
            obtain ⟨fits, rfl, rfl⟩ := accepts_authenticate.mp accepted
            exact ⟨_, .password credentials methods short offered fits,
              by simp⟩
  · rintro ⟨greeting, isGreeting, rfl⟩
    cases isGreeting with
    | free methods short offered =>
        refine ⟨5, _, [], [5, 0], accepts_readU8.mpr ⟨rfl, rfl⟩, ?_, rfl⟩
        rw [if_neg (by simp), accepts_bind]
        refine ⟨methods, rest, [], [5, 0],
          accepts_readCounted.mpr ⟨short, rfl, rfl⟩, ?_, rfl⟩
        rw [if_neg (by simpa [requiredMethod] using offered), accepts_bind]
        exact ⟨(), rest, [5, 0], [], accepts_writeAll.mpr ⟨rfl, rfl⟩,
          accepts_pure.mpr ⟨rfl, rfl, rfl⟩, rfl⟩
    | password credentials methods short offered fits =>
        refine ⟨5, _, [], [5, 2, 1, 0], accepts_readU8.mpr ⟨rfl, rfl⟩, ?_,
          rfl⟩
        rw [if_neg (by simp), accepts_bind]
        refine ⟨methods, credentialBytes credentials ++ rest, [],
          [5, 2, 1, 0], accepts_readCounted.mpr ⟨short, by simp, rfl⟩, ?_,
          rfl⟩
        rw [if_neg (by simpa [requiredMethod] using offered), accepts_bind]
        exact ⟨(), _, [5, 2], [1, 0], accepts_writeAll.mpr ⟨rfl, rfl⟩,
          accepts_authenticate.mpr ⟨fits, rfl, rfl⟩, rfl⟩

theorem accepts_handshake {credentials : Option Credentials}
    {input rest written : Bytes} {command : UInt8} {host : Str}
    {port : UInt16} :
    (handshake credentials).Accepts input (command, host, port) rest
        written ↔
      ∃ greeting kind form, Greeting credentials greeting written ∧
        AddressForm kind form host ∧
        input =
          greeting ++ [5, command, 0] ++ kind :: form ++
            (portBytes port ++ rest) := by
  rw [handshake, accepts_bind]
  constructor
  · rintro ⟨_, _, first, second, negotiated, requested, rfl⟩
    obtain ⟨greeting, isGreeting, same⟩ := accepts_negotiate.mp negotiated
    obtain ⟨kind, form, isForm, rfl, rfl⟩ := accepts_request.mp requested
    refine ⟨greeting, kind, form, ?_, isForm, ?_⟩
    · rw [List.append_nil]
      exact isGreeting
    · rw [same]
      simp
  · rintro ⟨greeting, kind, form, isGreeting, isForm, same⟩
    refine ⟨(), _, written, [],
      accepts_negotiate.mpr ⟨greeting, isGreeting, ?_⟩,
      accepts_request.mpr ⟨kind, form, isForm, rfl, rfl⟩,
      (List.append_nil _).symm⟩
    rw [same]
    simp

/-- A client is let in, and its command is taken, exactly for a greeting that
the configuration asks for and a request behind it; where credentials are
configured the greeting contains them.  However the bytes come in chunks,
nothing behind the request is read. -/
theorem handshake_accepts_iff (credentials : Option Credentials)
    (stream : DuplexStream UInt8) (command : UInt8) (host : Str)
    (port : UInt16) (rest written : Bytes) :
    (∃ after,
        (handshake credentials).runStream stream =
            (.ok (command, host, port), after) ∧
          streamItems after.incoming = rest ∧
          after.written = stream.written ++ written) ↔
      ∃ greeting kind form, Greeting credentials greeting written ∧
        AddressForm kind form host ∧
        streamItems stream.incoming =
          greeting ++ [5, command, 0] ++ kind :: form ++
            (portBytes port ++ rest) := by
  rw [runStream_iff_accepts]
  exact accepts_handshake

/-- A name that a client asks for is matched as ranked, whatever the table: it
is shorter than what the labels of a pattern are counted in. -/
theorem returnsLeast_of_requested {form : Bytes} {host : Str}
    (named : AddressForm 3 form host) (resources : Auth.ClientResources)
    (port : UInt16) (protocol : Auth.FlowProtocol) :
    Auth.ReturnsLeast resources ⟨host, port, protocol⟩ := by
  cases named with
  | name host nonempty short =>
      exact Auth.returnsLeast_of_short (short.trans (by decide))

/-! ## Serving a client -/

structure Endpoint where
  ip : IpAddr
  port : UInt16
  deriving DecidableEq

/-- The kinds of the errors of a connect that the reply tells apart. -/
inductive ErrorKind where
  | permissionDenied
  | other
  deriving DecidableEq, Repr

/-- What serving a client depends on: both ends of its connection, what
connecting to a destination within the budget comes to, and the port of the
datagram socket, if it can be bound. -/
structure Network where
  bound : Endpoint
  peer : Endpoint
  connect : Str → UInt16 → Except ErrorKind Unit
  bindUdp : Option UInt16

/-- What a connection is used for behind the reply. -/
inductive Service where
  | relay (host : Str) (port : UInt16)
  | association (client : Option Endpoint)
  | refused
  deriving DecidableEq

def unspecified : IpAddr → Bool
  | .v4 ip => ip == ⟨0, 0, 0, 0⟩
  | .v6 ip => ip.groups == .replicate 8 0

def reply (status : UInt8) (bound : Endpoint) : Exchange Unit :=
  match encodeAddress bound.ip.text bound.port with
  | .error error => .fail (.invalid error)
  | .ok bytes => writeAll ([5, status, 0] ++ bytes)

/-- The address of a request for an association may only be the client's. -/
def foreign (peer : Endpoint) (requestedHost : Str) : Bool :=
  match parseIpAddr requestedHost with
  | none => false
  | some ip => !unspecified ip && decide (ip ≠ peer.ip)

/-- The endpoint that an association is requested for. -/
def requestedClient (peer : Endpoint) (requestedPort : UInt16) :
    Option Endpoint :=
  if requestedPort = 0 then none else some ⟨peer.ip, requestedPort⟩

/-- The part of `associate` before its loop. -/
def associate (network : Network) (requestedHost : Str)
    (requestedPort : UInt16) : Exchange Service := do
  if foreign network.peer requestedHost then do
    reply 2 network.bound
    return .refused
  else
    match network.bindUdp with
    | none => .fail .system
    | some port => do
        reply 0 ⟨network.bound.ip, port⟩
        return .association (requestedClient network.peer requestedPort)

def dispatch (network : Network) (command : UInt8) (host : Str)
    (port : UInt16) : Exchange Service := do
  if command = 1 then
    match network.connect host port with
    | .ok () => do
        reply 0 network.bound
        return .relay host port
    | .error kind => do
        reply (if kind = .permissionDenied then 2 else 5) network.bound
        return .refused
  else if command = 3 then
    associate network host port
  else do
    reply 7 network.bound
    return .refused

def serve (credentials : Option Credentials) (network : Network) :
    Exchange Service := do
  let (command, host, port) ← handshake credentials
  dispatch network command host port

/-- An address in the form of the protocol. -/
def addressBytes : IpAddr → Bytes
  | .v4 ip => [1, ip.a, ip.b, ip.c, ip.d]
  | .v6 ip => 4 :: ip.octets

theorem encodeAddress_text (ip : IpAddr) (port : UInt16) :
    encodeAddress ip.text port = .ok (addressBytes ip ++ portBytes port) := by
  rw [encodeAddress, parseIpAddr_of_text]
  cases ip <;> rfl

/-- Which reply a request gets, and what becomes of the connection. -/
inductive Outcome (network : Network) (host : Str)
    (port : UInt16) : (command : UInt8) → Service → (status : UInt8) →
      Endpoint → Prop where
  | connected :
      network.connect host port = .ok () →
        Outcome network host port 1 (.relay host port) 0
          network.bound
  | denied :
      network.connect host port = .error .permissionDenied →
        Outcome network host port 1 .refused 2 network.bound
  | failed :
      network.connect host port = .error .other →
        Outcome network host port 1 .refused 5 network.bound
  | foreigner :
      foreign network.peer host = true →
        Outcome network host port 3 .refused 2 network.bound
  | associated (socket : UInt16) :
      foreign network.peer host = false →
        network.bindUdp = some socket →
        Outcome network host port 3
          (.association (requestedClient network.peer port)) 0
          ⟨network.bound.ip, socket⟩
  | unsupported (command : UInt8) :
      command ≠ 1 → command ≠ 3 →
        Outcome network host port command .refused 7 network.bound

theorem accepts_reply {status : UInt8} {bound : Endpoint}
    {service returned : Service} {input rest written : Bytes} :
    (reply status bound >>= fun _ =>
        (pure returned : Exchange Service)).Accepts input service rest
        written ↔
      service = returned ∧ input = rest ∧
        written =
          [5, status, 0] ++ (addressBytes bound.ip ++ portBytes bound.port) := by
  simp only [reply, encodeAddress_text, accepts_bind, accepts_writeAll,
    accepts_pure]
  constructor
  · rintro ⟨_, _, _, _, ⟨rfl, rfl⟩, ⟨rfl, rfl, rfl⟩, rfl⟩
    exact ⟨rfl, rfl, List.append_nil _⟩
  · rintro ⟨rfl, rfl, rfl⟩
    exact ⟨(), input, _, [], ⟨rfl, rfl⟩, ⟨rfl, rfl, rfl⟩,
      (List.append_nil _).symm⟩

theorem accepts_associate {network : Network} {command : UInt8}
    {host : Str} {port : UInt16} {service : Service}
    {input rest written : Bytes} (isAssociate : command = 3) :
    (associate network host port).Accepts input service rest written ↔
      ∃ status bound, Outcome network host port command service status
          bound ∧
        input = rest ∧
        written =
          [5, status, 0] ++ (addressBytes bound.ip ++ portBytes bound.port) := by
  unfold associate
  constructor
  · intro accepted
    subst isAssociate
    split at accepted
    · rename_i isForeign
      obtain ⟨rfl, rfl, rfl⟩ := accepts_reply.mp accepted
      exact ⟨2, _, .foreigner isForeign, rfl, rfl⟩
    · rename_i own
      split at accepted
      · exact absurd accepted accepts_fail
      · rename_i socket isBound
        obtain ⟨rfl, rfl, rfl⟩ := accepts_reply.mp accepted
        exact ⟨0, _, .associated socket (by simpa using own) isBound, rfl,
          rfl⟩
  · rintro ⟨status, bound, outcome, rfl, rfl⟩
    cases outcome with
    | connected _ => exact absurd isAssociate (by decide)
    | denied _ => exact absurd isAssociate (by decide)
    | failed _ => exact absurd isAssociate (by decide)
    | foreigner isForeign =>
        rw [if_pos isForeign]
        exact accepts_reply.mpr ⟨rfl, rfl, rfl⟩
    | associated socket own isBound =>
        rw [if_neg (by simp [own])]
        simp only [isBound]
        exact accepts_reply.mpr ⟨rfl, rfl, rfl⟩
    | unsupported _ _ notAssociate => exact absurd isAssociate notAssociate

theorem accepts_dispatch {network : Network} {command : UInt8}
    {host : Str} {port : UInt16} {service : Service}
    {input rest written : Bytes} :
    (dispatch network command host port).Accepts input service rest
        written ↔
      ∃ status bound, Outcome network host port command service status
          bound ∧
        input = rest ∧
        written =
          [5, status, 0] ++ (addressBytes bound.ip ++ portBytes bound.port) := by
  by_cases isAssociate : command = 3
  · have notConnect : command ≠ 1 := by
      rw [isAssociate]
      decide
    rw [dispatch, if_neg notConnect, if_pos isAssociate]
    exact accepts_associate isAssociate
  unfold dispatch
  constructor
  · intro accepted
    split at accepted
    · rename_i isConnect
      subst isConnect
      split at accepted
      · rename_i connected
        obtain ⟨rfl, rfl, rfl⟩ := accepts_reply.mp accepted
        exact ⟨0, _, .connected connected, rfl, rfl⟩
      · rename_i kind failed
        obtain ⟨rfl, rfl, rfl⟩ := accepts_reply.mp accepted
        cases kind with
        | permissionDenied => exact ⟨2, _, .denied failed, rfl, rfl⟩
        | other => exact ⟨5, _, .failed failed, rfl, rfl⟩
    · rename_i notConnect
      obtain ⟨rfl, rfl, rfl⟩ := accepts_reply.mp accepted
      exact ⟨7, _, .unsupported command notConnect isAssociate, rfl, rfl⟩
  · rintro ⟨status, bound, outcome, rfl, rfl⟩
    cases outcome with
    | connected connected =>
        simp only [if_true, connected]
        exact accepts_reply.mpr ⟨rfl, rfl, rfl⟩
    | denied failed =>
        simp only [if_true, failed]
        exact accepts_reply.mpr ⟨rfl, rfl, rfl⟩
    | failed failed =>
        simp only [if_true, failed]
        rw [if_neg (by decide)]
        exact accepts_reply.mpr ⟨rfl, rfl, rfl⟩
    | foreigner _ => exact absurd rfl isAssociate
    | associated _ _ _ => exact absurd rfl isAssociate
    | unsupported _ notConnect _ =>
        rw [if_neg notConnect, if_neg isAssociate]
        exact accepts_reply.mpr ⟨rfl, rfl, rfl⟩

/-- A client is served exactly for a request that is let in, and gets one
reply behind the answers of the negotiation: its status says what has become
of the request, and its address is in the form that the server itself reads. -/
theorem serve_accepts_iff (credentials : Option Credentials)
    (network : Network) (stream : DuplexStream UInt8)
    (service : Service) (rest written : Bytes) :
    (∃ after,
        (serve credentials network).runStream stream =
            (.ok service, after) ∧
          streamItems after.incoming = rest ∧
          after.written = stream.written ++ written) ↔
      ∃ command host port greeting answers kind form status bound,
        Greeting credentials greeting answers ∧ AddressForm kind form host ∧
          streamItems stream.incoming =
            greeting ++ [5, command, 0] ++ kind :: form ++
              (portBytes port ++ rest) ∧
          Outcome network host port command service status bound ∧
          written =
            answers ++ [5, status, 0] ++
              (addressBytes bound.ip ++ portBytes bound.port) := by
  rw [runStream_iff_accepts, serve, accepts_bind]
  constructor
  · rintro ⟨⟨command, host, port⟩, _, answers, _, shaken, served, rfl⟩
    obtain ⟨greeting, kind, form, isGreeting, isForm, same⟩ :=
      accepts_handshake.mp shaken
    obtain ⟨status, bound, outcome, rfl, rfl⟩ := accepts_dispatch.mp served
    exact ⟨command, host, port, greeting, answers, kind, form, status, bound,
      isGreeting, isForm, same, outcome, (List.append_assoc ..).symm⟩
  · rintro ⟨command, host, port, greeting, answers, kind, form, status,
      bound, isGreeting, isForm, same, outcome, rfl⟩
    exact ⟨(command, host, port), rest, answers, _,
      accepts_handshake.mpr ⟨greeting, kind, form, isGreeting, isForm, same⟩,
      accepts_dispatch.mpr ⟨status, bound, outcome, rfl, rfl⟩,
      List.append_assoc ..⟩

end HermesAtrust.Proxy.Socks
