import HermesAtrust.Net.DnsName
import HermesAtrust.Net.IpAddr
import HermesAtrust.Text.Utf8

/-!
# The datagrams of a SOCKS5 association

A client puts the destination before each datagram as an address or as a name,
and a reply carries a destination that is written from the text of the host
again.  The text of a name can be that of an address, so the reply may come in
another form than the request.
-/

namespace HermesAtrust.Proxy.Socks

open HermesAtrust.Framing HermesAtrust.L3 HermesAtrust.Net HermesAtrust.Text
open HermesAtrust.Net.Dns (slice? slice?_append_right slice?_front
  length_of_slice?)

/-- The message of an `invalid` error. -/
structure Invalid where
  message : String
  deriving DecidableEq, Repr

def invalid {Value : Type} (message : String) : Except Invalid Value :=
  .error ⟨message⟩

/-- `port.to_be_bytes()`. -/
def portBytes (port : UInt16) : Bytes :=
  toBeU16 port.toNat

def encodeAddress (host : Str) (port : UInt16) : Except Invalid Bytes :=
  match parseIpAddr host with
  | some (.v4 ip) => .ok ([1, ip.a, ip.b, ip.c, ip.d] ++ portBytes port)
  | some (.v6 ip) => .ok (4 :: ip.octets ++ portBytes port)
  | none =>
      if 255 < byteLen host then
        invalid "SOCKS domain too long"
      else if byteLen host = 0 then
        invalid "empty SOCKS domain"
      else
        .ok ([3, UInt8.ofNat (byteLen host)] ++ utf8 host ++ portBytes port)

/-- The host of a datagram, and where its port stands. -/
def datagramHost (packet : Bytes) : Except Invalid (Str × Nat) :=
  if byteAt packet 3 = 1 then
    match slice? packet 4 4 with
    | some [a, b, c, d] => .ok ((Ipv4Addr.mk a b c d).text.toList, 8)
    | _ => invalid "truncated SOCKS datagram"
  else if byteAt packet 3 = 3 then
    match packet[4]? with
    | none => invalid "truncated SOCKS domain"
    | some length =>
        if length = 0 then
          invalid "empty SOCKS domain"
        else
          match slice? packet 5 length.toNat with
          | none => invalid "truncated SOCKS domain"
          | some name =>
              match fromUtf8 name with
              | none => invalid "invalid SOCKS domain"
              | some host => .ok (host, 5 + length.toNat)
  else
    invalid "unsupported SOCKS UDP address"

/-- The destination of a datagram, and where its payload starts. -/
def datagram (packet : Bytes) : Except Invalid (Str × UInt16 × Nat) :=
  if packet.length < 4 ∨ packet.take 3 ≠ [0, 0, 0] then
    invalid "fragmented or invalid SOCKS datagram"
  else
    match datagramHost packet with
    | .error error => .error error
    | .ok (host, stop) =>
        match slice? packet stop 2 with
        | some [high, low] =>
            .ok (host, UInt16.ofNat (beU16 high low), stop + 2)
        | _ => invalid "missing SOCKS UDP port"

/-- The destination is a name that is written like an IPv6 address. -/
def NamesIpv6 (packet : Bytes) : Prop :=
  byteAt packet 3 = 3 ∧
    ∃ name host,
      slice? packet 5 (byteAt packet 4).toNat = some name ∧
        fromUtf8 name = some host ∧ ∃ ip, parseIpAddr host = some (.v6 ip)

/-- The header of the replies is read as the same destination, whatever
payload comes behind it. -/
def AnsweredAlike (host : Str) (port : UInt16) : Prop :=
  ∃ header,
    encodeAddress host port = .ok header ∧
      ∀ payload,
        datagram ([0, 0, 0] ++ header ++ payload) =
          .ok (host, port, 3 + header.length)

/-! ## The headers of replies -/

theorem port_read (port : UInt16) :
    UInt16.ofNat
        (beU16 (UInt8.ofNat (port.toNat / 256)) (UInt8.ofNat port.toNat)) =
      port := by
  rw [beU16_toBeU16 port.toNat_lt, UInt16.ofNat_toNat]

theorem byteAt_kind (kind : UInt8) (rest : Bytes) :
    byteAt (0 :: 0 :: 0 :: kind :: rest) 3 = kind :=
  rfl

theorem slice?_middle (before data after : Bytes) :
    slice? (before ++ (data ++ after)) before.length data.length =
      some data := by
  have behind := slice?_append_right before (data ++ after) 0 data.length
  rw [Nat.add_zero, slice?_front] at behind
  exact behind

theorem datagram_header {kind : UInt8} {rest : Bytes} {host : Str}
    (port : UInt16) (payload : Bytes)
    (isHost :
      datagramHost (0 :: 0 :: 0 :: kind :: rest ++ (portBytes port ++ payload)) =
        .ok (host, rest.length + 4)) :
    datagram (0 :: 0 :: 0 :: kind :: rest ++ (portBytes port ++ payload)) =
      .ok (host, port, rest.length + 6) := by
  have shape :
      ¬((0 :: 0 :: 0 :: kind :: rest ++ (portBytes port ++ payload)).length < 4 ∨
        (0 :: 0 :: 0 :: kind :: rest ++ (portBytes port ++ payload)).take 3 ≠
          [0, 0, 0]) := by
    simp only [List.cons_append, List.length_cons, List.take_succ_cons,
      List.take_zero, ne_eq, not_true_eq_false, or_false]
    omega
  have isPort :
      slice? (0 :: 0 :: 0 :: kind :: rest ++ (portBytes port ++ payload))
          (rest.length + 4) 2 =
        some [UInt8.ofNat (port.toNat / 256), UInt8.ofNat port.toNat] :=
    slice?_middle (0 :: 0 :: 0 :: kind :: rest) (portBytes port) payload
  rw [datagram, if_neg shape, isHost]
  simp only [isPort, port_read]

theorem datagram_address (ip : Ipv4Addr) (port : UInt16) (payload : Bytes) :
    datagram
        ([0, 0, 0] ++ ([1, ip.a, ip.b, ip.c, ip.d] ++ portBytes port) ++
          payload) =
      .ok (ip.text.toList, port, 10) := by
  have address :
      slice? ([0, 0, 0, 1, ip.a, ip.b, ip.c, ip.d] ++ (portBytes port ++ payload))
          4 4 = some [ip.a, ip.b, ip.c, ip.d] :=
    slice?_middle [0, 0, 0, 1] [ip.a, ip.b, ip.c, ip.d]
      (portBytes port ++ payload)
  have isHost :
      datagramHost
          ([0, 0, 0, 1, ip.a, ip.b, ip.c, ip.d] ++ (portBytes port ++ payload)) =
        .ok (ip.text.toList, 8) := by
    rw [datagramHost, address]
    exact if_pos rfl
  have read := datagram_header port payload isHost
  rw [List.append_assoc, List.append_assoc]
  exact read

theorem datagram_name {host : Str} (nonempty : byteLen host ≠ 0)
    (short : byteLen host ≤ 255) (port : UInt16) (payload : Bytes) :
    datagram
        ([0, 0, 0] ++
            ([3, UInt8.ofNat (byteLen host)] ++ utf8 host ++ portBytes port) ++
          payload) =
      .ok (host, port, byteLen host + 7) := by
  have size : (UInt8.ofNat (byteLen host)).toNat = byteLen host :=
    toNat_ofNat_byte (Nat.lt_succ_of_le short)
  have notZero : UInt8.ofNat (byteLen host) ≠ 0 := by
    intro zero
    rw [zero] at size
    exact nonempty size.symm
  have name :
      slice?
          (0 :: 0 :: 0 :: 3 :: UInt8.ofNat (byteLen host) :: utf8 host ++
            (portBytes port ++ payload))
          5 (byteLen host) = some (utf8 host) :=
    slice?_middle [0, 0, 0, 3, UInt8.ofNat (byteLen host)] (utf8 host)
      (portBytes port ++ payload)
  have isHost :
      datagramHost
          (0 :: 0 :: 0 :: 3 :: UInt8.ofNat (byteLen host) :: utf8 host ++
            (portBytes port ++ payload)) =
        .ok (host, 5 + byteLen host) := by
    simp only [List.cons_append] at name ⊢
    rw [datagramHost, byteAt_kind, if_neg (by decide), if_pos rfl]
    simp only [List.getElem?_cons_succ, List.getElem?_cons_zero,
      if_neg notZero, size, name, fromUtf8_encode]
  have position :
      (UInt8.ofNat (byteLen host) :: utf8 host).length + 4 =
        5 + byteLen host := by
    rw [List.length_cons, byteLen]
    omega
  rw [← position] at isHost
  have read := datagram_header port payload isHost
  rw [List.append_assoc, List.append_assoc, List.append_assoc]
  have total :
      (UInt8.ofNat (byteLen host) :: utf8 host).length + 6 =
        byteLen host + 7 :=
    rfl
  rw [total] at read
  exact read

theorem datagram_ipv6 (rest : Bytes) :
    datagram (0 :: 0 :: 0 :: 4 :: rest) =
      invalid "unsupported SOCKS UDP address" := by
  have host :
      datagramHost (0 :: 0 :: 0 :: 4 :: rest) =
        invalid "unsupported SOCKS UDP address" := by
    rw [datagramHost, byteAt_kind, if_neg (by decide), if_neg (by decide)]
  rw [datagram, if_neg (by simp), host]
  rfl

/-! ## When a reply names the destination as the client did -/

/-- What an accepted datagram names. -/
theorem datagramHost_of_datagram {packet : Bytes} {host : Str} {port : UInt16}
    {start : Nat} (accepted : datagram packet = .ok (host, port, start)) :
    ∃ stop, datagramHost packet = .ok (host, stop) := by
  rw [datagram] at accepted
  split at accepted
  · cases accepted
  split at accepted
  · cases accepted
  next stop isHost =>
  split at accepted
  · cases accepted
    exact ⟨stop, isHost⟩
  · cases accepted

theorem datagramHost_eq_ok {packet : Bytes} {host : Str} {stop : Nat}
    (read : datagramHost packet = .ok (host, stop)) :
    (∃ ip : Ipv4Addr, byteAt packet 3 = 1 ∧ host = ip.text.toList) ∨
      ∃ name,
        byteAt packet 3 = 3 ∧ byteAt packet 4 ≠ 0 ∧
          slice? packet 5 (byteAt packet 4).toNat = some name ∧
          fromUtf8 name = some host := by
  rw [datagramHost] at read
  split at read
  · next isAddress =>
      split at read
      · rw [Except.ok.injEq, Prod.mk.injEq] at read
        exact .inl ⟨_, isAddress, read.1.symm⟩
      · cases read
  split at read
  · next isName =>
      split at read
      · cases read
      next length isLength =>
      have known : byteAt packet 4 = length := by
        rw [byteAt, List.getD_eq_getElem?_getD, isLength, Option.getD_some]
      split at read
      · cases read
      next notZero =>
      split at read
      · cases read
      next name inside =>
      split at read
      · cases read
      next text decoded =>
      cases read
      rw [← known] at notZero inside
      exact .inr ⟨name, isName, notZero, inside, decoded⟩
  · cases read

theorem parseIpAddr_text (ip : Ipv4Addr) :
    parseIpAddr ip.text.toList = some (.v4 ip) := by
  rw [parseIpAddr, parseIpv4_eq_some_iff.mpr rfl]

theorem text_of_parseIpAddr {host : Str} {ip : Ipv4Addr}
    (parsed : parseIpAddr host = some (.v4 ip)) : host = ip.text.toList := by
  rw [parseIpAddr] at parsed
  split at parsed
  · next address isAddress =>
      cases parsed
      exact parseIpv4_eq_some_iff.mp isAddress
  · obtain ⟨_, -, clash⟩ := Option.map_eq_some_iff.mp parsed
    cases clash

theorem answeredAlike_text (ip : Ipv4Addr) (port : UInt16) :
    AnsweredAlike ip.text.toList port := by
  refine ⟨[1, ip.a, ip.b, ip.c, ip.d] ++ portBytes port, ?_, fun payload => ?_⟩
  · rw [encodeAddress, parseIpAddr_text]
  · exact datagram_address ip port payload

theorem answeredAlike_name {host : Str} (port : UInt16)
    (noAddress : parseIpAddr host = none) (nonempty : byteLen host ≠ 0)
    (short : byteLen host ≤ 255) : AnsweredAlike host port := by
  refine ⟨[3, UInt8.ofNat (byteLen host)] ++ utf8 host ++ portBytes port, ?_,
    fun payload => ?_⟩
  · rw [encodeAddress, noAddress]
    simp only
    rw [if_neg (by omega), if_neg nonempty]
  · rw [datagram_name nonempty short]
    have size :
        3 + ([3, UInt8.ofNat (byteLen host)] ++ utf8 host ++
            portBytes port).length = byteLen host + 7 := by
      rw [List.length_append, List.length_append, portBytes, length_toBeU16,
        ← byteLen]
      simp only [List.length_cons, List.length_nil]
      omega
    rw [size]

/-- No reply names an IPv6 address in a form that is accepted. -/
theorem not_answeredAlike_ipv6 {host : Str} {ip : Ipv6Addr} (port : UInt16)
    (parsed : parseIpAddr host = some (.v6 ip)) : ¬AnsweredAlike host port := by
  rintro ⟨header, encoded, read⟩
  rw [encodeAddress, parsed] at encoded
  cases encoded
  have refused := read []
  rw [List.append_nil] at refused
  have form :
      datagram ([0, 0, 0] ++ (4 :: ip.octets ++ portBytes port)) =
        invalid "unsupported SOCKS UDP address" :=
    datagram_ipv6 (ip.octets ++ portBytes port)
  rw [form] at refused
  cases refused

/-- The replies to an accepted datagram name its destination in a form that is
accepted too, unless the datagram names a host by the text of an IPv6
address. -/
theorem answeredAlike_iff {packet : Bytes} {host : Str} {port : UInt16}
    {start : Nat} (accepted : datagram packet = .ok (host, port, start)) :
    AnsweredAlike host port ↔ ¬NamesIpv6 packet := by
  obtain ⟨stop, read⟩ := datagramHost_of_datagram accepted
  rcases datagramHost_eq_ok read with
    ⟨ip, isAddress, rfl⟩ | ⟨name, isName, notZero, inside, decoded⟩
  · constructor
    · rintro - ⟨isName, -⟩
      rw [isAddress] at isName
      exact absurd isName (by decide)
    · intro _
      exact answeredAlike_text ip port
  · have size : byteLen host = (byteAt packet 4).toNat := by
      rw [byteLen, utf8_of_fromUtf8 decoded]
      exact (length_of_slice? inside).1
    constructor
    · rintro alike ⟨-, name', host', inside', decoded', ip, parsed⟩
      rw [inside, Option.some_inj] at inside'
      rw [← inside', decoded, Option.some_inj] at decoded'
      rw [← decoded'] at parsed
      exact not_answeredAlike_ipv6 port parsed alike
    · intro plain
      cases parsed : parseIpAddr host with
      | some address =>
          cases address with
          | v4 ip =>
              rw [text_of_parseIpAddr parsed]
              exact answeredAlike_text ip port
          | v6 ip =>
              exact absurd ⟨isName, name, host, inside, decoded, ip, parsed⟩ plain
      | none =>
          have bound := (byteAt packet 4).toNat_lt
          have positive : (byteAt packet 4).toNat ≠ 0 := fun zero =>
            notZero (UInt8.toNat_inj.mp zero)
          exact answeredAlike_name port parsed (by omega) (by omega)

/-! ## A name that is written like an address -/

theorem answeredAlike_example_host :
    AnsweredAlike "example.com".toList 443 := by
  have accepted :
      datagram
          ([0, 0, 0, 3, 11] ++ utf8 "example.com".toList ++ [1, 0xbb, 0x68]) =
        .ok ("example.com".toList, 443, 18) := by
    decide +kernel
  refine (answeredAlike_iff accepted).mpr ?_
  rintro ⟨-, name, host, inside, decoded, ip, parsed⟩
  have isName : utf8 "example.com".toList = name :=
    Option.some_inj.mp inside
  rw [← isName, fromUtf8_encode, Option.some_inj] at decoded
  have noAddress : parseIpAddr "example.com".toList = none := by
    decide +kernel
  rw [← decoded, noAddress] at parsed
  cases parsed

/-- The name `::1` is accepted, and the replies to it name an IPv6 address. -/
theorem ipv6_name_not_answeredAlike :
    datagram ([0, 0, 0, 3, 3] ++ utf8 "::1".toList ++ [0, 53, 0x71]) =
        .ok ("::1".toList, 53, 10) ∧
      encodeAddress "::1".toList 53 =
        .ok [4, 0, 0, 0, 0, 0, 0, 0, 0, 0, 0, 0, 0, 0, 0, 0, 1, 0, 53] ∧
      ¬AnsweredAlike "::1".toList 53 := by
  have parsed : ∃ ip, parseIpAddr "::1".toList = some (.v6 ip) :=
    ⟨⟨#v[0, 0, 0, 0, 0, 0, 0, 1]⟩, by decide +kernel⟩
  obtain ⟨ip, isAddress⟩ := parsed
  exact ⟨by decide +kernel, by decide +kernel,
    not_answeredAlike_ipv6 53 isAddress⟩

end HermesAtrust.Proxy.Socks
