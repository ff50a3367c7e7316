import HermesAtrust.Bits.OnesComplement
import HermesAtrust.L3.Packet

/-!
# UDP over the tunnel

`encode` writes a datagram into an IPv4 packet without options, `decode` takes
it out again after it has checked the addresses, the lengths and both
checksums.  The checksums are accumulated in 32 bits; where the accumulation
would leave them, nothing is returned.
-/

namespace HermesAtrust.Net.Udp

open HermesAtrust.Bits HermesAtrust.Framing HermesAtrust.L3
open HermesAtrust.Protocol

structure SocketAddrV4 where
  ip : Ipv4Addr
  port : UInt16
  deriving DecidableEq, Repr

inductive UdpError where
  | invalidInput
  | packet (error : PacketError)
  | invalidData (message : String)
  | overflow
  deriving DecidableEq, Repr

/-- The octets of an address. -/
def octets (address : Ipv4Addr) : Bytes :=
  [address.a, address.b, address.c, address.d]

@[simp]
theorem length_octets (address : Ipv4Addr) : (octets address).length = 4 :=
  rfl

/-- `copy_from_slice` into a range that starts at an index. -/
def copyAt (packet : Bytes) (index : Nat) (bytes : Bytes) : Bytes :=
  packet.take index ++ bytes ++ packet.drop (index + bytes.length)

/-! ## Checksums -/

/-- `sum += word` in 32 bits. -/
def addWord (sum word : Nat) : Option Nat :=
  if sum + word < 2 ^ 32 then some (sum + word) else none

/-- Add up the words of a byte string. -/
def addWords (sum : Nat) : Bytes → Option Nat
  | [] => some sum
  | [last] => addWord sum (beU16 last 0)
  | high :: low :: rest =>
      match addWord sum (beU16 high low) with
      | none => none
      | some sum => addWords sum rest

/-- `checksum`. -/
def checksum (bytes : Bytes) : Option UInt16 :=
  (addWords 0 bytes).map fun sum => ~~~UInt16.ofNat (foldCarries sum)

/-- `udp_checksum`. -/
def udpChecksum (source dest : SocketAddrV4) (udp : Bytes) : Option UInt16 :=
  checksum
    (octets source.ip ++ octets dest.ip ++ [0, 17] ++
      toBeU16 (udp.length % 65536) ++ udp)

/-! ## Packets -/

/-- `encode`. -/
def encode (source dest : SocketAddrV4) (payload : Bytes) :
    Except UdpError Bytes :=
  if 65507 < payload.length then
    .error .invalidInput
  else
    let packet := List.replicate (28 + payload.length) 0
    let packet := packet.set 0 0x45
    let packet := copyAt packet 2 (toBeU16 (28 + payload.length))
    let packet := packet.set 6 0x40
    let packet := packet.set 8 64
    let packet := packet.set 9 17
    let packet := copyAt packet 12 (octets source.ip)
    let packet := copyAt packet 16 (octets dest.ip)
    match checksum (packet.take 20) with
    | none => .error .overflow
    | some ipChecksum =>
        let packet := copyAt packet 10 (toBeU16 ipChecksum.toNat)
        let packet := copyAt packet 20 (toBeU16 source.port.toNat)
        let packet := copyAt packet 22 (toBeU16 dest.port.toNat)
        let packet := copyAt packet 24 (toBeU16 (8 + payload.length))
        let packet := copyAt packet 28 payload
        match udpChecksum source dest (packet.drop 20) with
        | none => .error .overflow
        | some sum =>
            .ok
              (copyAt packet 26
                (toBeU16 (if sum = 0 then 65535 else sum.toNat)))

/-- `invalid UDP reply`. -/
def bad : UdpError :=
  .invalidData "invalid UDP reply"

/-- `decode`. -/
def decode (packet : Bytes) (source dest : SocketAddrV4) :
    Except UdpError Bytes :=
  match parseIpv4Flow packet with
  | .error error => .error (.packet error)
  | .ok flow =>
      let ihl := (byteAt packet 0 &&& 15).toNat * 4
      if packet.length < ihl + 8 ∨ byteAt packet 9 ≠ 17 ∨
          flow.srcAddr ≠ source.ip ∨ flow.dstAddr ≠ dest.ip ∨
          flow.srcPort ≠ source.port ∨ flow.dstPort ≠ dest.port ∨
          beU16 (byteAt packet 2) (byteAt packet 3) ≠ packet.length then
        .error bad
      else
        match checksum (packet.take ihl) with
        | none => .error .overflow
        | some sum =>
            if sum ≠ 0 then
              .error bad
            else
              let udp := packet.drop ihl
              if beU16 (byteAt udp 4) (byteAt udp 5) ≠ udp.length then
                .error bad
              else if byteAt udp 6 = 0 ∧ byteAt udp 7 = 0 then
                .ok (udp.drop 8)
              else
                match udpChecksum source dest udp with
                | none => .error .overflow
                | some sum =>
                    if sum ≠ 0 then .error bad else .ok (udp.drop 8)

/-! ## What the checksums are -/

/-- The accumulation of a string of at most 131072 bytes stays within 32
bits. -/
theorem addWords_eq_some {sum : Nat} {bytes : Bytes}
    (fits : sum + wordSum bytes < 2 ^ 32) :
    addWords sum bytes = some (sum + wordSum bytes) := by
  induction bytes using wordSum.induct generalizing sum with
  | case1 => rw [addWords, wordSum, Nat.add_zero]
  | case2 last =>
      rw [wordSum] at fits ⊢
      rw [addWords, addWord, if_pos fits]
  | case3 high low rest inductionHypothesis =>
      rw [wordSum, ← Nat.add_assoc] at fits ⊢
      have first : sum + beU16 high low < 2 ^ 32 := by omega
      rw [addWords, addWord, if_pos first]
      exact inductionHypothesis fits

theorem checksum_eq_some {bytes : Bytes} (short : bytes.length ≤ 131072) :
    checksum bytes = some (~~~UInt16.ofNat (foldCarries (wordSum bytes))) := by
  have bound := wordSum_le bytes
  have fits : 0 + wordSum bytes < 2 ^ 32 := by omega
  rw [checksum, addWords_eq_some fits, Option.map_some, Nat.zero_add]

theorem toNat_not_foldCarries (sum : Nat) :
    (~~~UInt16.ofNat (foldCarries sum)).toNat = 65535 - foldCarries sum := by
  have bound := foldCarries_le sum
  have size : UInt16.size = 65536 := rfl
  rw [UInt16.toNat_not, UInt16.toNat_ofNat', size]
  omega

/-- A checksum verifies if the sum is a positive multiple of 65535. -/
theorem checksum_eq_zero_iff {bytes : Bytes} (short : bytes.length ≤ 131072) :
    checksum bytes = some 0 ↔
      0 < wordSum bytes ∧ wordSum bytes % 65535 = 0 := by
  have bound := foldCarries_le (wordSum bytes)
  rw [checksum_eq_some short, Option.some_inj, ← foldCarries_eq_iff,
    ← UInt16.toNat_inj, toNat_not_foldCarries]
  have zero : (0 : UInt16).toNat = 0 := rfl
  rw [zero]
  omega

/-! ## The form of a packet -/

/-- The IPv4 header with a checksum. -/
def ipHeader (source dest : SocketAddrV4) (length check : Nat) : Bytes :=
  [0x45, 0] ++ toBeU16 (28 + length) ++ [0, 0, 0x40, 0, 64, 17] ++
    toBeU16 check ++ octets source.ip ++ octets dest.ip

/-- The UDP header with a checksum. -/
def udpHeader (source dest : SocketAddrV4) (length check : Nat) : Bytes :=
  toBeU16 source.port.toNat ++ toBeU16 dest.port.toNat ++
    toBeU16 (8 + length) ++ toBeU16 check

/-- The checksum that is stored for UDP. -/
def storedChecksum (sum : UInt16) : Nat :=
  if sum = 0 then 65535 else sum.toNat

section

variable (source dest : SocketAddrV4) {payload : Bytes}

@[simp]
theorem length_ipHeader (length check : Nat) :
    (ipHeader source dest length check).length = 20 :=
  rfl

@[simp]
theorem length_udpHeader (length check : Nat) :
    (udpHeader source dest length check).length = 8 :=
  rfl

/-- The header before its checksum is written. -/
theorem ipHeader_written (length : Nat) (rest : Bytes) :
    copyAt
        (copyAt
          ((((copyAt ((List.replicate 28 0 ++ rest).set 0 0x45) 2
            (toBeU16 (28 + length))).set 6 0x40).set 8 64).set 9 17)
          12 (octets source.ip))
        16 (octets dest.ip) =
      ipHeader source dest length 0 ++ (List.replicate 8 0 ++ rest) :=
  rfl

theorem checksum_written (length check : Nat) (rest : Bytes) :
    copyAt (ipHeader source dest length 0 ++ rest) 10 (toBeU16 check) =
      ipHeader source dest length check ++ rest :=
  rfl

/-- A field is written over bytes of the same length. -/
theorem copyAt_middle (front old rest : Bytes) {bytes : Bytes}
    (size : old.length = bytes.length) :
    copyAt (front ++ (old ++ rest)) front.length bytes =
      front ++ (bytes ++ rest) := by
  rw [copyAt, List.take_left, ← size, ← List.drop_drop, List.drop_left,
    List.drop_left, List.append_assoc]

/-- The checksum and the UDP header are written behind it. -/
theorem udpHeader_written (length check : Nat) (rest : Bytes) :
    copyAt
        (copyAt
          (copyAt
            (copyAt
              (ipHeader source dest length 0 ++ (List.replicate 8 0 ++ rest))
              10 (toBeU16 check))
            20 (toBeU16 source.port.toNat))
          22 (toBeU16 dest.port.toNat))
        24 (toBeU16 (8 + length)) =
      ipHeader source dest length check ++
        (udpHeader source dest length 0 ++ rest) := by
  have sourcePort :=
    copyAt_middle (ipHeader source dest length check) [0, 0]
      (List.replicate 6 0 ++ rest) (length_toBeU16 source.port.toNat).symm
  have destPort :=
    copyAt_middle
      (ipHeader source dest length check ++ toBeU16 source.port.toNat) [0, 0]
      (List.replicate 4 0 ++ rest) (length_toBeU16 dest.port.toNat).symm
  have size :=
    copyAt_middle
      (ipHeader source dest length check ++
        (toBeU16 source.port.toNat ++ toBeU16 dest.port.toNat)) [0, 0]
      (List.replicate 2 0 ++ rest) (length_toBeU16 (8 + length)).symm
  simp only [List.append_assoc] at destPort size
  rw [checksum_written]
  exact (congrArg (fun packet => copyAt (copyAt packet 22 _) 24 _) sourcePort).trans
    ((congrArg (fun packet => copyAt packet 24 _) destPort).trans size)

theorem payload_written (length check : Nat) :
    copyAt
        (ipHeader source dest length check ++
          (udpHeader source dest length 0 ++
            List.replicate payload.length 0))
        28 payload =
      ipHeader source dest length check ++
        (udpHeader source dest length 0 ++ payload) := by
  have front :
      (ipHeader source dest length check ++
        (udpHeader source dest length 0 ++
          List.replicate payload.length 0)).take 28 =
        ipHeader source dest length check ++
          udpHeader source dest length 0 :=
    rfl
  have back :
      (ipHeader source dest length check ++
        (udpHeader source dest length 0 ++
          List.replicate payload.length 0)).drop (28 + payload.length) =
        [] := by
    apply List.drop_eq_nil_of_le
    simp only [List.length_append, length_ipHeader, length_udpHeader,
      List.length_replicate]
    omega
  rw [copyAt, front, back, List.append_nil, List.append_assoc]

theorem udpSum_written (length check sum : Nat) :
    copyAt
        (ipHeader source dest length check ++
          (udpHeader source dest length 0 ++ payload))
        26 (toBeU16 sum) =
      ipHeader source dest length check ++
        (udpHeader source dest length sum ++ payload) :=
  rfl

/-- A payload that is not too long is encoded behind its two headers. -/
theorem encode_eq (short : payload.length ≤ 65507) :
    ∃ ipSum udpSum,
      checksum (ipHeader source dest payload.length 0) = some ipSum ∧
      udpChecksum source dest
          (udpHeader source dest payload.length 0 ++ payload) = some udpSum ∧
      encode source dest payload =
        .ok
          (ipHeader source dest payload.length ipSum.toNat ++
            (udpHeader source dest payload.length (storedChecksum udpSum) ++
              payload)) := by
  have ipShort :
      (ipHeader source dest payload.length 0).length ≤ 131072 := by
    rw [length_ipHeader]
    decide
  have udpShort :
      (octets source.ip ++ octets dest.ip ++ [0, 17] ++
        toBeU16
          ((udpHeader source dest payload.length 0 ++ payload).length %
            65536) ++
        (udpHeader source dest payload.length 0 ++ payload)).length ≤
          131072 := by
    simp only [List.length_append, length_octets, List.length_cons,
      List.length_nil, length_toBeU16, length_udpHeader]
    omega
  have ipSummed := checksum_eq_some ipShort
  have udpSummed := checksum_eq_some udpShort
  rw [← udpChecksum] at udpSummed
  refine ⟨_, _, ipSummed, udpSummed, ?_⟩
  have blank :
      List.replicate (28 + payload.length) (0 : UInt8) =
        List.replicate 28 0 ++ List.replicate payload.length 0 := by
    rw [List.replicate_append_replicate]
  have header :
      ∀ rest, (ipHeader source dest payload.length 0 ++ rest).take 20 =
        ipHeader source dest payload.length 0 :=
    fun rest => rfl
  have behind :
      ∀ check rest,
        (ipHeader source dest payload.length check ++ rest).drop 20 = rest :=
    fun check rest => rfl
  unfold encode
  simp only [if_neg (Nat.not_lt_of_le short), blank, ipHeader_written, header,
    ipSummed, udpHeader_written, payload_written, behind, udpSummed,
    udpSum_written]
  rfl

/-! ## The sums of a packet -/

theorem wordSum_toBeU16 {value : Nat} (fits : value < 65536) (rest : Bytes) :
    wordSum (toBeU16 value ++ rest) = value + wordSum rest := by
  have even : (toBeU16 value).length % 2 = 0 := by rw [length_toBeU16]
  rw [wordSum_append even, toBeU16, wordSum, wordSum, beU16_toBeU16 fits,
    Nat.add_zero]

theorem toNat_lt_65536 (word : UInt16) : word.toNat < 65536 :=
  word.toNat_lt

/-- The checksum adds to the sum of a header. -/
theorem wordSum_ipHeader (length : Nat) {check : Nat} (fits : check < 65536) :
    wordSum (ipHeader source dest length check) =
      wordSum (ipHeader source dest length 0) + check := by
  have general : ∀ value, value < 65536 →
      wordSum (ipHeader source dest length value) =
        wordSum
            ([0x45, 0] ++ toBeU16 (28 + length) ++ [0, 0, 0x40, 0, 64, 17]) +
          (value + wordSum (octets source.ip ++ octets dest.ip)) := by
    intro value small
    have even :
        ([0x45, 0] ++ toBeU16 (28 + length) ++
          [0, 0, 0x40, 0, 64, 17]).length % 2 = 0 := by
      simp only [List.length_append, length_toBeU16, List.length_cons,
        List.length_nil]
    rw [ipHeader, List.append_assoc, List.append_assoc, wordSum_append even,
      wordSum_toBeU16 small]
  rw [general check fits, general 0 (by decide)]
  omega

theorem wordSum_ipHeader_pos (length check : Nat) :
    0 < wordSum (ipHeader source dest length check) := by
  rw [ipHeader, List.append_assoc, List.append_assoc, List.append_assoc,
    List.append_assoc, wordSum_append rfl]
  have front : wordSum [0x45, 0] = 17664 := rfl
  omega

/-- What is summed up for UDP: the addresses, the protocol, the length and
the datagram. -/
def pseudo (udp : Bytes) : Bytes :=
  octets source.ip ++ octets dest.ip ++ [0, 17] ++
    toBeU16 (udp.length % 65536) ++ udp

theorem udpChecksum_eq (udp : Bytes) :
    udpChecksum source dest udp = checksum (pseudo source dest udp) :=
  rfl

theorem length_pseudo (udp : Bytes) :
    (pseudo source dest udp).length = 12 + udp.length := by
  simp only [pseudo, List.length_append, length_octets, List.length_cons,
    List.length_nil, length_toBeU16]

/-- The checksum adds to the sum of a datagram. -/
theorem wordSum_pseudo (length : Nat) {check : Nat} (fits : check < 65536)
    (data : Bytes) :
    wordSum (pseudo source dest (udpHeader source dest length check ++ data)) =
      wordSum (pseudo source dest (udpHeader source dest length 0 ++ data)) +
        check := by
  have general : ∀ value, value < 65536 →
      wordSum
          (pseudo source dest (udpHeader source dest length value ++ data)) =
        wordSum
            (octets source.ip ++ octets dest.ip ++ [0, 17] ++
              toBeU16 ((8 + data.length) % 65536)) +
          (wordSum
              (toBeU16 source.port.toNat ++ toBeU16 dest.port.toNat ++
                toBeU16 (8 + length)) +
            (value + wordSum data)) := by
    intro value small
    have evenFront :
        (octets source.ip ++ octets dest.ip ++ [0, 17] ++
          toBeU16 ((8 + data.length) % 65536)).length % 2 = 0 := by
      simp only [List.length_append, length_octets, length_toBeU16,
        List.length_cons, List.length_nil]
    have evenPorts :
        (toBeU16 source.port.toNat ++ toBeU16 dest.port.toNat ++
          toBeU16 (8 + length)).length % 2 = 0 := by
      simp only [List.length_append, length_toBeU16]
    have datagram :
        udpHeader source dest length value ++ data =
          (toBeU16 source.port.toNat ++ toBeU16 dest.port.toNat ++
            toBeU16 (8 + length)) ++ (toBeU16 value ++ data) := by
      rw [udpHeader, List.append_assoc]
    rw [pseudo, List.length_append, length_udpHeader,
      wordSum_append evenFront, datagram, wordSum_append evenPorts,
      wordSum_toBeU16 small]
  rw [general check fits, general 0 (by decide)]
  omega

/-- The payload is summed up last. -/
theorem wordSum_datagram (length check : Nat) (data : Bytes) :
    wordSum (pseudo source dest (udpHeader source dest length check ++ data)) =
      wordSum
          (octets source.ip ++ octets dest.ip ++ [0, 17] ++
            toBeU16 ((8 + data.length) % 65536) ++
            udpHeader source dest length check) +
        wordSum data := by
  have even :
      (octets source.ip ++ octets dest.ip ++ [0, 17] ++
        toBeU16 ((8 + data.length) % 65536) ++
        udpHeader source dest length check).length % 2 = 0 := by
    simp only [List.length_append, length_octets, length_toBeU16,
      length_udpHeader, List.length_cons, List.length_nil]
  rw [pseudo, List.length_append, length_udpHeader, ← List.append_assoc,
    wordSum_append even]

/-- The header with its checksum verifies. -/
theorem checksum_ipHeader {length : Nat} {sum : UInt16}
    (summed : checksum (ipHeader source dest length 0) = some sum) :
    checksum (ipHeader source dest length sum.toNat) = some 0 := by
  have short : ∀ check,
      (ipHeader source dest length check).length ≤ 131072 := by
    intro check
    rw [length_ipHeader]
    decide
  rw [checksum_eq_some (short 0), Option.some_inj] at summed
  have value : sum.toNat =
      65535 - foldCarries (wordSum (ipHeader source dest length 0)) := by
    rw [← summed, toNat_not_foldCarries]
  have bound := foldCarries_le (wordSum (ipHeader source dest length 0))
  have remainder := foldCarries_mod (wordSum (ipHeader source dest length 0))
  rw [checksum_eq_zero_iff (short _)]
  refine ⟨wordSum_ipHeader_pos source dest length _, ?_⟩
  rw [wordSum_ipHeader source dest length (toNat_lt_65536 sum), value]
  omega

theorem storedChecksum_pos (sum : UInt16) : 0 < storedChecksum sum := by
  unfold storedChecksum
  by_cases zero : sum = 0
  · rw [if_pos zero]
    decide
  · rw [if_neg zero]
    apply Nat.pos_of_ne_zero
    intro empty
    exact zero (UInt16.toNat_inj.mp empty)

theorem storedChecksum_lt (sum : UInt16) : storedChecksum sum < 65536 := by
  unfold storedChecksum
  split
  · decide
  · exact sum.toNat_lt

/-- With the stored checksum the sum of a datagram is a multiple of 65535. -/
theorem wordSum_pseudo_mod {length : Nat} {data : Bytes} {sum : UInt16}
    (short : data.length ≤ 65507)
    (summed :
      udpChecksum source dest (udpHeader source dest length 0 ++ data) =
        some sum) :
    wordSum
        (pseudo source dest
          (udpHeader source dest length (storedChecksum sum) ++ data)) %
      65535 = 0 := by
  rw [udpChecksum_eq, checksum_eq_some, Option.some_inj] at summed
  · have value :
        sum.toNat =
          65535 - foldCarries
            (wordSum
              (pseudo source dest
                (udpHeader source dest length 0 ++ data))) := by
      rw [← summed, toNat_not_foldCarries]
    rw [wordSum_pseudo source dest length (storedChecksum_lt sum)]
    generalize wordSum
      (pseudo source dest (udpHeader source dest length 0 ++ data)) = total
      at value
    have bound := foldCarries_le total
    have remainder := foldCarries_mod total
    unfold storedChecksum
    by_cases zero : sum = 0
    · rw [zero] at value
      have empty : (0 : UInt16).toNat = 0 := rfl
      rw [if_pos zero]
      omega
    · rw [if_neg zero, value]
      omega
  · rw [length_pseudo, List.length_append, length_udpHeader]
    omega

/-- A datagram of this form verifies exactly if its sum is a multiple of
65535. -/
theorem udpChecksum_eq_zero_iff {length check : Nat} {data : Bytes}
    (short : data.length ≤ 65507) :
    udpChecksum source dest (udpHeader source dest length check ++ data) =
        some 0 ↔
      wordSum
          (pseudo source dest (udpHeader source dest length check ++ data)) %
        65535 = 0 := by
  have within :
      (pseudo source dest
        (udpHeader source dest length check ++ data)).length ≤ 131072 := by
    rw [length_pseudo, List.length_append, length_udpHeader]
    omega
  have positive :
      0 < wordSum
        (pseudo source dest (udpHeader source dest length check ++ data)) := by
    have even : (octets source.ip ++ octets dest.ip).length % 2 = 0 := by
      simp only [List.length_append, length_octets]
    have evenProtocol : ([0, 17] : Bytes).length % 2 = 0 := rfl
    rw [pseudo, List.append_assoc, List.append_assoc _ [0, 17],
      wordSum_append even, wordSum_append evenProtocol]
    have protocol : wordSum [0, 17] = 17 := rfl
    omega
  rw [udpChecksum_eq, checksum_eq_zero_iff within]
  exact and_iff_right positive

/-! ## Reading a packet -/

/-- The five-tuple of a datagram. -/
def udpFlow : Ipv4Flow where
  protocol := .udp
  srcAddr := source.ip
  srcPort := source.port
  dstAddr := dest.ip
  dstPort := dest.port

theorem portAt_toBeU16 (port : UInt16) (bytes : Bytes) {index : Nat}
    (high : byteAt bytes index = UInt8.ofNat (port.toNat / 256))
    (low : byteAt bytes (index + 1) = UInt8.ofNat port.toNat) :
    portAt bytes index = port := by
  rw [portAt, high, low, beU16_toBeU16 port.toNat_lt, UInt16.ofNat_toNat]

/-- The flow of a packet of this form. -/
theorem parseIpv4Flow_packet (length ipCheck udpCheck : Nat) (data : Bytes) :
    parseIpv4Flow
        (ipHeader source dest length ipCheck ++
          (udpHeader source dest length udpCheck ++ data)) =
      .ok (udpFlow source dest) := by
  have total :
      (ipHeader source dest length ipCheck ++
        (udpHeader source dest length udpCheck ++ data)).length =
          28 + data.length := by
    simp only [List.length_append, length_ipHeader, length_udpHeader]
    omega
  have sourcePort :
      portAt
          (ipHeader source dest length ipCheck ++
            (udpHeader source dest length udpCheck ++ data)) 20 =
        source.port :=
    portAt_toBeU16 source.port _ rfl rfl
  have destPort :
      portAt
          (ipHeader source dest length ipCheck ++
            (udpHeader source dest length udpCheck ++ data)) 22 =
        dest.port :=
    portAt_toBeU16 dest.port _ rfl rfl
  have sourceAddr :
      addrAt
          (ipHeader source dest length ipCheck ++
            (udpHeader source dest length udpCheck ++ data)) 12 =
        source.ip :=
    rfl
  have destAddr :
      addrAt
          (ipHeader source dest length ipCheck ++
            (udpHeader source dest length udpCheck ++ data)) 16 =
        dest.ip :=
    rfl
  have version :
      byteAt
          (ipHeader source dest length ipCheck ++
            (udpHeader source dest length udpCheck ++ data)) 0 = 0x45 :=
    rfl
  have flags :
      byteAt
          (ipHeader source dest length ipCheck ++
            (udpHeader source dest length udpCheck ++ data)) 6 = 0x40 ∧
        byteAt
          (ipHeader source dest length ipCheck ++
            (udpHeader source dest length udpCheck ++ data)) 7 = 0 :=
    ⟨rfl, rfl⟩
  have protocol :
      byteAt
          (ipHeader source dest length ipCheck ++
            (udpHeader source dest length udpCheck ++ data)) 9 = 17 :=
    rfl
  generalize
    ipHeader source dest length ipCheck ++
      (udpHeader source dest length udpCheck ++ data) = packet at *
  have four : ¬ (0x45 : UInt8) >>> 4 ≠ 4 := by decide
  have words : ((0x45 : UInt8) &&& 0x0f).toNat * 4 = 20 := by decide
  have unfragmented :
      ¬ (beU16 0x40 0 % 0x2000 ≠ 0 ∨
        decide (beU16 0x40 0 / 0x2000 % 2 = 1) = true) := by
    decide
  have udp : L3IpProtocol.fromU8 17 = some .udp := rfl
  unfold parseIpv4Flow
  simp only [minIpv4Header, version, flags.1, flags.2, protocol, words, udp]
  rw [if_neg (by omega), if_neg four, if_neg (by decide), if_neg (by omega),
    if_neg unfragmented]
  simp only [transportPorts]
  rw [if_neg (by omega)]
  simp only [sourcePort, destPort, sourceAddr, destAddr]
  rfl

/-- A packet with right lengths and a right header is decoded exactly if the
sum of its datagram is a multiple of 65535. -/
theorem decode_packet {ipCheck udpCheck : Nat} {data : Bytes}
    (short : data.length ≤ 65507)
    (verified :
      checksum (ipHeader source dest data.length ipCheck) = some 0)
    (positive : 0 < udpCheck) (fits : udpCheck < 65536) :
    decode
        (ipHeader source dest data.length ipCheck ++
          (udpHeader source dest data.length udpCheck ++ data))
        source dest =
      if wordSum
          (pseudo source dest
            (udpHeader source dest data.length udpCheck ++ data)) %
          65535 = 0 then
        .ok data
      else
        .error bad := by
  have parsed :=
    parseIpv4Flow_packet source dest data.length ipCheck udpCheck data
  have sums := @udpChecksum_eq_zero_iff source dest data.length udpCheck data
    short
  have summed :
      ∃ sum, udpChecksum source dest
        (udpHeader source dest data.length udpCheck ++ data) = some sum := by
    refine ⟨_, checksum_eq_some ?_⟩
    have lengths :=
      length_pseudo source dest
        (udpHeader source dest data.length udpCheck ++ data)
    rw [List.length_append, length_udpHeader] at lengths
    exact Nat.le_trans (Nat.le_of_eq lengths) (by omega)
  have udpLength :
      (udpHeader source dest data.length udpCheck ++ data).length =
        8 + data.length := by
    rw [List.length_append, length_udpHeader]
  have total :
      (ipHeader source dest data.length ipCheck ++
        (udpHeader source dest data.length udpCheck ++ data)).length =
          28 + data.length := by
    rw [List.length_append, length_ipHeader, udpLength]
    omega
  have ihl :
      (byteAt
          (ipHeader source dest data.length ipCheck ++
            (udpHeader source dest data.length udpCheck ++ data)) 0 &&&
        15).toNat * 4 = 20 := by
    have version :
        byteAt
            (ipHeader source dest data.length ipCheck ++
              (udpHeader source dest data.length udpCheck ++ data)) 0 =
          0x45 :=
      rfl
    rw [version]
    decide
  have totalField :
      beU16
          (byteAt
            (ipHeader source dest data.length ipCheck ++
              (udpHeader source dest data.length udpCheck ++ data)) 2)
          (byteAt
            (ipHeader source dest data.length ipCheck ++
              (udpHeader source dest data.length udpCheck ++ data)) 3) =
        28 + data.length :=
    beU16_toBeU16 (by omega)
  have udpField :
      beU16
          (byteAt (udpHeader source dest data.length udpCheck ++ data) 4)
          (byteAt (udpHeader source dest data.length udpCheck ++ data) 5) =
        8 + data.length :=
    beU16_toBeU16 (by omega)
  have checkField :
      beU16
          (byteAt (udpHeader source dest data.length udpCheck ++ data) 6)
          (byteAt (udpHeader source dest data.length udpCheck ++ data) 7) =
        udpCheck :=
    beU16_toBeU16 fits
  have present :
      ¬ (byteAt (udpHeader source dest data.length udpCheck ++ data) 6 = 0 ∧
        byteAt (udpHeader source dest data.length udpCheck ++ data) 7 =
          0) := by
    rintro ⟨high, low⟩
    rw [high, low] at checkField
    have zero : beU16 0 0 = 0 := rfl
    omega
  have protocol :
      byteAt
          (ipHeader source dest data.length ipCheck ++
            (udpHeader source dest data.length udpCheck ++ data)) 9 = 17 :=
    rfl
  have header :
      (ipHeader source dest data.length ipCheck ++
        (udpHeader source dest data.length udpCheck ++ data)).take 20 =
          ipHeader source dest data.length ipCheck :=
    rfl
  have datagram :
      (ipHeader source dest data.length ipCheck ++
        (udpHeader source dest data.length udpCheck ++ data)).drop 20 =
          udpHeader source dest data.length udpCheck ++ data :=
    rfl
  have behind :
      (udpHeader source dest data.length udpCheck ++ data).drop 8 = data :=
    rfl
  obtain ⟨sum, summed⟩ := summed
  rw [summed, Option.some_inj] at sums
  have accepted :
      ¬ (28 + data.length < 20 + 8 ∨ (17 : UInt8) ≠ 17 ∨
        (udpFlow source dest).srcAddr ≠ source.ip ∨
        (udpFlow source dest).dstAddr ≠ dest.ip ∨
        (udpFlow source dest).srcPort ≠ source.port ∨
        (udpFlow source dest).dstPort ≠ dest.port ∨
        28 + data.length ≠ 28 + data.length) := by
    simp [udpFlow]
  unfold decode
  simp only [parsed, ihl, header, datagram, verified, behind, protocol,
    totalField, udpField, total, udpLength, if_neg accepted, if_neg present,
    summed]
  rw [if_neg (fun other => other rfl), if_neg (fun other => other rfl)]
  by_cases verifies : sum = 0
  · rw [if_neg (fun other => other verifies), if_pos (sums.mp verifies)]
  · rw [if_pos verifies, if_neg (mt sums.mpr verifies)]

end

/-- A datagram that is not too long is encoded, and the packet is read as the
flow of its addresses and decoded to the payload again.  Both checksums verify,
that of UDP is never zero, and no packet with another byte in its payload is
decoded. -/
theorem encode_decode (source dest : SocketAddrV4) (payload : Bytes)
    (short : payload.length ≤ 65507) :
    ∃ packet, encode source dest payload = .ok packet ∧
      parseIpv4Flow packet = .ok (udpFlow source dest) ∧
      decode packet source dest = .ok payload ∧
      beU16 (byteAt packet 26) (byteAt packet 27) ≠ 0 ∧
      checksum (packet.take 20) = some 0 ∧
      udpChecksum source dest (packet.drop 20) = some 0 ∧
      packet.drop 28 = payload ∧
      ∀ position < payload.length, ∀ byte ≠ byteAt payload position,
        decode (packet.set (28 + position) byte) source dest =
          .error bad := by
  obtain ⟨ipSum, udpSum, ipSummed, udpSummed, encoded⟩ :=
    encode_eq source dest short
  have verified := checksum_ipHeader source dest ipSummed
  have multiple := wordSum_pseudo_mod source dest short udpSummed
  have positive := storedChecksum_pos udpSum
  have fits := storedChecksum_lt udpSum
  generalize storedChecksum udpSum = stored at encoded multiple positive fits
  have checkField :
      beU16
          (byteAt
            (ipHeader source dest payload.length ipSum.toNat ++
              (udpHeader source dest payload.length stored ++ payload)) 26)
          (byteAt
            (ipHeader source dest payload.length ipSum.toNat ++
              (udpHeader source dest payload.length stored ++ payload)) 27) =
        stored :=
    beU16_toBeU16 fits
  refine ⟨_, encoded, parseIpv4Flow_packet source dest _ _ _ _, ?_, ?_,
    verified, ?_, rfl, ?_⟩
  · rw [decode_packet source dest short verified positive fits,
      if_pos multiple]
  · rw [checkField]
    exact Nat.ne_of_gt positive
  · exact (udpChecksum_eq_zero_iff source dest short).mpr multiple
  · intro position inside byte other
    have same : (payload.set position byte).length = payload.length :=
      List.length_set
    have changed :
        (ipHeader source dest payload.length ipSum.toNat ++
          (udpHeader source dest payload.length stored ++ payload)).set
            (28 + position) byte =
          ipHeader source dest payload.length ipSum.toNat ++
            (udpHeader source dest payload.length stored ++
              payload.set position byte) := by
      have behind :
          (ipHeader source dest payload.length ipSum.toNat).length ≤
            28 + position := by
        rw [length_ipHeader]
        omega
      have offset :
          28 + position -
              (ipHeader source dest payload.length ipSum.toNat).length =
            (udpHeader source dest payload.length stored).length +
              position := by
        rw [length_ipHeader, length_udpHeader]
        omega
      rw [List.set_append_right _ _ behind, offset,
        List.set_append_right _ _ (Nat.le_add_right _ _),
        Nat.add_sub_cancel_left]
    have decoded :=
      @decode_packet source dest ipSum.toNat stored
        (payload.set position byte) (by rw [same]; exact short)
        (by rw [same]; exact verified) positive fits
    rw [same] at decoded
    have seen := wordSum_set_mod_ne payload inside other
    rw [wordSum_datagram] at multiple
    rw [changed, decoded, if_neg]
    rw [wordSum_datagram, same]
    omega

/-- A datagram of one byte, which is padded for its checksum. -/
theorem encode_decode_sample :
    ∃ packet,
      encode ⟨⟨10, 0, 0, 1⟩, 10000⟩ ⟨⟨10, 0, 0, 2⟩, 53⟩ [97] = .ok packet ∧
        decode packet ⟨⟨10, 0, 0, 1⟩, 10000⟩ ⟨⟨10, 0, 0, 2⟩, 53⟩ =
          .ok [97] := by
  obtain ⟨packet, encoded, -, decoded, -⟩ :=
    encode_decode ⟨⟨10, 0, 0, 1⟩, 10000⟩ ⟨⟨10, 0, 0, 2⟩, 53⟩ [97] (by decide)
  exact ⟨packet, encoded, decoded⟩

end HermesAtrust.Net.Udp
