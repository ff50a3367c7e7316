import HermesAtrust.Collections.HashTable
import HermesAtrust.Net.DnsName

/-!
# DNS messages

`query` asks for the address of a host, `question` reads what was asked,
`reply` answers it and `parse` reads an answer.  Every comparison of `question`
and `parse` that fails and every read past the end give the same error, so
their order among each other does not show.
-/

namespace HermesAtrust.Net.Dns

open HermesAtrust.Collections HermesAtrust.Framing HermesAtrust.L3
open HermesAtrust.Text

structure Duration where
  secs : Nat
  nanos : Nat
  subsecond : nanos < 1000000000
  deriving DecidableEq

/-- `Duration::from_secs`. -/
def Duration.fromSecs (secs : Nat) : Duration :=
  ⟨secs, 0, by decide⟩

inductive Answer where
  | truncated
  | addresses (ips : List Ipv4Addr) (ttl : Duration)
  deriving DecidableEq

def rejected : WireError :=
  .notFound "DNS lookup was rejected"

def unmatched : WireError :=
  .lookup ⟨.addrNotAvailable, "DNS response has no matching IPv4 answer"⟩

/-- `u32::to_be_bytes`. -/
def toBeU32 (value : Nat) : Bytes :=
  toBeU16 (value / 65536) ++ toBeU16 (value % 65536)

/-! ## Questions -/

/-- Labels, each behind its length. -/
def wireLabels (labels : List Bytes) : Bytes :=
  labels.flatMap fun label => UInt8.ofNat label.length :: label

/-- `query`. -/
def query (host : Str) (id : UInt16) : Except WireError Bytes :=
  match normalize host with
  | .error error => .error (.lookup error)
  | .ok host =>
      let packet := toBeU16 id.toNat ++ List.replicate 10 0
      let packet := packet.set 2 1
      let packet := packet.set 5 1
      .ok
        (packet ++ (wireLabels ((host.splitOn '.').map utf8) ++
          [0, 0, 1, 0, 1]))

/-- `question`: the host, the type and the end of the question. -/
def question (request : Bytes) : Except WireError (Str × Nat × Nat) :=
  if request.length < 12 ∨ 4096 < request.length then
    .error bad
  else do
    let flags ← word request 2
    let questions ← word request 4
    let answers ← word request 6
    let authorities ← word request 8
    if flags &&& 0xf800 ≠ 0 ∨ questions ≠ 1 ∨ answers ≠ 0 ∨ authorities ≠ 0 then
      .error bad
    else do
      let (asked, ending) ← name request 12
      let host ← (normalize asked).mapError .lookup
      let kind ← word request ending
      let cls ← word request (ending + 2)
      if cls ≠ 1 then .error bad else .ok (host, kind, ending + 4)

/-! ## Answers -/

/-- `reply`.  A question that ends inside the header or beyond the request is
a panic. -/
def reply (request : Bytes) (questionEnd : Nat) (ip : Option Ipv4Addr)
    (ttl : Duration) (rcode : UInt8) : Option Bytes :=
  if 12 ≤ questionEnd ∧ questionEnd ≤ request.length then
    let reply := request.take questionEnd
    let reply := reply.set 2 (0x80 ||| (byteAt request 2 &&& 1))
    let reply := reply.set 3 (0x80 ||| rcode)
    let reply := reply.take 6 ++ List.replicate 6 0 ++ reply.drop 12
    let reply := reply.set 7 (if ip.isSome then 1 else 0)
    match ip with
    | none => some reply
    | some ip =>
        some
          (reply ++ ([0xc0, 12, 0, 1, 0, 1] ++
            toBeU32 (min ttl.secs 4294967295) ++ [0, 4] ++
            [ip.a, ip.b, ip.c, ip.d]))
  else
    none

/-- What `parse` has collected from the answers. -/
structure Records where
  aliases : HashTable Str (Str × Nat)
  addresses : HashTable Str (List (Ipv4Addr × Nat))

/-- A record of the answer section, whose data begins at the cursor. -/
def collect (bytes : Bytes) (owner : Str) (kind ttl : Nat) (data : Bytes)
    (cursor : Nat) (records : Records) : Except WireError Records :=
  if kind = 1 ∧ data.length = 4 then
    let address :=
      ⟨byteAt data 0, byteAt data 1, byteAt data 2, byteAt data 3⟩
    let held := (records.addresses.lookup owner).getD []
    .ok
      { records with
        addresses := records.addresses.insert owner (held ++ [(address, ttl)]) }
  else if kind = 5 then do
    let (target, ending) ← name bytes cursor
    if ending ≠ cursor + data.length then
      .error bad
    else
      let aliases := records.aliases.insert owner (target, ttl)
      match records.aliases.lookup owner with
      | none => .ok { records with aliases }
      | some previous =>
          if previous.1 ≠ target then
            .error bad
          else
            .ok { records with aliases }
  else
    .ok records

/-- One turn of the loop over the records. -/
def record (bytes : Bytes) (answers index cursor : Nat) (records : Records) :
    Except WireError (Nat × Records) := do
  let (owner, cursor) ← name bytes cursor
  let kind ← word bytes cursor
  let cls ← word bytes (cursor + 2)
  let high ← word bytes (cursor + 4)
  let low ← word bytes (cursor + 6)
  let ttl := high <<< 16 ||| low
  let length ← word bytes (cursor + 8)
  let cursor := cursor + 10
  match slice? bytes cursor length with
  | none => .error bad
  | some data =>
      if index < answers ∧ cls = 1 then do
        let records ← collect bytes owner kind ttl data cursor records
        .ok (cursor + length, records)
      else
        .ok (cursor + length, records)

/-- The loop over the records. -/
def collectRecords (bytes : Bytes) (answers : Nat) :
    Nat → Nat → Nat → Records → Except WireError Records
  | 0, _, _, records => .ok records
  | remaining + 1, index, cursor, records => do
      let (cursor, records) ← record bytes answers index cursor records
      collectRecords bytes answers remaining (index + 1) cursor records

/-- One turn of the loop over the addresses of an owner. -/
def addAddress (found : List Ipv4Addr × Nat) (value : Ipv4Addr × Nat) :
    List Ipv4Addr × Nat :=
  (if value.1 ∈ found.1 then found.1 else found.1 ++ [value.1],
    min found.2 value.2)

/-- The loop that follows the aliases of the host. -/
def follow (records : Records) :
    Nat → Str → Nat → List Str → Except WireError Answer
  | 0, _, _, _ => .error unmatched
  | fuel + 1, owner, ttl, seen =>
      if owner ∈ seen then
        .error bad
      else
        match records.addresses.lookup owner with
        | some values =>
            let found := values.foldl addAddress ([], ttl)
            .ok (.addresses found.1 (.fromSecs found.2))
        | none =>
            match records.aliases.lookup owner with
            | none => .error unmatched
            | some (target, lifetime) =>
                follow records fuel target (min ttl lifetime) (owner :: seen)

/-- `parse`. -/
def parse (bytes : Bytes) (host : Str) (id : UInt16) :
    Except WireError Answer :=
  if bytes.length < 12 then
    .error bad
  else do
    let number ← word bytes 0
    let flags ← word bytes 2
    let questions ← word bytes 4
    if number ≠ id.toNat ∨ flags &&& 0xf800 ≠ 0x8000 ∨ questions ≠ 1 then
      .error bad
    else do
      let (asked, cursor) ← name bytes 12
      let kind ← word bytes cursor
      let cls ← word bytes (cursor + 2)
      if asked ≠ host ∨ kind ≠ 1 ∨ cls ≠ 1 then
        .error bad
      else if flags &&& 0x200 ≠ 0 then
        .ok .truncated
      else if flags &&& 15 ≠ 0 then
        .error rejected
      else do
        let answers ← word bytes 6
        let authorities ← word bytes 8
        let additional ← word bytes 10
        let count := answers + authorities + additional
        if 512 < count then
          .error bad
        else do
          let records ←
            collectRecords bytes answers count 0 (cursor + 4) ⟨∅, ∅⟩
          follow records 16 host 4294967295 []

/-! ## Reading what succeeded -/

theorem bind_eq_ok {Value Result : Type} {first : Except WireError Value}
    {next : Value → Except WireError Result} {result : Result} :
    (first >>= next) = .ok result ↔
      ∃ value, first = .ok value ∧ next value = .ok result := by
  constructor
  · intro succeeded
    cases first with
    | error error => cases succeeded
    | ok value => exact ⟨value, rfl, succeeded⟩
  · rintro ⟨value, rfl, succeeded⟩
    exact succeeded

/-- A request with one question, whose name ends at an offset. -/
structure Asks (request : Bytes) (asked host : Str) (kind after : Nat) :
    Prop where
  long : 12 ≤ request.length
  short : request.length ≤ 4096
  flags : ∃ flags, word request 2 = .ok flags ∧ flags &&& 0xf800 = 0
  questions : word request 4 = .ok 1
  answers : word request 6 = .ok 0
  authorities : word request 8 = .ok 0
  named : name request 12 = .ok (asked, after)
  normalized : normalize asked = .ok host
  kindIs : word request after = .ok kind
  internet : word request (after + 2) = .ok 1

theorem question_eq_ok_iff {request : Bytes} {host : Str} {kind ending : Nat} :
    question request = .ok (host, kind, ending) ↔
      ∃ asked after,
        Asks request asked host kind after ∧ ending = after + 4 := by
  constructor
  · intro succeeded
    rw [question] at succeeded
    by_cases outside : request.length < 12 ∨ 4096 < request.length
    · rw [if_pos outside] at succeeded
      cases succeeded
    · rw [if_neg outside] at succeeded
      simp only [not_or, Nat.not_lt] at outside
      obtain ⟨flags, flagsIs, first⟩ := bind_eq_ok.mp succeeded
      obtain ⟨questions, questionsIs, second⟩ := bind_eq_ok.mp first
      obtain ⟨answers, answersIs, third⟩ := bind_eq_ok.mp second
      obtain ⟨authorities, authoritiesIs, counted⟩ := bind_eq_ok.mp third
      by_cases crowded :
          flags &&& 0xf800 ≠ 0 ∨ questions ≠ 1 ∨ answers ≠ 0 ∨ authorities ≠ 0
      · rw [if_pos crowded] at counted
        cases counted
      · rw [if_neg crowded] at counted
        obtain ⟨⟨asked, after⟩, named, fourth⟩ := bind_eq_ok.mp counted
        obtain ⟨normal, mapped, fifth⟩ := bind_eq_ok.mp fourth
        obtain ⟨kindRead, kindIs, sixth⟩ := bind_eq_ok.mp fifth
        obtain ⟨cls, clsIs, last⟩ := bind_eq_ok.mp sixth
        have normalized : normalize asked = .ok normal := by
          cases outcome : normalize asked with
          | error error =>
              rw [outcome] at mapped
              cases mapped
          | ok normal =>
              rw [outcome] at mapped
              cases mapped
              rfl
        by_cases foreign : cls ≠ 1
        · rw [if_pos foreign] at last
          cases last
        · rw [if_neg foreign] at last
          rw [Decidable.not_not] at foreign
          simp only [not_or, Decidable.not_not] at crowded
          obtain ⟨noFlags, rfl, rfl, rfl⟩ := crowded
          subst foreign
          cases last
          exact ⟨asked, after,
            ⟨outside.1, outside.2, ⟨flags, flagsIs, noFlags⟩, questionsIs,
              answersIs, authoritiesIs, named, normalized, kindIs, clsIs⟩,
            rfl⟩
  · rintro ⟨asked, after, asks, rfl⟩
    obtain ⟨flags, flagsIs, noFlags⟩ := asks.flags
    have inside : ¬(request.length < 12 ∨ 4096 < request.length) := by
      have long := asks.long
      have short := asks.short
      omega
    rw [question, if_neg inside, flagsIs, asks.questions, asks.answers,
      asks.authorities, asks.named]
    simp only [bind, Except.bind, noFlags, ne_eq, not_true_eq_false, or_self,
      if_false, asks.normalized, asks.kindIs, asks.internet, Except.mapError]

end HermesAtrust.Net.Dns
