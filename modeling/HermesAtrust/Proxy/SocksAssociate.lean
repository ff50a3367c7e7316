import HermesAtrust.Collections.HashTable
import HermesAtrust.Concurrency.Transitions
import HermesAtrust.Proxy.SocksHandshake

/-!
# The datagrams of an association over its whole life

The loop of an association takes datagrams from its client, dials a connection
for each destination and sends on it; behind every connection a task returns
what arrives.  The tasks run beside the loop, so the events come in any order.
Nothing is delivered to a wrong place in any of them, and an association has a
bounded number of peers and ends only with its control connection or with the
socket that its datagrams come in on.
-/

namespace HermesAtrust.Proxy.Socks

open HermesAtrust.Collections HermesAtrust.Concurrency HermesAtrust.Framing
open HermesAtrust.L3 HermesAtrust.Net HermesAtrust.Text

/-- The task that returns what arrives on a connection: the destination that
the connection was dialed for, what it puts before each payload, and the
endpoint it returns them to. -/
structure Receiver where
  host : Str
  port : UInt16
  header : Bytes
  source : Endpoint
  deriving DecidableEq

/-- The connection to a destination, by its place among all that were dialed,
and when it was last used. -/
structure Peer where
  connection : Nat
  lastUsed : Nat
  deriving DecidableEq

/-- The state of the loop and of its tasks.  A time is a number of
nanoseconds. -/
structure Association where
  client : Option Endpoint
  peers : HashTable (Str × UInt16) Peer
  receivers : List Receiver
  finished : List Nat
  now : Nat
  running : Bool

/-- What happens to an association.  A datagram comes with whether a dial
succeeds and the time it takes, and whether the connection takes the payload; a
payload comes with whether the socket takes the reply.  The control connection
is `closed` when it has no more bytes or cannot be read, and `failed` is an
error of the socket on receiving. -/
inductive Event where
  | packet (bytes : Bytes) (source : Endpoint) (dials : Bool) (took : Nat)
      (sends : Bool)
  | payload (connection : Nat) (bytes : Bytes) (sends : Bool)
  | ended (connection : Nat)
  | wait (time : Nat)
  | closed
  | failed
  deriving DecidableEq

/-- What goes out, beside what it was received as. -/
inductive Delivery where
  | sent (source : Endpoint) (received : Bytes) (connection : Nat)
      (payload : Bytes)
  | replied (connection : Nat) (payload : Bytes) (destination : Endpoint)
      (data : Bytes)
  deriving DecidableEq

def bufferSize : Nat :=
  65535

def maxPeers : Nat :=
  64

def idleLimit : Nat :=
  120 * 1000000000

namespace Association

def start (client : Option Endpoint) : Association where
  client := client
  peers := ∅
  receivers := []
  finished := []
  now := 0
  running := true

/-- A peer that `retain` keeps. -/
def fresh (association : Association) (peer : Peer) : Bool :=
  decide
    (association.now - peer.lastUsed < idleLimit ∧
      peer.connection ∉ association.finished)

def live (association : Association) : HashTable (Str × UInt16) Peer :=
  HashTable.filterMapValues
    (fun peer => if association.fresh peer then some peer else none)
    association.peers

/-- The first datagram decides on the client, and every one drops the peers
that are not in use. -/
def pin (association : Association) (source : Endpoint) : Association :=
  { association with
    client := some (association.client.getD source)
    peers := association.live }

def later (association : Association) (time : Nat) : Association :=
  { association with now := association.now + time }

/-- The loop ends, and drops the peers. -/
def stop (association : Association) : Association :=
  { association with peers := ∅, running := false }

def finish (association : Association) (connection : Nat) : Association :=
  { association with finished := connection :: association.finished }

/-- A dialed connection, and the task behind it. -/
def dial (association : Association) (destination : Str × UInt16)
    (address : Bytes) (source : Endpoint) : Association :=
  { association with
    peers :=
      association.peers.insert destination
        ⟨association.receivers.length, association.now⟩
    receivers :=
      association.receivers ++
        [⟨destination.1, destination.2, [0, 0, 0] ++ address, source⟩] }

/-- The payload goes to the peer, which there is by now; it is dropped if the
payload is not taken. -/
def forward (association : Association) (destination : Str × UInt16)
    (sends : Bool) : Association :=
  match association.peers.lookup destination with
  | none => association
  | some peer =>
      { association with
        peers :=
          if sends then
            association.peers.insert destination
              { peer with lastUsed := association.now }
          else
            association.peers.erase destination }

/-- What the peer is sent. -/
def forwarded (association : Association) (destination : Str × UInt16)
    (sends : Bool) (source : Endpoint) (received : Bytes) (start : Nat) :
    List Delivery :=
  match association.peers.lookup destination with
  | none => []
  | some peer =>
      if sends then
        [.sent source received peer.connection (received.drop start)]
      else
        []

/-- A datagram that is not from the client. -/
def strange (peerIp : IpAddr) (association : Association)
    (source : Endpoint) : Bool :=
  decide (source.ip ≠ peerIp) ||
    association.client.any fun client => decide (client ≠ source)

def packet (peerIp : IpAddr) (association : Association) (received : Bytes)
    (source : Endpoint) (dials : Bool) (took : Nat) (sends : Bool) :
    Association × List Delivery :=
  if association.strange peerIp source then
    (association, [])
  else
    match datagram received with
    | .error _ => (association, [])
    | .ok (host, port, start) =>
        let pinned := association.pin source
        if (pinned.peers.lookup (host, port)).isSome then
          (pinned.forward (host, port) sends,
            pinned.forwarded (host, port) sends source received start)
        else if maxPeers ≤ pinned.peers.len then
          (pinned, [])
        else if ¬dials then
          (pinned.later took, [])
        else
          match encodeAddress host port with
          | .error _ => ((pinned.later took).stop, [])
          | .ok address =>
              let dialed := (pinned.later took).dial (host, port) address source
              (dialed.forward (host, port) sends,
                dialed.forwarded (host, port) sends source received start)

/-- The task behind a connection, unless it has ended.  A task whose peer is
dropped stops only when it next waits, so that it may still return what has
arrived. -/
def receiver (association : Association) (connection : Nat) :
    Option Receiver :=
  if connection ∈ association.finished then
    none
  else
    association.receivers[connection]?

def step (peerIp : IpAddr) (association : Association) :
    Event → Option (Association × List Delivery)
  | .packet bytes source dials took sends =>
      if association.running then
        some
          (association.packet peerIp (bytes.take bufferSize) source dials took
            sends)
      else
        none
  | .payload connection bytes sends =>
      (association.receiver connection).map fun receiver =>
        if sends then
          (association,
            [.replied connection bytes receiver.source
              (receiver.header ++ bytes)])
        else
          (association.finish connection, [])
  | .ended connection =>
      (association.receiver connection).map fun _ =>
        (association.finish connection, [])
  | .wait time => some (association.later time, [])
  | .closed => if association.running then some (association.stop, []) else none
  | .failed => if association.running then some (association.stop, []) else none

def next (peerIp : IpAddr) (association : Association) (event : Event) :
    Option Association :=
  (association.step peerIp event).map Prod.fst

def deliveries (peerIp : IpAddr) (association : Association) (event : Event) :
    List Delivery :=
  ((association.step peerIp event).map Prod.snd).getD []

/-- What holds in every state: the peers are few and were dialed for their
destinations, and every task returns to the client, whose address is that of
the control connection. -/
structure Sound (peerIp : IpAddr) (association : Association) : Prop where
  few : association.peers.len ≤ maxPeers
  dialed :
    ∀ destination peer, association.peers.lookup destination = some peer →
      ∃ receiver, association.receivers[peer.connection]? = some receiver ∧
        (receiver.host, receiver.port) = destination
  answered :
    ∀ receiver ∈ association.receivers,
      association.client = some receiver.source ∧
        ∃ address, encodeAddress receiver.host receiver.port = .ok address ∧
          receiver.header = [0, 0, 0] ++ address
  own : ∀ client, association.client = some client → client.ip = peerIp
  ended :
    ∀ connection ∈ association.finished,
      connection < association.receivers.length

/-- What never changes again. -/
structure Continues (before after : Association) : Prop where
  client : ∀ client, before.client = some client → after.client = some client
  receivers : before.receivers <+: after.receivers
  now : before.now ≤ after.now

/-- What a datagram of the client can lead to. -/
inductive Handled (peerIp : IpAddr) (association : Association)
    (received : Bytes) (source : Endpoint) (sends : Bool) :
    Association × List Delivery → Prop where
  | ignored : Handled peerIp association received source sends (association, [])
  | kept (time : Nat) :
      association.strange peerIp source = false →
        Handled peerIp association received source sends
          ((association.pin source).later time, [])
  | known (host : Str) (port : UInt16) (start : Nat) (peer : Peer) :
      association.strange peerIp source = false →
        datagram received = .ok (host, port, start) →
        (association.pin source).peers.lookup (host, port) = some peer →
        Handled peerIp association received source sends
          ((association.pin source).forward (host, port) sends,
            (association.pin source).forwarded (host, port) sends source
              received start)
  | fresh (host : Str) (port : UInt16) (start time : Nat) (address : Bytes) :
      association.strange peerIp source = false →
        datagram received = .ok (host, port, start) →
        (association.pin source).peers.lookup (host, port) = none →
        (association.pin source).peers.len < maxPeers →
        encodeAddress host port = .ok address →
        Handled peerIp association received source sends
          ((((association.pin source).later time).dial (host, port) address
              source).forward (host, port) sends,
            (((association.pin source).later time).dial (host, port) address
              source).forwarded (host, port) sends source received start)

/-- What an event leads to. -/
inductive Taken (peerIp : IpAddr) (association : Association) :
    Event → Association × List Delivery → Prop where
  | packet (bytes : Bytes) (source : Endpoint) (dials : Bool) (took : Nat)
      (sends : Bool) (result : Association × List Delivery) :
      association.running = true →
        Handled peerIp association (bytes.take bufferSize) source sends
          result →
        Taken peerIp association (.packet bytes source dials took sends) result
  | replied (connection : Nat) (bytes : Bytes) (receiver : Receiver) :
      association.receiver connection = some receiver →
        Taken peerIp association (.payload connection bytes true)
          (association,
            [.replied connection bytes receiver.source
              (receiver.header ++ bytes)])
  | unsent (connection : Nat) (bytes : Bytes) (receiver : Receiver) :
      association.receiver connection = some receiver →
        Taken peerIp association (.payload connection bytes false)
          (association.finish connection, [])
  | ended (connection : Nat) (receiver : Receiver) :
      association.receiver connection = some receiver →
        Taken peerIp association (.ended connection)
          (association.finish connection, [])
  | waited (time : Nat) :
      Taken peerIp association (.wait time) (association.later time, [])
  | closed : Taken peerIp association .closed (association.stop, [])
  | failed : Taken peerIp association .failed (association.stop, [])

end Association

/-- A delivery is to the client or to a connection that was dialed for the
destination of the datagram, and takes what it was received as unchanged. -/
def Delivery.Faithful (association : Association) : Delivery → Prop
  | .sent source received connection payload =>
      association.client = some source ∧
        ∃ receiver start,
          association.receivers[connection]? = some receiver ∧
            datagram received = .ok (receiver.host, receiver.port, start) ∧
            payload = received.drop start
  | .replied connection payload destination data =>
      association.client = some destination ∧
        ∃ receiver address,
          association.receivers[connection]? = some receiver ∧
            encodeAddress receiver.host receiver.port = .ok address ∧
            data = [0, 0, 0] ++ address ++ payload

/-! ## What a datagram leads to -/

/-- The destination of a datagram can always be written into a header. -/
theorem encodeAddress_of_datagram {packet : Bytes} {host : Str} {port : UInt16}
    {start : Nat} (accepted : datagram packet = .ok (host, port, start)) :
    ∃ address, encodeAddress host port = .ok address := by
  obtain ⟨stop, read⟩ := datagramHost_of_datagram accepted
  rcases datagramHost_eq_ok read with
    ⟨ip, -, rfl⟩ | ⟨name, -, notZero, inside, decoded⟩
  · obtain ⟨address, encoded, -⟩ := answeredAlike_text ip port
    exact ⟨address, encoded⟩
  · cases parsed : parseIpAddr host with
    | some ip =>
        rw [encodeAddress, parsed]
        cases ip with
        | v4 ip => exact ⟨_, rfl⟩
        | v6 ip => exact ⟨_, rfl⟩
    | none =>
        have size : byteLen host = (byteAt packet 4).toNat := by
          rw [byteLen, utf8_of_fromUtf8 decoded]
          exact (Dns.length_of_slice? inside).1
        have bound := (byteAt packet 4).toNat_lt
        have positive : (byteAt packet 4).toNat ≠ 0 := by
          intro zero
          exact notZero (UInt8.toNat_inj.mp zero)
        obtain ⟨address, encoded, -⟩ :=
          answeredAlike_name port parsed (by omega) (by omega)
        exact ⟨address, encoded⟩

namespace Association

variable {peerIp : IpAddr} {association before after : Association}

theorem handled_packet (received : Bytes) (source : Endpoint) (dials : Bool)
    (took : Nat) (sends : Bool) :
    Handled peerIp association received source sends
      (association.packet peerIp received source dials took sends) := by
  unfold packet
  by_cases isStrange : association.strange peerIp source = true
  · rw [if_pos isStrange]
    exact .ignored
  · rw [if_neg isStrange]
    rw [Bool.not_eq_true] at isStrange
    cases read : datagram received with
    | error error => exact .ignored
    | ok destination =>
        obtain ⟨host, port, start⟩ := destination
        dsimp only
        cases found :
            (association.pin source).peers.lookup (host, port) with
        | some peer =>
            exact .known host port start peer isStrange read found
        | none =>
            rw [if_neg (by simp)]
            by_cases full : maxPeers ≤ (association.pin source).peers.len
            · rw [if_pos full]
              exact .kept 0 isStrange
            · rw [if_neg full]
              by_cases dialed : dials = true
              · rw [if_neg (by simp [dialed])]
                obtain ⟨address, encoded⟩ := encodeAddress_of_datagram read
                rw [encoded]
                exact .fresh host port start took address isStrange read found
                  (Nat.lt_of_not_le full) encoded
              · rw [if_pos dialed]
                exact .kept took isStrange

theorem client_of_not_strange {source client : Endpoint}
    (own : association.strange peerIp source = false)
    (pinned : association.client = some client) : client = source := by
  rw [strange, pinned, Bool.or_eq_false_iff] at own
  exact not_not.mp (of_decide_eq_false own.2)

theorem ip_of_not_strange {source : Endpoint}
    (own : association.strange peerIp source = false) :
    source.ip = peerIp := by
  rw [strange, Bool.or_eq_false_iff] at own
  exact not_not.mp (of_decide_eq_false own.1)

/-- A datagram of the client leaves the client as it is. -/
theorem client_pin {source : Endpoint}
    (own : association.strange peerIp source = false) :
    (association.pin source).client = some source := by
  cases pinned : association.client with
  | none => rw [pin, pinned, Option.getD_none]
  | some client =>
      rw [pin, pinned, Option.getD_some, client_of_not_strange own pinned]

theorem lookup_live (destination : Str × UInt16) :
    association.live.lookup destination =
      (association.peers.lookup destination).bind fun peer =>
        if association.fresh peer then some peer else none :=
  HashTable.lookup_filterMapValues _ association.peers destination

theorem lookup_live_eq_some {destination : Str × UInt16} {peer : Peer} :
    association.live.lookup destination = some peer ↔
      association.peers.lookup destination = some peer ∧
        association.fresh peer = true := by
  rw [lookup_live, Option.bind_eq_some_iff]
  constructor
  · rintro ⟨stored, found, kept⟩
    by_cases isFresh : association.fresh stored = true
    · rw [if_pos isFresh, Option.some_inj] at kept
      subst kept
      exact ⟨found, isFresh⟩
    · rw [if_neg isFresh] at kept
      cases kept
  · rintro ⟨found, isFresh⟩
    exact ⟨peer, found, if_pos isFresh⟩

/-! ## Every step keeps the invariant -/

theorem Continues.refl (association : Association) :
    association.Continues association where
  client _ pinned := pinned
  receivers := List.prefix_refl _
  now := Nat.le_refl _

theorem Continues.trans {middle : Association} (first : before.Continues middle)
    (second : middle.Continues after) : before.Continues after where
  client client pinned := second.client client (first.client client pinned)
  receivers := first.receivers.trans second.receivers
  now := first.now.trans second.now

theorem continues_pin (source : Endpoint) :
    association.Continues (association.pin source) where
  client client pinned := by rw [pin, pinned, Option.getD_some]
  receivers := List.prefix_refl _
  now := Nat.le_refl _

theorem continues_later (time : Nat) :
    association.Continues (association.later time) where
  client _ pinned := pinned
  receivers := List.prefix_refl _
  now := Nat.le_add_right ..

theorem continues_dial (destination : Str × UInt16) (address : Bytes)
    (source : Endpoint) :
    association.Continues (association.dial destination address source) where
  client _ pinned := pinned
  receivers := List.prefix_append ..
  now := Nat.le_refl _

theorem continues_forward (destination : Str × UInt16) (sends : Bool) :
    association.Continues (association.forward destination sends) := by
  unfold forward
  split
  · exact .refl association
  · exact ⟨fun _ pinned => pinned, List.prefix_refl _, Nat.le_refl _⟩

theorem continues_handled {received : Bytes} {source : Endpoint} {sends : Bool}
    {result : Association × List Delivery}
    (handled : association.Handled peerIp received source sends result) :
    association.Continues result.1 := by
  cases handled with
  | ignored => exact .refl association
  | kept time own =>
      exact (continues_pin source).trans (continues_later time)
  | known host port start peer own read found =>
      exact (continues_pin source).trans (continues_forward _ sends)
  | fresh host port start time address own read absent room encoded =>
      exact (continues_pin source).trans
        ((continues_later time).trans
          ((continues_dial _ address source).trans
            (continues_forward _ sends)))

theorem sound_pin {source : Endpoint} (sound : association.Sound peerIp)
    (own : association.strange peerIp source = false) :
    (association.pin source).Sound peerIp where
  few := (HashTable.len_filterMapValues_le _ association.peers).trans sound.few
  dialed destination peer found :=
    sound.dialed destination peer (lookup_live_eq_some.mp found).1
  answered receiver listed := by
    obtain ⟨pinned, answers⟩ := sound.answered receiver listed
    exact ⟨(continues_pin source).client _ pinned, answers⟩
  own client pinned := by
    rw [client_pin own, Option.some_inj] at pinned
    rw [← pinned]
    exact ip_of_not_strange own
  ended := sound.ended

theorem sound_later (time : Nat) (sound : association.Sound peerIp) :
    (association.later time).Sound peerIp :=
  ⟨sound.few, sound.dialed, sound.answered, sound.own, sound.ended⟩

theorem sound_stop (sound : association.Sound peerIp) :
    association.stop.Sound peerIp where
  few := Nat.zero_le _
  dialed destination peer found := by
    rw [stop, AList.lookup_empty] at found
    cases found
  answered := sound.answered
  own := sound.own
  ended := sound.ended

theorem lt_of_receiver {connection : Nat} {receiver : Receiver}
    (returning : association.receiver connection = some receiver) :
    connection ∉ association.finished ∧
      association.receivers[connection]? = some receiver := by
  rw [Association.receiver] at returning
  by_cases ended : connection ∈ association.finished
  · rw [if_pos ended] at returning
    cases returning
  · rw [if_neg ended] at returning
    exact ⟨ended, returning⟩

theorem sound_finish {connection : Nat} {receiver : Receiver}
    (sound : association.Sound peerIp)
    (returning : association.receiver connection = some receiver) :
    (association.finish connection).Sound peerIp where
  few := sound.few
  dialed := sound.dialed
  answered := sound.answered
  own := sound.own
  ended other listed := by
    rcases List.mem_cons.mp listed with rfl | earlier
    · exact (List.getElem?_eq_some_iff.mp (lt_of_receiver returning).2).1
    · exact sound.ended other earlier

theorem sound_dial {host : Str} {port : UInt16} {address : Bytes}
    {source : Endpoint} (sound : association.Sound peerIp)
    (pinned : association.client = some source)
    (room : association.peers.len < maxPeers)
    (encoded : encodeAddress host port = .ok address) :
    (association.dial (host, port) address source).Sound peerIp where
  few := (HashTable.len_insert_le association.peers (host, port) _).trans room
  dialed destination peer found := by
    rw [dial, HashTable.lookup_insert_eq_if] at found
    by_cases same : destination = (host, port)
    · rw [if_pos same, Option.some_inj] at found
      rw [← found, same]
      exact ⟨_, List.getElem?_concat_length, rfl⟩
    · rw [if_neg same] at found
      obtain ⟨receiver, listed, isDestination⟩ :=
        sound.dialed destination peer found
      refine ⟨receiver, ?_, isDestination⟩
      have inside := (List.getElem?_eq_some_iff.mp listed).1
      rw [dial, List.getElem?_append_left inside]
      exact listed
  answered receiver listed := by
    rcases List.mem_append.mp listed with earlier | latest
    · exact sound.answered receiver earlier
    · rw [List.mem_singleton] at latest
      rw [latest]
      exact ⟨pinned, address, encoded, rfl⟩
  own := sound.own
  ended connection listed := by
    have inside := sound.ended connection listed
    rw [dial, List.length_append]
    omega

theorem sound_forward (destination : Str × UInt16) (sends : Bool)
    (sound : association.Sound peerIp) :
    (association.forward destination sends).Sound peerIp := by
  unfold forward
  cases found : association.peers.lookup destination with
  | none => exact sound
  | some peer =>
      refine ⟨?_, ?_, sound.answered, sound.own, sound.ended⟩
      · cases sends with
        | true =>
            exact (HashTable.len_insert_of_lookup found _).trans sound.few
        | false =>
            have fewer :=
              (List.kerase_sublist destination
                association.peers.entries).length_le
            exact fewer.trans sound.few
      · intro other stored lookedUp
        by_cases same : other = destination
        · subst same
          cases sends with
          | true =>
              simp only [if_true, AList.lookup_insert,
                Option.some_inj] at lookedUp
              rw [← lookedUp]
              exact sound.dialed other peer found
          | false => simp at lookedUp
        · have kept : association.peers.lookup other = some stored := by
            cases sends with
            | true =>
                simpa [AList.lookup_insert_ne same] using lookedUp
            | false =>
                simpa [AList.lookup_erase_ne same] using lookedUp
          exact sound.dialed other stored kept

theorem sound_handled {received : Bytes} {source : Endpoint} {sends : Bool}
    {result : Association × List Delivery}
    (sound : association.Sound peerIp)
    (handled : association.Handled peerIp received source sends result) :
    result.1.Sound peerIp := by
  cases handled with
  | ignored => exact sound
  | kept time own => exact sound_later time (sound_pin sound own)
  | known host port start peer own read found =>
      exact sound_forward _ sends (sound_pin sound own)
  | fresh host port start time address own read absent room encoded =>
      have ready := sound_later time (sound_pin sound own)
      exact sound_forward _ sends
        (sound_dial ready (client_pin own) room encoded)

theorem stop_of_step {result : Association × List Delivery}
    (stepped :
      (if association.running then some (association.stop, ([] : List Delivery))
        else none) = some result) :
    result = (association.stop, []) := by
  split at stepped
  · exact (Option.some_inj.mp stepped).symm
  · cases stepped

theorem taken_of_step {event : Event} {result : Association × List Delivery}
    (stepped : association.step peerIp event = some result) :
    association.Taken peerIp event result := by
  cases event with
  | packet bytes source dials took sends =>
      simp only [step] at stepped
      by_cases isRunning : association.running = true
      · rw [if_pos isRunning, Option.some_inj] at stepped
        subst stepped
        exact .packet bytes source dials took sends _ isRunning
          (handled_packet _ source dials took sends)
      · rw [if_neg isRunning] at stepped
        cases stepped
  | payload connection bytes sends =>
      obtain ⟨receiver, returning, same⟩ :=
        Option.map_eq_some_iff.mp stepped
      subst same
      cases sends with
      | true => exact .replied connection bytes receiver returning
      | false => exact .unsent connection bytes receiver returning
  | ended connection =>
      obtain ⟨receiver, returning, same⟩ :=
        Option.map_eq_some_iff.mp stepped
      subst same
      exact .ended connection receiver returning
  | wait time =>
      cases stepped
      exact .waited time
  | closed =>
      rw [stop_of_step stepped]
      exact .closed
  | failed =>
      rw [stop_of_step stepped]
      exact .failed

theorem sound_taken {event : Event} {result : Association × List Delivery}
    (sound : association.Sound peerIp)
    (taken : association.Taken peerIp event result) :
    result.1.Sound peerIp := by
  cases taken with
  | packet bytes source dials took sends result isRunning handled =>
      exact sound_handled sound handled
  | replied connection bytes receiver returning => exact sound
  | unsent connection bytes receiver returning =>
      exact sound_finish sound returning
  | ended connection receiver returning => exact sound_finish sound returning
  | waited time => exact sound_later time sound
  | closed => exact sound_stop sound
  | failed => exact sound_stop sound

theorem continues_stop (association : Association) :
    association.Continues association.stop :=
  ⟨fun _ pinned => pinned, List.prefix_refl _, Nat.le_refl _⟩

theorem continues_taken {event : Event}
    {result : Association × List Delivery}
    (taken : association.Taken peerIp event result) :
    association.Continues result.1 := by
  cases taken with
  | packet bytes source dials took sends result isRunning handled =>
      exact continues_handled handled
  | replied connection bytes receiver returning => exact .refl association
  | unsent connection bytes receiver returning =>
      exact ⟨fun _ pinned => pinned, List.prefix_refl _, Nat.le_refl _⟩
  | ended connection receiver returning =>
      exact ⟨fun _ pinned => pinned, List.prefix_refl _, Nat.le_refl _⟩
  | waited time => exact continues_later time
  | closed => exact continues_stop association
  | failed => exact continues_stop association

theorem running_forward (destination : Str × UInt16) (sends : Bool) :
    (association.forward destination sends).running = association.running := by
  unfold forward
  split
  · rfl
  · rfl

/-- No datagram ends the loop. -/
theorem running_handled {received : Bytes} {source : Endpoint} {sends : Bool}
    {result : Association × List Delivery}
    (handled : association.Handled peerIp received source sends result) :
    result.1.running = association.running := by
  cases handled with
  | ignored => rfl
  | kept time own => rfl
  | known host port start peer own read found => exact running_forward _ sends
  | fresh host port start time address own read absent room encoded =>
      exact running_forward _ sends

theorem running_taken {event : Event} {result : Association × List Delivery}
    (taken : association.Taken peerIp event result) :
    result.1.running = false ↔
      association.running = false ∨ event = .closed ∨ event = .failed := by
  cases taken with
  | packet bytes source dials took sends result isRunning handled =>
      rw [running_handled handled]
      simp
  | replied connection bytes receiver returning => simp
  | unsent connection bytes receiver returning => simp [finish]
  | ended connection receiver returning => simp [finish]
  | waited time => simp [later]
  | closed => simp [stop]
  | failed => simp [stop]

/-! ## What is delivered -/

theorem faithful_of_continues {delivery : Delivery}
    (continues : before.Continues after)
    (faithful : delivery.Faithful before) : delivery.Faithful after := by
  have kept :
      ∀ {connection : Nat} {receiver : Receiver},
        before.receivers[connection]? = some receiver →
          after.receivers[connection]? = some receiver := by
    intro connection receiver listed
    obtain ⟨later, same⟩ := continues.receivers
    rw [← same,
      List.getElem?_append_left (List.getElem?_eq_some_iff.mp listed).1]
    exact listed
  cases delivery with
  | sent source received connection payload =>
      obtain ⟨pinned, receiver, start, listed, others⟩ := faithful
      exact ⟨continues.client _ pinned, receiver, start, kept listed, others⟩
  | replied connection payload destination data =>
      obtain ⟨pinned, receiver, address, listed, others⟩ := faithful
      exact ⟨continues.client _ pinned, receiver, address, kept listed, others⟩

theorem faithful_forwarded {host : Str} {port : UInt16} {start : Nat}
    {source : Endpoint} {received : Bytes} (sends : Bool)
    (sound : association.Sound peerIp)
    (pinned : association.client = some source)
    (read : datagram received = .ok (host, port, start)) :
    ∀ delivery ∈
        association.forwarded (host, port) sends source received start,
      delivery.Faithful (association.forward (host, port) sends) := by
  intro delivery listed
  apply faithful_of_continues (continues_forward (host, port) sends)
  rw [forwarded] at listed
  cases found : association.peers.lookup (host, port) with
  | none => simp [found] at listed
  | some peer =>
      rw [found] at listed
      obtain ⟨receiver, isReceiver, isDestination⟩ :=
        sound.dialed (host, port) peer found
      obtain ⟨rfl, rfl⟩ := Prod.mk.inj isDestination
      cases sends with
      | false => simp at listed
      | true =>
          simp only [if_true, List.mem_singleton] at listed
          rw [listed]
          exact ⟨pinned, receiver, start, isReceiver, read, rfl⟩

theorem faithful_taken {event : Event} {result : Association × List Delivery}
    (sound : association.Sound peerIp)
    (taken : association.Taken peerIp event result) :
    ∀ delivery ∈ result.2, delivery.Faithful result.1 := by
  cases taken with
  | packet bytes source dials took sends result isRunning handled =>
      cases handled with
      | ignored => simp
      | kept time own => simp
      | known host port start peer own read found =>
          exact faithful_forwarded sends (sound_pin sound own)
            (client_pin own) read
      | fresh host port start time address own read absent room encoded =>
          have ready := sound_later time (sound_pin sound own)
          exact faithful_forwarded sends
            (sound_dial ready (client_pin own) room encoded) (client_pin own)
            read
  | replied connection bytes receiver returning =>
      intro delivery listed
      rw [List.mem_singleton] at listed
      rw [listed]
      have isReceiver := (lt_of_receiver returning).2
      obtain ⟨pinned, address, encoded, header⟩ :=
        sound.answered receiver (List.mem_of_getElem? isReceiver)
      exact ⟨pinned, receiver, address, isReceiver, encoded, by rw [header]⟩
  | unsent connection bytes receiver returning => simp
  | ended connection receiver returning => simp
  | waited time => simp
  | closed => simp
  | failed => simp

/-! ## Whole runs -/

variable {events : List Event} {final : Association}

theorem step_of_next {event : Event}
    (stepped : next peerIp association event = some after) :
    association.step peerIp event =
      some (after, deliveries peerIp association event) := by
  obtain ⟨⟨reached, sent⟩, isStep, same⟩ := Option.map_eq_some_iff.mp stepped
  cases same
  rw [deliveries, isStep]
  rfl

theorem taken_of_next {event : Event}
    (stepped : next peerIp association event = some after) :
    association.Taken peerIp event
      (after, deliveries peerIp association event) :=
  taken_of_step (step_of_next stepped)

theorem sound_start (peer : Endpoint) (requestedPort : UInt16) :
    (start (requestedClient peer requestedPort)).Sound peer.ip where
  few := Nat.zero_le _
  dialed destination stored found := by
    rw [start, AList.lookup_empty] at found
    cases found
  answered receiver listed := by cases listed
  own client pinned := by
    simp only [start, requestedClient] at pinned
    split at pinned
    · cases pinned
    · rw [← Option.some_inj.mp pinned]
  ended connection listed := by cases listed

theorem sound_of_run (sound : association.Sound peerIp)
    (ran : run (next peerIp) association events = some final) :
    final.Sound peerIp := by
  apply invariant_of_run (Sound peerIp) sound ?_ ran
  intro state event reached holds stepped
  exact sound_taken holds (taken_of_next stepped)

theorem continues_of_run
    (ran : run (next peerIp) association events = some final) :
    association.Continues final := by
  apply invariant_of_run association.Continues (.refl association) ?_ ran
  intro state event reached holds stepped
  exact holds.trans (continues_taken (taken_of_next stepped))

/-- In every order of the events, each payload of the client goes out only on
a connection that was dialed for its destination, and whatever a connection
returns goes only to the client, behind a header with the destination of the
connection.  The client is one endpoint for the whole association, which has
the address of the control connection and the port that was requested. -/
theorem datagrams_delivered (peer : Endpoint) (requestedPort : UInt16)
    (ran :
      run (next peer.ip) (start (requestedClient peer requestedPort)) events =
        some final) :
    (∀ delivery ∈
        observed (next peer.ip) (deliveries peer.ip)
          (start (requestedClient peer requestedPort)) events,
        delivery.Faithful final) ∧
      ∀ client, final.client = some client →
        client.ip = peer.ip ∧
          (requestedPort ≠ 0 → client.port = requestedPort) := by
  constructor
  · have unconditional :
        Meets (next peer.ip) (fun _ _ => True)
          (start (requestedClient peer requestedPort)) events :=
      meets_of_forall fun _ _ _ => trivial
    refine
      (invariant_of_observed
        (fun (log : List Delivery) state =>
          state.Sound peer.ip ∧ ∀ delivery ∈ log, delivery.Faithful state)
        ⟨sound_start peer requestedPort, by simp⟩ ?_ unconditional ran).2
    intro log state event reached holds _ stepped
    have taken := taken_of_next stepped
    refine ⟨sound_taken holds.1 taken, ?_⟩
    intro delivery listed
    rcases List.mem_append.mp listed with earlier | latest
    · exact faithful_of_continues (continues_taken taken)
        (holds.2 delivery earlier)
    · exact faithful_taken holds.1 taken delivery latest
  · intro client pinned
    refine ⟨?_, ?_⟩
    · exact (sound_of_run (sound_start peer requestedPort) ran).own client
        pinned
    · intro requested
      have kept :=
        (continues_of_run ran).client ⟨peer.ip, requestedPort⟩
          (if_neg requested)
      rw [pinned, Option.some_inj] at kept
      rw [kept]

/-- A client on its own machine. -/
def sampleClient : Endpoint :=
  ⟨.v4 ⟨127, 0, 0, 1⟩, 40000⟩

/-- A datagram for port 53 of an address that ends in a number. -/
def sampleQuery (number payload : UInt8) : Bytes :=
  [0, 0, 0, 1, 9, 9, 9, number, 0, 53, payload]

/-- The client asks the peer at 9, which answers. -/
def sampleEvents : List Event :=
  [.packet (sampleQuery 9 113) sampleClient true 5 true, .payload 0 [97] true]

/-- The association of that client after the events. -/
def sampleAssociation (events : List Event) : Association :=
  (run (next sampleClient.ip) (start (requestedClient sampleClient 40000))
    events).getD (start none)

theorem run_sample (events : List Event)
    (enabled :
      (run (next sampleClient.ip) (start (requestedClient sampleClient 40000))
        events).isSome = true) :
    run (next sampleClient.ip) (start (requestedClient sampleClient 40000))
        events =
      some (sampleAssociation events) := by
  obtain ⟨reached, ran⟩ := Option.isSome_iff_exists.mp enabled
  rw [sampleAssociation, ran]
  rfl

theorem datagrams_delivered_sample :
    observed (next sampleClient.ip) (deliveries sampleClient.ip)
        (start (requestedClient sampleClient 40000)) sampleEvents =
        [.sent sampleClient (sampleQuery 9 113) 0 [113],
          .replied 0 [97] sampleClient (sampleQuery 9 97)] ∧
      (sampleAssociation sampleEvents).client = some sampleClient ∧
      ∀ client,
        (sampleAssociation sampleEvents).client = some client →
          client.ip = sampleClient.ip ∧
            ((40000 : UInt16) ≠ 0 → client.port = 40000) := by
  have delivered :=
    datagrams_delivered sampleClient 40000
      (run_sample sampleEvents (by decide))
  exact ⟨by decide, rfl, delivered.2⟩

/-- In every run there are at most 64 peers, no two of which share a
connection, and the loop has ended exactly if the control connection was closed
or the socket failed: no datagram ends it. -/
theorem association_bounded (peer : Endpoint) (requestedPort : UInt16)
    (ran :
      run (next peer.ip) (start (requestedClient peer requestedPort)) events =
        some final) :
    final.peers.len ≤ maxPeers ∧
      (∀ first second one other,
        final.peers.lookup first = some one →
          final.peers.lookup second = some other →
          one.connection = other.connection → first = second) ∧
      (final.running = false ↔ .closed ∈ events ∨ .failed ∈ events) := by
  have sound := sound_of_run (sound_start peer requestedPort) ran
  refine ⟨sound.few, ?_, ?_⟩
  · intro first second one other isOne isOther same
    obtain ⟨receiver, isReceiver, isFirst⟩ := sound.dialed first one isOne
    obtain ⟨receiver', isReceiver', isSecond⟩ :=
      sound.dialed second other isOther
    rw [same, isReceiver', Option.some_inj] at isReceiver
    rw [← isFirst, ← isSecond, isReceiver]
  · apply invariant_of_history
      (fun past state =>
        state.running = false ↔ .closed ∈ past ∨ .failed ∈ past)
      ?_ ?_ ran
    · simp [start]
    · intro past state event reached _ holds stepped
      rw [running_taken (taken_of_next stepped), holds]
      simp only [List.mem_append, List.mem_singleton]
      grind

theorem association_bounded_sample :
    (sampleAssociation sampleEvents).peers.len = 1 ∧
      (sampleAssociation sampleEvents).peers.len ≤ maxPeers ∧
      (sampleAssociation sampleEvents).running = true := by
  have ran := run_sample sampleEvents (by decide)
  obtain ⟨few, -, ends⟩ := association_bounded sampleClient 40000 ran
  refine ⟨rfl, few, ?_⟩
  rw [← Bool.not_eq_false, ends]
  decide

/-! ## Keeping a connection -/

/-- An event that does not take the connection of a destination away. -/
def Undisturbed (destination : Str × UInt16) (connection : Nat) :
    Association → Event → Prop
  | _, .packet bytes _ _ _ sends =>
      sends = true ∨
        ∀ start,
          datagram (bytes.take bufferSize) ≠
            .ok (destination.1, destination.2, start)
  | _, .payload other _ sends => sends = true ∨ other ≠ connection
  | _, .ended other => other ≠ connection
  | _, .wait _ => True
  | _, .closed => False
  | _, .failed => False

/-- The connection of a destination that has been used at some time, for as
long as it may be idle. -/
structure InUse (destination : Str × UInt16) (connection since : Nat)
    (association : Association) : Prop where
  running : association.running = true
  reached : since ≤ association.now
  returning : connection ∉ association.finished
  held :
    association.now - since < idleLimit →
      ∃ peer, association.peers.lookup destination = some peer ∧
        peer.connection = connection ∧ since ≤ peer.lastUsed

theorem lookup_forward_of_ne {destination other : Str × UInt16}
    (different : other ≠ destination) (sends : Bool) :
    (association.forward destination sends).peers.lookup other =
      association.peers.lookup other := by
  unfold forward
  cases association.peers.lookup destination with
  | none => rfl
  | some peer =>
      cases sends with
      | true => exact AList.lookup_insert_ne different
      | false => exact AList.lookup_erase_ne different

theorem lookup_forward {destination : Str × UInt16} {peer : Peer}
    (found : association.peers.lookup destination = some peer) :
    (association.forward destination true).peers.lookup destination =
      some { peer with lastUsed := association.now } := by
  rw [forward, found]
  exact AList.lookup_insert _

theorem now_forward (destination : Str × UInt16) (sends : Bool) :
    (association.forward destination sends).now = association.now := by
  unfold forward
  split
  · rfl
  · rfl

theorem finished_forward (destination : Str × UInt16) (sends : Bool) :
    (association.forward destination sends).finished =
      association.finished := by
  unfold forward
  split
  · rfl
  · rfl

section

variable {destination : Str × UInt16} {connection since : Nat}

theorem inUse_pin (inUse : association.InUse destination connection since)
    (source : Endpoint) :
    (association.pin source).InUse destination connection since where
  running := inUse.running
  reached := inUse.reached
  returning := inUse.returning
  held := by
    intro soon
    obtain ⟨peer, found, isConnection, used⟩ := inUse.held soon
    refine ⟨peer, lookup_live_eq_some.mpr ⟨found, ?_⟩, isConnection, used⟩
    apply decide_eq_true
    refine ⟨?_, by rw [isConnection]; exact inUse.returning⟩
    have sooner : association.now - since < idleLimit := soon
    omega

theorem inUse_later (inUse : association.InUse destination connection since)
    (time : Nat) :
    (association.later time).InUse destination connection since where
  running := inUse.running
  reached := inUse.reached.trans (Nat.le_add_right ..)
  returning := inUse.returning
  held := by
    intro soon
    apply inUse.held
    rw [later] at soon
    dsimp only at soon
    omega

theorem inUse_finish {other : Nat}
    (inUse : association.InUse destination connection since)
    (different : other ≠ connection) :
    (association.finish other).InUse destination connection since where
  running := inUse.running
  reached := inUse.reached
  returning := by
    intro listed
    rcases List.mem_cons.mp listed with same | earlier
    · exact different same.symm
    · exact inUse.returning earlier
  held := inUse.held

theorem inUse_dial {other : Str × UInt16}
    (inUse : association.InUse destination connection since)
    (different : destination ≠ other) (address : Bytes) (source : Endpoint) :
    (association.dial other address source).InUse destination connection
      since where
  running := inUse.running
  reached := inUse.reached
  returning := inUse.returning
  held := by
    intro soon
    rw [dial]
    dsimp only
    rw [AList.lookup_insert_ne different]
    exact inUse.held soon

theorem inUse_forward {other : Str × UInt16} {sends : Bool}
    (inUse : association.InUse destination connection since)
    (taken : sends = true ∨ other ≠ destination) :
    (association.forward other sends).InUse destination connection since where
  running := by rw [running_forward, inUse.running]
  reached := by rw [now_forward]; exact inUse.reached
  returning := by rw [finished_forward]; exact inUse.returning
  held := by
    rw [now_forward]
    intro soon
    obtain ⟨peer, found, isConnection, used⟩ := inUse.held soon
    by_cases same : other = destination
    · rcases taken with rfl | different
      · subst same
        exact ⟨_, lookup_forward found, isConnection, inUse.reached⟩
      · exact absurd same different
    · rw [lookup_forward_of_ne (Ne.symm same)]
      exact ⟨peer, found, isConnection, used⟩

theorem inUse_taken {event : Event} {result : Association × List Delivery}
    (inUse : association.InUse destination connection since)
    (undisturbed : Undisturbed destination connection association event)
    (soon : result.1.now - since < idleLimit)
    (taken : association.Taken peerIp event result) :
    result.1.InUse destination connection since := by
  cases taken with
  | packet bytes source dials took sends result isRunning handled =>
      have pinned := inUse_pin inUse source
      cases handled with
      | ignored => exact inUse
      | kept time own => exact inUse_later pinned time
      | known host port start peer own read found =>
          apply inUse_forward pinned
          rcases undisturbed with sent | elsewhere
          · exact .inl sent
          · refine .inr ?_
            rintro rfl
            exact elsewhere start read
      | fresh host port start time address own read absent room encoded =>
          have different : destination ≠ (host, port) := by
            rintro rfl
            rw [now_forward] at soon
            dsimp only [dial, later] at soon
            obtain ⟨peer, found, -⟩ := pinned.held (by omega)
            rw [absent] at found
            cases found
          exact inUse_forward
            (inUse_dial (inUse_later pinned time) different address source)
            (.inr different.symm)
  | replied other bytes receiver returning => exact inUse
  | unsent other bytes receiver returning =>
      rcases undisturbed with sent | different
      · cases sent
      · exact inUse_finish inUse different
  | ended other receiver returning => exact inUse_finish inUse undisturbed
  | waited time => exact inUse_later inUse time
  | closed => exact undisturbed.elim
  | failed => exact undisturbed.elim

/-- A connection that takes a payload is in use from then on. -/
theorem inUse_of_forwarded {source : Endpoint} {received : Bytes} {start : Nat}
    {delivery : Delivery} {peer : Peer}
    (found : association.peers.lookup destination = some peer)
    (isRunning : association.running = true)
    (returning : peer.connection ∉ association.finished)
    (sent :
      delivery ∈ association.forwarded destination true source received start) :
    delivery =
        .sent source received peer.connection (received.drop start) ∧
      (association.forward destination true).InUse destination
        peer.connection (association.forward destination true).now := by
  rw [forwarded, found] at sent
  refine ⟨List.mem_singleton.mp sent, ?_, Nat.le_refl _, ?_, ?_⟩
  · rw [running_forward, isRunning]
  · rw [finished_forward]
    exact returning
  · intro _
    rw [now_forward]
    exact ⟨_, lookup_forward found, rfl, Nat.le_refl _⟩

theorem inUse_of_sent {received payload : Bytes} {source : Endpoint}
    {host : Str} {port : UInt16} {start : Nat}
    {result : Association × List Delivery}
    (sound : association.Sound peerIp) (isRunning : association.running = true)
    (handled : association.Handled peerIp received source true result)
    (named : datagram received = .ok (host, port, start))
    (sent : .sent source received connection payload ∈ result.2) :
    result.1.InUse (host, port) connection result.1.now := by
  cases handled with
  | ignored => cases sent
  | kept time own => cases sent
  | known host' port' start' peer own read found =>
      cases named.symm.trans read
      have returning : peer.connection ∉ association.finished :=
        (of_decide_eq_true (lookup_live_eq_some.mp found).2).2
      obtain ⟨same, inUse⟩ :=
        inUse_of_forwarded found isRunning returning sent
      cases same
      exact inUse
  | fresh host' port' start' time address own read absent room encoded =>
      cases named.symm.trans read
      have returning :
          association.receivers.length ∉ association.finished := by
        intro listed
        exact Nat.lt_irrefl _ (sound.ended _ listed)
      have dialed :
          (((association.pin source).later time).dial (host, port) address
              source).peers.lookup (host, port) =
            some ⟨association.receivers.length, association.now + time⟩ :=
        AList.lookup_insert _
      obtain ⟨same, inUse⟩ :=
        inUse_of_forwarded dialed isRunning returning sent
      cases same
      exact inUse

theorem deliveries_of_inUse {bytes : Bytes} {source : Endpoint} {host : Str}
    {port : UInt16} {start : Nat}
    (inUse : association.InUse (host, port) connection since)
    (soon : association.now - since < idleLimit)
    (own : association.strange peerIp source = false)
    (named : datagram (bytes.take bufferSize) = .ok (host, port, start))
    (dials : Bool) (took : Nat) :
    deliveries peerIp association (.packet bytes source dials took true) =
      [.sent source (bytes.take bufferSize) connection
        ((bytes.take bufferSize).drop start)] := by
  obtain ⟨peer, found, isConnection, -⟩ := (inUse_pin inUse source).held soon
  rw [deliveries, step, if_pos inUse.running, packet, if_neg (by simp [own]),
    named]
  simp only [found, Option.isSome_some, if_true, Option.map_some,
    Option.getD_some]
  rw [forwarded, found]
  simp only [if_true, isConnection]

end

/-- Less than 120 seconds after a datagram of the client, the next one for the
same destination goes out on the same connection, whatever has happened to
other destinations in between. -/
theorem destination_keeps_connection (peer : Endpoint)
    (requestedPort : UInt16) {earlier between : List Event}
    {state middle final : Association} {bytes again payload : Bytes}
    {source : Endpoint} {dials : Bool} {took connection : Nat}
    {host : Str} {port : UInt16} {begins resumes : Nat}
    (ran :
      run (next peer.ip) (start (requestedClient peer requestedPort)) earlier =
        some state)
    (named : datagram (bytes.take bufferSize) = .ok (host, port, begins))
    (first :
      next peer.ip state (.packet bytes source dials took true) = some middle)
    (sent :
      .sent source (bytes.take bufferSize) connection payload ∈
        deliveries peer.ip state (.packet bytes source dials took true))
    (undisturbed :
      Meets (next peer.ip) (Undisturbed (host, port) connection) middle
        between)
    (continued : run (next peer.ip) middle between = some final)
    (soon : final.now - middle.now < idleLimit)
    (named' : datagram (again.take bufferSize) = .ok (host, port, resumes))
    (dials' : Bool) (took' : Nat) :
    deliveries peer.ip final (.packet again source dials' took' true) =
      [.sent source (again.take bufferSize) connection
        ((again.take bufferSize).drop resumes)] := by
  have sound := sound_of_run (sound_start peer requestedPort) ran
  have taken := taken_of_next first
  have soundMiddle := sound_taken sound taken
  have faithful := faithful_taken sound taken _ sent
  have inUse : middle.InUse (host, port) connection middle.now := by
    generalize deliveries peer.ip state _ = delivered at taken sent
    cases taken with
    | packet _ _ _ _ _ _ isRunning handled =>
        exact inUse_of_sent sound isRunning handled named sent
  have kept :
      final.now - middle.now < idleLimit →
        final.InUse (host, port) connection middle.now := by
    apply invariant_of_meets
      (fun reached =>
        reached.now - middle.now < idleLimit →
          reached.InUse (host, port) connection middle.now)
      (fun _ => inUse) ?_ undisturbed continued
    intro reached event after holds met stepped within
    have step := taken_of_next stepped
    have forwards := (continues_taken step).now
    dsimp only at forwards
    exact inUse_taken (holds (by omega)) met within step
  have pinned : final.client = some source :=
    (continues_of_run continued).client source faithful.1
  have own : final.strange peer.ip source = false := by
    have address := soundMiddle.own source faithful.1
    simp [strange, pinned, address]
  exact deliveries_of_inUse (kept soon) soon own named' dials' took'

/-- Another destination is dialed and dropped in between. -/
theorem destination_keeps_connection_sample :
    deliveries sampleClient.ip
        (sampleAssociation
          [.packet (sampleQuery 9 113) sampleClient true 5 true,
            .packet (sampleQuery 8 113) sampleClient true 5 false,
            .payload 0 [97] true, .wait 119000000000])
        (.packet (sampleQuery 9 114) sampleClient false 0 true) =
      [.sent sampleClient (sampleQuery 9 114) 0 [114]] := by
  have named :
      datagram ((sampleQuery 9 113).take bufferSize) =
        .ok ("9.9.9.9".toList, 53, 10) := by decide
  have again :
      datagram ((sampleQuery 9 114).take bufferSize) =
        .ok ("9.9.9.9".toList, 53, 10) := by decide
  have first :
      next sampleClient.ip (sampleAssociation [])
          (.packet (sampleQuery 9 113) sampleClient true 5 true) =
        some
          (sampleAssociation
            [.packet (sampleQuery 9 113) sampleClient true 5 true]) := rfl
  have undisturbed :
      Meets (next sampleClient.ip) (Undisturbed ("9.9.9.9".toList, 53) 0)
        (sampleAssociation
          [.packet (sampleQuery 9 113) sampleClient true 5 true])
        [.packet (sampleQuery 8 113) sampleClient true 5 false,
          .payload 0 [97] true, .wait 119000000000] := by
    apply meets_of_forall
    intro state event listed
    simp only [List.mem_cons, List.not_mem_nil, or_false] at listed
    rcases listed with rfl | rfl | rfl
    · refine .inr ?_
      intro start same
      have other :
          datagram ((sampleQuery 8 113).take bufferSize) =
            .ok ("9.9.9.8".toList, 53, 10) := by decide
      rw [other] at same
      revert same
      simp
    · exact .inl rfl
    · trivial
  have sent :
      Delivery.sent sampleClient ((sampleQuery 9 113).take bufferSize) 0 [113] ∈
        deliveries sampleClient.ip (sampleAssociation [])
          (.packet (sampleQuery 9 113) sampleClient true 5 true) := by
    decide
  exact destination_keeps_connection sampleClient 40000 (run_sample [] rfl)
    named first sent undisturbed rfl (by decide) again false 0

end Association

end HermesAtrust.Proxy.Socks
