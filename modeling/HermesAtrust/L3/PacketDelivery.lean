import HermesAtrust.Concurrency.Channel
import HermesAtrust.Concurrency.Transitions
import HermesAtrust.L3.SessionSubscriptions

/-!
# Delivery of inbound packets

The session with the queues behind it: the raw queue that `recv_packet` reads
and one queue for every `FlowPackets`.  `deliver` takes the subscriber mutex to
look for the subscription of a packet and sends without it, so that a
subscription may end in between.  A `FlowPackets` that is dropped first removes
its subscription and then gives up its queue.

Everything else the session does may happen at any time, except that the reader
takes up the next frame when the packets of the last have been handed over.
-/

namespace HermesAtrust.L3.PacketDelivery

open HermesAtrust.Concurrency HermesAtrust.Framing HermesAtrust.Protocol
open HermesAtrust.Collections

/-- `PACKET_QUEUE_DEPTH`. -/
def packetQueueDepth : Nat := 256

/-- The capacity of the queue of a subscription. -/
def flowQueueDepth : Nat := 64

/-- Whether a `FlowPackets` is in use or being dropped. -/
inductive HandleStage where
  | held
  | dropping
  deriving DecidableEq, Repr

/-- A `FlowPackets` with its queue. -/
structure FlowPackets where
  key : FlowKey
  stage : HandleStage
  channel : Channel Bytes

/-- `pending` are the packets of the current frame, and `found` is the packet
that `deliver` has looked up the subscription for. -/
structure State where
  session : L3.State
  raw : Channel Bytes
  flows : Nat → Option FlowPackets
  pending : List Bytes
  found : Option (Bytes × Option Nat)
  droppedPackets : Nat

def initial (vip : Ipv4Addr) (now : Nat) : State where
  session := L3.State.initial vip now
  raw := Channel.new packetQueueDepth
  flows := fun _ => none
  pending := []
  found := none
  droppedPackets := 0

inductive Action where
  | session (action : L3.Action)
  | lookup
  | send
  | recvPacket
  | recv (id : Nat)
  | dropFlowPackets (id : Nat)
  | dropReceiver (id : Nat)
  | dropSession

/-- The packets of a `0x94`. -/
def dataPackets : DataRespPackets → List Bytes
  | .lengthPrefixed packet => [packet]
  | .tokenFramed packets => packets

/-- The packets that a step of the session hands to the read loop. -/
def arrivals : L3.Action → List Bytes
  | .receive (.data packets) => dataPackets packets
  | _ => []

namespace State

/-- The read loop is handing over the packets of a frame. -/
def delivering (s : State) : Bool :=
  s.found.isSome || !s.pending.isEmpty

/-- Steps of the session that wait for the read loop, or that belong to a
`FlowPackets`. -/
def waits (s : State) : L3.Action → Bool
  | .receive _ => s.delivering
  | .readerStop => s.delivering
  | .dropFlowPackets _ _ => true
  | _ => false

/-- The queues after a step of the session: `subscribe_flow` opens one with the
subscription that it inserts. -/
def opened (s : State) : L3.Action → Nat → Option FlowPackets
  | .subscriber =>
      match s.session.subscribing with
      | some (.insert flow) =>
          if (s.session.subscribers.lookup flow.flowKey).isSome then
            s.flows
          else
            Function.update s.flows s.session.nextSubscriber
              (some ⟨flow.flowKey, .held, Channel.new flowQueueDepth⟩)
      | _ => s.flows
  | _ => s.flows

/-- The subscription of a packet. -/
def route (s : State) (packet : Bytes) : Option Nat :=
  match parseIpv4Flow packet with
  | .error _ => none
  | .ok flow => s.session.subscribers.lookup flow.reverseFlowKey

/-- The first half of `deliver`.  The mutex is taken for packets that can be
parsed. -/
def lookup (s : State) : Option State :=
  match s.found, s.pending with
  | none, packet :: later =>
      if s.session.reader = .idle ∧
          (s.session.subscribing = none ∨
            (parseIpv4Flow packet).toOption = none) then
        some { s with pending := later, found := some (packet, s.route packet) }
      else
        none
  | _, _ => none

/-- The second half of `deliver`.  A raw queue without receiver ends the read
loop. -/
def send (s : State) (cfg : SessionConfig) : Option State :=
  match s.found with
  | none => none
  | some (packet, some id) =>
      match s.flows id with
      | none => none
      | some flow =>
          match flow.channel.trySend packet with
          | .ok channel =>
              some
                { s with
                  flows :=
                    Function.update s.flows id
                      (some { flow with channel := channel })
                  found := none }
          | .error _ =>
              some
                { s with
                  found := none
                  droppedPackets := s.droppedPackets + 1 }
  | some (packet, none) =>
      match s.raw.trySend packet with
      | .ok raw => some { s with raw := raw, found := none }
      | .error .full =>
          some
            { s with
              found := none
              droppedPackets := s.droppedPackets + 1 }
      | .error .closed =>
          (L3.next cfg s.session .readerStop).map fun session =>
            { s with session := session, pending := [], found := none }

/-- `FlowPackets::recv`. -/
def recv (s : State) (id : Nat) : Option State :=
  match s.flows id with
  | none => none
  | some flow =>
      if flow.stage = .held then
        flow.channel.recv.map fun received =>
          { s with
            flows :=
              Function.update s.flows id
                (some { flow with channel := received.2 }) }
      else
        none

/-- `FlowPackets::drop`. -/
def dropFlowPackets (s : State) (cfg : SessionConfig) (id : Nat) :
    Option State :=
  match s.flows id with
  | none => none
  | some flow =>
      if flow.stage = .held then
        (L3.next cfg s.session (.dropFlowPackets flow.key id)).map
          fun session =>
            { s with
              session := session
              flows :=
                Function.update s.flows id
                  (some { flow with stage := .dropping }) }
      else
        none

/-- The receiver of a `FlowPackets` is dropped after its `drop`. -/
def dropReceiver (s : State) (id : Nat) : Option State :=
  match s.flows id with
  | none => none
  | some flow =>
      if flow.stage = .dropping then
        some
          { s with
            flows :=
              Function.update s.flows id
                (some { flow with channel := flow.channel.dropReceiver }) }
      else
        none

end State

/-- The state after an action, if it can happen.  The raw receiver goes with
the session object, whose `drop` begins with a shutdown. -/
def next (cfg : SessionConfig) (s : State) : Action → Option State
  | .session action =>
      if s.waits action then
        none
      else
        (L3.next cfg s.session action).map fun session =>
          { s with
            session := session
            flows := s.opened action
            pending := s.pending ++ arrivals action }
  | .lookup => s.lookup
  | .send => s.send cfg
  | .recvPacket =>
      s.raw.recv.map fun received => { s with raw := received.2 }
  | .recv id => s.recv id
  | .dropFlowPackets id => s.dropFlowPackets cfg id
  | .dropReceiver id => s.dropReceiver id
  | .dropSession =>
      if s.session.closed then
        some { s with raw := s.raw.dropReceiver }
      else
        none

/-! ## What is observed -/

/-- What became of a packet: it is in the queue of a subscription or in the raw
queue, it has been dropped, or nobody can read the raw queue any more. -/
inductive Fate where
  | flow (id : Nat)
  | raw
  | dropped
  | unclaimed
  deriving DecidableEq, Repr

/-- A packet arrives, is looked up, is sent, or is taken from the queue of a
subscription or from the raw queue.  A packet is abandoned if the read loop ends
before it is looked up. -/
inductive Note where
  | arrived (packet : Bytes)
  | lookedUp (packet : Bytes) (target : Option Nat)
  | sent (packet : Bytes) (target : Option Nat) (fate : Fate)
  | abandoned (packet : Bytes)
  | taken (source : Option Nat) (packet : Bytes)
  deriving DecidableEq, Repr

/-- What `send` does with the packet. -/
def State.fate (s : State) (packet : Bytes) : Option Nat → Fate
  | some id =>
      match s.flows id with
      | none => .dropped
      | some flow =>
          match flow.channel.trySend packet with
          | .ok _ => .flow id
          | .error _ => .dropped
  | none =>
      match s.raw.trySend packet with
      | .ok _ => .raw
      | .error .full => .dropped
      | .error .closed => .unclaimed

def notes (s : State) : Action → List Note
  | .session action => (arrivals action).map .arrived
  | .lookup =>
      match s.pending with
      | [] => []
      | packet :: _ => [.lookedUp packet (s.route packet)]
  | .send =>
      match s.found with
      | none => []
      | some (packet, target) =>
          .sent packet target (s.fate packet target) ::
            if s.fate packet target = .unclaimed then
              s.pending.map .abandoned
            else
              []
  | .recvPacket =>
      match s.raw.recv with
      | none => []
      | some (packet, _) => [.taken none packet]
  | .recv id =>
      match (s.flows id).bind (·.channel.recv) with
      | none => []
      | some (packet, _) => [.taken (some id) packet]
  | _ => []

namespace Note

def arrival : Note → Option Bytes
  | .arrived packet => some packet
  | _ => none

/-- The packet that the read loop is done with. -/
def settled : Note → Option Bytes
  | .sent packet _ _ => some packet
  | .abandoned packet => some packet
  | _ => none

def lookup : Note → Option (Bytes × Option Nat)
  | .lookedUp packet target => some (packet, target)
  | _ => none

def sending : Note → Option (Bytes × Option Nat)
  | .sent packet target _ => some (packet, target)
  | _ => none

/-- The packet that has been put into the queue. -/
def put (place : Fate) : Note → Option Bytes
  | .sent packet _ fate => if fate = place then some packet else none
  | _ => none

/-- The packet that has been taken from the queue. -/
def took (source : Option Nat) : Note → Option Bytes
  | .taken from_ packet => if from_ = source then some packet else none
  | _ => none

def isDropped : Note → Bool
  | .sent _ _ fate => decide (fate = .dropped)
  | _ => false

/-- The packet has been lost because nobody can read the raw queue. -/
def isUnclaimed : Note → Bool
  | .sent _ _ fate => decide (fate = .unclaimed)
  | .abandoned _ => true
  | _ => false

end Note

/-! ## The invariant -/

/-- The subscription is the one for the packet. -/
def Destined (s : State) (packet : Bytes) (id : Nat) : Prop :=
  ∃ flow handle, parseIpv4Flow packet = .ok flow ∧
    s.flows id = some handle ∧ handle.key = flow.reverseFlowKey

/-- The fates of a packet with and without subscription. -/
def Suits : Option Nat → Fate → Prop
  | some id, fate => fate = .flow id ∨ fate = .dropped
  | none, fate => fate = .raw ∨ fate = .dropped ∨ fate = .unclaimed

/-- Subscriptions belong to handles that are in use, and packets go to the
handle of their flow. -/
structure Handled (noted : List Note) (s : State) : Prop where
  numbered : ∀ id, s.session.nextSubscriber ≤ id → s.flows id = none
  registered :
    ∀ key id, s.session.subscribers.lookup key = some id →
      ∃ handle, s.flows id = some handle ∧ handle.key = key ∧
        handle.stage = .held
  found : ∀ packet id, s.found = some (packet, some id) → Destined s packet id
  sent :
    ∀ packet id fate, .sent packet (some id) fate ∈ noted →
      Destined s packet id
  orphaned : s.raw.receiving = false → s.session.closed = true

/-- Every packet is where the notes say. -/
structure Counted (noted : List Note) (s : State) : Prop where
  once :
    noted.filterMap Note.arrival =
      noted.filterMap Note.settled ++ (s.found.toList.map Prod.fst ++ s.pending)
  routed :
    noted.filterMap Note.lookup =
      noted.filterMap Note.sending ++ s.found.toList
  dropped : s.droppedPackets = noted.countP Note.isDropped
  raw :
    s.raw.Conserves (noted.filterMap (Note.put .raw))
      (noted.filterMap (Note.took none))
  flows :
    ∀ id handle, s.flows id = some handle →
      handle.channel.Conserves (noted.filterMap (Note.put (.flow id)))
        (noted.filterMap (Note.took (some id)))
  unopened :
    ∀ id, s.flows id = none →
      noted.filterMap (Note.put (.flow id)) = [] ∧
        noted.filterMap (Note.took (some id)) = []
  suits :
    ∀ packet target fate, .sent packet target fate ∈ noted →
      Suits target fate
  unclaimed :
    ∀ note ∈ noted, note.isUnclaimed = true → s.raw.receiving = false

theorem handled_initial (vip : Ipv4Addr) (now : Nat) :
    Handled [] (initial vip now) where
  numbered id _ := rfl
  registered key id listed := by cases listed
  found packet id found := by cases found
  sent packet id fate listed := by cases listed
  orphaned gone := by cases gone

theorem counted_initial (vip : Ipv4Addr) (now : Nat) :
    Counted [] (initial vip now) where
  once := rfl
  routed := rfl
  dropped := rfl
  raw := Channel.conserves_new _
  flows id handle present := by cases present
  unopened id _ := ⟨rfl, rfl⟩
  suits packet target fate listed := by cases listed
  unclaimed note listed := by cases listed

/-- Handles stay with their key. -/
def Extends (flows flows' : Nat → Option FlowPackets) : Prop :=
  ∀ id handle, flows id = some handle →
    ∃ later, flows' id = some later ∧ later.key = handle.key

theorem Destined.extends {s s' : State} {packet : Bytes} {id : Nat}
    (destined : Destined s packet id) (grown : Extends s.flows s'.flows) :
    Destined s' packet id := by
  obtain ⟨flow, handle, parsed, present, same⟩ := destined
  obtain ⟨later, after, kept⟩ := grown id handle present
  exact ⟨flow, later, parsed, after, kept.trans same⟩

theorem extends_refl (flows : Nat → Option FlowPackets) :
    Extends flows flows :=
  fun _ handle present => ⟨handle, present, rfl⟩

/-- A handle is changed and keeps its key. -/
theorem extends_update {flows : Nat → Option FlowPackets} {id : Nat}
    {handle later : FlowPackets} (present : flows id = some handle)
    (same : later.key = handle.key) :
    Extends flows (Function.update flows id (some later)) := by
  intro other found isFound
  by_cases isSame : other = id
  · subst isSame
    rw [present] at isFound
    cases isFound
    exact ⟨later, Function.update_self .., same⟩
  · exact ⟨found, by rw [Function.update_of_ne isSame]; exact isFound, rfl⟩

section

variable {cfg : SessionConfig} {noted new : List Note} {s s' : State}

/-- A step that registers nothing and sends nothing to a subscription. -/
theorem Handled.step (handled : Handled noted s)
    (numbered :
      ∀ id, s'.session.nextSubscriber ≤ id → s'.flows id = none)
    (registered :
      ∀ key id, s'.session.subscribers.lookup key = some id →
        ∃ handle, s'.flows id = some handle ∧ handle.key = key ∧
          handle.stage = .held)
    (grown : Extends s.flows s'.flows)
    (found : ∀ packet id, s'.found = some (packet, some id) →
      Destined s packet id)
    (sent : ∀ packet id fate, .sent packet (some id) fate ∈ new →
      Destined s packet id)
    (orphaned : s'.raw.receiving = false → s'.session.closed = true) :
    Handled (noted ++ new) s' where
  numbered := numbered
  registered := registered
  found packet id isFound := (found packet id isFound).extends grown
  sent packet id fate listed := by
    rcases List.mem_append.mp listed with old | isNew
    · exact (handled.sent packet id fate old).extends grown
    · exact (sent packet id fate isNew).extends grown
  orphaned := orphaned

/-! ### Steps of the session -/

theorem opened_of_ne {action : L3.Action} (different : action ≠ .subscriber) :
    s.opened action = s.flows := by
  cases action with
  | subscriber => exact absurd rfl different
  | _ => rfl

/-- `subscribe_flow` opens a queue under the next number, or changes
nothing. -/
theorem opened_subscriber {session : L3.State}
    (moved : s.session.advanceSubscriber = some session) :
    (s.opened .subscriber = s.flows ∧
        session.subscribers = s.session.subscribers ∧
        session.nextSubscriber = s.session.nextSubscriber) ∨
      ∃ flow : Ipv4Flow,
        s.opened .subscriber =
          Function.update s.flows s.session.nextSubscriber
            (some ⟨flow.flowKey, .held, Channel.new flowQueueDepth⟩) ∧
        session.subscribers =
          s.session.subscribers.insert flow.flowKey
            s.session.nextSubscriber ∧
        session.nextSubscriber = s.session.nextSubscriber + 1 := by
  rcases subscriber_cases moved with
    ⟨subscribers, count, -, refused⟩ | ⟨flow, inserting, free, rfl⟩
  · left
    refine ⟨?_, subscribers, count⟩
    simp only [State.opened]
    split
    · rename_i flow inserting
      rw [if_pos (refused flow inserting)]
    · rfl
  · right
    refine ⟨flow, ?_, rfl, rfl⟩
    simp [State.opened, inserting, free]

/-- The session closes and stays closed. -/
theorem closed_of_session {action : L3.Action} {session : L3.State}
    (moved : L3.next cfg s.session action = some session)
    (free : s.waits action = false) (isClosed : s.session.closed = true) :
    session.closed = true := by
  by_cases isSubscriber : action = .subscriber
  · subst isSubscriber
    rcases subscriber_cases moved with
      ⟨-, -, shutdown, -⟩ | ⟨flow, -, -, rfl⟩
    · unfold L3.State.closed at isClosed ⊢
      rw [shutdown]
      exact isClosed
    · exact isClosed
  · apply (KeepsSubscriptions.of_next moved isSubscriber ?_).closed isClosed
    intro key id same
    rw [same] at free
    cases free

theorem Handled.session {action : L3.Action} (handled : Handled noted s)
    (stepped : next cfg s (.session action) = some s') :
    Handled (noted ++ notes s (.session action)) s' := by
  simp only [next] at stepped
  split at stepped
  · cases stepped
  · rename_i free
    obtain ⟨session, moved, rfl⟩ := Option.map_eq_some_iff.mp stepped
    have orphaned : s.raw.receiving = false → session.closed = true := by
      intro gone
      exact closed_of_session moved (by simpa using free)
        (handled.orphaned gone)
    have silent : ∀ packet id fate,
        .sent packet (some id) fate ∈ notes s (.session action) →
        Destined s packet id := by
      intro packet id fate listed
      obtain ⟨arrived, -, impossible⟩ := List.mem_map.mp listed
      cases impossible
    by_cases isSubscriber : action = .subscriber
    · subst isSubscriber
      rcases opened_subscriber moved with
        ⟨flows, subscribers, count⟩ | ⟨flow, flows, subscribers, count⟩
      · refine handled.step ?_ ?_ ?_ handled.found silent orphaned
        · intro id beyond
          change s.opened .subscriber id = none
          rw [flows]
          exact handled.numbered id (count ▸ beyond)
        · intro key id listed
          change ∃ handle, s.opened .subscriber id = some handle ∧ _
          rw [flows]
          exact handled.registered key id (subscribers ▸ listed)
        · change Extends s.flows (s.opened .subscriber)
          rw [flows]
          exact extends_refl _
      · have fresh := handled.numbered s.session.nextSubscriber le_rfl
        have old : ∀ id handle, s.flows id = some handle →
            s.opened .subscriber id = some handle := by
          intro id handle present
          rw [flows, Function.update_of_ne]
          · exact present
          · intro same
            rw [same, fresh] at present
            cases present
        refine handled.step ?_ ?_ ?_ handled.found silent orphaned
        · intro id beyond
          change session.nextSubscriber ≤ id at beyond
          change s.opened .subscriber id = none
          rw [count] at beyond
          rw [flows, Function.update_of_ne (by omega)]
          exact handled.numbered id (by omega)
        · intro key id listed
          change ∃ handle, s.opened .subscriber id = some handle ∧ _
          change session.subscribers.lookup key = some id at listed
          rw [subscribers, HashTable.lookup_insert_eq_if] at listed
          split at listed
          · rename_i same
            cases listed
            rw [flows, Function.update_self]
            exact ⟨_, rfl, same.symm, rfl⟩
          · obtain ⟨handle, present, facts⟩ := handled.registered key id listed
            exact ⟨handle, old id handle present, facts⟩
        · intro id handle present
          exact ⟨handle, old id handle present, rfl⟩
    · have keeps := KeepsSubscriptions.of_next moved isSubscriber (by
        intro key id same
        rw [same] at free
        exact free rfl)
      have flows := opened_of_ne (s := s) isSubscriber
      refine handled.step ?_ ?_ ?_ handled.found silent orphaned
      · intro id beyond
        change s.opened action id = none
        rw [flows]
        exact handled.numbered id (keeps.nextSubscriber ▸ beyond)
      · intro key id listed
        change ∃ handle, s.opened action id = some handle ∧ _
        rw [flows]
        change session.subscribers.lookup key = some id at listed
        rcases keeps.subscribers with kept | cleared
        · rw [kept] at listed
          exact handled.registered key id listed
        · rw [cleared] at listed
          simp at listed
      · change Extends s.flows (s.opened action)
        rw [flows]
        exact extends_refl _

/-- Arriving packets are noted as such and no more. -/
theorem Counted.session {action : L3.Action} (counted : Counted noted s)
    (handled : Handled noted s)
    (stepped : next cfg s (.session action) = some s') :
    Counted (noted ++ notes s (.session action)) s' := by
  simp only [next] at stepped
  split at stepped
  · cases stepped
  · obtain ⟨session, moved, rfl⟩ := Option.map_eq_some_iff.mp stepped
    have quiet : ∀ (Value : Type) (look : Note → Option Value),
        (∀ packet, look (.arrived packet) = none) →
        (noted ++ notes s (.session action)).filterMap look =
          noted.filterMap look := by
      intro Value look blind
      rw [List.filterMap_append, notes, List.filterMap_map]
      simp [blind]
    have queues : ∀ id, s.opened action id = s.flows id ∨
        (s.flows id = none ∧ ∃ key, s.opened action id =
          some ⟨key, .held, Channel.new flowQueueDepth⟩) := by
      intro id
      by_cases isSubscriber : action = .subscriber
      · subst isSubscriber
        rcases opened_subscriber moved with
          ⟨flows, -, -⟩ | ⟨flow, flows, -, -⟩
        · exact .inl (by rw [flows])
        · by_cases same : id = s.session.nextSubscriber
          · right
            rw [flows, same, Function.update_self]
            exact ⟨handled.numbered _ le_rfl, _, rfl⟩
          · left
            rw [flows, Function.update_of_ne same]
      · exact .inl (by rw [opened_of_ne isSubscriber])
    refine ⟨?_, ?_, ?_, ?_, ?_, ?_, ?_, ?_⟩
    · rw [quiet _ Note.settled fun _ => rfl, List.filterMap_append,
        counted.once]
      have all : (notes s (.session action)).filterMap Note.arrival =
          arrivals action := by
        rw [notes, List.filterMap_map]
        simp [Function.comp_def, Note.arrival]
      rw [all]
      simp
    · rw [quiet _ Note.lookup fun _ => rfl, quiet _ Note.sending fun _ => rfl]
      exact counted.routed
    · rw [List.countP_append]
      have none_ : (notes s (.session action)).countP Note.isDropped = 0 := by
        rw [notes, List.countP_map]
        simp [Function.comp_def, Note.isDropped]
      rw [none_]
      exact counted.dropped
    · rw [quiet _ (Note.put .raw) fun _ => rfl,
        quiet _ (Note.took none) fun _ => rfl]
      exact counted.raw
    · intro id handle present
      rw [quiet _ (Note.put (.flow id)) fun _ => rfl,
        quiet _ (Note.took (some id)) fun _ => rfl]
      change s.opened action id = some handle at present
      rcases queues id with same | ⟨unopened, key, opened⟩
      · rw [same] at present
        exact counted.flows id handle present
      · rw [opened] at present
        cases present
        obtain ⟨sent, taken⟩ := counted.unopened id unopened
        rw [sent, taken]
        exact Channel.conserves_new _
    · intro id absent
      rw [quiet _ (Note.put (.flow id)) fun _ => rfl,
        quiet _ (Note.took (some id)) fun _ => rfl]
      change s.opened action id = none at absent
      rcases queues id with same | ⟨unopened, -, -⟩
      · rw [same] at absent
        exact counted.unopened id absent
      · exact counted.unopened id unopened
    · intro packet target fate listed
      rcases List.mem_append.mp listed with old | isNew
      · exact counted.suits packet target fate old
      · obtain ⟨arrived, -, impossible⟩ := List.mem_map.mp isNew
        cases impossible
    · intro note listed lost
      rcases List.mem_append.mp listed with old | isNew
      · exact counted.unclaimed note old lost
      · obtain ⟨arrived, -, rfl⟩ := List.mem_map.mp isNew
        cases lost

/-! ### The two halves of `deliver` -/

/-- A note that is not looked at. -/
private theorem filterMap_blind {Value : Type} {look : Note → Option Value}
    {note : Note} (blind : look note = none) :
    (noted ++ [note]).filterMap look = noted.filterMap look := by
  rw [List.filterMap_append, List.filterMap_cons_none blind, List.filterMap_nil,
    List.append_nil]

/-- A note that is looked at. -/
private theorem filterMap_seen {Value : Type} {look : Note → Option Value}
    {note : Note} {value : Value} (seen : look note = some value) :
    (noted ++ [note]).filterMap look = noted.filterMap look ++ [value] := by
  rw [List.filterMap_append, List.filterMap_cons_some seen, List.filterMap_nil]

theorem Handled.numbered_update (handled : Handled noted s) {id : Nat}
    {handle later : FlowPackets} (present : s.flows id = some handle)
    (other : Nat) (beyond : s.session.nextSubscriber ≤ other) :
    Function.update s.flows id (some later) other = none := by
  rw [Function.update_of_ne]
  · exact handled.numbered other beyond
  · intro same
    rw [same] at beyond
    rw [handled.numbered id beyond] at present
    cases present

theorem Handled.registered_update (handled : Handled noted s) {id : Nat}
    {handle later : FlowPackets} (present : s.flows id = some handle)
    (sameKey : later.key = handle.key) (sameStage : later.stage = handle.stage)
    (key : FlowKey) (other : Nat)
    (listed : s.session.subscribers.lookup key = some other) :
    ∃ found, Function.update s.flows id (some later) other = some found ∧
      found.key = key ∧ found.stage = .held := by
  obtain ⟨former, isFormer, isKey, isHeld⟩ :=
    handled.registered key other listed
  by_cases same : other = id
  · rw [same, present] at isFormer
    cases isFormer
    rw [same, Function.update_self]
    exact ⟨later, rfl, sameKey.trans isKey, sameStage.trans isHeld⟩
  · rw [Function.update_of_ne same]
    exact ⟨former, isFormer, isKey, isHeld⟩

theorem lookup_cases (stepped : s.lookup = some s') :
    ∃ packet later, s.found = none ∧ s.pending = packet :: later ∧
      s' =
        { s with pending := later, found := some (packet, s.route packet) } := by
  unfold State.lookup at stepped
  split at stepped
  · rename_i packet later free waiting
    split at stepped
    · cases stepped
      exact ⟨packet, later, free, waiting, rfl⟩
    · cases stepped
  · cases stepped

/-- The subscription of a packet is the one under its reverse flow key. -/
theorem route_eq_some_iff {packet : Bytes} {id : Nat} :
    s.route packet = some id ↔
      ∃ flow, parseIpv4Flow packet = .ok flow ∧
        s.session.subscribers.lookup flow.reverseFlowKey = some id := by
  unfold State.route
  cases parseIpv4Flow packet with
  | error error => simp
  | ok flow => simp

/-- A subscription that is found is the one for the packet. -/
theorem Handled.destined (handled : Handled noted s) {packet : Bytes}
    {id : Nat} (routed : s.route packet = some id) : Destined s packet id := by
  obtain ⟨flow, parsed, listed⟩ := route_eq_some_iff.mp routed
  obtain ⟨handle, present, same, -⟩ := handled.registered _ id listed
  exact ⟨flow, handle, parsed, present, same⟩

theorem Handled.lookup (handled : Handled noted s)
    (stepped : next cfg s .lookup = some s') :
    Handled (noted ++ notes s .lookup) s' := by
  obtain ⟨packet, later, -, waiting, rfl⟩ := lookup_cases stepped
  refine handled.step handled.numbered handled.registered (extends_refl _)
    ?_ ?_ handled.orphaned
  · intro other id isFound
    obtain ⟨rfl, routed⟩ := Prod.mk.inj (Option.some.inj isFound)
    exact handled.destined routed
  · intro other id fate listed
    simp [notes, waiting] at listed

theorem Counted.lookup (counted : Counted noted s)
    (stepped : next cfg s .lookup = some s') :
    Counted (noted ++ notes s .lookup) s' := by
  obtain ⟨packet, later, free, waiting, rfl⟩ := lookup_cases stepped
  have noting : notes s .lookup = [.lookedUp packet (s.route packet)] := by
    simp [notes, waiting]
  rw [noting]
  have once := counted.once
  have routed := counted.routed
  rw [free, waiting] at once
  rw [free] at routed
  refine ⟨?_, ?_, ?_, ?_, ?_, ?_, ?_, ?_⟩
  · rw [filterMap_blind rfl, filterMap_blind rfl, once]
    rfl
  · have seen : Note.lookup (.lookedUp packet (s.route packet)) =
        some (packet, s.route packet) := rfl
    rw [filterMap_seen seen, filterMap_blind rfl, routed]
    simp
  · rw [List.countP_append]
    exact counted.dropped
  · rw [filterMap_blind rfl, filterMap_blind rfl]
    exact counted.raw
  · intro id handle present
    rw [filterMap_blind rfl, filterMap_blind rfl]
    exact counted.flows id handle present
  · intro id absent
    rw [filterMap_blind rfl, filterMap_blind rfl]
    exact counted.unopened id absent
  · intro other target fate listed
    simp only [List.mem_append, List.mem_singleton, reduceCtorEq, or_false]
      at listed
    exact counted.suits other target fate listed
  · intro note listed lost
    rcases List.mem_append.mp listed with old | isNew
    · exact counted.unclaimed note old lost
    · rw [List.mem_singleton.mp isNew] at lost
      cases lost

/-- What `send` can do: put the packet into a queue, drop it, or end the read
loop. -/
inductive Sends (cfg : SessionConfig) (s : State) :
    List Note → State → Prop where
  | flow {packet : Bytes} {id : Nat} {handle : FlowPackets}
      {channel : Channel Bytes} (found : s.found = some (packet, some id))
      (present : s.flows id = some handle)
      (accepted : handle.channel.trySend packet = .ok channel) :
      Sends cfg s [.sent packet (some id) (.flow id)]
        { s with
          flows :=
            Function.update s.flows id
              (some { handle with channel := channel })
          found := none }
  | dropped {packet : Bytes} {target : Option Nat}
      (found : s.found = some (packet, target)) :
      Sends cfg s [.sent packet target .dropped]
        { s with found := none, droppedPackets := s.droppedPackets + 1 }
  | raw {packet : Bytes} {raw : Channel Bytes}
      (found : s.found = some (packet, none))
      (accepted : s.raw.trySend packet = .ok raw) :
      Sends cfg s [.sent packet none .raw]
        { s with raw := raw, found := none }
  | unclaimed {packet : Bytes} {session : L3.State}
      (found : s.found = some (packet, none))
      (gone : s.raw.receiving = false)
      (stopped : L3.next cfg s.session .readerStop = some session) :
      Sends cfg s
        (.sent packet none .unclaimed :: s.pending.map .abandoned)
        { s with session := session, pending := [], found := none }

theorem sends_of_next (stepped : next cfg s .send = some s') :
    Sends cfg s (notes s .send) s' := by
  simp only [next, State.send] at stepped
  split at stepped
  · cases stepped
  · rename_i packet id found
    split at stepped
    · cases stepped
    · rename_i handle present
      split at stepped
      · rename_i channel accepted
        cases stepped
        have noting : notes s .send = [.sent packet (some id) (.flow id)] := by
          simp [notes, found, State.fate, present, accepted]
        rw [noting]
        exact .flow found present accepted
      · rename_i error refused
        cases stepped
        have noting : notes s .send = [.sent packet (some id) .dropped] := by
          simp [notes, found, State.fate, present, refused]
        rw [noting]
        exact .dropped found
  · rename_i packet found
    split at stepped
    · rename_i raw accepted
      cases stepped
      have noting : notes s .send = [.sent packet none .raw] := by
        simp [notes, found, State.fate, accepted]
      rw [noting]
      exact .raw found accepted
    · rename_i refused
      cases stepped
      have noting : notes s .send = [.sent packet none .dropped] := by
        simp [notes, found, State.fate, refused]
      rw [noting]
      exact .dropped found
    · rename_i refused
      obtain ⟨session, stopped, rfl⟩ := Option.map_eq_some_iff.mp stepped
      have noting : notes s .send =
          .sent packet none .unclaimed :: s.pending.map .abandoned := by
        simp [notes, found, State.fate, refused]
      rw [noting]
      exact .unclaimed found (Channel.trySend_closed refused) stopped

theorem Handled.send (handled : Handled noted s)
    (stepped : next cfg s .send = some s') :
    Handled (noted ++ notes s .send) s' := by
  have sends := sends_of_next stepped
  generalize notes s .send = new at sends
  cases sends with
  | @flow packet id handle channel found present accepted =>
      refine handled.step (handled.numbered_update present)
        (handled.registered_update present rfl rfl)
        (extends_update present rfl) nofun ?_ handled.orphaned
      intro other target fate listed
      simp only [List.mem_singleton, Note.sent.injEq, Option.some.injEq]
        at listed
      obtain ⟨rfl, rfl, -⟩ := listed
      exact handled.found _ _ found
  | @dropped packet target found =>
      refine handled.step handled.numbered handled.registered (extends_refl _)
        nofun ?_ handled.orphaned
      intro other id fate listed
      simp only [List.mem_singleton, Note.sent.injEq] at listed
      obtain ⟨rfl, rfl, -⟩ := listed
      exact handled.found _ _ found
  | @raw packet raw found accepted =>
      refine handled.step handled.numbered handled.registered (extends_refl _)
        nofun ?_ ?_
      · intro other id fate listed
        simp at listed
      · intro gone
        rw [Channel.trySend_ok accepted] at gone
        exact handled.orphaned gone
  | @unclaimed packet session found gone stopped =>
      have keeps : KeepsSubscriptions s.session session :=
        KeepsSubscriptions.of_next stopped nofun nofun
      refine handled.step ?_ ?_ (extends_refl _) nofun ?_ ?_
      · intro id beyond
        exact handled.numbered id (keeps.nextSubscriber ▸ beyond)
      · intro key id listed
        change session.subscribers.lookup key = some id at listed
        rcases keeps.subscribers with kept | cleared
        · rw [kept] at listed
          exact handled.registered key id listed
        · rw [cleared] at listed
          simp at listed
      · intro other id fate listed
        simp at listed
      · intro _
        exact keeps.closed (handled.orphaned gone)

/-- A packet is put into a queue or dropped. -/
theorem Counted.sending {packet : Bytes} {target : Option Nat} {fate : Fate}
    (counted : Counted noted s) (found : s.found = some (packet, target))
    (suits : Suits target fate) (claimed : fate ≠ .unclaimed)
    (idle : s'.found = none) (pending : s'.pending = s.pending)
    (dropped :
      s'.droppedPackets =
        s.droppedPackets + if fate = .dropped then 1 else 0)
    (raw :
      s'.raw.Conserves
        ((noted ++ [Note.sent packet target fate]).filterMap (Note.put .raw))
        (noted.filterMap (Note.took none)))
    (flows :
      ∀ id handle, s'.flows id = some handle →
        handle.channel.Conserves
          ((noted ++ [Note.sent packet target fate]).filterMap
            (Note.put (.flow id)))
          (noted.filterMap (Note.took (some id))))
    (unopened :
      ∀ id, s'.flows id = none → s.flows id = none ∧ fate ≠ .flow id)
    (receiving : s.raw.receiving = false → s'.raw.receiving = false) :
    Counted (noted ++ [.sent packet target fate]) s' where
  once := by
    have settled : Note.settled (.sent packet target fate) = some packet := rfl
    have once := counted.once
    rw [found] at once
    rw [filterMap_blind rfl, filterMap_seen settled, once, idle, pending]
    simp
  routed := by
    have sending : Note.sending (.sent packet target fate) =
        some (packet, target) := rfl
    have routed := counted.routed
    rw [found] at routed
    rw [filterMap_blind rfl, filterMap_seen sending, routed, idle]
    simp
  dropped := by
    rw [List.countP_append, dropped, counted.dropped, List.countP_singleton]
    simp [Note.isDropped]
  raw := by
    have untouched : Note.took none (.sent packet target fate) = none := rfl
    rw [filterMap_blind untouched]
    exact raw
  flows id handle present := by
    have untouched : Note.took (some id) (.sent packet target fate) = none :=
      rfl
    rw [filterMap_blind untouched]
    exact flows id handle present
  unopened id absent := by
    obtain ⟨before, different⟩ := unopened id absent
    have unseen : Note.put (.flow id) (.sent packet target fate) = none := by
      simp [Note.put, different]
    rw [filterMap_blind unseen, filterMap_blind rfl]
    exact counted.unopened id before
  suits other target' fate' listed := by
    rcases List.mem_append.mp listed with old | isNew
    · exact counted.suits other target' fate' old
    · cases List.mem_singleton.mp isNew
      exact suits
  unclaimed note listed lost := by
    rcases List.mem_append.mp listed with old | isNew
    · exact receiving (counted.unclaimed note old lost)
    · rw [List.mem_singleton.mp isNew] at lost
      simp [Note.isUnclaimed, claimed] at lost

/-- The read loop ends, and the packets that are left are given up. -/
theorem Counted.ended {packet : Bytes} {session : L3.State}
    (counted : Counted noted s) (found : s.found = some (packet, none))
    (gone : s.raw.receiving = false) :
    Counted
      (noted ++ (.sent packet none .unclaimed :: s.pending.map .abandoned))
      { s with session := session, pending := [], found := none } := by
  have blind : ∀ (Value : Type) (look : Note → Option Value),
      look (.sent packet none .unclaimed) = none →
      (∀ other, look (.abandoned other) = none) →
      (noted ++ (Note.sent packet none .unclaimed ::
        s.pending.map Note.abandoned)).filterMap look =
        noted.filterMap look := by
    intro Value look unseen given
    rw [List.filterMap_append, List.filterMap_cons_none unseen,
      List.filterMap_map]
    simp [given]
  have unput : ∀ place, place ≠ .unclaimed →
      (noted ++ (Note.sent packet none .unclaimed ::
        s.pending.map Note.abandoned)).filterMap (Note.put place) =
        noted.filterMap (Note.put place) := by
    intro place different
    apply blind
    · simp [Note.put, different.symm]
    · intro other
      rfl
  have untook : ∀ source,
      (noted ++ (Note.sent packet none .unclaimed ::
        s.pending.map Note.abandoned)).filterMap (Note.took source) =
        noted.filterMap (Note.took source) := by
    intro source
    exact blind _ _ rfl fun _ => rfl
  have once := counted.once
  have routed := counted.routed
  rw [found] at once routed
  refine ⟨?_, ?_, ?_, ?_, ?_, ?_, ?_, ?_⟩
  · rw [blind _ Note.arrival rfl fun _ => rfl, once, List.filterMap_append]
    have settled : Note.settled (.sent packet none .unclaimed) =
        some packet := rfl
    rw [List.filterMap_cons_some settled, List.filterMap_map]
    simp [Function.comp_def, Note.settled]
  · rw [blind _ Note.lookup rfl fun _ => rfl, routed, List.filterMap_append]
    have sending : Note.sending (.sent packet none .unclaimed) =
        some (packet, none) := rfl
    rw [List.filterMap_cons_some sending, List.filterMap_map]
    simp [Function.comp_def, Note.sending]
  · rw [List.countP_append, List.countP_cons, List.countP_map]
    simpa [Function.comp_def, Note.isDropped] using counted.dropped
  · rw [unput .raw nofun, untook]
    exact counted.raw
  · intro id handle present
    rw [unput (.flow id) nofun, untook]
    exact counted.flows id handle present
  · intro id absent
    rw [unput (.flow id) nofun, untook]
    exact counted.unopened id absent
  · intro other target fate listed
    rcases List.mem_append.mp listed with old | isNew
    · exact counted.suits other target fate old
    · rcases List.mem_cons.mp isNew with same | left
      · cases same
        exact .inr (.inr rfl)
      · obtain ⟨given, -, impossible⟩ := List.mem_map.mp left
        cases impossible
  · intro note listed lost
    exact gone

theorem Counted.send (counted : Counted noted s)
    (stepped : next cfg s .send = some s') :
    Counted (noted ++ notes s .send) s' := by
  have sends := sends_of_next stepped
  clear stepped
  generalize notes s .send = new at sends
  have unraw : ∀ (packet : Bytes) (target : Option Nat) (fate : Fate),
      fate ≠ .raw →
      s.raw.Conserves
        ((noted ++ [Note.sent packet target fate]).filterMap (Note.put .raw))
        (noted.filterMap (Note.took none)) := by
    intro packet target fate different
    have unseen : Note.put .raw (.sent packet target fate) = none := by
      simp [Note.put, different]
    rw [filterMap_blind unseen]
    exact counted.raw
  have unflow : ∀ (packet : Bytes) (target : Option Nat) (fate : Fate)
      (id : Nat) (handle : FlowPackets), fate ≠ .flow id →
      s.flows id = some handle →
      handle.channel.Conserves
        ((noted ++ [Note.sent packet target fate]).filterMap (Note.put (.flow id)))
        (noted.filterMap (Note.took (some id))) := by
    intro packet target fate id handle different present
    have unseen : Note.put (.flow id) (.sent packet target fate) = none := by
      simp [Note.put, different]
    rw [filterMap_blind unseen]
    exact counted.flows id handle present
  cases sends with
  | @flow packet id handle channel found present accepted =>
      refine counted.sending found (.inl rfl) nofun rfl rfl rfl
        (unraw _ _ _ nofun) ?_ ?_ (fun gone => gone)
      · intro other isHandle isPresent
        by_cases same : other = id
        · rw [same] at isPresent ⊢
          change Function.update s.flows id _ id = _ at isPresent
          rw [Function.update_self] at isPresent
          cases isPresent
          have seen : Note.put (.flow id) (.sent packet (some id) (.flow id)) =
              some packet := by simp [Note.put]
          rw [filterMap_seen seen]
          exact (counted.flows id handle present).trySend accepted
        · change Function.update s.flows id _ other = _ at isPresent
          rw [Function.update_of_ne same] at isPresent
          refine unflow _ _ _ other isHandle ?_ isPresent
          intro equal
          cases equal
          exact same rfl
      · intro other absent
        change Function.update s.flows id _ other = none at absent
        by_cases same : other = id
        · rw [same, Function.update_self] at absent
          cases absent
        · rw [Function.update_of_ne same] at absent
          refine ⟨absent, ?_⟩
          intro equal
          cases equal
          exact same rfl
  | @dropped packet target found =>
      refine counted.sending found ?_ nofun rfl rfl rfl (unraw _ _ _ nofun) ?_
        ?_ (fun gone => gone)
      · cases target with
        | none => exact .inr (.inl rfl)
        | some id => exact .inr rfl
      · intro id handle present
        exact unflow _ _ _ id handle nofun present
      · intro id absent
        exact ⟨absent, nofun⟩
  | @raw packet raw found accepted =>
      refine counted.sending found (.inl rfl) nofun rfl rfl rfl ?_ ?_ ?_ ?_
      · have seen : Note.put .raw (.sent packet none .raw) = some packet := by
          simp [Note.put]
        rw [filterMap_seen seen]
        exact counted.raw.trySend accepted
      · intro id handle present
        exact unflow _ _ _ id handle nofun present
      · intro id absent
        exact ⟨absent, nofun⟩
      · intro gone
        rw [Channel.trySend_ok accepted]
        exact gone
  | @unclaimed packet session found gone stopped =>
      exact counted.ended found gone

/-! ### Readers and handles -/

theorem Handled.recvPacket (handled : Handled noted s)
    (stepped : next cfg s .recvPacket = some s') :
    Handled (noted ++ notes s .recvPacket) s' := by
  obtain ⟨⟨packet, raw⟩, received, rfl⟩ := Option.map_eq_some_iff.mp stepped
  refine handled.step handled.numbered handled.registered (extends_refl _)
    handled.found ?_ ?_
  · intro other id fate listed
    simp [notes, received] at listed
  · intro gone
    rw [Channel.receiving_recv received] at gone
    exact handled.orphaned gone

/-- A packet is taken from a queue. -/
theorem Counted.taking {source : Option Nat} {packet : Bytes}
    (counted : Counted noted s) (found : s'.found = s.found)
    (pending : s'.pending = s.pending)
    (dropped : s'.droppedPackets = s.droppedPackets)
    (raw :
      s'.raw.Conserves (noted.filterMap (Note.put .raw))
        ((noted ++ [Note.taken source packet]).filterMap (Note.took none)))
    (flows :
      ∀ id handle, s'.flows id = some handle →
        handle.channel.Conserves (noted.filterMap (Note.put (.flow id)))
          ((noted ++ [Note.taken source packet]).filterMap
            (Note.took (some id))))
    (unopened :
      ∀ id, s'.flows id = none → s.flows id = none ∧ source ≠ some id)
    (receiving : s.raw.receiving = false → s'.raw.receiving = false) :
    Counted (noted ++ [.taken source packet]) s' where
  once := by
    rw [filterMap_blind rfl, filterMap_blind rfl, found, pending]
    exact counted.once
  routed := by
    rw [filterMap_blind rfl, filterMap_blind rfl, found]
    exact counted.routed
  dropped := by
    rw [List.countP_append, dropped]
    exact counted.dropped
  raw := by
    have unput : Note.put .raw (.taken source packet) = none := rfl
    rw [filterMap_blind unput]
    exact raw
  flows id handle present := by
    have unput : Note.put (.flow id) (.taken source packet) = none := rfl
    rw [filterMap_blind unput]
    exact flows id handle present
  unopened id absent := by
    obtain ⟨before, different⟩ := unopened id absent
    have untook : Note.took (some id) (.taken source packet) = none := by
      simp [Note.took, different]
    rw [filterMap_blind rfl, filterMap_blind untook]
    exact counted.unopened id before
  suits other target fate listed := by
    rcases List.mem_append.mp listed with old | isNew
    · exact counted.suits other target fate old
    · cases List.mem_singleton.mp isNew
  unclaimed note listed lost := by
    rcases List.mem_append.mp listed with old | isNew
    · exact receiving (counted.unclaimed note old lost)
    · rw [List.mem_singleton.mp isNew] at lost
      cases lost

theorem Counted.recvPacket (counted : Counted noted s)
    (stepped : next cfg s .recvPacket = some s') :
    Counted (noted ++ notes s .recvPacket) s' := by
  obtain ⟨⟨packet, raw⟩, received, rfl⟩ := Option.map_eq_some_iff.mp stepped
  have noting : notes s .recvPacket = [.taken none packet] := by
    simp [notes, received]
  rw [noting]
  refine counted.taking rfl rfl rfl ?_ ?_ ?_ ?_
  · have took : Note.took none (.taken none packet) = some packet := by
      simp [Note.took]
    rw [filterMap_seen took]
    exact counted.raw.recv received
  · intro id handle present
    have untook : Note.took (some id) (.taken none packet) = none := by
      simp [Note.took]
    rw [filterMap_blind untook]
    exact counted.flows id handle present
  · intro id absent
    exact ⟨absent, nofun⟩
  · intro gone
    change raw.receiving = false
    rw [Channel.receiving_recv received]
    exact gone

theorem recv_cases {id : Nat} (stepped : s.recv id = some s') :
    ∃ handle packet channel, s.flows id = some handle ∧
      handle.channel.recv = some (packet, channel) ∧
      s' =
        { s with
          flows :=
            Function.update s.flows id
              (some { handle with channel := channel }) } := by
  unfold State.recv at stepped
  split at stepped
  · cases stepped
  · rename_i handle present
    split at stepped
    · obtain ⟨⟨packet, channel⟩, received, rfl⟩ :=
        Option.map_eq_some_iff.mp stepped
      exact ⟨handle, packet, channel, present, received, rfl⟩
    · cases stepped

theorem Handled.recv {id : Nat} (handled : Handled noted s)
    (stepped : next cfg s (.recv id) = some s') :
    Handled (noted ++ notes s (.recv id)) s' := by
  obtain ⟨handle, packet, channel, present, received, rfl⟩ :=
    recv_cases stepped
  refine handled.step (handled.numbered_update present)
    (handled.registered_update present rfl rfl) (extends_update present rfl)
    handled.found ?_ handled.orphaned
  intro other target fate listed
  simp [notes, present, received] at listed

theorem Counted.recv {id : Nat} (counted : Counted noted s)
    (stepped : next cfg s (.recv id) = some s') :
    Counted (noted ++ notes s (.recv id)) s' := by
  obtain ⟨handle, packet, channel, present, received, rfl⟩ :=
    recv_cases stepped
  have noting : notes s (.recv id) = [.taken (some id) packet] := by
    simp [notes, present, received]
  rw [noting]
  refine counted.taking rfl rfl rfl ?_ ?_ ?_ (fun gone => gone)
  · have untook : Note.took none (.taken (some id) packet) = none := by
      simp [Note.took]
    rw [filterMap_blind untook]
    exact counted.raw
  · intro other later isPresent
    change Function.update s.flows id _ other = some later at isPresent
    by_cases same : other = id
    · rw [same, Function.update_self] at isPresent
      cases isPresent
      have took : Note.took (some id) (.taken (some id) packet) =
          some packet := by simp [Note.took]
      rw [same, filterMap_seen took]
      exact (counted.flows id handle present).recv received
    · rw [Function.update_of_ne same] at isPresent
      have untook : Note.took (some other) (.taken (some id) packet) =
          none := by simp [Note.took, Ne.symm same]
      rw [filterMap_blind untook]
      exact counted.flows other later isPresent
  · intro other absent
    change Function.update s.flows id _ other = none at absent
    by_cases same : other = id
    · rw [same, Function.update_self] at absent
      cases absent
    · rw [Function.update_of_ne same] at absent
      refine ⟨absent, ?_⟩
      intro equal
      cases equal
      exact same rfl

theorem dropFlowPackets_cases {id : Nat}
    (stepped : s.dropFlowPackets cfg id = some s') :
    ∃ handle, s.flows id = some handle ∧ handle.stage = .held ∧
      s' =
        { s with
          session :=
            if s.session.subscribers.lookup handle.key = some id then
              { s.session with
                subscribers := s.session.subscribers.erase handle.key }
            else
              s.session
          flows :=
            Function.update s.flows id
              (some { handle with stage := .dropping }) } := by
  unfold State.dropFlowPackets at stepped
  split at stepped
  · cases stepped
  · rename_i handle present
    split at stepped
    · rename_i held
      obtain ⟨session, moved, rfl⟩ := Option.map_eq_some_iff.mp stepped
      simp only [L3.next] at moved
      split at moved
      · cases moved
        exact ⟨handle, present, held, rfl⟩
      · cases moved
    · cases stepped

/-- Dropping a handle removes its own subscription and no other. -/
theorem Handled.unsubscribes {id : Nat} (handled : Handled noted s)
    (stepped : s.dropFlowPackets cfg id = some s') (key : FlowKey)
    (other : Nat) :
    s'.session.subscribers.lookup key = some other ↔
      s.session.subscribers.lookup key = some other ∧ other ≠ id := by
  obtain ⟨handle, present, -, rfl⟩ := dropFlowPackets_cases stepped
  have own : ∀ key, s.session.subscribers.lookup key = some id →
      key = handle.key := by
    intro key listed
    obtain ⟨found, isFound, same, -⟩ := handled.registered key id listed
    rw [present] at isFound
    cases isFound
    exact same.symm
  dsimp only
  split
  · rename_i registered
    change (s.session.subscribers.erase handle.key).lookup key = some other ↔ _
    rw [HashTable.lookup_erase_eq_if]
    split
    · rename_i same
      rw [same, registered]
      constructor
      · intro impossible
        cases impossible
      · intro both
        exact absurd (Option.some.inj both.1).symm both.2
    · rename_i different
      constructor
      · intro listed
        refine ⟨listed, ?_⟩
        intro same
        rw [same] at listed
        exact different (own key listed)
      · intro both
        exact both.1
  · rename_i unregistered
    constructor
    · intro listed
      refine ⟨listed, ?_⟩
      intro same
      rw [same] at listed
      rw [own key listed] at listed
      exact unregistered listed
    · intro both
      exact both.1

theorem Handled.dropFlowPackets {id : Nat} (handled : Handled noted s)
    (stepped : next cfg s (.dropFlowPackets id) = some s') :
    Handled (noted ++ notes s (.dropFlowPackets id)) s' := by
  have unsubscribes := handled.unsubscribes stepped
  obtain ⟨handle, present, held, same⟩ := dropFlowPackets_cases stepped
  have count : s'.session.nextSubscriber = s.session.nextSubscriber := by
    rw [same]
    dsimp only
    split <;> rfl
  have closed : s'.session.closed = s.session.closed := by
    rw [same]
    dsimp only
    split <;> rfl
  have flows : s'.flows =
      Function.update s.flows id (some { handle with stage := .dropping }) := by
    rw [same]
  have found : s'.found = s.found := by rw [same]
  have raw : s'.raw = s.raw := by rw [same]
  refine handled.step ?_ ?_ ?_ ?_ nofun ?_
  · intro other beyond
    rw [flows]
    exact handled.numbered_update present other (count ▸ beyond)
  · intro key other listed
    obtain ⟨before, different⟩ := (unsubscribes key other).mp listed
    obtain ⟨former, isFormer, facts⟩ := handled.registered key other before
    rw [flows, Function.update_of_ne different]
    exact ⟨former, isFormer, facts⟩
  · rw [flows]
    exact extends_update present rfl
  · rw [found]
    exact handled.found
  · rw [raw, closed]
    exact handled.orphaned

theorem Handled.dropReceiver {id : Nat} (handled : Handled noted s)
    (stepped : next cfg s (.dropReceiver id) = some s') :
    Handled (noted ++ notes s (.dropReceiver id)) s' := by
  simp only [next, State.dropReceiver] at stepped
  split at stepped
  · cases stepped
  · rename_i handle present
    split at stepped
    · cases stepped
      exact handled.step (handled.numbered_update present)
        (handled.registered_update present rfl rfl)
        (extends_update present rfl) handled.found nofun handled.orphaned
    · cases stepped

/-- Nothing is noted, and the queues are as they were. -/
theorem Counted.quiet (counted : Counted noted s) (found : s'.found = s.found)
    (pending : s'.pending = s.pending)
    (dropped : s'.droppedPackets = s.droppedPackets)
    (raw : s'.raw.queue = s.raw.queue)
    (receiving : s.raw.receiving = false → s'.raw.receiving = false)
    (flows :
      ∀ id, (s'.flows id).map (·.channel.queue) =
        (s.flows id).map (·.channel.queue)) :
    Counted (noted ++ []) s' := by
  rw [List.append_nil]
  refine ⟨?_, ?_, ?_, ?_, ?_, ?_, counted.suits, ?_⟩
  · rw [found, pending]
    exact counted.once
  · rw [found]
    exact counted.routed
  · rw [dropped]
    exact counted.dropped
  · rw [Channel.Conserves, raw]
    exact counted.raw
  · intro id handle present
    have same := flows id
    rw [present] at same
    obtain ⟨former, isFormer, queue⟩ := Option.map_eq_some_iff.mp same.symm
    have kept : handle.channel.queue = former.channel.queue := queue.symm
    rw [Channel.Conserves, kept]
    exact counted.flows id former isFormer
  · intro id absent
    have same := flows id
    rw [absent] at same
    exact counted.unopened id (Option.map_eq_none_iff.mp same.symm)
  · intro note listed lost
    exact receiving (counted.unclaimed note listed lost)

/-- A handle that keeps its queue. -/
private theorem queues_update {id : Nat} {handle later : FlowPackets}
    (present : s.flows id = some handle)
    (same : later.channel.queue = handle.channel.queue) (other : Nat) :
    (Function.update s.flows id (some later) other).map (·.channel.queue) =
      (s.flows other).map (·.channel.queue) := by
  by_cases isSame : other = id
  · rw [isSame, Function.update_self, present]
    exact congrArg some same
  · rw [Function.update_of_ne isSame]

end

/-! ## Every run -/

/-- One step keeps the books. -/
theorem kept_of_next {cfg : SessionConfig} {noted : List Note} {s s' : State}
    {action : Action} (handled : Handled noted s) (counted : Counted noted s)
    (stepped : next cfg s action = some s') :
    Handled (noted ++ notes s action) s' ∧
      Counted (noted ++ notes s action) s' := by
  cases action with
  | session action =>
      exact ⟨handled.session stepped, counted.session handled stepped⟩
  | lookup => exact ⟨handled.lookup stepped, counted.lookup stepped⟩
  | send => exact ⟨handled.send stepped, counted.send stepped⟩
  | recvPacket =>
      exact ⟨handled.recvPacket stepped, counted.recvPacket stepped⟩
  | recv id => exact ⟨handled.recv stepped, counted.recv stepped⟩
  | dropFlowPackets id =>
      refine ⟨handled.dropFlowPackets stepped, ?_⟩
      obtain ⟨handle, present, -, rfl⟩ := dropFlowPackets_cases stepped
      exact counted.quiet rfl rfl rfl rfl (fun gone => gone)
        (queues_update present rfl)
  | dropReceiver id =>
      refine ⟨handled.dropReceiver stepped, ?_⟩
      simp only [next, State.dropReceiver] at stepped
      split at stepped
      · cases stepped
      · rename_i handle present
        split at stepped
        · cases stepped
          exact counted.quiet rfl rfl rfl rfl (fun gone => gone)
            (queues_update present rfl)
        · cases stepped
  | dropSession =>
      simp only [next] at stepped
      split at stepped
      · rename_i isClosed
        cases stepped
        refine ⟨handled.step handled.numbered handled.registered
          (extends_refl _) handled.found nofun (fun _ => isClosed), ?_⟩
        exact counted.quiet rfl rfl rfl rfl (fun _ => rfl) fun _ => rfl
      · cases stepped

/-- The subscription is registered. -/
def Registered (s : State) (id : Nat) : Prop :=
  ∃ key, s.session.subscribers.lookup key = some id

/-- What the next packet is looked up as: the subscription that is registered
under its reverse flow key, and none exactly if none is. -/
def Routes (s s' : State) : Prop :=
  ∃ packet later target,
    s.pending = packet :: later ∧ s'.pending = later ∧
      s'.found = some (packet, target) ∧
      notes s .lookup = [.lookedUp packet target] ∧
      ∀ id, target = some id ↔
        ∃ flow, parseIpv4Flow packet = .ok flow ∧
          s.session.subscribers.lookup flow.reverseFlowKey = some id

/-- What becomes of the packets in a run.  Every packet that has arrived is
settled, in the order of arrival, unless the read loop still has it.  It is sent
to what was looked up for it: to the subscription under its reverse flow key, or
to the raw queue if there is none.  It is then in that queue, or dropped and
counted; it is unclaimed only if the session object is gone.  Every queue gives
its packets in the order in which they were put in.  A subscription is only put
under a key that has none, and stays until its handle is dropped or all are
cleared. -/
structure Delivery (cfg : SessionConfig) (noted : List Note) (s : State) :
    Prop where
  once :
    noted.filterMap Note.arrival =
      noted.filterMap Note.settled ++ (s.found.toList.map Prod.fst ++ s.pending)
  routed :
    noted.filterMap Note.lookup =
      noted.filterMap Note.sending ++ s.found.toList
  routes : ∀ s', next cfg s .lookup = some s' → Routes s s'
  suits :
    ∀ packet target fate, .sent packet target fate ∈ noted →
      Suits target fate ∧ ∀ id, target = some id → Destined s packet id
  dropped : s.droppedPackets = noted.countP Note.isDropped
  unclaimed :
    ∀ note ∈ noted, note.isUnclaimed = true →
      s.raw.receiving = false ∧ s.session.closed = true
  raw :
    noted.filterMap (Note.put .raw) =
      noted.filterMap (Note.took none) ++ s.raw.queue
  flows :
    ∀ id handle, s.flows id = some handle →
      noted.filterMap (Note.put (.flow id)) =
        noted.filterMap (Note.took (some id)) ++ handle.channel.queue
  exclusive :
    ∀ id id' handle handle', s.flows id = some handle →
      s.flows id' = some handle' → handle.key = handle'.key →
      Registered s id → Registered s id' → id = id'
  subscribes :
    ∀ action s', next cfg s (.session action) = some s' →
      s'.session.subscribers = s.session.subscribers ∨
        s'.session.subscribers = ∅ ∨
        ∃ flow : Ipv4Flow,
          s.session.subscribing = some (.insert flow) ∧
            s.session.subscribers.lookup flow.flowKey = none ∧
            s'.session.subscribers =
              s.session.subscribers.insert flow.flowKey
                s.session.nextSubscriber
  unsubscribes :
    ∀ id s', next cfg s (.dropFlowPackets id) = some s' →
      ∀ key other, s'.session.subscribers.lookup key = some other ↔
        s.session.subscribers.lookup key = some other ∧ other ≠ id

theorem routes_of_next {cfg : SessionConfig} {s s' : State}
    (stepped : next cfg s .lookup = some s') : Routes s s' := by
  obtain ⟨packet, later, -, waiting, rfl⟩ := lookup_cases stepped
  refine ⟨packet, later, s.route packet, waiting, rfl, rfl, ?_, ?_⟩
  · simp [notes, waiting]
  · intro id
    exact route_eq_some_iff

theorem subscribes_of_next {cfg : SessionConfig} {s s' : State}
    {action : L3.Action} (stepped : next cfg s (.session action) = some s') :
    s'.session.subscribers = s.session.subscribers ∨
      s'.session.subscribers = ∅ ∨
      ∃ flow : Ipv4Flow,
        s.session.subscribing = some (.insert flow) ∧
          s.session.subscribers.lookup flow.flowKey = none ∧
          s'.session.subscribers =
            s.session.subscribers.insert flow.flowKey
              s.session.nextSubscriber := by
  simp only [next] at stepped
  split at stepped
  · cases stepped
  · rename_i free
    obtain ⟨session, moved, rfl⟩ := Option.map_eq_some_iff.mp stepped
    by_cases isSubscriber : action = .subscriber
    · subst isSubscriber
      rcases subscriber_cases moved with
        ⟨same, -⟩ | ⟨flow, inserting, unused, rfl⟩
      · exact .inl same
      · exact .inr (.inr ⟨flow, inserting, unused, rfl⟩)
    · have keeps := KeepsSubscriptions.of_next moved isSubscriber (by
        intro key id same
        rw [same] at free
        exact free rfl)
      rcases keeps.subscribers with same | cleared
      · exact .inl same
      · exact .inr (.inl cleared)

theorem Handled.exclusive {noted : List Note} {s : State} {id id' : Nat}
    {handle handle' : FlowPackets} (handled : Handled noted s)
    (present : s.flows id = some handle)
    (present' : s.flows id' = some handle')
    (same : handle.key = handle'.key) (registered : Registered s id)
    (registered' : Registered s id') : id = id' := by
  obtain ⟨key, listed⟩ := registered
  obtain ⟨key', listed'⟩ := registered'
  obtain ⟨found, isFound, isKey, -⟩ := handled.registered key id listed
  obtain ⟨found', isFound', isKey', -⟩ := handled.registered key' id' listed'
  rw [present] at isFound
  rw [present'] at isFound'
  cases isFound
  cases isFound'
  rw [← isKey, same, isKey', listed'] at listed
  exact (Option.some.inj listed).symm

/-- In every run of a session with its readers and handles, every inbound packet
is delivered to exactly one place or dropped and counted once, every queue is in
wire order, at most one subscription is registered for a key, and dropping a
handle leaves the subscriptions of other handles alone. -/
theorem packets_delivered_once {cfg : SessionConfig} {vip : Ipv4Addr}
    {now : Nat} {actions : List Action} {s : State}
    (ran : run (next cfg) (initial vip now) actions = some s) :
    Delivery cfg (observed (next cfg) notes (initial vip now) actions) s := by
  have kept : Handled (observed (next cfg) notes (initial vip now) actions) s ∧
      Counted (observed (next cfg) notes (initial vip now) actions) s := by
    refine invariant_of_observed
      (fun noted state => Handled noted state ∧ Counted noted state)
      ⟨handled_initial vip now, counted_initial vip now⟩ ?_
      (@meets_of_forall _ _ _ _ _ (fun _ _ => True) fun _ _ _ => trivial) ran
    intro noted state action after holds _ stepped
    exact kept_of_next holds.1 holds.2 stepped
  obtain ⟨handled, counted⟩ := kept
  refine ⟨counted.once, counted.routed, fun _ => routes_of_next, ?_,
    counted.dropped, ?_, counted.raw, counted.flows, ?_,
    fun _ _ => subscribes_of_next, ?_⟩
  · intro packet target fate listed
    refine ⟨counted.suits packet target fate listed, ?_⟩
    intro id isTarget
    rw [isTarget] at listed
    exact handled.sent packet id fate listed
  · intro note listed lost
    have gone := counted.unclaimed note listed lost
    exact ⟨gone, handled.orphaned gone⟩
  · intro id id' handle handle' present present' same registered registered'
    exact handled.exclusive present present' same registered registered'
  · intro id s' stepped
    exact handled.unsubscribes stepped

/-- An answer to the sample flow. -/
def sampleReply : Bytes :=
  [0x45, 0, 0, 24, 0, 0, 0, 0, 64, 6, 0, 0, 10, 0, 0, 9, 10, 8, 0, 1, 0x01,
    0xbb, 0x9c, 0x40]

/-- The flow is subscribed to, and an answer arrives, is delivered and read. -/
def sampleDelivery : List Action :=
  [.session (.subscribeFlow Sample.flow), .session .subscriber,
    .session .subscriber,
    .session (.receive (.data (.lengthPrefixed sampleReply))),
    .session .reader, .session .reader, .lookup, .send, .recv 1]

theorem packets_delivered_once_reply :
    .taken (some 1) sampleReply ∈
        observed (next (Sample.config .disabled)) notes
          (initial Sample.vip 0) sampleDelivery ∧
      ∃ s, run (next (Sample.config .disabled)) (initial Sample.vip 0)
          sampleDelivery = some s ∧
        Delivery (Sample.config .disabled)
          (observed (next (Sample.config .disabled)) notes
            (initial Sample.vip 0) sampleDelivery) s := by
  have runs : (run (next (Sample.config .disabled)) (initial Sample.vip 0)
      sampleDelivery).isSome = true := by decide +kernel
  obtain ⟨s, ran⟩ := Option.isSome_iff_exists.mp runs
  exact ⟨by decide +kernel, s, ran, packets_delivered_once ran⟩

end HermesAtrust.L3.PacketDelivery
