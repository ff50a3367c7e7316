import HermesAtrust.Concurrency.Transitions
import HermesAtrust.Net.FakeIpPool
import HermesAtrust.Net.OriginalHost

/-!
# Concurrent lookups of the resolver

`Resolver::lookup_with_ttl` as calls that run between refreshes and session
replacements.  A call reads the epoch and a snapshot, which make its key
together with the host, takes the gate of the key and waits for its lock.
Behind the gate it looks into the cache, asks the network if it has to, and
checks epoch and generation once more before it stores a fresh answer.

The map of the gates holds weak references; a gate is alive as long as some
call holds it.  Returning drops the guard first and the gate after it.  A
remote exchange is the time in which the call waits for `lookup_remote`, whose
answer is not determined by anything modelled here.
-/

namespace HermesAtrust.Net

open HermesAtrust.Auth.ResourceCache (ResourceSnapshot ResourceTable)
open HermesAtrust.Auth HermesAtrust.Client HermesAtrust.Collections
open HermesAtrust.Concurrency HermesAtrust.L3 HermesAtrust.Text

structure CacheKey where
  epoch : Nat
  generation : Nat
  host : Str
  deriving DecidableEq, Repr

/-- The epoch and the generation of a key. -/
def CacheKey.policy (key : CacheKey) : Nat × Nat :=
  (key.epoch, key.generation)

structure Cached where
  addresses : List Ipv4Addr
  expiry : Instant
  deriving DecidableEq, Repr

structure Answer where
  addresses : List Ipv4Addr
  ttl : Nat
  deriving DecidableEq, Repr

structure ResolverConfig where
  maxTtl : Nat
  capacity : Nat

abbrev GateId := Nat

/-- How a call ends.  An answer that is not a literal comes with its key and
with the epoch and the generation that were current at its last check. -/
inductive LookupResult where
  | literal (ip : Ipv4Addr)
  | answered (key : CacheKey) (answer : Answer) (current : Nat × Nat)
  | failed (error : IoError)
  | panicked
  | cancelled

/-- Where a call is that holds its gate. -/
inductive GateStage where
  | waiting (snapshot : ResourceSnapshot)
  | readingCache (snapshot : ResourceSnapshot)
  | exchanging
  | recheckingEpoch (answer : Answer)
  | retakingSession (answer : Answer)
  | recheckingGeneration (answer : Answer) (session : SessionNumber)
  | storing (answer : Answer) (current : Nat × Nat)
  | unlocking (result : LookupResult)
  | dropping (result : LookupResult)

inductive LookupPhase where
  | checking (host : Str)
  | readingEpoch (host : Str)
  | takingSession (host : Str) (epoch : Nat)
  | readingSnapshot (host : Str) (epoch : Nat) (session : SessionNumber)
  | joining (key : CacheKey) (snapshot : ResourceSnapshot)
  | holding (key : CacheKey) (gate : GateId) (stage : GateStage)
  | finished (result : LookupResult)

/-- Whether the call holds the guard of its gate. -/
def GateStage.pastGate : GateStage → Bool
  | .waiting _ => false
  | .dropping _ => false
  | _ => true

/-- Whether the call has read the epoch again but not yet the generation. -/
def GateStage.betweenChecks : GateStage → Bool
  | .retakingSession _ => true
  | .recheckingGeneration _ _ => true
  | _ => false

/-- `"DNS policy changed during lookup"`. -/
def policyChanged : IoError :=
  ⟨.interrupted, "DNS policy changed during lookup"⟩

/-- The addresses that the policies of a host name themselves. -/
def staticIps (snapshot : ResourceSnapshot) (host : Str) : List Ipv4Addr :=
  (snapshot.routing.domainResourcesForHost host).flatMap
    DomainResource.resolvedIps

namespace LookupPhase

/-- Once the session was checked. -/
def accept (host : Str) : LookupPhase :=
  match parseIpv4 host with
  | some ip => .finished (.literal ip)
  | none =>
      match normalize host with
      | .error error => .finished (.failed error)
      | .ok host => .readingEpoch host

/-- The steps before the gate that only read the client. -/
def proceed (client : AtrustClient) : LookupPhase → Option LookupPhase
  | .checking host =>
      match client.checkSession with
      | .error error => some (.finished (.failed (ioError error)))
      | .ok () => some (accept host)
  | .readingEpoch host => some (.takingSession host client.sessionEpoch)
  | .takingSession host epoch =>
      some (.readingSnapshot host epoch client.active)
  | .readingSnapshot host epoch session =>
      let snapshot := (client.sessions session).snapshot
      some (.joining ⟨epoch, snapshot.generation, host⟩ snapshot)
  | _ => none

/-- A call holds this gate. -/
def holds (gate : GateId) : LookupPhase → Bool
  | .holding _ other _ => decide (other = gate)
  | _ => false

/-- A call holds the guard of this gate. -/
def guards (gate : GateId) : LookupPhase → Bool
  | .holding _ other stage => decide (other = gate) && stage.pastGate
  | _ => false

/-- The lock of the gate is taken, which must be free. -/
def lock (calls : List LookupPhase) : LookupPhase → Option LookupPhase
  | .holding key gate (.waiting snapshot) =>
      if calls.any (guards gate) then none
      else some (.holding key gate (.readingCache snapshot))
  | _ => none

/-- The look into the cache. -/
def readCache (config : ResolverConfig) (client : AtrustClient)
    (cache : HashTable CacheKey Cached) (first second : Instant) :
    LookupPhase → Option LookupPhase
  | .holding key gate (.readingCache snapshot) =>
      let missed :=
        let addresses := staticIps snapshot key.host
        if addresses = [] then .holding key gate .exchanging
        else
          .holding key gate (.recheckingEpoch ⟨addresses, config.maxTtl⟩)
      match cache.lookup key with
      | some cached =>
          if first < cached.expiry ∧ client.sessionEpoch = key.epoch then
            some
              (.holding key gate
                (.unlocking
                  (.answered key ⟨cached.addresses, cached.expiry - second⟩
                    client.current)))
          else
            some missed
      | none => some missed
  | _ => none

/-- The answer of the network arrives, or the time for it is over. -/
def answer (outcome : Except IoError Answer) :
    LookupPhase → Option LookupPhase
  | .holding key gate .exchanging =>
      match outcome with
      | .error error => some (.holding key gate (.unlocking (.failed error)))
      | .ok answer => some (.holding key gate (.recheckingEpoch answer))
  | _ => none

/-- The checks of a fresh answer. -/
def recheck (client : AtrustClient) : LookupPhase → Option LookupPhase
  | .holding key gate (.recheckingEpoch answer) =>
      if client.sessionEpoch = key.epoch then
        some (.holding key gate (.retakingSession answer))
      else
        some (.holding key gate (.unlocking (.failed policyChanged)))
  | .holding key gate (.retakingSession answer) =>
      some (.holding key gate (.recheckingGeneration answer client.active))
  | .holding key gate (.recheckingGeneration answer session) =>
      if (client.sessions session).snapshot.generation = key.generation then
        some (.holding key gate (.storing answer client.current))
      else
        some (.holding key gate (.unlocking (.failed policyChanged)))
  | _ => none

/-- Returning: first the guard is dropped, then the gate. -/
def leave : LookupPhase → Option LookupPhase
  | .holding key gate (.unlocking result) =>
      some (.holding key gate (.dropping result))
  | .holding _ _ (.dropping result) => some (.finished result)
  | _ => none

/-- The future of a call is dropped. -/
def cancel : LookupPhase → Option LookupPhase
  | .holding _ _ (.unlocking _) => none
  | .holding _ _ (.dropping _) => none
  | .holding key gate (.waiting _) =>
      some (.holding key gate (.dropping .cancelled))
  | .holding key gate _ => some (.holding key gate (.unlocking .cancelled))
  | .finished _ => none
  | _ => some (.finished .cancelled)

end LookupPhase

/-- What a call that stores its answer takes from outside. -/
structure CacheSurroundings where
  check : CacheKey → Instant
  stamp : Instant
  order : IterationOrder (CacheKey × Cached)

section Storing

variable (lastInstant : Instant) (config : ResolverConfig)

/-- Storing a fresh answer: entries of other epochs and generations and
expired ones go, and the one that expires first if there is no room. -/
def store (cache : HashTable CacheKey Cached) (key : CacheKey)
    (fresh : Answer) (surroundings : CacheSurroundings) :
    HashTable CacheKey Cached × Option Answer :=
  let ttl := min fresh.ttl config.maxTtl
  if ttl ≠ 0 ∧ config.capacity ≠ 0 then
    let entries :=
      (HashTable.pairs cache).filter fun entry =>
        decide (entry.1.epoch = key.epoch) &&
          decide (entry.1.generation = key.generation) &&
          decide (surroundings.check entry.1 < entry.2.expiry)
    let kept : HashTable CacheKey Cached :=
      entries.foldr (fun entry table => table.insert entry.1 entry.2) ∅
    let roomy :=
      if config.capacity ≤ HashTable.len kept then
        match (surroundings.order.arrange (HashTable.pairs kept)).argmin
            (fun entry => entry.2.expiry) with
        | some victim => kept.erase victim.1
        | none => kept
      else
        kept
    match FakeIpPool.deadline lastInstant surroundings.stamp ttl with
    | none => (roomy, none)
    | some expiry =>
        (roomy.insert key ⟨fresh.addresses, expiry⟩,
          some ⟨fresh.addresses, ttl⟩)
  else
    (cache, some ⟨fresh.addresses, ttl⟩)

end Storing

structure ResolverState where
  client : AtrustClient
  cache : HashTable CacheKey Cached
  flights : HashTable CacheKey GateId
  nextGate : GateId
  calls : List LookupPhase

inductive ResolverAction where
  | call (host : Str)
  | proceed (call : Nat)
  | join (call : Nat)
  | lock (call : Nat)
  | readCache (call : Nat) (first second : Instant)
  | answer (call : Nat) (outcome : Except IoError Answer)
  | recheck (call : Nat)
  | store (call : Nat) (surroundings : CacheSurroundings)
  | leave (call : Nat)
  | cancel (call : Nat)
  | refresh (session : SessionNumber) (resources : ResourceTable)
  | invalidate (session : SessionNumber)
  | shutdown
  | replaceSession (resources : ResourceTable)

namespace ResolverState

def start (resources : ResourceTable) : ResolverState where
  client := .start resources
  cache := ∅
  flights := ∅
  nextGate := 0
  calls := []

/-- `strong_count`. -/
def strongCount (state : ResolverState) (gate : GateId) : Nat :=
  state.calls.countP (LookupPhase.holds gate)

/-- One call moves on. -/
def advance (state : ResolverState) (call : Nat)
    (move : LookupPhase → Option LookupPhase) : Option ResolverState := do
  let phase ← state.calls[call]?
  let next ← move phase
  return { state with calls := state.calls.set call next }

/-- The gate of the key: a living one from the map, or a new one. -/
def join (state : ResolverState) (call : Nat) : Option ResolverState :=
  match state.calls[call]? with
  | some (.joining key snapshot) =>
      let living :=
        HashTable.filterMapValues
          (fun gate => if state.strongCount gate = 0 then none else some gate)
          state.flights
      match living.lookup key with
      | some gate =>
          some
            { state with
              flights := living
              calls :=
                state.calls.set call (.holding key gate (.waiting snapshot)) }
      | none =>
          some
            { state with
              flights := living.insert key state.nextGate
              nextGate := state.nextGate + 1
              calls :=
                state.calls.set call
                  (.holding key state.nextGate (.waiting snapshot)) }
  | _ => none

section Steps

variable (lastInstant : Instant) (config : ResolverConfig)

/-- A fresh answer is stored and returned. -/
def store (state : ResolverState) (call : Nat)
    (surroundings : CacheSurroundings) : Option ResolverState :=
  match state.calls[call]? with
  | some (.holding key gate (.storing answer current)) =>
      let (cache, stored) :=
        Net.store lastInstant config state.cache key answer surroundings
      let result :=
        stored.elim .panicked fun answer => .answered key answer current
      some
        { state with
          cache := cache
          calls :=
            state.calls.set call (.holding key gate (.unlocking result)) }
  | _ => none

/-- One step of the resolver. -/
def step (state : ResolverState) : ResolverAction → Option ResolverState
  | .call host => some { state with calls := state.calls ++ [.checking host] }
  | .proceed call => state.advance call (LookupPhase.proceed state.client)
  | .join call => state.join call
  | .lock call => state.advance call (LookupPhase.lock state.calls)
  | .readCache call first second =>
      state.advance call
        (LookupPhase.readCache config state.client state.cache first second)
  | .answer call outcome => state.advance call (LookupPhase.answer outcome)
  | .recheck call => state.advance call (LookupPhase.recheck state.client)
  | .store call surroundings => state.store lastInstant config call surroundings
  | .leave call => state.advance call LookupPhase.leave
  | .cancel call => state.advance call LookupPhase.cancel
  | .refresh session resources =>
      some { state with client := state.client.refresh session resources }
  | .invalidate session =>
      some { state with client := state.client.invalidate session }
  | .shutdown => some { state with client := state.client.shutdown }
  | .replaceSession resources =>
      some { state with client := state.client.replaceSession resources }

end Steps

end ResolverState

end HermesAtrust.Net
