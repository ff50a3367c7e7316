import HermesAtrust.Collections.HashTable
import HermesAtrust.Framing.ByteOrder
import Mathlib.Data.List.MinMax

/-!
# Per-flow conntrack and connectToken state

Model of `conntrack.rs`.  Instants and durations are nanosecond counts of one
monotone clock, so that `saturating_duration_since` is truncated subtraction.
The source reads the clock inside a call; here the reading is an argument.  A
`&mut` reference into the table becomes a function on the stored entry, and the
order in which a hash map is walked is an argument of the calls that walk it.
-/

namespace HermesAtrust.L3

open HermesAtrust.Framing HermesAtrust.Collections

/-- Nanoseconds in a second. -/
def second : Nat := 1000000000

/-- `L3_AUTH_TIMEOUT`. -/
def l3AuthTimeout : Nat := 8 * second

/-- `L3_CONNTRACK_IDLE_TTL`. -/
def l3ConntrackIdleTtl : Nat := 300 * second

/-- `L3_CONNTRACK_CAPACITY`. -/
def l3ConntrackCapacity : Nat := 8192

/-- Number of values of the `u64` counter behind `next_auth_id`. -/
def authIdSpace : Nat := 2 ^ 64

/-- Stable key for one L3 flow. -/
structure FlowKey where
  text : String
  deriving DecidableEq, Repr

/-- `{atype}:{protocol}:{src}:{srcPort}-{dst}:{dstPort}`. -/
def FlowKey.new (atype protocol : Nat) (src : String) (srcPort : Nat)
    (dst : String) (dstPort : Nat) : FlowKey :=
  ⟨toString atype ++ ":" ++ toString protocol ++ ":" ++ src ++ ":" ++
    toString srcPort ++ "-" ++ dst ++ ":" ++ toString dstPort⟩

/-- Outcome after auth completes or fails. -/
inductive AuthOutcome where
  | ready (connectToken : String)
  | failed (message : String)
  deriving DecidableEq, Repr

def AuthOutcome.connectToken : AuthOutcome → Option String
  | .ready connectToken => some connectToken
  | .failed _ => none

/-- Mutable per-flow entry. -/
structure ConntrackEntry where
  key : FlowKey
  authId : Nat
  appId : String
  nodeGroupId : String
  authStarted : Bool
  retries : Nat
  retryScheduled : Bool
  authDeadline : Option Nat
  reusableFrame : Option Bytes
  outcome : Option AuthOutcome
  lastUsed : Nat
  deriving DecidableEq, Repr

namespace ConntrackEntry

/-- A `0x13` is outstanding and no verdict has arrived. -/
def authInFlight (entry : ConntrackEntry) : Bool :=
  entry.authStarted && entry.outcome.isNone

/-- The flag is the caller's licence to send `0x13`. -/
def tryStartAuth (entry : ConntrackEntry) (now : Nat) :
    ConntrackEntry × Bool :=
  if entry.authStarted then
    (entry, false)
  else
    ({ entry with
        authStarted := true
        authDeadline := some (now + l3AuthTimeout) }, true)

def setReusableFrame (entry : ConntrackEntry) (frame : Bytes)
    (deadline : Nat) : ConntrackEntry :=
  { entry with
    reusableFrame := some frame
    authDeadline := some deadline }

def scheduleRetry (entry : ConntrackEntry) (budget : Nat) :
    ConntrackEntry × Bool :=
  if entry.outcome.isSome || entry.retryScheduled ||
      decide (budget ≤ entry.retries) || entry.reusableFrame.isNone then
    (entry, false)
  else
    ({ entry with
        retries := entry.retries + 1
        retryScheduled := true }, true)

def takeRetry (entry : ConntrackEntry) : ConntrackEntry × Option Bytes :=
  if !entry.retryScheduled || entry.outcome.isSome then
    (entry, none)
  else
    ({ entry with retryScheduled := false }, entry.reusableFrame)

def retryExhausted (entry : ConntrackEntry) (budget : Nat) : Bool :=
  decide (budget ≤ entry.retries)

/-- Completes auth; idempotent after the first completion. -/
def complete (entry : ConntrackEntry) (outcome : AuthOutcome) :
    ConntrackEntry :=
  if entry.outcome.isNone then
    { entry with
      outcome := some outcome
      retryScheduled := false
      reusableFrame := none }
  else
    entry

/-- Settled and idle for at least `idleTtl`. -/
def expired (entry : ConntrackEntry) (idleTtl now : Nat) : Bool :=
  !entry.authInFlight && decide (idleTtl ≤ now - entry.lastUsed)

end ConntrackEntry

/-- Conntrack table keyed by flow and by auth id. -/
structure ConntrackTable where
  nextAuthId : Nat
  byKey : HashTable FlowKey ConntrackEntry
  byId : HashTable Nat FlowKey
  idleTtl : Nat
  capacity : Nat
  lastSweep : Nat

/-- What one prune pass removed. -/
structure PruneOutcome where
  expired : Nat
  evictedForCapacity : Nat
  entries : Nat
  deriving DecidableEq, Repr

inductive ConntrackError where
  | unknownAuthId (authId : Nat)
  deriving DecidableEq, Repr

namespace ConntrackTable

def withLimits (idleTtl capacity now : Nat) : ConntrackTable where
  nextAuthId := 0
  byKey := ∅
  byId := ∅
  idleTtl := idleTtl
  capacity := max capacity 1
  lastSweep := now

/-- `ConntrackTable::new`. -/
def new (now : Nat) : ConntrackTable :=
  withLimits l3ConntrackIdleTtl l3ConntrackCapacity now

def len (table : ConntrackTable) : Nat :=
  table.byKey.entries.length

/-- Invalidates every flow and keeps the auth-id sequence. -/
def clear (table : ConntrackTable) : ConntrackTable × Nat :=
  ({ table with byKey := ∅, byId := ∅ }, table.len)

def scheduledRetries (table : ConntrackTable) : Nat :=
  (HashTable.values table.byKey).countP (·.retryScheduled)

def getByKey (table : ConntrackTable) (key : FlowKey) :
    Option ConntrackEntry :=
  table.byKey.lookup key

def getByAuthId (table : ConntrackTable) (authId : Nat) :
    Option ConntrackEntry :=
  (table.byId.lookup authId).bind table.byKey.lookup

/-- A write through `get_by_auth_id_mut`; a table without the id is unchanged. -/
def modifyByAuthId (table : ConntrackTable) (authId : Nat)
    (change : ConntrackEntry → ConntrackEntry) : ConntrackTable :=
  match table.byId.lookup authId with
  | none => table
  | some key =>
      match table.byKey.lookup key with
      | none => table
      | some entry =>
          { table with byKey := table.byKey.insert key (change entry) }

def evict (table : ConntrackTable) (key : FlowKey) :
    ConntrackTable × Option ConntrackEntry :=
  match table.byKey.lookup key with
  | none => (table, none)
  | some entry =>
      ({ table with
          byKey := table.byKey.erase key
          byId := table.byId.erase entry.authId }, some entry)

def evictByAuthId (table : ConntrackTable) (authId : Nat) :
    ConntrackTable × Option ConntrackEntry :=
  match table.byId.lookup authId with
  | none => (table, none)
  | some key => table.evict key

/-- The capacity loop of `prune_at_with_room`, counting its victims.  Every
turn evicts an entry, so one turn per entry is enough. -/
def trimToCapacity (order : IterationOrder ConntrackEntry) (reserve : Bool) :
    Nat → ConntrackTable → ConntrackTable × Nat
  | 0, table => (table, 0)
  | fuel + 1, table =>
      if table.capacity < table.len ∨
          (reserve = true ∧ table.len = table.capacity) then
        match ((order.arrange (HashTable.values table.byKey)).filter
            fun entry => !entry.authInFlight).argmin (·.lastUsed) with
        | none => (table, 0)
        | some victim =>
            let trimmed :=
              trimToCapacity order reserve fuel (table.evict victim.key).1
            (trimmed.1, trimmed.2 + 1)
      else
        (table, 0)

/-- Removes the keys in order. -/
def evictAll (table : ConntrackTable) (keys : List FlowKey) :
    ConntrackTable :=
  keys.foldl (fun current key => (current.evict key).1) table

def pruneAtWithRoom (table : ConntrackTable)
    (order : IterationOrder ConntrackEntry) (now : Nat) (reserve : Bool) :
    ConntrackTable × PruneOutcome :=
  let expired :=
    ((order.arrange (HashTable.values table.byKey)).filter
      (·.expired table.idleTtl now)).map (·.key)
  let swept := table.evictAll expired
  let trimmed := trimToCapacity order reserve swept.len swept
  (trimmed.1,
    { expired := expired.length
      evictedForCapacity := trimmed.2
      entries := trimmed.1.len })

def pruneAt (table : ConntrackTable)
    (order : IterationOrder ConntrackEntry) (now : Nat) :
    ConntrackTable × PruneOutcome :=
  table.pruneAtWithRoom order now true

/-- Packet fast path: full scans run at most once per second unless the
addressed flow expired or a new flow needs space at capacity. -/
def maintainForFlow (table : ConntrackTable)
    (order : IterationOrder ConntrackEntry) (key : FlowKey) (now : Nat) :
    ConntrackTable × PruneOutcome :=
  let entry := table.byKey.lookup key
  let expired := entry.any (·.expired table.idleTtl now)
  let reserve := entry.isNone
  if expired = false ∧ now - table.lastSweep < second ∧
      (reserve = false ∨ table.len < table.capacity) then
    (table, { expired := 0, evictedForCapacity := 0, entries := table.len })
  else
    ({ table with lastSweep := now } : ConntrackTable).pruneAtWithRoom
      order now reserve

/-- The entry a flow starts with. -/
def freshEntry (key : FlowKey) (authId : Nat) (appId nodeGroupId : String)
    (now : Nat) : ConntrackEntry where
  key := key
  authId := authId
  appId := appId
  nodeGroupId := nodeGroupId
  authStarted := false
  retries := 0
  retryScheduled := false
  authDeadline := none
  reusableFrame := none
  outcome := none
  lastUsed := now

/-- The id that the next creation takes: `fetch_add(1) + 1` on a `u64`. -/
def nextId (table : ConntrackTable) : Nat :=
  (table.nextAuthId + 1) % authIdSpace

/-- Inserts a fresh entry under the next id. -/
def create (table : ConntrackTable) (key : FlowKey)
    (appId nodeGroupId : String) (now : Nat) : ConntrackTable :=
  { table with
    nextAuthId := table.nextId
    byId := table.byId.insert table.nextId key
    byKey := table.byKey.insert key
      (freshEntry key table.nextId appId nodeGroupId now) }

/-- The stored entry belongs to another application or node group. -/
def foreign (appId nodeGroupId : String) (entry : ConntrackEntry) : Bool :=
  entry.appId != appId || entry.nodeGroupId != nodeGroupId

/-- Returns the existing entry with its idle clock refreshed or creates one. -/
def getOrCreateAt (table : ConntrackTable) (key : FlowKey)
    (appId nodeGroupId : String) (now : Nat) : ConntrackTable :=
  let current :=
    if (table.byKey.lookup key).any (foreign appId nodeGroupId) then
      (table.evict key).1
    else
      table
  match current.byKey.lookup key with
  | some entry =>
      { current with
        byKey := current.byKey.insert key { entry with lastUsed := now } }
  | none => current.create key appId nodeGroupId now

/-- Refreshes an existing flow without creating state. -/
def touchAt (table : ConntrackTable) (key : FlowKey) (now : Nat) :
    ConntrackTable × Bool :=
  match table.byKey.lookup key with
  | none => (table, false)
  | some entry =>
      ({ table with
          byKey := table.byKey.insert key { entry with lastUsed := now } },
        true)

/-- The outcome recorded for a parsed `0x93` body. -/
def authOutcome (code : Int) (message connectToken : String) : AuthOutcome :=
  if code ≠ 0 then
    .failed
      (if message = "" then
        "auth failed: " ++ toString code
      else
        "auth failed: " ++ toString code ++ " " ++ message)
  else if connectToken = "" then
    .failed "missing connect token"
  else
    .ready connectToken

def markAuth (table : ConntrackTable) (authId : Nat) (code : Int)
    (message connectToken : String) : Except ConntrackError ConntrackTable :=
  match table.getByAuthId authId with
  | none => .error (.unknownAuthId authId)
  | some _ =>
      .ok (table.modifyByAuthId authId
        (·.complete (authOutcome code message connectToken)))

/-- Records a local error without a server body. -/
def markAuthError (table : ConntrackTable) (authId : Nat)
    (message : String) : Except ConntrackError ConntrackTable :=
  match table.getByAuthId authId with
  | none => .error (.unknownAuthId authId)
  | some _ =>
      .ok (table.modifyByAuthId authId (·.complete (.failed message)))

end ConntrackTable

end HermesAtrust.L3
