import HermesAtrust.Client.Nodes
import HermesAtrust.L3.ManagerCache
import HermesAtrust.L3.ManagerEndpoints

/-!
# Dispatching packets while the resource table changes

Model of `dispatch` together with what runs beside it: refreshes of the
resource table, the reconciler, the task that measures the nodes, and the
session managers.  A dispatch reads one snapshot, finds its route there, asks
`NodeSelector` for the endpoints of the node group, looks up the manager of the
group, and authorizes the packet on the session that the manager gives to it.

The measurement of a node group is one step, since `NodeSelector` keeps its
lock during the measurement.  The endpoints of the managers are those in the
model of the cache.  A retry may follow any failure; how many retries there are
does not matter here.
-/

namespace HermesAtrust.Client.Dispatch

open HermesAtrust.Auth (FlowProtocol MatchedResource)
open HermesAtrust.Auth.ResourceCache
  (NodeGroup ResourceTable nextGeneration maxGeneration)
open HermesAtrust.Client.Nodes
open HermesAtrust.Collections HermesAtrust.Concurrency HermesAtrust.Framing
open HermesAtrust.L3 HermesAtrust.Protocol HermesAtrust.Text
open HermesAtrust.L3.ManagerCache (ManagerId Supply)
open HermesAtrust.L3.Manager (SessionRef SessionView)

/-- `flow_protocol`. -/
def flowProtocol : L3IpProtocol → FlowProtocol
  | .tcp => .tcp
  | .udp => .udp
  | .icmp => .icmp

/-- `scheme`. -/
def scheme : L3IpProtocol → String
  | .icmp => "icmp"
  | .tcp => "tcp"
  | .udp => "udp"

/-- What of `ClientError` a dispatch returns, with what it carries. -/
inductive DispatchError where
  | packet (error : PacketError)
  | unauthorized (destination protocol : String)
  | noEndpoints (nodeGroupId : Str)
  | manager (error : Manager.ManagerError)
  | vipChanged (packetSource sessionVip : Ipv4Addr)

/-- What a dispatch has found out about its packet, and the snapshot that it
has read for it. -/
structure Routed where
  flow : Ipv4Flow
  snapshot : Snapshot
  route : MatchedResource

/-- The name of the node group among the managers. -/
def Routed.key (origin : Routed) : String :=
  String.ofList origin.route.nodeGroupId

/-- Where a dispatch stands. -/
inductive Phase where
  | routed (origin : Routed)
  | offered (origin : Routed) (endpoints : List L3NodeEndpoint)
  | holding (origin : Routed) (manager : ManagerId)
  | requested (origin : Routed) (manager : ManagerId)
      (request : Manager.CallId)
  | received (origin : Routed) (manager : ManagerId) (session : SessionRef)
  | authorized (origin : Routed) (manager : ManagerId) (session : SessionRef)
      (endpoint : L3NodeEndpoint)
  | sent (origin : Routed) (session : SessionRef)
      (endpoint : L3NodeEndpoint)
  | failed (error : DispatchError)

namespace Phase

def origin : Phase → Option Routed
  | .routed origin => some origin
  | .offered origin _ => some origin
  | .holding origin _ => some origin
  | .requested origin _ _ => some origin
  | .received origin _ _ => some origin
  | .authorized origin _ _ _ => some origin
  | .sent origin _ _ => some origin
  | .failed _ => none

/-- The manager that the dispatch goes on to use. -/
def uses : Phase → Option ManagerId
  | .holding _ manager => some manager
  | .requested _ manager _ => some manager
  | .received _ manager _ => some manager
  | .authorized _ manager _ _ => some manager
  | _ => none

/-- The endpoint of the session on which the packet was authorized. -/
def endpoint : Phase → Option L3NodeEndpoint
  | .authorized _ _ _ endpoint => some endpoint
  | .sent _ _ endpoint => some endpoint
  | _ => none

end Phase

/-- The beginning of `dispatch`. -/
def start (snapshot : Snapshot) (packet : Bytes) (domain : Option Str) :
    Phase :=
  match parseIpv4Flow packet with
  | .error error => .failed (.packet error)
  | .ok flow =>
      match snapshot.routing.matchDestination
          (domain.getD flow.dstAddr.text.toList) flow.dstPort
          (flowProtocol flow.protocol) with
      | none =>
          .failed
            (.unauthorized
              (flow.dstAddr.text ++ ":" ++ toString flow.dstPort.toNat)
              (scheme flow.protocol))
      | some destination =>
          .routed ⟨flow, snapshot, destination.toMatchedResource⟩

/-- The task that measures the nodes: between two passes, before a group of its
snapshot, or with the endpoints of a group. -/
inductive Probing where
  | resting
  | measuring (snapshot : Snapshot) (groups : List NodeGroup)
  | measured (snapshot : Snapshot) (group : Str)
      (endpoints : List L3NodeEndpoint) (later : List NodeGroup)

def Probing.snapshot : Probing → Option Snapshot
  | .resting => none
  | .measuring snapshot _ => some snapshot
  | .measured snapshot _ _ _ => some snapshot

abbrev DispatchId := Nat

/-- The client.  `published` keeps record of the table of every generation, and
`groupOf` of the node group that every manager was made for. -/
structure State where
  current : Snapshot
  published : Nat → ResourceTable
  rankings : Rankings
  cache : ManagerCache.State
  managers : ManagerId → Manager.State
  groupOf : ManagerId → Str
  reconciling : Option Snapshot
  probing : Probing
  dispatches : DispatchId → Option Phase

/-- A client with its first table. -/
def new (table : ResourceTable) : State where
  current := .new 1 table
  published := fun _ => table
  rankings := ∅
  cache := ManagerCache.new
  managers := fun _ => Manager.new "" []
  groupOf := fun _ => []
  reconciling := none
  probing := .resting
  dispatches := fun _ => none

inductive Action where
  | refresh (table : ResourceTable)
  | dispatch (call : DispatchId) (packet : Bytes) (domain : Option Str)
  | select (call : DispatchId) (fresh : Bool)
      (measurements : List NodeTlsProbeResult)
  | lookup (call : DispatchId)
  | request (call : DispatchId)
  | receive (call : DispatchId)
  | authorize (call : DispatchId)
  | send (call : DispatchId)
  | retry (call : DispatchId)
  | drop (call : DispatchId)
  | beginReconcile
  | reconcile
  | finishUpdate (position : Nat)
  | beginProbe
  | probe (fresh : Bool) (measurements : List NodeTlsProbeResult)
  | applyProbe
  | manager (manager : ManagerId) (action : Manager.Action)

namespace State

/-- A manager with the endpoints that it was given last. -/
def manager (state : State) (manager : ManagerId) : Manager.State :=
  { state.managers manager with endpoints := state.cache.endpoints manager }

def setPhase (state : State) (call : DispatchId) (phase : Phase) : State :=
  { state with
    dispatches := Function.update state.dispatches call (some phase) }

/-- A refresh publishes its table. -/
def refresh (state : State) (table : ResourceTable) : State :=
  let generation := nextGeneration state.current.generation
  { state with
    current := .new generation table
    published := Function.update state.published generation table }

/-- The endpoints for a dispatch. -/
def select (config : AtrustClientConfig) (state : State) (call : DispatchId)
    (origin : Routed) (fresh : Bool)
    (measurements : List NodeTlsProbeResult) : Option State :=
  match selectEndpoints config state.rankings origin.snapshot
      origin.route.nodeGroupId fresh measurements with
  | none => none
  | some (endpoints, rankings) =>
      some
        ({ state with rankings := rankings }.setPhase call
          (if endpoints = [] then
            .failed (.noEndpoints origin.route.nodeGroupId)
          else
            .offered origin endpoints))

/-- The manager for a dispatch. -/
def lookup (state : State) (call : DispatchId) (origin : Routed)
    (endpoints : List L3NodeEndpoint) : State :=
  let cache :=
    state.cache.managerForGeneration origin.key endpoints
      origin.snapshot.generation
  match state.cache.cached.lookup origin.key with
  | some entry =>
      { state with cache := cache }.setPhase call
        (.holding origin entry.manager)
  | none =>
      let manager := state.cache.nextManager
      { state with
          cache := cache
          managers :=
            Function.update state.managers manager
              (Manager.new origin.key endpoints)
          groupOf :=
            Function.update state.groupOf manager origin.route.nodeGroupId }
        |>.setPhase call (.holding origin manager)

/-- The dispatch calls `session`. -/
def request (state : State) (call : DispatchId) (origin : Routed)
    (manager : ManagerId) : Option State :=
  (Manager.next (state.manager manager) (.call .session)).map fun called =>
    { state with managers := Function.update state.managers manager called }
      |>.setPhase call
        (.requested origin manager (state.managers manager).nextCall)

/-- `session` returns. -/
def receive (state : State) (call : DispatchId) (origin : Routed)
    (manager : ManagerId) (request : Manager.CallId) : Option State :=
  match (state.managers manager).calls request with
  | some (.session (.returned (.ok session))) =>
      some (state.setPhase call (.received origin manager session))
  | some (.session (.returned (.error error))) =>
      some (state.setPhase call (.failed (.manager error)))
  | _ => none

/-- `authorize_flow` succeeds on a session that is not closed. -/
def authorize (state : State) (call : DispatchId) (origin : Routed)
    (manager : ManagerId) (session : SessionRef) : Option State :=
  match (state.managers manager).sessions session with
  | none => none
  | some view =>
      if view.vip ≠ origin.flow.srcAddr then
        some
          (state.setPhase call
            (.failed (.vipChanged origin.flow.srcAddr view.vip)))
      else if view.closed then
        none
      else
        some
          (state.setPhase call
            (.authorized origin manager session view.endpoint))

/-- The pass of the node task goes on with the next group. -/
def probe (config : AtrustClientConfig) (state : State) (snapshot : Snapshot)
    (group : NodeGroup) (later : List NodeGroup) (fresh : Bool)
    (measurements : List NodeTlsProbeResult) : Option State :=
  (selectEndpoints config state.rankings snapshot group.id fresh
      measurements).map fun (endpoints, rankings) =>
    { state with
      rankings := rankings
      probing := .measured snapshot group.id endpoints later }

/-- The state after a step, if the step is possible. -/
def step (config : AtrustClientConfig) (state : State) :
    Action → Option State
  | .refresh table => some (state.refresh table)
  | .dispatch call packet domain =>
      match state.dispatches call with
      | some _ => none
      | none =>
          some (state.setPhase call (start state.current packet domain))
  | .select call fresh measurements =>
      match state.dispatches call with
      | some (.routed origin) =>
          state.select config call origin fresh measurements
      | _ => none
  | .lookup call =>
      match state.dispatches call with
      | some (.offered origin endpoints) =>
          some (state.lookup call origin endpoints)
      | _ => none
  | .request call =>
      match state.dispatches call with
      | some (.holding origin manager) => state.request call origin manager
      | _ => none
  | .receive call =>
      match state.dispatches call with
      | some (.requested origin manager request) =>
          state.receive call origin manager request
      | _ => none
  | .authorize call =>
      match state.dispatches call with
      | some (.received origin manager session) =>
          state.authorize call origin manager session
      | _ => none
  | .send call =>
      match state.dispatches call with
      | some (.authorized origin _ session endpoint) =>
          some (state.setPhase call (.sent origin session endpoint))
      | _ => none
  | .retry call =>
      match state.dispatches call with
      | some (.received origin manager _) =>
          some (state.setPhase call (.holding origin manager))
      | some (.authorized origin manager _ _) =>
          some (state.setPhase call (.holding origin manager))
      | _ => none
  | .drop call =>
      some
        { state with
          dispatches := Function.update state.dispatches call none }
  | .beginReconcile =>
      match state.reconciling with
      | some _ => none
      | none =>
          if state.cache.pending = [] then
            some { state with reconciling := some state.current }
          else
            none
  | .reconcile =>
      match state.reconciling with
      | none => none
      | some snapshot =>
          some
            { state with
              reconciling := none
              cache :=
                state.cache.reconcile snapshot.generation
                  (reconciledGroups config snapshot.resources) }
  | .finishUpdate position =>
      (state.cache.finishUpdate position).map fun cache =>
        { state with cache := cache }
  | .beginProbe =>
      match state.probing with
      | .resting =>
          if config.measuresNodes then
            some
              { state with
                probing :=
                  .measuring state.current
                    state.current.resources.nodeGroups }
          else
            none
      | _ => none
  | .probe fresh measurements =>
      match state.probing with
      | .measuring _ [] => some { state with probing := .resting }
      | .measuring snapshot (group :: later) =>
          state.probe config snapshot group later fresh measurements
      | _ => none
  | .applyProbe =>
      match state.probing with
      | .measured snapshot group endpoints later =>
          some
            { state with
              cache :=
                state.cache.updateEndpointsForGeneration
                  (String.ofList group) endpoints snapshot.generation
              probing := .measuring snapshot later }
      | _ => none
  | .manager _ (.updateEndpoints _) => none
  | .manager manager action =>
      (Manager.next (state.manager manager) action).map fun after =>
        { state with
          managers := Function.update state.managers manager after }

end State

end HermesAtrust.Client.Dispatch
