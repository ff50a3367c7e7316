import HermesAtrust.Auth.ResourceCache
import Mathlib.Logic.Function.Basic

/-!
# Sessions, generations and the handover between sessions

What the users of `AtrustClient` read from it: the session epoch, the active
session and the resource snapshot each session has published.  A session that
was replaced keeps its number, since whoever took hold of it before may still
read its snapshot.

`replace_session` holds the write lock of the active session from before the
epoch goes up until the new session is in place, so that nobody takes hold of
a session in between; both are one step here.
-/

namespace HermesAtrust.Client

open HermesAtrust.Auth HermesAtrust.Text
open HermesAtrust.Auth.ResourceCache
  (AuthError ResourceSnapshot ResourceTable nextGeneration)

/-- What is read of a `ClientSession`. -/
structure ClientSession where
  snapshot : ResourceSnapshot
  stop : Bool
  invalidated : Bool

namespace ClientSession

/-- A session that has loaded its first resources. -/
def new (resources : ResourceTable) : ClientSession :=
  ⟨ResourceSnapshot.new 1 resources, false, false⟩

/-- What a successful `refresh` publishes. -/
def refresh (session : ClientSession) (resources : ResourceTable) :
    ClientSession :=
  { session with
    snapshot :=
      ResourceSnapshot.new (nextGeneration session.snapshot.generation)
        resources }

end ClientSession

/-- The errors of a client; those that a connection, a packet or a session
manager has caused are given by their text. -/
inductive ClientError where
  | authenticationRequired
  | l3StackRequired
  | closed
  | gatewayMismatch
  | auth (error : AuthError)
  | unauthorized (destination protocol : String)
  | noEndpoints (nodeGroupId : String)
  | other (text : String)
  deriving DecidableEq, Repr

/-- The texts of the errors. -/
def ClientError.message : ClientError → String
  | .authenticationRequired =>
      "gateway session has expired; provide a newly authenticated session"
  | .l3StackRequired =>
      "resource requires TCP over L3; use a packet network stack"
  | .closed => "client session has been closed or replaced"
  | .gatewayMismatch => "replacement session belongs to a different gateway"
  | .auth error => error.toText
  | .unauthorized destination protocol =>
      "the resource table does not authorize " ++ protocol ++
        " destination " ++ destination
  | .noEndpoints nodeGroupId =>
      "node group " ++ nodeGroupId ++
        " has no resolvable data-plane endpoint"
  | .other text => text

abbrev SessionNumber := Nat

structure AtrustClient where
  sessionEpoch : Nat
  active : SessionNumber
  sessions : SessionNumber → ClientSession

namespace AtrustClient

/-- A client with its first session. -/
def start (resources : ResourceTable) : AtrustClient where
  sessionEpoch := 1
  active := 0
  sessions := fun _ => ClientSession.new resources

def activeSession (client : AtrustClient) : ClientSession :=
  client.sessions client.active

/-- `resources`. -/
def resources (client : AtrustClient) : ResourceSnapshot :=
  client.activeSession.snapshot

/-- The epoch and the generation that are current. -/
def current (client : AtrustClient) : Nat × Nat :=
  (client.sessionEpoch, client.resources.generation)

/-- `check_session`. -/
def checkSession (client : AtrustClient) : Except ClientError Unit :=
  if client.activeSession.stop then .error .closed
  else if client.activeSession.invalidated then .error .authenticationRequired
  else .ok ()

/-- `route`. -/
def route (client : AtrustClient) (host : Str) (port : UInt16)
    (protocol : FlowProtocol) : Option MatchedResource :=
  (client.resources.routing.matchDestination host port protocol).map
    Destination.toMatchedResource

/-- A refresh of one of the sessions. -/
def refresh (client : AtrustClient) (session : SessionNumber)
    (resources : ResourceTable) : AtrustClient :=
  { client with
    sessions :=
      Function.update client.sessions session
        ((client.sessions session).refresh resources) }

/-- A refresh that found the session to be invalid. -/
def invalidate (client : AtrustClient) (session : SessionNumber) :
    AtrustClient :=
  { client with
    sessions :=
      Function.update client.sessions session
        { client.sessions session with invalidated := true } }

/-- `shutdown`, as far as others see it. -/
def shutdown (client : AtrustClient) : AtrustClient :=
  { client with
    sessions :=
      Function.update client.sessions client.active
        { client.activeSession with stop := true } }

/-- `replace_session`, after the new session was built. -/
def replaceSession (client : AtrustClient) (resources : ResourceTable) :
    AtrustClient where
  sessionEpoch := (client.sessionEpoch + 1) % 2 ^ 64
  active := client.active + 1
  sessions :=
    Function.update
      (Function.update client.sessions client.active
        { client.activeSession with stop := true })
      (client.active + 1) (ClientSession.new resources)

end AtrustClient

end HermesAtrust.Client
