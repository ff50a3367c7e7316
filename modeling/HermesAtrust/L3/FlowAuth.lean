import HermesAtrust.L3.Packet
import HermesAtrust.Protocol.L3Frame

/-!
# Building and applying per-flow authorization frames

Model of `auth.rs`: the signed `0x13` request of one conntrack entry, and what
a `0x93` response does to the table.
-/

namespace HermesAtrust.L3

open HermesAtrust.Framing HermesAtrust.Protocol

/-- Classification of the outer status of an auth response. -/
inductive AuthWireDisposition where
  | settled
  | retryImmediate
  | retryDelayed (status : UInt8)
  | terminal (status : UInt8)
  deriving DecidableEq, Repr

def classifyAuthWireStatus (status : UInt8) : AuthWireDisposition :=
  if status = 0 then
    .settled
  else if status = 0x84 then
    .retryImmediate
  else if 0x85 ≤ status ∧ status ≤ 0x87 then
    .retryDelayed status
  else
    .terminal status

/-- The dispositions the read loop may answer with a retry. -/
def AuthWireDisposition.transient : AuthWireDisposition → Bool
  | .retryImmediate => true
  | .retryDelayed _ => true
  | _ => false

inductive FlowAuthError where
  | protocol (error : L3AuthError)
  | frame (error : L3FrameError)
  | conntrack (error : ConntrackError)
  | missingConntrackHash
  | wireStatus (status : UInt8)
  | authFailed (message : String)
  deriving DecidableEq, Repr

/-- Builds a signed `0x13` frame for one conntrack entry. -/
def buildFlowAuthFrame (codec : L3AuthCodec) (ctx : L3AuthContext)
    (appId : String) (authId : Nat) (fiveTuple : L3AuthFiveTuple) :
    Except FlowAuthError Bytes :=
  match buildSignedL3AuthJsonForDomain codec ctx appId authId fiveTuple with
  | .error error => .error (.protocol error)
  | .ok json =>
      match encodeL3AuthReq json with
      | .error error => .error (.frame error)
      | .ok frame => .ok frame

/-- Applies the JSON body of a `0x93` with wire status `0`. -/
def applyAuthResponseJson (codec : L3AuthCodec) (table : ConntrackTable)
    (json : Bytes) : Except FlowAuthError (ConntrackTable × L3AuthResponse) :=
  match parseL3AuthResponse codec json with
  | .error error => .error (.protocol error)
  | .ok resp =>
      if resp.conntrackHash = 0 then
        .error .missingConntrackHash
      else
        match table.markAuth resp.conntrackHash resp.code resp.message
            resp.connectToken with
        | .error error => .error (.conntrack error)
        | .ok marked => .ok (marked, resp)

/-- The lower-case digit of a value below sixteen. -/
def hexDigit (value : Nat) : Char :=
  (("0123456789abcdef").toList).getD value '0'

/-- `{status:#04x}`. -/
def hexStatus (status : UInt8) : String :=
  "0x" ++ String.ofList
    [hexDigit (status.toNat / 16), hexDigit (status.toNat % 16)]

/-- Applies a `0x93` of any status to the table and reports the auth id that
it settled. -/
def applyAuthWireStatus (codec : L3AuthCodec) (table : ConntrackTable)
    (status : UInt8) (json : Bytes) :
    Except FlowAuthError (ConntrackTable × Nat) :=
  if classifyAuthWireStatus status = .settled then
    match applyAuthResponseJson codec table json with
    | .error error => .error error
    | .ok (marked, resp) => .ok (marked, resp.conntrackHash)
  else
    match parseL3AuthResponse codec json with
    | .error _ => .error (.wireStatus status)
    | .ok resp =>
        if resp.conntrackHash = 0 then
          .error (.wireStatus status)
        else
          match table.markAuthError resp.conntrackHash
              ("auth status " ++ hexStatus status) with
          | .error error => .error (.conntrack error)
          | .ok marked => .ok (marked, resp.conntrackHash)

example : hexStatus 0x01 = "0x01" ∧ hexStatus 0x8a = "0x8a" := by
  decide

/-- An accepted response completes the live entry it names.  A grant needs
wire status `0`, code `0` and the token of the body. -/
theorem applyAuthWireStatus_ok {codec : L3AuthCodec}
    {table marked : ConntrackTable} {status : UInt8} {json : Bytes}
    {authId : Nat}
    (applied :
      applyAuthWireStatus codec table status json = .ok (marked, authId)) :
    ∃ entry outcome, table.getByAuthId authId = some entry ∧
      marked = table.modifyByAuthId authId (·.complete outcome) ∧
      ∀ connectToken, outcome = .ready connectToken →
        status = 0 ∧ ∃ response,
          parseL3AuthResponse codec json = .ok response ∧
            response.code = 0 ∧ response.connectToken = connectToken ∧
            connectToken ≠ "" ∧ response.conntrackHash = authId := by
  unfold applyAuthWireStatus at applied
  split at applied
  · rename_i settled
    split at applied
    · cases applied
    · rename_i accepted response body
      cases applied
      unfold applyAuthResponseJson at body
      split at body
      · cases body
      · rename_i parsed
        split at body
        · cases body
        · split at body
          · cases body
          · rename_i completed marks
            cases body
            unfold ConntrackTable.markAuth at marks
            split at marks
            · cases marks
            · rename_i entry live
              cases marks
              refine ⟨entry, _, live, rfl, ?_⟩
              intro connectToken grants
              unfold ConntrackTable.authOutcome at grants
              split at grants
              · cases grants
              · rename_i code
                split at grants
                · cases grants
                · rename_i nonempty
                  cases grants
                  refine ⟨?_, response, parsed, not_not.mp code, rfl,
                    nonempty, rfl⟩
                  by_contra nonzero
                  unfold classifyAuthWireStatus at settled
                  rw [if_neg nonzero] at settled
                  split at settled
                  · cases settled
                  · split at settled <;> cases settled
  · split at applied
    · cases applied
    · rename_i response parsed
      split at applied
      · cases applied
      · split at applied
        · cases applied
        · rename_i completed marks
          cases applied
          unfold ConntrackTable.markAuthError at marks
          split at marks
          · cases marks
          · rename_i entry live
            cases marks
            refine ⟨entry, _, live, rfl, ?_⟩
            intro connectToken grants
            cases grants

end HermesAtrust.L3
