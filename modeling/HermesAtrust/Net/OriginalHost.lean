import HermesAtrust.Client.Handover
import HermesAtrust.Net.DnsWire
import HermesAtrust.Net.FakeIpPool

/-!
# The host behind an address

`ProxyDialer::original_host`, for a client and a pool that nobody else changes
meanwhile.  Only a host that is an address literal as it stands is looked up
in the pool; any other host is returned in its normal form, which may be an
address literal as well.
-/

namespace HermesAtrust.Net

open HermesAtrust.Auth HermesAtrust.Client HermesAtrust.Collections
open HermesAtrust.L3 HermesAtrust.Text

/-- `io_error` for an error of the client. -/
def ioError (error : ClientError) : IoError :=
  match error with
  | .unauthorized _ _ | .authenticationRequired =>
      ⟨.permissionDenied, error.message⟩
  | .closed => ⟨.connectionReset, error.message⟩
  | .l3StackRequired => ⟨.unsupported, error.message⟩
  | _ => ⟨.other, error.message⟩

def staleFakeIp : IoError :=
  ⟨.permissionDenied, "unknown or stale Fake IP"⟩

def ambiguousAddress : IoError :=
  ⟨.permissionDenied,
    "shared address has ambiguous domain policy; use a hostname or Fake IP"⟩

/-- `original_host`. -/
def originalHost (client : AtrustClient) (pool : FakeIpPool)
    (surroundings : Surroundings) (host : Str) (port : UInt16)
    (protocol : FlowProtocol) : FakeIpPool × Except IoError Str :=
  match client.checkSession with
  | .error error => (pool, .error (ioError error))
  | .ok () =>
      match parseIpv4 host with
      | none => (pool, normalize host)
      | some ip =>
          let epoch := client.sessionEpoch
          let generation := client.resources.generation
          if FakeIpPool.isFake ip then
            let (after, found) := pool.lookup ip epoch generation surroundings
            (after, found.elim (.error staleFakeIp) .ok)
          else
            let (after, names) :=
              pool.realHosts ip epoch generation surroundings
            let covered :=
              names.filter fun name => (client.route name port protocol).isSome
            match covered with
            | [only] => (after, .ok only)
            | _ =>
                if 1 < covered.length ∧
                    client.route host port protocol = none then
                  (after, .error ambiguousAddress)
                else
                  (after, .ok host)

/-! ## Two spellings of one host -/

section Spellings

variable {client : AtrustClient} {pool : FakeIpPool}
  {surroundings : Surroundings} {host : Str} {port : UInt16}
  {protocol : FlowProtocol}

/-- A host that is no address literal is returned in its normal form. -/
theorem originalHost_of_name (checked : client.checkSession = .ok ())
    (name : parseIpv4 host = none) :
    (originalHost client pool surroundings host port protocol).2 =
      normalize host := by
  simp only [originalHost, checked, name]

theorem originalHost_of_error {error : ClientError}
    (checked : client.checkSession = .error error) :
    (originalHost client pool surroundings host port protocol).2 =
      .error (ioError error) := by
  simp only [originalHost, checked]

/-- A Fake IP that the pool does not know is refused. -/
theorem originalHost_of_stale {ip : Ipv4Addr}
    (checked : client.checkSession = .ok ()) (parsed : parseIpv4 host = some ip)
    (fake : FakeIpPool.isFake ip = true) (unknown : pool.fake.lookup ip = none) :
    (originalHost client pool surroundings host port protocol).2 =
      .error staleFakeIp := by
  have missing :
      (pool.lookup ip client.sessionEpoch client.resources.generation
        surroundings).2 = none := by
    rw [FakeIpPool.lookup, FakeIpPool.prune, Option.map_eq_none_iff,
      HashTable.lookup_filterMapValues, unknown, Option.bind_none]
  simp only [originalHost, checked, parsed, fake, if_true]
  rw [missing, Option.elim_none]

/-- A real address that one authorized name is known for stands for it. -/
theorem originalHost_of_only {ip : Ipv4Addr} {name : Str}
    (checked : client.checkSession = .ok ()) (parsed : parseIpv4 host = some ip)
    (isReal : FakeIpPool.isFake ip = false)
    (known :
      (pool.realHosts ip client.sessionEpoch client.resources.generation
        surroundings).2 = [name])
    (routed : (client.route name port protocol).isSome = true) :
    (originalHost client pool surroundings host port protocol).2 =
      .ok name := by
  simp only [originalHost, checked, parsed, isReal, known, Bool.false_eq_true,
    if_false, List.filter_cons, routed, if_true, List.filter_nil]

end Spellings

/-- A client that is authorized for everything at the name `a`. -/
def plainClient : AtrustClient :=
  .start ⟨⟨[], [anyFlowTo ['a'] ['p']]⟩, []⟩

theorem plainClient_checkSession : plainClient.checkSession = .ok () := by
  rfl

theorem plainClient_route :
    (plainClient.route ['a'] 443 .tcp).isSome = true := by
  have literal : parseIpv4 (trim ['a']) = none := by decide
  have normalized : normalizeHost ['a'] = some ['a'] := by decide
  have authorized :
      authorizes ['a'] ⟨['a'], 443, .tcp⟩ (anyFlowTo ['a'] ['p']) = true := by
    decide
  rw [AtrustClient.route, Option.isSome_map, Option.isSome_iff_ne_none]
  change
    (ResourceIndex.build ⟨[], [anyFlowTo ['a'] ['p']]⟩).matchDestination ['a']
      443 .tcp ≠ none
  simp only [ResourceIndex.matchDestination, literal, ne_eq,
    Option.map_eq_none_iff]
  rw [matchDomain_eq_none_iff normalized]
  intro rejected
  have refused := rejected _ List.mem_cons_self
  rw [authorized] at refused
  cases refused

/-- A pool that knows the name `a` for an address. -/
def poolOf (ip : Ipv4Addr) : FakeIpPool :=
  { FakeIpPool.new 1 with
    real := (∅ : HashTable Ipv4Addr (List Binding)).insert ip
      [⟨['a'], 1, 1, 1⟩] }

/-- Time stands still. -/
def stillness : Surroundings where
  check := fun _ => 0
  stamp := 0
  order := .stored

theorem poolOf_realHosts (ip : Ipv4Addr) :
    ((poolOf ip).realHosts ip 1 1 stillness).2 = [['a']] := by
  rw [FakeIpPool.realHosts, FakeIpPool.prune]
  simp only [HashTable.lookup_filterMapValues, poolOf, AList.lookup_insert]
  rfl

/-- A host gives the same result as its normal form in every state, at every
port and under every protocol exactly if it is an address literal as it stands
or its normal form is none. -/
theorem original_host_spelling {host normalized : Str}
    (known : normalize host = .ok normalized) :
    (∀ client pool surroundings port protocol,
      (originalHost client pool surroundings host port protocol).2 =
        (originalHost client pool surroundings normalized port protocol).2) ↔
      (parseIpv4 host).isSome = true ∨ parseIpv4 normalized = none := by
  constructor
  · intro same
    by_contra escapes
    rw [not_or, Bool.not_eq_true, Option.isSome_eq_false_iff,
      Option.isNone_iff_eq_none] at escapes
    obtain ⟨name, literal⟩ := escapes
    obtain ⟨ip, parsed⟩ := Option.ne_none_iff_exists'.mp literal
    have spelled :
        ∀ pool,
          (originalHost plainClient pool stillness host 443 .tcp).2 =
            .ok normalized := by
      intro pool
      rw [originalHost_of_name plainClient_checkSession name, known]
    cases kind : FakeIpPool.isFake ip with
    | true =>
        have refused :=
          @originalHost_of_stale plainClient (FakeIpPool.new 1) stillness
            normalized 443 .tcp ip plainClient_checkSession parsed kind
            (AList.lookup_empty ip)
        rw [← same, spelled] at refused
        cases refused
    | false =>
        have renamed :=
          @originalHost_of_only plainClient (poolOf ip) stillness normalized 443
            .tcp ip ['a'] plainClient_checkSession parsed kind
            (poolOf_realHosts ip) plainClient_route
        rw [← same, spelled] at renamed
        cases renamed
        have noLiteral : parseIpv4 ['a'] = none := by decide
        rw [noLiteral] at parsed
        cases parsed
  · intro spelling client pool surroundings port protocol
    rcases spelling with literal | name
    · obtain ⟨ip, parsed⟩ := Option.isSome_iff_exists.mp literal
      rw [(isNormal_of_parseIpv4 parsed).normalize_eq] at known
      cases known
      rfl
    · cases spelled : parseIpv4 host with
      | some ip =>
          rw [(isNormal_of_parseIpv4 spelled).normalize_eq] at known
          cases known
          rfl
      | none =>
          cases checked : client.checkSession with
          | error error =>
              rw [originalHost_of_error checked, originalHost_of_error checked]
          | ok _ =>
              rw [originalHost_of_name checked spelled,
                originalHost_of_name checked name, known,
                normalize_idempotent known]

theorem original_host_spelling_portal :
    normalize "Portal.test.".toList = .ok "portal.test".toList ∧
      ∀ client pool surroundings port protocol,
        (originalHost client pool surroundings "Portal.test.".toList port
            protocol).2 =
          (originalHost client pool surroundings "portal.test".toList port
            protocol).2 := by
  have known :
      normalize "Portal.test.".toList = .ok "portal.test".toList := by
    decide
  exact ⟨known, (original_host_spelling known).mpr (.inr (by decide))⟩

/-- With a dot at its end a Fake IP that nobody knows is not refused. -/
theorem original_host_accepts_dotted_fake_ip :
    normalize "198.18.0.5.".toList = .ok "198.18.0.5".toList ∧
      (originalHost plainClient (FakeIpPool.new 8192) stillness
          "198.18.0.5.".toList 443 .tcp).2 =
        .ok "198.18.0.5".toList ∧
      (originalHost plainClient (FakeIpPool.new 8192) stillness
          "198.18.0.5".toList 443 .tcp).2 =
        .error staleFakeIp := by
  have known :
      normalize "198.18.0.5.".toList = .ok "198.18.0.5".toList := by
    decide
  refine ⟨known, ?_, ?_⟩
  · rw [originalHost_of_name plainClient_checkSession (by decide), known]
  · exact originalHost_of_stale plainClient_checkSession
      (by decide : parseIpv4 "198.18.0.5".toList = some ⟨198, 18, 0, 5⟩)
      (by decide) (AList.lookup_empty _)

end HermesAtrust.Net
