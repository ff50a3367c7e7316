import HermesAtrust.Client.HostPort
import HermesAtrust.Client.Placeholder

/-!
# Advertised nodes

An item of a node group has an address and may have a port of its own.  The
table keeps the address with the port attached, unless the address has one;
the host of the gateway is put in only afterwards.  Whether the host needs
brackets is decided before that.
-/

namespace HermesAtrust.Client.Nodes

open HermesAtrust.Auth.ResourceCache (NodeAddress)
open HermesAtrust.Client.Replacement (GatewayEndpoint)
open HermesAtrust.L3 HermesAtrust.Text

/-- `WirePort`; of a number counts what `as_u64` makes of it. -/
inductive WirePort where
  | string (port : Str)
  | number (port : Option UInt64)
  | other

/-- `WirePort::get`. -/
def WirePort.get : WirePort → Option UInt16
  | .string port => (parseU16 port).filter (· != 0)
  | .number port =>
      (port.bind fun port =>
        if port.toNat < 2 ^ 16 then some port.toUInt16 else none).filter
          (· != 0)
  | .other => none

structure NodeAddressItem where
  address : Str
  addressType : Str
  port : Option WirePort

/-- `node_address_with_wire_port`. -/
def nodeAddressWithWirePort (address : Str) (port : Option WirePort) : Str :=
  match port.bind WirePort.get with
  | none => address
  | some port =>
      match splitHostPort address port with
      | none => address
      | some (host, resolvedPort) =>
          if ':' ∈ host then
            '[' :: host ++ ']' :: ':' :: portText resolvedPort
          else
            host ++ ':' :: portText resolvedPort

/-- The address that the table keeps of an item. -/
def NodeAddressItem.nodeAddress (item : NodeAddressItem) : NodeAddress :=
  ⟨nodeAddressWithWirePort item.address item.port, item.addressType⟩

/-- The port of an address that has none of its own. -/
def NodeAddressItem.defaultPort (item : NodeAddressItem) : UInt16 :=
  (item.port.bind WirePort.get).getD defaultNodePort

/-- The endpoint that the item advertises: the host of its address, with the
host of the gateway put in, and the port of its address or of its own. -/
def Denotes (item : NodeAddressItem) (gateway : GatewayEndpoint)
    (endpoint : L3NodeEndpoint) : Prop :=
  ∃ host embedded, Names (trim item.address) host embedded ∧ host ≠ [] ∧
    endpoint =
      ⟨String.ofList (substituted gateway host),
        embedded.getD item.defaultPort⟩

/-- The item is resolved to what it advertises. -/
def ResolvedAsAdvertised (item : NodeAddressItem)
    (gateway : GatewayEndpoint) : Prop :=
  ∀ endpoint,
    resolveNodeAddress item.nodeAddress gateway = some endpoint ↔
      Denotes item gateway endpoint

/-- The form the host is kept in suits the host with the gateway put in. -/
def SuitsForm (item : NodeAddressItem) (gateway : GatewayEndpoint)
    (host : Str) (embedded : Option UInt16) : Prop :=
  let resolved := substituted gateway host
  if (item.port.bind WirePort.get).isSome then
    if ':' ∈ host then
      ']' ∉ resolved
    else
      ':' ∉ resolved ∧
        ∀ char, resolved.head? = some char →
          char ≠ '[' ∧ isWhitespace char = false
  else if (trim item.address).head? = some '[' then
    ']' ∉ resolved
  else
    resolved.head? ≠ some '[' ∧
      if embedded.isSome then ':' ∉ resolved else resolved.count ':' ≠ 1

/-- Every host named by the address suits its form, and an address that names
none does not come to name one. -/
def KeepsForm (item : NodeAddressItem) (gateway : GatewayEndpoint) : Prop :=
  (∀ host embedded, Names (trim item.address) host embedded → host ≠ [] →
    SuitsForm item gateway host embedded) ∧
  ((¬ ∃ host embedded, Names (trim item.address) host embedded ∧
      host ≠ []) →
    ¬ ∃ host embedded,
      Names (substituted gateway (trim item.address)) host embedded ∧
        host ≠ [])

section

variable {item : NodeAddressItem} {gateway : GatewayEndpoint}
  {endpoint : L3NodeEndpoint} {host : Str} {embedded : Option UInt16}

theorem denotes_iff :
    Denotes item gateway endpoint ↔
      ∃ host port,
        splitHostPort item.address item.defaultPort = some (host, port) ∧
          host ≠ [] ∧
          endpoint = ⟨String.ofList (substituted gateway host), port⟩ := by
  constructor
  · rintro ⟨host, embedded, named, nonempty, same⟩
    refine ⟨host, _, ?_, nonempty, same⟩
    exact splitHostPort_eq_some_iff.mpr ⟨embedded, named, rfl⟩
  · rintro ⟨host, port, split, nonempty, same⟩
    obtain ⟨embedded, named, rfl⟩ := splitHostPort_eq_some_iff.mp split
    exact ⟨host, embedded, named, nonempty, same⟩

theorem defaultPort_ne_zero : item.defaultPort ≠ 0 := by
  unfold NodeAddressItem.defaultPort
  cases given : item.port.bind WirePort.get with
  | none => decide
  | some port =>
      obtain ⟨wire, -, read⟩ := Option.bind_eq_some_iff.mp given
      rw [Option.getD_some]
      cases wire with
      | string text =>
          exact bne_iff_ne.mp (Option.filter_eq_some_iff.mp read).2
      | number value =>
          exact bne_iff_ne.mp (Option.filter_eq_some_iff.mp read).2
      | other => cases read

theorem getD_ne_zero {text : Str} (named : Names text host embedded) :
    embedded.getD item.defaultPort ≠ 0 := by
  cases embedded with
  | none => exact defaultPort_ne_zero
  | some port => exact named.nonzero

/-- A separator is not in the placeholder. -/
theorem separators_absent :
    '[' ∉ sdpcHostPlaceholder ∧ ']' ∉ sdpcHostPlaceholder ∧
      ':' ∉ sdpcHostPlaceholder := by
  decide

theorem substituted_bracketed (inner : Str) :
    substituted gateway ('[' :: inner ++ [']']) =
      '[' :: substituted gateway inner ++ [']'] := by
  have ending := @substituted_append_cons gateway _ separators_absent.2.1
    inner []
  rw [List.cons_append, substituted_cons separators_absent.1, ending]
  rfl

section

variable {digits : Str} {port : UInt16} (isPort : IsPort digits port)

include isPort

theorem substituted_withPort (before : Str) :
    substituted gateway (before ++ ':' :: digits) =
      substituted gateway before ++ ':' :: digits := by
  have unchanged := @substituted_eq_self gateway _ (isPort.notMem (by decide))
  rw [substituted_append_cons separators_absent.2.2, unchanged]

theorem substituted_bracketedPort (inner : Str) :
    substituted gateway ('[' :: inner ++ ']' :: ':' :: digits) =
      '[' :: substituted gateway inner ++ ']' :: ':' :: digits := by
  have ending := @substituted_append_cons gateway _ separators_absent.2.1
    inner (':' :: digits)
  have unchanged := @substituted_withPort gateway _ _ isPort []
  rw [List.nil_append] at unchanged
  rw [List.cons_append, substituted_cons separators_absent.1, ending,
    unchanged]
  rfl

/-- A port does not end with white space. -/
theorem getLast_port {before : Str} {separator char : Char}
    (last : (before ++ separator :: digits).getLast? = some char) :
    isWhitespace char = false := by
  have member := isPort.mem_of_getLast last
  rcases digit_or_sign isPort member with digit | sign
  · exact isWhitespace_of_isDigit digit
  · rw [sign]
    decide

/-- A colon and a port name no host. -/
theorem hostless_of_port {form : Option UInt16}
    (named : Names ([] ++ ':' :: digits) host form) : host = [] := by
  generalize text : [] ++ ':' :: digits = written at named
  cases named with
  | bracketed closed => cases text
  | bracketedPort closed other => cases text
  | bare nonempty plain colons =>
      rw [← text, List.nil_append, List.count_cons_self,
        List.count_eq_zero.mpr (colon_notMem isPort)] at colons
      exact absurd rfl colons
  | withPort nonempty plain single other =>
      exact (cut_at_last_colon (colon_notMem isPort) (colon_notMem other)
        text).1.symm

end

/-- There is no placeholder in an address without a host. -/
theorem brace_notMem_of_hostless {text : Str}
    (named : Names text [] embedded) : '\x7b' ∉ text := by
  generalize empty : ([] : Str) = host at named
  cases named with
  | bracketed closed =>
      rw [← empty]
      decide
  | bracketedPort closed isPort =>
      rw [← empty]
      have absent : '\x7b' ∉ _ := isPort.notMem (by decide)
      simp [absent]
  | bare nonempty plain colons => exact absurd empty.symm nonempty
  | withPort nonempty plain single isPort => exact absurd empty.symm nonempty

/-! ## What is resolved -/

section

variable {gatewayHost : Str} {gatewayPort : UInt16}
  (created : newGatewayEndpoint gatewayHost gatewayPort = .ok gateway)

include created

/-- An address is resolved to what it names with the host of the gateway put
in. -/
theorem resolveNodeAddress_eq_some_iff {address : NodeAddress} :
    resolveNodeAddress address gateway = some endpoint ↔
      ∃ host embedded,
        Names (substituted gateway (trim address.address)) host embedded ∧
          host ≠ [] ∧
          endpoint =
            ⟨String.ofList host, embedded.getD defaultNodePort⟩ := by
  unfold resolveNodeAddress
  simp only
  by_cases empty : trim address.address = []
  · rw [if_pos empty, empty, (substituted_eq_nil_iff created).mpr rfl]
    constructor
    · intro absurdity
      cases absurdity
    · rintro ⟨host, embedded, named, nonempty, -⟩
      exact absurd rfl named.ne_nil
  · rw [if_neg empty]
    have kept := trim_substituted created address.address
    unfold substituted at kept ⊢
    constructor
    · intro resolved
      split at resolved
      · cases resolved
      · next host port split =>
          split at resolved
          · cases resolved
          · next nonempty =>
              cases resolved
              obtain ⟨embedded, named, rfl⟩ :=
                splitHostPort_eq_some_iff.mp split
              rw [kept] at named
              exact ⟨host, embedded, named, nonempty, rfl⟩
    · rintro ⟨host, embedded, named, nonempty, rfl⟩
      have split :=
        (@splitHostPort_eq_some_iff _ host defaultNodePort _).mpr
          ⟨embedded, kept.symm ▸ named, rfl⟩
      rw [split]
      simp only
      rw [if_neg nonempty]

/-- Without a port of its own an item keeps its address. -/
theorem names_plain_iff (portless : item.port.bind WirePort.get = none)
    (named : Names (trim item.address) host embedded) (nonempty : host ≠ [])
    {form : Option UInt16} :
    Names (substituted gateway (trim item.address))
        (substituted gateway host) form ↔
      SuitsForm item gateway host embedded ∧ form = embedded := by
  unfold SuitsForm
  rw [portless]
  have present : substituted gateway host ≠ [] :=
    mt (substituted_eq_nil_iff created).mp nonempty
  generalize trim item.address = text at named ⊢
  cases named with
  | bracketed closed =>
      rw [substituted_bracketed, names_bracketed_iff]
      simp
  | bracketedPort closed isPort =>
      rw [substituted_bracketedPort isPort, names_bracketedPort_iff isPort]
      simp
  | bare _ plain colons =>
      rw [names_bare_iff]
      simp [plain, present, and_assoc]
  | @withPort _ digits port _ plain single isPort =>
      have unopened : (host ++ ':' :: digits).head? ≠ some '[' := by
        rw [List.head?_append_of_ne_nil _ nonempty]
        exact plain
      rw [substituted_withPort isPort, names_withPort_iff isPort]
      simp only [Option.isSome_none, Option.isSome_some, Bool.false_eq_true,
        if_false, if_true, if_neg unopened]
      tauto

omit created in
/-- White space before a host stays there. -/
theorem substituted_append_of_whitespace {before after : Str}
    (blank : ∀ char ∈ before, isWhitespace char = true) :
    substituted gateway (before ++ after) =
      before ++ substituted gateway after := by
  induction before with
  | nil => rfl
  | cons first later inductionHypothesis =>
      have absent :=
        notMem_placeholder_of_whitespace (blank first List.mem_cons_self)
      rw [List.cons_append, substituted_cons absent,
        inductionHypothesis fun char member =>
          blank char (List.mem_cons_of_mem _ member)]
      rfl

/-- A host with white space before it does not come back. -/
theorem not_names_of_blank {digits : Str} {port : UInt16}
    (isPort : IsPort digits port) {first : Char} {later : Str}
    (blank : isWhitespace first = true) {form : Option UInt16} :
    ¬ Names
        (substituted gateway ((first :: later).dropWhile isWhitespace) ++
          ':' :: digits)
        (substituted gateway (first :: later)) form := by
  have absent := notMem_placeholder_of_whitespace blank
  have split :=
    @List.takeWhile_append_dropWhile _ isWhitespace (first :: later)
  have spaces :
      ∀ char ∈ (first :: later).takeWhile isWhitespace,
        isWhitespace char = true :=
    fun char member => List.mem_takeWhile_imp member
  have front := List.head?_dropWhile_not isWhitespace (first :: later)
  have whole :
      substituted gateway (first :: later) =
        (first :: later).takeWhile isWhitespace ++
          substituted gateway ((first :: later).dropWhile isWhitespace) := by
    rw [← substituted_append_of_whitespace spaces, split]
  have start : (substituted gateway (first :: later)).head? = some first := by
    rw [substituted_cons absent]
    rfl
  generalize (first :: later).dropWhile isWhitespace = rest at front whole ⊢
  have visible :
      ∀ char, (substituted gateway rest ++ ':' :: digits).head? = some char →
        isWhitespace char = false := by
    intro char initial
    rw [List.head?_append, Option.or_eq_some_iff] at initial
    rcases initial with inRest | ⟨-, isColon⟩
    · apply head_substituted created _ inRest
      intro other same
      rw [same] at front
      exact front
    · cases isColon
      decide
  have clash :
      (substituted gateway rest ++ ':' :: digits).head? ≠ some first := by
    intro same
    have unblank := visible first same
    rw [blank] at unblank
    cases unblank
  generalize substituted gateway (first :: later) = resolved at start whole ⊢
  intro named
  generalize text : substituted gateway rest ++ ':' :: digits = written
    at named clash
  cases named with
  | bare nonempty plain colons => exact clash start
  | withPort nonempty plain single other =>
      apply clash
      rw [List.head?_append, start, Option.some_or]
  | bracketed closed =>
      have last := congrArg List.getLast? text
      rw [List.getLast?_concat] at last
      exact isPort.notMem (by decide) (isPort.mem_of_getLast last)
  | @bracketedPort _ digits' _ closed other =>
      have cut :=
        (@cut_at_last_colon (substituted gateway rest)
          ('[' :: resolved ++ [']']) digits digits' (colon_notMem isPort)
          (colon_notMem other) (by simpa using text)).1
      have lengths := congrArg List.length cut
      rw [whole] at lengths
      simp only [List.length_append, List.length_cons, List.length_nil]
        at lengths
      omega

/-- An item with a port of its own keeps its host in brackets if it has a
colon. -/
theorem names_attached_iff {digits : Str} {port : UInt16}
    (isPort : IsPort digits port) (nonempty : host ≠ [])
    {form : Option UInt16} :
    Names
        (substituted gateway
          (trim
            (if ':' ∈ host then '[' :: host ++ ']' :: ':' :: digits
              else host ++ ':' :: digits)))
        (substituted gateway host) form ↔
      (if ':' ∈ host then ']' ∉ substituted gateway host
        else ':' ∉ substituted gateway host ∧
          ∀ char, (substituted gateway host).head? = some char →
            char ≠ '[' ∧ isWhitespace char = false) ∧
        form = some port := by
  have visible : isWhitespace ':' = false := by decide
  have present : substituted gateway host ≠ [] :=
    mt (substituted_eq_nil_iff created).mp nonempty
  by_cases colon : ':' ∈ host
  · have trimmed :
        trim ('[' :: host ++ ']' :: ':' :: digits) =
          '[' :: host ++ ']' :: ':' :: digits := by
      apply trim_of_ends
      · intro char first
        cases first
        decide
      · intro char last
        have ends :
            '[' :: host ++ ']' :: ':' :: digits =
              ('[' :: host ++ [']']) ++ ':' :: digits := by
          simp
        rw [ends] at last
        exact getLast_port isPort last
    rw [if_pos colon, if_pos colon, trimmed,
      substituted_bracketedPort isPort, names_bracketedPort_iff isPort]
  · rw [if_neg colon, if_neg colon,
      trim_append_cons visible (fun _ => @getLast_port _ _ isPort [] _ _),
      substituted_withPort isPort]
    cases host with
    | nil => exact absurd rfl nonempty
    | cons first later =>
        by_cases blank : isWhitespace first = true
        · constructor
          · intro named
            exact absurd named (not_names_of_blank created isPort blank)
          · rintro ⟨⟨-, suits⟩, -⟩
            have absent := notMem_placeholder_of_whitespace blank
            have start := suits first (by rw [substituted_cons absent]; rfl)
            rw [blank] at start
            cases start.2
        · rw [Bool.not_eq_true] at blank
          have untrimmed :
              (first :: later).dropWhile isWhitespace = first :: later := by
            rw [List.dropWhile_cons, blank]
            rfl
          rw [untrimmed, names_withPort_iff isPort]
          have front :
              ∀ char,
                (substituted gateway (first :: later)).head? = some char →
                  isWhitespace char = false := by
            intro char start
            apply head_substituted created _ start
            intro other same
            cases same
            exact blank
          constructor
          · rintro ⟨-, unopened, single, same⟩
            refine ⟨⟨single, ?_⟩, same⟩
            intro char start
            refine ⟨?_, front char start⟩
            rintro rfl
            exact unopened start
          · rintro ⟨⟨single, suits⟩, same⟩
            refine ⟨present, ?_, single, same⟩
            intro opened
            exact (suits _ opened).1 rfl

omit created in
/-- What the table keeps of an item with a port of its own. -/
theorem nodeAddress_of_port {port : UInt16}
    (given : item.port.bind WirePort.get = some port)
    (named : Names (trim item.address) host embedded) :
    item.nodeAddress.address =
      if ':' ∈ host then
        '[' :: host ++ ']' :: ':' :: portText (embedded.getD item.defaultPort)
      else host ++ ':' :: portText (embedded.getD item.defaultPort) := by
  have default : item.defaultPort = port := by
    rw [NodeAddressItem.defaultPort, given, Option.getD_some]
  have split :=
    (@splitHostPort_eq_some_iff _ _ port _).mpr ⟨embedded, named, rfl⟩
  rw [NodeAddressItem.nodeAddress, nodeAddressWithWirePort, given, default]
  simp only
  rw [split]

/-- The host of the item is read from what the table keeps if it suits its
form, and only then. -/
theorem resolved_iff_suits
    (named : Names (trim item.address) host embedded) (nonempty : host ≠ []) :
    resolveNodeAddress item.nodeAddress gateway =
        some ⟨String.ofList (substituted gateway host),
          embedded.getD item.defaultPort⟩ ↔
      SuitsForm item gateway host embedded := by
  have present : substituted gateway host ≠ [] :=
    mt (substituted_eq_nil_iff created).mp nonempty
  rw [resolveNodeAddress_eq_some_iff created]
  cases given : item.port.bind WirePort.get with
  | none =>
      have kept : item.nodeAddress.address = item.address := by
        rw [NodeAddressItem.nodeAddress, nodeAddressWithWirePort, given]
      have default : item.defaultPort = defaultNodePort := by
        rw [NodeAddressItem.defaultPort, given, Option.getD_none]
      rw [kept, default]
      constructor
      · rintro ⟨other, form, read, -, same⟩
        rw [L3NodeEndpoint.mk.injEq, String.ofList_inj] at same
        rw [← same.1, names_plain_iff created given named nonempty] at read
        exact read.1
      · intro suits
        refine ⟨_, embedded, ?_, present, rfl⟩
        exact (names_plain_iff created given named nonempty).mpr ⟨suits, rfl⟩
  | some port =>
      have isPort := isPort_portText (@getD_ne_zero item _ _ _ named)
      rw [nodeAddress_of_port given named, SuitsForm, given]
      simp only [Option.isSome_some, if_true]
      constructor
      · rintro ⟨other, form, read, -, same⟩
        rw [L3NodeEndpoint.mk.injEq, String.ofList_inj] at same
        rw [← same.1, names_attached_iff created isPort nonempty] at read
        exact read.1
      · intro suits
        refine ⟨_, some (embedded.getD item.defaultPort), ?_, present, rfl⟩
        exact (names_attached_iff created isPort nonempty).mpr ⟨suits, rfl⟩

/-- What an item is resolved to that names no host. -/
theorem resolved_nameless_iff
    (nameless : ¬ ∃ host embedded, Names (trim item.address) host embedded ∧
      host ≠ []) :
    (∃ endpoint, resolveNodeAddress item.nodeAddress gateway =
        some endpoint) ↔
      ∃ host embedded,
        Names (substituted gateway (trim item.address)) host embedded ∧
          host ≠ [] := by
  have ofKept :
      item.nodeAddress.address = item.address →
        ((∃ endpoint, resolveNodeAddress item.nodeAddress gateway =
            some endpoint) ↔
          ∃ host embedded,
            Names (substituted gateway (trim item.address)) host embedded ∧
              host ≠ []) := by
    intro kept
    simp only [resolveNodeAddress_eq_some_iff created, kept]
    constructor
    · rintro ⟨endpoint, host, embedded, named, nonempty, -⟩
      exact ⟨host, embedded, named, nonempty⟩
    · rintro ⟨host, embedded, named, nonempty⟩
      exact ⟨_, host, embedded, named, nonempty, rfl⟩
  cases given : item.port.bind WirePort.get with
  | none =>
      apply ofKept
      rw [NodeAddressItem.nodeAddress, nodeAddressWithWirePort, given]
  | some port =>
      cases split : splitHostPort item.address port with
      | none =>
          apply ofKept
          rw [NodeAddressItem.nodeAddress, nodeAddressWithWirePort, given]
          simp only
          rw [split]
      | some parts =>
          obtain ⟨host, resolvedPort⟩ := parts
          obtain ⟨embedded, named, -⟩ := splitHostPort_eq_some_iff.mp split
          have empty : host = [] := by
            by_contra nonempty
            exact nameless ⟨host, embedded, named, nonempty⟩
          rw [empty] at named
          have unchanged :=
            @substituted_eq_self gateway _ (brace_notMem_of_hostless named)
          have isPort := isPort_portText (@getD_ne_zero item _ _ _ named)
          have colon : isWhitespace ':' = false := by decide
          have kept := nodeAddress_of_port given named
          rw [if_neg List.not_mem_nil, List.nil_append] at kept
          have trimmed :=
            @trim_append_cons ':' [] _ colon
              fun _ => @getLast_port _ _ isPort [] _ _
          rw [List.nil_append, List.dropWhile_nil, List.nil_append] at trimmed
          have ported := @substituted_withPort gateway _ _ isPort []
          rw [List.nil_append] at ported
          rw [unchanged]
          constructor
          · rintro ⟨endpoint, resolved⟩
            obtain ⟨other, form, read, nonempty, -⟩ :=
              (resolveNodeAddress_eq_some_iff created).mp resolved
            rw [kept, trimmed, ported] at read
            exact absurd (hostless_of_port isPort read) nonempty
          · intro comes
            exact absurd comes nameless

end

/-- An item is resolved to what it advertises if and only if the form that its
host is kept in suits the host with the gateway put in. -/
theorem resolvedAsAdvertised_iff {gatewayHost : Str} {gatewayPort : UInt16}
    (created : newGatewayEndpoint gatewayHost gatewayPort = .ok gateway)
    (item : NodeAddressItem) :
    ResolvedAsAdvertised item gateway ↔ KeepsForm item gateway := by
  constructor
  · intro resolved
    constructor
    · intro host embedded named nonempty
      rw [← resolved_iff_suits created named nonempty]
      exact (resolved _).mpr ⟨host, embedded, named, nonempty, rfl⟩
    · intro nameless comes
      obtain ⟨endpoint, found⟩ :=
        (resolved_nameless_iff created nameless).mpr comes
      obtain ⟨host, embedded, named, nonempty, -⟩ := (resolved _).mp found
      exact nameless ⟨host, embedded, named, nonempty⟩
  · rintro ⟨suits, remains⟩ endpoint
    by_cases named : ∃ host embedded,
        Names (trim item.address) host embedded ∧ host ≠ []
    · obtain ⟨host, embedded, named, nonempty⟩ := named
      have found :=
        (resolved_iff_suits created named nonempty).mpr
          (suits host embedded named nonempty)
      constructor
      · intro resolved
        rw [found, Option.some_inj] at resolved
        exact ⟨host, embedded, named, nonempty, resolved.symm⟩
      · intro denotes
        obtain ⟨host', port, split, -, rfl⟩ := denotes_iff.mp denotes
        have split' :=
          (@splitHostPort_eq_some_iff _ _ item.defaultPort _).mpr
            ⟨embedded, named, rfl⟩
        rw [split'] at split
        cases split
        exact found
    · constructor
      · intro resolved
        have comes :=
          (resolved_nameless_iff created named).mp ⟨endpoint, resolved⟩
        exact absurd comes (remains named)
      · rintro ⟨host, embedded, isNamed, nonempty, -⟩
        exact absurd ⟨host, embedded, isNamed, nonempty⟩ named

end

/-! ## A gateway with an IPv6 address -/

/-- A gateway that is given by an address without brackets. -/
def ipv6Gateway : GatewayEndpoint :=
  ⟨String.ofList "fd00::1".toList, 443⟩

/-- The node behind the gateway, at port 8443. -/
def gatewayItem : NodeAddressItem :=
  ⟨sdpcHostPlaceholder, "domain".toList, some (.string "8443".toList)⟩

theorem resolvedAsAdvertised_sample :
    ResolvedAsAdvertised gatewayItem ipv6Gateway ↔
      KeepsForm gatewayItem ipv6Gateway := by
  have created :
      newGatewayEndpoint "fd00::1".toList 443 = .ok ipv6Gateway := by
    decide +kernel
  exact resolvedAsAdvertised_iff created gatewayItem

/-- The port becomes part of the host. -/
theorem port_swallowed_by_ipv6_gateway :
    newGatewayEndpoint "fd00::1".toList 443 = .ok ipv6Gateway ∧
      resolveNodeAddress gatewayItem.nodeAddress ipv6Gateway =
        some ⟨String.ofList "fd00::1:8443".toList, 441⟩ ∧
      Denotes gatewayItem ipv6Gateway
        ⟨String.ofList "fd00::1".toList, 8443⟩ ∧
      ¬ ResolvedAsAdvertised gatewayItem ipv6Gateway := by
  have resolved :
      resolveNodeAddress gatewayItem.nodeAddress ipv6Gateway =
        some ⟨String.ofList "fd00::1:8443".toList, 441⟩ := by
    decide +kernel
  have denotes :
      Denotes gatewayItem ipv6Gateway
        ⟨String.ofList "fd00::1".toList, 8443⟩ := by
    refine ⟨sdpcHostPlaceholder, none, ?_, by decide, by decide +kernel⟩
    exact .bare (by decide) (by decide) (by decide)
  refine ⟨by decide +kernel, resolved, denotes, ?_⟩
  intro advertised
  rw [(advertised _).mpr denotes, Option.some_inj, L3NodeEndpoint.mk.injEq]
    at resolved
  exact absurd resolved.2 (by decide)

end HermesAtrust.Client.Nodes
