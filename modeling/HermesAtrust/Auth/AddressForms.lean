import HermesAtrust.Auth.ResourceData

/-!
# The addresses that a row covers

The three forms in which a host denotes addresses, and what each of them
covers.  The rows of the table of addresses come from the entries whose host
has one of the forms, in their order, and cover what the form says.
-/

namespace HermesAtrust.Auth

open HermesAtrust.Bits HermesAtrust.L3 HermesAtrust.Text

/-- What a host denotes: an address, a network with its leading bits, or a
range. -/
inductive HostForm where
  | literal (address : Ipv4Addr)
  | network (base : Ipv4Addr) (bits : UInt8)
  | range (min max : Ipv4Addr)

/-- The host is written in this form. -/
def HostForm.Writes (host : Str) : HostForm → Prop
  | .literal address => parseIpv4 host = some address
  | .network base bits =>
      ∃ network leading, '/' ∉ network ∧ host = network ++ '/' :: leading ∧
        parseIpv4 (trim network) = some base ∧
        parseU8 leading = some bits ∧ bits ≤ 32
  | .range min max =>
      ∃ left right, '-' ∉ left ∧ host = left ++ '-' :: right ∧
        parseIpv4 (trim left) = some min ∧
        parseIpv4 (trim right) = some max ∧
        addressNumber min ≤ addressNumber max

/-- The addresses that a form covers. -/
def HostForm.Covers (address : Ipv4Addr) : HostForm → Prop
  | .literal only => address = only
  | .network base bits =>
      ∀ bit < 32, 32 - bits.toNat ≤ bit →
        (addressNumber address).testBit bit =
          (addressNumber base).testBit bit
  | .range min max =>
      addressNumber min ≤ addressNumber address ∧
        addressNumber address ≤ addressNumber max

/-! ## Addresses as words -/

theorem addressNumber_lt (address : Ipv4Addr) :
    addressNumber address < 2 ^ 32 := by
  have a := address.a.toNat_lt
  have b := address.b.toNat_lt
  have c := address.c.toNat_lt
  have d := address.d.toNat_lt
  unfold addressNumber
  omega

theorem addressNumber_injective {left right : Ipv4Addr}
    (same : addressNumber left = addressNumber right) : left = right := by
  have a := left.a.toNat_lt
  have b := left.b.toNat_lt
  have c := left.c.toNat_lt
  have d := left.d.toNat_lt
  have a' := right.a.toNat_lt
  have b' := right.b.toNat_lt
  have c' := right.c.toNat_lt
  have d' := right.d.toNat_lt
  unfold addressNumber at same
  rw [Ipv4Addr.mk.injEq, ← UInt8.toNat_inj, ← UInt8.toNat_inj,
    ← UInt8.toNat_inj, ← UInt8.toNat_inj]
  omega

theorem toNat_addressWord (address : Ipv4Addr) :
    (addressWord address).toNat = addressNumber address := by
  rw [addressWord, BitVec.toNat_ofNat,
    Nat.mod_eq_of_lt (addressNumber_lt address)]

theorem addressNumber_wordAddress (word : BitVec 32) :
    addressNumber (wordAddress word) = word.toNat := by
  have small := word.isLt
  simp only [addressNumber, wordAddress, UInt8.toNat_ofNat']
  omega

/-! ## Masks -/

/-- Neither the difference nor the shift overflows. -/
theorem prefixMask_eq_some {bits : UInt8} (within : bits ≤ 32) :
    prefixMask bits = some (highMask 32 (32 - bits.toNat)) := by
  have most : bits.toNat ≤ 32 := within
  unfold prefixMask
  by_cases none : bits = 0
  · rw [if_pos none, none]
    decide
  · have positive : 0 < bits.toNat := by
      apply Nat.pos_of_ne_zero
      intro zero
      exact none (UInt8.toNat_inj.mp zero)
    have difference : (32 - bits).toNat = 32 - bits.toNat :=
      UInt8.toNat_sub_of_le _ _ within
    have shifts : 32 - bits < 32 := by
      rw [UInt8.lt_iff_toNat_lt, difference]
      exact Nat.sub_lt (by decide) positive
    rw [if_neg none, if_neg (UInt8.not_lt.mpr within)]
    simp only
    rw [if_pos shifts, difference]

/-- The addresses between the ends of a network agree with it on its leading
bits. -/
theorem network_between_iff {base address : Ipv4Addr} {bits : UInt8} :
    (addressNumber
          (wordAddress
            (addressWord base &&& highMask 32 (32 - bits.toNat))) ≤
        addressNumber address ∧
      addressNumber address ≤
        addressNumber
          (wordAddress
            (addressWord base &&& highMask 32 (32 - bits.toNat) |||
              ~~~highMask 32 (32 - bits.toNat)))) ↔
      (HostForm.network base bits).Covers address := by
  have between :=
    between_iff (Nat.sub_le 32 bits.toNat) (addressWord base)
      (addressWord address)
  rw [addressNumber_wordAddress, addressNumber_wordAddress,
    ← toNat_addressWord address, between, HostForm.Covers]
  simp only [← BitVec.testBit_toNat, toNat_addressWord]
  constructor
  · intro agree bit _ above
    exact agree bit above
  · intro agree bit above
    by_cases inWord : bit < 32
    · exact agree bit inWord above
    · have beyond : 2 ^ 32 ≤ 2 ^ bit :=
        Nat.pow_le_pow_right (by decide) (Nat.le_of_not_lt inWord)
      have unset : ∀ address, (addressNumber address).testBit bit = false :=
        fun address =>
          Nat.testBit_lt_two_pow
            (Nat.lt_of_lt_of_le (addressNumber_lt address) beyond)
      rw [unset, unset]

/-! ## Reading the forms -/

theorem readNetwork_eq_some_iff {host : Str} {base : Ipv4Addr} {bits : UInt8} :
    readNetwork host = some (base, bits) ↔
      (HostForm.network base bits).Writes host := by
  unfold readNetwork HostForm.Writes
  constructor
  · intro read
    split at read
    · cases read
    · next network leading split =>
        split at read
        · next parsedBase parsedBits isBase isBits =>
            split at read
            · next within =>
                cases read
                obtain ⟨clean, whole⟩ := splitOnce_eq_some_iff.mp split
                exact ⟨network, leading, clean, whole, isBase, isBits, within⟩
            · cases read
        · cases read
  · rintro ⟨network, leading, clean, whole, isBase, isBits, within⟩
    have split := splitOnce_eq_some_iff.mpr ⟨clean, whole⟩
    simp only [split, isBase, isBits, if_pos within]

theorem readRange_eq_some_iff {host : Str} {min max : Ipv4Addr} :
    readRange host = some (min, max) ↔
      (HostForm.range min max).Writes host := by
  unfold readRange HostForm.Writes
  constructor
  · intro read
    split at read
    · cases read
    · next left right split =>
        split at read
        · next parsedMin parsedMax isMin isMax =>
            split at read
            · next ordered =>
                cases read
                obtain ⟨clean, whole⟩ := splitOnce_eq_some_iff.mp split
                exact ⟨left, right, clean, whole, isMin, isMax, ordered⟩
            · cases read
        · cases read
  · rintro ⟨left, right, clean, whole, isMin, isMax, ordered⟩
    have split := splitOnce_eq_some_iff.mpr ⟨clean, whole⟩
    simp only [split, isMin, isMax, if_pos ordered]

/-- The form of a host, if it has one. -/
def readForm (host : Str) : Option HostForm :=
  match parseIpv4 host, readNetwork host, readRange host with
  | some address, _, _ => some (.literal address)
  | none, some (base, bits), _ => some (.network base bits)
  | none, none, some (min, max) => some (.range min max)
  | none, none, none => none

/-- A host has one form at most. -/
theorem readForm_eq_some_iff {host : Str} {form : HostForm} :
    readForm host = some form ↔ form.Writes host := by
  constructor
  · intro read
    unfold readForm at read
    split at read
    · next address literal =>
        cases read
        exact literal
    · next base bits _ network =>
        cases read
        exact readNetwork_eq_some_iff.mp network
    · next min max _ _ range =>
        cases read
        exact readRange_eq_some_iff.mp range
    · cases read
  · intro written
    have unparsed :
        ∀ {char}, isDigit char = false ∧ char ≠ '.' → char ∈ host →
          parseIpv4 host = none := by
      intro char other member
      cases parsed : parseIpv4 host with
      | none => rfl
      | some address =>
          rcases digit_or_dot parsed member with digit | isDot
          · rw [other.1] at digit
            cases digit
          · exact absurd isDot other.2
    unfold readForm
    cases form with
    | literal address =>
        have literal : parseIpv4 host = some address := written
        simp only [literal]
    | network base bits =>
        rw [readNetwork_eq_some_iff.mpr written]
        obtain ⟨network, leading, -, whole, -⟩ := written
        have slash : '/' ∈ host := by simp [whole]
        simp only [unparsed (by decide) slash]
    | range min max =>
        rw [readRange_eq_some_iff.mpr written]
        obtain ⟨left, right, -, whole, isMin, isMax, -⟩ := written
        have dash : '-' ∈ host := by simp [whole]
        have unslashed : '/' ∉ host := by
          have inLeft : '/' ∉ left := notMem_of_parseIpv4 isMin (by decide)
          have inRight : '/' ∉ right := notMem_of_parseIpv4 isMax (by decide)
          rw [whole]
          simp [inLeft, inRight]
        have notNetwork : readNetwork host = none := by
          unfold readNetwork
          rw [splitOnce_eq_none_iff.mpr unslashed]
        simp only [unparsed (by decide) dash, notNetwork]

/-- The ends of the addresses that are kept of a host. -/
def HostKind.ends : HostKind → Option (Ipv4Addr × Ipv4Addr)
  | .ip address => some (address, address)
  | .cidr min max => some (min, max)
  | .range min max => some (min, max)
  | .domain => none

/-- A host without a form is a name. -/
theorem classifyHost_of_formless {host : Str}
    (formless : readForm host = none) : classifyHost host = some .domain := by
  unfold readForm at formless
  unfold classifyHost
  split at formless
  · cases formless
  · cases formless
  · cases formless
  · next literal network range => simp only [literal, network, range]

/-- Of a host with a form the ends of what it covers are kept. -/
theorem classifyHost_of_form {host : Str} {form : HostForm}
    (read : readForm host = some form) :
    ∃ kind min max, classifyHost host = some kind ∧
      kind.ends = some (min, max) ∧ addressNumber min ≤ addressNumber max ∧
      ∀ address,
        (addressNumber min ≤ addressNumber address ∧
          addressNumber address ≤ addressNumber max) ↔
            form.Covers address := by
  have written := readForm_eq_some_iff.mp read
  unfold readForm at read
  unfold classifyHost
  split at read
  · next only literal =>
      cases read
      refine ⟨.ip only, only, only, by simp only [literal], rfl,
        Nat.le_refl _, ?_⟩
      intro address
      constructor
      · rintro ⟨least, most⟩
        exact addressNumber_injective (Nat.le_antisymm most least)
      · intro same
        have equal : address = only := same
        rw [equal]
        exact ⟨Nat.le_refl _, Nat.le_refl _⟩
  · next base bits literal leads =>
      cases read
      obtain ⟨-, -, -, -, -, -, within⟩ := written
      have between :=
        fun address => @network_between_iff base address bits
      have masked := prefixMask_eq_some within
      generalize highMask 32 (32 - bits.toNat) = mask at between masked
      let network := addressWord base &&& mask
      refine ⟨.cidr (wordAddress network) (wordAddress (network ||| ~~~mask)),
        wordAddress network, wordAddress (network ||| ~~~mask), ?_, rfl, ?_,
        between⟩
      · simp only [literal, leads, masked, Option.map_some, network]
      have inside := (between base).mpr fun bit _ _ => rfl
      exact Nat.le_trans inside.1 inside.2
  · next min max literal network range =>
      cases read
      obtain ⟨-, -, -, -, -, -, ordered⟩ := written
      exact ⟨.range min max, min, max, by simp only [literal, network, range],
        rfl, ordered, fun address => Iff.rfl⟩
  · cases read

example :
    classifyHost "10.1.2.3/16".toList =
      some (.cidr ⟨10, 1, 0, 0⟩ ⟨10, 1, 255, 255⟩) := by
  decide +kernel

/-! ## The rows of the table -/

abbrev Entry := AppItem × AddressItem

/-- The addresses of the applications of a response. -/
def entriesOf (data : ClientResourceData) : List Entry :=
  data.appInfo.flatMap fun group =>
    group.apps.flatMap fun app =>
      app.addressList.map fun address => (app, address)

/-- An entry that is kept and whose host has one of the forms. -/
def IsIpEntry (entry : Entry) : Prop :=
  (entry.1.id ≠ [] ∧ entry.1.nodeGroupId ≠ []) ∧
    (ResourceProtocol.parse entry.2.protocol).isSome = true ∧
    (parsePortRange entry.2.port).isSome = true ∧
    ∃ form, HostForm.Writes (trim entry.2.host) form

instance (entry : Entry) : Decidable (IsIpEntry entry) :=
  decidable_of_iff
    ((entry.1.id ≠ [] ∧ entry.1.nodeGroupId ≠ []) ∧
      (ResourceProtocol.parse entry.2.protocol).isSome = true ∧
      (parsePortRange entry.2.port).isSome = true ∧
      (readForm (trim entry.2.host)).isSome = true)
    (by
      unfold IsIpEntry
      simp only [Option.isSome_iff_exists, readForm_eq_some_iff])

/-- The address test of `ip_resource_matches`. -/
def addressMatches (resource : IpResource) (address : Ipv4Addr) : Bool :=
  decide (addressNumber resource.ipMin ≤ addressNumber address) &&
    decide (addressNumber address ≤ addressNumber resource.ipMax)

/-- The row stands for the entry: it accepts the addresses that the host of the
entry covers. -/
structure Represents (entry : Entry) (resource : IpResource) : Prop where
  ordered : addressNumber resource.ipMin ≤ addressNumber resource.ipMax
  protocol :
    ResourceProtocol.parse entry.2.protocol = some resource.protocol
  ports :
    parsePortRange entry.2.port = some (resource.portMin, resource.portMax)
  application :
    resource.appId = entry.1.id ∧ resource.nodeGroupId = entry.1.nodeGroupId
  tests :
    ∀ flow, ipResourceMatches flow resource =
      (addressMatches resource flow.destination &&
        protocolMatches resource.protocol flow.protocol &&
        portMatches resource.portMin resource.portMax flow.port flow.protocol)
  covers :
    ∀ form, HostForm.Writes (trim entry.2.host) form → ∀ address,
      addressMatches resource address = true ↔ form.Covers address

/-- The tables grow by the rows that stand for the entries. -/
def Adds (entries : List Entry) (before after : ClientResources) : Prop :=
  ∃ rows, after.ipResources = before.ipResources ++ rows ∧
    List.Forall₂ Represents
      (entries.filter fun entry => decide (IsIpEntry entry)) rows

theorem Adds.append {first second : List Entry}
    {before between after : ClientResources}
    (adds : Adds first before between) (later : Adds second between after) :
    Adds (first ++ second) before after := by
  obtain ⟨rows, grown, represent⟩ := adds
  obtain ⟨more, grownMore, representMore⟩ := later
  refine ⟨rows ++ more, ?_, ?_⟩
  · rw [grownMore, grown, List.append_assoc]
  · rw [List.filter_append]
    exact List.rel_append represent representMore

/-- Tables that stay as they are, since no entry is one of addresses. -/
theorem adds_of_none {entries : List Entry} {before after : ClientResources}
    (same : after.ipResources = before.ipResources)
    (others : ∀ entry ∈ entries, ¬ IsIpEntry entry) :
    Adds entries before after := by
  refine ⟨[], by rw [same, List.append_nil], ?_⟩
  have none : (entries.filter fun entry => decide (IsIpEntry entry)) = [] := by
    rw [List.filter_eq_nil_iff]
    intro entry member
    simpa using others entry member
  rw [none]
  exact .nil

/-- What each step of a loop adds, the loop adds. -/
theorem foldlM_adds {α : Type}
    {step : ClientResources → α → Option ClientResources}
    {entries : α → List Entry}
    (adds : ∀ before item, ∃ after, step before item = some after ∧
      Adds (entries item) before after)
    (items : List α) (before : ClientResources) :
    ∃ after, items.foldlM step before = some after ∧
      Adds (items.flatMap entries) before after := by
  induction items generalizing before with
  | nil => exact ⟨before, rfl, adds_of_none rfl (by simp)⟩
  | cons item later inductionHypothesis =>
      obtain ⟨between, stepped, addsItem⟩ := adds before item
      obtain ⟨after, folded, addsLater⟩ := inductionHypothesis between
      refine ⟨after, ?_, ?_⟩
      · rw [List.foldlM_cons, stepped]
        exact folded
      · rw [List.flatMap_cons]
        exact addsItem.append addsLater

/-- Of an address whose host has a form a row is kept that stands for it. -/
theorem addAddress_adds {app : AppItem}
    (kept : app.id ≠ [] ∧ app.nodeGroupId ≠ []) (before : ClientResources)
    (address : AddressItem) :
    ∃ after, addAddress app before address = some after ∧
      Adds [(app, address)] before after := by
  have skipped (other : ¬ IsIpEntry (app, address)) :
      Adds [(app, address)] before before := by
    apply adds_of_none rfl
    intro entry member
    rw [List.mem_singleton.mp member]
    exact other
  cases isProtocol : ResourceProtocol.parse address.protocol with
  | none =>
      refine ⟨before, by simp only [addAddress, isProtocol], skipped ?_⟩
      rintro ⟨-, known, -⟩
      rw [isProtocol] at known
      cases known
  | some protocol =>
      cases isPort : parsePortRange address.port with
      | none =>
          refine ⟨before, by simp only [addAddress, isProtocol, isPort],
            skipped ?_⟩
          rintro ⟨-, -, known, -⟩
          rw [isPort] at known
          cases known
      | some ports =>
          cases read : readForm (trim address.host) with
          | none =>
              have other : ¬ IsIpEntry (app, address) := by
                rintro ⟨-, -, -, form, written⟩
                rw [readForm_eq_some_iff.mpr written] at read
                cases read
              have name := classifyHost_of_formless read
              by_cases empty : trim address.host = []
              · refine ⟨before, ?_, skipped other⟩
                simp only [addAddress, isProtocol, isPort, if_pos empty]
              · refine ⟨before.pushDomain
                  (domainRow app protocol ports (trim address.host)
                    address.ip), ?_, adds_of_none rfl ?_⟩
                · simp only [addAddress, isProtocol, isPort, if_neg empty,
                    name]
                intro entry member
                rw [List.mem_singleton.mp member]
                exact other
          | some form =>
              have written := readForm_eq_some_iff.mp read
              have nonempty : trim address.host ≠ [] := by
                intro empty
                have formless : (readForm []).isSome = false := by decide
                rw [← empty, read] at formless
                cases formless
              obtain ⟨kind, min, max, classified, ends, ordered, covers⟩ :=
                classifyHost_of_form read
              refine ⟨before.pushIp (ipRow app protocol ports min max), ?_,
                [ipRow app protocol ports min max], rfl, ?_⟩
              · simp only [addAddress, isProtocol, isPort, if_neg nonempty,
                  classified]
                cases kind with
                | domain => cases ends
                | ip only =>
                    cases ends
                    rfl
                | cidr least most =>
                    cases ends
                    rfl
                | range least most =>
                    cases ends
                    rfl
              · have isEntry : IsIpEntry (app, address) :=
                  ⟨kept, by rw [isProtocol]; rfl, by rw [isPort]; rfl, form,
                    written⟩
                have only :
                    [(app, address)].filter
                        (fun entry => decide (IsIpEntry entry)) =
                      [(app, address)] := by
                  simp [isEntry]
                rw [only]
                refine .cons ?_ .nil
                refine ⟨ordered, isProtocol, isPort, ⟨rfl, rfl⟩,
                  fun flow => rfl, ?_⟩
                intro other writes target
                have same : some form = some other := by
                  rw [← read, readForm_eq_some_iff.mpr writes]
                cases same
                rw [addressMatches, Bool.and_eq_true, decide_eq_true_iff,
                  decide_eq_true_iff]
                exact covers target

theorem addApp_adds (before : ClientResources) (app : AppItem) :
    ∃ after, addApp before app = some after ∧
      Adds (app.addressList.map fun address => (app, address))
        before after := by
  unfold addApp
  by_cases unnamed : app.id = [] ∨ app.nodeGroupId = []
  · rw [if_pos unnamed]
    refine ⟨before, rfl, adds_of_none rfl ?_⟩
    rintro entry member ⟨kept, -⟩
    obtain ⟨address, -, rfl⟩ := List.mem_map.mp member
    exact unnamed.elim kept.1 kept.2
  · rw [if_neg unnamed]
    have folded :=
      foldlM_adds (addAddress_adds (not_or.mp unnamed)) app.addressList before
    rw [← List.map_eq_flatMap] at folded
    exact folded

/-- Every row of the table of addresses stands for an entry whose host is an
address, a network or a range, in the order of the entries; the other entries
have no row there, and the arithmetic does not overflow. -/
theorem ipResources_represent (data : ClientResourceData) :
    ∃ parsed, fromData data = some parsed ∧
      List.Forall₂ Represents
        ((entriesOf data).filter fun entry => decide (IsIpEntry entry))
        parsed.ipResources := by
  obtain ⟨tables, folded, rows, grown, represent⟩ :=
    foldlM_adds
      (fun before group => foldlM_adds addApp_adds group.apps before)
      data.appInfo ⟨[], []⟩
  rw [List.nil_append] at grown
  unfold fromData
  rw [folded]
  refine ⟨_, rfl, ?_⟩
  simp only
  rw [grown]
  exact represent

end HermesAtrust.Auth
