import HermesAtrust.Net.DnsResponse
import Mathlib.Data.List.Perm.Basic

/-!
# The order of the answers

The addresses that `parse` finds do not depend on the order of the answers.
Their lifetime does where an owner has aliases of different lifetimes: the last
one counts, and it is the least one of all in every order only if some owner on
the way, or the last one with its addresses, has nothing longer.
-/

namespace HermesAtrust.Net.Dns

open HermesAtrust.Framing HermesAtrust.L3 HermesAtrust.Text

/-- A response that leads from the host along a path to an owner with
addresses. -/
structure Resolves (response : Response) (host : Str) (id : UInt16)
    (entries : List Entry) (path : List Str) (final : Str) : Prop where
  accepts : Accepts response host id
  answers : List.Forall₂ IsEntry response.answers entries
  others :
    ∃ others,
      List.Forall₂ IsEntry (response.authorities ++ response.additional) others
  consistent : Consistent entries
  chain : Chain entries host path final
  short : path.length < 16
  nodup : (path ++ [final]).Nodup

/-- The lifetimes of all aliases on the way and of the addresses at its end. -/
def lifetimes (entries : List Entry) (path : List Str) (final : Str) :
    List Nat :=
  path.flatMap (fun owner => (aliasesOf entries owner).map Prod.snd) ++
    (addressesOf entries final).map Prod.snd

/-- The lifetime is the least one, and it is that of an address, or that of all
aliases of an owner on the way. -/
structure SettledAt (entries : List Entry) (path : List Str) (final : Str)
    (least : Nat) : Prop where
  below : ∀ lifetime ∈ lifetimes entries path final, least ≤ lifetime
  holder :
    least ∈ (addressesOf entries final).map Prod.snd ∨
      ∃ owner ∈ path, ∀ found ∈ aliasesOf entries owner, found.2 = least

/-- Both fail, or both return the same. -/
def SameOutcome (first second : Except WireError Answer) : Prop :=
  match first, second with
  | .error _, .error _ => True
  | .ok .truncated, .ok .truncated => True
  | .ok (.addresses ips ttl), .ok (.addresses ips' ttl') =>
      (∀ ip, ip ∈ ips ↔ ip ∈ ips') ∧ ttl = ttl'
  | _, _ => False

/-- The same response with its answers in another order. -/
def Response.withAnswers (response : Response) (answers : List WireRecord)
    (perm : response.answers.Perm answers) : Response :=
  { response with
    answers
    countedAnswers := perm.length_eq ▸ response.countedAnswers }

/-- The order of the answers does not matter, and the lifetime is the least of
all that the answer rests on. -/
structure OrderFree (response : Response) (host : Str) (id : UInt16) :
    Prop where
  same :
    ∀ answers (perm : response.answers.Perm answers),
      SameOutcome (parse response.bytes host id)
        (parse (response.withAnswers answers perm).bytes host id)
  least :
    ∀ ips ttl, parse response.bytes host id = .ok (.addresses ips ttl) →
      ∃ entries path final, Resolves response host id entries path final ∧
        ttl.nanos = 0 ∧ ttl.secs ∈ lifetimes entries path final ∧
        ∀ lifetime ∈ lifetimes entries path final, ttl.secs ≤ lifetime

/-! ## Reading a response -/

/-- What `parse` returns for a response. -/
theorem parse_response_iff {response : Response} {host : Str} {id : UInt16}
    {ips : List Ipv4Addr} {ttl : Duration} :
    parse response.bytes host id = .ok (.addresses ips ttl) ↔
      ∃ entries path final, Resolves response host id entries path final ∧
        ips = distinctAddresses entries final ∧
        ttl =
          .fromSecs ((usedTtls entries path final).foldl min 4294967295) := by
  constructor
  · intro parsed
    obtain ⟨answers, count, cursor, opens⟩ := opens_of_parse parsed
    obtain ⟨entries, read, consistent, path, final, chain, short, nodup,
      ipsAre, ttlIs⟩ := (parse_eq_addresses_iff opens).mp parsed
    obtain ⟨accepts, rfl, rfl, rfl⟩ := opens_response_iff.mp opens
    rw [readEntries_response_iff] at read
    have answersRead := List.forall₂_take response.answers.length read
    have othersRead := List.forall₂_drop response.answers.length read
    rw [Response.records, List.take_left] at answersRead
    rw [Response.records, List.drop_left] at othersRead
    exact ⟨_, path, final, ⟨accepts, answersRead, ⟨_, othersRead⟩, consistent,
      chain, short, nodup⟩, ipsAre, ttlIs⟩
  · rintro ⟨entries, path, final, resolves, rfl, rfl⟩
    have opens := opens_response_iff.mpr ⟨resolves.accepts, rfl, rfl, rfl⟩
    obtain ⟨others, othersRead⟩ := resolves.others
    have read :
        List.Forall₂ IsEntry response.records (entries ++ others) :=
      List.rel_append resolves.answers othersRead
    have length := resolves.answers.length_eq
    have answers :
        (entries ++ others).take response.answers.length = entries := by
      rw [length, List.take_left]
    refine (parse_eq_addresses_iff opens).mpr
      ⟨entries ++ others, readEntries_response_iff.mpr read, ?_⟩
    rw [answers]
    exact ⟨resolves.consistent, path, final, resolves.chain, resolves.short,
      resolves.nodup, rfl, rfl⟩

/-- Which responses were cut does not depend on their records. -/
theorem cut_response_iff {response : Response} {host : Str} {id : UInt16} :
    Cut response.bytes host id ↔
      response.id = id ∧ response.flags.toNat &&& 0xf800 = 0x8000 ∧
        response.flags.toNat &&& 0x200 ≠ 0 ∧
        ∃ question, response.questions = [question] ∧
          NamedBy question.labels host ∧ question.kind = 1 ∧
          question.cls = 1 := by
  obtain ⟨number, flags, questions, -⟩ := words_header response
  constructor
  · intro cut
    have isNumber := cut.number
    have isQuestions := cut.questions
    obtain ⟨flagsRead, isFlags, isReply, isCut⟩ := cut.flags
    obtain ⟨after, named, kind, cls⟩ := cut.named
    rw [word_header response (by decide), number] at isNumber
    rw [word_header response (by decide), questions] at isQuestions
    rw [word_header response (by decide), flags] at isFlags
    cases isFlags
    obtain ⟨question, asked⟩ :=
      List.length_eq_one_iff.mp (Except.ok.inj isQuestions)
    obtain ⟨isName, rfl⟩ := (name_question_iff asked).mp named
    obtain ⟨isKind, isCls⟩ := words_question asked
    rw [isKind] at kind
    rw [isCls] at cls
    exact ⟨UInt16.toNat_inj.mp (Except.ok.inj isNumber), isReply, isCut,
      question, asked, isName, UInt16.toNat_inj.mp (Except.ok.inj kind),
      UInt16.toNat_inj.mp (Except.ok.inj cls)⟩
  · rintro ⟨isNumber, isReply, isCut, question, asked, isName, isKind, isCls⟩
    obtain ⟨kind, cls⟩ := words_question asked
    rw [isKind] at kind
    rw [isCls] at cls
    constructor
    · rw [Response.bytes, List.length_append, length_front asked]
      omega
    · rw [word_header response (by decide), number, isNumber]
    · exact ⟨_, (word_header response (by decide)).trans flags, isReply, isCut⟩
    · rw [word_header response (by decide), questions, asked]
      rfl
    · exact ⟨_, (name_question_iff asked).mpr ⟨isName, rfl⟩, kind, cls⟩

/-! ## Other orders -/

section Perm

variable {entries entries' : List Entry} (reordered : entries.Perm entries')

include reordered

theorem addressesOf_perm (owner : Str) :
    (addressesOf entries owner).Perm (addressesOf entries' owner) :=
  (reordered.filter _).filterMap _

theorem aliasesOf_perm (owner : Str) :
    (aliasesOf entries owner).Perm (aliasesOf entries' owner) :=
  (reordered.filter _).filterMap _

theorem Consistent.perm (consistent : Consistent entries) :
    Consistent entries' := by
  constructor
  · intro entry listed
    exact consistent.targeted entry (reordered.mem_iff.mpr listed)
  · intro owner first inFirst second inSecond
    have same := aliasesOf_perm reordered owner
    exact consistent.agree owner first (same.mem_iff.mpr inFirst) second
      (same.mem_iff.mpr inSecond)

theorem Chain.perm {owner final : Str} {path : List Str}
    (chain : Chain entries owner path final) :
    Chain entries' owner path final := by
  induction chain with
  | arrived addressed =>
      apply Chain.arrived
      intro none
      apply addressed
      rw [← List.perm_nil, ← none]
      exact addressesOf_perm reordered _
  | passed unaddressed linked later inductionHypothesis =>
      obtain ⟨ttl, listed⟩ := linked
      refine .passed ?_ ⟨ttl, ?_⟩ inductionHypothesis
      · rw [← List.perm_nil, ← unaddressed]
        exact (addressesOf_perm reordered _).symm
      · exact (aliasesOf_perm reordered _).mem_iff.mp listed

theorem mem_distinctAddresses_perm (owner : Str) (ip : Ipv4Addr) :
    ip ∈ distinctAddresses entries owner ↔
      ip ∈ distinctAddresses entries' owner := by
  rw [distinctAddresses, distinctAddresses, List.mem_eraseDups,
    List.mem_eraseDups]
  exact ((addressesOf_perm reordered owner).map _).mem_iff

theorem mem_lifetimes_perm (path : List Str) (final : Str) (lifetime : Nat) :
    lifetime ∈ lifetimes entries path final ↔
      lifetime ∈ lifetimes entries' path final := by
  have aliases (owner : Str) :
      lifetime ∈ (aliasesOf entries owner).map Prod.snd ↔
        lifetime ∈ (aliasesOf entries' owner).map Prod.snd :=
    ((aliasesOf_perm reordered owner).map _).mem_iff
  have addresses :=
    ((addressesOf_perm reordered final).map Prod.snd).mem_iff (a := lifetime)
  simp only [lifetimes, List.mem_append, List.mem_flatMap, aliases, addresses]

theorem SettledAt.perm {path : List Str} {final : Str} {least : Nat}
    (settled : SettledAt entries path final least) :
    SettledAt entries' path final least := by
  constructor
  · intro lifetime listed
    exact settled.below lifetime
      ((mem_lifetimes_perm reordered path final _).mpr listed)
  · rcases settled.holder with inAddresses | ⟨owner, inPath, all⟩
    · left
      exact ((addressesOf_perm reordered final).map _).mem_iff.mp inAddresses
    · right
      refine ⟨owner, inPath, ?_⟩
      intro found listed
      exact all found ((aliasesOf_perm reordered owner).mem_iff.mpr listed)

end Perm

/-- In another order a response resolves along the same path. -/
theorem Resolves.withAnswers {response : Response} {host final : Str}
    {id : UInt16} {entries : List Entry} {path : List Str}
    (resolves : Resolves response host id entries path final)
    {answers : List WireRecord} (perm : response.answers.Perm answers) :
    ∃ entries', entries.Perm entries' ∧
      Resolves (response.withAnswers answers perm) host id entries' path
        final := by
  obtain ⟨entries', read, reordered⟩ :=
    List.perm_comp_forall₂ perm.symm resolves.answers
  refine ⟨entries', reordered.symm, ?_⟩
  have accepts := resolves.accepts
  constructor
  · refine ⟨accepts.number, accepts.isReply, accepts.whole, accepts.accepted,
      accepts.asked, ?_⟩
    have few := accepts.few
    rw [Response.records, List.length_append] at few ⊢
    change answers.length + _ ≤ 512
    rw [← perm.length_eq]
    exact few
  · exact read
  · exact resolves.others
  · exact resolves.consistent.perm reordered.symm
  · exact resolves.chain.perm reordered.symm
  · exact resolves.short
  · exact resolves.nodup

/-! ## Lifetimes -/

theorem ttls_of_records {records : List WireRecord} {entries : List Entry}
    (read : List.Forall₂ IsEntry records entries) :
    entries.map Entry.ttl = records.map fun record => record.ttl.toNat := by
  induction read with
  | nil => rfl
  | cons isEntry later inductionHypothesis =>
      rw [List.map_cons, List.map_cons, isEntry.ttl, inductionHypothesis]

theorem ttl_of_address? {entry : Entry} {address : Ipv4Addr × Nat}
    (known : entry.address? = some address) : address.2 = entry.ttl := by
  rw [Entry.address?] at known
  split at known
  · cases known
    rfl
  · cases known

/-- Every lifetime is that of a record. -/
theorem exists_entry_of_mem_lifetimes {entries : List Entry}
    {path : List Str} {final : Str} {lifetime : Nat}
    (listed : lifetime ∈ lifetimes entries path final) :
    ∃ entry ∈ entries, entry.ttl = lifetime := by
  rcases List.mem_append.mp listed with inAliases | inAddresses
  · obtain ⟨owner, -, inOwner⟩ := List.mem_flatMap.mp inAliases
    obtain ⟨found, inFound, rfl⟩ := List.mem_map.mp inOwner
    obtain ⟨entry, inEntries, known⟩ := List.mem_filterMap.mp inFound
    exact ⟨entry, (List.mem_filter.mp inEntries).1,
      (isAlias_of_alias? known).2.2.symm⟩
  · obtain ⟨found, inFound, rfl⟩ := List.mem_map.mp inAddresses
    obtain ⟨entry, inEntries, known⟩ := List.mem_filterMap.mp inFound
    exact ⟨entry, (List.mem_filter.mp inEntries).1,
      (ttl_of_address? known).symm⟩

theorem aliasTtl_mem {entries : List Entry} {owner : Str} {lifetime : Nat}
    (known : aliasTtl entries owner = some lifetime) :
    ∃ found ∈ aliasesOf entries owner, found.2 = lifetime ∧
      (aliasesOf entries owner).getLast? = some found := by
  obtain ⟨found, last, rfl⟩ := Option.map_eq_some_iff.mp known
  exact ⟨found, List.mem_of_getLast? last, rfl, last⟩

/-- What is used is one of the lifetimes. -/
theorem mem_lifetimes_of_used {entries : List Entry} {path : List Str}
    {final : Str} {lifetime : Nat}
    (used : lifetime ∈ usedTtls entries path final) :
    lifetime ∈ lifetimes entries path final := by
  rcases List.mem_append.mp used with inAliases | inAddresses
  · obtain ⟨owner, inPath, known⟩ := List.mem_filterMap.mp inAliases
    obtain ⟨found, listed, rfl, -⟩ := aliasTtl_mem known
    exact List.mem_append_left _
      (List.mem_flatMap.mpr ⟨owner, inPath, List.mem_map_of_mem listed⟩)
  · exact List.mem_append_right _ inAddresses

theorem Chain.aliased {entries : List Entry} {owner final : Str}
    {path : List Str} (chain : Chain entries owner path final) :
    ∀ passed ∈ path, aliasesOf entries passed ≠ [] := by
  induction chain with
  | arrived addressed => exact List.forall_mem_nil _
  | passed unaddressed linked later inductionHypothesis =>
      obtain ⟨ttl, listed⟩ := linked
      exact List.forall_mem_cons.mpr
        ⟨List.ne_nil_of_mem listed, inductionHypothesis⟩

theorem Chain.addressed {entries : List Entry} {owner final : Str}
    {path : List Str} (chain : Chain entries owner path final) :
    addressesOf entries final ≠ [] := by
  induction chain with
  | arrived addressed => exact addressed
  | passed unaddressed linked later inductionHypothesis =>
      exact inductionHypothesis

theorem foldl_min_eq_or_mem (values : List Nat) (start : Nat) :
    values.foldl min start = start ∨ values.foldl min start ∈ values := by
  induction values generalizing start with
  | nil => exact .inl rfl
  | cons first later inductionHypothesis =>
      rw [List.foldl_cons]
      rcases inductionHypothesis (min start first) with same | listed
      · rw [same]
        rcases Nat.le_total start first with smaller | larger
        · rw [Nat.min_eq_left smaller]
          exact .inl rfl
        · rw [Nat.min_eq_right larger]
          exact .inr List.mem_cons_self
      · exact .inr (List.mem_cons_of_mem _ listed)

section Resolved

variable {response : Response} {host final : Str} {id : UInt16}
  {entries : List Entry} {path : List Str}
  (resolves : Resolves response host id entries path final)

include resolves

theorem Resolves.lifetime_le {lifetime : Nat}
    (listed : lifetime ∈ lifetimes entries path final) :
    lifetime ≤ 4294967295 := by
  obtain ⟨entry, inEntries, rfl⟩ := exists_entry_of_mem_lifetimes listed
  have inTtls : entry.ttl ∈ entries.map Entry.ttl :=
    List.mem_map_of_mem inEntries
  rw [ttls_of_records resolves.answers] at inTtls
  obtain ⟨record, -, same⟩ := List.mem_map.mp inTtls
  have small := record.ttl.toNat_lt
  omega

/-- A settled response has the least lifetime in its own order. -/
theorem Resolves.least_of_settled {least : Nat}
    (settled : SettledAt entries path final least) :
    (usedTtls entries path final).foldl min 4294967295 = least := by
  have used : least ∈ usedTtls entries path final := by
    rcases settled.holder with inAddresses | ⟨owner, inPath, all⟩
    · exact List.mem_append_right _ inAddresses
    · have several := resolves.chain.aliased owner inPath
      have last := List.getLast?_eq_some_getLast several
      apply List.mem_append_left
      refine List.mem_filterMap.mpr ⟨owner, inPath, ?_⟩
      rw [aliasTtl, last, Option.map_some, all _ (List.getLast_mem several)]
  apply Nat.le_antisymm
  · exact (le_foldl_min_iff.mp (Nat.le_refl _)).2 least used
  · refine le_foldl_min_iff.mpr ⟨?_, ?_⟩
    · exact resolves.lifetime_le (mem_lifetimes_of_used used)
    · intro lifetime listed
      exact settled.below lifetime (mem_lifetimes_of_used listed)

/-- A response whose answers are sorted by their lifetimes is settled if its
lifetime is the least one. -/
theorem Resolves.settled_of_sorted
    (sorted : entries.Pairwise fun first second => first.ttl ≤ second.ttl)
    (below :
      ∀ lifetime ∈ lifetimes entries path final,
        (usedTtls entries path final).foldl min 4294967295 ≤ lifetime) :
    SettledAt entries path final
      ((usedTtls entries path final).foldl min 4294967295) := by
  refine ⟨below, ?_⟩
  have held :
      (usedTtls entries path final).foldl min 4294967295 ∈
        usedTtls entries path final := by
    rcases foldl_min_eq_or_mem (usedTtls entries path final) 4294967295 with
      start | listed
    · obtain ⟨address, inAddresses⟩ :=
        List.exists_mem_of_ne_nil _ resolves.chain.addressed
      have used : address.2 ∈ usedTtls entries path final :=
        List.mem_append_right _ (List.mem_map_of_mem inAddresses)
      have most := resolves.lifetime_le (mem_lifetimes_of_used used)
      have least :=
        (le_foldl_min_iff.mp (Nat.le_of_eq start.symm)).2 address.2 used
      have same : address.2 = 4294967295 := by omega
      rw [start, ← same]
      exact used
    · exact listed
  rcases List.mem_append.mp held with inAliases | inAddresses
  · right
    obtain ⟨owner, inPath, known⟩ := List.mem_filterMap.mp inAliases
    obtain ⟨newest, -, newestTtl, last⟩ := aliasTtl_mem known
    refine ⟨owner, inPath, ?_⟩
    have ordered :
        (aliasesOf entries owner).Pairwise fun first second =>
          first.2 ≤ second.2 := by
      rw [aliasesOf, List.pairwise_filterMap]
      refine (sorted.filter _).imp ?_
      intro first second le found isFound other isOther
      rw [(isAlias_of_alias? isFound).2.2, (isAlias_of_alias? isOther).2.2]
      exact le
    intro found listed
    apply Nat.le_antisymm
    · rw [← newestTtl]
      obtain ⟨before, split⟩ := List.getLast?_eq_some_iff.mp last
      rw [split] at ordered listed
      rcases List.mem_append.mp listed with inBefore | isLast
      · exact (List.pairwise_append.mp ordered).2.2 found inBefore newest
          (List.mem_singleton_self _)
      · rw [List.mem_singleton.mp isLast]
    · apply below
      exact List.mem_append_left _
        (List.mem_flatMap.mpr ⟨owner, inPath, List.mem_map_of_mem listed⟩)
  · exact .inl inAddresses

end Resolved

/-- A response resolves in one way only. -/
theorem Resolves.unique {response : Response} {host final final' : Str}
    {id : UInt16} {entries entries' : List Entry} {path path' : List Str}
    (resolves : Resolves response host id entries path final)
    (resolves' : Resolves response host id entries' path' final') :
    entries = entries' ∧ path = path' ∧ final = final' := by
  obtain ⟨others, read⟩ := resolves.others
  obtain ⟨others', read'⟩ := resolves'.others
  have whole := readEntries_response_iff.mpr
    (List.rel_append resolves.answers read)
  have whole' := readEntries_response_iff.mpr
    (List.rel_append resolves'.answers read')
  rw [whole] at whole'
  have length := resolves.answers.length_eq
  have length' := resolves'.answers.length_eq
  have same : entries = entries' :=
    (List.append_inj (Except.ok.inj whole') (length.symm.trans length')).1
  subst same
  exact ⟨rfl, resolves.chain.unique resolves.consistent resolves'.chain⟩

/-! ## Outcomes -/

theorem cut_of_parse {bytes : Bytes} {host : Str} {id : UInt16}
    (parsed : parse bytes host id = .ok .truncated) : Cut bytes host id := by
  rcases cut_or_opens_of_parse parsed with ⟨cut, -⟩ | ⟨_, _, _, opens⟩
  · exact cut
  · rw [parse_of_opens opens] at parsed
    obtain ⟨records, collectedRecords, followed⟩ := bind_eq_ok.mp parsed
    obtain ⟨entries, -, absorbed⟩ :=
      collectRecords_eq_ok_iff.mp collectedRecords
    obtain ⟨collected, consistent⟩ := collected_of_foldlM absorbed
    obtain ⟨_, _, -, -, -, -, same⟩ :=
      (follow_eq_ok_iff collected consistent).mp followed
    cases same

section Orders

variable {response : Response} {host : Str} {id : UInt16}

theorem parse_truncated_withAnswers
    (parsed : parse response.bytes host id = .ok .truncated)
    {answers : List WireRecord} (perm : response.answers.Perm answers) :
    parse (response.withAnswers answers perm).bytes host id =
      .ok .truncated := by
  have fields := cut_response_iff.mp (cut_of_parse parsed)
  exact parse_of_cut (cut_response_iff.mpr fields)

theorem parse_addresses_withAnswers {entries : List Entry} {path : List Str}
    {final : Str} (resolves : Resolves response host id entries path final)
    {answers : List WireRecord} (perm : response.answers.Perm answers) :
    ∃ entries', entries.Perm entries' ∧
      Resolves (response.withAnswers answers perm) host id entries' path
        final ∧
      parse (response.withAnswers answers perm).bytes host id =
        .ok
          (.addresses (distinctAddresses entries' final)
            (.fromSecs
              ((usedTtls entries' path final).foldl min 4294967295))) := by
  obtain ⟨entries', reordered, resolves'⟩ := resolves.withAnswers perm
  exact ⟨entries', reordered, resolves',
    parse_response_iff.mpr ⟨entries', path, final, resolves', rfl, rfl⟩⟩

/-- In another order the outcome is of the same form. -/
theorem parse_error_withAnswers {error : WireError}
    (failed : parse response.bytes host id = .error error)
    {answers : List WireRecord} (perm : response.answers.Perm answers) :
    ∃ error',
      parse (response.withAnswers answers perm).bytes host id =
        .error error' := by
  cases outcome : parse (response.withAnswers answers perm).bytes host id with
  | error error' => exact ⟨error', rfl⟩
  | ok answer =>
      exfalso
      cases answer with
      | truncated =>
          have back := parse_truncated_withAnswers outcome perm.symm
          change parse response.bytes host id = _ at back
          rw [failed] at back
          cases back
      | addresses ips ttl =>
          obtain ⟨_, _, _, resolves, -⟩ := parse_response_iff.mp outcome
          obtain ⟨_, -, -, back⟩ :=
            parse_addresses_withAnswers resolves perm.symm
          change parse response.bytes host id = _ at back
          rw [failed] at back
          cases back

theorem orderFree_of_settled
    (settled :
      ∀ entries path final, Resolves response host id entries path final →
        ∃ least, SettledAt entries path final least) :
    OrderFree response host id := by
  constructor
  · intro answers perm
    cases outcome : parse response.bytes host id with
    | error error =>
        obtain ⟨error', failed⟩ := parse_error_withAnswers outcome perm
        rw [failed]
        trivial
    | ok answer =>
        cases answer with
        | truncated =>
            rw [parse_truncated_withAnswers outcome perm]
            trivial
        | addresses ips ttl =>
            obtain ⟨entries, path, final, resolves, rfl, rfl⟩ :=
              parse_response_iff.mp outcome
            obtain ⟨entries', reordered, resolves', parsed⟩ :=
              parse_addresses_withAnswers resolves perm
            obtain ⟨least, settledAt⟩ := settled _ _ _ resolves
            have ttl := resolves.least_of_settled settledAt
            have ttl' := resolves'.least_of_settled (settledAt.perm reordered)
            rw [parsed, ttl, ttl']
            exact ⟨mem_distinctAddresses_perm reordered final, rfl⟩
  · intro ips ttl parsed
    obtain ⟨entries, path, final, resolves, -, rfl⟩ :=
      parse_response_iff.mp parsed
    obtain ⟨least, settledAt⟩ := settled _ _ _ resolves
    have same := resolves.least_of_settled settledAt
    refine ⟨entries, path, final, resolves, rfl, ?_⟩
    change List.foldl min _ _ ∈ _ ∧ ∀ lifetime ∈ _, List.foldl min _ _ ≤ _
    rw [same]
    refine ⟨?_, settledAt.below⟩
    rcases settledAt.holder with inAddresses | ⟨owner, inPath, all⟩
    · exact List.mem_append_right _ inAddresses
    · have several := resolves.chain.aliased owner inPath
      obtain ⟨found, listed⟩ := List.exists_mem_of_ne_nil _ several
      apply List.mem_append_left
      refine List.mem_flatMap.mpr ⟨owner, inPath, ?_⟩
      rw [← all found listed]
      exact List.mem_map_of_mem listed

/-- The answers in the order of their lifetimes. -/
def byTtl (records : List WireRecord) : List WireRecord :=
  records.mergeSort fun first second => decide (first.ttl.toNat ≤ second.ttl.toNat)

theorem byTtl_perm (records : List WireRecord) :
    records.Perm (byTtl records) :=
  (List.mergeSort_perm records _).symm

theorem sorted_of_byTtl {records : List WireRecord} {entries : List Entry}
    (read : List.Forall₂ IsEntry (byTtl records) entries) :
    entries.Pairwise fun first second => first.ttl ≤ second.ttl := by
  have sorted :
      (byTtl records).Pairwise fun first second =>
        decide (first.ttl.toNat ≤ second.ttl.toNat) = true := by
    apply List.pairwise_mergeSort
    · intro first second third
      simp only [decide_eq_true_eq]
      exact Nat.le_trans
    · intro first second
      simp only [Bool.or_eq_true, decide_eq_true_eq]
      exact Nat.le_total _ _
  have ttls : (entries.map Entry.ttl).Pairwise (· ≤ ·) := by
    rw [ttls_of_records read, List.pairwise_map]
    exact sorted.imp of_decide_eq_true
  exact List.pairwise_map.mp ttls

theorem settled_of_orderFree (free : OrderFree response host id)
    {entries : List Entry} {path : List Str} {final : Str}
    (resolves : Resolves response host id entries path final) :
    ∃ least, SettledAt entries path final least := by
  have perm := byTtl_perm response.answers
  have parsed := parse_response_iff.mpr
    ⟨entries, path, final, resolves, rfl, rfl⟩
  obtain ⟨entries', reordered, resolves', parsed'⟩ :=
    parse_addresses_withAnswers resolves perm
  have same := free.same _ perm
  rw [parsed, parsed'] at same
  obtain ⟨-, sameTtl⟩ := same
  have secs := congrArg Duration.secs sameTtl
  change List.foldl min _ _ = List.foldl min _ _ at secs
  obtain ⟨_, _, _, resolves'', -, -, below⟩ := free.least _ _ parsed
  obtain ⟨rfl, rfl, rfl⟩ := resolves.unique resolves''
  refine ⟨_, SettledAt.perm reordered.symm
    (resolves'.settled_of_sorted (sorted_of_byTtl resolves'.answers) ?_)⟩
  intro lifetime listed
  rw [← secs]
  exact below lifetime ((mem_lifetimes_perm reordered _ _ _).mpr listed)

end Orders

/-- The order of the answers does not matter exactly if the least lifetime of a
response that resolves is that of an address or of all aliases of an owner. -/
theorem orderFree_iff (response : Response) (host : Str) (id : UInt16) :
    OrderFree response host id ↔
      ∀ entries path final, Resolves response host id entries path final →
        ∃ least, SettledAt entries path final least :=
  ⟨fun free _ _ _ => settled_of_orderFree free, orderFree_of_settled⟩

/-- An alias from `a` to `b`. -/
def aliasRecord (ttl : UInt32) : WireRecord where
  owner := [[0x61]]
  kind := 5
  cls := 1
  ttl
  data := .name [[0x62]]
  sized := by simp [Sized]
  sizedName := by
    rintro labels same
    cases same
    simp [Sized]
  fits := by decide
  named _ _ := ⟨_, rfl⟩

/-- The address of `b`. -/
def addressRecord (ttl : UInt32) : WireRecord where
  owner := [[0x62]]
  kind := 1
  cls := 1
  ttl
  data := .raw [10, 0, 0, 7]
  sized := by simp [Sized]
  sizedName := by
    rintro labels same
    cases same
  fits := by decide
  named kind := absurd kind (by decide)

/-- An answer in which the alias occurs twice. -/
def twoAliases : Response where
  id := 7
  flags := 0x8180
  questions := [⟨[[0x61]], 1, 1, by simp [Sized]⟩]
  answers := [aliasRecord 3, aliasRecord 9, addressRecord 7]
  authorities := []
  additional := []
  countedQuestions := by decide
  countedAnswers := by decide
  countedAuthorities := by decide
  countedAdditional := by decide

theorem swap_aliases :
    twoAliases.answers.Perm [aliasRecord 9, aliasRecord 3, addressRecord 7] :=
  .swap _ _ _

/-- The alias that comes first may be the shorter one. -/
theorem first_alias_outlived :
    parse twoAliases.bytes ['a'] 7 =
        .ok (.addresses [⟨10, 0, 0, 7⟩] (.fromSecs 7)) ∧
      parse (twoAliases.withAnswers _ swap_aliases).bytes ['a'] 7 =
        .ok (.addresses [⟨10, 0, 0, 7⟩] (.fromSecs 3)) ∧
      ¬OrderFree twoAliases ['a'] 7 := by
  have parsed :
      parse twoAliases.bytes ['a'] 7 =
        .ok (.addresses [⟨10, 0, 0, 7⟩] (.fromSecs 7)) := by
    decide +kernel
  have swapped :
      parse (twoAliases.withAnswers _ swap_aliases).bytes ['a'] 7 =
        .ok (.addresses [⟨10, 0, 0, 7⟩] (.fromSecs 3)) := by
    decide +kernel
  refine ⟨parsed, swapped, ?_⟩
  intro free
  have same := free.same _ swap_aliases
  rw [parsed, swapped] at same
  exact absurd (congrArg Duration.secs same.2) (by decide)

end HermesAtrust.Net.Dns
