import HermesAtrust.Net.DnsChain

/-!
# What an answer rests on

Whatever `parse` returns comes from the answer section alone: from the aliases
on the way from the host and from the addresses at its end.  Every read is
inside of the message, and whatever goes wrong is one of three errors.
-/

namespace HermesAtrust.Net.Dns

open HermesAtrust.Collections HermesAtrust.Framing HermesAtrust.L3
open HermesAtrust.Text

/-! ## Reads and errors -/

/-- Where the code indexes a slice, the slice has as many bytes, and a name ends
inside of the message. -/
structure ReadsInside (bytes : Bytes) : Prop where
  slices :
    ∀ start length data, slice? bytes start length = some data →
      data.length = length ∧ start + length ≤ bytes.length
  words :
    ∀ offset,
      slice? bytes offset 2 = none ∧ word bytes offset = .error bad ∨
        ∃ high low, slice? bytes offset 2 = some [high, low] ∧
          word bytes offset = .ok (beU16 high low)
  names :
    ∀ offset,
      name bytes offset = .error bad ∨
        ∃ value after, name bytes offset = .ok (value, after) ∧
          after ≤ bytes.length

/-- The computation fails with one of these errors if it fails. -/
def FailsWith {Value : Type} (allowed : List WireError)
    (computation : Except WireError Value) : Prop :=
  ∀ error, computation = .error error → error ∈ allowed

theorem Spells.ending_le {bytes : Bytes} {cursor steps ending : Nat}
    {labels : List Bytes} (spelled : Spells bytes cursor labels steps ending) :
    ending ≤ bytes.length := by
  induction spelled with
  | root known => exact (List.getElem?_eq_some_iff.mp known).1
  | label known positive short inside later inductionHypothesis =>
      exact inductionHypothesis
  | pointer known marked pairIs back later inductionHypothesis =>
      exact le_length_of_word pairIs

theorem slice?_two (bytes : Bytes) (offset : Nat) :
    slice? bytes offset 2 = none ∧ word bytes offset = .error bad ∨
      ∃ high low, slice? bytes offset 2 = some [high, low] ∧
        word bytes offset = .ok (beU16 high low) := by
  by_cases inside : offset + 2 ≤ bytes.length
  · right
    refine ⟨byteAt bytes offset, byteAt bytes (offset + 1), ?_, ?_⟩
    · have first : offset < bytes.length := by omega
      have second : offset + 1 < bytes.length := by omega
      rw [slice?, if_pos inside, List.drop_eq_getElem_cons first,
        List.drop_eq_getElem_cons second, byteAt, byteAt,
        List.getD_eq_getElem bytes 0 first,
        List.getD_eq_getElem bytes 0 second]
      rfl
    · rw [word, if_pos inside]
  · left
    rw [slice?, if_neg inside, word, if_neg inside]
    exact ⟨rfl, rfl⟩

theorem readsInside (bytes : Bytes) : ReadsInside bytes := by
  constructor
  · intro start length data inside
    exact length_of_slice? inside
  · exact slice?_two bytes
  · intro offset
    cases named : name bytes offset with
    | error error =>
        left
        rw [name_eq_error named]
    | ok found =>
        right
        obtain ⟨labels, texts, steps, spelled, -⟩ := name_eq_ok_iff.mp named
        exact ⟨found.1, found.2, rfl, spelled.ending_le⟩

section Fails

variable {Value Result : Type} {allowed : List WireError}

theorem failsWith_ok (value : Value) : FailsWith allowed (.ok value) := by
  intro error failed
  cases failed

theorem failsWith_error {error : WireError} (listed : error ∈ allowed) :
    FailsWith allowed (.error error : Except WireError Value) := by
  intro other failed
  cases failed
  exact listed

theorem FailsWith.bind {first : Except WireError Value}
    {next : Value → Except WireError Result} (firstFails : FailsWith allowed first)
    (nextFails : ∀ value, FailsWith allowed (next value)) :
    FailsWith allowed (first >>= next) := by
  intro error failed
  cases first with
  | error other =>
      cases failed
      exact firstFails error rfl
  | ok value => exact nextFails value error failed

theorem failsWith_ite {condition : Prop} [Decidable condition]
    {first second : Except WireError Value}
    (firstFails : FailsWith allowed first)
    (secondFails : FailsWith allowed second) :
    FailsWith allowed (if condition then first else second) := by
  split
  · exact firstFails
  · exact secondFails

end Fails

section Errors

variable {allowed : List WireError} (badAllowed : bad ∈ allowed) (bytes : Bytes)

include badAllowed

theorem word_fails (offset : Nat) : FailsWith allowed (word bytes offset) := by
  intro error failed
  rw [word_eq_error failed]
  exact badAllowed

theorem name_fails (offset : Nat) : FailsWith allowed (name bytes offset) := by
  intro error failed
  rw [name_eq_error failed]
  exact badAllowed

theorem readEntry_fails (cursor : Nat) :
    FailsWith allowed (readEntry bytes cursor) := by
  apply (name_fails badAllowed bytes cursor).bind
  intro found
  apply (word_fails badAllowed bytes _).bind
  intro kind
  apply (word_fails badAllowed bytes _).bind
  intro cls
  apply (word_fails badAllowed bytes _).bind
  intro high
  apply (word_fails badAllowed bytes _).bind
  intro low
  apply (word_fails badAllowed bytes _).bind
  intro length
  cases slice? bytes (found.2 + 10) length with
  | none => exact failsWith_error badAllowed
  | some data => exact failsWith_ok _

omit bytes in
theorem absorb_fails (records : Records) (entry : Entry) :
    FailsWith allowed (absorb records entry) := by
  apply failsWith_ite (failsWith_ok _)
  apply failsWith_ite (failsWith_ok _)
  apply failsWith_ite _ (failsWith_ok _)
  cases entry.target with
  | none => exact failsWith_error badAllowed
  | some target =>
      simp only
      cases records.aliases.lookup entry.owner with
      | none => exact failsWith_ok _
      | some previous =>
          exact failsWith_ite (failsWith_error badAllowed) (failsWith_ok _)

theorem collectRecords_fails (answers count index cursor : Nat)
    (records : Records) :
    FailsWith allowed
      (collectRecords bytes answers count index cursor records) := by
  induction count generalizing index cursor records with
  | zero => exact failsWith_ok _
  | succ count inductionHypothesis =>
      rw [collectRecords, record_eq]
      apply FailsWith.bind
      · apply (readEntry_fails badAllowed bytes cursor).bind
        intro found
        apply FailsWith.bind
        · exact failsWith_ite (absorb_fails badAllowed records _)
            (failsWith_ok _)
        · intro changed
          exact failsWith_ok _
      · intro changed
        exact inductionHypothesis _ _ _

omit bytes in
theorem follow_fails (unmatchedAllowed : unmatched ∈ allowed)
    (records : Records) (fuel : Nat) (owner : Str) (ttl : Nat)
    (seen : List Str) :
    FailsWith allowed (follow records fuel owner ttl seen) := by
  induction fuel generalizing owner ttl seen with
  | zero => exact failsWith_error unmatchedAllowed
  | succ fuel inductionHypothesis =>
      rw [follow]
      apply failsWith_ite (failsWith_error badAllowed)
      cases records.addresses.lookup owner with
      | some values => exact failsWith_ok _
      | none =>
          cases records.aliases.lookup owner with
          | none => exact failsWith_error unmatchedAllowed
          | some found => exact inductionHypothesis _ _ _

end Errors

theorem parse_fails (bytes : Bytes) (host : Str) (id : UInt16) :
    FailsWith [bad, rejected, unmatched] (parse bytes host id) := by
  have badAllowed : bad ∈ [bad, rejected, unmatched] := by simp
  have words := word_fails badAllowed bytes
  apply failsWith_ite (failsWith_error badAllowed)
  apply (words 0).bind
  intro number
  apply (words 2).bind
  intro flags
  apply (words 4).bind
  intro questions
  apply failsWith_ite (failsWith_error badAllowed)
  apply (name_fails badAllowed bytes 12).bind
  intro asked
  apply (words _).bind
  intro kind
  apply (words _).bind
  intro cls
  apply failsWith_ite (failsWith_error badAllowed)
  apply failsWith_ite (failsWith_ok _)
  apply failsWith_ite (failsWith_error (by simp))
  apply (words 6).bind
  intro answers
  apply (words 8).bind
  intro authorities
  apply (words 10).bind
  intro additional
  apply failsWith_ite (failsWith_error badAllowed)
  apply (collectRecords_fails badAllowed bytes _ _ _ _ _).bind
  intro records
  exact follow_fails badAllowed (by simp) records _ _ _ _

/-! ## Sections -/

/-- The records of the answer section and those of the other two sections. -/
def Sections (bytes : Bytes) (answers others : List Entry) : Prop :=
  ∃ asked after authorities additional,
    name bytes 12 = .ok (asked, after) ∧
      word bytes 6 = .ok answers.length ∧ word bytes 8 = .ok authorities ∧
      word bytes 10 = .ok additional ∧
      others.length = authorities + additional ∧
      readEntries bytes (answers.length + authorities + additional)
          (after + 4) =
        .ok (answers ++ others)

theorem length_readEntries {bytes : Bytes} {count cursor : Nat}
    {entries : List Entry}
    (read : readEntries bytes count cursor = .ok entries) :
    entries.length = count := by
  induction count generalizing cursor entries with
  | zero =>
      cases read
      rfl
  | succ count inductionHypothesis =>
      obtain ⟨⟨entry, next⟩, -, rest⟩ := bind_eq_ok.mp read
      obtain ⟨later, readLater, same⟩ := bind_eq_ok.mp rest
      cases same
      rw [List.length_cons, inductionHypothesis readLater]

theorem Opens.sections {bytes : Bytes} {host : Str} {id : UInt16}
    {answers count cursor : Nat} {entries : List Entry}
    (opens : Opens bytes host id answers count cursor)
    (read : readEntries bytes count cursor = .ok entries) :
    Sections bytes (entries.take answers) (entries.drop answers) := by
  obtain ⟨after, named, -, -, rfl⟩ := opens.named
  obtain ⟨authorities, additional, authoritiesAre, additionalAre, rfl⟩ :=
    opens.counted
  have whole := length_readEntries read
  have front : (entries.take answers).length = answers := by
    rw [List.length_take]
    omega
  refine ⟨host, after, authorities, additional, named, ?_, authoritiesAre,
    additionalAre, ?_, ?_⟩
  · rw [front]
    exact opens.answersAre
  · rw [List.length_drop]
    omega
  · rw [front, List.take_append_drop]
    exact read

/-- A message has only one division into sections. -/
theorem Sections.unique {bytes : Bytes}
    {answers others answers' others' : List Entry}
    (sections : Sections bytes answers others)
    (sections' : Sections bytes answers' others') :
    answers = answers' ∧ others = others' := by
  obtain ⟨_, after, _, _, named, counted, authorities, additional, -, read⟩ :=
    sections
  obtain ⟨_, after', _, _, named', counted', authorities', additional', -,
    read'⟩ := sections'
  rw [named] at named'
  rw [counted] at counted'
  rw [authorities] at authorities'
  rw [additional] at additional'
  cases named'
  cases authorities'
  cases additional'
  have length : answers.length = answers'.length := Except.ok.inj counted'
  rw [length, read'] at read
  exact List.append_inj (Except.ok.inj read).symm length

/-! ## What is returned -/

theorem Chain.unique {entries : List Entry} (consistent : Consistent entries)
    {owner final final' : Str} {path path' : List Str}
    (chain : Chain entries owner path final)
    (chain' : Chain entries owner path' final') :
    path = path' ∧ final = final' := by
  induction chain generalizing path' with
  | arrived addressed =>
      cases chain' with
      | arrived _ => exact ⟨rfl, rfl⟩
      | passed unaddressed => exact absurd unaddressed addressed
  | passed unaddressed linked later inductionHypothesis =>
      cases chain' with
      | arrived addressed => exact absurd unaddressed addressed
      | passed _ linked' later' =>
          obtain ⟨ttl, listed⟩ := linked
          obtain ⟨ttl', listed'⟩ := linked'
          cases consistent.agree _ _ listed _ listed'
          obtain ⟨rfl, rfl⟩ := inductionHypothesis later'
          exact ⟨rfl, rfl⟩

/-- The addresses and their lifetime rest on the records of the answer
section. -/
structure Justified (answers : List Entry) (host : Str) (ips : List Ipv4Addr)
    (ttl : Duration) : Prop where
  agree :
    ∀ owner, ∀ first ∈ aliasesOf answers owner,
      ∀ second ∈ aliasesOf answers owner, first.1 = second.1
  chain :
    ∃ path final, Chain answers host path final ∧ (path ++ [final]).Nodup ∧
      ips = distinctAddresses answers final ∧
      ∀ address ∈ addressesOf answers final, ttl.secs ≤ address.2
  whole : ttl.nanos = 0

/-- No answer section gives two results. -/
theorem parse_eq_of_sections {bytes bytes' : Bytes} {host : Str}
    {id id' : UInt16} {answers others others' : List Entry}
    {ips ips' : List Ipv4Addr} {ttl ttl' : Duration}
    (sections : Sections bytes answers others)
    (sections' : Sections bytes' answers others')
    (parsed : parse bytes host id = .ok (.addresses ips ttl))
    (parsed' : parse bytes' host id' = .ok (.addresses ips' ttl')) :
    ips' = ips ∧ ttl' = ttl := by
  obtain ⟨_, _, _, opens⟩ := opens_of_parse parsed
  obtain ⟨_, _, _, opens'⟩ := opens_of_parse parsed'
  obtain ⟨_, read, consistent, _, _, chain, -, -, rfl, rfl⟩ :=
    (parse_eq_addresses_iff opens).mp parsed
  obtain ⟨_, read', -, _, _, chain', -, -, rfl, rfl⟩ :=
    (parse_eq_addresses_iff opens').mp parsed'
  have same := (sections.unique (opens.sections read)).1
  have same' := (sections'.unique (opens'.sections read')).1
  rw [← same] at chain consistent ⊢
  rw [← same'] at chain' ⊢
  obtain ⟨rfl, rfl⟩ := chain.unique consistent chain'
  exact ⟨rfl, rfl⟩

/-- Whatever `parse` returns rests on the records of the answer section, and
neither `parse` nor `name` reads outside of the message. -/
theorem parse_rests_on_answers (bytes : Bytes) (host : Str) (id : UInt16) :
    ReadsInside bytes ∧
      FailsWith [bad, rejected, unmatched] (parse bytes host id) ∧
      ∀ ips ttl, parse bytes host id = .ok (.addresses ips ttl) →
        ∃ answers others, Sections bytes answers others ∧
          Justified answers host ips ttl ∧
          ∀ bytes' id' others' ips' ttl', Sections bytes' answers others' →
            parse bytes' host id' = .ok (.addresses ips' ttl') →
              ips' = ips ∧ ttl' = ttl := by
  refine ⟨readsInside bytes, parse_fails bytes host id, ?_⟩
  intro ips ttl parsed
  obtain ⟨answers, count, cursor, opens⟩ := opens_of_parse parsed
  obtain ⟨entries, read, consistent, path, final, chain, -, nodup, ipsAre,
    ttlIs⟩ := (parse_eq_addresses_iff opens).mp parsed
  have sections := opens.sections read
  refine ⟨entries.take answers, entries.drop answers, sections,
    ⟨consistent.agree, ⟨path, final, chain, nodup, ipsAre, ?_⟩,
      congrArg (·.nanos) ttlIs⟩, ?_⟩
  · intro address listed
    have least := le_foldl_min_iff.mp (Nat.le_of_eq (congrArg (·.secs) ttlIs))
    exact least.2 address.2
      (List.mem_append_right _ (List.mem_map_of_mem listed))
  · intro bytes' id' others' ips' ttl' sections' parsed'
    exact parse_eq_of_sections sections sections' parsed parsed'

/-- An answer of an alias and of its address. -/
def aliasAnswer : Bytes :=
  [0, 7, 0x81, 0x80, 0, 1, 0, 2, 0, 0, 0, 0, 1, 0x61, 0, 0, 1, 0, 1] ++
    [0xc0, 12, 0, 5, 0, 1, 0, 0, 0, 9, 0, 3, 1, 0x62, 0] ++
    [1, 0x62, 0, 0, 1, 0, 1, 0, 0, 0, 7, 0, 4, 10, 0, 0, 7]

theorem parse_rests_on_answers_sample :
    parse aliasAnswer ['a'] 7 =
        .ok (.addresses [⟨10, 0, 0, 7⟩] (.fromSecs 7)) ∧
      ∃ answers others, Sections aliasAnswer answers others ∧
        Justified answers ['a'] [⟨10, 0, 0, 7⟩] (.fromSecs 7) := by
  have parsed :
      parse aliasAnswer ['a'] 7 =
        .ok (.addresses [⟨10, 0, 0, 7⟩] (.fromSecs 7)) := by
    decide +kernel
  obtain ⟨answers, others, sections, justified, -⟩ :=
    (parse_rests_on_answers aliasAnswer ['a'] 7).2.2 _ _ parsed
  exact ⟨parsed, answers, others, sections, justified⟩

end HermesAtrust.Net.Dns
