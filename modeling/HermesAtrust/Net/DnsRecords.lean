import HermesAtrust.Net.DnsMessages

/-!
# The records of a message

What the loop over the records reads, apart from what it does with it: a list
of entries, of which only the first ones, those of the answer section, are
absorbed.  After the loop every owner has the addresses of its entries, and as
alias the last of its entries, which all have the same target.
-/

namespace HermesAtrust.Net.Dns

open HermesAtrust.Collections HermesAtrust.Framing HermesAtrust.L3
open HermesAtrust.Text

/-- A record as it stands in a message.  The target is the name that fills the
data of an alias. -/
structure Entry where
  owner : Str
  kind : Nat
  cls : Nat
  ttl : Nat
  data : Bytes
  target : Option Str

/-- The name at an offset, if it has the given length. -/
def nameFilling (bytes : Bytes) (cursor length : Nat) : Option Str :=
  match name bytes cursor with
  | .error _ => none
  | .ok (value, ending) => if ending = cursor + length then some value else none

/-- The record at an offset and the offset behind it. -/
def readEntry (bytes : Bytes) (cursor : Nat) :
    Except WireError (Entry × Nat) := do
  let (owner, cursor) ← name bytes cursor
  let kind ← word bytes cursor
  let cls ← word bytes (cursor + 2)
  let high ← word bytes (cursor + 4)
  let low ← word bytes (cursor + 6)
  let length ← word bytes (cursor + 8)
  match slice? bytes (cursor + 10) length with
  | none => .error bad
  | some data =>
      let target :=
        if kind = 5 ∧ cls = 1 then
          nameFilling bytes (cursor + 10) data.length
        else
          none
      .ok
        (⟨owner, kind, cls, high <<< 16 ||| low, data, target⟩,
          cursor + 10 + length)

/-- So many records from an offset on. -/
def readEntries (bytes : Bytes) : Nat → Nat → Except WireError (List Entry)
  | 0, _ => .ok []
  | count + 1, cursor => do
      let (entry, cursor) ← readEntry bytes cursor
      let later ← readEntries bytes count cursor
      .ok (entry :: later)

/-- What an answer changes. -/
def absorb (records : Records) (entry : Entry) : Except WireError Records :=
  if entry.cls ≠ 1 then
    .ok records
  else if entry.kind = 1 ∧ entry.data.length = 4 then
    let address :=
      ⟨byteAt entry.data 0, byteAt entry.data 1, byteAt entry.data 2,
        byteAt entry.data 3⟩
    let held := (records.addresses.lookup entry.owner).getD []
    .ok
      { records with
        addresses :=
          records.addresses.insert entry.owner
            (held ++ [(address, entry.ttl)]) }
  else if entry.kind = 5 then
    match entry.target with
    | none => .error bad
    | some target =>
        let aliases := records.aliases.insert entry.owner (target, entry.ttl)
        match records.aliases.lookup entry.owner with
        | none => .ok { records with aliases }
        | some previous =>
            if previous.1 ≠ target then
              .error bad
            else
              .ok { records with aliases }
  else
    .ok records

/-! ## Errors -/

theorem word_eq_error {bytes : Bytes} {offset : Nat} {error : WireError}
    (failed : word bytes offset = .error error) : error = bad := by
  rw [word] at failed
  split at failed
  · cases failed
  · cases failed
    rfl

theorem walk_eq_error {bytes : Bytes} {fuel cursor : Nat}
    {resume : Option Nat} {read : List Str} {error : WireError}
    (failed : walk bytes fuel cursor resume read = .error error) :
    error = bad := by
  induction fuel generalizing cursor resume read with
  | zero =>
      cases failed
      rfl
  | succ fuel inductionHypothesis =>
      rw [walk] at failed
      split at failed
      · cases failed
        rfl
      · next length known =>
          split at failed
          · split at failed
            · next wordFailed =>
                cases failed
                exact word_eq_error wordFailed
            · simp only at failed
              split at failed
              · cases failed
                rfl
              · exact inductionHypothesis failed
          · split at failed
            · simp only at failed
              split at failed
              · cases failed
                rfl
              · cases failed
            · split at failed
              · cases failed
                rfl
              · split at failed
                · cases failed
                  rfl
                · split at failed
                  · cases failed
                    rfl
                  · exact inductionHypothesis failed

theorem name_eq_error {bytes : Bytes} {offset : Nat} {error : WireError}
    (failed : name bytes offset = .error error) : error = bad :=
  walk_eq_error failed

/-! ## The loop over the records -/

theorem ok_bind {Value Result : Type} (value : Value)
    (next : Value → Except WireError Result) :
    (Except.ok value >>= next) = next value :=
  rfl

/-- Records of other classes do not count. -/
theorem absorb_foreign {records : Records} {entry : Entry}
    (foreign : entry.cls ≠ 1) : absorb records entry = .ok records :=
  if_pos foreign

/-- What the code does with the data of an answer is what `absorb` does with
the entry. -/
theorem collect_eq_absorb (bytes : Bytes) (owner : Str) (kind ttl : Nat)
    (data : Bytes) (cursor : Nat) (records : Records) :
    collect bytes owner kind ttl data cursor records =
      absorb records
        ⟨owner, kind, 1, ttl, data,
          if kind = 5 ∧ 1 = 1 then nameFilling bytes cursor data.length
          else none⟩ := by
  rw [collect, absorb]
  by_cases address : kind = 1 ∧ data.length = 4
  · simp only [address, and_self, if_true, ne_eq, not_true_eq_false, if_false]
  · simp only [address, if_false, ne_eq, not_true_eq_false]
    by_cases isAlias : kind = 5
    · simp only [isAlias, and_self, if_true, nameFilling]
      cases named : name bytes cursor with
      | error error =>
          rw [name_eq_error named]
          rfl
      | ok found =>
          obtain ⟨target, ending⟩ := found
          by_cases fills : ending = cursor + data.length
          · cases records.aliases.lookup owner with
            | none =>
                simp only [bind, Except.bind, fills, not_true_eq_false,
                  if_false, if_true]
            | some previous =>
                simp only [bind, Except.bind, fills, not_true_eq_false,
                  if_false, if_true]
          · simp only [bind, Except.bind, fills, not_false_eq_true, if_true,
              if_false]
    · simp only [isAlias, if_false]

theorem record_eq (bytes : Bytes) (answers index cursor : Nat)
    (records : Records) :
    record bytes answers index cursor records =
      (readEntry bytes cursor >>= fun (entry, next) =>
        (if index < answers then absorb records entry else .ok records) >>=
          fun records => .ok (next, records)) := by
  simp only [record, readEntry, bind_assoc]
  refine bind_congr fun found => ?_
  refine bind_congr fun kind => ?_
  refine bind_congr fun cls => ?_
  refine bind_congr fun high => ?_
  refine bind_congr fun low => ?_
  refine bind_congr fun length => ?_
  cases slice? bytes (found.2 + 10) length with
  | none => rfl
  | some data =>
      by_cases answer : index < answers
      · by_cases internet : cls = 1
        · subst internet
          simp only [answer, true_and, if_true, collect_eq_absorb, ok_bind]
        · simp only [answer, internet, and_false, if_false, if_true, ok_bind]
          rw [absorb_foreign internet]
          rfl
      · simp only [answer, false_and, if_false, ok_bind]

/-- The loop reads all records and absorbs those of the answer section. -/
theorem collectRecords_eq_ok_iff {bytes : Bytes}
    {answers count index cursor : Nat} {records result : Records} :
    collectRecords bytes answers count index cursor records = .ok result ↔
      ∃ entries, readEntries bytes count cursor = .ok entries ∧
        (entries.take (answers - index)).foldlM absorb records =
          .ok result := by
  induction count generalizing index cursor records with
  | zero =>
      rw [collectRecords, readEntries]
      constructor
      · intro same
        exact ⟨[], rfl, by rw [List.take_nil]; exact same⟩
      · rintro ⟨entries, none, absorbed⟩
        cases none
        rw [List.take_nil] at absorbed
        exact absorbed
  | succ count inductionHypothesis =>
      rw [collectRecords, readEntries, record_eq]
      simp only [bind_assoc, bind_eq_ok, ok_bind, inductionHypothesis]
      constructor
      · rintro ⟨⟨entry, next⟩, read, changed, absorbed, later, readLater, rest⟩
        refine ⟨entry :: later, ⟨⟨entry, next⟩, read, later, readLater, rfl⟩, ?_⟩
        by_cases answer : index < answers
        · rw [if_pos answer] at absorbed
          obtain ⟨more, split⟩ := Nat.exists_eq_add_of_lt answer
          have left : answers - index = answers - (index + 1) + 1 := by omega
          rw [left, List.take_succ_cons, List.foldlM_cons, bind_eq_ok]
          exact ⟨changed, absorbed, rest⟩
        · rw [if_neg answer] at absorbed
          cases absorbed
          have none : answers - index = 0 := by omega
          have noneLater : answers - (index + 1) = 0 := by omega
          rw [noneLater] at rest
          rw [none]
          exact rest
      · rintro ⟨entries, ⟨⟨entry, next⟩, read, later, readLater, same⟩, rest⟩
        cases same
        by_cases answer : index < answers
        · have left : answers - index = answers - (index + 1) + 1 := by omega
          rw [left, List.take_succ_cons, List.foldlM_cons, bind_eq_ok] at rest
          obtain ⟨changed, absorbed, rest⟩ := rest
          refine ⟨⟨entry, next⟩, read, changed, ?_, later, readLater, rest⟩
          rw [if_pos answer]
          exact absorbed
        · have none : answers - index = 0 := by omega
          have noneLater : answers - (index + 1) = 0 := by omega
          refine ⟨⟨entry, next⟩, read, records, ?_, later, readLater, ?_⟩
          · rw [if_neg answer]
          · rw [none] at rest
            rw [noneLater]
            exact rest

/-! ## What the owners have -/

/-- The address of a record and its lifetime. -/
def Entry.address? (entry : Entry) : Option (Ipv4Addr × Nat) :=
  if entry.cls = 1 ∧ entry.kind = 1 ∧ entry.data.length = 4 then
    some
      (⟨byteAt entry.data 0, byteAt entry.data 1, byteAt entry.data 2,
        byteAt entry.data 3⟩, entry.ttl)
  else
    none

def Entry.isAlias (entry : Entry) : Prop :=
  entry.cls = 1 ∧ entry.kind = 5

instance (entry : Entry) : Decidable entry.isAlias :=
  inferInstanceAs (Decidable (_ ∧ _))

/-- The target of an alias and its lifetime. -/
def Entry.alias? (entry : Entry) : Option (Str × Nat) :=
  if entry.isAlias then
    entry.target.map fun target => (target, entry.ttl)
  else
    none

/-- The addresses of an owner, in order. -/
def addressesOf (entries : List Entry) (owner : Str) :
    List (Ipv4Addr × Nat) :=
  (entries.filter (·.owner = owner)).filterMap Entry.address?

/-- The targets of an owner, in order. -/
def aliasesOf (entries : List Entry) (owner : Str) : List (Str × Nat) :=
  (entries.filter (·.owner = owner)).filterMap Entry.alias?

/-- Every alias has a target, and the aliases of one owner have the same. -/
structure Consistent (entries : List Entry) : Prop where
  targeted : ∀ entry ∈ entries, entry.isAlias → entry.target ≠ none
  agree :
    ∀ owner, ∀ first ∈ aliasesOf entries owner,
      ∀ second ∈ aliasesOf entries owner, first.1 = second.1

/-- What the loop knows about the entries it has absorbed. -/
structure Collected (entries : List Entry) (records : Records) : Prop where
  addresses :
    ∀ owner, (records.addresses.lookup owner).getD [] =
      addressesOf entries owner
  nonempty : ∀ owner, records.addresses.lookup owner ≠ some []
  aliases :
    ∀ owner, records.aliases.lookup owner =
      (aliasesOf entries owner).getLast?

theorem addressesOf_concat (entries : List Entry) (entry : Entry)
    (owner : Str) :
    addressesOf (entries ++ [entry]) owner =
      addressesOf entries owner ++
        if entry.owner = owner then entry.address?.toList else [] := by
  rw [addressesOf, List.filter_append, List.filterMap_append]
  by_cases same : entry.owner = owner
  · rw [if_pos same, List.filter_cons_of_pos (by simpa using same)]
    cases known : entry.address? <;> simp [known, addressesOf]
  · rw [if_neg same, List.filter_cons_of_neg (by simpa using same)]
    rfl

theorem aliasesOf_concat (entries : List Entry) (entry : Entry) (owner : Str) :
    aliasesOf (entries ++ [entry]) owner =
      aliasesOf entries owner ++
        if entry.owner = owner then entry.alias?.toList else [] := by
  rw [aliasesOf, List.filter_append, List.filterMap_append]
  by_cases same : entry.owner = owner
  · rw [if_pos same, List.filter_cons_of_pos (by simpa using same)]
    cases known : entry.alias? <;> simp [known, aliasesOf]
  · rw [if_neg same, List.filter_cons_of_neg (by simpa using same)]
    rfl

section Absorb

variable {entry : Entry} (records : Records)

theorem absorb_address {address : Ipv4Addr × Nat}
    (known : entry.address? = some address) :
    absorb records entry =
      .ok
        { records with
          addresses :=
            records.addresses.insert entry.owner
              ((records.addresses.lookup entry.owner).getD [] ++
                [address]) } := by
  rw [Entry.address?] at known
  split at known
  · next isAddress =>
      cases known
      rw [absorb, if_neg (not_not_intro isAddress.1), if_pos isAddress.2]
  · cases known

theorem alias?_of_address? {address : Ipv4Addr × Nat}
    (known : entry.address? = some address) : ¬entry.isAlias := by
  rw [Entry.address?] at known
  split at known
  · next isAddress =>
      rintro ⟨-, isAlias⟩
      rw [isAddress.2.1] at isAlias
      cases isAlias
  · cases known

theorem absorb_other (noAddress : entry.address? = none)
    (noAlias : ¬entry.isAlias) : absorb records entry = .ok records := by
  by_cases internet : entry.cls = 1
  · have notAddress : ¬(entry.kind = 1 ∧ entry.data.length = 4) := by
      intro isAddress
      rw [Entry.address?, if_pos ⟨internet, isAddress⟩] at noAddress
      cases noAddress
    have notAlias : entry.kind ≠ 5 := fun kind => noAlias ⟨internet, kind⟩
    rw [absorb, if_neg (not_not_intro internet), if_neg notAddress,
      if_neg notAlias]
  · exact absorb_foreign internet

theorem absorb_alias_iff (isAlias : entry.isAlias) {result : Records} :
    absorb records entry = .ok result ↔
      ∃ target, entry.target = some target ∧
        (∀ previous, records.aliases.lookup entry.owner = some previous →
          previous.1 = target) ∧
        result =
          { records with
            aliases :=
              records.aliases.insert entry.owner (target, entry.ttl) } := by
  obtain ⟨internet, kind⟩ := isAlias
  have notAddress : ¬(entry.kind = 1 ∧ entry.data.length = 4) := by
    rw [kind]
    intro isAddress
    cases isAddress.1
  rw [absorb, if_neg (not_not_intro internet), if_neg notAddress, if_pos kind]
  cases entry.target with
  | none => simp
  | some target =>
      cases records.aliases.lookup entry.owner with
      | none => simp [eq_comm]
      | some previous =>
          by_cases same : previous.1 = target
          · simp [same, eq_comm]
          · simp [same]

end Absorb

/-! ## What the loop knows -/

theorem collected_empty : Collected [] ⟨∅, ∅⟩ := by
  constructor
  · intro owner
    rfl
  · intro owner known
    cases known
  · intro owner
    rfl

theorem isAlias_of_alias? {entry : Entry} {found : Str × Nat}
    (known : entry.alias? = some found) :
    entry.isAlias ∧ entry.target = some found.1 ∧ found.2 = entry.ttl := by
  rw [Entry.alias?] at known
  split at known
  · next isAlias =>
      obtain ⟨target, isTarget, rfl⟩ := Option.map_eq_some_iff.mp known
      exact ⟨isAlias, isTarget, rfl⟩
  · cases known

/-- Absorbing an entry keeps the books about the entries. -/
theorem Collected.absorb {entries : List Entry} {records result : Records}
    {entry : Entry} (collected : Collected entries records)
    (absorbed : absorb records entry = .ok result) :
    Collected (entries ++ [entry]) result := by
  by_cases isAlias : entry.isAlias
  · obtain ⟨target, isTarget, -, rfl⟩ :=
      (absorb_alias_iff records isAlias).mp absorbed
    have noAddress : entry.address? = none := by
      cases known : entry.address? with
      | none => rfl
      | some address => exact absurd isAlias (alias?_of_address? known)
    have known : entry.alias? = some (target, entry.ttl) := by
      rw [Entry.alias?, if_pos isAlias, isTarget]
      rfl
    constructor
    · intro owner
      rw [addressesOf_concat, noAddress, Option.toList_none, ite_self,
        List.append_nil]
      exact collected.addresses owner
    · exact collected.nonempty
    · intro owner
      rw [aliasesOf_concat, known]
      by_cases same : entry.owner = owner
      · subst same
        rw [AList.lookup_insert, if_pos rfl, Option.toList_some,
          List.getLast?_concat]
      · rw [AList.lookup_insert_ne (Ne.symm same), if_neg same,
          List.append_nil]
        exact collected.aliases owner
  · have noAlias : entry.alias? = none := by
      rw [Entry.alias?, if_neg isAlias]
    cases known : entry.address? with
    | some address =>
        rw [absorb_address records known] at absorbed
        cases absorbed
        constructor
        · intro owner
          rw [addressesOf_concat, known]
          by_cases same : entry.owner = owner
          · subst same
            rw [AList.lookup_insert, if_pos rfl, Option.toList_some,
              Option.getD_some, collected.addresses]
          · rw [AList.lookup_insert_ne (Ne.symm same), if_neg same,
              List.append_nil]
            exact collected.addresses owner
        · intro owner
          by_cases same : entry.owner = owner
          · subst same
            rw [AList.lookup_insert]
            simp
          · rw [AList.lookup_insert_ne (Ne.symm same)]
            exact collected.nonempty owner
        · intro owner
          rw [aliasesOf_concat, noAlias, Option.toList_none, ite_self,
            List.append_nil]
          exact collected.aliases owner
    | none =>
        rw [absorb_other records known isAlias] at absorbed
        cases absorbed
        constructor
        · intro owner
          rw [addressesOf_concat, known, Option.toList_none, ite_self,
            List.append_nil]
          exact collected.addresses owner
        · exact collected.nonempty
        · intro owner
          rw [aliasesOf_concat, noAlias, Option.toList_none, ite_self,
            List.append_nil]
          exact collected.aliases owner

theorem consistent_concat_iff {entries : List Entry} {entry : Entry} :
    Consistent (entries ++ [entry]) ↔
      Consistent entries ∧
        (entry.isAlias →
          ∃ target, entry.target = some target ∧
            ∀ previous ∈ aliasesOf entries entry.owner,
              previous.1 = target) := by
  constructor
  · intro consistent
    constructor
    · constructor
      · intro other listed
        exact consistent.targeted other (List.mem_append_left _ listed)
      · intro owner first inFirst second inSecond
        apply consistent.agree owner first _ second
        · rw [aliasesOf_concat]
          exact List.mem_append_left _ inSecond
        · rw [aliasesOf_concat]
          exact List.mem_append_left _ inFirst
    · intro isAlias
      have targeted :=
        consistent.targeted entry (List.mem_append_right _ (by simp)) isAlias
      obtain ⟨target, isTarget⟩ := Option.ne_none_iff_exists'.mp targeted
      refine ⟨target, isTarget, ?_⟩
      have known : entry.alias? = some (target, entry.ttl) := by
        rw [Entry.alias?, if_pos isAlias, isTarget]
        rfl
      intro previous listed
      apply consistent.agree entry.owner previous _ (target, entry.ttl)
      · rw [aliasesOf_concat, known, if_pos rfl]
        exact List.mem_append_right _ (by simp)
      · rw [aliasesOf_concat]
        exact List.mem_append_left _ listed
  · rintro ⟨consistent, latest⟩
    constructor
    · intro other listed isAlias
      rcases List.mem_append.mp listed with before | isLast
      · exact consistent.targeted other before isAlias
      · cases List.mem_singleton.mp isLast
        obtain ⟨target, isTarget, -⟩ := latest isAlias
        rw [isTarget]
        exact Option.some_ne_none target
    · intro owner
      rw [aliasesOf_concat]
      cases known : entry.alias? with
      | none =>
          rw [Option.toList_none, ite_self, List.append_nil]
          exact consistent.agree owner
      | some newest =>
          by_cases same : entry.owner = owner
          · subst same
            obtain ⟨isAlias, isTarget, -⟩ := isAlias_of_alias? known
            obtain ⟨target, isTarget', agrees⟩ := latest isAlias
            rw [isTarget] at isTarget'
            have agree : ∀ found ∈ aliasesOf entries entry.owner ++ [newest],
                found.1 = target := by
              intro found listed
              rcases List.mem_append.mp listed with before | isLast
              · exact agrees found before
              · cases List.mem_singleton.mp isLast
                exact Option.some.inj isTarget'
            rw [if_pos rfl]
            intro first inFirst second inSecond
            rw [agree first inFirst, agree second inSecond]
          · rw [if_neg same, List.append_nil]
            exact consistent.agree owner

/-- What a run over the entries has collected. -/
theorem collected_of_foldlM {entries : List Entry} {records : Records}
    (absorbed : entries.foldlM absorb ⟨∅, ∅⟩ = .ok records) :
    Collected entries records ∧ Consistent entries := by
  induction entries using List.reverseRecOn generalizing records with
  | nil =>
      cases absorbed
      refine ⟨collected_empty, ?_, ?_⟩
      · exact List.forall_mem_nil _
      · intro owner
        exact List.forall_mem_nil _
  | append_singleton entries entry inductionHypothesis =>
      rw [List.foldlM_append, bind_eq_ok] at absorbed
      obtain ⟨before, absorbedBefore, last⟩ := absorbed
      obtain ⟨collected, consistent⟩ := inductionHypothesis absorbedBefore
      rw [List.foldlM_cons, bind_eq_ok] at last
      obtain ⟨result, absorbedLast, same⟩ := last
      cases same
      refine ⟨collected.absorb absorbedLast,
        consistent_concat_iff.mpr ⟨consistent, ?_⟩⟩
      intro isAlias
      obtain ⟨target, isTarget, agrees, -⟩ :=
        (absorb_alias_iff before isAlias).mp absorbedLast
      refine ⟨target, isTarget, ?_⟩
      intro previous listed
      have several : aliasesOf entries entry.owner ≠ [] :=
        List.ne_nil_of_mem listed
      have isLast := collected.aliases entry.owner
      rw [List.getLast?_eq_some_getLast several] at isLast
      rw [consistent.agree entry.owner previous listed _
        (List.getLast_mem several)]
      exact agrees _ isLast

/-- The loop does not fail on consistent entries. -/
theorem exists_foldlM_of_consistent {entries : List Entry}
    (consistent : Consistent entries) :
    ∃ records, entries.foldlM absorb ⟨∅, ∅⟩ = .ok records := by
  induction entries using List.reverseRecOn with
  | nil => exact ⟨⟨∅, ∅⟩, rfl⟩
  | append_singleton entries entry inductionHypothesis =>
      obtain ⟨before, latest⟩ := consistent_concat_iff.mp consistent
      obtain ⟨records, absorbed⟩ := inductionHypothesis before
      have collected := (collected_of_foldlM absorbed).1
      have next : ∃ result, absorb records entry = .ok result := by
        by_cases isAlias : entry.isAlias
        · obtain ⟨target, isTarget, agrees⟩ := latest isAlias
          refine ⟨_, (absorb_alias_iff records isAlias).mpr
            ⟨target, isTarget, ?_, rfl⟩⟩
          intro previous known
          rw [collected.aliases] at known
          exact agrees previous (List.mem_of_getLast? known)
        · cases known : entry.address? with
          | some address => exact ⟨_, absorb_address records known⟩
          | none => exact ⟨_, absorb_other records known isAlias⟩
      obtain ⟨result, absorbedLast⟩ := next
      refine ⟨result, ?_⟩
      rw [List.foldlM_append, absorbed, ok_bind, List.foldlM_cons,
        absorbedLast]
      rfl

end HermesAtrust.Net.Dns
