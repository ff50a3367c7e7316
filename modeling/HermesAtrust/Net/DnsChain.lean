import HermesAtrust.Net.DnsRecords

/-!
# The chain from a host to its addresses

`follow` goes from the host along the aliases of the answer section to the
first owner that has addresses.  It passes every owner once and at most fifteen
of them, and the lifetime of what it returns is that of the aliases it used and
of the addresses it found.
-/

namespace HermesAtrust.Net.Dns

open HermesAtrust.Collections HermesAtrust.Framing HermesAtrust.L3
open HermesAtrust.Text

/-- The owners that are passed between an owner and the first one with
addresses. -/
inductive Chain (entries : List Entry) : Str → List Str → Str → Prop
  | arrived {owner : Str} (addressed : addressesOf entries owner ≠ []) :
      Chain entries owner [] owner
  | passed {owner target final : Str} {path : List Str}
      (unaddressed : addressesOf entries owner = [])
      (linked : ∃ ttl, (target, ttl) ∈ aliasesOf entries owner)
      (later : Chain entries target path final) :
      Chain entries owner (owner :: path) final

/-- The lifetime of the last alias of an owner. -/
def aliasTtl (entries : List Entry) (owner : Str) : Option Nat :=
  (aliasesOf entries owner).getLast?.map Prod.snd

/-- The lifetimes that `follow` takes the least of. -/
def usedTtls (entries : List Entry) (path : List Str) (final : Str) :
    List Nat :=
  path.filterMap (aliasTtl entries) ++
    (addressesOf entries final).map Prod.snd

/-- The addresses of an owner, each once. -/
def distinctAddresses (entries : List Entry) (owner : Str) : List Ipv4Addr :=
  ((addressesOf entries owner).map Prod.fst).eraseDups

/-! ## The loop over the addresses -/

theorem le_foldl_min_iff {least start : Nat} {values : List Nat} :
    least ≤ values.foldl min start ↔
      least ≤ start ∧ ∀ value ∈ values, least ≤ value := by
  induction values generalizing start with
  | nil => simp
  | cons first later inductionHypothesis =>
      rw [List.foldl_cons, inductionHypothesis, Nat.le_min,
        List.forall_mem_cons, and_assoc]

theorem foldl_addAddress (values : List (Ipv4Addr × Nat))
    (found : List Ipv4Addr) (ttl : Nat) :
    values.foldl addAddress (found, ttl) =
      (found ++
          ((values.map Prod.fst).filter fun ip => ip ∉ found).eraseDups,
        (values.map Prod.snd).foldl min ttl) := by
  induction values generalizing found ttl with
  | nil => simp
  | cons value later inductionHypothesis =>
      rw [List.foldl_cons, addAddress, inductionHypothesis, List.map_cons,
        List.map_cons, List.foldl_cons]
      by_cases known : value.1 ∈ found
      · rw [if_pos known, List.filter_cons_of_neg (by simpa using known)]
      · have both :
            (fun ip => decide (ip ∉ found ++ [value.1])) =
              fun ip => !ip == value.1 && decide (ip ∉ found) := by
          funext ip
          simp only [List.mem_append, List.mem_singleton, not_or, and_comm,
            Bool.decide_and, decide_not]
          rfl
        rw [if_neg known, List.filter_cons_of_pos (by simpa using known),
          List.eraseDups_cons, List.filter_filter, List.append_assoc, both]
        rfl

/-! ## The loop over the aliases -/

theorem usedTtls_cons {entries : List Entry} {owner final : Str}
    {path : List Str} {lifetime : Nat}
    (ttlIs : aliasTtl entries owner = some lifetime) :
    usedTtls entries (owner :: path) final =
      lifetime :: usedTtls entries path final := by
  rw [usedTtls, List.filterMap_cons_some ttlIs]
  rfl

section Follow

variable {entries : List Entry} {records : Records}
  (collected : Collected entries records)

include collected

theorem addressed_of_lookup {owner : Str} {values : List (Ipv4Addr × Nat)}
    (known : records.addresses.lookup owner = some values) :
    addressesOf entries owner = values ∧ values ≠ [] := by
  have all := collected.addresses owner
  rw [known, Option.getD_some] at all
  refine ⟨all.symm, ?_⟩
  rintro rfl
  exact collected.nonempty owner known

theorem unaddressed_of_lookup {owner : Str}
    (unknown : records.addresses.lookup owner = none) :
    addressesOf entries owner = [] := by
  rw [← collected.addresses owner, unknown]
  rfl

/-- `follow` succeeds along a chain of new owners that is short enough. -/
theorem follow_eq_ok_iff (consistent : Consistent entries) {fuel ttl : Nat}
    {owner : Str} {seen : List Str} {answer : Answer} :
    follow records fuel owner ttl seen = .ok answer ↔
      ∃ path final, Chain entries owner path final ∧ path.length < fuel ∧
        (path ++ [final]).Nodup ∧ (∀ passed ∈ path ++ [final], passed ∉ seen) ∧
        answer =
          .addresses (distinctAddresses entries final)
            (.fromSecs ((usedTtls entries path final).foldl min ttl)) := by
  induction fuel generalizing owner ttl seen with
  | zero =>
      rw [follow]
      constructor
      · intro succeeded
        cases succeeded
      · rintro ⟨path, final, -, none, -⟩
        cases none
  | succ fuel inductionHypothesis =>
      rw [follow]
      by_cases visited : owner ∈ seen
      · rw [if_pos visited]
        constructor
        · intro succeeded
          cases succeeded
        · rintro ⟨path, final, chain, -, -, fresh, -⟩
          exfalso
          cases chain with
          | arrived addressed => exact fresh owner (by simp) visited
          | passed unaddressed linked later =>
              exact fresh owner (by simp) visited
      · rw [if_neg visited]
        cases known : records.addresses.lookup owner with
        | some values =>
            obtain ⟨rfl, addressed⟩ := addressed_of_lookup collected known
            simp only [foldl_addAddress]
            constructor
            · intro succeeded
              cases succeeded
              refine ⟨[], owner, .arrived addressed, Nat.succ_pos fuel,
                List.nodup_singleton owner, ?_, ?_⟩
              · simpa using visited
              · simp [distinctAddresses, usedTtls]
            · rintro ⟨path, final, chain, -, -, -, rfl⟩
              cases chain with
              | arrived _ => simp [distinctAddresses, usedTtls]
              | passed unaddressed => exact absurd unaddressed addressed
        | none =>
            have unaddressed := unaddressed_of_lookup collected known
            simp only [collected.aliases]
            cases last : (aliasesOf entries owner).getLast? with
            | none =>
                have none := List.getLast?_eq_none_iff.mp last
                constructor
                · intro succeeded
                  cases succeeded
                · rintro ⟨path, final, chain, -⟩
                  exfalso
                  cases chain with
                  | arrived addressed => exact addressed unaddressed
                  | passed _ linked _ =>
                      obtain ⟨ttl, listed⟩ := linked
                      rw [none] at listed
                      cases listed
            | some found =>
                obtain ⟨target, lifetime⟩ := found
                have listed := List.mem_of_getLast? last
                have ttlIs : aliasTtl entries owner = some lifetime := by
                  rw [aliasTtl, last]
                  rfl
                simp only [inductionHypothesis]
                constructor
                · rintro ⟨path, final, chain, short, nodup, fresh, rfl⟩
                  have new : owner ∉ path ++ [final] := fun again =>
                    fresh owner again List.mem_cons_self
                  refine ⟨owner :: path, final,
                    .passed unaddressed ⟨lifetime, listed⟩ chain,
                    Nat.succ_lt_succ short, List.nodup_cons.mpr ⟨new, nodup⟩,
                    List.forall_mem_cons.mpr ⟨visited, ?_⟩, ?_⟩
                  · intro passed inPath again
                    exact fresh passed inPath (List.mem_cons_of_mem _ again)
                  · rw [usedTtls_cons ttlIs]
                    rfl
                · rintro ⟨path, final, chain, short, nodup, fresh, rfl⟩
                  cases chain with
                  | arrived addressed => exact absurd unaddressed addressed
                  | @passed _ other _ path _ linked later =>
                      obtain ⟨otherTtl, otherListed⟩ := linked
                      have same : other = target :=
                        consistent.agree owner _ otherListed _ listed
                      subst same
                      obtain ⟨new, nodupLater⟩ := List.nodup_cons.mp nodup
                      refine ⟨path, final, later, Nat.lt_of_succ_lt_succ short,
                        nodupLater, ?_, ?_⟩
                      · intro passed inPath again
                        rcases List.mem_cons.mp again with rfl | before
                        · exact new inPath
                        · exact fresh passed (List.mem_cons_of_mem _ inPath)
                            before
                      · rw [usedTtls_cons ttlIs]
                        rfl

end Follow

/-! ## Messages -/

/-- A message that answers the question for a host, with the number of answers,
that of all records and the offset of the first one. -/
structure Opens (bytes : Bytes) (host : Str) (id : UInt16)
    (answers count cursor : Nat) : Prop where
  long : 12 ≤ bytes.length
  number : word bytes 0 = .ok id.toNat
  flags :
    ∃ flags, word bytes 2 = .ok flags ∧ flags &&& 0xf800 = 0x8000 ∧
      flags &&& 0x200 = 0 ∧ flags &&& 15 = 0
  questions : word bytes 4 = .ok 1
  named :
    ∃ after, name bytes 12 = .ok (host, after) ∧ word bytes after = .ok 1 ∧
      word bytes (after + 2) = .ok 1 ∧ cursor = after + 4
  answersAre : word bytes 6 = .ok answers
  counted :
    ∃ authorities additional, word bytes 8 = .ok authorities ∧
      word bytes 10 = .ok additional ∧
      count = answers + authorities + additional
  few : count ≤ 512

theorem parse_of_opens {bytes : Bytes} {host : Str} {id : UInt16}
    {answers count cursor : Nat}
    (opens : Opens bytes host id answers count cursor) :
    parse bytes host id =
      (collectRecords bytes answers count 0 cursor ⟨∅, ∅⟩ >>= fun records =>
        follow records 16 host 4294967295 []) := by
  obtain ⟨flags, flagsAre, response, whole, accepted⟩ := opens.flags
  obtain ⟨after, named, kind, cls, rfl⟩ := opens.named
  obtain ⟨authorities, additional, authoritiesAre, additionalAre, rfl⟩ :=
    opens.counted
  have long := Nat.not_lt.mpr opens.long
  have few := Nat.not_lt.mpr opens.few
  rw [parse, if_neg long, opens.number, flagsAre, opens.questions, named,
    opens.answersAre, authoritiesAre, additionalAre]
  simp only [ok_bind, kind, cls, response, whole, accepted, few, ne_eq,
    not_true_eq_false, or_self, if_false]

/-- A message that answers the question for a host and says that it was cut. -/
structure Cut (bytes : Bytes) (host : Str) (id : UInt16) : Prop where
  long : 12 ≤ bytes.length
  number : word bytes 0 = .ok id.toNat
  flags :
    ∃ flags, word bytes 2 = .ok flags ∧ flags &&& 0xf800 = 0x8000 ∧
      flags &&& 0x200 ≠ 0
  questions : word bytes 4 = .ok 1
  named :
    ∃ after, name bytes 12 = .ok (host, after) ∧ word bytes after = .ok 1 ∧
      word bytes (after + 2) = .ok 1

theorem parse_of_cut {bytes : Bytes} {host : Str} {id : UInt16}
    (cut : Cut bytes host id) : parse bytes host id = .ok .truncated := by
  obtain ⟨flags, flagsAre, response, isCut⟩ := cut.flags
  obtain ⟨after, named, kind, cls⟩ := cut.named
  have long := Nat.not_lt.mpr cut.long
  rw [parse, if_neg long, cut.number, flagsAre, cut.questions, named]
  simp only [ok_bind, kind, cls, response, isCut, ne_eq, not_true_eq_false,
    not_false_eq_true, or_self, if_false, if_true]

/-- `parse` only succeeds for such messages. -/
theorem cut_or_opens_of_parse {bytes : Bytes} {host : Str} {id : UInt16}
    {answer : Answer} (parsed : parse bytes host id = .ok answer) :
    Cut bytes host id ∧ answer = .truncated ∨
      ∃ answers count cursor, Opens bytes host id answers count cursor := by
  rw [parse] at parsed
  by_cases short : bytes.length < 12
  · rw [if_pos short] at parsed
    cases parsed
  · rw [if_neg short] at parsed
    obtain ⟨number, numberIs, first⟩ := bind_eq_ok.mp parsed
    obtain ⟨flags, flagsAre, second⟩ := bind_eq_ok.mp first
    obtain ⟨questions, questionsAre, third⟩ := bind_eq_ok.mp second
    by_cases other :
        number ≠ id.toNat ∨ flags &&& 0xf800 ≠ 0x8000 ∨ questions ≠ 1
    · rw [if_pos other] at third
      cases third
    · rw [if_neg other] at third
      obtain ⟨⟨asked, after⟩, named, fourth⟩ := bind_eq_ok.mp third
      obtain ⟨kind, kindIs, fifth⟩ := bind_eq_ok.mp fourth
      obtain ⟨cls, clsIs, sixth⟩ := bind_eq_ok.mp fifth
      by_cases foreign : asked ≠ host ∨ kind ≠ 1 ∨ cls ≠ 1
      · rw [if_pos foreign] at sixth
        cases sixth
      · rw [if_neg foreign] at sixth
        simp only [not_or, Decidable.not_not] at other foreign
        obtain ⟨rfl, response, rfl⟩ := other
        obtain ⟨rfl, rfl, rfl⟩ := foreign
        by_cases cut : flags &&& 0x200 ≠ 0
        · left
          rw [if_pos cut] at sixth
          cases sixth
          exact ⟨⟨Nat.not_lt.mp short, numberIs,
            ⟨flags, flagsAre, response, cut⟩, questionsAre,
            ⟨after, named, kindIs, clsIs⟩⟩, rfl⟩
        · right
          rw [if_neg cut] at sixth
          by_cases refused : flags &&& 15 ≠ 0
          · rw [if_pos refused] at sixth
            cases sixth
          · rw [if_neg refused] at sixth
            obtain ⟨answers, answersAre, seventh⟩ := bind_eq_ok.mp sixth
            obtain ⟨authorities, authoritiesAre, eighth⟩ :=
              bind_eq_ok.mp seventh
            obtain ⟨additional, additionalAre, last⟩ := bind_eq_ok.mp eighth
            by_cases many : 512 < answers + authorities + additional
            · simp only [many, if_true] at last
              cases last
            · exact ⟨answers, _, after + 4, Nat.not_lt.mp short, numberIs,
                ⟨flags, flagsAre, response, Decidable.not_not.mp cut,
                  Decidable.not_not.mp refused⟩,
                questionsAre, ⟨after, named, kindIs, clsIs, rfl⟩, answersAre,
                ⟨authorities, additional, authoritiesAre, additionalAre, rfl⟩,
                Nat.not_lt.mp many⟩

theorem opens_of_parse {bytes : Bytes} {host : Str} {id : UInt16}
    {ips : List Ipv4Addr} {ttl : Duration}
    (parsed : parse bytes host id = .ok (.addresses ips ttl)) :
    ∃ answers count cursor, Opens bytes host id answers count cursor := by
  rcases cut_or_opens_of_parse parsed with ⟨-, same⟩ | opens
  · cases same
  · exact opens

/-- Which addresses `parse` returns, in terms of the records of the message. -/
theorem parse_eq_addresses_iff {bytes : Bytes} {host : Str} {id : UInt16}
    {ips : List Ipv4Addr} {ttl : Duration} {answers count cursor : Nat}
    (opens : Opens bytes host id answers count cursor) :
    parse bytes host id = .ok (.addresses ips ttl) ↔
      ∃ entries, readEntries bytes count cursor = .ok entries ∧
        Consistent (entries.take answers) ∧
        ∃ path final, Chain (entries.take answers) host path final ∧
          path.length < 16 ∧ (path ++ [final]).Nodup ∧
          ips = distinctAddresses (entries.take answers) final ∧
          ttl =
            .fromSecs
              ((usedTtls (entries.take answers) path final).foldl min
                4294967295) := by
  rw [parse_of_opens opens, bind_eq_ok]
  simp only [collectRecords_eq_ok_iff, Nat.sub_zero]
  constructor
  · rintro ⟨records, ⟨entries, read, absorbed⟩, followed⟩
    obtain ⟨collected, consistent⟩ := collected_of_foldlM absorbed
    obtain ⟨path, final, chain, short, nodup, -, same⟩ :=
      (follow_eq_ok_iff collected consistent).mp followed
    cases same
    exact ⟨entries, read, consistent, path, final, chain, short, nodup, rfl,
      rfl⟩
  · rintro ⟨entries, read, consistent, path, final, chain, short, nodup, rfl,
      rfl⟩
    obtain ⟨records, absorbed⟩ := exists_foldlM_of_consistent consistent
    have collected := (collected_of_foldlM absorbed).1
    refine ⟨records, ⟨entries, read, absorbed⟩,
      (follow_eq_ok_iff collected consistent).mpr
        ⟨path, final, chain, short, nodup, ?_, rfl⟩⟩
    intro passed _ again
    cases again

end HermesAtrust.Net.Dns
