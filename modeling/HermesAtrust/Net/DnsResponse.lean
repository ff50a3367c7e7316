import HermesAtrust.Net.DnsAnswers
import HermesAtrust.Net.DnsRoundTrip

/-!
# Responses without compression

A response whose names are all written out.  Its records are read one by one,
wherever they stand, and a record is read as the same entry at every place.
-/

namespace HermesAtrust.Net.Dns

open HermesAtrust.Framing HermesAtrust.L3 HermesAtrust.Text

/-- Labels as they may be written. -/
def Sized (labels : List Bytes) : Prop :=
  ∀ label ∈ labels, 0 < label.length ∧ label.length ≤ 63

inductive RecordData where
  | name (labels : List Bytes)
  | raw (bytes : Bytes)

def RecordData.bytes : RecordData → Bytes
  | .name labels => wireLabels labels ++ [0]
  | .raw bytes => bytes

/-- A record whose names are written out.  The data of an alias is a name. -/
structure WireRecord where
  owner : List Bytes
  kind : UInt16
  cls : UInt16
  ttl : UInt32
  data : RecordData
  sized : Sized owner
  sizedName : ∀ labels, data = .name labels → Sized labels
  fits : data.bytes.length < 65536
  named : kind = 5 → cls = 1 → ∃ labels, data = .name labels

/-- The fields between the owner and the data. -/
def WireRecord.fields (record : WireRecord) : Bytes :=
  toBeU16 record.kind.toNat ++ toBeU16 record.cls.toNat ++
    toBeU32 record.ttl.toNat ++ toBeU16 record.data.bytes.length

def WireRecord.bytes (record : WireRecord) : Bytes :=
  wireLabels record.owner ++ 0 :: (record.fields ++ record.data.bytes)

def recordBytes (records : List WireRecord) : Bytes :=
  records.flatMap WireRecord.bytes

structure WireQuestion where
  labels : List Bytes
  kind : UInt16
  cls : UInt16
  sized : Sized labels

def WireQuestion.bytes (question : WireQuestion) : Bytes :=
  wireLabels question.labels ++
    0 :: (toBeU16 question.kind.toNat ++ toBeU16 question.cls.toNat)

/-- A response whose sections can be counted in its header. -/
structure Response where
  id : UInt16
  flags : UInt16
  questions : List WireQuestion
  answers : List WireRecord
  authorities : List WireRecord
  additional : List WireRecord
  countedQuestions : questions.length < 65536
  countedAnswers : answers.length < 65536
  countedAuthorities : authorities.length < 65536
  countedAdditional : additional.length < 65536

def Response.header (response : Response) : Bytes :=
  toBeU16 response.id.toNat ++ toBeU16 response.flags.toNat ++
    toBeU16 response.questions.length ++ toBeU16 response.answers.length ++
    toBeU16 response.authorities.length ++ toBeU16 response.additional.length

/-- The header and the questions. -/
def Response.front (response : Response) : Bytes :=
  response.header ++ response.questions.flatMap WireQuestion.bytes

def Response.records (response : Response) : List WireRecord :=
  response.answers ++ (response.authorities ++ response.additional)

def Response.bytes (response : Response) : Bytes :=
  response.front ++ recordBytes response.records

/-! ## Names -/

/-- The text that `name` makes of labels. -/
def NamedBy (labels : List Bytes) (value : Str) : Prop :=
  labels.length ≤ 63 ∧
    ∃ texts, List.Forall₂ Reads labels texts ∧ value = join texts ∧
      byteLen value ≤ 253

theorem name_wireLabels_iff {labels : List Bytes} (sized : Sized labels)
    (before after : Bytes) {value : Str} {ending : Nat} :
    name (before ++ (wireLabels labels ++ 0 :: after)) before.length =
        .ok (value, ending) ↔
      NamedBy labels value ∧
        ending = before.length + (wireLabels labels).length + 1 := by
  have spelled := spells_wireLabels sized before after
  rw [name_eq_ok_iff]
  constructor
  · rintro ⟨labels', texts, steps, other, enough, readable, joined, short⟩
    obtain ⟨rfl, rfl, rfl⟩ := spelled.unique other
    exact ⟨⟨Nat.le_of_succ_le_succ enough, texts, readable, joined, short⟩,
      rfl⟩
  · rintro ⟨⟨few, texts, readable, joined, short⟩, rfl⟩
    exact ⟨labels, texts, _, spelled, Nat.succ_le_succ few, readable, joined,
      short⟩

/-! ## Records -/

/-- How a record is read. -/
structure IsEntry (record : WireRecord) (entry : Entry) : Prop where
  owner : NamedBy record.owner entry.owner
  kind : entry.kind = record.kind.toNat
  cls : entry.cls = record.cls.toNat
  ttl : entry.ttl = record.ttl.toNat
  data : entry.data = record.data.bytes
  target :
    entry.isAlias → ∀ labels, record.data = .name labels →
      ∀ value, entry.target = some value ↔ NamedBy labels value
  untargeted : ¬entry.isAlias → entry.target = none

theorem length_fields (record : WireRecord) : record.fields.length = 10 :=
  rfl

theorem words_fields (record : WireRecord) :
    word record.fields 0 = .ok record.kind.toNat ∧
      word record.fields 2 = .ok record.cls.toNat ∧
      word record.fields 4 = .ok (record.ttl.toNat / 65536) ∧
      word record.fields 6 = .ok (record.ttl.toNat % 65536) ∧
      word record.fields 8 = .ok record.data.bytes.length := by
  have kind := record.kind.toNat_lt
  have cls := record.cls.toNat_lt
  have ttl := record.ttl.toNat_lt
  have fits := record.fits
  simp [word, WireRecord.fields, toBeU32, toBeU16, byteAt, beU16]
  omega

/-- The name in the data of an alias fills it. -/
theorem nameFilling_eq_some_iff {labels : List Bytes} (sized : Sized labels)
    (before after : Bytes) {value : Str} :
    nameFilling (before ++ (RecordData.name labels).bytes ++ after)
        before.length (RecordData.name labels).bytes.length =
        some value ↔
      NamedBy labels value := by
  have whole :
      before ++ (RecordData.name labels).bytes ++ after =
        before ++ (wireLabels labels ++ 0 :: after) := by
    simp [RecordData.bytes]
  have length :
      before.length + (RecordData.name labels).bytes.length =
        before.length + (wireLabels labels).length + 1 := by
    simp [RecordData.bytes, Nat.add_assoc]
  have named := @name_wireLabels_iff labels sized before after
  rw [whole, nameFilling, length]
  cases found : name (before ++ (wireLabels labels ++ 0 :: after))
      before.length with
  | error error =>
      constructor
      · intro known
        cases known
      · intro isName
        rw [named.mpr ⟨isName, rfl⟩] at found
        cases found
  | ok pair =>
      obtain ⟨isName, ending⟩ := named.mp found
      simp only [ending, if_true, Option.some.injEq]
      constructor
      · rintro rfl
        exact isName
      · intro isName'
        rw [named.mpr ⟨isName', rfl⟩] at found
        exact congrArg Prod.fst (Except.ok.inj found.symm)

section Written

variable (record : WireRecord) (before after : Bytes)

/-- The record with what stands before its fields taken together. -/
theorem record_split :
    ∃ front, before ++ (record.bytes ++ after) =
        front ++ (record.fields ++ (record.data.bytes ++ after)) ∧
      front.length = before.length + (wireLabels record.owner).length + 1 := by
  refine ⟨before ++ (wireLabels record.owner ++ [0]), ?_, ?_⟩
  · simp [WireRecord.bytes]
  · simp [Nat.add_assoc]

theorem length_record :
    record.bytes.length =
      (wireLabels record.owner).length + 1 + 10 + record.data.bytes.length := by
  simp only [WireRecord.bytes, List.length_append, List.length_cons,
    length_fields]
  omega

/-- The name that is found in the data of the record. -/
def writtenTarget : Option Str :=
  if record.kind.toNat = 5 ∧ record.cls.toNat = 1 then
    nameFilling (before ++ (record.bytes ++ after))
      (before.length + (wireLabels record.owner).length + 1 + 10)
      record.data.bytes.length
  else
    none

def writtenEntry (owner : Str) : Entry :=
  ⟨owner, record.kind.toNat, record.cls.toNat, record.ttl.toNat,
    record.data.bytes, writtenTarget record before after⟩

theorem name_written_iff {value : Str} {ending : Nat} :
    name (before ++ (record.bytes ++ after)) before.length =
        .ok (value, ending) ↔
      NamedBy record.owner value ∧
        ending = before.length + (wireLabels record.owner).length + 1 := by
  have whole :
      before ++ (record.bytes ++ after) =
        before ++ (wireLabels record.owner ++
          0 :: (record.fields ++ record.data.bytes ++ after)) := by
    simp [WireRecord.bytes]
  rw [whole]
  exact name_wireLabels_iff record.sized before _

theorem readEntry_written {owner : Str} (named : NamedBy record.owner owner) :
    readEntry (before ++ (record.bytes ++ after)) before.length =
      .ok
        (writtenEntry record before after owner,
          before.length + record.bytes.length) := by
  have ownerRead := (name_written_iff record before after).mpr ⟨named, rfl⟩
  obtain ⟨kind, cls, high, low, length⟩ := words_fields record
  obtain ⟨front, split, position⟩ := record_split record before after
  have field {offset value : Nat} (inside : offset + 2 ≤ 10)
      (known : word record.fields offset = .ok value) :
      word (before ++ (record.bytes ++ after))
          (before.length + (wireLabels record.owner).length + 1 + offset) =
        .ok value := by
    rw [split, ← position, word_append_right, word_append_left inside]
    exact known
  have inside :
      slice? (before ++ (record.bytes ++ after))
          (before.length + (wireLabels record.owner).length + 1 + 10)
          record.data.bytes.length =
        some record.data.bytes := by
    have later : (front ++ record.fields).length = front.length + 10 := by
      rw [List.length_append, length_fields]
    rw [split, ← position, ← List.append_assoc, ← later,
      ← Nat.add_zero (front ++ record.fields).length, slice?_append_right]
    exact slice?_front record.data.bytes after
  have ending :
      before.length + (wireLabels record.owner).length + 1 + 10 +
          record.data.bytes.length =
        before.length + record.bytes.length := by
    rw [length_record]
    omega
  have first := field (by decide) kind
  rw [Nat.add_zero] at first
  rw [readEntry, ownerRead]
  simp only [ok_bind, first, field (by decide) cls, field (by decide) high,
    field (by decide) low, field (by decide) length, inside, ending,
    shiftLeft_or_mod]
  rfl

theorem isAlias_writtenEntry {owner : Str} :
    (writtenEntry record before after owner).isAlias ↔
      record.kind.toNat = 5 ∧ record.cls.toNat = 1 :=
  and_comm

theorem isEntry_written {owner : Str} (named : NamedBy record.owner owner) :
    IsEntry record (writtenEntry record before after owner) := by
  constructor
  · exact named
  · rfl
  · rfl
  · rfl
  · rfl
  · intro isAlias labels isName value
    have kinds := (isAlias_writtenEntry record before after).mp isAlias
    obtain ⟨front, split, position⟩ := record_split record before after
    have later :
        (front ++ record.fields).length =
          before.length + (wireLabels record.owner).length + 1 + 10 := by
      rw [List.length_append, length_fields, position]
    have whole :
        before ++ (record.bytes ++ after) =
          front ++ record.fields ++ record.data.bytes ++ after := by
      rw [split]
      simp
    have filling :=
      @nameFilling_eq_some_iff labels (record.sizedName labels isName)
        (front ++ record.fields) after value
    rw [← isName, later, ← whole] at filling
    change writtenTarget record before after = some value ↔ _
    rw [writtenTarget, if_pos kinds]
    exact filling
  · intro noAlias
    rw [isAlias_writtenEntry] at noAlias
    exact if_neg noAlias

/-- An entry is determined by its record. -/
theorem IsEntry.unique {record : WireRecord} {entry entry' : Entry}
    (isEntry : IsEntry record entry) (isEntry' : IsEntry record entry')
    (owners : entry.owner = entry'.owner) : entry = entry' := by
  have kinds := isEntry.kind.trans isEntry'.kind.symm
  have classes := isEntry.cls.trans isEntry'.cls.symm
  have ttls := isEntry.ttl.trans isEntry'.ttl.symm
  have datas := isEntry.data.trans isEntry'.data.symm
  have aliases : entry.isAlias ↔ entry'.isAlias := by
    rw [Entry.isAlias, Entry.isAlias, kinds, classes]
  have targets : entry.target = entry'.target := by
    by_cases isAlias : entry.isAlias
    · have kind : record.kind = 5 := by
        rw [← UInt16.toNat_inj, ← isEntry.kind, isAlias.2]
        rfl
      have cls : record.cls = 1 := by
        rw [← UInt16.toNat_inj, ← isEntry.cls, isAlias.1]
        rfl
      obtain ⟨labels, isName⟩ := record.named kind cls
      apply Option.ext
      intro value
      rw [isEntry.target isAlias labels isName,
        isEntry'.target (aliases.mp isAlias) labels isName]
    · rw [isEntry.untargeted isAlias,
        isEntry'.untargeted (fun isAlias' => isAlias (aliases.mpr isAlias'))]
  cases entry
  cases entry'
  rw [Entry.mk.injEq]
  exact ⟨owners, kinds, classes, ttls, datas, targets⟩

/-- A written record is read as its entry, and nothing else. -/
theorem readEntry_written_iff {entry : Entry} {next : Nat} :
    readEntry (before ++ (record.bytes ++ after)) before.length =
        .ok (entry, next) ↔
      IsEntry record entry ∧ next = before.length + record.bytes.length := by
  constructor
  · intro read
    obtain ⟨⟨owner, ending⟩, named, -⟩ := bind_eq_ok.mp read
    have isName := ((name_written_iff record before after).mp named).1
    rw [readEntry_written record before after isName] at read
    cases read
    exact ⟨isEntry_written record before after isName, rfl⟩
  · rintro ⟨isEntry, rfl⟩
    rw [readEntry_written record before after isEntry.owner]
    rw [(isEntry_written record before after isEntry.owner).unique isEntry rfl]

end Written

theorem readEntries_written_iff (records : List WireRecord)
    (before after : Bytes) {entries : List Entry} :
    readEntries (before ++ (recordBytes records ++ after)) records.length
        before.length = .ok entries ↔
      List.Forall₂ IsEntry records entries := by
  induction records generalizing before entries with
  | nil =>
      rw [List.length_nil, readEntries, List.forall₂_nil_left_iff]
      constructor
      · intro same
        cases same
        rfl
      · rintro rfl
        rfl
  | cons record later inductionHypothesis =>
      have whole :
          before ++ (recordBytes (record :: later) ++ after) =
            before ++ (record.bytes ++ (recordBytes later ++ after)) := by
        simp [recordBytes]
      have next :
          before ++ (record.bytes ++ (recordBytes later ++ after)) =
            before ++ record.bytes ++ (recordBytes later ++ after) := by
        simp
      have position :
          before.length + record.bytes.length =
            (before ++ record.bytes).length := by
        rw [List.length_append]
      rw [whole, List.length_cons, readEntries, bind_eq_ok]
      constructor
      · rintro ⟨⟨entry, cursor⟩, read, rest⟩
        obtain ⟨isEntry, rfl⟩ :=
          (readEntry_written_iff record before _).mp read
        obtain ⟨others, readOthers, same⟩ := bind_eq_ok.mp rest
        cases same
        rw [next, position, inductionHypothesis] at readOthers
        exact .cons isEntry readOthers
      · intro areEntries
        cases areEntries with
        | cons isEntry others =>
            refine ⟨_, (readEntry_written_iff record before _).mpr
              ⟨isEntry, rfl⟩, ?_⟩
            simp only
            rw [next, position, (inductionHypothesis _).mpr others]
            rfl

/-! ## Headers and questions -/

section Response

variable (response : Response)

theorem length_header : response.header.length = 12 :=
  rfl

theorem word_header {offset : Nat} (inside : offset + 2 ≤ 12) :
    word response.bytes offset = word response.header offset := by
  rw [Response.bytes, Response.front, List.append_assoc]
  exact word_append_left inside _

theorem words_header :
    word response.header 0 = .ok response.id.toNat ∧
      word response.header 2 = .ok response.flags.toNat ∧
      word response.header 4 = .ok response.questions.length ∧
      word response.header 6 = .ok response.answers.length ∧
      word response.header 8 = .ok response.authorities.length ∧
      word response.header 10 = .ok response.additional.length := by
  have id := response.id.toNat_lt
  have flags := response.flags.toNat_lt
  have questions := response.countedQuestions
  have answers := response.countedAnswers
  have authorities := response.countedAuthorities
  have additional := response.countedAdditional
  simp [word, Response.header, toBeU16, byteAt, beU16]
  omega

/-- A response to the question for a host, as far as header and question show
it. -/
structure Accepts (host : Str) (id : UInt16) : Prop where
  number : response.id = id
  isReply : response.flags.toNat &&& 0xf800 = 0x8000
  whole : response.flags.toNat &&& 0x200 = 0
  accepted : response.flags.toNat &&& 15 = 0
  asked :
    ∃ question, response.questions = [question] ∧
      NamedBy question.labels host ∧ question.kind = 1 ∧ question.cls = 1
  few : response.records.length ≤ 512

variable {response}

section Question

variable {question : WireQuestion} (asked : response.questions = [question])

include asked

theorem front_of_asked :
    response.front =
      response.header ++ (wireLabels question.labels ++
        0 :: (toBeU16 question.kind.toNat ++ toBeU16 question.cls.toNat)) := by
  simp [Response.front, WireQuestion.bytes, asked]

theorem length_front :
    response.front.length = 12 + (wireLabels question.labels).length + 1 + 4 := by
  rw [front_of_asked asked, List.length_append, length_header]
  simp only [List.length_append, List.length_cons, length_toBeU16]
  omega

theorem name_question_iff {value : Str} {after : Nat} :
    name response.bytes 12 = .ok (value, after) ↔
      NamedBy question.labels value ∧
        after = 12 + (wireLabels question.labels).length + 1 := by
  have whole :
      response.bytes =
        response.header ++ (wireLabels question.labels ++
          0 :: (toBeU16 question.kind.toNat ++ toBeU16 question.cls.toNat ++
            recordBytes response.records)) := by
    rw [Response.bytes, front_of_asked asked]
    simp
  rw [whole]
  exact name_wireLabels_iff question.sized response.header _

theorem words_question :
    word response.bytes (12 + (wireLabels question.labels).length + 1) =
        .ok question.kind.toNat ∧
      word response.bytes (12 + (wireLabels question.labels).length + 1 + 2) =
        .ok question.cls.toNat := by
  have split :
      ∃ front, response.bytes =
          front ++ (toBeU16 question.kind.toNat ++
            toBeU16 question.cls.toNat ++ recordBytes response.records) ∧
        front.length = 12 + (wireLabels question.labels).length + 1 := by
    refine ⟨response.header ++ (wireLabels question.labels ++ [0]), ?_, ?_⟩
    · rw [Response.bytes, front_of_asked asked]
      simp
    · rw [List.length_append, length_header]
      simp [Nat.add_assoc]
  obtain ⟨front, whole, position⟩ := split
  have kind := question.kind.toNat_lt
  have cls := question.cls.toNat_lt
  have first := word_append_right front
    (toBeU16 question.kind.toNat ++ toBeU16 question.cls.toNat ++
      recordBytes response.records) 0
  have second := word_append_right front
    (toBeU16 question.kind.toNat ++ toBeU16 question.cls.toNat ++
      recordBytes response.records) 2
  rw [← whole, position] at first second
  rw [Nat.add_zero] at first
  rw [first, second]
  simp [word, toBeU16, byteAt, beU16]
  omega

end Question

/-- When the loop over the records is reached, and from where. -/
theorem opens_response_iff {host : Str} {id : UInt16}
    {answers count cursor : Nat} :
    Opens response.bytes host id answers count cursor ↔
      Accepts response host id ∧ answers = response.answers.length ∧
        count = response.records.length ∧ cursor = response.front.length := by
  obtain ⟨number, flags, questions, answersAre, authorities, additional⟩ :=
    words_header response
  have counted :
      response.records.length =
        response.answers.length + response.authorities.length +
          response.additional.length := by
    simp [Response.records, Nat.add_assoc]
  constructor
  · intro opens
    have isNumber := opens.number
    have isQuestions := opens.questions
    have isAnswers := opens.answersAre
    obtain ⟨flagsRead, isFlags, isReply, whole, accepted⟩ := opens.flags
    obtain ⟨after, named, kind, cls, rfl⟩ := opens.named
    obtain ⟨authoritiesRead, additionalRead, isAuthorities, isAdditional,
      rfl⟩ := opens.counted
    have few := opens.few
    rw [word_header response (by decide), number] at isNumber
    rw [word_header response (by decide), questions] at isQuestions
    rw [word_header response (by decide), answersAre] at isAnswers
    rw [word_header response (by decide), flags] at isFlags
    rw [word_header response (by decide), authorities] at isAuthorities
    rw [word_header response (by decide), additional] at isAdditional
    cases isAnswers
    cases isFlags
    cases isAuthorities
    cases isAdditional
    obtain ⟨question, asked⟩ :=
      List.length_eq_one_iff.mp (Except.ok.inj isQuestions)
    obtain ⟨isName, rfl⟩ := (name_question_iff asked).mp named
    obtain ⟨isKind, isCls⟩ := words_question asked
    rw [isKind] at kind
    rw [isCls] at cls
    refine ⟨⟨UInt16.toNat_inj.mp (Except.ok.inj isNumber), isReply, whole,
      accepted, ⟨question, asked, isName, ?_, ?_⟩, ?_⟩, rfl, counted.symm,
      (length_front asked).symm⟩
    · exact UInt16.toNat_inj.mp (Except.ok.inj kind)
    · exact UInt16.toNat_inj.mp (Except.ok.inj cls)
    · rw [counted]
      exact few
  · rintro ⟨accepts, rfl, rfl, rfl⟩
    obtain ⟨question, asked, isName, isKind, isCls⟩ := accepts.asked
    obtain ⟨kind, cls⟩ := words_question asked
    rw [isKind] at kind
    rw [isCls] at cls
    constructor
    · rw [Response.bytes, List.length_append, length_front asked]
      omega
    · rw [word_header response (by decide), number, accepts.number]
    · exact ⟨_, (word_header response (by decide)).trans flags, accepts.isReply,
        accepts.whole, accepts.accepted⟩
    · rw [word_header response (by decide), questions, asked]
      rfl
    · exact ⟨_, (name_question_iff asked).mpr ⟨isName, rfl⟩, kind, cls,
        length_front asked⟩
    · exact (word_header response (by decide)).trans answersAre
    · exact ⟨_, _, (word_header response (by decide)).trans authorities,
        (word_header response (by decide)).trans additional, counted⟩
    · exact accepts.few

/-- The entries of a response. -/
theorem readEntries_response_iff {entries : List Entry} :
    readEntries response.bytes response.records.length response.front.length =
        .ok entries ↔
      List.Forall₂ IsEntry response.records entries := by
  have read :=
    @readEntries_written_iff response.records response.front [] entries
  rw [List.append_nil] at read
  exact read

end Response

end HermesAtrust.Net.Dns
