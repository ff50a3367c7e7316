import HermesAtrust.Net.DnsMessages

/-!
# Names read back from the wire

Every name that `normalize` accepts is written by `query` and answered by
`reply`.  `name` takes one step for a label and one for the end, and one more
for the pointer of an answer.
-/

namespace HermesAtrust.Net.Dns

open HermesAtrust.Collections HermesAtrust.Framing HermesAtrust.L3
open HermesAtrust.Text

/-! ## Labels as they are written -/

theorem wireLabels_cons (label : Bytes) (later : List Bytes) :
    wireLabels (label :: later) =
      UInt8.ofNat label.length :: (label ++ wireLabels later) := by
  rw [wireLabels, List.flatMap_cons, List.cons_append]
  rfl

/-- Written labels are spelled by their bytes. -/
theorem spells_wireLabels {labels : List Bytes}
    (sized : ∀ label ∈ labels, 0 < label.length ∧ label.length ≤ 63)
    (before after : Bytes) :
    Spells (before ++ (wireLabels labels ++ 0 :: after)) before.length labels
      (labels.length + 1) (before.length + (wireLabels labels).length + 1) := by
  induction labels generalizing before with
  | nil =>
      apply Spells.root
      simp [wireLabels]
  | cons label later inductionHypothesis =>
      obtain ⟨nonempty, short⟩ := sized label List.mem_cons_self
      have code : (UInt8.ofNat label.length).toNat = label.length := by
        rw [UInt8.toNat_ofNat']
        omega
      have rest := inductionHypothesis
        (fun other listed => sized other (List.mem_cons_of_mem _ listed))
        (before ++ UInt8.ofNat label.length :: label)
      have tail :
          before ++ (wireLabels (label :: later) ++ 0 :: after) =
            before ++ UInt8.ofNat label.length :: label ++
              (wireLabels later ++ 0 :: after) := by
        simp [wireLabels_cons]
      have position :
          (before ++ UInt8.ofNat label.length :: label).length =
            before.length + 1 + (UInt8.ofNat label.length).toNat := by
        rw [code, List.length_append, List.length_cons]
        omega
      have ending :
          before.length + (wireLabels (label :: later)).length + 1 =
            (before ++ UInt8.ofNat label.length :: label).length +
              (wireLabels later).length + 1 := by
        simp only [wireLabels_cons, List.length_append, List.length_cons]
        omega
      rw [ending, List.length_cons]
      apply Spells.label
      · show _ = some (UInt8.ofNat label.length)
        simp [wireLabels_cons]
      · rw [UInt8.lt_iff_toNat_lt, code]
        exact nonempty
      · rw [UInt8.le_iff_toNat_le, code]
        exact short
      · show _ = some label
        rw [slice?_append_right, wireLabels_cons, code, List.cons_append,
          List.append_assoc]
        simp only [slice?, List.length_cons, List.length_append,
          List.drop_succ_cons, List.drop_zero, List.take_left]
        rw [if_pos]
        omega
      · rw [tail, ← position]
        exact rest

/-! ## The labels of a host -/

/-- The labels of a host as bytes. -/
def hostLabels (host : Str) : List Bytes :=
  (host.splitOn '.').map utf8

theorem isLabelByte_low_ne_dot :
    ∀ byte : UInt8, isLabelByte byte = true → byte < 0x80 ∧ byte ≠ 0x2e :=
  forall_byte (by decide +kernel)

theorem low_of_isLabelByte (byte : UInt8) (good : isLabelByte byte = true) :
    byte < 0x80 :=
  (isLabelByte_low_ne_dot byte good).1

theorem isLabelByte_ne_dot (byte : UInt8) (good : isLabelByte byte = true) :
    byte ≠ 0x2e :=
  (isLabelByte_low_ne_dot byte good).2

theorem badLabel_eq_false_iff {label : Str} :
    badLabel label = false ↔
      label ≠ [] ∧ (utf8 label).length ≤ 63 ∧
        ∀ byte ∈ utf8 label, isLabelByte byte = true := by
  have measured :
      decide (63 < byteLen label) = false ↔ (utf8 label).length ≤ 63 := by
    rw [decide_eq_false_iff_not]
    exact Nat.not_lt
  simp only [badLabel, Bool.or_eq_false_iff, and_assoc, measured,
    List.isEmpty_eq_false_iff, Bool.not_eq_false', List.all_eq_true]

theorem utf8_ne_nil {text : Str} (nonempty : text ≠ []) : utf8 text ≠ [] := by
  cases text with
  | nil => cases nonempty rfl
  | cons char later =>
      rw [utf8_cons]
      intro empty
      exact String.utf8EncodeChar_ne_nil (List.append_eq_nil_iff.mp empty).1

section Host

variable {host : Str} (normal : IsNormal host)

include normal

theorem labels_of_isNormal {label : Str} (listed : label ∈ host.splitOn '.') :
    label ≠ [] ∧ (utf8 label).length ≤ 63 ∧
      ∀ byte ∈ utf8 label, isLabelByte byte = true :=
  badLabel_eq_false_iff.mp (normal.labels label listed)

theorem isAscii_label {label : Str} (listed : label ∈ host.splitOn '.') :
    IsAscii label :=
  isAscii_of_utf8 fun byte member =>
    low_of_isLabelByte byte ((labels_of_isNormal normal listed).2.2 byte member)

theorem lowercase_label {label : Str} (listed : label ∈ host.splitOn '.') :
    toAsciiLowercase label = label := by
  have folded : host.map Char.toLower = host.map id := by
    rw [List.map_id]
    exact normal.lowercase
  have inHost : label ⊆ host := by
    rw [← join_splitOn host]
    exact subset_join listed
  have kept : label.map Char.toLower = label.map id :=
    List.map_congr_left fun char member =>
      List.map_inj_left.mp folded char (inHost member)
  rw [toAsciiLowercase, kept, List.map_id]

theorem sized_hostLabels :
    ∀ label ∈ hostLabels host, 0 < label.length ∧ label.length ≤ 63 := by
  rw [hostLabels, List.forall_mem_map]
  intro label listed
  obtain ⟨nonempty, short, -⟩ := labels_of_isNormal normal listed
  exact ⟨List.length_pos_iff.mpr (utf8_ne_nil nonempty), short⟩

/-- Every label is read as it was. -/
theorem reads_hostLabels :
    List.Forall₂ Reads (hostLabels host) (host.splitOn '.') := by
  rw [hostLabels, List.forall₂_map_left_iff, List.forall₂_same]
  intro label listed
  exact ⟨label, fromUtf8_encode label, lowercase_label normal listed⟩

omit normal in
theorem length_wireLabels_hostLabels (host : Str) :
    (wireLabels (hostLabels host)).length = byteLen host + 1 := by
  have nonempty : host.splitOn '.' ≠ [] := List.splitOn_ne_nil '.' host
  have joined := byteLen_join nonempty
  rw [join_splitOn] at joined
  rw [joined, hostLabels, wireLabels, List.length_flatMap, List.map_map]
  rfl

end Host

/-! ## Messages about a host -/

/-- A header, the name of a host and what follows it. -/
def message (header : Bytes) (host : Str) (tail : Bytes) : Bytes :=
  header ++ (wireLabels (hostLabels host) ++ 0 :: tail)

def requestHeader (id : UInt16) : Bytes :=
  toBeU16 id.toNat ++ [1, 0, 0, 1, 0, 0, 0, 0, 0, 0]

def replyHeader (id : UInt16) : Bytes :=
  toBeU16 id.toNat ++ [0x81, 0x80, 0, 1, 0, 1, 0, 0, 0, 0]

/-- The request for the address of a host. -/
def request (id : UInt16) (host : Str) : Bytes :=
  message (requestHeader id) host [0, 1, 0, 1]

theorem query_eq {host normal : Str} (accepted : normalize host = .ok normal)
    (id : UInt16) : query host id = .ok (request id normal) := by
  rw [query, accepted]
  rfl

section Message

variable {header : Bytes} (length : header.length = 12) (host : Str)
  (tail : Bytes)

include length

theorem length_message :
    (message header host tail).length = 12 + (byteLen host + 2) + tail.length := by
  rw [message, List.length_append, List.length_append, List.length_cons, length,
    length_wireLabels_hostLabels]
  omega

theorem word_message_header {offset : Nat} (inside : offset + 2 ≤ 12) :
    word (message header host tail) offset = word header offset :=
  word_append_left (by omega) _

/-- The message with its part up to the end of the name taken together. -/
theorem message_split :
    ∃ front, message header host tail = front ++ tail ∧
      front.length = 12 + (byteLen host + 2) := by
  refine ⟨header ++ (wireLabels (hostLabels host) ++ [0]), ?_, ?_⟩
  · simp [message]
  · have whole := length_message length host []
    rw [List.length_nil] at whole
    exact whole

theorem word_message_tail (offset : Nat) :
    word (message header host tail) (12 + (byteLen host + 2) + offset) =
      word tail offset := by
  obtain ⟨front, split, long⟩ := message_split length host tail
  rw [split, ← long]
  exact word_append_right front tail offset

theorem slice?_message_tail (offset count : Nat) :
    slice? (message header host tail) (12 + (byteLen host + 2) + offset) count =
      slice? tail offset count := by
  obtain ⟨front, split, long⟩ := message_split length host tail
  rw [split, ← long]
  exact slice?_append_right front tail offset count

theorem getElem?_message_tail (offset : Nat) :
    (message header host tail)[12 + (byteLen host + 2) + offset]? =
      tail[offset]? := by
  obtain ⟨front, split, long⟩ := message_split length host tail
  rw [split, ← long, List.getElem?_append_right (Nat.le_add_right _ _),
    Nat.add_sub_cancel_left]

variable {host} (normal : IsNormal host)

include normal

theorem spells_message :
    Spells (message header host tail) 12 (hostLabels host)
      ((hostLabels host).length + 1) (12 + (byteLen host + 2)) := by
  have spelled :=
    spells_wireLabels (sized_hostLabels normal) header tail
  rw [length, length_wireLabels_hostLabels] at spelled
  exact spelled

theorem name_message (few : (hostLabels host).length ≤ 63) :
    name (message header host tail) 12 =
      .ok (host, 12 + (byteLen host + 2)) := by
  have spelled := spells_message length tail normal
  exact name_eq_ok_iff.mpr ⟨_, _, _, spelled, Nat.succ_le_succ few,
    reads_hostLabels normal, (join_splitOn host).symm, normal.short⟩

end Message

/-! ## Questions that are read back -/

section Host

variable {host : Str} (normal : IsNormal host) (id : UInt16)

theorem length_requestHeader : (requestHeader id).length = 12 :=
  rfl

theorem words_requestHeader :
    word (requestHeader id) 2 = .ok 256 ∧ word (requestHeader id) 4 = .ok 1 ∧
      word (requestHeader id) 6 = .ok 0 ∧
      word (requestHeader id) 8 = .ok 0 := by
  simp [word, requestHeader, toBeU16, byteAt, beU16]

theorem length_request :
    (request id host).length = 12 + (byteLen host + 2) + 4 :=
  length_message (length_requestHeader id) host _

include normal

theorem asks_request (few : (hostLabels host).length ≤ 63) :
    Asks (request id host) host host 1 (12 + (byteLen host + 2)) := by
  have length := length_requestHeader id
  have whole := @length_request host id
  have short := normal.short
  have header {offset : Nat} (inside : offset + 2 ≤ 12) :
      word (request id host) offset = word (requestHeader id) offset :=
    word_message_header length host _ inside
  obtain ⟨flags, questions, answers, authorities⟩ := words_requestHeader id
  constructor
  · omega
  · omega
  · exact ⟨256, (header (by decide)).trans flags, by decide⟩
  · exact (header (by decide)).trans questions
  · exact (header (by decide)).trans answers
  · exact (header (by decide)).trans authorities
  · exact name_message length _ normal few
  · exact normal.normalize_eq
  · exact word_message_tail length host _ 0
  · exact word_message_tail length host _ 2

theorem question_request (few : (hostLabels host).length ≤ 63) :
    question (request id host) = .ok (host, 1, (request id host).length) :=
  question_eq_ok_iff.mpr
    ⟨host, _, asks_request normal id few, length_request id⟩

/-- A question is only read if its name is short enough. -/
theorem few_of_question {asked : Str} {kind ending : Nat}
    (read : question (request id host) = .ok (asked, kind, ending)) :
    (hostLabels host).length ≤ 63 := by
  obtain ⟨asked, after, asks, -⟩ := question_eq_ok_iff.mp read
  have spelled := spells_message (length_requestHeader id) [0, 1, 0, 1] normal
  exact Nat.le_of_succ_le_succ (spelled.steps_le asks.named)

end Host

/-! ## Answers that are read back -/

/-- The record of `reply`. -/
def answerRecord (ip : Ipv4Addr) (ttl : Nat) : Bytes :=
  [0xc0, 12, 0, 1, 0, 1] ++ toBeU32 ttl ++ [0, 4] ++ [ip.a, ip.b, ip.c, ip.d]

/-- The whole seconds that fit into a record. -/
def recordTtl (ttl : Duration) : Nat :=
  min ttl.secs 4294967295

def answer (id : UInt16) (host : Str) (ip : Ipv4Addr) (ttl : Duration) :
    Bytes :=
  message (replyHeader id) host ([0, 1, 0, 1] ++ answerRecord ip (recordTtl ttl))

theorem reply_request (id : UInt16) (host : Str) (ip : Ipv4Addr)
    (ttl : Duration) :
    reply (request id host) (request id host).length (some ip) ttl 0 =
      some (answer id host ip ttl) := by
  have whole := @length_request host id
  have inside :
      12 ≤ (request id host).length ∧
        (request id host).length ≤ (request id host).length := by
    omega
  have marked : (0x80 : UInt8) ||| 1 = 0x81 := by decide
  rw [reply, if_pos inside, List.take_length]
  simp [request, answer, message, requestHeader, replyHeader, toBeU16,
    answerRecord, recordTtl, byteAt, marked]

theorem shiftLeft_or_mod {ttl : Nat} :
    (ttl / 65536) <<< 16 ||| ttl % 65536 = ttl := by
  have low : ttl % 65536 < 2 ^ 16 := Nat.mod_lt _ (by decide)
  rw [← Nat.shiftLeft_add_eq_or_of_lt low, Nat.shiftLeft_eq]
  omega

theorem words_replyHeader (id : UInt16) :
    word (replyHeader id) 0 = .ok id.toNat ∧
      word (replyHeader id) 2 = .ok 0x8180 ∧
      word (replyHeader id) 4 = .ok 1 ∧ word (replyHeader id) 6 = .ok 1 ∧
      word (replyHeader id) 8 = .ok 0 ∧ word (replyHeader id) 10 = .ok 0 := by
  have small := id.toNat_lt
  simp [word, replyHeader, toBeU16, byteAt, beU16]
  omega

/-- The words of the question and of the record behind it. -/
theorem words_answerRecord (ip : Ipv4Addr) {ttl : Nat}
    (fits : ttl < 4294967296) :
    let tail := [0, 1, 0, 1] ++ answerRecord ip ttl
    word tail 0 = .ok 1 ∧ word tail 2 = .ok 1 ∧
      word tail 4 = .ok 0xc00c ∧ word tail 6 = .ok 1 ∧
      word tail 8 = .ok 1 ∧
      word tail 10 = .ok (ttl / 65536) ∧ word tail 12 = .ok (ttl % 65536) ∧
      word tail 14 = .ok 4 ∧
      slice? tail 16 4 = some [ip.a, ip.b, ip.c, ip.d] := by
  simp [word, slice?, answerRecord, toBeU32, toBeU16, byteAt, beU16]
  omega

theorem collect_address (bytes : Bytes) (owner : Str) (ip : Ipv4Addr)
    (ttl cursor : Nat) :
    collect bytes owner 1 ttl [ip.a, ip.b, ip.c, ip.d] cursor ⟨∅, ∅⟩ =
      .ok ⟨∅, (∅ : HashTable Str _).insert owner [(ip, ttl)]⟩ := by
  rw [collect, if_pos ⟨rfl, rfl⟩, AList.lookup_empty]
  rfl

/-- The host itself has an address. -/
theorem follow_address (owner : Str) (ip : Ipv4Addr) (ttl : Duration) :
    follow ⟨∅, (∅ : HashTable Str _).insert owner [(ip, recordTtl ttl)]⟩ 16
        owner 4294967295 [] =
      .ok (.addresses [ip] (.fromSecs (recordTtl ttl))) := by
  have smaller : min 4294967295 (recordTtl ttl) = recordTtl ttl :=
    Nat.min_eq_right (Nat.min_le_right _ _)
  rw [follow, if_neg List.not_mem_nil, AList.lookup_insert]
  simp [addAddress, smaller]

section Host

variable {host : Str} (normal : IsNormal host) (id : UInt16) (ip : Ipv4Addr)
  (ttl : Duration)

theorem length_replyHeader : (replyHeader id).length = 12 :=
  rfl

omit ip in
theorem recordTtl_lt : recordTtl ttl < 4294967296 := by
  rw [recordTtl]
  omega

theorem word_answer (host : Str) (offset : Nat) :
    word (answer id host ip ttl) (12 + (byteLen host + 2) + offset) =
      word ([0, 1, 0, 1] ++ answerRecord ip (recordTtl ttl)) offset :=
  word_message_tail (length_replyHeader id) host _ offset

include normal

/-- The owner of the record points to the question. -/
theorem spells_owner :
    Spells (answer id host ip ttl) (12 + (byteLen host + 2) + 4)
      (hostLabels host) ((hostLabels host).length + 1 + 1)
      (12 + (byteLen host + 2) + 4 + 2) := by
  have length := length_replyHeader id
  apply Spells.pointer
  · exact getElem?_message_tail length host _ 4
  · decide
  · rw [word_answer]
    exact (words_answerRecord ip (recordTtl_lt ttl)).2.2.1
  · have masked : (0xc00c : Nat) &&& 0x3fff = 12 := by decide
    rw [masked]
    omega
  · exact spells_message length _ normal

/-- An answer that belongs to a question that was read is parsed up to its
record. -/
theorem parse_answer (few : (hostLabels host).length ≤ 63) :
    parse (answer id host ip ttl) host id =
      (collectRecords (answer id host ip ttl) 1 1 0
        (12 + (byteLen host + 2) + 4) ⟨∅, ∅⟩ >>= fun records =>
          follow records 16 host 4294967295 []) := by
  have length := length_replyHeader id
  have header {offset : Nat} (inside : offset + 2 ≤ 12) :
      word (answer id host ip ttl) offset = word (replyHeader id) offset :=
    word_message_header length host _ inside
  obtain ⟨number, flags, questions, answers, authorities, additional⟩ :=
    words_replyHeader id
  have long : ¬(answer id host ip ttl).length < 12 := by
    rw [answer, length_message length]
    omega
  have named :
      name (answer id host ip ttl) 12 = .ok (host, 12 + (byteLen host + 2)) :=
    name_message length _ normal few
  obtain ⟨kind, cls, -⟩ := words_answerRecord ip (recordTtl_lt ttl)
  rw [← word_answer id ip ttl host] at kind cls
  rw [Nat.add_zero] at kind
  rw [parse, if_neg long, header (by decide), number, header (by decide), flags,
    header (by decide), questions, named, header (by decide), answers,
    header (by decide), authorities, header (by decide), additional]
  simp [bind, Except.bind, kind, cls]

/-- The record is collected if its owner is read. -/
theorem record_answer (few : (hostLabels host).length ≤ 62) :
    record (answer id host ip ttl) 1 0 (12 + (byteLen host + 2) + 4) ⟨∅, ∅⟩ =
      .ok (12 + (byteLen host + 2) + 20,
        ⟨∅, (∅ : HashTable Str _).insert host [(ip, recordTtl ttl)]⟩) := by
  have owner :
      name (answer id host ip ttl) (12 + (byteLen host + 2) + 4) =
        .ok (host, 12 + (byteLen host + 2) + 6) :=
    name_eq_ok_iff.mpr ⟨_, _, _, spells_owner normal id ip ttl,
      Nat.add_le_add_right few 2, reads_hostLabels normal,
      (join_splitOn host).symm, normal.short⟩
  obtain ⟨-, -, -, kind, cls, high, low, length, data⟩ :=
    words_answerRecord ip (recordTtl_lt ttl)
  have read {offset value : Nat} (more : Nat)
      (known :
        word ([0, 1, 0, 1] ++ answerRecord ip (recordTtl ttl)) offset =
          .ok value) (position : offset = 6 + more) :
      word (answer id host ip ttl) (12 + (byteLen host + 2) + 6 + more) =
        .ok value := by
    rw [Nat.add_assoc, ← position, word_answer]
    exact known
  have inside :
      slice? (answer id host ip ttl) (12 + (byteLen host + 2) + 6 + 10) 4 =
        some [ip.a, ip.b, ip.c, ip.d] :=
    (slice?_message_tail (length_replyHeader id) host _ 16 4).trans data
  rw [record, owner]
  simp only [bind, Except.bind, read 0 kind rfl, read 2 cls rfl,
    read 4 high rfl, read 6 low rfl, read 8 length rfl, inside,
    collect_address, shiftLeft_or_mod]
  rfl

/-- The record is only collected if its owner is read. -/
theorem few_of_collectRecords {records : Records}
    (collected :
      collectRecords (answer id host ip ttl) 1 1 0
        (12 + (byteLen host + 2) + 4) ⟨∅, ∅⟩ = .ok records) :
    (hostLabels host).length ≤ 62 := by
  obtain ⟨_, recorded, -⟩ := bind_eq_ok.mp collected
  obtain ⟨_, named, -⟩ := bind_eq_ok.mp recorded
  have spelled := spells_owner normal id ip ttl
  exact Nat.le_of_succ_le_succ
    (Nat.le_of_succ_le_succ (spelled.steps_le named))

end Host

/-! ## The round trip -/

/-- A host is read back from its question and from the answer to it. -/
def ReadsBack (host : Str) (id : UInt16) (ip : Ipv4Addr) (ttl : Duration) :
    Prop :=
  ∃ normal packet bytes,
    normalize host = .ok normal ∧ query host id = .ok packet ∧
      question packet = .ok (normal, 1, packet.length) ∧
      reply packet packet.length (some ip) ttl 0 = some bytes ∧
      parse bytes normal id =
        .ok (.addresses [ip] (.fromSecs (min ttl.secs 4294967295)))

theorem readsBack_of_few {host normal : Str}
    (accepted : normalize host = .ok normal)
    (few : (normal.splitOn '.').length ≤ 62) (id : UInt16) (ip : Ipv4Addr)
    (ttl : Duration) : ReadsBack host id ip ttl := by
  have isNormal := isNormal_of_normalize accepted
  have fewLabels : (hostLabels normal).length ≤ 62 := by
    rw [hostLabels, List.length_map]
    exact few
  have fewer := Nat.le_succ_of_le fewLabels
  refine ⟨normal, request id normal, answer id normal ip ttl, accepted,
    query_eq accepted id, question_request isNormal id fewer,
    reply_request id normal ip ttl, ?_⟩
  have recorded := record_answer isNormal id ip ttl fewLabels
  rw [parse_answer isNormal id ip ttl fewer, collectRecords, recorded]
  exact follow_address normal ip ttl

theorem few_of_readsBack {host normal : Str} {id : UInt16} {ip : Ipv4Addr}
    {ttl : Duration} (accepted : normalize host = .ok normal)
    (readsBack : ReadsBack host id ip ttl) :
    (normal.splitOn '.').length ≤ 62 := by
  obtain ⟨normal', packet, bytes, accepted', queried, asked, replied,
    parsed⟩ := readsBack
  have isNormal := isNormal_of_normalize accepted
  rw [accepted] at accepted'
  cases accepted'
  rw [query_eq accepted] at queried
  cases queried
  rw [reply_request] at replied
  cases replied
  have fewer := few_of_question isNormal id asked
  rw [parse_answer isNormal id ip ttl fewer] at parsed
  obtain ⟨records, collected, -⟩ := bind_eq_ok.mp parsed
  have few := few_of_collectRecords isNormal id ip ttl collected
  rw [hostLabels, List.length_map] at few
  exact few

/-- A host is read back exactly if it has at most 62 labels. -/
theorem readsBack_iff {host normal : Str}
    (accepted : normalize host = .ok normal) (id : UInt16) (ip : Ipv4Addr)
    (ttl : Duration) :
    ReadsBack host id ip ttl ↔ (normal.splitOn '.').length ≤ 62 :=
  ⟨few_of_readsBack accepted, fun few =>
    readsBack_of_few accepted few id ip ttl⟩

theorem readsBack_sample :
    ReadsBack "Portal.example.com.".toList 7 ⟨10, 0, 0, 7⟩
      (.fromSecs 5000000000) := by
  have accepted :
      normalize "Portal.example.com.".toList =
        .ok "portal.example.com".toList := by
    decide +kernel
  exact (readsBack_iff accepted _ _ _).mpr (by decide +kernel)

/-- A name of 63 labels. -/
def manyLabels : Str :=
  join (List.replicate 63 ['a'])

/-- `query` accepts a name whose answer `parse` rejects. -/
theorem manyLabels_not_read_back :
    normalize manyLabels = .ok manyLabels ∧
      ¬ReadsBack manyLabels 7 ⟨10, 0, 0, 7⟩ (.fromSecs 2) := by
  have accepted : normalize manyLabels = .ok manyLabels := by decide +kernel
  refine ⟨accepted, ?_⟩
  intro readsBack
  have few := few_of_readsBack accepted readsBack
  exact absurd few (by decide +kernel)

end HermesAtrust.Net.Dns
