import HermesAtrust.Net.DnsRoundTrip

/-!
# The name that was asked

`question` returns the labels of the request joined with dots, and `query`
splits them again.  The two agree as long as no label holds a dot itself.
-/

namespace HermesAtrust.Net.Dns

open HermesAtrust.Framing HermesAtrust.Text

/-- The labels of the name that a message asks for. -/
def QName (message : Bytes) (labels : List Bytes) : Prop :=
  ∃ steps ending, Spells message 12 labels steps ending

/-- The same labels up to ASCII case. -/
def SameLabels (first second : List Bytes) : Prop :=
  first.map (List.map lowerByte) = second.map (List.map lowerByte)

instance (first second : List Bytes) : Decidable (SameLabels first second) :=
  inferInstanceAs (Decidable (_ = _))

/-- No label of the name holds a dot. -/
def Dotless (message : Bytes) : Prop :=
  ∀ labels, QName message labels → ∀ label ∈ labels, 0x2e ∉ label

/-- The host stands for the name that was asked: written again it has the same
labels, and no other name is read as this host. -/
structure AskedAsRead (message : Bytes) (host : Str) (ending : Nat) :
    Prop where
  bounded : ending ≤ message.length
  written :
    ∃ labels, QName message labels ∧
      ∀ id, ∃ packet again,
        query host id = .ok packet ∧ QName packet again ∧
          SameLabels again labels
  distinct :
    ∀ other kind after, question other = .ok (host, kind, after) →
      Dotless other →
        ∀ labels labels', QName message labels → QName other labels' →
          SameLabels labels labels'

theorem QName.unique {message : Bytes} {labels labels' : List Bytes}
    (named : QName message labels) (other : QName message labels') :
    labels = labels' := by
  obtain ⟨_, _, spelled⟩ := named
  obtain ⟨_, _, spelled'⟩ := other
  exact (spelled.unique spelled').1

theorem Spells.nonempty {bytes : Bytes} {cursor steps ending : Nat}
    {labels : List Bytes} (spelled : Spells bytes cursor labels steps ending) :
    ∀ label ∈ labels, label ≠ [] := by
  induction spelled with
  | root known =>
      intro label listed
      cases listed
  | @label cursor length label labels steps ending known positive short inside
      later inductionHypothesis =>
      intro other listed
      rcases List.mem_cons.mp listed with rfl | inLater
      · have long : 0 < length.toNat := UInt8.lt_iff_toNat_lt.mp positive
        have size := (length_of_slice? inside).1
        rintro rfl
        rw [List.length_nil] at size
        omega
      · exact inductionHypothesis other inLater
  | pointer known marked pairIs back later inductionHypothesis =>
      exact inductionHypothesis

/-! ## Labels without dots -/

theorem lowerByte_idempotent :
    ∀ byte : UInt8, lowerByte (lowerByte byte) = lowerByte byte :=
  forall_byte (by decide +kernel)

theorem dot_mem_map_lowerByte {label : Bytes} :
    0x2e ∈ label.map lowerByte ↔ 0x2e ∈ label := by
  constructor
  · intro member
    obtain ⟨byte, inLabel, folded⟩ := List.mem_map.mp member
    rw [lowerByte_eq_dot_iff] at folded
    subst folded
    exact inLabel
  · intro member
    exact List.mem_map.mpr ⟨_, member, (lowerByte_eq_dot_iff _).mpr rfl⟩

theorem SameLabels.dotless {first second : List Bytes}
    (same : SameLabels first second)
    (dotless : ∀ label ∈ first, 0x2e ∉ label) :
    ∀ label ∈ second, 0x2e ∉ label := by
  intro label listed dotted
  have folded : label.map lowerByte ∈ first.map (List.map lowerByte) := by
    rw [same]
    exact List.mem_map_of_mem listed
  obtain ⟨other, inFirst, equal⟩ := List.mem_map.mp folded
  apply dotless other inFirst
  rw [← dot_mem_map_lowerByte, equal, dot_mem_map_lowerByte]
  exact dotted

theorem dotless_hostLabels {host : Str} (normal : IsNormal host) :
    ∀ label ∈ hostLabels host, 0x2e ∉ label := by
  rw [hostLabels, List.forall_mem_map]
  intro label listed dotted
  have good := (labels_of_isNormal normal listed).2.2 0x2e dotted
  exact isLabelByte_ne_dot _ good rfl

theorem dot_mem_utf8 {text : Str} (dotted : '.' ∈ text) : 0x2e ∈ utf8 text :=
  List.mem_flatMap.mpr ⟨'.', dotted, by decide⟩

/-- What is normal text after trimming and folding was ASCII text before. -/
theorem isAscii_of_normalize {asked host : Str}
    (accepted : normalize asked = .ok host) : IsAscii asked := by
  have normal := isNormal_of_normalize accepted
  have hostAscii : IsAscii host := by
    rw [← join_splitOn host]
    intro char member
    rcases mem_join member with rfl | ⟨label, listed, inLabel⟩
    · decide
    · exact isAscii_label normal listed char inLabel
  have trimmed : host = toAsciiLowercase (trimEndMatches '.' asked) := by
    simp only [normalize] at accepted
    split at accepted
    · cases accepted
    · cases accepted
      rfl
  rw [trimmed, isAscii_toAsciiLowercase] at hostAscii
  rw [← @List.rdropWhile_append_rtakeWhile _ (· == '.') asked]
  refine isAscii_append.mpr ⟨hostAscii, ?_⟩
  intro char member
  have isDot := List.mem_rtakeWhile_imp member
  rw [beq_iff_eq] at isDot
  subst isDot
  decide

/-! ## Labels and the text that is read from them -/

/-- The text of an ASCII label is the label in lower case. -/
theorem utf8_of_reads {label : Bytes} {text : Str} (reads : Reads label text)
    (ascii : IsAscii text) :
    utf8 text = label.map lowerByte ∧ toAsciiLowercase text = text := by
  obtain ⟨decoded, decodes, rfl⟩ := reads
  rw [isAscii_toAsciiLowercase] at ascii
  constructor
  · rw [← utf8_of_fromUtf8 decodes]
    exact utf8_toAsciiLowercase ascii
  · exact toAsciiLowercase_idempotent decoded

theorem map_utf8_of_reads {labels : List Bytes} {texts : List Str}
    (readable : List.Forall₂ Reads labels texts)
    (ascii : ∀ text ∈ texts, IsAscii text) :
    texts.map utf8 = labels.map (List.map lowerByte) ∧
      ∀ text ∈ texts, toAsciiLowercase text = text := by
  induction readable with
  | nil => exact ⟨rfl, List.forall_mem_nil _⟩
  | cons reads later inductionHypothesis =>
      obtain ⟨firstAscii, laterAscii⟩ := List.forall_mem_cons.mp ascii
      obtain ⟨firstBytes, firstLower⟩ := utf8_of_reads reads firstAscii
      obtain ⟨laterBytes, laterLower⟩ := inductionHypothesis laterAscii
      constructor
      · rw [List.map_cons, List.map_cons, firstBytes, laterBytes]
      · exact List.forall_mem_cons.mpr ⟨firstLower, laterLower⟩

/-- Joining and splitting again gives the same labels. -/
theorem sameLabels_hostLabels {labels : List Bytes} {texts : List Str}
    {host : Str} (readable : List.Forall₂ Reads labels texts)
    (nonempty : ∀ label ∈ labels, label ≠ [])
    (accepted : normalize (join texts) = .ok host)
    (dotless : ∀ label ∈ labels, 0x2e ∉ label) :
    SameLabels (hostLabels host) labels := by
  have joinedAscii := isAscii_of_normalize accepted
  have ascii : ∀ text ∈ texts, IsAscii text := fun text listed char member =>
    joinedAscii char (subset_join listed member)
  obtain ⟨bytes, lower⟩ := map_utf8_of_reads readable ascii
  have origin {text : Str} (listed : text ∈ texts) :
      ∃ label ∈ labels, label.map lowerByte = utf8 text := by
    have member : utf8 text ∈ labels.map (List.map lowerByte) := by
      rw [← bytes]
      exact List.mem_map_of_mem listed
    exact List.mem_map.mp member
  have noDots : ∀ text ∈ texts, '.' ∉ text := by
    intro text listed dotted
    obtain ⟨label, inLabels, folded⟩ := origin listed
    apply dotless label inLabels
    rw [← dot_mem_map_lowerByte, folded]
    exact dot_mem_utf8 dotted
  have noGaps : ∀ text ∈ texts, text ≠ [] := by
    rintro text listed rfl
    obtain ⟨label, inLabels, folded⟩ := origin listed
    exact nonempty label inLabels (List.map_eq_nil_iff.mp folded)
  have several : texts ≠ [] := by
    rintro rfl
    cases accepted
  have split : (join texts).splitOn '.' = texts := splitOn_join several noDots
  have trimmed : trimEndMatches '.' (join texts) = join texts := by
    apply trimEndMatches_dot
    rw [split]
    exact noGaps
  have folded : toAsciiLowercase (join texts) = join texts := by
    have chars : ∀ char ∈ join texts, char.toLower = id char := by
      intro char member
      rcases mem_join member with rfl | ⟨text, listed, inText⟩
      · decide
      · have kept := lower text listed
        rw [toAsciiLowercase] at kept
        conv_rhs at kept => rw [← List.map_id text]
        exact List.map_inj_left.mp kept char inText
    rw [toAsciiLowercase, List.map_congr_left chars, List.map_id]
  have same : host = join texts := by
    simp only [normalize, trimmed, folded] at accepted
    split at accepted
    · cases accepted
    · cases accepted
      rfl
  rw [SameLabels, hostLabels, same, split, bytes, List.map_map]
  apply List.map_congr_left
  intro label _
  rw [Function.comp_apply, List.map_map]
  exact List.map_congr_left fun byte _ => lowerByte_idempotent byte

/-! ## Questions -/

/-- What a question says about the name that was asked. -/
theorem qName_of_question {message : Bytes} {host : Str} {kind ending : Nat}
    (asked : question message = .ok (host, kind, ending)) :
    ∃ labels texts, QName message labels ∧
      List.Forall₂ Reads labels texts ∧
      (∀ label ∈ labels, label ≠ []) ∧ normalize (join texts) = .ok host := by
  obtain ⟨text, after, asks, -⟩ := question_eq_ok_iff.mp asked
  obtain ⟨labels, texts, steps, spelled, -, readable, rfl, -⟩ :=
    name_eq_ok_iff.mp asks.named
  exact ⟨labels, texts, ⟨steps, after, spelled⟩, readable, spelled.nonempty,
    asks.normalized⟩

/-- The host of a question without dots in its labels has these labels. -/
theorem sameLabels_of_question {message : Bytes} {host : Str}
    {kind ending : Nat} {labels : List Bytes}
    (asked : question message = .ok (host, kind, ending))
    (dotless : Dotless message) (named : QName message labels) :
    SameLabels (hostLabels host) labels := by
  obtain ⟨labels', texts, named', readable, nonempty, accepted⟩ :=
    qName_of_question asked
  cases named.unique named'
  exact sameLabels_hostLabels readable nonempty accepted (dotless labels named)

theorem qName_request {host : Str} (normal : IsNormal host) (id : UInt16) :
    QName (request id host) (hostLabels host) :=
  ⟨_, _, spells_message (length_requestHeader id) _ normal⟩

/-- The labels of a host hold no dots. -/
theorem AskedAsRead.dotless {message : Bytes} {host : Str} {kind ending : Nat}
    (asRead : AskedAsRead message host ending)
    (asked : question message = .ok (host, kind, ending)) :
    Dotless message := by
  obtain ⟨_, _, _, _, _, accepted⟩ := qName_of_question asked
  have normal := isNormal_of_normalize accepted
  intro labels named
  obtain ⟨labels', named', written⟩ := asRead.written
  obtain ⟨packet, again, isPacket, namedAgain, same⟩ := written 0
  rw [query_eq normal.normalize_eq] at isPacket
  cases isPacket
  cases namedAgain.unique (qName_request normal 0)
  cases named.unique named'
  exact same.dotless (dotless_hostLabels normal)

/-- The host stands for the name that was asked exactly if no label of the name
holds a dot. -/
theorem askedAsRead_iff {message : Bytes} {host : Str} {kind ending : Nat}
    (asked : question message = .ok (host, kind, ending)) :
    AskedAsRead message host ending ↔ Dotless message := by
  obtain ⟨labels, texts, named, -, -, accepted⟩ := qName_of_question asked
  have normal := isNormal_of_normalize accepted
  constructor
  · intro asRead
    exact asRead.dotless asked
  · intro dotless
    constructor
    · obtain ⟨text, after, asks, rfl⟩ := question_eq_ok_iff.mp asked
      exact le_length_of_word asks.internet
    · exact ⟨labels, named, fun id => ⟨request id host, hostLabels host,
        query_eq normal.normalize_eq id, qName_request normal id,
        sameLabels_of_question asked dotless named⟩⟩
    · intro other kind' after otherAsked otherDotless first second isFirst
        isSecond
      have same := sameLabels_of_question asked dotless isFirst
      have same' := sameLabels_of_question otherAsked otherDotless isSecond
      exact same.symm.trans same'

/-- A request for the label `Ab`. -/
def capitalRequest : Bytes :=
  requestHeader 7 ++ [2, 0x41, 0x62, 0, 0, 1, 0, 1]

theorem askedAsRead_sample :
    AskedAsRead capitalRequest "ab".toList capitalRequest.length := by
  have asked :
      question capitalRequest =
        .ok ("ab".toList, 1, capitalRequest.length) := by
    decide +kernel
  have named : QName capitalRequest [[0x41, 0x62]] :=
    ⟨_, _, .label rfl (by decide) (by decide) rfl (.root rfl)⟩
  refine (askedAsRead_iff asked).mpr ?_
  intro labels other
  cases other.unique named
  decide

/-- A request for the one label `a.b`. -/
def dottedRequest : Bytes :=
  requestHeader 7 ++ [3, 0x61, 0x2e, 0x62, 0, 0, 1, 0, 1]

/-- A label with a dot is read as two labels. -/
theorem dotted_label_read_as_two :
    question dottedRequest = .ok ("a.b".toList, 1, dottedRequest.length) ∧
      question (request 7 "a.b".toList) =
        .ok ("a.b".toList, 1, (request 7 "a.b".toList).length) ∧
      QName dottedRequest [[0x61, 0x2e, 0x62]] ∧
      QName (request 7 "a.b".toList) [[0x61], [0x62]] ∧
      ¬SameLabels [[0x61, 0x2e, 0x62]] [[0x61], [0x62]] ∧
      ¬AskedAsRead dottedRequest "a.b".toList dottedRequest.length := by
  have asked :
      question dottedRequest =
        .ok ("a.b".toList, 1, dottedRequest.length) := by
    decide +kernel
  have named : QName dottedRequest [[0x61, 0x2e, 0x62]] :=
    ⟨_, _, .label rfl (by decide) (by decide) rfl (.root rfl)⟩
  have accepted : normalize "a.b".toList = .ok "a.b".toList := by
    decide +kernel
  refine ⟨asked, by decide +kernel, named, ?_, by decide +kernel, ?_⟩
  · exact qName_request (isNormal_of_normalize accepted) 7
  · intro asRead
    exact asRead.dotless asked _ named _ List.mem_cons_self (by decide)

end HermesAtrust.Net.Dns
