import HermesAtrust.Net.DnsWire
import HermesAtrust.Text.Ascii

/-!
# Names on the wire

A name on the wire is a sequence of labels that ends with an empty one; the
rest of a name may be a pointer back to where it was written before.  `name`
follows it for at most 64 steps, folds ASCII case and joins the labels with
dots.  `Spells` is what the bytes say, without a limit on the steps.
-/

namespace HermesAtrust.Net.Dns

open HermesAtrust.Framing HermesAtrust.Text

/-- The errors of the wire format next to those that a lookup already has. -/
inductive WireError where
  | invalidData (message : String)
  | notFound (message : String)
  | lookup (error : IoError)
  deriving DecidableEq, Repr

def bad : WireError :=
  .invalidData "invalid DNS response"

/-- `bytes.get(start..start + length)`. -/
def slice? (bytes : Bytes) (start length : Nat) : Option Bytes :=
  if start + length ≤ bytes.length then
    some ((bytes.drop start).take length)
  else
    none

/-- `word`. -/
def word (bytes : Bytes) (offset : Nat) : Except WireError Nat :=
  if offset + 2 ≤ bytes.length then
    .ok (beU16 (byteAt bytes offset) (byteAt bytes (offset + 1)))
  else
    .error bad

theorem word_append_left {bytes : Bytes} {offset : Nat}
    (inside : offset + 2 ≤ bytes.length) (rest : Bytes) :
    word (bytes ++ rest) offset = word bytes offset := by
  have within : offset + 2 ≤ (bytes ++ rest).length := by
    rw [List.length_append]
    omega
  rw [word, word, if_pos within, if_pos inside,
    byteAt_append_left (by omega), byteAt_append_left (by omega)]

theorem word_append_right (bytes rest : Bytes) (offset : Nat) :
    word (bytes ++ rest) (bytes.length + offset) = word rest offset := by
  have same :
      bytes.length + offset + 2 ≤ (bytes ++ rest).length ↔
        offset + 2 ≤ rest.length := by
    rw [List.length_append]
    omega
  have high := byteAt_append_right bytes rest offset
  have low := byteAt_append_right bytes rest (offset + 1)
  rw [← Nat.add_assoc] at low
  simp only [word, same, high, low]

theorem le_length_of_word {bytes : Bytes} {offset value : Nat}
    (known : word bytes offset = .ok value) : offset + 2 ≤ bytes.length := by
  by_contra outside
  rw [word, if_neg outside] at known
  cases known

theorem length_of_slice? {bytes data : Bytes} {start length : Nat}
    (inside : slice? bytes start length = some data) :
    data.length = length ∧ start + length ≤ bytes.length := by
  rw [slice?] at inside
  split at inside
  · next within =>
      cases inside
      rw [List.length_take, List.length_drop]
      omega
  · cases inside

theorem slice?_append_right (bytes rest : Bytes) (start length : Nat) :
    slice? (bytes ++ rest) (bytes.length + start) length =
      slice? rest start length := by
  have same :
      bytes.length + start + length ≤ (bytes ++ rest).length ↔
        start + length ≤ rest.length := by
    rw [List.length_append]
    omega
  simp only [slice?, same, List.drop_append, Nat.add_sub_cancel_left,
    List.drop_eq_nil_of_le (Nat.le_add_right _ _), List.nil_append]

theorem slice?_front (bytes rest : Bytes) :
    slice? (bytes ++ rest) 0 bytes.length = some bytes := by
  simp [slice?]

/-- `labels.join(".")`. -/
def join (labels : List Str) : Str :=
  ['.'].intercalate labels

theorem join_cons_cons (first second : Str) (later : List Str) :
    join (first :: second :: later) = first ++ '.' :: join (second :: later) := by
  rw [join, List.intercalate_cons_cons, List.append_assoc]
  rfl

theorem join_splitOn (host : Str) : join (host.splitOn '.') = host :=
  List.intercalate_splitOn '.'

theorem splitOn_join {labels : List Str} (nonempty : labels ≠ [])
    (dotless : ∀ label ∈ labels, '.' ∉ label) :
    (join labels).splitOn '.' = labels :=
  List.splitOn_intercalate '.' dotless nonempty

theorem mem_join {char : Char} {labels : List Str}
    (member : char ∈ join labels) :
    char = '.' ∨ ∃ label ∈ labels, char ∈ label := by
  induction labels with
  | nil => cases member
  | cons first later inductionHypothesis =>
      cases later with
      | nil =>
          right
          exact ⟨first, List.mem_cons_self, by simpa [join] using member⟩
      | cons second later =>
          rw [join_cons_cons, List.mem_append, List.mem_cons] at member
          rcases member with inFirst | isDot | inLater
          · exact .inr ⟨first, List.mem_cons_self, inFirst⟩
          · exact .inl isDot
          · rcases inductionHypothesis inLater with
              isDot | ⟨label, listed, inLabel⟩
            · exact .inl isDot
            · exact .inr ⟨label, List.mem_cons_of_mem _ listed, inLabel⟩

theorem subset_join {label : Str} {labels : List Str}
    (listed : label ∈ labels) : label ⊆ join labels := by
  intro char member
  induction labels with
  | nil => cases listed
  | cons first later inductionHypothesis =>
      cases later with
      | nil =>
          cases List.mem_singleton.mp listed
          simpa [join] using member
      | cons second later =>
          rw [join_cons_cons, List.mem_append, List.mem_cons]
          rcases List.mem_cons.mp listed with rfl | inLater
          · exact .inl member
          · exact .inr (.inr (inductionHypothesis inLater))

theorem byteLen_join {labels : List Str} (nonempty : labels ≠ []) :
    byteLen (join labels) + 1 = (labels.map fun label => byteLen label + 1).sum := by
  induction labels with
  | nil => cases nonempty rfl
  | cons first later inductionHypothesis =>
      cases later with
      | nil => simp [join]
      | cons second later =>
          have dot : byteLen ['.'] = 1 := by decide
          have tail := inductionHypothesis (List.cons_ne_nil _ _)
          rw [join_cons_cons, List.append_cons, byteLen_append, byteLen_append,
            dot, List.map_cons, List.sum_cons, ← tail]
          omega

/-- The loop of `name`.  `resume` is the offset behind the first pointer. -/
def walk (bytes : Bytes) :
    Nat → Nat → Option Nat → List Str → Except WireError (Str × Nat)
  | 0, _, _, _ => .error bad
  | fuel + 1, cursor, resume, labels =>
      match bytes[cursor]? with
      | none => .error bad
      | some length =>
          if length &&& 0xc0 = 0xc0 then
            match word bytes cursor with
            | .error error => .error error
            | .ok pair =>
                let pointer := pair &&& 0x3fff
                if cursor ≤ pointer then
                  .error bad
                else
                  walk bytes fuel pointer (some (resume.getD (cursor + 2)))
                    labels
          else if length = 0 then
            let value := join labels
            if 253 < byteLen value then
              .error bad
            else
              .ok (value, resume.getD (cursor + 1))
          else if 63 < length then
            .error bad
          else
            match slice? bytes (cursor + 1) length.toNat with
            | none => .error bad
            | some label =>
                match fromUtf8 label with
                | none => .error bad
                | some text =>
                    walk bytes fuel (cursor + 1 + length.toNat) resume
                      (labels ++ [toAsciiLowercase text])

/-- `name`: the name and the offset behind it. -/
def name (bytes : Bytes) (offset : Nat) : Except WireError (Str × Nat) :=
  walk bytes 64 offset none []

/-! ## What the bytes say -/

/-- The labels of the name at an offset, the steps to its end and the offset
behind it.  A pointer leads back. -/
inductive Spells (bytes : Bytes) : Nat → List Bytes → Nat → Nat → Prop
  | root {cursor : Nat} (known : bytes[cursor]? = some 0) :
      Spells bytes cursor [] 1 (cursor + 1)
  | label {cursor : Nat} {length : UInt8} {label : Bytes}
      {labels : List Bytes} {steps ending : Nat}
      (known : bytes[cursor]? = some length) (nonempty : 0 < length)
      (short : length ≤ 63)
      (inside : slice? bytes (cursor + 1) length.toNat = some label)
      (later :
        Spells bytes (cursor + 1 + length.toNat) labels steps ending) :
      Spells bytes cursor (label :: labels) (steps + 1) ending
  | pointer {cursor : Nat} {length : UInt8} {pair : Nat}
      {labels : List Bytes} {steps ending : Nat}
      (known : bytes[cursor]? = some length)
      (marked : length &&& 0xc0 = 0xc0) (pairIs : word bytes cursor = .ok pair)
      (back : pair &&& 0x3fff < cursor)
      (later : Spells bytes (pair &&& 0x3fff) labels steps ending) :
      Spells bytes cursor labels (steps + 1) (cursor + 2)

/-- How `name` reads a label. -/
def Reads (label : Bytes) (text : Str) : Prop :=
  ∃ decoded, fromUtf8 label = some decoded ∧ toAsciiLowercase decoded = text

theorem unmarked_of_short :
    ∀ length : UInt8, length ≤ 63 → ¬length &&& 0xc0 = 0xc0 :=
  forall_byte (by decide +kernel)

/-- The bytes say one thing only. -/
theorem Spells.unique {bytes : Bytes} {cursor steps steps' : Nat}
    {labels labels' : List Bytes} {ending ending' : Nat}
    (spelled : Spells bytes cursor labels steps ending)
    (other : Spells bytes cursor labels' steps' ending') :
    labels = labels' ∧ steps = steps' ∧ ending = ending' := by
  induction spelled generalizing labels' steps' ending' with
  | root known =>
      cases other with
      | root known' => exact ⟨rfl, rfl, rfl⟩
      | label known' nonempty =>
          rw [known] at known'
          cases known'
          exact absurd nonempty (by decide)
      | pointer known' marked =>
          rw [known] at known'
          cases known'
          exact absurd marked (by decide)
  | label known nonempty short inside later inductionHypothesis =>
      cases other with
      | root known' =>
          rw [known] at known'
          cases known'
          exact absurd nonempty (by decide)
      | label known' nonempty' short' inside' later' =>
          rw [known] at known'
          cases known'
          rw [inside] at inside'
          cases inside'
          obtain ⟨rfl, rfl, rfl⟩ := inductionHypothesis later'
          exact ⟨rfl, rfl, rfl⟩
      | pointer known' marked =>
          rw [known] at known'
          cases known'
          exact absurd marked (unmarked_of_short _ short)
  | pointer known marked pairIs back later inductionHypothesis =>
      cases other with
      | root known' =>
          rw [known] at known'
          cases known'
          exact absurd marked (by decide)
      | label known' nonempty short =>
          rw [known] at known'
          cases known'
          exact absurd marked (unmarked_of_short _ short)
      | pointer known' marked' pairIs' back' later' =>
          rw [pairIs] at pairIs'
          cases pairIs'
          obtain ⟨rfl, rfl, rfl⟩ := inductionHypothesis later'
          exact ⟨rfl, rfl, rfl⟩

/-! ## What `name` returns -/

/-- A name that is short enough is read to its end. -/
theorem walk_of_spells {bytes : Bytes} {cursor steps ending fuel : Nat}
    {labels : List Bytes} {texts read : List Str} {resume : Option Nat}
    (spelled : Spells bytes cursor labels steps ending)
    (enough : steps ≤ fuel) (readable : List.Forall₂ Reads labels texts)
    (short : byteLen (join (read ++ texts)) ≤ 253) :
    walk bytes fuel cursor resume read =
      .ok (join (read ++ texts), resume.getD ending) := by
  induction spelled generalizing fuel texts read resume with
  | root known =>
      cases readable
      obtain ⟨fuel, rfl⟩ := Nat.exists_eq_add_of_le' enough
      rw [List.append_nil] at short ⊢
      rw [walk, known]
      simp [Nat.not_lt.mpr short]
  | label known nonempty brief inside later inductionHypothesis =>
      cases readable with
      | cons reads others =>
          obtain ⟨decoded, decodes, rfl⟩ := reads
          obtain ⟨fuel, rfl⟩ :=
            Nat.exists_eq_add_of_le' (Nat.le_trans (Nat.le_add_left 1 _) enough)
          have unmarked := unmarked_of_short _ brief
          have nonzero := (UInt8.ne_of_lt nonempty).symm
          have within := UInt8.not_lt.mpr brief
          rw [List.append_cons] at short ⊢
          rw [walk, known]
          simp only [unmarked, nonzero, within, inside, decodes, if_false]
          exact inductionHypothesis (Nat.le_of_succ_le_succ enough) others short
  | pointer known marked pairIs back later inductionHypothesis =>
      obtain ⟨fuel, rfl⟩ :=
        Nat.exists_eq_add_of_le' (Nat.le_trans (Nat.le_add_left 1 _) enough)
      have backwards := Nat.not_le.mpr back
      rw [walk, known]
      simp only [marked, pairIs, backwards, if_true, if_false]
      exact inductionHypothesis (Nat.le_of_succ_le_succ enough) readable short

/-- Whatever is read was spelled within the steps. -/
theorem spells_of_walk {bytes : Bytes} {fuel cursor after : Nat}
    {resume : Option Nat} {read : List Str} {value : Str}
    (walked : walk bytes fuel cursor resume read = .ok (value, after)) :
    ∃ labels texts steps ending,
      Spells bytes cursor labels steps ending ∧ steps ≤ fuel ∧
        List.Forall₂ Reads labels texts ∧ value = join (read ++ texts) ∧
        byteLen value ≤ 253 ∧ after = resume.getD ending := by
  induction fuel generalizing cursor resume read with
  | zero => cases walked
  | succ fuel inductionHypothesis =>
      rw [walk] at walked
      split at walked
      · cases walked
      · next length known =>
          by_cases marked : length &&& 0xc0 = 0xc0
          · rw [if_pos marked] at walked
            split at walked
            · cases walked
            · next pair pairIs =>
                by_cases back : pair &&& 0x3fff < cursor
                · simp only [Nat.not_le.mpr back, if_false] at walked
                  obtain ⟨labels, texts, steps, ending, spelled, enough,
                    readable, joined, short, rfl⟩ := inductionHypothesis walked
                  exact ⟨labels, texts, steps + 1, cursor + 2,
                    .pointer known marked pairIs back spelled,
                    Nat.succ_le_succ enough, readable, joined, short, rfl⟩
                · simp only [Nat.not_lt.mp back, if_true] at walked
                  cases walked
          · rw [if_neg marked] at walked
            by_cases zero : length = 0
            · subst zero
              rw [if_pos rfl] at walked
              by_cases long : 253 < byteLen (join read)
              · simp only [long, if_true] at walked
                cases walked
              · simp only [long, if_false] at walked
                cases walked
                exact ⟨[], [], 1, cursor + 1, .root known,
                  Nat.succ_le_succ (Nat.zero_le _), .nil,
                  by rw [List.append_nil], Nat.not_lt.mp long, rfl⟩
            · rw [if_neg zero] at walked
              by_cases long : 63 < length
              · rw [if_pos long] at walked
                cases walked
              · rw [if_neg long] at walked
                split at walked
                · cases walked
                · next label inside =>
                    split at walked
                    · cases walked
                    · next decoded decodes =>
                        obtain ⟨labels, texts, steps, ending, spelled, enough,
                          readable, joined, short, last⟩ :=
                          inductionHypothesis walked
                        exact ⟨label :: labels,
                          toAsciiLowercase decoded :: texts, steps + 1, ending,
                          .label known (UInt8.pos_iff_ne_zero.mpr zero)
                            (UInt8.not_lt.mp long) inside spelled,
                          Nat.succ_le_succ enough,
                          .cons ⟨decoded, decodes, rfl⟩ readable,
                          by rw [List.append_cons]; exact joined, short, last⟩

/-- `name` succeeds on the names of at most 64 steps that are text of at most
253 bytes. -/
theorem name_eq_ok_iff {bytes : Bytes} {offset after : Nat} {value : Str} :
    name bytes offset = .ok (value, after) ↔
      ∃ labels texts steps,
        Spells bytes offset labels steps after ∧ steps ≤ 64 ∧
          List.Forall₂ Reads labels texts ∧ value = join texts ∧
          byteLen value ≤ 253 := by
  constructor
  · intro walked
    obtain ⟨labels, texts, steps, ending, spelled, enough, readable, joined,
      short, rfl⟩ := spells_of_walk walked
    exact ⟨labels, texts, steps, spelled, enough, readable, joined, short⟩
  · rintro ⟨labels, texts, steps, spelled, enough, readable, rfl, short⟩
    exact walk_of_spells spelled enough readable short

theorem Spells.steps_le {bytes : Bytes} {offset steps ending after : Nat}
    {labels : List Bytes} {value : Str}
    (spelled : Spells bytes offset labels steps ending)
    (named : name bytes offset = .ok (value, after)) : steps ≤ 64 := by
  obtain ⟨_, _, _, other, enough, -⟩ := name_eq_ok_iff.mp named
  obtain ⟨-, rfl, -⟩ := spelled.unique other
  exact enough

end HermesAtrust.Net.Dns
