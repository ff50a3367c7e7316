import HermesAtrust.L3.Ipv4Text

/-!
# Host names

`dns_wire::normalize` drops the dots at the end, folds ASCII case and accepts
names of at most 253 bytes with labels of one to 63 letters, digits, hyphens
and underscores.  An address literal is such a name and is its own normal
form.
-/

namespace HermesAtrust.Net

open HermesAtrust.Framing HermesAtrust.L3 HermesAtrust.Text

inductive ErrorKind where
  | addrNotAvailable
  | connectionReset
  | interrupted
  | invalidInput
  | other
  | permissionDenied
  | unsupported
  deriving DecidableEq, Repr

structure IoError where
  kind : ErrorKind
  message : String
  deriving DecidableEq, Repr

/-- The bytes a label may hold. -/
def isLabelByte (byte : UInt8) : Bool :=
  isAsciiAlphanumeric byte || byte == 0x2d || byte == 0x5f

/-- What makes `normalize` reject a label. -/
def badLabel (label : Str) : Bool :=
  label.isEmpty || decide (63 < byteLen label) ||
    !(utf8 label).all isLabelByte

/-- `normalize`. -/
def normalize (host : Str) : Except IoError Str :=
  let host := toAsciiLowercase (trimEndMatches '.' host)
  if 253 < byteLen host ∨ host.isEmpty = true ∨
      (host.splitOn '.').any badLabel = true then
    .error ⟨.invalidInput, "invalid DNS hostname"⟩
  else
    .ok host

/-! ## Normal forms -/

/-- A name that `normalize` accepts as it is. -/
structure IsNormal (host : Str) : Prop where
  short : byteLen host ≤ 253
  nonempty : host ≠ []
  labels : ∀ label ∈ host.splitOn '.', badLabel label = false
  lowercase : toAsciiLowercase host = host

theorem nonempty_of_badLabel_eq_false {label : Str}
    (good : badLabel label = false) : label ≠ [] := by
  intro empty
  subst empty
  simp [badLabel] at good

/-- Names without empty labels do not end with a dot. -/
theorem trimEndMatches_dot {host : Str}
    (labels : ∀ label ∈ host.splitOn '.', label ≠ []) :
    trimEndMatches '.' host = host := by
  apply trimEndMatches_eq_self
  intro nonempty dotted
  have split : host = host.dropLast ++ ['.'] := by
    rw [← dotted, List.dropLast_append_getLast]
  rw [split, List.splitOn_append_cons_self] at labels
  exact labels [] (by simp) rfl

theorem IsNormal.normalize_eq {host : Str} (normal : IsNormal host) :
    normalize host = .ok host := by
  have trimmed : trimEndMatches '.' host = host :=
    trimEndMatches_dot fun label member =>
      nonempty_of_badLabel_eq_false (normal.labels label member)
  have short := normal.short
  have accepted :
      ¬(253 < byteLen host ∨ host.isEmpty = true ∨
        (host.splitOn '.').any badLabel = true) := by
    intro rejected
    rcases rejected with long | empty | bad
    · omega
    · exact normal.nonempty (List.isEmpty_iff.mp empty)
    · obtain ⟨label, member, isBad⟩ := List.any_eq_true.mp bad
      rw [normal.labels label member] at isBad
      cases isBad
  simp only [normalize, trimmed, normal.lowercase]
  rw [if_neg accepted]

/-- What `normalize` returns is a normal form. -/
theorem isNormal_of_normalize {host normalized : Str}
    (known : normalize host = .ok normalized) : IsNormal normalized := by
  simp only [normalize] at known
  split at known
  · cases known
  · next accepted =>
      cases known
      simp only [not_or, Nat.not_lt] at accepted
      obtain ⟨short, nonempty, labels⟩ := accepted
      constructor
      · exact short
      · intro empty
        exact nonempty (List.isEmpty_iff.mpr empty)
      · intro label member
        by_contra bad
        apply labels
        exact List.any_eq_true.mpr ⟨label, member, by simpa using bad⟩
      · exact toAsciiLowercase_idempotent _

theorem normalize_idempotent {host normalized : Str}
    (known : normalize host = .ok normalized) :
    normalize normalized = .ok normalized :=
  (isNormal_of_normalize known).normalize_eq

/-! ## Address literals -/

theorem mem_digits {char : Char} (digit : isDigit char = true) :
    char ∈ "0123456789".toList := by
  simp only [isDigit, Bool.and_eq_true, decide_eq_true_eq] at digit
  have lower : 48 ≤ char.toNat := digit.1
  have upper : char.toNat ≤ 57 := digit.2
  rw [← Char.ofNat_toNat char]
  interval_cases char.toNat <;> decide

theorem digit_facts {char : Char} (member : char ∈ "0123456789".toList) :
    char.toLower = char ∧ (String.utf8EncodeChar char).length = 1 ∧
      (String.utf8EncodeChar char).all isLabelByte = true := by
  have listed :
      char ∈ ['0', '1', '2', '3', '4', '5', '6', '7', '8', '9'] := member
  simp only [List.mem_cons, List.not_mem_nil, or_false] at listed
  rcases listed with rfl | rfl | rfl | rfl | rfl | rfl | rfl | rfl | rfl | rfl
    <;> decide

section Digits

variable {text : Str} (digits : ∀ char ∈ text, isDigit char = true)

include digits

theorem byteLen_digits : byteLen text = text.length := by
  induction text with
  | nil => rfl
  | cons char later inductionHypothesis =>
      have facts := digit_facts (mem_digits (digits char (by simp)))
      have rest :=
        inductionHypothesis fun other member => digits other (by simp [member])
      rw [byteLen] at rest
      rw [byteLen, utf8_cons, List.length_append, facts.2.1, rest,
        List.length_cons]
      omega

theorem badLabel_digits (nonempty : text ≠ []) (short : text.length ≤ 3) :
    badLabel text = false := by
  have bytes : (utf8 text).all isLabelByte = true := by
    rw [List.all_eq_true]
    intro byte member
    obtain ⟨char, inText, encoded⟩ := List.mem_flatMap.mp member
    have facts := digit_facts (mem_digits (digits char inText))
    exact List.all_eq_true.mp facts.2.2 byte encoded
  have length := byteLen_digits digits
  rw [badLabel, bytes, List.isEmpty_eq_false_iff.mpr nonempty]
  simp only [Bool.false_or, Bool.not_true, Bool.or_false, decide_eq_false_iff_not]
  omega

theorem toAsciiLowercase_digits : toAsciiLowercase text = text := by
  rw [toAsciiLowercase]
  conv_rhs => rw [← List.map_id text]
  apply List.map_congr_left
  intro char member
  exact (digit_facts (mem_digits (digits char member))).1

end Digits

/-- An address literal is a normal form. -/
theorem isNormal_of_parseIpv4 {host : Str} {ip : Ipv4Addr}
    (parsed : parseIpv4 host = some ip) : IsNormal host := by
  obtain ⟨four, shape⟩ := parseIpv4_eq_some parsed
  obtain ⟨first, second, third, fourth, labels⟩ :
      ∃ first second third fourth,
        host.splitOn '.' = [first, second, third, fourth] := by
    match known : host.splitOn '.' with
    | [] => simp [known] at four
    | [_] => simp [known] at four
    | [_, _] => simp [known] at four
    | [_, _, _] => simp [known] at four
    | [first, second, third, fourth] =>
        exact ⟨first, second, third, fourth, rfl⟩
    | _ :: _ :: _ :: _ :: _ :: _ => simp [known] at four
  have joined :
      host =
        first ++ ['.'] ++ second ++ ['.'] ++ third ++ ['.'] ++ fourth := by
    have whole := @List.intercalate_splitOn Char host _ _ '.'
    rw [labels] at whole
    rw [← whole]
    simp [List.intercalate]
  have firstShape := shape first (by simp [labels])
  have secondShape := shape second (by simp [labels])
  have thirdShape := shape third (by simp [labels])
  have fourthShape := shape fourth (by simp [labels])
  constructor
  · have dot : byteLen ['.'] = 1 := by decide
    rw [joined]
    simp only [byteLen_append, dot, byteLen_digits firstShape.2.2,
      byteLen_digits secondShape.2.2, byteLen_digits thirdShape.2.2,
      byteLen_digits fourthShape.2.2]
    omega
  · rw [joined]
    simp
  · intro label member
    obtain ⟨nonempty, short, digits⟩ := shape label member
    exact badLabel_digits digits nonempty short
  · have dot : toAsciiLowercase ['.'] = ['.'] := by decide
    rw [joined]
    simp only [toAsciiLowercase_append, dot,
      toAsciiLowercase_digits firstShape.2.2,
      toAsciiLowercase_digits secondShape.2.2,
      toAsciiLowercase_digits thirdShape.2.2,
      toAsciiLowercase_digits fourthShape.2.2]

end HermesAtrust.Net
