import HermesAtrust.Framing.ByteOrder
import Mathlib.Data.List.DropRight
import Mathlib.Tactic.IntervalCases

/-!
# Text as a sequence of characters

The operations of a string type whose lengths are counted in UTF-8 bytes:
trimming, ASCII case, splitting at a character.  A string is the list of its
characters.
-/

namespace HermesAtrust.Text

open HermesAtrust.Framing

abbrev Str := List Char

/-- The UTF-8 encoding. -/
def utf8 (text : Str) : Bytes :=
  text.flatMap String.utf8EncodeChar

/-- Length in bytes. -/
def byteLen (text : Str) : Nat :=
  (utf8 text).length

/-- The characters with the property `White_Space`. -/
def isWhitespace (char : Char) : Bool :=
  let code := char.toNat
  (0x09 ≤ code && code ≤ 0x0d) || code == 0x20 || code == 0x85 ||
    code == 0xa0 || code == 0x1680 || (0x2000 ≤ code && code ≤ 0x200a) ||
    code == 0x2028 || code == 0x2029 || code == 0x202f || code == 0x205f ||
    code == 0x3000

def trim (text : Str) : Str :=
  (text.dropWhile isWhitespace).rdropWhile isWhitespace

def trimEndMatches (char : Char) (text : Str) : Str :=
  text.rdropWhile (· == char)

def toAsciiLowercase (text : Str) : Str :=
  text.map Char.toLower

/-- Whether the byte is a letter or a digit of ASCII. -/
def isAsciiAlphanumeric (byte : UInt8) : Bool :=
  (0x30 ≤ byte && byte ≤ 0x39) || (0x41 ≤ byte && byte ≤ 0x5a) ||
    (0x61 ≤ byte && byte ≤ 0x7a)

def stripPrefix? (start text : Str) : Option Str :=
  if start.isPrefixOf text then some (text.drop start.length) else none

@[simp]
theorem utf8_nil : utf8 [] = [] :=
  rfl

@[simp]
theorem utf8_append (first second : Str) :
    utf8 (first ++ second) = utf8 first ++ utf8 second := by
  simp [utf8]

theorem utf8_cons (char : Char) (text : Str) :
    utf8 (char :: text) = String.utf8EncodeChar char ++ utf8 text := by
  simp [utf8]

theorem byteLen_append (first second : Str) :
    byteLen (first ++ second) = byteLen first + byteLen second := by
  rw [byteLen, utf8_append, List.length_append, byteLen, byteLen]

theorem byteLen_cons (char : Char) (text : Str) :
    byteLen (char :: text) = char.utf8Size + byteLen text := by
  rw [byteLen, utf8_cons, List.length_append, String.length_utf8EncodeChar,
    byteLen]

/-- Every character has a byte. -/
theorem length_le_byteLen (text : Str) : text.length ≤ byteLen text := by
  induction text with
  | nil => exact Nat.zero_le _
  | cons char later inductionHypothesis =>
      have positive := char.utf8Size_pos
      rw [List.length_cons, byteLen_cons]
      omega

theorem byteLen_le_of_sublist {part text : Str} (kept : part.Sublist text) :
    byteLen part ≤ byteLen text := by
  induction kept with
  | slnil => exact Nat.le_refl _
  | cons char _ inductionHypothesis =>
      rw [byteLen_cons]
      omega
  | cons_cons char _ inductionHypothesis =>
      rw [byteLen_cons, byteLen_cons]
      omega

theorem trim_sublist (text : Str) : (trim text).Sublist text :=
  (List.rdropWhile_prefix _ _).sublist.trans (List.dropWhile_sublist _)

/-- There is at most one part more than there are characters. -/
theorem length_splitOn_le (separator : Char) (text : Str) :
    (text.splitOn separator).length ≤ text.length + 1 := by
  induction text with
  | nil => simp
  | cons char later inductionHypothesis =>
      rw [List.splitOn, List.splitOnP_cons_eq_if_modifyHead]
      split
      · rw [List.length_cons, List.length_cons]
        exact Nat.succ_le_succ inductionHypothesis
      · rw [List.length_modifyHead, List.length_cons]
        exact inductionHypothesis.trans (Nat.le_succ _)

/-- Text that does not end with the character stays as it is. -/
theorem trimEndMatches_eq_self {char : Char} {text : Str}
    (ends : ∀ nonempty : text ≠ [], text.getLast nonempty ≠ char) :
    trimEndMatches char text = text := by
  rw [trimEndMatches, List.rdropWhile_eq_self_iff]
  intro nonempty
  simpa using ends nonempty

/-- Text that neither begins nor ends with white space stays as it is. -/
theorem trim_of_ends {text : Str}
    (front : ∀ char, text.head? = some char → isWhitespace char = false)
    (back : ∀ char, text.getLast? = some char → isWhitespace char = false) :
    trim text = text := by
  have kept : text.dropWhile isWhitespace = text := by
    rw [List.dropWhile_eq_self_iff]
    intro nonempty
    rw [front _
      (List.head?_eq_getElem?.trans (List.getElem?_eq_getElem nonempty))]
    exact Bool.false_ne_true
  rw [trim, kept, List.rdropWhile_eq_self_iff]
  intro nonempty
  rw [back _ (List.getLast?_eq_some_getLast nonempty)]
  exact Bool.false_ne_true

/-- Text without white space stays as it is. -/
theorem trim_eq_self {text : Str}
    (visible : ∀ char ∈ text, isWhitespace char = false) : trim text = text :=
  trim_of_ends (fun char first => visible char (List.mem_of_mem_head? first))
    fun char last => visible char (List.mem_of_getLast? last)

theorem head_trim {text : Str} {char : Char}
    (first : (trim text).head? = some char) : isWhitespace char = false := by
  have initial : trim text <+: text.dropWhile isWhitespace :=
    List.rdropWhile_prefix _ _
  obtain ⟨later, split⟩ := initial
  have front : (text.dropWhile isWhitespace).head? = some char := by
    rw [← split, List.head?_append, first, Option.some_or]
  have visible := List.head?_dropWhile_not isWhitespace text
  rw [front] at visible
  exact visible

theorem getLast_trim {text : Str} {char : Char}
    (last : (trim text).getLast? = some char) : isWhitespace char = false := by
  have nonempty : trim text ≠ [] := by
    intro empty
    rw [empty] at last
    cases last
  rw [List.getLast?_eq_some_getLast nonempty] at last
  have visible := List.rdropWhile_last_not isWhitespace _ nonempty
  cases last
  exact Bool.eq_false_iff.mpr visible

/-- Trimming a trimmed text changes nothing. -/
theorem trim_trim (text : Str) : trim (trim text) = trim text :=
  trim_of_ends (fun _ => head_trim) fun _ => getLast_trim

/-- Only white space is trimmed. -/
theorem mem_trim {text : Str} {char : Char} (member : char ∈ text)
    (visible : isWhitespace char = false) : char ∈ trim text := by
  have front := @List.takeWhile_append_dropWhile _ isWhitespace text
  have back :=
    @List.rdropWhile_append_rtakeWhile _ isWhitespace
      (text.dropWhile isWhitespace)
  rw [← front, List.mem_append, ← back, List.mem_append] at member
  rcases member with inFront | inText | inBack
  · rw [List.mem_takeWhile_imp inFront] at visible
    cases visible
  · exact inText
  · rw [List.mem_rtakeWhile_imp inBack] at visible
    cases visible

/-- The white space before a text is trimmed up to a character that is none. -/
theorem trim_append_cons {char : Char} {before after : Str}
    (visible : isWhitespace char = false)
    (back : ∀ last, (char :: after).getLast? = some last →
      isWhitespace last = false) :
    trim (before ++ char :: after) =
      before.dropWhile isWhitespace ++ char :: after := by
  have front :
      (before ++ char :: after).dropWhile isWhitespace =
        before.dropWhile isWhitespace ++ char :: after := by
    rw [List.dropWhile_append]
    split
    · next empty =>
        rw [List.isEmpty_iff.mp empty, List.dropWhile_cons, visible]
        rfl
    · rfl
  rw [trim, front, List.rdropWhile_eq_self_iff]
  intro nonempty
  have last : (before.dropWhile isWhitespace ++ char :: after).getLast? =
      (char :: after).getLast? := by
    rw [List.getLast?_append_of_ne_nil _ (List.cons_ne_nil _ _)]
  rw [List.getLast?_eq_some_getLast nonempty] at last
  rw [back _ last.symm]
  exact Bool.false_ne_true

/-- A character of a text is the separator or is in one of the parts. -/
theorem mem_splitOn_or_eq {char : Char} {text : Str} (separator : Char)
    (member : char ∈ text) :
    char = separator ∨ ∃ part ∈ text.splitOn separator, char ∈ part := by
  rw [← @List.intercalate_splitOn Char text _ _ separator] at member
  generalize text.splitOn separator = parts at member ⊢
  induction parts with
  | nil => cases member
  | cons part later inductionHypothesis =>
      cases later with
      | nil =>
          right
          refine ⟨part, List.mem_singleton.mpr rfl, ?_⟩
          simpa [List.intercalate] using member
      | cons next rest =>
          rw [List.intercalate_cons_cons] at member
          rcases List.mem_append.mp member with front | later
          · rcases List.mem_append.mp front with inPart | isSeparator
            · exact .inr ⟨part, List.mem_cons_self, inPart⟩
            · exact .inl (List.mem_singleton.mp isSeparator)
          · rcases inductionHypothesis later with
              isSeparator | ⟨found, listed, inFound⟩
            · exact .inl isSeparator
            · exact .inr ⟨found, List.mem_cons_of_mem _ listed, inFound⟩

theorem stripPrefix?_singleton {char : Char} {text rest : Str} :
    stripPrefix? [char] text = some rest ↔ text = char :: rest := by
  cases text with
  | nil => simp [stripPrefix?]
  | cons first later =>
      simp only [stripPrefix?, List.isPrefixOf, List.length_singleton,
        List.drop_succ_cons, List.drop_zero, Bool.and_true, beq_iff_eq,
        List.cons.injEq]
      constructor
      · intro stripped
        split at stripped
        · next same =>
            cases stripped
            exact ⟨same.symm, rfl⟩
        · cases stripped
      · rintro ⟨rfl, rfl⟩
        simp

@[simp]
theorem stripPrefix?_cons_self (char : Char) (rest : Str) :
    stripPrefix? [char] (char :: rest) = some rest :=
  stripPrefix?_singleton.mpr rfl

/-- Characters other than capital letters stay as they are. -/
theorem toLower_eq_self {char : Char}
    (other : ¬(65 ≤ char.toNat ∧ char.toNat ≤ 90)) : char.toLower = char :=
  dif_neg fun upper => other ⟨upper.1, upper.2⟩

theorem toLower_idempotent (char : Char) :
    char.toLower.toLower = char.toLower := by
  by_cases upper : 65 ≤ char.toNat ∧ char.toNat ≤ 90
  · obtain ⟨least, most⟩ := upper
    rw [← Char.ofNat_toNat char]
    interval_cases char.toNat <;> decide
  · rw [toLower_eq_self upper, toLower_eq_self upper]

theorem utf8Size_toLower (char : Char) :
    char.toLower.utf8Size = char.utf8Size := by
  by_cases upper : 65 ≤ char.toNat ∧ char.toNat ≤ 90
  · obtain ⟨least, most⟩ := upper
    rw [← Char.ofNat_toNat char]
    interval_cases char.toNat <;> decide
  · rw [toLower_eq_self upper]

theorem byteLen_toAsciiLowercase (text : Str) :
    byteLen (toAsciiLowercase text) = byteLen text := by
  induction text with
  | nil => rfl
  | cons char later inductionHypothesis =>
      rw [toAsciiLowercase] at inductionHypothesis ⊢
      rw [List.map_cons, byteLen_cons, byteLen_cons, utf8Size_toLower,
        inductionHypothesis]

theorem toAsciiLowercase_append (first second : Str) :
    toAsciiLowercase (first ++ second) =
      toAsciiLowercase first ++ toAsciiLowercase second :=
  List.map_append

theorem toAsciiLowercase_idempotent (text : Str) :
    toAsciiLowercase (toAsciiLowercase text) = toAsciiLowercase text := by
  rw [toAsciiLowercase, toAsciiLowercase, List.map_map]
  exact List.map_congr_left fun char _ => toLower_idempotent char

end HermesAtrust.Text
