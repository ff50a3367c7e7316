import HermesAtrust.Text.Lines

/-!
# Decimal numbers in text

A number is written with its decimal digits.  The digits determine the number,
and a character that is no digit ends them.  Unsigned integers are read from
digits that may stand behind a `+`.
-/

namespace HermesAtrust.Text

def decimalText (number : Nat) : Str :=
  Nat.toDigits 10 number

def isDigit (char : Char) : Bool :=
  decide ('0' ≤ char) && decide (char ≤ '9')

/-- The number that decimal digits denote. -/
def decimal (digits : Str) : Nat :=
  digits.foldl (fun number digit => 10 * number + (digit.toNat - 48)) 0

/-- `str::parse` for an unsigned integer of so many bits: digits behind a `+`
at most. -/
def parseUnsigned (bits : Nat) (text : Str) : Option Nat :=
  let digits := (stripPrefix? ['+'] text).getD text
  if digits ≠ [] ∧ digits.all isDigit = true ∧ decimal digits < 2 ^ bits then
    some (decimal digits)
  else
    none

/-- `str::parse::<u8>`. -/
def parseU8 (text : Str) : Option UInt8 :=
  (parseUnsigned 8 text).map UInt8.ofNat

/-- `str::parse::<u16>`. -/
def parseU16 (text : Str) : Option UInt16 :=
  (parseUnsigned 16 text).map UInt16.ofNat

/-- `str::parse::<u64>`. -/
def parseU64 (text : Str) : Option Nat :=
  parseUnsigned 64 text

/-- The text goes on with something else than a digit. -/
def EndsDigits (rest : Str) : Prop :=
  ∀ char ∈ rest.head?, char.isDigit = false

theorem toList_toString (number : Nat) :
    (toString number).toList = decimalText number := by
  rw [Nat.toString_eq_repr, Nat.toList_repr, decimalText]

theorem decimalText_ne_nil (number : Nat) : decimalText number ≠ [] :=
  Nat.toDigits_ne_nil

theorem isDigit_of_mem_decimalText {number : Nat} {char : Char}
    (member : char ∈ decimalText number) : char.isDigit = true :=
  Nat.isDigit_of_mem_toDigits (by decide) (by decide) member

theorem decimalText_append_ne {char : Char} (plain : char.isDigit = false)
    (number : Nat) (rest rest' : Str) :
    decimalText number ++ rest ≠ char :: rest' := by
  intro same
  cases digits : decimalText number with
  | nil => exact decimalText_ne_nil number digits
  | cons first later =>
      rw [digits, List.cons_append, List.cons.injEq] at same
      have digit : first.isDigit = true :=
        isDigit_of_mem_decimalText (by rw [digits]; exact List.mem_cons_self)
      rw [same.1, plain] at digit
      cases digit

theorem decimalText_injective : Function.Injective decimalText := by
  intro first second same
  have read := @Nat.ofDigitChars_ten_toDigits first
  change Nat.ofDigitChars 10 (decimalText first) 0 = first at read
  rw [same, decimalText, Nat.ofDigitChars_ten_toDigits] at read
  exact read.symm

/-- What is no digit is in no number. -/
theorem notMem_decimalText {separator : Char}
    (plain : separator.isDigit = false) (number : Nat) :
    separator ∉ decimalText number := by
  intro member
  rw [isDigit_of_mem_decimalText member] at plain
  cases plain

theorem endsDigits_cons {char : Char} (plain : char.isDigit = false)
    (rest : Str) : EndsDigits (char :: rest) := by
  intro other isHead
  cases isHead
  exact plain

theorem takeWhile_decimalText (number : Nat) {rest : Str}
    (ends : EndsDigits rest) :
    (decimalText number ++ rest).takeWhile Char.isDigit =
      decimalText number := by
  have digits : ∀ char ∈ decimalText number, char.isDigit = true :=
    fun char member => isDigit_of_mem_decimalText member
  rw [List.takeWhile_append_of_pos digits]
  cases rest with
  | nil => rw [List.takeWhile_nil, List.append_nil]
  | cons char later =>
      have plain := ends char rfl
      rw [List.takeWhile_cons, plain]
      exact List.append_nil _

/-- A number is read back in front of any text that ends it. -/
theorem decimalText_append_inj {first second : Nat} {rest rest' : Str}
    (ends : EndsDigits rest) (ends' : EndsDigits rest')
    (same : decimalText first ++ rest = decimalText second ++ rest') :
    first = second ∧ rest = rest' := by
  have digits : decimalText first = decimalText second := by
    rw [← takeWhile_decimalText first ends, same,
      takeWhile_decimalText second ends']
  rw [digits] at same
  exact ⟨decimalText_injective digits, List.append_cancel_left same⟩

/-! ## Fields and separators -/

/-- A field is cut off at the first separator. -/
theorem field_append_inj {separator : Char} {field field' rest rest' : Str}
    (absent : separator ∉ field) (absent' : separator ∉ field')
    (same : field ++ separator :: rest = field' ++ separator :: rest') :
    field = field' ∧ rest = rest' := by
  have split := splitOnce_append absent rest
  rw [same, splitOnce_append absent' rest', Option.some_inj,
    Prod.mk.injEq] at split
  exact ⟨split.1.symm, split.2.symm⟩

/-- A field is cut off at the last separator. -/
theorem append_field_inj {separator : Char} {field field' rest rest' : Str}
    (absent : separator ∉ field) (absent' : separator ∉ field')
    (same : rest ++ separator :: field = rest' ++ separator :: field') :
    rest = rest' ∧ field = field' := by
  have split := rsplitOnce_eq_some_iff.mpr ⟨absent, same.symm⟩
  rw [rsplitOnce_eq_some_iff.mpr ⟨absent', rfl⟩, Option.some_inj,
    Prod.mk.injEq] at split
  exact ⟨split.1.symm, split.2.symm⟩

/-- What is read as a number has digits, and a sign at most. -/
theorem digit_or_sign_of_parseUnsigned {bits number : Nat} {text : Str}
    (parsed : parseUnsigned bits text = some number) {char : Char}
    (member : char ∈ text) : isDigit char = true ∨ char = '+' := by
  unfold parseUnsigned at parsed
  simp only at parsed
  split at parsed
  · next shape =>
      cases stripped : stripPrefix? ['+'] text with
      | none =>
          rw [stripped] at shape
          exact .inl (List.all_eq_true.mp shape.2.1 char member)
      | some digits =>
          rw [stripped] at shape
          rw [stripPrefix?_singleton.mp stripped] at member
          rcases List.mem_cons.mp member with sign | later
          · exact .inr sign
          · exact .inl (List.all_eq_true.mp shape.2.1 char later)
  · cases parsed

/-- A number that fits is read back. -/
theorem parseUnsigned_decimalText {bits number : Nat}
    (fits : number < 2 ^ bits) :
    parseUnsigned bits (decimalText number) = some number := by
  have digits : ∀ char ∈ decimalText number, isDigit char = true := by
    intro char member
    have digit := isDigit_of_mem_decimalText member
    rw [Char.isDigit, Bool.and_eq_true, decide_eq_true_iff,
      decide_eq_true_iff] at digit
    rw [isDigit, Bool.and_eq_true, decide_eq_true_iff, decide_eq_true_iff]
    exact digit
  have unsigned : stripPrefix? ['+'] (decimalText number) = none := by
    by_contra signed
    obtain ⟨rest, stripped⟩ := Option.ne_none_iff_exists'.mp signed
    have sign := digits '+' (by rw [stripPrefix?_singleton.mp stripped]; simp)
    cases sign
  have value : decimal (decimalText number) = number := by
    have read := @Nat.ofDigitChars_ten_toDigits number
    rw [Nat.ofDigitChars_eq_foldl] at read
    exact read
  have shape :
      decimalText number ≠ [] ∧ (decimalText number).all isDigit = true ∧
        decimal (decimalText number) < 2 ^ bits := by
    rw [value]
    exact ⟨decimalText_ne_nil number, List.all_eq_true.mpr digits, fits⟩
  rw [parseUnsigned, unsigned, Option.getD_none, if_pos shape, value]

end HermesAtrust.Text
