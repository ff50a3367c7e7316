import HermesAtrust.Text.Utf8

/-!
# ASCII text

A character of ASCII is one byte of UTF-8, and a byte of ASCII occurs in the
encoding of no other character.  So text of ASCII characters can be compared
and folded byte by byte.
-/

namespace HermesAtrust.Text

open HermesAtrust.Framing

def IsAscii (text : Str) : Prop :=
  ∀ char ∈ text, char.toNat < 128

/-- `u8::to_ascii_lowercase`. -/
def lowerByte (byte : UInt8) : UInt8 :=
  if 0x41 ≤ byte ∧ byte ≤ 0x5a then byte + 0x20 else byte

/-- A byte has one of 256 values. -/
theorem forall_byte {property : UInt8 → Prop}
    (all : ∀ code : Fin 256, property (UInt8.ofNat code)) (byte : UInt8) :
    property byte := by
  have this := all ⟨byte.toNat, byte.toNat_lt⟩
  rw [UInt8.ofNat_toNat] at this
  exact this

/-! ## Single characters -/

/-- Outside ASCII a character begins with a byte that is not of ASCII. -/
theorem exists_high_byte {char : Char} (foreign : 128 ≤ char.toNat) :
    ∃ byte ∈ String.utf8EncodeChar char, 0x80 ≤ byte := by
  have large : ¬char.val.toNat ≤ 127 := Nat.not_le_of_lt foreign
  have valid : char.val.toNat < 0x110000 := by
    have range := char.valid
    simp only [UInt32.isValidChar, Nat.isValidChar] at range
    omega
  have high {code : Nat} (least : 128 ≤ code) (most : code < 256) :
      (0x80 : UInt8) ≤ UInt8.ofNat code := by
    rw [UInt8.le_iff_toNat_le, UInt8.toNat_ofNat']
    change 128 ≤ code % 256
    omega
  rw [String.utf8EncodeChar]
  simp only [large, if_false]
  by_cases two : char.val.toNat ≤ 2047
  · simp only [two, if_true]
    exact ⟨_, List.mem_cons_self, high (by omega) (by omega)⟩
  · by_cases three : char.val.toNat ≤ 65535
    · simp only [two, three, if_false, if_true]
      exact ⟨_, List.mem_cons_self, high (by omega) (by omega)⟩
    · simp only [two, three, if_false]
      exact ⟨_, List.mem_cons_self, high (by omega) (by omega)⟩

theorem toLower_ascii_iff {char : Char} :
    char.toLower.toNat < 128 ↔ char.toNat < 128 := by
  by_cases upper : 65 ≤ char.toNat ∧ char.toNat ≤ 90
  · obtain ⟨least, most⟩ := upper
    rw [← Char.ofNat_toNat char]
    interval_cases char.toNat <;> decide
  · rw [toLower_eq_self upper]

/-- Folding a character folds its byte. -/
theorem ofNat_toLower {char : Char} (ascii : char.toNat < 128) :
    UInt8.ofNat char.toLower.toNat = lowerByte (UInt8.ofNat char.toNat) := by
  rw [← Char.ofNat_toNat char]
  interval_cases char.toNat <;> decide

/-- Only the dot itself folds to a byte that is no letter. -/
theorem lowerByte_eq_dot_iff :
    ∀ byte : UInt8, lowerByte byte = 0x2e ↔ byte = 0x2e :=
  forall_byte (by decide +kernel)

/-! ## Text -/

theorem isAscii_cons {char : Char} {text : Str} :
    IsAscii (char :: text) ↔ char.toNat < 128 ∧ IsAscii text :=
  List.forall_mem_cons

theorem isAscii_append {first second : Str} :
    IsAscii (first ++ second) ↔ IsAscii first ∧ IsAscii second :=
  List.forall_mem_append

theorem isAscii_toAsciiLowercase {text : Str} :
    IsAscii (toAsciiLowercase text) ↔ IsAscii text := by
  rw [IsAscii, toAsciiLowercase, List.forall_mem_map]
  exact forall₂_congr fun char _ => toLower_ascii_iff

/-- Text is ASCII if its bytes are. -/
theorem isAscii_of_utf8 {text : Str}
    (low : ∀ byte ∈ utf8 text, byte < 0x80) : IsAscii text := by
  intro char member
  by_contra foreign
  obtain ⟨byte, encoded, high⟩ := exists_high_byte (Nat.le_of_not_lt foreign)
  have inText : byte ∈ utf8 text := List.mem_flatMap.mpr ⟨char, member, encoded⟩
  exact absurd high (UInt8.not_le.mpr (low byte inText))

theorem utf8_ascii {text : Str} (ascii : IsAscii text) :
    utf8 text = text.map fun char => UInt8.ofNat char.toNat := by
  induction text with
  | nil => rfl
  | cons char later inductionHypothesis =>
      have parts := isAscii_cons.mp ascii
      rw [utf8_cons, utf8EncodeChar_one parts.1,
        inductionHypothesis parts.2]
      rfl

theorem utf8_toAsciiLowercase {text : Str} (ascii : IsAscii text) :
    utf8 (toAsciiLowercase text) = (utf8 text).map lowerByte := by
  rw [utf8_ascii ascii, utf8_ascii (isAscii_toAsciiLowercase.mpr ascii),
    toAsciiLowercase, List.map_map, List.map_map]
  exact List.map_congr_left fun char member => ofNat_toLower (ascii char member)

end HermesAtrust.Text
