import HermesAtrust.Text.Str

/-!
# Hexadecimal text

Each byte is written as two lowercase digits.  Both cases are read.
-/

namespace HermesAtrust.Text

open HermesAtrust.Framing

/-- `char::to_digit(16)`. -/
def hexValue (char : Char) : Option Nat :=
  let code := char.toNat
  if 0x30 ≤ code ∧ code ≤ 0x39 then some (code - 0x30)
  else if 0x41 ≤ code ∧ code ≤ 0x46 then some (code - 0x41 + 10)
  else if 0x61 ≤ code ∧ code ≤ 0x66 then some (code - 0x61 + 10)
  else none

def encodeHex (bytes : Bytes) : Str :=
  bytes.flatMap fun byte =>
    [Nat.digitChar (byte.toNat / 16), Nat.digitChar (byte.toNat % 16)]

def decodeHex : Str → Option Bytes
  | [] => some []
  | [_] => none
  | high :: low :: later =>
      match hexValue high, hexValue low, decodeHex later with
      | some first, some second, some bytes =>
          some (UInt8.ofNat (16 * first + second) :: bytes)
      | _, _, _ => none

theorem hexValue_digitChar {value : Nat} (small : value < 16) :
    hexValue (Nat.digitChar value) = some value := by
  interval_cases value <;> rfl

theorem decodeHex_encodeHex (bytes : Bytes) :
    decodeHex (encodeHex bytes) = some bytes := by
  induction bytes with
  | nil => rfl
  | cons byte later inductionHypothesis =>
      have bound := byte.toNat_lt
      have high : hexValue (Nat.digitChar (byte.toNat / 16)) =
          some (byte.toNat / 16) := hexValue_digitChar (by omega)
      have low : hexValue (Nat.digitChar (byte.toNat % 16)) =
          some (byte.toNat % 16) := hexValue_digitChar (by omega)
      have written : encodeHex (byte :: later) =
          Nat.digitChar (byte.toNat / 16) ::
            Nat.digitChar (byte.toNat % 16) :: encodeHex later := rfl
      rw [written, decodeHex, high, low, inductionHypothesis]
      simp [Nat.div_add_mod]

end HermesAtrust.Text
