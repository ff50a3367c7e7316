import Mathlib.Data.Nat.Bitwise

/-!
# Words with a common prefix

The words that agree with a given word on all bits but the `free` lowest ones
form an interval; its ends are obtained with a mask.
-/

namespace HermesAtrust.Bits

/-- The mask of all bits but the lowest ones. -/
def highMask (width free : Nat) : BitVec width :=
  BitVec.allOnes width <<< free

variable {width free : Nat}

theorem getLsbD_highMask {bit : Nat} :
    (highMask width free).getLsbD bit =
      (decide (bit < width) && decide (free ≤ bit)) := by
  by_cases inWord : bit < width
  · by_cases low : bit < free
    · simp [highMask, inWord, low]
    · simp [highMask, inWord, low, Nat.le_of_not_lt low]
  · simp [highMask, inWord]

/-- Numbers agree from a bit on if they agree after division. -/
theorem div_two_pow_eq_iff {left right : Nat} :
    left / 2 ^ free = right / 2 ^ free ↔
      ∀ bit, free ≤ bit → left.testBit bit = right.testBit bit := by
  constructor
  · intro same bit above
    have shifted := congrArg (fun value => value.testBit (bit - free)) same
    simpa [Nat.testBit_div_two_pow, Nat.sub_add_cancel above] using shifted
  · intro agree
    apply Nat.eq_of_testBit_eq
    intro bit
    rw [Nat.testBit_div_two_pow, Nat.testBit_div_two_pow]
    exact agree _ (Nat.le_add_left free bit)

/-- The least word with the same prefix. -/
theorem toNat_and_highMask (word : BitVec width) :
    (word &&& highMask width free).toNat =
      word.toNat / 2 ^ free * 2 ^ free := by
  apply Nat.eq_of_testBit_eq
  intro bit
  rw [BitVec.testBit_toNat, BitVec.getLsbD_and, getLsbD_highMask,
    Nat.testBit_mul_two_pow]
  by_cases above : free ≤ bit
  · rw [Nat.testBit_div_two_pow, Nat.sub_add_cancel above,
      BitVec.testBit_toNat]
    by_cases inWord : bit < width
    · simp [above, inWord]
    · simp [inWord, BitVec.getLsbD_of_ge word bit (Nat.le_of_not_lt inWord)]
  · simp [above]

/-- The greatest word with the same prefix. -/
theorem toNat_or_not_highMask (within : free ≤ width) (word : BitVec width) :
    (word &&& highMask width free ||| ~~~highMask width free).toNat =
      word.toNat / 2 ^ free * 2 ^ free + (2 ^ free - 1) := by
  have positive := Nat.two_pow_pos free
  have low : 2 ^ free - 1 < 2 ^ free := Nat.sub_lt positive Nat.one_pos
  apply Nat.eq_of_testBit_eq
  intro bit
  rw [BitVec.testBit_toNat, BitVec.getLsbD_or, BitVec.getLsbD_and,
    BitVec.getLsbD_not, getLsbD_highMask, Nat.mul_comm,
    Nat.testBit_two_pow_mul_add _ low, Nat.testBit_two_pow_sub_one]
  by_cases above : free ≤ bit
  · rw [if_neg (Nat.not_lt_of_le above), Nat.testBit_div_two_pow,
      Nat.sub_add_cancel above, BitVec.testBit_toNat]
    by_cases inWord : bit < width
    · simp [above, inWord]
    · simp [inWord, BitVec.getLsbD_of_ge word bit (Nat.le_of_not_lt inWord)]
  · have inWord : bit < width := by omega
    simp [above, inWord, Nat.lt_of_not_le above]

/-- The words between the two agree with the given one on the prefix, and they
are all that do. -/
theorem between_iff (within : free ≤ width) (word other : BitVec width) :
    ((word &&& highMask width free).toNat ≤ other.toNat ∧
        other.toNat ≤
          (word &&& highMask width free ||| ~~~highMask width free).toNat) ↔
      ∀ bit, free ≤ bit → other.getLsbD bit = word.getLsbD bit := by
  have positive := Nat.two_pow_pos free
  have split := Nat.div_add_mod other.toNat (2 ^ free)
  have small := Nat.mod_lt other.toNat positive
  have agree := @div_two_pow_eq_iff free other.toNat word.toNat
  simp only [BitVec.testBit_toNat] at agree
  rw [toNat_and_highMask, toNat_or_not_highMask within, ← agree]
  constructor
  · rintro ⟨least, most⟩
    apply Nat.div_eq_of_lt_le least
    rw [Nat.succ_mul]
    omega
  · intro same
    rw [← same, Nat.mul_comm]
    omega

end HermesAtrust.Bits
