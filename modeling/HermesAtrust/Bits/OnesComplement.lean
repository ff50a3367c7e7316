import HermesAtrust.Framing.ByteOrder

/-!
# Ones' complement sums

Sums of sixteen-bit words with the carry added back in.  Bytes are paired in
network order and an odd byte at the end is padded with zero.  Adding a carry
back keeps a sum modulo 65535, and only the empty sum becomes zero.
-/

namespace HermesAtrust.Bits

open HermesAtrust.Framing

/-- The sum of the words of a byte string. -/
def wordSum : Bytes → Nat
  | [] => 0
  | [last] => beU16 last 0
  | high :: low :: rest => beU16 high low + wordSum rest

/-- Add the carries back in until the sum fits into sixteen bits. -/
def foldCarries (sum : Nat) : Nat :=
  if 65535 < sum then
    foldCarries (sum % 65536 + sum / 65536)
  else
    sum
termination_by sum
decreasing_by omega

theorem wordSum_nil : wordSum [] = 0 := by
  rw [wordSum]

theorem foldCarries_of_le {sum : Nat} (fits : sum ≤ 65535) :
    foldCarries sum = sum := by
  rw [foldCarries, if_neg (Nat.not_lt_of_le fits)]

/-- One carry that is added back. -/
theorem foldCarries_of_lt {sum : Nat} (carry : 65535 < sum) :
    foldCarries sum = foldCarries (sum % 65536 + sum / 65536) := by
  rw [foldCarries, if_pos carry]

theorem foldCarries_le (sum : Nat) : foldCarries sum ≤ 65535 := by
  induction sum using Nat.strongRecOn with
  | ind sum inductionHypothesis =>
      by_cases carry : 65535 < sum
      · rw [foldCarries_of_lt carry]
        exact inductionHypothesis _ (by omega)
      · rw [foldCarries_of_le (Nat.le_of_not_lt carry)]
        exact Nat.le_of_not_lt carry

theorem foldCarries_mod (sum : Nat) : foldCarries sum % 65535 = sum % 65535 := by
  induction sum using Nat.strongRecOn with
  | ind sum inductionHypothesis =>
      by_cases carry : 65535 < sum
      · rw [foldCarries_of_lt carry, inductionHypothesis _ (by omega)]
        omega
      · rw [foldCarries_of_le (Nat.le_of_not_lt carry)]

theorem foldCarries_pos {sum : Nat} (positive : 0 < sum) :
    0 < foldCarries sum := by
  induction sum using Nat.strongRecOn with
  | ind sum inductionHypothesis =>
      by_cases carry : 65535 < sum
      · rw [foldCarries_of_lt carry]
        exact inductionHypothesis _ (by omega) (by omega)
      · rw [foldCarries_of_le (Nat.le_of_not_lt carry)]
        exact positive

/-- A sum that is folded to all ones is a positive multiple of them. -/
theorem foldCarries_eq_iff {sum : Nat} :
    foldCarries sum = 65535 ↔ 0 < sum ∧ sum % 65535 = 0 := by
  have bound := foldCarries_le sum
  have remainder := foldCarries_mod sum
  constructor
  · intro ones
    rw [ones] at remainder
    refine ⟨?_, by omega⟩
    apply Nat.pos_of_ne_zero
    rintro rfl
    rw [foldCarries_of_le (Nat.zero_le _)] at ones
    cases ones
  · rintro ⟨positive, multiple⟩
    have nonzero := foldCarries_pos positive
    omega

/-- Byte strings of even length are summed one after the other. -/
theorem wordSum_append {front : Bytes} (even : front.length % 2 = 0)
    (back : Bytes) : wordSum (front ++ back) = wordSum front + wordSum back := by
  induction front using wordSum.induct with
  | case1 => rw [List.nil_append, wordSum_nil, Nat.zero_add]
  | case2 last => cases even
  | case3 high low rest inductionHypothesis =>
      have shorter : rest.length % 2 = 0 := by
        rw [List.length_cons, List.length_cons] at even
        omega
      rw [List.cons_append, List.cons_append, wordSum, wordSum,
        inductionHypothesis shorter, Nat.add_assoc]

theorem wordSum_le (bytes : Bytes) :
    wordSum bytes ≤ 65535 * ((bytes.length + 1) / 2) := by
  induction bytes using wordSum.induct with
  | case1 => exact Nat.zero_le _
  | case2 last =>
      have bound := beU16_le last 0
      rw [wordSum, List.length_singleton]
      omega
  | case3 high low rest inductionHypothesis =>
      have bound := beU16_le high low
      rw [wordSum, List.length_cons, List.length_cons]
      omega

/-- What a byte at this position counts in a sum. -/
def byteWeight (position : Nat) : Nat :=
  if position % 2 = 0 then 256 else 1

theorem byteWeight_zero : byteWeight 0 = 256 :=
  rfl

theorem byteWeight_one : byteWeight 1 = 1 :=
  rfl

/-- Changing one byte changes the sum by what it counts there. -/
theorem wordSum_set (bytes : Bytes) {position : Nat}
    (inside : position < bytes.length) (byte : UInt8) :
    wordSum (bytes.set position byte) +
        (byteAt bytes position).toNat * byteWeight position =
      wordSum bytes + byte.toNat * byteWeight position := by
  induction bytes using wordSum.induct generalizing position with
  | case1 => cases inside
  | case2 last =>
      have only : position = 0 := by
        rw [List.length_singleton] at inside
        omega
      rw [only]
      rw [byteWeight_zero]
      simp only [List.set_cons_zero, byteAt_cons_zero, wordSum, beU16]
      omega
  | case3 high low rest inductionHypothesis =>
      match position with
      | 0 =>
          rw [byteWeight_zero]
          simp only [List.set_cons_zero, byteAt_cons_zero, wordSum, beU16]
          omega
      | 1 =>
          have second : byteAt (high :: low :: rest) 1 = low := rfl
          rw [byteWeight_one, second]
          simp only [List.set_cons_succ, List.set_cons_zero, wordSum, beU16]
          omega
      | position + 2 =>
          have later : position < rest.length := by
            rw [List.length_cons, List.length_cons] at inside
            omega
          have changed := inductionHypothesis later
          have weight : byteWeight (position + 2) = byteWeight position := by
            rw [byteWeight, byteWeight, Nat.add_mod_right]
          rw [weight, List.set_cons_succ, List.set_cons_succ,
            byteAt_cons_succ, byteAt_cons_succ, wordSum, wordSum]
          omega

/-- A single changed byte is seen modulo 65535. -/
theorem wordSum_set_mod_ne (bytes : Bytes) {position : Nat}
    (inside : position < bytes.length) {byte : UInt8}
    (other : byte ≠ byteAt bytes position) :
    wordSum (bytes.set position byte) % 65535 ≠ wordSum bytes % 65535 := by
  have changed := wordSum_set bytes inside byte
  have unequal : byte.toNat ≠ (byteAt bytes position).toNat := by
    intro same
    exact other (UInt8.toNat_inj.mp same)
  have bound := byte.toNat_lt
  have bound' := (byteAt bytes position).toNat_lt
  unfold byteWeight at changed
  split at changed
  · omega
  · omega

end HermesAtrust.Bits
