import Mathlib.Data.List.Basic
import Mathlib.Data.List.GetD
import Mathlib.Tactic.Ring

/-!
# Byte strings and big-endian sixteen-bit fields

Length fields of the framed protocols are unsigned sixteen-bit integers in
network order.  A byte string is a list of octets, and a read past its end is
only ever made behind a length check, so the reader below totalizes it with a
zero octet.
-/

namespace HermesAtrust.Framing

/-- A byte string. -/
abbrev Bytes := List UInt8

/-- The octet at an index that a preceding length check has validated. -/
def byteAt (bytes : Bytes) (index : Nat) : UInt8 :=
  bytes.getD index 0

/-- Value of a big-endian pair of octets. -/
def beU16 (high low : UInt8) : Nat :=
  high.toNat * 256 + low.toNat

/-- Big-endian pair of octets of a value below `65536`. -/
def toBeU16 (value : Nat) : Bytes :=
  [UInt8.ofNat (value / 256), UInt8.ofNat value]

@[simp]
theorem length_toBeU16 (value : Nat) : (toBeU16 value).length = 2 :=
  rfl

/-- Reading back the pair written for a value that fits gives the value. -/
theorem beU16_toBeU16 {value : Nat} (fits : value < 65536) :
    beU16 (UInt8.ofNat (value / 256)) (UInt8.ofNat value) = value := by
  unfold beU16
  rw [UInt8.toNat_ofNat', UInt8.toNat_ofNat']
  omega

theorem beU16_le (high low : UInt8) : beU16 high low ≤ 65535 := by
  unfold beU16
  have highBound := high.toNat_lt
  have lowBound := low.toNat_lt
  omega

theorem toBeU16_beU16 (high low : UInt8) :
    toBeU16 (beU16 high low) = [high, low] := by
  unfold toBeU16 beU16
  have lowBound : low.toNat < 256 := low.toNat_lt
  have quotient : (high.toNat * 256 + low.toNat) / 256 = high.toNat := by
    omega
  rw [quotient, UInt8.ofNat_toNat]
  congr 2
  apply UInt8.toNat_inj.mp
  rw [UInt8.toNat_ofNat']
  omega

theorem byteAt_append_left {bytes rest : Bytes} {index : Nat}
    (inside : index < bytes.length) :
    byteAt (bytes ++ rest) index = byteAt bytes index :=
  List.getD_append bytes rest 0 index inside

theorem byteAt_append_right (bytes rest : Bytes) (offset : Nat) :
    byteAt (bytes ++ rest) (bytes.length + offset) = byteAt rest offset := by
  unfold byteAt
  rw [List.getD_append_right bytes rest 0 _ (Nat.le_add_right _ _),
    Nat.add_sub_cancel_left]

@[simp]
theorem byteAt_cons_zero (head : UInt8) (tail : Bytes) :
    byteAt (head :: tail) 0 = head :=
  rfl

@[simp]
theorem byteAt_cons_succ (head : UInt8) (tail : Bytes) (index : Nat) :
    byteAt (head :: tail) (index + 1) = byteAt tail index :=
  rfl

end HermesAtrust.Framing
