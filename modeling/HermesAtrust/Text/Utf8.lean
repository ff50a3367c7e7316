import HermesAtrust.Text.Lines

/-!
# UTF-8 is read back

Decoding inverts encoding, and only the encoding of a text is decoded to it.
Both are shown for one character in front of further bytes; a character takes
one to four bytes, and the first byte tells how many.
-/

namespace HermesAtrust.Text

open HermesAtrust.Framing

/-! ## The bytes of a character -/

section Encoding

variable {char : Char}

theorem utf8EncodeChar_one (most : char.toNat < 0x80) :
    String.utf8EncodeChar char = [UInt8.ofNat char.toNat] := by
  have small : char.val.toNat ≤ 0x7f := Nat.le_of_lt_succ most
  rw [String.utf8EncodeChar]
  exact if_pos small

theorem utf8EncodeChar_two (least : 0x80 ≤ char.toNat)
    (most : char.toNat < 0x800) :
    String.utf8EncodeChar char =
      [UInt8.ofNat (char.toNat / 64 % 0x20 + 0xc0),
        UInt8.ofNat (char.toNat % 0x40 + 0x80)] := by
  have large : ¬char.val.toNat ≤ 0x7f := Nat.not_le_of_lt least
  have small : char.val.toNat ≤ 0x7ff := Nat.le_of_lt_succ most
  rw [String.utf8EncodeChar]
  exact (if_neg large).trans (if_pos small)

theorem utf8EncodeChar_three (least : 0x800 ≤ char.toNat)
    (most : char.toNat < 0x10000) :
    String.utf8EncodeChar char =
      [UInt8.ofNat (char.toNat / 4096 % 0x10 + 0xe0),
        UInt8.ofNat (char.toNat / 64 % 0x40 + 0x80),
        UInt8.ofNat (char.toNat % 0x40 + 0x80)] := by
  have large : ¬char.val.toNat ≤ 0x7ff := Nat.not_le_of_lt least
  have larger : ¬char.val.toNat ≤ 0x7f := fun less =>
    large (less.trans (by decide))
  have small : char.val.toNat ≤ 0xffff := Nat.le_of_lt_succ most
  rw [String.utf8EncodeChar]
  exact (if_neg larger).trans ((if_neg large).trans (if_pos small))

theorem utf8EncodeChar_four (least : 0x10000 ≤ char.toNat) :
    String.utf8EncodeChar char =
      [UInt8.ofNat (char.toNat / 262144 % 0x08 + 0xf0),
        UInt8.ofNat (char.toNat / 4096 % 0x40 + 0x80),
        UInt8.ofNat (char.toNat / 64 % 0x40 + 0x80),
        UInt8.ofNat (char.toNat % 0x40 + 0x80)] := by
  have large : ¬char.val.toNat ≤ 0xffff := Nat.not_le_of_lt least
  have larger : ¬char.val.toNat ≤ 0x7ff := fun less =>
    large (less.trans (by decide))
  have largest : ¬char.val.toNat ≤ 0x7f := fun less =>
    large (less.trans (by decide))
  rw [String.utf8EncodeChar]
  exact (if_neg largest).trans ((if_neg larger).trans (if_neg large))

theorem toNat_lt_codeLimit (char : Char) : char.toNat < 0x110000 := by
  have range := char.valid
  simp only [UInt32.isValidChar, Nat.isValidChar] at range
  change char.val.toNat < 0x110000
  omega

end Encoding

/-! ## Single bytes and code points -/

theorem toNat_ofNat_byte {code : Nat} (small : code < 256) :
    (UInt8.ofNat code).toNat = code := by
  rw [UInt8.toNat_ofNat']
  exact Nat.mod_eq_of_lt small

/-- A byte within literal bounds. -/
theorem ofNat_range {low high code : Nat} (least : low ≤ code)
    (most : code ≤ high) (byte : high < 256) :
    UInt8.ofNat low ≤ UInt8.ofNat code ∧
      UInt8.ofNat code ≤ UInt8.ofNat high := by
  have small : code < 256 := Nat.lt_of_le_of_lt most byte
  rw [UInt8.le_iff_toNat_le, UInt8.le_iff_toNat_le, toNat_ofNat_byte small,
    toNat_ofNat_byte byte, toNat_ofNat_byte (Nat.lt_of_le_of_lt least small)]
  exact ⟨least, most⟩

theorem continuation_ofNat {payload : Nat} (small : payload < 0x40) :
    continuation (UInt8.ofNat (payload + 0x80)) = some payload := by
  have most : payload + 0x80 ≤ 0xbf := by omega
  have range := ofNat_range (Nat.le_add_left 0x80 payload) most (by decide)
  have code := toNat_ofNat_byte (Nat.lt_of_le_of_lt most (by decide))
  exact (if_pos range).trans (by rw [code, Nat.add_sub_cancel])

theorem continuation_eq_some {byte : UInt8} {payload : Nat}
    (read : continuation byte = some payload) :
    payload < 0x40 ∧ byte = UInt8.ofNat (payload + 0x80) := by
  rw [continuation] at read
  split at read
  · next range =>
      have same := Option.some.inj read
      have least : 0x80 ≤ byte.toNat := UInt8.le_iff_toNat_le.mp range.1
      have most : byte.toNat ≤ 0xbf := UInt8.le_iff_toNat_le.mp range.2
      have code : payload + 0x80 = byte.toNat := by omega
      rw [code, UInt8.ofNat_toNat]
      exact ⟨by omega, rfl⟩
  · cases read

theorem codePoint_eq_some_iff {least code : Nat} {char : Char} :
    codePoint least code = some char ↔ least ≤ code ∧ char.toNat = code := by
  rw [codePoint]
  constructor
  · intro decoded
    split at decoded
    · next accepted =>
        cases decoded
        refine ⟨accepted.1, ?_⟩
        rw [Char.ofNat, dif_pos accepted.2]
        rfl
    · cases decoded
  · rintro ⟨enough, rfl⟩
    rw [if_pos ⟨enough, char.valid⟩, Char.ofNat_toNat]

/-! ## Reading a character back -/

section Decoding

variable {first second third fourth : UInt8} {rest : Bytes}
  {payload payload' payload'' : Nat}

private theorem not_within {low high : UInt8} (less : high < low)
    (least : low ≤ first) : ¬first ≤ high := by
  rw [UInt8.lt_iff_toNat_lt] at less
  rw [UInt8.le_iff_toNat_le] at least ⊢
  omega

private theorem not_ascii {low : UInt8} (foreign : 0x80 ≤ low)
    (least : low ≤ first) : ¬first < 0x80 := by
  rw [UInt8.le_iff_toNat_le] at foreign least
  rw [UInt8.lt_iff_toNat_lt]
  omega

theorem fromUtf8_one (low : first < 0x80) :
    fromUtf8 (first :: rest) =
      (fromUtf8 rest).map (Char.ofNat first.toNat :: ·) := by
  rw [fromUtf8.eq_def]
  exact if_pos low

theorem fromUtf8_two (range : 0xc0 ≤ first ∧ first ≤ 0xdf)
    (follows : continuation second = some payload) :
    fromUtf8 (first :: second :: rest) =
      (do
        let char ← codePoint 0x80 ((first.toNat - 0xc0) * 2 ^ 6 + payload)
        return char :: (← fromUtf8 rest)) := by
  have high := not_ascii (by decide) range.1
  rw [fromUtf8.eq_def]
  simp only [high, if_false, follows, range, true_and, if_true]

theorem fromUtf8_three (range : 0xe0 ≤ first ∧ first ≤ 0xef)
    (follows : continuation second = some payload)
    (follows' : continuation third = some payload') :
    fromUtf8 (first :: second :: third :: rest) =
      (do
        let char ←
          codePoint 0x800
            ((first.toNat - 0xe0) * 2 ^ 12 + payload * 2 ^ 6 + payload')
        return char :: (← fromUtf8 rest)) := by
  have high := not_ascii (by decide) range.1
  have notTwo : ¬first ≤ 0xdf := not_within (by decide) range.1
  rw [fromUtf8.eq_def]
  simp only [high, if_false, follows, follows', notTwo, and_false, range,
    true_and, if_true]

theorem fromUtf8_four (range : 0xf0 ≤ first ∧ first ≤ 0xf7)
    (follows : continuation second = some payload)
    (follows' : continuation third = some payload')
    (follows'' : continuation fourth = some payload'') :
    fromUtf8 (first :: second :: third :: fourth :: rest) =
      (do
        let char ←
          codePoint 0x10000
            ((first.toNat - 0xf0) * 2 ^ 18 + payload * 2 ^ 12 +
              payload' * 2 ^ 6 + payload'')
        return char :: (← fromUtf8 rest)) := by
  have high := not_ascii (by decide) range.1
  have notTwo : ¬first ≤ 0xdf := not_within (by decide) range.1
  have notThree : ¬first ≤ 0xef := not_within (by decide) range.1
  rw [fromUtf8.eq_def]
  simp only [high, if_false, follows, follows', follows'', notTwo, notThree,
    and_false, range, true_and, if_true]

/-- Decoding starts over behind a character. -/
theorem fromUtf8_append_char (char : Char) (rest : Bytes) :
    fromUtf8 (String.utf8EncodeChar char ++ rest) =
      (fromUtf8 rest).map (char :: ·) := by
  have limit := toNat_lt_codeLimit char
  have last :=
    continuation_ofNat (Nat.mod_lt char.toNat (show 0 < 0x40 by decide))
  have middle :=
    continuation_ofNat (Nat.mod_lt (char.toNat / 64) (show 0 < 0x40 by decide))
  have taken {least code : Nat} (enough : least ≤ char.toNat)
      (same : char.toNat = code) :
      (do
        let char ← codePoint least code
        return char :: (← fromUtf8 rest)) =
        (fromUtf8 rest).map (char :: ·) := by
    rw [codePoint_eq_some_iff.mpr ⟨same ▸ enough, same⟩]
    cases fromUtf8 rest <;> rfl
  by_cases one : char.toNat < 0x80
  · have code := toNat_ofNat_byte (one.trans (by decide))
    have low : UInt8.ofNat char.toNat < 0x80 := by
      rw [UInt8.lt_iff_toNat_lt, code]
      exact one
    rw [utf8EncodeChar_one one, List.singleton_append, fromUtf8_one low, code,
      Char.ofNat_toNat]
  by_cases two : char.toNat < 0x800
  · have most : char.toNat / 64 % 0x20 + 0xc0 ≤ 0xdf := by omega
    have first := toNat_ofNat_byte (Nat.lt_of_le_of_lt most (by decide))
    rw [utf8EncodeChar_two (Nat.le_of_not_lt one) two, List.cons_append,
      List.singleton_append,
      fromUtf8_two (ofNat_range (Nat.le_add_left _ _) most (by decide)) last,
      first]
    exact taken (Nat.le_of_not_lt one) (by omega)
  by_cases three : char.toNat < 0x10000
  · have most : char.toNat / 4096 % 0x10 + 0xe0 ≤ 0xef := by omega
    have first := toNat_ofNat_byte (Nat.lt_of_le_of_lt most (by decide))
    rw [utf8EncodeChar_three (Nat.le_of_not_lt two) three, List.cons_append,
      List.cons_append, List.singleton_append,
      fromUtf8_three (ofNat_range (Nat.le_add_left _ _) most (by decide))
        middle last, first]
    exact taken (Nat.le_of_not_lt two) (by omega)
  · have upper :=
      continuation_ofNat
        (Nat.mod_lt (char.toNat / 4096) (show 0 < 0x40 by decide))
    have most : char.toNat / 262144 % 0x08 + 0xf0 ≤ 0xf7 := by omega
    have first := toNat_ofNat_byte (Nat.lt_of_le_of_lt most (by decide))
    rw [utf8EncodeChar_four (Nat.le_of_not_lt three), List.cons_append,
      List.cons_append, List.cons_append, List.singleton_append,
      fromUtf8_four (ofNat_range (Nat.le_add_left _ _) most (by decide))
        upper middle last, first]
    exact taken (Nat.le_of_not_lt three) (by omega)

private theorem split_decoded {least code : Nat} {text : Str}
    (decoded :
      (do
        let char ← codePoint least code
        return char :: (← fromUtf8 rest)) = some text) :
    ∃ char later, text = char :: later ∧ least ≤ char.toNat ∧
      char.toNat = code ∧ fromUtf8 rest = some later := by
  obtain ⟨char, isChar, tail⟩ := Option.bind_eq_some_iff.mp decoded
  obtain ⟨later, isLater, same⟩ := Option.bind_eq_some_iff.mp tail
  obtain ⟨enough, isCode⟩ := codePoint_eq_some_iff.mp isChar
  exact ⟨char, later, (Option.some.inj same).symm, isCode ▸ enough, isCode,
    isLater⟩

/-- What is decoded begins with the encoding of the first character. -/
theorem fromUtf8_cons_eq_some {text : Str}
    (decoded : fromUtf8 (first :: rest) = some text) :
    ∃ char later bytes, text = char :: later ∧
      first :: rest = String.utf8EncodeChar char ++ bytes ∧
      fromUtf8 bytes = some later := by
  have byteCode {low : Nat} {byte : UInt8} (least : low ≤ byte.toNat)
      {offset : Nat} (same : offset = byte.toNat - low) :
      UInt8.ofNat (offset + low) = byte := by
    rw [same, Nat.sub_add_cancel least, UInt8.ofNat_toNat]
  rw [fromUtf8.eq_def] at decoded
  simp only at decoded
  split at decoded
  · next low =>
      obtain ⟨later, isLater, rfl⟩ := Option.map_eq_some_iff.mp decoded
      have small : first.toNat < 0x80 := UInt8.lt_iff_toNat_lt.mp low
      have code : (Char.ofNat first.toNat).toNat = first.toNat :=
        (codePoint_eq_some_iff.mp
          (if_pos ⟨Nat.zero_le _, .inl (small.trans (by decide))⟩)).2
      refine ⟨_, later, rest, rfl, ?_, isLater⟩
      rw [utf8EncodeChar_one (code.trans_lt small), code, UInt8.ofNat_toNat]
      rfl
  split at decoded
  · cases decoded
  split at decoded
  · cases decoded
  next second bytes _ payload follows =>
  obtain ⟨small, rfl⟩ := continuation_eq_some follows
  split at decoded
  · next range =>
      obtain ⟨char, later, rfl, least, code, isLater⟩ := split_decoded decoded
      have low : 0xc0 ≤ first.toNat := UInt8.le_iff_toNat_le.mp range.1
      have high : first.toNat ≤ 0xdf := UInt8.le_iff_toNat_le.mp range.2
      refine ⟨char, later, bytes, rfl, ?_, isLater⟩
      rw [utf8EncodeChar_two least (by omega), byteCode low (by omega),
        show char.toNat % 0x40 = payload by omega]
      rfl
  split at decoded
  · cases decoded
  split at decoded
  · cases decoded
  next third bytes _ payload' follows' =>
  obtain ⟨small', rfl⟩ := continuation_eq_some follows'
  split at decoded
  · next range =>
      obtain ⟨char, later, rfl, least, code, isLater⟩ := split_decoded decoded
      have low : 0xe0 ≤ first.toNat := UInt8.le_iff_toNat_le.mp range.1
      have high : first.toNat ≤ 0xef := UInt8.le_iff_toNat_le.mp range.2
      refine ⟨char, later, bytes, rfl, ?_, isLater⟩
      rw [utf8EncodeChar_three least (by omega), byteCode low (by omega),
        show char.toNat / 64 % 0x40 = payload by omega,
        show char.toNat % 0x40 = payload' by omega]
      rfl
  split at decoded
  · cases decoded
  split at decoded
  · cases decoded
  next fourth bytes _ payload'' follows'' =>
  obtain ⟨small'', rfl⟩ := continuation_eq_some follows''
  split at decoded
  · next range =>
      obtain ⟨char, later, rfl, least, code, isLater⟩ := split_decoded decoded
      have low : 0xf0 ≤ first.toNat := UInt8.le_iff_toNat_le.mp range.1
      have high : first.toNat ≤ 0xf7 := UInt8.le_iff_toNat_le.mp range.2
      refine ⟨char, later, bytes, rfl, ?_, isLater⟩
      rw [utf8EncodeChar_four least, byteCode low (by omega),
        show char.toNat / 4096 % 0x40 = payload by omega,
        show char.toNat / 64 % 0x40 = payload' by omega,
        show char.toNat % 0x40 = payload'' by omega]
      rfl
  · cases decoded

end Decoding

/-! ## Whole texts -/

theorem fromUtf8_encode (text : Str) : fromUtf8 (utf8 text) = some text := by
  induction text with
  | nil => rfl
  | cons char later inductionHypothesis =>
      rw [utf8_cons, fromUtf8_append_char, inductionHypothesis,
        Option.map_some]

example : fromUtf8 (utf8 ['é', '€']) = some ['é', '€'] := by
  decide +kernel

theorem utf8_injective : Function.Injective utf8 := by
  intro first second same
  have decoded := fromUtf8_encode first
  rw [same, fromUtf8_encode, Option.some_inj] at decoded
  exact decoded.symm

/-- Decoded bytes are the encoding of the text. -/
theorem utf8_of_fromUtf8 {bytes : Bytes} {text : Str}
    (decoded : fromUtf8 bytes = some text) : utf8 text = bytes := by
  induction text generalizing bytes with
  | nil =>
      cases bytes with
      | nil => rfl
      | cons first rest =>
          obtain ⟨_, _, _, clash, -⟩ := fromUtf8_cons_eq_some decoded
          cases clash
  | cons char later inductionHypothesis =>
      cases bytes with
      | nil => cases decoded
      | cons first rest =>
          obtain ⟨char', later', bytes, same, whole, isLater⟩ :=
            fromUtf8_cons_eq_some decoded
          obtain ⟨rfl, rfl⟩ := List.cons.inj same
          rw [utf8_cons, whole, inductionHypothesis isLater]

end HermesAtrust.Text
