import HermesAtrust.L3.Packet
import HermesAtrust.Text.Decimal

/-!
# Reading IPv4 addresses

`Ipv4Addr::from_str`: four decimal numbers of one to three digits without
leading zeros, none of them beyond 255, separated by single dots.
-/

namespace HermesAtrust.L3

open HermesAtrust.Text

/-- One of the four numbers. -/
def parseOctet (text : Str) : Option UInt8 :=
  if text ≠ [] ∧ text.length ≤ 3 ∧ text.all isDigit = true ∧
      ¬(text.head? = some '0' ∧ 1 < text.length) ∧ decimal text ≤ 255 then
    some (UInt8.ofNat (decimal text))
  else
    none

/-- `str::parse::<Ipv4Addr>`. -/
def parseIpv4 (text : Str) : Option Ipv4Addr :=
  match text.splitOn '.' with
  | [first, second, third, fourth] =>
      match parseOctet first, parseOctet second, parseOctet third,
          parseOctet fourth with
      | some a, some b, some c, some d => some ⟨a, b, c, d⟩
      | _, _, _, _ => none
  | _ => none

example : parseIpv4 "198.18.0.5".toList = some ⟨198, 18, 0, 5⟩ := by decide

example : parseIpv4 "198.18.0.5.".toList = none := by decide

theorem parseOctet_eq_some {text : Str} {octet : UInt8}
    (parsed : parseOctet text = some octet) :
    text ≠ [] ∧ text.length ≤ 3 ∧ ∀ char ∈ text, isDigit char = true := by
  unfold parseOctet at parsed
  split at parsed
  · next shape =>
      exact ⟨shape.1, shape.2.1, List.all_eq_true.mp shape.2.2.1⟩
  · cases parsed

/-- What is read as an address has four labels of digits. -/
theorem parseIpv4_eq_some {text : Str} {ip : Ipv4Addr}
    (parsed : parseIpv4 text = some ip) :
    (text.splitOn '.').length = 4 ∧
      ∀ label ∈ text.splitOn '.',
        label ≠ [] ∧ label.length ≤ 3 ∧ ∀ char ∈ label, isDigit char = true := by
  unfold parseIpv4 at parsed
  split at parsed
  · next first second third fourth labels =>
      split at parsed
      · next a b c d firstParsed secondParsed thirdParsed fourthParsed =>
          rw [labels]
          refine ⟨rfl, ?_⟩
          intro label member
          simp only [List.mem_cons, List.not_mem_nil, or_false] at member
          rcases member with rfl | rfl | rfl | rfl
          · exact parseOctet_eq_some firstParsed
          · exact parseOctet_eq_some secondParsed
          · exact parseOctet_eq_some thirdParsed
          · exact parseOctet_eq_some fourthParsed
      · cases parsed
  · cases parsed

theorem isWhitespace_of_isDigit {char : Char} (digit : isDigit char = true) :
    isWhitespace char = false := by
  simp only [isDigit, Bool.and_eq_true, decide_eq_true_eq] at digit
  have least : 48 ≤ char.toNat := digit.1
  have most : char.toNat ≤ 57 := digit.2
  have unequal : ∀ code, code < 48 ∨ 57 < code →
      (char.toNat == code) = false := by
    intro code beyond
    rw [beq_eq_false_iff_ne]
    omega
  simp only [isWhitespace, unequal, Nat.reduceLT, true_or, or_true,
    Bool.or_false, Bool.or_eq_false_iff, Bool.and_eq_false_iff,
    decide_eq_false_iff_not]
  omega

/-- An address is written with digits and dots. -/
theorem digit_or_dot {text : Str} {ip : Ipv4Addr}
    (parsed : parseIpv4 text = some ip) {char : Char} (member : char ∈ text) :
    isDigit char = true ∨ char = '.' := by
  rcases mem_splitOn_or_eq '.' member with isDot | ⟨label, listed, inLabel⟩
  · exact .inr isDot
  · exact .inl (((parseIpv4_eq_some parsed).2 label listed).2.2 char inLabel)

/-- Digits and dots are no white space. -/
theorem trim_of_parseIpv4 {text : Str} {ip : Ipv4Addr}
    (parsed : parseIpv4 text = some ip) : trim text = text := by
  apply trim_eq_self
  intro char member
  rcases digit_or_dot parsed member with digit | rfl
  · exact isWhitespace_of_isDigit digit
  · decide

/-- No separator is in the text of an address, even before it is trimmed. -/
theorem notMem_of_parseIpv4 {text : Str} {ip : Ipv4Addr} {char : Char}
    (parsed : parseIpv4 (trim text) = some ip)
    (other : isWhitespace char = false ∧ isDigit char = false ∧ char ≠ '.') :
    char ∉ text := by
  intro member
  rcases digit_or_dot parsed (mem_trim member other.1) with digit | isDot
  · rw [other.2.1] at digit
    cases digit
  · exact other.2.2 isDot

/-! ## Reading back what is written -/

theorem isDigit_iff {char : Char} :
    isDigit char = true ↔ 48 ≤ char.toNat ∧ char.toNat ≤ 57 := by
  rw [isDigit, Bool.and_eq_true, decide_eq_true_iff, decide_eq_true_iff]
  exact Iff.rfl

theorem decimalText_digit {char : Char} (digit : isDigit char = true) :
    decimalText (char.toNat - 48) = [char] := by
  rw [isDigit_iff] at digit
  obtain ⟨least, most⟩ := digit
  rw [← Char.ofNat_toNat char]
  interval_cases char.toNat <;> rfl

/-- Further digits behind a number that is not zero. -/
theorem decimalText_append {number : Nat} (positive : 0 < number) {digits : Str}
    (areDigits : ∀ char ∈ digits, isDigit char = true) :
    decimalText number ++ digits =
      decimalText
        (digits.foldl
          (fun number digit => 10 * number + (digit.toNat - 48)) number) := by
  induction digits generalizing number with
  | nil => rw [List.append_nil, List.foldl_nil]
  | cons digit later inductionHypothesis =>
      have parts := List.forall_mem_cons.mp areDigits
      have range := isDigit_iff.mp parts.1
      have longer :
          decimalText number ++ [digit] =
            decimalText (10 * number + (digit.toNat - 48)) := by
        rw [← decimalText_digit parts.1]
        exact Nat.toDigits_append_toDigits (by decide) positive (by omega)
      rw [List.foldl_cons, ← inductionHypothesis (by omega) parts.2, ← longer,
        List.append_assoc, List.singleton_append]

/-- Digits without a leading zero are the digits of their number. -/
theorem decimalText_decimal {digits : Str} (nonempty : digits ≠ [])
    (areDigits : ∀ char ∈ digits, isDigit char = true)
    (canonical : ¬(digits.head? = some '0' ∧ 1 < digits.length)) :
    decimalText (decimal digits) = digits := by
  cases digits with
  | nil => exact absurd rfl nonempty
  | cons digit later =>
      have parts := List.forall_mem_cons.mp areDigits
      have first := decimalText_digit parts.1
      have range := isDigit_iff.mp parts.1
      rw [decimal, List.foldl_cons, Nat.mul_zero, Nat.zero_add]
      by_cases zero : digit = '0'
      · subst zero
        have alone : later = [] := by
          cases later with
          | nil => rfl
          | cons second rest =>
              exact absurd ⟨rfl, by simp⟩ canonical
        rw [alone]
        rfl
      · have positive : 0 < digit.toNat - 48 := by
          have notZero : digit.toNat ≠ 48 := by
            intro same
            apply zero
            rw [← Char.ofNat_toNat digit, same]
          omega
        rw [← decimalText_append positive parts.2, first,
          List.singleton_append]

theorem parseOctet_decimalText :
    ∀ octet : UInt8, parseOctet (decimalText octet.toNat) = some octet := by
  intro octet
  have code : ∀ code : Fin 256,
      parseOctet (decimalText code) = some (UInt8.ofNat code) := by
    decide +kernel
  have this := code ⟨octet.toNat, octet.toNat_lt⟩
  rw [UInt8.ofNat_toNat] at this
  exact this

theorem decimalText_of_parseOctet {text : Str} {octet : UInt8}
    (parsed : parseOctet text = some octet) :
    decimalText octet.toNat = text := by
  unfold parseOctet at parsed
  split at parsed
  · next shape =>
      cases parsed
      obtain ⟨nonempty, -, digits, canonical, small⟩ := shape
      rw [UInt8.toNat_ofNat', Nat.mod_eq_of_lt (Nat.lt_succ_of_le small)]
      exact decimalText_decimal nonempty (List.all_eq_true.mp digits) canonical
  · cases parsed

/-- The text of an address, as characters. -/
theorem toList_text (ip : Ipv4Addr) :
    ip.text.toList =
      ['.'].intercalate
        [decimalText ip.a.toNat, decimalText ip.b.toNat,
          decimalText ip.c.toNat, decimalText ip.d.toNat] := by
  simp only [Ipv4Addr.text, String.toList_append, toList_toString,
    show (".").toList = ['.'] from rfl, List.intercalate_cons_cons,
    List.intercalate_singleton, List.append_assoc]

/-- An address is read from its text only. -/
theorem parseIpv4_eq_some_iff {text : Str} {ip : Ipv4Addr} :
    parseIpv4 text = some ip ↔ text = ip.text.toList := by
  constructor
  · intro parsed
    unfold parseIpv4 at parsed
    split at parsed
    · next first second third fourth labels =>
        split at parsed
        · next a b c d isA isB isC isD =>
            cases parsed
            rw [toList_text, decimalText_of_parseOctet isA,
              decimalText_of_parseOctet isB, decimalText_of_parseOctet isC,
              decimalText_of_parseOctet isD, ← labels, List.intercalate_splitOn]
        · cases parsed
    · cases parsed
  · rintro rfl
    have dotless : ∀ octet : UInt8, '.' ∉ decimalText octet.toNat :=
      fun octet => notMem_decimalText (by decide) _
    have labels :
        ip.text.toList.splitOn '.' =
          [decimalText ip.a.toNat, decimalText ip.b.toNat,
            decimalText ip.c.toNat, decimalText ip.d.toNat] := by
      rw [toList_text]
      apply List.splitOn_intercalate '.' _ (List.cons_ne_nil _ _)
      intro label member
      simp only [List.mem_cons, List.not_mem_nil, or_false] at member
      rcases member with rfl | rfl | rfl | rfl
      all_goals exact dotless _
    rw [parseIpv4, labels]
    simp only [parseOctet_decimalText]

end HermesAtrust.L3
