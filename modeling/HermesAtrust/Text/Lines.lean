import HermesAtrust.Text.Str
import Mathlib.Data.List.Basic

/-!
# Decoding text and splitting it into lines

UTF-8 decoding as it is specified (no overlong forms, no surrogates, nothing
beyond the last code point), lines that are separated by CR LF, and the
splitting of a line at the first occurrence of a character.
-/

namespace HermesAtrust.Text

open HermesAtrust.Framing

/-- The payload of a continuation byte. -/
def continuation (byte : UInt8) : Option Nat :=
  if 0x80 ≤ byte ∧ byte ≤ 0xbf then some (byte.toNat - 0x80) else none

/-- One code point of several bytes, which must not have a shorter form and
must not be a surrogate. -/
def codePoint (least code : Nat) : Option Char :=
  if least ≤ code ∧ code.isValidChar then some (Char.ofNat code) else none

/-- `String::from_utf8`. -/
def fromUtf8 : Bytes → Option Str
  | [] => some []
  | first :: rest =>
      if first < 0x80 then
        (fromUtf8 rest).map (Char.ofNat first.toNat :: ·)
      else
        match rest with
        | [] => none
        | second :: rest =>
            match continuation second with
            | none => none
            | some second =>
                if 0xc0 ≤ first ∧ first ≤ 0xdf then do
                  let char ←
                    codePoint 0x80 ((first.toNat - 0xc0) * 2 ^ 6 + second)
                  return char :: (← fromUtf8 rest)
                else
                  match rest with
                  | [] => none
                  | third :: rest =>
                      match continuation third with
                      | none => none
                      | some third =>
                          if 0xe0 ≤ first ∧ first ≤ 0xef then do
                            let char ←
                              codePoint 0x800
                                ((first.toNat - 0xe0) * 2 ^ 12 +
                                  second * 2 ^ 6 + third)
                            return char :: (← fromUtf8 rest)
                          else
                            match rest with
                            | [] => none
                            | fourth :: rest =>
                                match continuation fourth with
                                | none => none
                                | some fourth =>
                                    if 0xf0 ≤ first ∧ first ≤ 0xf7 then do
                                      let char ←
                                        codePoint 0x10000
                                          ((first.toNat - 0xf0) * 2 ^ 18 +
                                            second * 2 ^ 12 + third * 2 ^ 6 +
                                            fourth)
                                      return char :: (← fromUtf8 rest)
                                    else
                                      none

example : fromUtf8 [0x61, 0xc3, 0xa9, 0x62] = some ['a', 'é', 'b'] := by
  decide

example : fromUtf8 [0xc1, 0xa9] = none := by decide

/-- `split("\r\n")`. -/
def splitCrlf : Str → List Str
  | [] => [[]]
  | '\r' :: '\n' :: rest => [] :: splitCrlf rest
  | char :: rest =>
      match splitCrlf rest with
      | [] => [[char]]
      | line :: lines => (char :: line) :: lines

/-- `split_once`. -/
def splitOnce (separator : Char) (text : Str) : Option (Str × Str) :=
  match text.dropWhile (· != separator) with
  | [] => none
  | _ :: after => some (text.takeWhile (· != separator), after)

/-- `rsplit_once`. -/
def rsplitOnce (separator : Char) (text : Str) : Option (Str × Str) :=
  (splitOnce separator text.reverse).map fun parts =>
    (parts.2.reverse, parts.1.reverse)

/-- `eq_ignore_ascii_case`. -/
def eqIgnoreAsciiCase (first second : Str) : Bool :=
  decide (toAsciiLowercase first = toAsciiLowercase second)

/-- A line without carriage returns is split off. -/
theorem splitCrlf_line {line : Str} (clean : '\r' ∉ line) (rest : Str) :
    splitCrlf (line ++ '\r' :: '\n' :: rest) = line :: splitCrlf rest := by
  induction line with
  | nil => rw [List.nil_append, splitCrlf]
  | cons char later inductionHypothesis =>
      have other : char ≠ '\r' := by
        intro same
        exact clean (by simp [same])
      have split :=
        inductionHypothesis fun member => clean (List.mem_cons_of_mem _ member)
      rw [List.cons_append, splitCrlf, split]
      intro after isReturn
      exact absurd isReturn other

/-- Lines that are each ended by CR LF. -/
def joinCrlf (lines : List Str) : Str :=
  lines.flatMap fun line => line ++ ['\r', '\n']

theorem splitCrlf_joinCrlf {lines : List Str}
    (clean : ∀ line ∈ lines, '\r' ∉ line) :
    splitCrlf (joinCrlf lines) = lines ++ [[]] := by
  induction lines with
  | nil => rfl
  | cons line later inductionHypothesis =>
      have split :=
        inductionHypothesis fun other member =>
          clean other (List.mem_cons_of_mem _ member)
      have step := splitCrlf_line (clean line List.mem_cons_self) (joinCrlf later)
      rw [split] at step
      simpa [joinCrlf] using step

/-- A text is split at the first separator. -/
theorem splitOnce_append {separator : Char} {before : Str}
    (clean : separator ∉ before) (after : Str) :
    splitOnce separator (before ++ separator :: after) =
      some (before, after) := by
  have other : ∀ char ∈ before, (char != separator) = true := by
    intro char member
    rw [bne_iff_ne]
    intro same
    exact clean (same ▸ member)
  rw [splitOnce, List.dropWhile_append_of_pos other,
    List.takeWhile_append_of_pos other]
  simp

theorem splitOnce_eq_none_iff {separator : Char} {text : Str} :
    splitOnce separator text = none ↔ separator ∉ text := by
  constructor
  · intro unsplit member
    obtain ⟨before, after, rfl, clean⟩ :=
      List.eq_append_cons_of_mem member
    rw [splitOnce_append clean] at unsplit
    cases unsplit
  · intro absent
    have all : text.dropWhile (· != separator) = [] := by
      rw [List.dropWhile_eq_nil_iff]
      intro char member
      rw [bne_iff_ne]
      exact fun same => absent (same ▸ member)
    rw [splitOnce, all]

theorem splitOnce_eq_some_iff {separator : Char} {text before after : Str} :
    splitOnce separator text = some (before, after) ↔
      separator ∉ before ∧ text = before ++ separator :: after := by
  constructor
  · intro split
    have member : separator ∈ text := by
      by_contra absent
      rw [splitOnce_eq_none_iff.mpr absent] at split
      cases split
    obtain ⟨front, back, rfl, clean⟩ := List.eq_append_cons_of_mem member
    rw [splitOnce_append clean] at split
    cases split
    exact ⟨clean, rfl⟩
  · rintro ⟨clean, rfl⟩
    exact splitOnce_append clean after

theorem rsplitOnce_eq_none_iff {separator : Char} {text : Str} :
    rsplitOnce separator text = none ↔ separator ∉ text := by
  rw [rsplitOnce, Option.map_eq_none_iff, splitOnce_eq_none_iff,
    List.mem_reverse]

theorem rsplitOnce_eq_some_iff {separator : Char} {text before after : Str} :
    rsplitOnce separator text = some (before, after) ↔
      separator ∉ after ∧ text = before ++ separator :: after := by
  rw [rsplitOnce, Option.map_eq_some_iff]
  constructor
  · rintro ⟨⟨front, back⟩, split, same⟩
    cases same
    obtain ⟨clean, whole⟩ := splitOnce_eq_some_iff.mp split
    refine ⟨fun member => clean (List.mem_reverse.mp member), ?_⟩
    have reversed := congrArg List.reverse whole
    simpa using reversed
  · rintro ⟨clean, rfl⟩
    refine ⟨(after.reverse, before.reverse), ?_, by simp⟩
    apply splitOnce_eq_some_iff.mpr
    exact ⟨fun member => clean (List.mem_reverse.mp member), by simp⟩

end HermesAtrust.Text
