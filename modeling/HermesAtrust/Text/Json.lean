import HermesAtrust.Text.Decimal
import HermesAtrust.Text.Utf8

/-!
# Compact JSON

Values of strings, natural numbers and objects, written without white space
and with the members of an object in their order.  Strings are escaped: the
quotation mark, the backslash and the control characters never stand for
themselves, so a written value ends where its own grammar says and two values
that are written alike are equal.
-/

namespace HermesAtrust.Text

/-! ## Strings -/

/-- The letter of an escape of two characters, by the escaped character's
code. -/
def shortEscape : Nat → Option Char
  | 0x08 => some 'b'
  | 0x09 => some 't'
  | 0x0a => some 'n'
  | 0x0c => some 'f'
  | 0x0d => some 'r'
  | 0x22 => some '\x22'
  | 0x5c => some '\x5c'
  | _ => none

def escape (char : Char) : Str :=
  match shortEscape char.toNat with
  | some letter => ['\x5c', letter]
  | none =>
      if char.toNat < 0x20 then
        ['\x5c', 'u', '0', '0', Nat.digitChar (char.toNat / 16),
          Nat.digitChar (char.toNat % 16)]
      else
        [char]

def quote (text : Str) : Str :=
  '\x22' :: text.flatMap escape ++ ['\x22']

/-- The first character that an escaped text stands for. -/
def unescape? : Str → Option (Char × Str)
  | [] => none
  | first :: rest =>
      if first = '\x22' then
        none
      else if first = '\x5c' then
        match rest with
        | 'u' :: _ :: _ :: high :: low :: rest =>
            ((List.range 0x20).find? fun code =>
              Nat.digitChar (code / 16) = high ∧
                Nat.digitChar (code % 16) = low).map
              fun code => (Char.ofNat code, rest)
        | letter :: rest =>
            ((List.range 0x80).find? fun code =>
              shortEscape code = some letter).map
              fun code => (Char.ofNat code, rest)
        | [] => none
      else
        some (first, rest)

theorem escape_plain {char : Char} (short : shortEscape char.toNat = none)
    (visible : ¬char.toNat < 0x20) : escape char = [char] := by
  rw [escape, short]
  exact if_neg visible

theorem unescape?_escape_append (char : Char) (rest : Str) :
    unescape? (escape char ++ rest) = some (char, rest) := by
  by_cases ascii : char.toNat < 0x80
  · rw [← Char.ofNat_toNat char]
    interval_cases char.toNat <;> rfl
  · have short : shortEscape char.toNat = none := by
      rw [shortEscape]
      all_goals omega
    have plain {code : Char} (low : code.toNat < 0x80) : char ≠ code := by
      rintro rfl
      exact ascii low
    rw [escape_plain short (by omega), List.singleton_append,
      unescape?.eq_def]
    exact (if_neg (plain (by decide))).trans (if_neg (plain (by decide)))

theorem escape_append_inj {first second : Char} {rest rest' : Str}
    (same : escape first ++ rest = escape second ++ rest') :
    first = second ∧ rest = rest' := by
  have read := unescape?_escape_append first rest
  rw [same, unescape?_escape_append, Option.some_inj, Prod.mk.injEq] at read
  exact ⟨read.1.symm, read.2.symm⟩

/-- No escaped character begins with a quotation mark. -/
theorem escape_append_ne (char : Char) (rest rest' : Str) :
    escape char ++ rest ≠ '\x22' :: rest' := by
  intro same
  have read := unescape?_escape_append char rest
  rw [same] at read
  cases read

theorem flatMap_escape_append_inj {text text' rest rest' : Str}
    (same :
      text.flatMap escape ++ '\x22' :: rest =
        text'.flatMap escape ++ '\x22' :: rest') :
    text = text' ∧ rest = rest' := by
  induction text generalizing text' with
  | nil =>
      cases text' with
      | nil => exact ⟨rfl, (List.cons.inj same).2⟩
      | cons char later =>
          rw [List.flatMap_cons, List.append_assoc] at same
          exact absurd same.symm (escape_append_ne char _ _)
  | cons char later inductionHypothesis =>
      cases text' with
      | nil =>
          rw [List.flatMap_cons, List.append_assoc] at same
          exact absurd same (escape_append_ne char _ _)
      | cons char' later' =>
          rw [List.flatMap_cons, List.flatMap_cons, List.append_assoc,
            List.append_assoc] at same
          obtain ⟨rfl, tails⟩ := escape_append_inj same
          obtain ⟨rfl, rests⟩ := inductionHypothesis tails
          exact ⟨rfl, rests⟩

theorem quote_append_eq (text rest : Str) :
    quote text ++ rest =
      '\x22' :: (text.flatMap escape ++ '\x22' :: rest) := by
  rw [quote, List.cons_append, List.cons_append, List.append_assoc,
    List.singleton_append]

/-- A quoted text ends where its quotation mark stands. -/
theorem quote_append_inj {text text' rest rest' : Str}
    (same : quote text ++ rest = quote text' ++ rest') :
    text = text' ∧ rest = rest' := by
  rw [quote_append_eq, quote_append_eq] at same
  exact flatMap_escape_append_inj (List.cons.inj same).2

/-- Characters that need no escape are quoted as they are. -/
theorem quote_plain {text : Str}
    (plain : ∀ char ∈ text, escape char = [char]) :
    quote text = '\x22' :: text ++ ['\x22'] := by
  have kept : text.flatMap escape = text := by
    induction text with
    | nil => rfl
    | cons char later inductionHypothesis =>
        rw [List.flatMap_cons, plain char List.mem_cons_self,
          inductionHypothesis fun other member =>
            plain other (List.mem_cons_of_mem _ member)]
        rfl
  rw [quote, kept]

/-! ## Values -/

mutual

inductive Json where
  | string (value : Str)
  | number (value : Nat)
  | object (members : Members)

inductive Members where
  | nil
  | cons (key : Str) (value : Json) (later : Members)

end

/-- The members of an object in their order. -/
def Members.ofList : List (Str × Json) → Members
  | [] => .nil
  | (key, value) :: later => .cons key value (ofList later)

mutual

/-- Compact output. -/
def Json.write : Json → Str
  | .string value => quote value
  | .number value => decimalText value
  | .object members => '\x7b' :: (members.write [] ++ ['\x7d'])

/-- The members, the first of them behind the separator. -/
def Members.write : Members → (separator : Str) → Str
  | .nil, _ => []
  | .cons key value later, separator =>
      separator ++ (quote key ++ ':' :: (value.write ++ later.write [',']))

end

example : (Json.object (.ofList [("a".toList, .string ['\n']),
    ("b".toList, .object .nil), ("c".toList, .number 17)])).write =
      "\x7b\"a\":\"\\n\",\"b\":\x7b\x7d,\"c\":17\x7d".toList := by
  decide

private theorem endsDigits_write (members : Members) (rest : Str) :
    EndsDigits (members.write [','] ++ '\x7d' :: rest) := by
  cases members with
  | nil =>
      rw [Members.write, List.nil_append]
      exact endsDigits_cons (by decide) rest
  | cons key value later =>
      rw [Members.write, List.append_assoc, List.singleton_append]
      exact endsDigits_cons (by decide) _

private theorem member_append_ne {separator key : Str}
    (plain : '\x7d' ∉ separator) (rest rest' : Str) :
    separator ++ (quote key ++ rest) ≠ '\x7d' :: rest' := by
  intro same
  cases separator with
  | nil =>
      rw [List.nil_append, quote_append_eq, List.cons.injEq] at same
      exact absurd same.1 (by decide)
  | cons first later =>
      rw [List.cons_append, List.cons.injEq] at same
      exact plain (by rw [same.1]; exact List.mem_cons_self)

mutual

/-- A written value ends where its own form says. -/
theorem Json.write_append_inj {value value' : Json} {rest rest' : Str}
    (ends : EndsDigits rest) (ends' : EndsDigits rest')
    (same : value.write ++ rest = value'.write ++ rest') :
    value = value' ∧ rest = rest' := by
  have noDigit : ('\x22').isDigit = false ∧ ('\x7b').isDigit = false := by
    decide
  cases value with
  | string text =>
      rw [Json.write] at same
      cases value' with
      | string text' =>
          rw [Json.write] at same
          obtain ⟨rfl, rests⟩ := quote_append_inj same
          exact ⟨rfl, rests⟩
      | number number' =>
          rw [Json.write, quote_append_eq] at same
          exact absurd same.symm (decimalText_append_ne noDigit.1 _ _ _)
      | object members' =>
          rw [Json.write, quote_append_eq, List.cons_append,
            List.cons.injEq] at same
          exact absurd same.1 (by decide)
  | number number =>
      rw [Json.write] at same
      cases value' with
      | string text' =>
          rw [Json.write, quote_append_eq] at same
          exact absurd same (decimalText_append_ne noDigit.1 _ _ _)
      | number number' =>
          rw [Json.write] at same
          obtain ⟨rfl, rests⟩ := decimalText_append_inj ends ends' same
          exact ⟨rfl, rests⟩
      | object members' =>
          rw [Json.write, List.cons_append] at same
          exact absurd same (decimalText_append_ne noDigit.2 _ _ _)
  | object members =>
      rw [Json.write, List.cons_append] at same
      cases value' with
      | string text' =>
          rw [Json.write, quote_append_eq, List.cons.injEq] at same
          exact absurd same.1 (by decide)
      | number number' =>
          rw [Json.write] at same
          exact absurd same.symm (decimalText_append_ne noDigit.2 _ _ _)
      | object members' =>
          rw [Json.write, List.cons_append, List.cons.injEq, List.append_assoc,
            List.append_assoc] at same
          obtain ⟨rfl, rests⟩ :=
            Members.write_append_inj List.not_mem_nil same.2
          exact ⟨rfl, rests⟩

theorem Members.write_append_inj {members members' : Members}
    {separator rest rest' : Str} (plain : '\x7d' ∉ separator)
    (same :
      members.write separator ++ '\x7d' :: rest =
        members'.write separator ++ '\x7d' :: rest') :
    members = members' ∧ rest = rest' := by
  cases members with
  | nil =>
      rw [Members.write, List.nil_append] at same
      cases members' with
      | nil => exact ⟨rfl, (List.cons.inj same).2⟩
      | cons key' value' later' =>
          rw [Members.write, List.append_assoc, List.append_assoc] at same
          exact absurd same.symm (member_append_ne plain _ _)
  | cons key value later =>
      rw [Members.write, List.append_assoc, List.append_assoc] at same
      cases members' with
      | nil => exact absurd same (member_append_ne plain _ _)
      | cons key' value' later' =>
          rw [Members.write, List.append_assoc, List.append_assoc] at same
          obtain ⟨rfl, behind⟩ := quote_append_inj (List.append_cancel_left same)
          rw [List.cons_append, List.cons_append, List.cons.injEq,
            List.append_assoc, List.append_assoc] at behind
          have comma : '\x7d' ∉ [','] := by decide
          obtain ⟨rfl, laters⟩ :=
            Json.write_append_inj (endsDigits_write later rest)
              (endsDigits_write later' rest') behind.2
          obtain ⟨rfl, rests⟩ := Members.write_append_inj comma laters
          exact ⟨rfl, rests⟩

end

theorem Members.ofList_injective : Function.Injective Members.ofList := by
  intro first second same
  induction first generalizing second with
  | nil =>
      cases second with
      | nil => rfl
      | cons member later => cases same
  | cons member later inductionHypothesis =>
      cases second with
      | nil => cases same
      | cons member' later' =>
          obtain ⟨keys, values, laters⟩ := Members.cons.inj same
          rw [Prod.ext keys values, inductionHypothesis laters]

theorem Members.write_ofList_concat (members : List (Str × Json))
    (key : Str) (separator : Str) :
    ∃ before, ∀ value : Json,
      (Members.ofList (members ++ [(key, value)])).write separator =
        before ++ value.write := by
  induction members generalizing separator with
  | nil =>
      refine ⟨separator ++ (quote key ++ [':']), fun value => ?_⟩
      rw [List.nil_append, Members.ofList, Members.ofList, Members.write,
        Members.write, List.append_nil]
      simp only [List.append_assoc, List.singleton_append]
  | cons member later inductionHypothesis =>
      obtain ⟨before, written⟩ := inductionHypothesis [',']
      refine ⟨separator ++
        (quote member.1 ++ ':' :: (member.2.write ++ before)), fun value => ?_⟩
      rw [List.cons_append, Members.ofList, Members.write, written]
      simp only [List.append_assoc, List.cons_append]

/-- The last member of an object is written before its closing brace, and what
is before it does not depend on it. -/
theorem Json.write_object_concat (members : List (Str × Json)) (key : Str) :
    ∃ before, ∀ value : Json,
      (Json.object (.ofList (members ++ [(key, value)]))).write =
        before ++ (value.write ++ ['\x7d']) := by
  obtain ⟨before, written⟩ := Members.write_ofList_concat members key []
  refine ⟨'\x7b' :: before, fun value => ?_⟩
  rw [Json.write, written, List.append_assoc, List.cons_append]

/-- Values that are written alike are equal. -/
theorem Json.write_injective : Function.Injective Json.write := by
  intro first second same
  have nothing : EndsDigits [] := fun _ isHead => by cases isHead
  have whole : first.write ++ [] = second.write ++ [] := by rw [same]
  exact (Json.write_append_inj nothing nothing whole).1

end HermesAtrust.Text
