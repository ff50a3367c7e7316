import HermesAtrust.Net.IpAddr

/-!
# The text of an IPv6 address

`Ipv6Addr`'s `Display`: groups in hexadecimal digits without leading zeros, `::`
in place of the first of the longest runs of two or more zero groups, and an
IPv4 address at the end of an IPv4-mapped one.  What is written is read back as
the same address.
-/

namespace HermesAtrust.Net

open HermesAtrust.Framing HermesAtrust.L3 HermesAtrust.Text

/-- `{:x}`. -/
def hexText (segment : UInt16) : Str :=
  Nat.toDigits 16 segment.toNat

/-- `fmt_subslice`. -/
def fmtSubslice : List UInt16 → Str
  | [] => []
  | first :: tail =>
      hexText first ++ tail.flatMap fun segment => ':' :: hexText segment

structure Span where
  start : Nat
  len : Nat
  deriving DecidableEq, Repr

/-- The loop over the segments that finds the longest run of zeros. -/
def scanZeros :
    (index : Nat) → (longest current : Span) → List UInt16 → Span
  | _, longest, _, [] => longest
  | index, longest, current, segment :: later =>
      if segment = 0 then
        let current : Span :=
          if current.len = 0 then
            ⟨index, 1⟩
          else
            ⟨current.start, current.len + 1⟩
        scanZeros (index + 1)
          (if longest.len < current.len then current else longest) current
          later
      else
        scanZeros (index + 1) longest ⟨0, 0⟩ later

/-- `to_ipv4_mapped`. -/
def toIpv4Mapped : List UInt16 → Option Ipv4Addr
  | [0, 0, 0, 0, 0, 0xffff, high, low] =>
      some
        ⟨UInt8.ofNat (high.toNat / 256), UInt8.ofNat high.toNat,
          UInt8.ofNat (low.toNat / 256), UInt8.ofNat low.toNat⟩
  | _ => none

/-- The segments, with the run of zeros that was found left out. -/
def formatSegments (segments : List UInt16) (zeroes : Span) : Str :=
  if 1 < zeroes.len then
    fmtSubslice (segments.take zeroes.start) ++
      ':' :: ':' :: fmtSubslice (segments.drop (zeroes.start + zeroes.len))
  else
    fmtSubslice segments

def Ipv6Addr.text (ip : Ipv6Addr) : Str :=
  match toIpv4Mapped ip.groups.toList with
  | some ipv4 => "::ffff:".toList ++ ipv4.text.toList
  | none =>
      formatSegments ip.groups.toList
        (scanZeros 0 ⟨0, 0⟩ ⟨0, 0⟩ ip.groups.toList)

/-- `IpAddr`'s `Display`. -/
def IpAddr.text : IpAddr → Str
  | .v4 ip => ip.text.toList
  | .v6 ip => ip.text

/-! ## Runs of zeros -/

/-- The span is a run of zeros among the segments. -/
def IsZeros (segments : List UInt16) (span : Span) : Prop :=
  ∃ before after,
    segments = before ++ List.replicate span.len 0 ++ after ∧
      before.length = span.start

/-- The current run ends where the loop is, if there is one. -/
def EndsZeros (segments : List UInt16) (span : Span) : Prop :=
  span.len ≠ 0 →
    ∃ before,
      segments = before ++ List.replicate span.len 0 ∧
        before.length = span.start

theorem isZeros_append {segments : List UInt16} {span : Span}
    (zeros : IsZeros segments span) (more : List UInt16) :
    IsZeros (segments ++ more) span := by
  obtain ⟨before, after, same, start⟩ := zeros
  refine ⟨before, after ++ more, ?_, start⟩
  rw [same, List.append_assoc]

/-- A zero goes on with the current run, or begins one. -/
theorem endsZeros_zero {before : List UInt16} {current : Span}
    (running : EndsZeros before current) :
    EndsZeros (before ++ [0])
      (if current.len = 0 then
          ⟨before.length, 1⟩
        else
          ⟨current.start, current.len + 1⟩) := by
  intro _
  split
  · exact ⟨before, rfl, rfl⟩
  · rename_i going
    obtain ⟨front, same, start⟩ := running going
    refine ⟨front, ?_, start⟩
    rw [List.replicate_succ', ← List.append_assoc, ← same]

theorem isZeros_of_ends {segments : List UInt16} {span : Span}
    (going : span.len ≠ 0) (ends : EndsZeros segments span) :
    IsZeros segments span := by
  obtain ⟨before, same, start⟩ := ends going
  exact ⟨before, [], by rw [List.append_nil]; exact same, start⟩

theorem isZeros_scanZeros (later : List UInt16) {before : List UInt16}
    {longest current : Span} (found : IsZeros before longest)
    (running : EndsZeros before current) :
    IsZeros (before ++ later)
      (scanZeros before.length longest current later) := by
  induction later generalizing before longest current with
  | nil =>
      rw [List.append_nil]
      exact found
  | cons segment others inductionHypothesis =>
      have length : before.length + 1 = (before ++ [segment]).length := by
        simp
      rw [List.append_cons, scanZeros]
      by_cases zero : segment = 0
      · rw [if_pos zero, length, zero]
        have extended := endsZeros_zero running
        refine inductionHypothesis ?_ extended
        by_cases longer : longest.len <
            (if current.len = 0 then
              (⟨before.length, 1⟩ : Span)
            else
              ⟨current.start, current.len + 1⟩).len
        · rw [if_pos longer]
          exact isZeros_of_ends (by omega) extended
        · rw [if_neg longer]
          exact isZeros_append found _
      · rw [if_neg zero, length]
        apply inductionHypothesis (isZeros_append found _)
        intro going
        exact absurd rfl going

/-- The zeros that are left out are between the two parts that are written. -/
theorem split_scanZeros (segments : List UInt16) :
    let zeroes := scanZeros 0 ⟨0, 0⟩ ⟨0, 0⟩ segments
    segments =
      segments.take zeroes.start ++ List.replicate zeroes.len 0 ++
        segments.drop (zeroes.start + zeroes.len) := by
  have nothing : IsZeros [] ⟨0, 0⟩ := ⟨[], [], rfl, rfl⟩
  have none : EndsZeros [] ⟨0, 0⟩ := fun going => absurd rfl going
  obtain ⟨before, after, same, start⟩ :=
    isZeros_scanZeros segments nothing none
  simp only [List.nil_append, List.length_nil] at same start
  intro zeroes
  change segments =
    before ++ List.replicate zeroes.len 0 ++ after at same
  change before.length = zeroes.start at start
  have length :
      (before ++ List.replicate zeroes.len 0).length =
        zeroes.start + zeroes.len := by
    simp [start]
  have front : segments.take zeroes.start = before := by
    rw [same, List.append_assoc, ← start, List.take_left]
  have back : segments.drop (zeroes.start + zeroes.len) = after := by
    rw [← length]
    conv_lhs => rw [same]
    exact List.drop_left
  rw [front, back]
  exact same

/-! ## Groups -/

/-- The text goes on with something else than a hexadecimal digit. -/
def EndsHex (rest : Str) : Prop :=
  ∀ char ∈ rest.head?, hexValue char = none

theorem hexValue_of_mem_toDigits {number : Nat} {char : Char}
    (member : char ∈ Nat.toDigits 16 number) :
    (hexValue char).isSome = true := by
  induction number using Nat.strongRecOn with
  | ind number inductionHypothesis =>
      rw [Nat.toDigits_eq_if (by decide)] at member
      split at member
      · rename_i small
        rw [List.mem_singleton.mp member, hexValue_digitChar small]
        rfl
      · rename_i large
        rcases List.mem_append.mp member with earlier | last
        · exact inductionHypothesis _ (by omega) earlier
        · rw [List.mem_singleton.mp last,
            hexValue_digitChar (Nat.mod_lt _ (by decide))]
          rfl

theorem foldl_toDigits (number : Nat) :
    (Nat.toDigits 16 number).foldl
        (fun group digit => 16 * group + (hexValue digit).getD 0) 0 =
      number := by
  induction number using Nat.strongRecOn with
  | ind number inductionHypothesis =>
      rw [Nat.toDigits_eq_if (by decide)]
      split
      · rename_i small
        simp [hexValue_digitChar small]
      · rename_i large
        rw [List.foldl_append, inductionHypothesis _ (by omega),
          List.foldl_cons, List.foldl_nil,
          hexValue_digitChar (Nat.mod_lt _ (by decide)), Option.getD_some]
        exact Nat.div_add_mod number 16

theorem takeWhile_hexText (segment : UInt16) {rest : Str}
    (ends : EndsHex rest) :
    ((hexText segment ++ rest).takeWhile fun char =>
        (hexValue char).isSome) = hexText segment := by
  have digits :
      ∀ char ∈ hexText segment, (hexValue char).isSome = true :=
    fun char member => hexValue_of_mem_toDigits member
  rw [List.takeWhile_append_of_pos digits]
  cases rest with
  | nil => simp
  | cons char later =>
      have stop := ends char rfl
      simp [stop]

/-- A group is read in front of any text that ends it. -/
theorem readGroup_hexText (segment : UInt16) {rest : Str}
    (ends : EndsHex rest) :
    readGroup (hexText segment ++ rest) = some (segment, rest) := by
  have length : (hexText segment).length ≤ 4 :=
    (Nat.length_toDigits_le_iff (by decide) (by decide)).mpr
      segment.toNat_lt
  have digits := takeWhile_hexText segment ends
  simp only [readGroup, digits]
  rw [if_pos ⟨Nat.toDigits_ne_nil, length⟩, List.drop_left, hexText,
    foldl_toDigits, UInt16.ofNat_toNat]

/-- What is no digit begins neither a group nor an IPv4 address. -/
theorem readGroup_eq_none {text : Str} (ends : EndsHex text) :
    readGroup text = none := by
  have nothing :
      (text.takeWhile fun char => (hexValue char).isSome) = [] := by
    cases text with
    | nil => rfl
    | cons char later =>
        have stop := ends char rfl
        simp [stop]
  simp [readGroup, nothing]

theorem readIpv4_eq_none {text : Str}
    (noDot : (text.dropWhile isDigit).head? ≠ some '.') :
    readIpv4 text = none := by
  cases octet : readOctet text with
  | none => simp [readIpv4, behind, octet]
  | some parts =>
      obtain ⟨a, rest⟩ := parts
      have isRest : rest = text.dropWhile isDigit := by
        simp only [readOctet, Option.map_eq_some_iff, Prod.mk.injEq] at octet
        obtain ⟨_, -, -, same⟩ := octet
        exact same.symm
      have noSeparator : stripPrefix? ['.'] rest = none := by
        cases stripped : stripPrefix? ['.'] rest with
        | none => rfl
        | some later =>
            rw [stripPrefix?_singleton] at stripped
            rw [← isRest, stripped] at noDot
            exact absurd rfl noDot
      simp [readIpv4, behind, octet, noSeparator]

/-- What stands behind a list of groups: nothing, or the double colon. -/
def EndsGroups (rest : Str) : Prop :=
  rest = [] ∨ ∃ later, rest = ':' :: ':' :: later

theorem endsHex_cons {char : Char} (plain : hexValue char = none)
    (rest : Str) : EndsHex (char :: rest) := by
  intro other isHead
  cases isHead
  exact plain

theorem endsHex_nil : EndsHex [] := by
  intro char isHead
  cases isHead

/-- Where the groups end nothing more is read. -/
theorem readGroups_stop {rest : Str} (places : Nat) (first : Bool)
    (ends : EndsGroups rest) :
    readGroups places first rest = ([], false, rest) := by
  have noGroup : behind ':' first readGroup rest = none := by
    rcases ends with rfl | ⟨later, rfl⟩
    · cases first <;> rfl
    · have colon : EndsHex (':' :: later) := endsHex_cons (by decide) _
      have colons : EndsHex (':' :: ':' :: later) :=
        endsHex_cons (by decide) _
      cases first with
      | false =>
          simp [behind, readGroup_eq_none colon]
      | true => exact readGroup_eq_none colons
  have noIpv4 : behind ':' first readIpv4 rest = none := by
    rcases ends with rfl | ⟨later, rfl⟩
    · cases first <;> rfl
    · have digit : isDigit ':' = false := by decide
      have colon : readIpv4 (':' :: later) = none :=
        readIpv4_eq_none (by simp [digit])
      have colons : readIpv4 (':' :: ':' :: later) = none :=
        readIpv4_eq_none (by simp [digit])
      cases first with
      | false => simp [behind, colon]
      | true => exact colons
  cases places with
  | zero => rfl
  | succ places =>
      simp only [readGroups, noGroup, noIpv4, ite_self]

theorem isDigit_hex {char : Char} (hex : (hexValue char).isSome = true) :
    char ≠ '.' := by
  rintro rfl
  have dot : hexValue '.' = none := by decide
  rw [dot] at hex
  cases hex

/-- A group is not read as an IPv4 address. -/
theorem readIpv4_hexText (segment : UInt16) {rest : Str}
    (colon : rest = [] ∨ ∃ later, rest = ':' :: later) :
    readIpv4 (hexText segment ++ rest) = none := by
  apply readIpv4_eq_none
  rw [List.dropWhile_append]
  intro isDot
  split at isDot
  · rcases colon with rfl | ⟨later, rfl⟩
    · simp at isDot
    · have digit : isDigit ':' = false := by decide
      simp [digit] at isDot
  · rename_i some
    cases left : (hexText segment).dropWhile isDigit with
    | nil => simp [left] at some
    | cons char others =>
        rw [left, List.cons_append, List.head?_cons, Option.some_inj] at isDot
        have member : char ∈ hexText segment :=
          (List.dropWhile_sublist isDigit).subset (by rw [left]; simp)
        exact isDigit_hex (hexValue_of_mem_toDigits member) isDot

/-- Groups with a colon before each of them but perhaps the first. -/
def groupsText (first : Bool) (segments : List UInt16) : Str :=
  if first then
    fmtSubslice segments
  else
    segments.flatMap fun segment => ':' :: hexText segment

theorem groupsText_cons (first : Bool) (segment : UInt16)
    (later : List UInt16) :
    groupsText first (segment :: later) =
      (if first then [] else [':']) ++
        (hexText segment ++ groupsText false later) := by
  cases first <;> rfl

theorem colon_groupsText (later : List UInt16) {rest : Str}
    (ends : EndsGroups rest) :
    groupsText false later ++ rest = [] ∨
      ∃ others, groupsText false later ++ rest = ':' :: others := by
  cases later with
  | nil =>
      rcases ends with rfl | ⟨others, rfl⟩
      · exact Or.inl rfl
      · exact Or.inr ⟨_, rfl⟩
  | cons segment later =>
      refine Or.inr ⟨hexText segment ++ (groupsText false later ++ rest), ?_⟩
      rw [groupsText_cons]
      simp

theorem endsHex_of_colon {rest : Str}
    (colon : rest = [] ∨ ∃ others, rest = ':' :: others) : EndsHex rest := by
  rcases colon with rfl | ⟨others, rfl⟩
  · exact endsHex_nil
  · exact endsHex_cons (by decide) _

theorem behind_first {Part : Type} (first : Bool)
    (read : Str → Option (Part × Str)) (text : Str) :
    behind ':' first read ((if first then [] else [':']) ++ text) =
      read text := by
  cases first <;> simp [behind]

theorem readGroups_groupsText (segments : List UInt16) {places : Nat}
    {first : Bool} {rest : Str} (enough : segments.length ≤ places)
    (ends : EndsGroups rest) :
    readGroups places first (groupsText first segments ++ rest) =
      (segments, false, rest) := by
  induction segments generalizing places first with
  | nil =>
      cases first <;> exact readGroups_stop places _ ends
  | cons segment later inductionHypothesis =>
      cases places with
      | zero => cases enough
      | succ places =>
          have colon := colon_groupsText later ends
          have next :=
            @inductionHypothesis places false
              (Nat.le_of_succ_le_succ enough)
          rw [groupsText_cons, List.append_assoc, List.append_assoc,
            readGroups]
          simp only [behind_first, readIpv4_hexText segment colon,
            readGroup_hexText segment (endsHex_of_colon colon), next,
            ite_self]

/-! ## IPv4-mapped addresses -/

theorem cut_decimalText {number : Nat} {rest : Str}
    (ends : ∀ char ∈ rest.head?, isDigit char = false) :
    (decimalText number ++ rest).takeWhile isDigit = decimalText number ∧
      (decimalText number ++ rest).dropWhile isDigit = rest := by
  have digits : ∀ char ∈ decimalText number, isDigit char = true := by
    intro char member
    have digit := isDigit_of_mem_decimalText member
    rw [isDigit_iff]
    simpa [Char.isDigit, UInt32.le_iff_toNat_le] using digit
  rw [List.takeWhile_append_of_pos digits, List.dropWhile_append_of_pos digits]
  cases rest with
  | nil => simp
  | cons char later =>
      have stop := ends char rfl
      simp [stop]

theorem readOctet_decimalText (octet : UInt8) {rest : Str}
    (ends : ∀ char ∈ rest.head?, isDigit char = false) :
    readOctet (decimalText octet.toNat ++ rest) = some (octet, rest) := by
  obtain ⟨digits, later⟩ := cut_decimalText ends
  rw [readOctet, digits, later, parseOctet_decimalText]
  rfl

theorem readIpv4_text (ip : Ipv4Addr) :
    readIpv4 ip.text.toList = some (ip, []) := by
  have dot (rest : Str) :
      ∀ char ∈ ('.' :: rest).head?, isDigit char = false := by
    intro char isHead
    cases isHead
    decide
  have nothing : ∀ char ∈ ([] : Str).head?, isDigit char = false := by
    intro char isHead
    cases isHead
  have last := readOctet_decimalText ip.d nothing
  rw [List.append_nil] at last
  rw [toList_text]
  simp [readIpv4, behind, List.intercalate_cons_cons,
    readOctet_decimalText _ (dot _), last]

/-! ## The round trip -/

theorem groups_ofParts {ip : Ipv6Addr} {head tail : List UInt16} {zeros : Nat}
    (split :
      ip.groups.toList = head ++ List.replicate zeros 0 ++ tail) :
    ofParts head tail = ip := by
  have length : head.length + zeros + tail.length = 8 := by
    have total := congrArg List.length split
    rw [Vector.length_toList] at total
    simp only [List.length_append, List.length_replicate] at total
    omega
  have left : 8 - head.length - tail.length = zeros := by omega
  obtain ⟨groups⟩ := ip
  have same : (ofParts head tail).groups = groups := by
    apply Vector.ext
    intro place small
    simp only [ofParts, Vector.getElem_ofFn, left, ← split]
    simp [List.getD_eq_getElem?_getD, small]
  rw [← same]

theorem readIpv6_fmtSubslice {ip : Ipv6Addr} :
    readIpv6 (fmtSubslice ip.groups.toList) = some (ip, []) := by
  have read :=
    @readGroups_groupsText ip.groups.toList 8 true []
      (by rw [Vector.length_toList]) (Or.inl rfl)
  rw [List.append_nil] at read
  have whole : ofParts ip.groups.toList [] = ip :=
    @groups_ofParts ip _ [] 0 (by simp)
  simp only [groupsText, if_true] at read
  simp only [readIpv6, read, Vector.length_toList, if_true, whole]

theorem readIpv6_double {ip : Ipv6Addr} {head tail : List UInt16}
    {zeros : Nat} (several : 1 < zeros)
    (split :
      ip.groups.toList = head ++ List.replicate zeros 0 ++ tail) :
    readIpv6 (fmtSubslice head ++ ':' :: ':' :: fmtSubslice tail) =
      some (ip, []) := by
  have length : head.length + zeros + tail.length = 8 := by
    have total := congrArg List.length split
    rw [Vector.length_toList] at total
    simp only [List.length_append, List.length_replicate] at total
    omega
  have front :=
    @readGroups_groupsText head 8 true (':' :: ':' :: fmtSubslice tail)
      (by omega) (Or.inr ⟨_, rfl⟩)
  have back :=
    @readGroups_groupsText tail (8 - (head.length + 1)) true [] (by omega)
      (Or.inl rfl)
  rw [List.append_nil] at back
  simp only [groupsText, if_true] at front back
  have colons :
      stripPrefix? [':', ':'] (':' :: ':' :: fmtSubslice tail) =
        some (fmtSubslice tail) := by
    simp [stripPrefix?]
  simp only [readIpv6, front, colons, back, groups_ofParts split]
  rw [if_neg (by omega)]
  rfl

theorem toIpv4Mapped_eq_some {segments : List UInt16} {ipv4 : Ipv4Addr}
    (mapped : toIpv4Mapped segments = some ipv4) :
    segments =
      List.replicate 5 0 ++
        [0xffff, UInt16.ofNat (beU16 ipv4.a ipv4.b),
          UInt16.ofNat (beU16 ipv4.c ipv4.d)] := by
  unfold toIpv4Mapped at mapped
  split at mapped
  · rename_i high low
    cases mapped
    rw [beU16_toBeU16 high.toNat_lt, beU16_toBeU16 low.toNat_lt,
      UInt16.ofNat_toNat, UInt16.ofNat_toNat]
    rfl
  · cases mapped

theorem readIpv6_mapped {ip : Ipv6Addr} {ipv4 : Ipv4Addr}
    (mapped : toIpv4Mapped ip.groups.toList = some ipv4) :
    readIpv6 ("::ffff:".toList ++ ipv4.text.toList) = some (ip, []) := by
  have written :
      "::ffff:".toList ++ ipv4.text.toList =
        ':' :: ':' :: (hexText 0xffff ++ ':' :: ipv4.text.toList) := rfl
  have front :=
    readGroups_stop 8 true
      (Or.inr ⟨hexText 0xffff ++ ':' :: ipv4.text.toList, rfl⟩)
  have colons :
      stripPrefix? [':', ':']
          (':' :: ':' :: (hexText 0xffff ++ ':' :: ipv4.text.toList)) =
        some (hexText 0xffff ++ ':' :: ipv4.text.toList) := by
    simp [stripPrefix?]
  have colon :
      ':' :: ipv4.text.toList = [] ∨
        ∃ others, ':' :: ipv4.text.toList = ':' :: others :=
    Or.inr ⟨_, rfl⟩
  have group :
      behind ':' true readIpv4 (hexText 0xffff ++ ':' :: ipv4.text.toList) =
          none ∧
        behind ':' true readGroup
            (hexText 0xffff ++ ':' :: ipv4.text.toList) =
          some (0xffff, ':' :: ipv4.text.toList) :=
    ⟨readIpv4_hexText 0xffff colon,
      readGroup_hexText 0xffff (endsHex_of_colon colon)⟩
  have address :
      behind ':' false readIpv4 (':' :: ipv4.text.toList) =
        some (ipv4, []) := by
    simp [behind, readIpv4_text]
  have back :
      readGroups 7 true (hexText 0xffff ++ ':' :: ipv4.text.toList) =
        ([0xffff, UInt16.ofNat (beU16 ipv4.a ipv4.b),
          UInt16.ofNat (beU16 ipv4.c ipv4.d)], true, []) := by
    simp [readGroups, group, address]
  have parts :=
    @groups_ofParts ip [] _ 5 (toIpv4Mapped_eq_some mapped)
  rw [written]
  simp only [readIpv6, front, colons]
  rw [if_neg (by decide)]
  simp only [List.length_nil, Nat.zero_add, back, parts]
  rfl

theorem parseIpv6_text (ip : Ipv6Addr) : parseIpv6 ip.text = some ip := by
  have read : readIpv6 ip.text = some (ip, []) := by
    unfold Ipv6Addr.text
    split
    · rename_i ipv4 mapped
      exact readIpv6_mapped mapped
    · unfold formatSegments
      split
      · rename_i several
        exact readIpv6_double several (split_scanZeros ip.groups.toList)
      · exact readIpv6_fmtSubslice
  rw [parseIpv6, read]

theorem colon_mem_fmtSubslice {segments : List UInt16}
    (several : 1 < segments.length) : ':' ∈ fmtSubslice segments := by
  match segments with
  | [] => cases several
  | [_] => cases several with | step never => cases never
  | first :: second :: later =>
      apply List.mem_append_right
      simp

theorem colon_mem_text (ip : Ipv6Addr) : ':' ∈ ip.text := by
  unfold Ipv6Addr.text
  split
  · apply List.mem_append_left
    decide
  · unfold formatSegments
    split
    · exact List.mem_append_right _ List.mem_cons_self
    · apply colon_mem_fmtSubslice
      rw [Vector.length_toList]
      decide

/-- An address is read back from its text. -/
theorem parseIpAddr_of_text (ip : IpAddr) : parseIpAddr ip.text = some ip := by
  cases ip with
  | v4 ip =>
      rw [parseIpAddr, IpAddr.text, parseIpv4_eq_some_iff.mpr rfl]
  | v6 ip =>
      have notIpv4 : parseIpv4 ip.text = none := by
        cases parsed : parseIpv4 ip.text with
        | none => rfl
        | some ipv4 =>
            rcases digit_or_dot parsed (colon_mem_text ip) with
              digit | dot
            · have plain : isDigit ':' = false := by decide
              rw [plain] at digit
              cases digit
            · cases dot
      rw [parseIpAddr, IpAddr.text, notIpv4, parseIpv6_text]
      rfl

example : (Ipv6Addr.mk #v[0x2001, 0xdb8, 0, 0, 1, 0, 0, 1]).text =
    "2001:db8::1:0:0:1".toList := by decide

end HermesAtrust.Net
