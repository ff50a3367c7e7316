import HermesAtrust.Client.Nodes

/-!
# The forms of a host and a port

The texts that `split_host_port` reads: a host in brackets, with a port or
without one, a host before a single colon and a port, and a host without a
port, which may hold several colons.
-/

namespace HermesAtrust.Client.Nodes

open HermesAtrust.L3 HermesAtrust.Text

/-- The text denotes a port. -/
def IsPort (text : Str) (port : UInt16) : Prop :=
  parseU16 text = some port ∧ port ≠ 0

/-- The text names a host, and a port if it has one. -/
inductive Names : Str → Str → Option UInt16 → Prop where
  | bracketed {host : Str} (closed : ']' ∉ host) :
      Names ('[' :: host ++ [']']) host none
  | bracketedPort {host text : Str} {port : UInt16} (closed : ']' ∉ host)
      (isPort : IsPort text port) :
      Names ('[' :: host ++ ']' :: ':' :: text) host (some port)
  | bare {host : Str} (nonempty : host ≠ []) (plain : host.head? ≠ some '[')
      (colons : host.count ':' ≠ 1) : Names host host none
  | withPort {host text : Str} {port : UInt16} (nonempty : host ≠ [])
      (plain : host.head? ≠ some '[') (single : ':' ∉ host)
      (isPort : IsPort text port) :
      Names (host ++ ':' :: text) host (some port)

/-- Ports are written with digits, and a sign at most. -/
theorem digit_or_sign {text : Str} {port : UInt16} (isPort : IsPort text port)
    {char : Char} (member : char ∈ text) : isDigit char = true ∨ char = '+' := by
  obtain ⟨number, parsed, -⟩ := Option.map_eq_some_iff.mp isPort.1
  exact digit_or_sign_of_parseUnsigned parsed member

theorem IsPort.nonempty {text : Str} {port : UInt16}
    (isPort : IsPort text port) : text ≠ [] := by
  rintro rfl
  have parsed : parseU16 [] = none := by decide
  rw [IsPort, parsed] at isPort
  cases isPort.1

/-- What is neither a digit nor a sign is not in a port. -/
theorem IsPort.notMem {text : Str} {port : UInt16} (isPort : IsPort text port)
    {char : Char} (other : isDigit char = false ∧ char ≠ '+') :
    char ∉ text := by
  intro member
  rcases digit_or_sign isPort member with digit | sign
  · rw [other.1] at digit
    cases digit
  · exact other.2 sign

/-- A text ends with the port that it ends with. -/
theorem IsPort.mem_of_getLast {before text : Str} {port : UInt16}
    (isPort : IsPort text port) {separator char : Char}
    (last : (before ++ separator :: text).getLast? = some char) :
    char ∈ text := by
  rw [List.getLast?_append_cons, List.getLast?_cons, Option.some_inj] at last
  cases final : text.getLast? with
  | none => exact absurd (List.getLast?_eq_none_iff.mp final) isPort.nonempty
  | some other =>
      rw [final, Option.getD_some] at last
      rw [← last]
      exact List.mem_of_getLast? final

theorem colon_notMem {text : Str} {port : UInt16} (isPort : IsPort text port) :
    ':' ∉ text :=
  isPort.notMem (by decide)

/-- `split_host_port` reads the texts that name a host. -/
theorem splitHostPort_eq_some_iff {value host : Str}
    {defaultPort port : UInt16} :
    splitHostPort value defaultPort = some (host, port) ↔
      ∃ embedded, Names (trim value) host embedded ∧
        port = embedded.getD defaultPort := by
  unfold splitHostPort
  generalize trim value = text
  simp only
  constructor
  · intro split
    split at split
    · cases split
    · next nonempty =>
        split at split
        · next rest opened =>
            rw [stripPrefix?_singleton] at opened
            split at split
            · cases split
            · next inner after halves =>
                obtain ⟨closed, whole⟩ := splitOnce_eq_some_iff.mp halves
                split at split
                · next ended =>
                    cases split
                    rw [opened, whole, ended]
                    exact ⟨none, .bracketed closed, rfl⟩
                · split at split
                  · cases split
                  · next number parsed =>
                      split at split
                      · cases split
                      · next positive =>
                          cases split
                          obtain ⟨digits, stripped, isNumber⟩ :=
                            Option.bind_eq_some_iff.mp parsed
                          rw [stripPrefix?_singleton] at stripped
                          rw [opened, whole, stripped]
                          exact ⟨some port,
                            .bracketedPort closed ⟨isNumber, positive⟩, rfl⟩
        · next unopened =>
            have plain : text.head? ≠ some '[' := by
              intro opened
              obtain ⟨rest, rfl⟩ := List.head?_eq_some_iff.mp opened
              rw [stripPrefix?_singleton.mpr rfl] at unopened
              cases unopened
            split at split
            · next several =>
                cases split
                exact ⟨none, .bare nonempty plain (by omega), rfl⟩
            next few =>
              split at split
              · next unsplit =>
                  cases split
                  rw [rsplitOnce_eq_none_iff] at unsplit
                  refine ⟨none, .bare nonempty plain ?_, rfl⟩
                  rw [List.count_eq_zero.mpr unsplit]
                  exact Nat.zero_ne_one
              · next before digits halves =>
                  obtain ⟨clean, whole⟩ := rsplitOnce_eq_some_iff.mp halves
                  split at split
                  · cases split
                  · next hostNonempty =>
                      split at split
                      · cases split
                      · next number isNumber =>
                          split at split
                          · cases split
                          · next positive =>
                              cases split
                              rw [whole, List.count_append,
                                List.count_cons_self] at few
                              have single : ':' ∉ host :=
                                List.count_eq_zero.mp (by omega)
                              rw [whole]
                              refine ⟨some port, .withPort hostNonempty ?_
                                single ⟨isNumber, positive⟩, rfl⟩
                              rw [whole] at plain
                              cases host with
                              | nil => exact absurd rfl hostNonempty
                              | cons first later => exact plain
  · rintro ⟨embedded, named, rfl⟩
    cases named with
    | bracketed closed =>
        simp [splitOnce_append closed]
    | @bracketedPort _ digits number closed isPort =>
        simp [splitOnce_append closed, isPort.1, isPort.2]
    | bare nonempty plain colons =>
        have unopened : stripPrefix? ['['] host = none := by
          by_contra opened
          obtain ⟨rest, stripped⟩ := Option.ne_none_iff_exists'.mp opened
          rw [stripPrefix?_singleton.mp stripped] at plain
          exact plain rfl
        rw [if_neg nonempty, unopened]
        by_cases several : host.count ':' > 1
        · simp [several]
        · have absent : ':' ∉ host := List.count_eq_zero.mp (by omega)
          simp [several, rsplitOnce_eq_none_iff.mpr absent]
    | @withPort _ digits number nonempty plain single isPort =>
        have unopened :
            stripPrefix? ['['] (host ++ ':' :: digits) = none := by
          by_contra opened
          obtain ⟨rest, stripped⟩ := Option.ne_none_iff_exists'.mp opened
          have whole := stripPrefix?_singleton.mp stripped
          cases host with
          | nil => exact nonempty rfl
          | cons first later =>
              rw [List.cons_append, List.cons.injEq] at whole
              exact plain (by rw [whole.1]; rfl)
        have halves :
            rsplitOnce ':' (host ++ ':' :: digits) = some (host, digits) :=
          rsplitOnce_eq_some_iff.mpr ⟨colon_notMem isPort, rfl⟩
        simp [unopened, halves, nonempty, isPort.1, isPort.2,
          List.count_eq_zero.mpr single,
          List.count_eq_zero.mpr (colon_notMem isPort)]

/-! ## How a host is written -/

/-- The digits of a port. -/
def portText (port : UInt16) : Str :=
  decimalText port.toNat

theorem isPort_portText {port : UInt16} (positive : port ≠ 0) :
    IsPort (portText port) port := by
  refine ⟨?_, positive⟩
  rw [parseU16, portText, parseUnsigned_decimalText port.toNat_lt,
    Option.map_some, UInt16.ofNat_toNat]

theorem Names.ne_nil {text host : Str} {embedded : Option UInt16}
    (named : Names text host embedded) : text ≠ [] := by
  cases named with
  | bare nonempty plain colons => exact nonempty
  | bracketed closed => exact List.cons_ne_nil _ _
  | bracketedPort closed isPort => exact List.cons_ne_nil _ _
  | withPort nonempty plain single isPort =>
      exact List.append_ne_nil_of_left_ne_nil nonempty _

theorem Names.nonzero {text host : Str} {port : UInt16}
    (named : Names text host (some port)) : port ≠ 0 := by
  cases named with
  | bracketedPort closed isPort => exact isPort.2
  | withPort nonempty plain single isPort => exact isPort.2

private theorem opened {host inner digits : Str}
    (whole : '[' :: inner = host ++ ':' :: digits) (nonempty : host ≠ []) :
    host.head? = some '[' := by
  cases host with
  | nil => exact absurd rfl nonempty
  | cons first later =>
      rw [List.cons_append, List.cons.injEq] at whole
      rw [whole.1]
      rfl

/-- The last colon of a text determines what is before and behind it. -/
theorem cut_at_last_colon {host host' digits digits' : Str}
    (clean : ':' ∉ digits) (clean' : ':' ∉ digits')
    (same : host ++ ':' :: digits = host' ++ ':' :: digits') :
    host = host' ∧ digits = digits' := by
  have cut :
      rsplitOnce ':' (host ++ ':' :: digits) = some (host, digits) :=
    rsplitOnce_eq_some_iff.mpr ⟨clean, rfl⟩
  have cut' :
      rsplitOnce ':' (host ++ ':' :: digits) = some (host', digits') :=
    rsplitOnce_eq_some_iff.mpr ⟨clean', same⟩
  rw [cut] at cut'
  cases cut'
  exact ⟨rfl, rfl⟩

section

variable {host digits : Str} {port : UInt16} {embedded : Option UInt16}

theorem names_bare_iff :
    Names host host embedded ↔
      host ≠ [] ∧ host.head? ≠ some '[' ∧ host.count ':' ≠ 1 ∧
        embedded = none := by
  constructor
  · generalize whole : host = text
    nth_rewrite 2 [← whole]
    intro named
    cases named with
    | bare nonempty plain colons =>
        exact ⟨nonempty, plain, colons, rfl⟩
    | bracketed closed =>
        have lengths := congrArg List.length whole
        simp only [List.length_append, List.length_cons, List.length_nil]
          at lengths
        omega
    | bracketedPort closed isPort =>
        have lengths := congrArg List.length whole
        simp only [List.length_append, List.length_cons] at lengths
        omega
    | withPort nonempty plain single isPort =>
        have lengths := congrArg List.length whole
        simp only [List.length_append, List.length_cons] at lengths
        omega
  · rintro ⟨nonempty, plain, colons, rfl⟩
    exact .bare nonempty plain colons

theorem names_bracketed_iff :
    Names ('[' :: host ++ [']']) host embedded ↔
      ']' ∉ host ∧ embedded = none := by
  constructor
  · generalize whole : '[' :: host ++ [']'] = text
    intro named
    cases named with
    | bracketed closed => exact ⟨closed, rfl⟩
    | bare nonempty plain colons =>
        have lengths := congrArg List.length whole
        simp only [List.length_append, List.length_cons, List.length_nil]
          at lengths
        omega
    | bracketedPort closed isPort =>
        have lengths := congrArg List.length whole
        simp only [List.length_append, List.length_cons, List.length_nil]
          at lengths
        omega
    | withPort nonempty plain single isPort =>
        exact absurd (opened whole nonempty) plain
  · rintro ⟨closed, rfl⟩
    exact .bracketed closed

variable (isPort : IsPort digits port)

include isPort

theorem names_bracketedPort_iff :
    Names ('[' :: host ++ ']' :: ':' :: digits) host embedded ↔
      ']' ∉ host ∧ embedded = some port := by
  constructor
  · generalize whole : '[' :: host ++ ']' :: ':' :: digits = text
    intro named
    cases named with
    | bracketedPort closed other =>
        have same := List.append_cancel_left whole
        simp only [List.cons.injEq, true_and] at same
        rw [same, IsPort, other.1] at isPort
        exact ⟨closed, isPort.1⟩
    | bracketed closed =>
        have lengths := congrArg List.length whole
        simp only [List.length_append, List.length_cons, List.length_nil]
          at lengths
        omega
    | bare nonempty plain colons =>
        have lengths := congrArg List.length whole
        simp only [List.length_append, List.length_cons] at lengths
        omega
    | withPort nonempty plain single other =>
        exact absurd (opened whole nonempty) plain
  · rintro ⟨closed, rfl⟩
    exact .bracketedPort closed isPort

theorem names_withPort_iff :
    Names (host ++ ':' :: digits) host embedded ↔
      host ≠ [] ∧ host.head? ≠ some '[' ∧ ':' ∉ host ∧
        embedded = some port := by
  constructor
  · generalize whole : host ++ ':' :: digits = text
    intro named
    cases named with
    | withPort nonempty plain single other =>
        have same :=
          (cut_at_last_colon (colon_notMem isPort) (colon_notMem other)
            whole).2
        rw [same, IsPort, other.1] at isPort
        exact ⟨nonempty, plain, single, isPort.1⟩
    | bare nonempty plain colons =>
        have lengths := congrArg List.length whole
        simp only [List.length_append, List.length_cons] at lengths
        omega
    | bracketed closed =>
        have last := congrArg List.getLast? whole
        rw [List.getLast?_concat] at last
        exact absurd (isPort.mem_of_getLast last)
          (isPort.notMem (by decide))
    | bracketedPort closed other =>
        have cut :=
          (@cut_at_last_colon host ('[' :: host ++ [']']) digits _
            (colon_notMem isPort) (colon_notMem other)
            (by simpa using whole)).1
        have lengths := congrArg List.length cut
        simp only [List.length_append, List.length_cons, List.length_nil]
          at lengths
        omega
  · rintro ⟨nonempty, plain, single, rfl⟩
    exact .withPort nonempty plain single isPort

end

end HermesAtrust.Client.Nodes
