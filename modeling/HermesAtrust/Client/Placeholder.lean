import HermesAtrust.Client.Nodes
import Mathlib.Data.List.Infix

/-!
# The placeholder for the gateway

An advertised address may hold a placeholder, in the place of which
`resolve_node_address` puts the host of the gateway.  None of the characters
that separate a host from a port, and no white space, is in the placeholder;
the host of a gateway is not empty and has no white space either.
-/

namespace HermesAtrust.Client.Nodes

open HermesAtrust.Client.Replacement (GatewayEndpoint)
open HermesAtrust.Text

/-! ## Replacing a pattern -/

section

variable {pattern new : Str}

/-- An occurrence of the pattern ends before a character that is not in it. -/
theorem prefix_append_cons_iff {char : Char} (absent : char ∉ pattern)
    {before after : Str} :
    pattern <+: before ++ char :: after ↔ pattern <+: before := by
  constructor
  · rintro ⟨tail, split⟩
    rcases List.append_eq_append_iff.mp split with
      ⟨between, inside, -⟩ | ⟨later, whole, rest⟩
    · exact ⟨between, inside.symm⟩
    · cases later with
      | nil => exact ⟨[], by simpa using whole⟩
      | cons first others =>
          rw [List.cons_append, List.cons.injEq] at rest
          exact absurd (by rw [whole, rest.1]; simp) absent
  · intro occurs
    exact occurs.trans (List.prefix_append _ _)

theorem replaceAll_nil : replaceAll pattern new 0 [] = [] := by
  rw [replaceAll]

theorem replaceAll_cons_occurs {char : Char} {later : Str}
    (occurs : pattern <+: char :: later) :
    replaceAll pattern new 0 (char :: later) =
      new ++ replaceAll pattern new (pattern.length - 1) later := by
  rw [replaceAll, if_pos (List.isPrefixOf_iff_prefix.mpr occurs)]

theorem replaceAll_cons_other {char : Char} {later : Str}
    (other : ¬ pattern <+: char :: later) :
    replaceAll pattern new 0 (char :: later) =
      char :: replaceAll pattern new 0 later := by
  rw [replaceAll,
    if_neg fun found => other (List.isPrefixOf_iff_prefix.mp found)]

variable (nonempty : pattern ≠ [])

include nonempty

/-- The texts around a character that is not in the pattern are independent. -/
theorem replaceAll_append_cons {char : Char} (absent : char ∉ pattern)
    {before : Str} (after : Str) {skipped : Nat}
    (within : skipped ≤ before.length) :
    replaceAll pattern new skipped (before ++ char :: after) =
      replaceAll pattern new skipped before ++
        char :: replaceAll pattern new 0 after := by
  induction before generalizing skipped with
  | nil =>
      cases Nat.le_zero.mp within
      have other : ¬ pattern <+: [] ++ char :: after := by
        rw [prefix_append_cons_iff absent, List.prefix_nil]
        exact nonempty
      rw [List.nil_append] at other
      rw [List.nil_append, replaceAll_cons_other other, replaceAll,
        List.nil_append]
  | cons first later inductionHypothesis =>
      cases skipped with
      | succ skipped =>
          rw [List.cons_append, replaceAll, replaceAll]
          exact inductionHypothesis (Nat.le_of_succ_le_succ within)
      | zero =>
          have same :
              pattern <+: first :: (later ++ char :: after) ↔
                pattern <+: first :: later :=
            @prefix_append_cons_iff pattern char absent (first :: later) after
          rw [List.cons_append]
          by_cases occurs : pattern <+: first :: later
          · have short : pattern.length ≤ later.length + 1 := occurs.length_le
            rw [replaceAll_cons_occurs occurs,
              replaceAll_cons_occurs (same.mpr occurs),
              inductionHypothesis (by omega), List.append_assoc]
          · rw [replaceAll_cons_other occurs,
              replaceAll_cons_other (mt same.mp occurs),
              inductionHypothesis (Nat.zero_le _), List.cons_append]

omit nonempty

/-- Text without one of the characters of the pattern stays as it is. -/
theorem replaceAll_of_notMem {char : Char} (inPattern : char ∈ pattern)
    {text : Str} (absent : char ∉ text) :
    replaceAll pattern new 0 text = text := by
  induction text with
  | nil => exact replaceAll_nil
  | cons first later inductionHypothesis =>
      have other : ¬ pattern <+: first :: later :=
        fun occurs => absent (occurs.subset inPattern)
      rw [replaceAll_cons_other other,
        inductionHypothesis fun member =>
          absent (List.mem_cons_of_mem _ member)]

/-- The first character is that of the text or of what replaces. -/
theorem head_replaceAll {text : Str} (present : new ≠ []) {char : Char}
    (first : (replaceAll pattern new 0 text).head? = some char) :
    text.head? = some char ∨ char ∈ new := by
  cases text with
  | nil =>
      rw [replaceAll_nil] at first
      cases first
  | cons start later =>
      by_cases occurs : pattern <+: start :: later
      · rw [replaceAll_cons_occurs occurs,
          List.head?_append_of_ne_nil _ present] at first
        exact .inr (List.mem_of_mem_head? first)
      · rw [replaceAll_cons_other occurs] at first
        exact .inl first

/-- Nothing but the empty text becomes empty. -/
theorem replaceAll_eq_nil_iff {text : Str} (present : new ≠ []) :
    replaceAll pattern new 0 text = [] ↔ text = [] := by
  constructor
  · intro empty
    cases text with
    | nil => rfl
    | cons start later =>
        by_cases occurs : pattern <+: start :: later
        · rw [replaceAll_cons_occurs occurs] at empty
          exact absurd (List.append_eq_nil_iff.mp empty).1 present
        · rw [replaceAll_cons_other occurs] at empty
          cases empty
  · rintro rfl
    exact replaceAll_nil

/-- The last character is that of the text or of what replaces. -/
theorem getLast_replaceAll {text : Str} (present : new ≠ []) {skipped : Nat}
    {char : Char}
    (last : (replaceAll pattern new skipped text).getLast? = some char) :
    text.getLast? = some char ∨ char ∈ new := by
  induction text generalizing skipped with
  | nil =>
      rw [replaceAll] at last
      cases last
  | cons start later inductionHypothesis =>
      have fromLater :
          ∀ {count}, (replaceAll pattern new count later).getLast? = some char →
            (start :: later).getLast? = some char ∨ char ∈ new := by
        intro count lastLater
        rcases inductionHypothesis lastLater with inText | inNew
        · left
          rw [List.getLast?_cons, inText, Option.getD_some]
        · exact .inr inNew
      cases skipped with
      | succ skipped =>
          rw [replaceAll] at last
          exact fromLater last
      | zero =>
          by_cases occurs : pattern <+: start :: later
          · rw [replaceAll_cons_occurs occurs, List.getLast?_append,
              Option.or_eq_some_iff] at last
            rcases last with lastLater | ⟨-, lastNew⟩
            · exact fromLater lastLater
            · exact .inr (List.mem_of_getLast? lastNew)
          · rw [replaceAll_cons_other occurs, List.getLast?_cons,
              Option.some_inj] at last
            cases rest : (replaceAll pattern new 0 later).getLast? with
            | some other =>
                rw [rest, Option.getD_some] at last
                rw [last] at rest
                exact fromLater rest
            | none =>
                have ended : later = [] :=
                  (replaceAll_eq_nil_iff present).mp
                    (List.getLast?_eq_none_iff.mp rest)
                rw [rest, Option.getD_none] at last
                rw [ended, last]
                exact .inl rfl

end

/-! ## The host of the gateway -/

inductive EndpointError where
  | emptyHost
  | hostContainsScheme
  | whitespaceInHost
  | zeroPort
  deriving DecidableEq, Repr

/-- The texts of the errors. -/
def EndpointError.message : EndpointError → String
  | .emptyHost => "host must not be empty"
  | .hostContainsScheme => "host must not include a URL scheme"
  | .whitespaceInHost => "host must not contain whitespace"
  | .zeroPort => "port must not be zero"

/-- `validate_host`. -/
def validateHost (host : Str) : Except EndpointError Unit :=
  if host = [] then
    .error .emptyHost
  else if host.any isWhitespace then
    .error .whitespaceInHost
  else
    .ok ()

/-- `GatewayEndpoint::new`. -/
def newGatewayEndpoint (host : Str) (port : UInt16) :
    Except EndpointError GatewayEndpoint :=
  match validateHost host with
  | .error error => .error error
  | .ok () =>
      if "://".toList <:+: host then
        .error .hostContainsScheme
      else if port = 0 then
        .error .zeroPort
      else
        .ok ⟨String.ofList host, port⟩

/-- The text with the host of the gateway in the place of the placeholder. -/
def substituted (gateway : GatewayEndpoint) (text : Str) : Str :=
  replaceAll sdpcHostPlaceholder gateway.host.toList 0 text

section

variable {host : Str} {port : UInt16} {gateway : GatewayEndpoint}

theorem host_of_newGatewayEndpoint
    (created : newGatewayEndpoint host port = .ok gateway) :
    gateway.host.toList ≠ [] ∧
      ∀ char ∈ gateway.host.toList, isWhitespace char = false := by
  unfold newGatewayEndpoint validateHost at created
  split at created
  · cases created
  · next valid =>
      split at valid
      · cases valid
      · next nonempty =>
          split at valid
          · cases valid
          · next visible =>
              split at created
              · cases created
              · split at created
                · cases created
                · cases created
                  rw [String.toList_ofList]
                  refine ⟨nonempty, ?_⟩
                  intro char member
                  by_contra blank
                  apply visible
                  apply List.any_eq_true.mpr
                  exact ⟨char, member, Bool.eq_true_of_not_eq_false blank⟩

theorem sdpcHostPlaceholder_ne_nil : sdpcHostPlaceholder ≠ [] := by
  decide

theorem substituted_append_cons {char : Char}
    (absent : char ∉ sdpcHostPlaceholder) (before after : Str) :
    substituted gateway (before ++ char :: after) =
      substituted gateway before ++ char :: substituted gateway after :=
  replaceAll_append_cons sdpcHostPlaceholder_ne_nil absent after
    (Nat.zero_le _)

theorem substituted_cons {char : Char} (absent : char ∉ sdpcHostPlaceholder)
    (after : Str) :
    substituted gateway (char :: after) =
      char :: substituted gateway after := by
  have split := @substituted_append_cons gateway _ absent [] after
  exact split

/-- Text without braces stays as it is. -/
theorem substituted_eq_self {text : Str} (absent : '\x7b' ∉ text) :
    substituted gateway text = text := by
  have inPattern : '\x7b' ∈ sdpcHostPlaceholder := by decide
  exact replaceAll_of_notMem inPattern absent

/-- White space is not in the placeholder. -/
theorem notMem_placeholder_of_whitespace {char : Char}
    (blank : isWhitespace char = true) : char ∉ sdpcHostPlaceholder := by
  intro member
  have visible :
      sdpcHostPlaceholder.all (fun char => !isWhitespace char) = true := by
    decide
  have shown := List.all_eq_true.mp visible char member
  rw [blank] at shown
  cases shown

variable (created : newGatewayEndpoint host port = .ok gateway)

include created

theorem substituted_eq_nil_iff {text : Str} :
    substituted gateway text = [] ↔ text = [] :=
  replaceAll_eq_nil_iff (host_of_newGatewayEndpoint created).1

theorem head_substituted {text : Str}
    (front : ∀ char, text.head? = some char → isWhitespace char = false)
    {char : Char} (first : (substituted gateway text).head? = some char) :
    isWhitespace char = false := by
  obtain ⟨present, visible⟩ := host_of_newGatewayEndpoint created
  rcases head_replaceAll present first with inText | inHost
  · exact front char inText
  · exact visible char inHost

/-- What is trimmed remains so. -/
theorem trim_substituted (text : Str) :
    trim (substituted gateway (trim text)) =
      substituted gateway (trim text) := by
  obtain ⟨present, visible⟩ := host_of_newGatewayEndpoint created
  apply trim_of_ends
  · intro char first
    exact head_substituted created (fun _ inText => head_trim inText) first
  · intro char last
    rcases getLast_replaceAll present last with inText | inHost
    · exact getLast_trim inText
    · exact visible char inHost

end

end HermesAtrust.Client.Nodes
