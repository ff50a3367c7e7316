import Mathlib.Data.List.Basic
import Mathlib.Data.Prod.Lex
import Mathlib.Order.Basic

/-!
# The least accepted position

A table that is sorted once can be searched in any order: a search that keeps
the least accepted position it has seen finds the first accepted row, wherever
the candidates come from.  When the table was sorted by a key and the sort is
stable, that row is the one with the least key, and among equal keys the one
that came first before sorting.
-/

namespace HermesAtrust.Search

universe u v

/-! ## Keeping the least -/

/-- Keep the lesser of the best position so far and a new one. -/
def keepLeast (best : Option Nat) (index : Nat) : Option Nat :=
  match best with
  | none => some index
  | some known => if index < known then some index else some known

theorem keepLeast_some (known index : Nat) :
    keepLeast (some known) index = some (min known index) := by
  unfold keepLeast
  by_cases less : index < known
  · simp [less, Nat.min_eq_right (Nat.le_of_lt less)]
  · simp [less, Nat.min_eq_left (Nat.le_of_not_lt less)]

theorem foldl_keepLeast_some (known : Nat) (indices : List Nat) :
    indices.foldl keepLeast (some known) = some (indices.foldl min known) := by
  induction indices generalizing known with
  | nil => rfl
  | cons index later inductionHypothesis =>
      rw [List.foldl_cons, List.foldl_cons, keepLeast_some,
        inductionHypothesis]

/-- Keeping the least through a list of positions gives its minimum. -/
theorem foldl_keepLeast_none (indices : List Nat) :
    indices.foldl keepLeast none = indices.min? := by
  cases indices with
  | nil => rfl
  | cons index later =>
      rw [List.foldl_cons, List.min?_cons']
      exact foldl_keepLeast_some index later

section Table

variable {α : Type u} {accept : α → Bool} {table : List α}

/-- Whether the row at a position is accepted. -/
def acceptAt (accept : α → Bool) (table : List α) (index : Nat) : Bool :=
  (table[index]?).any accept

theorem acceptAt_eq_true {index : Nat} :
    acceptAt accept table index = true ↔
      ∃ row, table[index]? = some row ∧ accept row = true := by
  unfold acceptAt
  cases table[index]? <;> simp

/-- The least accepted position is where the first accepted row stands. -/
theorem getElem?_min?_eq_find? {candidates : List Nat}
    (complete :
      ∀ index, index ∈ candidates ↔ acceptAt accept table index = true) :
    candidates.min?.bind (table[·]?) = table.find? accept := by
  cases found : candidates.min? with
  | none =>
      have empty : candidates = [] := List.min?_eq_none_iff.mp found
      symm
      rw [Option.bind_none, List.find?_eq_none]
      intro row member accepted
      obtain ⟨index, at_index⟩ := List.mem_iff_getElem?.mp member
      have listed :=
        (complete index).mpr (acceptAt_eq_true.mpr ⟨row, at_index, accepted⟩)
      rw [empty] at listed
      cases listed
  | some least =>
      obtain ⟨listed, lower⟩ := List.min?_eq_some_iff.mp found
      obtain ⟨row, at_least, accepted⟩ :=
        acceptAt_eq_true.mp ((complete least).mp listed)
      obtain ⟨bound, value⟩ := List.getElem?_eq_some_iff.mp at_least
      rw [Option.bind_some, at_least]
      symm
      rw [List.find?_eq_some_iff_getElem]
      refine ⟨accepted, least, bound, value, ?_⟩
      intro earlier before
      by_contra notRejected
      have acceptedEarlier : accept table[earlier] = true := by
        simpa using notRejected
      have inCandidates : earlier ∈ candidates := by
        apply (complete earlier).mpr
        apply acceptAt_eq_true.mpr
        exact ⟨table[earlier], List.getElem?_eq_getElem _, acceptedEarlier⟩
      exact absurd (lower earlier inCandidates) (Nat.not_le_of_lt before)

end Table

/-! ## Stable sorting by a key -/

section Sorting

variable {α : Type u} {κ : Type v} [LinearOrder κ]

/-- Comparison by a key. -/
def keyLE (key : α → κ) (first second : α) : Bool :=
  decide (key first ≤ key second)

theorem keyLE_trans (key : α → κ) (first second third : α)
    (lower : keyLE key first second) (upper : keyLE key second third) :
    keyLE key first third := by
  simp only [keyLE, decide_eq_true_eq] at lower upper ⊢
  exact le_trans lower upper

theorem keyLE_total (key : α → κ) (first second : α) :
    keyLE key first second || keyLE key second first := by
  simpa [keyLE] using le_total (key first) (key second)

/-- A stable sort by a key. -/
def sortByKey (key : α → κ) (rows : List α) : List α :=
  rows.mergeSort (keyLE key)

theorem sortByKey_singleton (key : α → κ) (row : α) :
    sortByKey key [row] = [row] :=
  List.mergeSort_singleton row

theorem mem_sortByKey {key : α → κ} {rows : List α} {row : α} :
    row ∈ sortByKey key rows ↔ row ∈ rows :=
  List.mem_mergeSort

theorem sortByKey_perm (key : α → κ) (rows : List α) :
    (sortByKey key rows).Perm rows :=
  List.mergeSort_perm rows _

theorem sortByKey_pairwise (key : α → κ) (rows : List α) :
    (sortByKey key rows).Pairwise fun first second => key first ≤ key second := by
  have sorted :=
    List.pairwise_mergeSort (keyLE_trans key) (keyLE_total key) rows
  exact sorted.imp fun ordered => by simpa [keyLE] using ordered

/-- The row at a position is least among the accepted rows: by the key, and
among equal keys by the position. -/
def IsLeastAt (key : α → κ) (accept : α → Bool) (rows : List α) (index : Nat)
    (row : α) : Prop :=
  rows[index]? = some row ∧ accept row = true ∧
    ∀ other otherRow, rows[other]? = some otherRow → accept otherRow = true →
      key row < key otherRow ∨ (key row = key otherRow ∧ index ≤ other)

theorem zipIdxLE_eq_true {key : α → κ} {first second : α × Nat} :
    List.zipIdxLE (keyLE key) first second = true ↔
      key first.1 < key second.1 ∨
        (key first.1 = key second.1 ∧ first.2 ≤ second.2) := by
  unfold List.zipIdxLE keyLE
  rcases lt_trichotomy (key first.1) (key second.1) with less | same | greater
  · simp [less, le_of_lt less, not_le_of_gt less]
  · simp [same]
  · simp [not_le_of_gt greater, not_lt_of_gt greater, ne_of_gt greater]

/-- The first accepted row of a table that was sorted by a key is the least
accepted row of the table as it was. -/
theorem find?_sortByKey_isLeastAt {key : α → κ} {accept : α → Bool}
    {rows : List α} {row : α}
    (found : (sortByKey key rows).find? accept = some row) :
    ∃ index, IsLeastAt key accept rows index row := by
  have marked :
      (rows.zipIdx.mergeSort (List.zipIdxLE (keyLE key))).map (·.1) =
        sortByKey key rows :=
    List.mergeSort_zipIdx
  have ordered :=
    List.pairwise_mergeSort (List.zipIdxLE_trans (keyLE_trans key))
      (List.zipIdxLE_total (keyLE_total key)) rows.zipIdx
  rw [← marked, List.find?_map, Option.map_eq_some_iff] at found
  obtain ⟨⟨stored, index⟩, pairFound, rfl⟩ := found
  obtain ⟨accepted, before, after, split, rejected⟩ :=
    List.find?_eq_some_iff_append.mp pairFound
  have listed : (stored, index) ∈ rows.zipIdx := by
    rw [← List.mem_mergeSort, split]
    simp
  refine ⟨index, List.mem_zipIdx_iff_getElem?.mp listed, accepted, ?_⟩
  intro other otherRow at_other otherAccepted
  have otherListed : (otherRow, other) ∈ rows.zipIdx :=
    List.mem_zipIdx_iff_getElem?.mpr at_other
  rw [← List.mem_mergeSort, split] at otherListed
  rw [split] at ordered
  rcases List.mem_append.mp otherListed with earlier | later
  · have notAccepted := rejected (otherRow, other) earlier
    simp [otherAccepted] at notAccepted
  · rcases List.mem_cons.mp later with same | behind
    · cases same
      exact .inr ⟨rfl, Nat.le_refl _⟩
    · have pair := (List.pairwise_append.mp ordered).2.1
      exact zipIdxLE_eq_true.mp
        ((List.pairwise_cons.mp pair).1 (otherRow, other) behind)

/-- There is one least accepted row. -/
theorem IsLeastAt.unique {key : α → κ} {accept : α → Bool} {rows : List α}
    {index other : Nat} {row otherRow : α}
    (least : IsLeastAt key accept rows index row)
    (otherLeast : IsLeastAt key accept rows other otherRow) :
    index = other ∧ row = otherRow := by
  have forth := least.2.2 other otherRow otherLeast.1 otherLeast.2.1
  have back := otherLeast.2.2 index row least.1 least.2.1
  have same : index = other := by
    rcases forth with less | ⟨equal, lower⟩
    · rcases back with greater | ⟨equal, -⟩
      · exact absurd greater (not_lt_of_gt less)
      · exact absurd equal (ne_of_gt less)
    · rcases back with greater | ⟨-, upper⟩
      · exact absurd equal (ne_of_gt greater)
      · exact Nat.le_antisymm lower upper
  refine ⟨same, ?_⟩
  have stored := least.1
  rw [same, otherLeast.1] at stored
  exact (Option.some.inj stored).symm

/-- The first accepted row of the sorted table, exactly. -/
theorem find?_sortByKey_eq_some_iff {key : α → κ} {accept : α → Bool}
    {rows : List α} {row : α} :
    (sortByKey key rows).find? accept = some row ↔
      ∃ index, IsLeastAt key accept rows index row := by
  constructor
  · exact find?_sortByKey_isLeastAt
  · intro least
    obtain ⟨index, least⟩ := least
    cases found : (sortByKey key rows).find? accept with
    | none =>
        have rejected :=
          List.find?_eq_none.mp found row
            (mem_sortByKey.mpr (List.mem_of_getElem? least.1))
        exact absurd least.2.1 rejected
    | some other =>
        obtain ⟨position, otherLeast⟩ := find?_sortByKey_isLeastAt found
        rw [(otherLeast.unique least).2]

theorem find?_sortByKey_eq_none_iff {key : α → κ} {accept : α → Bool}
    {rows : List α} :
    (sortByKey key rows).find? accept = none ↔
      ∀ row ∈ rows, accept row = false := by
  rw [List.find?_eq_none]
  constructor
  · intro rejected row member
    simpa using rejected row (mem_sortByKey.mpr member)
  · intro rejected row member
    simpa using rejected row (mem_sortByKey.mp member)

/-! ## Tables with rows that were left out -/

section LeftOut

variable {β : Type u} (read : β → Option α)

/-- The rows that can be read keep their order. -/
theorem getElem?_filterMap {sources : List β} {index : Nat} {row : α}
    (stored : (sources.filterMap read)[index]? = some row) :
    ∃ (position : Nat) (source : β), sources[position]? = some source ∧
      read source = some row ∧
      ∀ (other : Nat) otherSource otherRow, sources[other]? = some otherSource →
        read otherSource = some otherRow →
        ∃ otherIndex : Nat, (sources.filterMap read)[otherIndex]? = some otherRow ∧
          (index ≤ otherIndex → position ≤ other) := by
  induction sources generalizing index with
  | nil => simp at stored
  | cons head later inductionHypothesis =>
      cases readable : read head with
      | none =>
          rw [List.filterMap_cons_none readable] at stored
          obtain ⟨position, source, atPosition, reads, others⟩ :=
            inductionHypothesis stored
          refine ⟨position + 1, source, by simpa using atPosition, reads, ?_⟩
          intro other otherSource otherRow atOther otherReads
          rw [List.filterMap_cons_none readable]
          cases other with
          | zero =>
              cases atOther
              rw [readable] at otherReads
              cases otherReads
          | succ other =>
              obtain ⟨otherIndex, found, ordered⟩ :=
                others other otherSource otherRow (by simpa using atOther)
                  otherReads
              exact ⟨otherIndex, found, fun lower => Nat.succ_le_succ (ordered lower)⟩
      | some first =>
          rw [List.filterMap_cons_some readable] at stored ⊢
          cases index with
          | zero =>
              have same : first = row := by simpa using stored
              subst same
              refine ⟨0, head, rfl, readable, ?_⟩
              intro other otherSource otherRow atOther otherReads
              have member :
                  otherRow ∈ first :: later.filterMap read := by
                rw [← List.filterMap_cons_some readable]
                exact List.mem_filterMap.mpr
                  ⟨otherSource, List.mem_of_getElem? atOther, otherReads⟩
              obtain ⟨otherIndex, found⟩ := List.mem_iff_getElem?.mp member
              exact ⟨otherIndex, found, fun _ => Nat.zero_le other⟩
          | succ index =>
              obtain ⟨position, source, atPosition, reads, others⟩ :=
                inductionHypothesis (by simpa using stored)
              refine ⟨position + 1, source, by simpa using atPosition, reads, ?_⟩
              intro other otherSource otherRow atOther otherReads
              cases other with
              | zero =>
                  cases atOther
                  rw [readable] at otherReads
                  cases otherReads
                  exact ⟨0, rfl, fun lower => absurd lower (by omega)⟩
              | succ other =>
                  obtain ⟨otherIndex, found, ordered⟩ :=
                    others other otherSource otherRow (by simpa using atOther)
                      otherReads
                  exact ⟨otherIndex + 1, by simpa using found,
                    fun lower => Nat.succ_le_succ (ordered (by omega))⟩

/-- The least row of the readable ones, as a row of the whole table. -/
theorem IsLeastAt.of_filterMap {key : α → κ} {accept : α → Bool}
    {sources : List β} {index : Nat} {row : α}
    (least : IsLeastAt key accept (sources.filterMap read) index row) :
    ∃ (position : Nat) (source : β), sources[position]? = some source ∧
      read source = some row ∧ accept row = true ∧
      ∀ (other : Nat) otherSource otherRow, sources[other]? = some otherSource →
        read otherSource = some otherRow → accept otherRow = true →
        key row < key otherRow ∨ (key row = key otherRow ∧ position ≤ other) := by
  obtain ⟨position, source, atPosition, reads, others⟩ :=
    getElem?_filterMap read least.1
  refine ⟨position, source, atPosition, reads, least.2.1, ?_⟩
  intro other otherSource otherRow atOther otherReads accepted
  obtain ⟨otherIndex, found, ordered⟩ :=
    others other otherSource otherRow atOther otherReads
  rcases least.2.2 otherIndex otherRow found accepted with less | ⟨same, lower⟩
  · exact .inl less
  · exact .inr ⟨same, ordered lower⟩

end LeftOut

end Sorting

end HermesAtrust.Search
