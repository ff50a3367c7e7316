import HermesAtrust.Search.LeastIndex
import Mathlib.Logic.Function.Basic

/-!
# A trie with entries at its nodes

Every key leads to a node, and a node holds the entries of its key.  Walking
along a word passes the nodes of exactly the keys the word starts with.
-/

namespace HermesAtrust.Search

universe u v

inductive Trie (α : Type u) (β : Type v) where
  | node (children : α → Option (Trie α β)) (entries : List β)

namespace Trie

variable {α : Type u} {β : Type v}

def children : Trie α β → α → Option (Trie α β)
  | node children _ => children

def entries : Trie α β → List β
  | node _ entries => entries

def empty : Trie α β :=
  node (fun _ => none) []

/-- The entries at the node of a key. -/
def entriesAt (trie : Trie α β) : List α → List β
  | [] => trie.entries
  | symbol :: key =>
      match trie.children symbol with
      | none => []
      | some child => child.entriesAt key

/-- Add an entry at the node of a key. -/
def insert [DecidableEq α] (trie : Trie α β) (entry : β) : List α → Trie α β
  | [] => node trie.children (trie.entries ++ [entry])
  | symbol :: key =>
      node
        (Function.update trie.children symbol
          (some (((trie.children symbol).getD empty).insert entry key)))
        trie.entries

/-- The entries at the nodes that a word passes, in order. -/
def entriesAlong (trie : Trie α β) : List α → List β
  | [] => trie.entries
  | symbol :: word =>
      trie.entries ++
        match trie.children symbol with
        | none => []
        | some child => child.entriesAlong word

theorem entriesAt_empty (key : List α) :
    (empty : Trie α β).entriesAt key = [] := by
  cases key <;> rfl

theorem entriesAt_getD (trie : Trie α β) (symbol : α) (key : List α) :
    ((trie.children symbol).getD empty).entriesAt key =
      trie.entriesAt (symbol :: key) := by
  rw [entriesAt]
  cases trie.children symbol with
  | none => exact entriesAt_empty key
  | some child => rfl

/-- An entry is added at its key and nowhere else. -/
theorem entriesAt_insert [DecidableEq α] (trie : Trie α β) (entry : β)
    (key other : List α) :
    (trie.insert entry key).entriesAt other =
      if other = key then trie.entriesAt other ++ [entry]
      else trie.entriesAt other := by
  induction key generalizing trie other with
  | nil =>
      cases other with
      | nil => rfl
      | cons symbol rest =>
          rw [if_neg (by simp)]
          rfl
  | cons symbol key inductionHypothesis =>
      cases other with
      | nil =>
          rw [if_neg (by simp)]
          rfl
      | cons first rest =>
          by_cases same : first = symbol
          · subst same
            have moved :
                (trie.insert entry (first :: key)).entriesAt (first :: rest) =
                  (((trie.children first).getD empty).insert entry
                    key).entriesAt rest := by
              simp [insert, entriesAt, children]
            rw [moved, inductionHypothesis, entriesAt_getD]
            simp
          · have kept :
                (trie.insert entry (symbol :: key)).entriesAt (first :: rest) =
                  trie.entriesAt (first :: rest) := by
              simp [insert, entriesAt, children, Function.update_of_ne same]
            rw [kept, if_neg (by simp [same])]

/-- A word passes the entries of its prefixes. -/
theorem mem_entriesAlong {trie : Trie α β} {word : List α} {entry : β} :
    entry ∈ trie.entriesAlong word ↔
      ∃ key, key <+: word ∧ entry ∈ trie.entriesAt key := by
  induction word generalizing trie with
  | nil =>
      simp only [List.prefix_nil, exists_eq_left]
      rfl
  | cons symbol word inductionHypothesis =>
      rw [entriesAlong, List.mem_append]
      constructor
      · intro found
        rcases found with here | below
        · exact ⟨[], List.nil_prefix, here⟩
        · cases child : trie.children symbol with
          | none => simp [child] at below
          | some subtrie =>
              simp only [child] at below
              obtain ⟨key, isPrefix, found⟩ := inductionHypothesis.mp below
              refine ⟨symbol :: key, ?_, ?_⟩
              · exact List.cons_prefix_cons.mpr ⟨rfl, isPrefix⟩
              · rw [entriesAt, child]
                exact found
      · intro found
        obtain ⟨key, isPrefix, found⟩ := found
        cases key with
        | nil => exact .inl found
        | cons first key =>
            obtain ⟨rfl, restPrefix⟩ := List.cons_prefix_cons.mp isPrefix
            right
            rw [entriesAt] at found
            cases child : trie.children first with
            | none => simp [child] at found
            | some subtrie =>
                simp only [child] at found ⊢
                exact inductionHypothesis.mpr ⟨key, restPrefix, found⟩

/-- Insert the positions of the keys of a table, from a given position on. -/
def insertAll [DecidableEq α] (trie : Trie α Nat) (first : Nat) :
    List (List α) → Trie α Nat
  | [] => trie
  | key :: later => (trie.insert first key).insertAll (first + 1) later

/-- The entries at a key are the positions where it stands in the table. -/
theorem mem_entriesAt_insertAll [DecidableEq α] {trie : Trie α Nat}
    {first index : Nat} {keys : List (List α)} {key : List α} :
    index ∈ (trie.insertAll first keys).entriesAt key ↔
      index ∈ trie.entriesAt key ∨
        ∃ offset, index = first + offset ∧ keys[offset]? = some key := by
  induction keys generalizing trie first with
  | nil => simp [insertAll]
  | cons head later inductionHypothesis =>
      rw [insertAll, inductionHypothesis, entriesAt_insert]
      constructor
      · intro found
        rcases found with old | ⟨offset, place, stored⟩
        · by_cases same : key = head
          · rw [if_pos same] at old
            rcases List.mem_append.mp old with old | new
            · exact .inl old
            · rw [List.mem_singleton] at new
              exact .inr ⟨0, by omega, by simp [same]⟩
          · rw [if_neg same] at old
            exact .inl old
        · exact .inr ⟨offset + 1, by omega, by simpa using stored⟩
      · intro found
        rcases found with old | ⟨offset, place, stored⟩
        · left
          split
          · exact List.mem_append_left _ old
          · exact old
        · cases offset with
          | zero =>
              left
              have same : head = key := by simpa using stored
              rw [if_pos same.symm]
              apply List.mem_append_right
              rw [List.mem_singleton]
              omega
          | succ offset =>
              right
              exact ⟨offset, by omega, by simpa using stored⟩

/-- The least accepted entry along a word, starting from the best so far. -/
def findAlong (accept : Nat → Bool) (trie : Trie α Nat) :
    List α → Option Nat → Option Nat
  | word, best =>
      let afterHere :=
        trie.entries.foldl
          (fun best index =>
            if best.all (index < ·) = true ∧ accept index = true then
              some index
            else
              best)
          best
      match word with
      | [] => afterHere
      | symbol :: word =>
          match trie.children symbol with
          | none => afterHere
          | some child => findAlong accept child word afterHere

theorem foldl_improve_eq (accept : Nat → Bool) (indices : List Nat)
    (best : Option Nat) :
    indices.foldl
        (fun best index =>
          if best.all (index < ·) = true ∧ accept index = true then
            some index
          else
            best)
        best =
      (indices.filter accept).foldl keepLeast best := by
  induction indices generalizing best with
  | nil => rfl
  | cons index later inductionHypothesis =>
      rw [List.foldl_cons, inductionHypothesis]
      by_cases accepted : accept index = true
      · rw [List.filter_cons_of_pos accepted, List.foldl_cons]
        congr 1
        cases best <;> simp [accepted, keepLeast]
      · rw [List.filter_cons_of_neg accepted]
        simp [accepted]

/-- A walk keeps the least accepted entry it passes. -/
theorem findAlong_eq (accept : Nat → Bool) (trie : Trie α Nat) (word : List α)
    (best : Option Nat) :
    findAlong accept trie word best =
      ((trie.entriesAlong word).filter accept).foldl keepLeast best := by
  induction word generalizing trie best with
  | nil =>
      rw [findAlong, foldl_improve_eq]
      rfl
  | cons symbol word inductionHypothesis =>
      rw [findAlong, foldl_improve_eq, entriesAlong, List.filter_append,
        List.foldl_append]
      cases trie.children symbol with
      | none => rfl
      | some child => exact inductionHypothesis child _

end Trie

end HermesAtrust.Search
