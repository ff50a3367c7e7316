import Mathlib.Data.List.Basic

/-!
# Exact reads from a chunked stream

A stream delivers its items in chunks that are not empty, and then it ends.
One read takes a chunk as far as there is room for it.  An exact read repeats
this until it has as many items as it was asked for, and fails if the stream
ends before.  What an exact read returns and what it leaves depends on the
items of the stream alone, in both directions: the items in front are read, and
what was read was in front.
-/

namespace HermesAtrust.Framing

variable {α : Type}

/-- A chunk that a stream delivers at once. -/
structure Chunk (α : Type) where
  head : α
  tail : List α
  deriving DecidableEq, Repr

def Chunk.items (chunk : Chunk α) : List α :=
  chunk.head :: chunk.tail

/-- The items of a stream, in order. -/
def streamItems (stream : List (Chunk α)) : List α :=
  stream.flatMap Chunk.items

/-- The stream when a part of its first chunk is left. -/
def withRest : List α → List (Chunk α) → List (Chunk α)
  | [], later => later
  | head :: tail, later => ⟨head, tail⟩ :: later

/-- One read with room for so many items. -/
def readOnce (room : Nat) : List (Chunk α) → List α × List (Chunk α)
  | [] => ([], [])
  | chunk :: later =>
      (chunk.items.take room, withRest (chunk.items.drop room) later)

/-- Read exactly so many items; at the end of the stream nothing is left. -/
def readExact : Nat → List (Chunk α) → Option (List α) × List (Chunk α)
  | 0, stream => (some [], stream)
  | _ + 1, [] => (none, [])
  | count + 1, chunk :: later =>
      if chunk.items.length ≤ count + 1 then
        let (more, rest) := readExact (count + 1 - chunk.items.length) later
        (more.map (chunk.items ++ ·), rest)
      else
        (some (chunk.items.take (count + 1)),
          withRest (chunk.items.drop (count + 1)) later)

/-- A connected stream: what the peer sends, and what was written. -/
structure DuplexStream (α : Type) where
  incoming : List (Chunk α)
  written : List α

def DuplexStream.writeAll (stream : DuplexStream α) (items : List α) :
    DuplexStream α :=
  { stream with written := stream.written ++ items }

theorem streamItems_cons (chunk : Chunk α) (later : List (Chunk α)) :
    streamItems (chunk :: later) = chunk.items ++ streamItems later :=
  List.flatMap_cons

theorem streamItems_withRest (rest : List α) (later : List (Chunk α)) :
    streamItems (withRest rest later) = rest ++ streamItems later := by
  cases rest with
  | nil => rfl
  | cons head tail => rw [withRest, streamItems_cons, Chunk.items]

/-- What was read was in front. -/
theorem streamItems_of_readExact {count : Nat} {stream rest : List (Chunk α)}
    {taken : List α} (read : readExact count stream = (some taken, rest)) :
    taken.length = count ∧ streamItems stream = taken ++ streamItems rest := by
  induction stream generalizing count taken with
  | nil =>
      cases count with
      | zero =>
          cases read
          exact ⟨rfl, rfl⟩
      | succ count => cases read
  | cons chunk later inductionHypothesis =>
      cases count with
      | zero =>
          cases read
          exact ⟨rfl, rfl⟩
      | succ count =>
          rw [readExact] at read
          split at read
          · next whole =>
              cases continued :
                  readExact (count + 1 - chunk.items.length) later with
              | mk more left =>
                  rw [continued] at read
                  cases more with
                  | none => cases read
                  | some more =>
                      cases read
                      obtain ⟨length, items⟩ := inductionHypothesis continued
                      constructor
                      · rw [List.length_append, length]
                        omega
                      · rw [streamItems_cons, items, List.append_assoc]
          · next partly =>
              cases read
              constructor
              · rw [List.length_take]
                omega
              · rw [streamItems_withRest, streamItems_cons,
                  ← List.append_assoc, List.take_append_drop]

/-- The stream ends before the read is complete. -/
theorem readExact_short {count : Nat} {stream : List (Chunk α)}
    (short : (streamItems stream).length < count) :
    readExact count stream = (none, []) := by
  induction stream generalizing count with
  | nil =>
      cases count with
      | zero => cases short
      | succ count => rfl
  | cons chunk later inductionHypothesis =>
      rw [streamItems_cons, List.length_append] at short
      cases count with
      | zero => omega
      | succ count =>
          rw [readExact, if_pos (by omega), inductionHypothesis (by omega)]
          rfl

/-- An exact read succeeds if there are enough items. -/
theorem exists_readExact {count : Nat} {stream : List (Chunk α)}
    (enough : count ≤ (streamItems stream).length) :
    ∃ taken rest, readExact count stream = (some taken, rest) := by
  induction stream generalizing count with
  | nil =>
      cases count with
      | zero => exact ⟨[], [], rfl⟩
      | succ count => cases enough
  | cons chunk later inductionHypothesis =>
      rw [streamItems_cons, List.length_append] at enough
      cases count with
      | zero => exact ⟨[], chunk :: later, rfl⟩
      | succ count =>
          rw [readExact]
          split
          · obtain ⟨taken, rest, continued⟩ :=
              @inductionHypothesis (count + 1 - chunk.items.length) (by omega)
            rw [continued]
            exact ⟨_, _, rfl⟩
          · exact ⟨_, _, rfl⟩

/-- The items in front are read. -/
theorem readExact_of_streamItems {stream : List (Chunk α)}
    {taken later : List α} (front : streamItems stream = taken ++ later) :
    ∃ rest, readExact taken.length stream = (some taken, rest) ∧
      streamItems rest = later := by
  have enough : taken.length ≤ (streamItems stream).length := by
    rw [front, List.length_append]
    exact Nat.le_add_right _ _
  obtain ⟨found, rest, read⟩ := exists_readExact enough
  obtain ⟨length, items⟩ := streamItems_of_readExact read
  rw [front] at items
  obtain ⟨rfl, rfl⟩ := List.append_inj items length.symm
  exact ⟨rest, read, rfl⟩

end HermesAtrust.Framing
