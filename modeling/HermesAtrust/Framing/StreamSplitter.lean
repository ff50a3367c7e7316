import Mathlib.Data.List.Basic

/-!
# Splitting a byte stream into frames

A splitter looks at the front of a buffer and answers that it needs more
input, that the buffer is malformed, or that a frame occupies a prefix of a
given length.  A reader appends what it receives to a pending buffer, splits
frames off its front and hands each to a stateful handler, which may itself
end the reader.

The only assumption is *stability*: an answer other than "need more" is not
revised by bytes that arrive later, and a frame takes at least one and at most
all of the bytes present.  Under it the outcome of a reader is a function of
the stream alone: the cut of the stream into received chunks is invisible.
-/

namespace HermesAtrust.Framing

universe u

variable {α F E R : Type} {σ : Type u}

/-- Answer of a splitter about the front of a buffer. -/
inductive SplitResult (F E : Type) where
  | needMore
  | frame (decoded : F) (consumed : Nat)
  | failed (error : E)
  deriving DecidableEq, Repr

/-- Answers survive later input, and frames fit the buffer they came from. -/
structure StableSplitter (split : List α → SplitResult F E) : Prop where
  consumed_pos :
    ∀ {buffer decoded consumed},
      split buffer = .frame decoded consumed → 0 < consumed
  consumed_le :
    ∀ {buffer decoded consumed},
      split buffer = .frame decoded consumed → consumed ≤ buffer.length
  frame_append :
    ∀ {buffer decoded consumed} (rest : List α),
      split buffer = .frame decoded consumed →
        split (buffer ++ rest) = .frame decoded consumed
  failed_append :
    ∀ {buffer error} (rest : List α),
      split buffer = .failed error → split (buffer ++ rest) = .failed error

/-- Why a drain loop returned. -/
inductive DrainEnd (E R : Type) where
  | needMore
  | failed (error : E)
  | stopped (reason : R)
  | outOfFuel
  deriving DecidableEq, Repr

/-- Handler state, undecoded bytes and cause at the end of a drain loop. -/
structure Drained (σ : Type u) (α E R : Type) where
  state : σ
  remainder : List α
  ending : DrainEnd E R

/-- Split frames off the buffer while they are complete, handing each one and
its length to the handler. -/
def drainFuel
    (split : List α → SplitResult F E)
    (handle : σ → F → Nat → σ × Option R) :
    Nat → σ → List α → Drained σ α E R
  | 0, state, buffer => ⟨state, buffer, .outOfFuel⟩
  | fuel + 1, state, buffer =>
      match split buffer with
      | .needMore => ⟨state, buffer, .needMore⟩
      | .failed error => ⟨state, buffer, .failed error⟩
      | .frame decoded consumed =>
          match handle state decoded consumed with
          | (next, none) =>
              drainFuel split handle fuel next (buffer.drop consumed)
          | (next, some reason) =>
              ⟨next, buffer.drop consumed, .stopped reason⟩

/-- The drain loop.  A stable splitter takes at least one byte per turn, so
one turn more than there are bytes is enough. -/
def drain
    (split : List α → SplitResult F E)
    (handle : σ → F → Nat → σ × Option R)
    (state : σ) (buffer : List α) : Drained σ α E R :=
  drainFuel split handle (buffer.length + 1) state buffer

section Stable

variable {split : List α → SplitResult F E}
  {handle : σ → F → Nat → σ × Option R}

/-- Continue a finished drain with bytes received afterwards. -/
def Drained.resume
    (split : List α → SplitResult F E)
    (handle : σ → F → Nat → σ × Option R)
    (drained : Drained σ α E R) (rest : List α) : Drained σ α E R :=
  match drained.ending with
  | .needMore => drain split handle drained.state (drained.remainder ++ rest)
  | ending => ⟨drained.state, drained.remainder ++ rest, ending⟩

private theorem drop_length_lt
    (stable : StableSplitter split) {buffer : List α}
    {decoded : F} {consumed : Nat}
    (found : split buffer = .frame decoded consumed) :
    (buffer.drop consumed).length < buffer.length := by
  have positive := stable.consumed_pos found
  have bounded := stable.consumed_le found
  rw [List.length_drop]
  omega

/-- Two fuels that exceed the buffer length give the same outcome. -/
theorem drainFuel_congr
    (stable : StableSplitter split) (state : σ) (buffer : List α)
    {fuel fuel' : Nat}
    (enough : buffer.length < fuel) (enough' : buffer.length < fuel') :
    drainFuel split handle fuel state buffer =
      drainFuel split handle fuel' state buffer := by
  induction fuel generalizing fuel' state buffer with
  | zero =>
      omega
  | succ fuel inductionHypothesis =>
      cases fuel' with
      | zero =>
          omega
      | succ fuel' =>
          simp only [drainFuel]
          cases answer : split buffer with
          | needMore => rfl
          | failed error => rfl
          | frame decoded consumed =>
              have shorter := drop_length_lt stable answer
              rcases handled : handle state decoded consumed with
                ⟨next, _ | reason⟩
              · simp only [handled]
                exact
                  inductionHypothesis next (buffer.drop consumed)
                    (by omega) (by omega)
              · simp only [handled]

/-- One turn of the drain loop, with the fuel out of sight. -/
theorem drain_eq
    (stable : StableSplitter split) (state : σ) (buffer : List α) :
    drain split handle state buffer =
      match split buffer with
      | .needMore => ⟨state, buffer, .needMore⟩
      | .failed error => ⟨state, buffer, .failed error⟩
      | .frame decoded consumed =>
          match handle state decoded consumed with
          | (next, none) => drain split handle next (buffer.drop consumed)
          | (next, some reason) =>
              ⟨next, buffer.drop consumed, .stopped reason⟩ := by
  rw [drain, drainFuel]
  cases answer : split buffer with
  | needMore => rfl
  | failed error => rfl
  | frame decoded consumed =>
      have shorter := drop_length_lt stable answer
      rcases handled : handle state decoded consumed with
        ⟨next, _ | reason⟩
      · simp only [handled]
        exact
          drainFuel_congr stable next (buffer.drop consumed)
            shorter (Nat.lt_succ_self _)
      · simp only [handled]

theorem drain_needMore
    (stable : StableSplitter split) (state : σ) {buffer : List α}
    (answer : split buffer = .needMore) :
    drain split handle state buffer = ⟨state, buffer, .needMore⟩ := by
  rw [drain_eq stable, answer]

theorem drain_failed
    (stable : StableSplitter split) (state : σ) {buffer : List α} {error : E}
    (answer : split buffer = .failed error) :
    drain split handle state buffer = ⟨state, buffer, .failed error⟩ := by
  rw [drain_eq stable, answer]

theorem drain_continue
    (stable : StableSplitter split) {state next : σ} {buffer : List α}
    {decoded : F} {consumed : Nat}
    (answer : split buffer = .frame decoded consumed)
    (handled : handle state decoded consumed = (next, none)) :
    drain split handle state buffer =
      drain split handle next (buffer.drop consumed) := by
  rw [drain_eq stable, answer]
  simp only [handled]

theorem drain_stopped
    (stable : StableSplitter split) {state next : σ} {buffer : List α}
    {decoded : F} {consumed : Nat} {reason : R}
    (answer : split buffer = .frame decoded consumed)
    (handled : handle state decoded consumed = (next, some reason)) :
    drain split handle state buffer =
      ⟨next, buffer.drop consumed, .stopped reason⟩ := by
  rw [drain_eq stable, answer]
  simp only [handled]

/-- Every drain loop terminates: it never runs out of turns. -/
theorem drain_ending_ne_outOfFuel
    (stable : StableSplitter split) (state : σ) (buffer : List α) :
    (drain split handle state buffer).ending ≠ .outOfFuel := by
  induction length : buffer.length using Nat.strongRecOn
    generalizing state buffer with
  | ind length inductionHypothesis =>
      cases answer : split buffer with
      | needMore => simp [drain_needMore stable state answer]
      | failed error => simp [drain_failed stable state answer]
      | frame decoded consumed =>
          have shorter := drop_length_lt stable answer
          rcases handled : handle state decoded consumed with
            ⟨next, _ | reason⟩
          · rw [drain_continue stable answer handled]
            exact inductionHypothesis _ (by omega) next _ rfl
          · simp [drain_stopped stable answer handled]

/-- Bytes that arrive later resume a drain exactly where it stood. -/
theorem drain_append
    (stable : StableSplitter split) (state : σ) (buffer rest : List α) :
    drain split handle state (buffer ++ rest) =
      (drain split handle state buffer).resume split handle rest := by
  induction length : buffer.length using Nat.strongRecOn
    generalizing state buffer with
  | ind length inductionHypothesis =>
      cases answer : split buffer with
      | needMore =>
          rw [drain_needMore stable state answer, Drained.resume]
      | failed error =>
          rw [drain_failed stable state answer,
            drain_failed stable state (stable.failed_append rest answer),
            Drained.resume]
      | frame decoded consumed =>
          have shorter := drop_length_lt stable answer
          have bounded := stable.consumed_le answer
          have extended := stable.frame_append rest answer
          have dropped :
              (buffer ++ rest).drop consumed = buffer.drop consumed ++ rest :=
            List.drop_append_of_le_length bounded
          rcases handled : handle state decoded consumed with
            ⟨next, _ | reason⟩
          · rw [drain_continue stable answer handled,
              drain_continue stable extended handled, dropped]
            exact inductionHypothesis _ (by omega) next _ rfl
          · rw [drain_stopped stable answer handled,
              drain_stopped stable extended handled, dropped,
              Drained.resume]

end Stable

/-! ## Handlers that only gather -/

/-- Handler that appends what each frame contributes and stops as the frame
says. -/
def gather {β : Type} (output : F → List β) (stop : F → Option R)
    (gathered : List β) (decoded : F) (_ : Nat) : List β × Option R :=
  (gathered ++ output decoded, stop decoded)

section Gathering

variable {β Q : Type} {split : List α → SplitResult F E}
  {output : F → List β} {stop : F → Option R}

/-- What was gathered before does not influence a drain. -/
theorem drain_gather
    (stable : StableSplitter split) (gathered : List β) (buffer : List α) :
    drain split (gather output stop) gathered buffer =
      ⟨gathered ++ (drain split (gather output stop) [] buffer).state,
        (drain split (gather output stop) [] buffer).remainder,
        (drain split (gather output stop) [] buffer).ending⟩ := by
  induction length : buffer.length using Nat.strongRecOn
    generalizing gathered buffer with
  | ind length inductionHypothesis =>
      cases answer : split buffer with
      | needMore => simp [drain_needMore stable _ answer]
      | failed error => simp [drain_failed stable _ answer]
      | frame decoded consumed =>
          have shorter := drop_length_lt stable answer
          cases stopped : stop decoded with
          | none =>
              have continues (before : List β) :
                  gather output stop before decoded consumed =
                    (before ++ output decoded, none) := by
                simp [gather, stopped]
              rw [drain_continue stable answer (continues gathered),
                drain_continue stable answer (continues []),
                inductionHypothesis _ (by omega) (gathered ++ output decoded)
                  _ rfl,
                inductionHypothesis _ (by omega) ([] ++ output decoded) _ rfl]
              simp
          | some reason =>
              have stops (before : List β) :
                  gather output stop before decoded consumed =
                    (before ++ output decoded, some reason) := by
                simp [gather, stopped]
              rw [drain_stopped stable answer (stops gathered),
                drain_stopped stable answer (stops [])]
              simp

/-- Two levels of stopping.  A drain that passes over the same silent frames
as a finer drain, and acts on each frame the finer one stops at, goes on where
the finer one stopped. -/
theorem drain_gather_finer
    (stable : StableSplitter split) (found : F → Option Q)
    (contribution : Q → List β) (verdict : Q → Option R)
    (silent : ∀ decoded, found decoded = none →
      output decoded = [] ∧ stop decoded = none)
    (loud : ∀ decoded result, found decoded = some result →
      output decoded = contribution result ∧ stop decoded = verdict result)
    (gathered : List β) (buffer : List α) :
    let finer :=
      drain split (gather (fun _ => ([] : List β)) found) [] buffer
    drain split (gather output stop) gathered buffer =
      match finer.ending with
      | .needMore => ⟨gathered, finer.remainder, .needMore⟩
      | .failed error => ⟨gathered, finer.remainder, .failed error⟩
      | .outOfFuel => ⟨gathered, finer.remainder, .outOfFuel⟩
      | .stopped result =>
          match verdict result with
          | none =>
              drain split (gather output stop)
                (gathered ++ contribution result) finer.remainder
          | some reason =>
              ⟨gathered ++ contribution result, finer.remainder,
                .stopped reason⟩ := by
  induction length : buffer.length using Nat.strongRecOn
    generalizing buffer with
  | ind length inductionHypothesis =>
      cases answer : split buffer with
      | needMore => simp [drain_needMore stable _ answer]
      | failed error => simp [drain_failed stable _ answer]
      | frame decoded consumed =>
          have shorter := drop_length_lt stable answer
          cases search : found decoded with
          | none =>
              obtain ⟨nothing, goesOn⟩ := silent decoded search
              have coarse :
                  gather output stop gathered decoded consumed =
                    (gathered, none) := by
                simp [gather, nothing, goesOn]
              have fine :
                  gather (fun _ => ([] : List β)) found [] decoded consumed =
                    ([], none) := by
                simp [gather, search]
              rw [drain_continue stable answer coarse,
                drain_continue stable answer fine]
              exact inductionHypothesis _ (by omega) _ rfl
          | some result =>
              obtain ⟨same, decided⟩ := loud decoded result search
              have fine :
                  gather (fun _ => ([] : List β)) found [] decoded consumed =
                    ([], some result) := by
                simp [gather, search]
              rw [drain_stopped stable answer fine]
              simp only
              cases outcome : verdict result with
              | none =>
                  have coarse :
                      gather output stop gathered decoded consumed =
                        (gathered ++ contribution result, none) := by
                    simp [gather, same, decided, outcome]
                  rw [drain_continue stable answer coarse]
              | some reason =>
                  have coarse :
                      gather output stop gathered decoded consumed =
                        (gathered ++ contribution result, some reason) := by
                    simp [gather, same, decided, outcome]
                  rw [drain_stopped stable answer coarse]

end Gathering

/-! ## Reading in chunks -/

/-- Why a reader returned, or `awaiting` when the chunks received so far are
used up and it waits for the next one. -/
inductive ReadEnd (E R : Type) where
  | awaiting
  | failed (error : E)
  | stopped (reason : R)
  | overflow
  | endOfStream
  | outOfFuel
  deriving DecidableEq, Repr

/-- Handler state, pending bytes, chunks not read and cause at the end of a
reader. -/
structure ReadResult (σ : Type u) (α E R : Type) where
  state : σ
  pending : List α
  unread : List (List α)
  ending : ReadEnd E R

/-- Drain the pending bytes, refuse to go on with more than `limit` of them
left over, then append the next chunk.  An empty chunk is the end of the
stream. -/
def readLoop
    (split : List α → SplitResult F E)
    (handle : σ → F → Nat → σ × Option R) (limit : Nat) :
    σ → List α → List (List α) → ReadResult σ α E R
  | state, pending, chunks =>
      let drained := drain split handle state pending
      match drained.ending with
      | .failed error =>
          ⟨drained.state, drained.remainder, chunks, .failed error⟩
      | .stopped reason =>
          ⟨drained.state, drained.remainder, chunks, .stopped reason⟩
      | .outOfFuel => ⟨drained.state, drained.remainder, chunks, .outOfFuel⟩
      | .needMore =>
          if limit < drained.remainder.length then
            ⟨drained.state, drained.remainder, chunks, .overflow⟩
          else
            match chunks with
            | [] => ⟨drained.state, drained.remainder, [], .awaiting⟩
            | [] :: later =>
                ⟨drained.state, drained.remainder, later, .endOfStream⟩
            | (head :: tail) :: later =>
                readLoop split handle limit drained.state
                  (drained.remainder ++ head :: tail) later

/-- The cause of a reader that has been handed the whole stream at once. -/
def DrainEnd.toReadEnd : DrainEnd E R → ReadEnd E R
  | .needMore => .awaiting
  | .failed error => .failed error
  | .stopped reason => .stopped reason
  | .outOfFuel => .outOfFuel

section StableReader

variable {split : List α → SplitResult F E}
  {handle : σ → F → Nat → σ × Option R} {limit : Nat}

/-- A reader that never has to refuse its backlog behaves as one drain of the
whole stream: same handler state, same cause, same undecoded bytes. -/
theorem readLoop_eq_drain
    (stable : StableSplitter split) (state : σ) (pending : List α)
    (chunks : List (List α)) (nonempty : ∀ chunk ∈ chunks, chunk ≠ [])
    (fits :
      (readLoop split handle limit state pending chunks).ending ≠ .overflow) :
    let read := readLoop split handle limit state pending chunks
    let whole := drain split handle state (pending ++ chunks.flatten)
    read.state = whole.state ∧
      read.pending ++ read.unread.flatten = whole.remainder ∧
      read.ending = whole.ending.toReadEnd ∧
      (read.ending = .awaiting → read.unread = []) := by
  induction chunks generalizing state pending with
  | nil =>
      rw [readLoop] at fits ⊢
      simp only [List.flatten_nil, List.append_nil] at fits ⊢
      cases ending : (drain split handle state pending).ending with
      | needMore =>
          simp only [ending] at fits ⊢
          by_cases backlog :
              limit < (drain split handle state pending).remainder.length
          · simp [backlog] at fits
          · simp [backlog, DrainEnd.toReadEnd]
      | failed error => simp [DrainEnd.toReadEnd]
      | stopped reason => simp [DrainEnd.toReadEnd]
      | outOfFuel => simp [DrainEnd.toReadEnd]
  | cons chunk later inductionHypothesis =>
      have resumed :
          drain split handle state (pending ++ (chunk :: later).flatten) =
            (drain split handle state pending).resume split handle
              (chunk :: later).flatten :=
        drain_append stable state pending (chunk :: later).flatten
      unfold readLoop at fits ⊢
      cases ending : (drain split handle state pending).ending with
      | needMore =>
          simp only [ending] at fits ⊢
          by_cases backlog :
              limit < (drain split handle state pending).remainder.length
          · simp [backlog] at fits
          · simp only [backlog, if_false] at fits ⊢
            cases chunk with
            | nil => exact absurd rfl (nonempty [] (by simp))
            | cons head tail =>
                simp only at fits ⊢
                have laterNonempty : ∀ chunk ∈ later, chunk ≠ [] :=
                  fun chunk member =>
                    nonempty chunk (List.mem_cons_of_mem _ member)
                have continued :=
                  inductionHypothesis _ _ laterNonempty fits
                rw [resumed, Drained.resume]
                simpa only [ending, List.flatten_cons, List.append_assoc]
                  using continued
      | failed error =>
          rw [resumed, Drained.resume]
          simp [ending, DrainEnd.toReadEnd]
      | stopped reason =>
          rw [resumed, Drained.resume]
          simp [ending, DrainEnd.toReadEnd]
      | outOfFuel =>
          rw [resumed, Drained.resume]
          simp [ending, DrainEnd.toReadEnd]

/-- The cut of one stream into chunks is invisible to the handler, to the
cause of the end and to the bytes left undecoded. -/
theorem readLoop_chunks_congr
    (stable : StableSplitter split) (state : σ)
    {chunks chunks' : List (List α)}
    (same : chunks.flatten = chunks'.flatten)
    (nonempty : ∀ chunk ∈ chunks, chunk ≠ [])
    (nonempty' : ∀ chunk ∈ chunks', chunk ≠ [])
    (fits : (readLoop split handle limit state [] chunks).ending ≠ .overflow)
    (fits' :
      (readLoop split handle limit state [] chunks').ending ≠ .overflow) :
    let read := readLoop split handle limit state [] chunks
    let read' := readLoop split handle limit state [] chunks'
    read.state = read'.state ∧
      read.ending = read'.ending ∧
      read.pending ++ read.unread.flatten =
        read'.pending ++ read'.unread.flatten ∧
      (read.ending = .awaiting → read.pending = read'.pending) := by
  have first := readLoop_eq_drain stable state [] chunks nonempty fits
  have second := readLoop_eq_drain stable state [] chunks' nonempty' fits'
  simp only [same] at first
  obtain ⟨firstState, firstBytes, firstEnding, firstUnread⟩ := first
  obtain ⟨secondState, secondBytes, secondEnding, secondUnread⟩ := second
  have sameEnding := firstEnding.trans secondEnding.symm
  have sameBytes := firstBytes.trans secondBytes.symm
  refine ⟨firstState.trans secondState.symm, sameEnding, sameBytes, ?_⟩
  intro waiting
  rw [firstUnread waiting, secondUnread (sameEnding ▸ waiting)] at sameBytes
  simpa using sameBytes

end StableReader

/-! ## Decoding a concatenation of encodings -/

/-- Handler that records every frame with its length and never stops. -/
def collect (frames : List (F × Nat)) (decoded : F) (consumed : Nat) :
    List (F × Nat) × Option R :=
  (frames ++ [(decoded, consumed)], none)

/-- If the splitter finds each item at the front of its encoding, whatever
follows, then draining a concatenation of encodings returns the items in
order with their encoded lengths and leaves nothing. -/
theorem drain_encodings
    {split : List α → SplitResult F E} (stable : StableSplitter split)
    {ι : Type} (encode : ι → List α) (decoded : ι → F)
    (items : List ι)
    (found :
      ∀ item ∈ items, ∀ rest,
        split (encode item ++ rest) =
          .frame (decoded item) (encode item).length)
    (waits : split [] = .needMore) (frames : List (F × Nat)) :
    drain (R := R) split collect frames (items.flatMap encode) =
      ⟨frames ++ items.map fun item =>
          (decoded item, (encode item).length), [], .needMore⟩ := by
  induction items generalizing frames with
  | nil =>
      rw [List.flatMap_nil, drain_needMore stable _ waits]
      simp
  | cons item later inductionHypothesis =>
      have atFront := found item (by simp) (later.flatMap encode)
      have laterFound :=
        inductionHypothesis
          (fun item member => found item (List.mem_cons_of_mem _ member))
          (frames ++ [(decoded item, (encode item).length)])
      rw [List.flatMap_cons, drain_continue stable atFront rfl,
        List.drop_left, laterFound]
      simp

end HermesAtrust.Framing
