import HermesAtrust.Tcp.TunnelDecoding

/-!
# The two readers of a tunnel

`read_app` returns one payload per call and `poll_read` fills buffers of the
caller's choice, keeping what does not fit.  Both decode the same bytes with
the same loop, so what the stream below delivers determines what either of
them delivers and how it ends; where the caller cuts the bytes, how often the
stream is not ready and how the stream cuts its own bytes do not matter.
-/

namespace HermesAtrust.Tcp

open HermesAtrust.Framing HermesAtrust.Protocol

/-- How reading ends, or that it waits for the stream below. -/
inductive StreamEnd where
  | waiting
  | ended
  | failed (error : TunnelError)
  deriving DecidableEq, Repr

/-- The bytes the stream below delivers before it ends, and how it ends. -/
def received : List ReadAnswer → Bytes × StreamEnd
  | [] => ([], .waiting)
  | .failed code :: _ => ([], .failed (.io (.underlay code)))
  | .received [] :: _ => ([], .ended)
  | .received (head :: tail) :: later =>
      (head :: tail ++ (received later).1, (received later).2)

section Readers

variable (fromSlice : Bytes → Option StatusBody)

/-- Application bytes in undecoded bytes and the reads after them, with the
end of reading. -/
def content (readBuf : Bytes) (answers : List ReadAnswer) :
    Bytes × StreamEnd :=
  match decodeWhole fromSlice id [] (readBuf ++ (received answers).1) with
  | (bytes, .needMore, _) => (bytes, (received answers).2)
  | (bytes, .closed, _) => (bytes, .ended)
  | (bytes, .failed error, _) => (bytes, .failed error)

theorem nextApp_app {readBuf rest payload : Bytes}
    (decoded : nextApp fromSlice readBuf = (.ok (.app payload), rest)) :
    payload ≠ [] := by
  fun_induction nextApp fromSlice readBuf with
  | case1 readBuf rest' found inductionHypothesis =>
      exact inductionHypothesis decoded
  | case2 readBuf probe =>
      intro empty
      exact probe rest (by rw [decoded, empty])

/-- The loop over probes is part of decoding the buffer to its end. -/
theorem decodeWhole_eq_nextApp (gathered buffer : Bytes) :
    decodeWhole fromSlice id gathered buffer =
      match nextApp fromSlice buffer with
      | (.error error, rest) => (gathered, .failed error, rest)
      | (.ok .needMore, rest) => (gathered, .needMore, rest)
      | (.ok .closed, rest) => (gathered, .closed, rest)
      | (.ok (.app payload), rest) =>
          decodeWhole fromSlice id (gathered ++ payload) rest := by
  fun_induction nextApp fromSlice buffer with
  | case1 buffer rest decoded inductionHypothesis =>
      rw [decodeWhole_eq, decoded]
      simpa using inductionHypothesis
  | case2 buffer probe =>
      rw [decodeWhole_eq]
      rfl

theorem decodeWhole_gathered {β : Type} (output : Bytes → List β)
    (gathered : List β) (buffer : Bytes) :
    decodeWhole fromSlice output gathered buffer =
      (gathered ++ (decodeWhole fromSlice output [] buffer).1,
        (decodeWhole fromSlice output [] buffer).2) := by
  unfold decodeWhole
  rw [drain_gather stableSplitter_scanItem gathered buffer]

/-- Content behind bytes that are already known. -/
def behind (known : Bytes) (whole : Bytes × StreamEnd) : Bytes × StreamEnd :=
  (known ++ whole.1, whole.2)

/-- One round of a reader's loop. -/
theorem content_eq (readBuf : Bytes) (answers : List ReadAnswer) :
    content fromSlice readBuf answers =
      match nextApp fromSlice readBuf with
      | (.error error, _) => ([], .failed error)
      | (.ok .closed, _) => ([], .ended)
      | (.ok (.app payload), rest) =>
          behind payload (content fromSlice rest answers)
      | (.ok .needMore, rest) =>
          match answers with
          | [] => ([], .waiting)
          | .failed code :: _ => ([], .failed (.io (.underlay code)))
          | .received [] :: _ => ([], .ended)
          | .received (head :: tail) :: later =>
              content fromSlice (rest ++ head :: tail) later := by
  have first := decodeWhole_eq_nextApp fromSlice [] readBuf
  have appended :=
    decodeWhole_append fromSlice id [] readBuf (received answers).1
  rw [first] at appended
  rcases found : nextApp fromSlice readBuf with ⟨result, rest⟩
  rw [found] at appended first
  simp only [content]
  cases result with
  | error error =>
      rw [appended]
  | ok decode =>
      cases decode with
      | closed => rw [appended]
      | app payload =>
          simp only [List.nil_append] at appended
          rw [← decodeWhole_append fromSlice id payload rest,
            decodeWhole_gathered fromSlice id payload] at appended
          simp only [appended]
          rcases decodeWhole fromSlice id [] (rest ++ (received answers).1)
            with ⟨bytes, ending, left⟩
          cases ending with
          | needMore => rfl
          | closed => rfl
          | failed error => rfl
      | needMore =>
          simp only at appended first
          rw [appended]
          have idle := decodeWhole_idle fromSlice first
          cases answers with
          | nil => simp [received, idle]
          | cons answer later =>
              cases answer with
              | failed code => simp [received, idle]
              | received chunk =>
                  cases chunk with
                  | nil => simp [received, idle]
                  | cons head tail => simp [received]

/-! ## Reading through `read_app` -/

/-- So many calls of `read_app` in a row, up to the end of reading: the bytes
they return and how reading ended, if it did. -/
def readApps :
    Nat → TcpTunnel → List ReadAnswer → Bytes × Option StreamEnd
  | 0, _, _ => ([], none)
  | calls + 1, tunnel, answers =>
      match readApp fromSlice tunnel answers with
      | (after, .returned (.ok (some payload)), later) =>
          let (bytes, ending) := readApps calls after later
          (payload ++ bytes, ending)
      | (_, .returned (.ok none), _) => ([], some .ended)
      | (_, .returned (.error error), _) => ([], some (.failed error))
      | (_, .waiting, _) => ([], some .waiting)

/-- A reader of which we have seen this much delivers the whole: the start of
it, and all of it with its ending once reading has ended. -/
structure Delivers (whole : Bytes × StreamEnd)
    (seen : Bytes × Option StreamEnd) : Prop where
  bytes_prefix : seen.1 <+: whole.1
  ended : ∀ ending, seen.2 = some ending → seen.1 = whole.1 ∧ ending = whole.2

theorem Delivers.of_end (ending : StreamEnd) :
    Delivers ([], ending) ([], some ending) where
  bytes_prefix := List.prefix_rfl
  ended other same := by
    cases same
    exact ⟨rfl, rfl⟩

theorem Delivers.eq_of_isSome {whole : Bytes × StreamEnd}
    {seen : Bytes × Option StreamEnd} (delivers : Delivers whole seen)
    (reached : seen.2.isSome) : seen = (whole.1, some whole.2) := by
  obtain ⟨ending, reached⟩ := Option.isSome_iff_exists.mp reached
  obtain ⟨all, ends⟩ := delivers.ended ending reached
  rw [← all, ← ends, ← reached]

theorem Delivers.behind {whole : Bytes × StreamEnd}
    {seen : Bytes × Option StreamEnd} (delivers : Delivers whole seen)
    (known : Bytes) :
    Delivers (behind known whole) (known ++ seen.1, seen.2) where
  bytes_prefix := by
    obtain ⟨rest, total⟩ := delivers.bytes_prefix
    exact ⟨rest, by simp [Tcp.behind, ← total]⟩
  ended ending same := by
    obtain ⟨all, ends⟩ := delivers.ended ending same
    exact ⟨by simp [Tcp.behind, all], ends⟩

/-- What a return of `read_app` says about the content of the stream. -/
theorem content_readAppLoop (tunnel : TcpTunnel) (answers : List ReadAnswer) :
    content fromSlice tunnel.readBuf answers =
      match readAppLoop fromSlice tunnel answers with
      | (after, .returned (.ok (some payload)), later) =>
          behind payload (content fromSlice after.readBuf later)
      | (_, .returned (.ok none), _) => ([], .ended)
      | (_, .returned (.error error), _) => ([], .failed error)
      | (_, .waiting, _) => ([], .waiting) := by
  fun_induction readAppLoop fromSlice tunnel answers <;>
    (rw [content_eq]; simp_all)

theorem readAppLoop_some {tunnel after : TcpTunnel}
    {answers later : List ReadAnswer} {payload : Bytes}
    (returned :
      readAppLoop fromSlice tunnel answers =
        (after, .returned (.ok (some payload)), later)) :
    payload ≠ [] ∧ after.closed = tunnel.closed := by
  fun_induction readAppLoop fromSlice tunnel answers with
  | case2 tunnel answers found rest decoded =>
      simp only [Prod.mk.injEq, ReadAppResult.returned.injEq,
        Except.ok.injEq, Option.some.injEq] at returned
      obtain ⟨rfl, rfl, -⟩ := returned
      exact ⟨nextApp_app fromSlice decoded, rfl⟩
  | case7 tunnel rest decoded head tail later inductionHypothesis =>
      exact inductionHypothesis returned
  | _ => simp at returned

/-- However many calls are made, `read_app` delivers the content of the
stream, and one call more than there are bytes reaches its end. -/
theorem readApps_delivers (calls : Nat) (tunnel : TcpTunnel)
    (isOpen : tunnel.closed = false) (answers : List ReadAnswer) :
    let whole := content fromSlice tunnel.readBuf answers
    let seen := readApps fromSlice calls tunnel answers
    Delivers whole seen ∧ (whole.1.length < calls → seen.2.isSome) := by
  induction calls generalizing tunnel answers with
  | zero =>
      simp only [readApps]
      exact ⟨⟨List.nil_prefix, by simp⟩, by simp⟩
  | succ calls inductionHypothesis =>
      simp only [readApps, readApp, isOpen, Bool.false_eq_true, if_false]
      rw [content_readAppLoop]
      rcases returned : readAppLoop fromSlice tunnel answers with
        ⟨after, result, later⟩
      match result with
      | .returned (.ok (some payload)) =>
          obtain ⟨nonempty, sameClosed⟩ := readAppLoop_some fromSlice returned
          have positive : 0 < payload.length :=
            List.length_pos_of_ne_nil nonempty
          obtain ⟨delivers, reaches⟩ :=
            inductionHypothesis after (sameClosed.trans isOpen) later
          refine ⟨delivers.behind payload, ?_⟩
          intro enough
          apply reaches
          simp only [behind, List.length_append] at enough
          omega
      | .returned (.ok none) => exact ⟨.of_end .ended, by simp⟩
      | .returned (.error error) => exact ⟨.of_end (.failed error), by simp⟩
      | .waiting => exact ⟨.of_end .waiting, by simp⟩

/-! ## Reading through `poll_read` -/

def PollReadError.toTunnelError : PollReadError → TunnelError
  | .io error => .io error
  | .invalidData error => error

/-- Polls of `poll_read` with buffers of the given sizes, up to the end of
reading.  A call that leaves a buffer with room unchanged is the end of the
stream for its caller. -/
def pollReads :
    List Nat → TcpTunnel → List ReadPoll → Bytes × Option StreamEnd
  | [], _, _ => ([], none)
  | remaining :: sizes, tunnel, polls =>
      match pollRead fromSlice tunnel remaining polls with
      | (after, filled, .ready (.ok ()), later) =>
          if filled = [] ∧ remaining ≠ 0 then
            ([], some .ended)
          else
            let (bytes, ending) := pollReads sizes after later
            (filled ++ bytes, ending)
      | (_, _, .ready (.error error), _) =>
          ([], some (.failed error.toTunnelError))
      | (after, _, .pending, later) =>
          if later = [] then
            ([], some .waiting)
          else
            pollReads sizes after later

/-- The answers among the polls of the stream below. -/
def answersOf (polls : List ReadPoll) : List ReadAnswer :=
  polls.filterMap fun poll =>
    match poll with
    | .pending => none
    | .ready answer => some answer

/-- How often the stream below is not ready. -/
def stalls (polls : List ReadPoll) : Nat :=
  polls.countP (· = .pending)

@[simp]
theorem answersOf_nil : answersOf [] = [] :=
  rfl

@[simp]
theorem answersOf_pending (later : List ReadPoll) :
    answersOf (.pending :: later) = answersOf later :=
  rfl

@[simp]
theorem answersOf_ready (answer : ReadAnswer) (later : List ReadPoll) :
    answersOf (.ready answer :: later) = answer :: answersOf later :=
  rfl

@[simp]
theorem stalls_pending (later : List ReadPoll) :
    stalls (.pending :: later) = stalls later + 1 := by
  simp [stalls]

@[simp]
theorem stalls_ready (answer : ReadAnswer) (later : List ReadPoll) :
    stalls (.ready answer :: later) = stalls later := by
  simp [stalls]

/-- Decoding again where more bytes are needed changes nothing. -/
theorem content_of_needMore {readBuf rest : Bytes}
    (decoded : nextApp fromSlice readBuf = (.ok .needMore, rest))
    (answers : List ReadAnswer) :
    content fromSlice readBuf answers = content fromSlice rest answers := by
  have first := decodeWhole_eq_nextApp fromSlice [] readBuf
  rw [decoded] at first
  simp only [content]
  rw [decodeWhole_append fromSlice id [] readBuf, first]

theorem content_waiting {readBuf rest : Bytes}
    (decoded : nextApp fromSlice readBuf = (.ok .needMore, rest)) :
    content fromSlice rest [] = ([], .waiting) := by
  rw [← content_of_needMore fromSlice decoded, content_eq, decoded]

/-- A caller with room gets some of the undelivered bytes, in order. -/
theorem deliver_cases {tunnel after : TcpTunnel} {remaining : Nat}
    {filled : Bytes} (room : 0 < remaining) (some : tunnel.appPending ≠ [])
    (delivered : tunnel.deliver remaining = (after, filled)) :
    filled ≠ [] ∧ filled ++ after.appPending = tunnel.appPending ∧
      after.readBuf = tunnel.readBuf ∧ after.closed = tunnel.closed := by
  have positive := List.length_pos_of_ne_nil some
  simp only [TcpTunnel.deliver, Prod.mk.injEq] at delivered
  obtain ⟨rfl, rfl⟩ := delivered
  refine ⟨?_, List.take_append_drop _ _, rfl, rfl⟩
  apply List.ne_nil_of_length_pos
  rw [List.length_take]
  omega

/-- What a return of the loop of `poll_read` says about the content of the
stream. -/
theorem content_pollReadLoop {remaining : Nat} (room : 0 < remaining)
    {tunnel : TcpTunnel} (drained : tunnel.appPending = [])
    (polls : List ReadPoll) :
    content fromSlice tunnel.readBuf (answersOf polls) =
      match pollReadLoop fromSlice remaining tunnel polls with
      | (after, filled, .ready (.ok ()), later) =>
          if filled = [] then
            ([], .ended)
          else
            behind (filled ++ after.appPending)
              (content fromSlice after.readBuf (answersOf later))
      | (_, _, .ready (.error error), _) =>
          ([], .failed error.toTunnelError)
      | (after, _, .pending, later) =>
          content fromSlice after.readBuf (answersOf later) := by
  fun_induction pollReadLoop fromSlice remaining tunnel polls with
  | case1 tunnel polls error rest decoded =>
      rw [content_eq, decoded]
      rfl
  | case2 tunnel polls payload rest decoded after filled delivered =>
      have pending :
          { tunnel with
            readBuf := rest
            appPending := tunnel.appPending ++ payload }.appPending ≠ [] := by
        simp [nextApp_app fromSlice decoded]
      obtain ⟨nonempty, all, sameBuf, -⟩ := deliver_cases room pending delivered
      rw [content_eq, decoded]
      simp only [nonempty, if_false, all, drained, List.nil_append, sameBuf]
  | case3 tunnel polls rest decoded =>
      rw [content_eq, decoded]
      rfl
  | case4 tunnel rest decoded =>
      exact content_of_needMore fromSlice decoded []
  | case5 tunnel rest decoded later =>
      exact content_of_needMore fromSlice decoded (answersOf later)
  | case6 tunnel rest decoded code later =>
      rw [content_eq, decoded]
      rfl
  | case7 tunnel rest decoded later =>
      rw [content_eq, decoded]
      rfl
  | case8 tunnel rest decoded head tail later inductionHypothesis =>
      rw [content_eq, decoded]
      exact inductionHypothesis drained

/-- The loop of `poll_read` marks a tunnel as closed only where it reports the
end, and passes over one stall of the stream below before it is pending. -/
theorem pollReadLoop_progress {remaining : Nat} (room : 0 < remaining)
    {tunnel after : TcpTunnel} {polls later : List ReadPoll} {filled : Bytes}
    {result : PollReadResult}
    (returned :
      pollReadLoop fromSlice remaining tunnel polls =
        (after, filled, result, later)) :
    (result = .pending →
      after.appPending = tunnel.appPending ∧ after.closed = tunnel.closed ∧
        content fromSlice after.readBuf [] = ([], .waiting) ∧
        (later ≠ [] → stalls later < stalls polls)) ∧
      (result = .ready (.ok ()) → filled ≠ [] →
        after.closed = tunnel.closed ∧ stalls later ≤ stalls polls) := by
  fun_induction pollReadLoop fromSlice remaining tunnel polls with
  | case2 tunnel polls payload rest decoded after' filled' delivered =>
      have pending :
          { tunnel with
            readBuf := rest
            appPending := tunnel.appPending ++ payload }.appPending ≠ [] := by
        simp [nextApp_app fromSlice decoded]
      obtain ⟨-, -, -, sameClosed⟩ := deliver_cases room pending delivered
      simp only [Prod.mk.injEq] at returned
      obtain ⟨rfl, rfl, rfl, rfl⟩ := returned
      simp [sameClosed]
  | case4 tunnel rest decoded =>
      simp only [Prod.mk.injEq] at returned
      obtain ⟨rfl, rfl, rfl, rfl⟩ := returned
      simp [content_waiting fromSlice decoded]
  | case5 tunnel rest decoded later =>
      simp only [Prod.mk.injEq] at returned
      obtain ⟨rfl, rfl, rfl, rfl⟩ := returned
      simp [content_waiting fromSlice decoded]
  | case8 tunnel rest decoded head tail later inductionHypothesis =>
      simpa using inductionHypothesis returned
  | _ =>
      simp only [Prod.mk.injEq] at returned
      obtain ⟨rfl, rfl, rfl, rfl⟩ := returned
      simp

/-- What is left to deliver: decoded bytes first, then the content of the
stream. -/
def undelivered (tunnel : TcpTunnel) (polls : List ReadPoll) :
    Bytes × StreamEnd :=
  behind tunnel.appPending (content fromSlice tunnel.readBuf (answersOf polls))

/-- The four outcomes of `poll_read` with room on an open tunnel: the end,
some bytes, an error, or a stall. -/
theorem pollRead_cases {remaining : Nat} (room : 0 < remaining)
    {tunnel after : TcpTunnel} (isOpen : tunnel.closed = false)
    {polls later : List ReadPoll} {filled : Bytes} {result : PollReadResult}
    (returned :
      pollRead fromSlice tunnel remaining polls =
        (after, filled, result, later)) :
    (result = .ready (.ok ()) ∧ filled = [] ∧
        undelivered fromSlice tunnel polls = ([], .ended)) ∨
      (result = .ready (.ok ()) ∧ filled ≠ [] ∧ after.closed = false ∧
        undelivered fromSlice tunnel polls =
          behind filled (undelivered fromSlice after later) ∧
        stalls later ≤ stalls polls) ∨
      (∃ error, result = .ready (.error error) ∧
        undelivered fromSlice tunnel polls =
          ([], .failed error.toTunnelError)) ∨
      (result = .pending ∧ after.closed = false ∧
        undelivered fromSlice tunnel polls =
          undelivered fromSlice after later ∧
        (later = [] →
          undelivered fromSlice tunnel polls = ([], .waiting)) ∧
        (later ≠ [] → stalls later < stalls polls)) := by
  have hasRoom : remaining ≠ 0 := by omega
  simp only [pollRead, hasRoom, if_false] at returned
  by_cases pending : tunnel.appPending = []
  · simp only [pending, ne_eq, not_true, if_false, isOpen,
      Bool.false_eq_true] at returned
    have told := content_pollReadLoop fromSlice room pending polls
    obtain ⟨stalled, filledSome⟩ :=
      pollReadLoop_progress fromSlice room returned
    rw [returned] at told
    simp only [undelivered, pending]
    match result with
    | .pending =>
        obtain ⟨samePending, sameClosed, waits, fewer⟩ := stalled rfl
        simp only at told
        right; right; right
        rw [told, samePending, pending]
        refine ⟨rfl, sameClosed.trans isOpen, rfl, ?_, fewer⟩
        intro exhausted
        rw [exhausted, answersOf_nil, waits]
        rfl
    | .ready (.error error) =>
        simp only at told
        right; right; left
        exact ⟨error, rfl, by rw [told]; rfl⟩
    | .ready (.ok ()) =>
        simp only at told
        by_cases empty : filled = []
        · rw [if_pos empty] at told
          left
          exact ⟨rfl, empty, by rw [told]; rfl⟩
        · rw [if_neg empty] at told
          obtain ⟨sameClosed, fewer⟩ := filledSome rfl empty
          right; left
          refine ⟨rfl, empty, sameClosed.trans isOpen, ?_, fewer⟩
          rw [told]
          simp [behind]
  · rcases delivered : tunnel.deliver remaining with ⟨moved, given⟩
    simp only [ne_eq, pending, not_false_eq_true, if_true, delivered,
      Prod.mk.injEq] at returned
    obtain ⟨rfl, rfl, rfl, rfl⟩ := returned
    obtain ⟨nonempty, all, sameBuf, sameClosed⟩ :=
      deliver_cases room pending delivered
    right; left
    refine ⟨rfl, nonempty, sameClosed.trans isOpen, ?_, le_rfl⟩
    simp only [undelivered, behind, sameBuf]
    rw [← List.append_assoc, all]

/-- However the caller sizes its buffers, `poll_read` delivers the content of
the stream; enough buffers with room reach its end. -/
theorem pollReads_delivers (sizes : List Nat) (tunnel : TcpTunnel)
    (isOpen : tunnel.closed = false) (polls : List ReadPoll) :
    let whole := undelivered fromSlice tunnel polls
    let seen := pollReads fromSlice sizes tunnel polls
    Delivers whole seen ∧
      (whole.1.length + stalls polls < sizes.countP (0 < ·) →
        seen.2.isSome) := by
  induction sizes generalizing tunnel polls with
  | nil =>
      simp only [pollReads]
      exact ⟨⟨List.nil_prefix, by simp⟩, by simp⟩
  | cons remaining sizes inductionHypothesis =>
      by_cases noRoom : remaining = 0
      · simpa [pollReads, pollRead, noRoom] using
          inductionHypothesis tunnel isOpen polls
      have room : 0 < remaining := by omega
      simp only [pollReads, List.countP_cons, room, decide_true, if_true]
      rcases returned : pollRead fromSlice tunnel remaining polls with
        ⟨after, filled, result, later⟩
      rcases pollRead_cases fromSlice room isOpen returned with
        ⟨rfl, empty, whole⟩ |
        ⟨rfl, nonempty, stillOpen, whole, fewer⟩ |
        ⟨error, rfl, whole⟩ |
        ⟨rfl, stillOpen, whole, waits, fewer⟩
      · simp only [empty, noRoom, ne_eq, not_false_eq_true, and_self, if_true,
          whole]
        exact ⟨.of_end .ended, by simp⟩
      · have positive := List.length_pos_of_ne_nil nonempty
        obtain ⟨delivers, reaches⟩ := inductionHypothesis after stillOpen later
        simp only [nonempty, false_and, if_false, whole]
        refine ⟨delivers.behind filled, ?_⟩
        intro enough
        apply reaches
        simp only [behind, List.length_append] at enough
        omega
      · simp only [whole]
        exact ⟨.of_end _, by simp⟩
      · by_cases exhausted : later = []
        · simp only [exhausted, if_true, waits exhausted]
          exact ⟨.of_end .waiting, by simp⟩
        · obtain ⟨delivers, reaches⟩ := inductionHypothesis after stillOpen later
          have oneFewer := fewer exhausted
          simp only [exhausted, if_false, whole]
          refine ⟨delivers, ?_⟩
          intro enough
          apply reaches
          omega

/-! ## The cut of the stream -/

/-- What the stream below does after its last bytes. -/
inductive StreamTail where
  | stays
  | ends
  | fails (code : Nat)

def StreamTail.answers : StreamTail → List ReadAnswer
  | .stays => []
  | .ends => [.received []]
  | .fails code => [.failed code]

/-- The reads of a stream that arrives in chunks. -/
def readsOf (chunks : List Bytes) (tail : StreamTail) : List ReadAnswer :=
  chunks.map .received ++ tail.answers

theorem received_readsOf {chunks : List Bytes}
    (nonempty : ∀ chunk ∈ chunks, chunk ≠ []) (tail : StreamTail) :
    received (readsOf chunks tail) =
      (chunks.flatten, (received tail.answers).2) := by
  induction chunks with
  | nil => cases tail <;> rfl
  | cons chunk later inductionHypothesis =>
      have laterNonempty : ∀ chunk ∈ later, chunk ≠ [] :=
        fun chunk member => nonempty chunk (List.mem_cons_of_mem _ member)
      have continued := inductionHypothesis laterNonempty
      cases chunk with
      | nil => exact absurd rfl (nonempty [] (by simp))
      | cons head rest =>
          simp only [readsOf, List.map_cons, List.cons_append, received,
            List.flatten_cons] at continued ⊢
          rw [continued]

theorem content_readsOf_congr {chunks chunks' : List Bytes}
    (same : chunks.flatten = chunks'.flatten)
    (nonempty : ∀ chunk ∈ chunks, chunk ≠ [])
    (nonempty' : ∀ chunk ∈ chunks', chunk ≠ []) (tail : StreamTail) :
    content fromSlice [] (readsOf chunks tail) =
      content fromSlice [] (readsOf chunks' tail) := by
  unfold content
  rw [received_readsOf nonempty, received_readsOf nonempty', same]

/-- A fresh tunnel read through `read_app`. -/
theorem readApps_whole {answers : List ReadAnswer} {whole : Bytes × StreamEnd}
    (contents : content fromSlice [] answers = whole) (sent : Bytes)
    (calls : Nat) :
    let seen := readApps fromSlice calls (.fromStream sent) answers
    Delivers whole seen ∧
      (whole.1.length < calls → seen = (whole.1, some whole.2)) := by
  have delivered :=
    readApps_delivers fromSlice calls (.fromStream sent) rfl answers
  subst contents
  refine ⟨delivered.1, ?_⟩
  intro enough
  exact delivered.1.eq_of_isSome (delivered.2 enough)

/-- A fresh tunnel read through `poll_read`. -/
theorem pollReads_whole {polls : List ReadPoll} {whole : Bytes × StreamEnd}
    (contents : content fromSlice [] (answersOf polls) = whole) (sent : Bytes)
    (sizes : List Nat) :
    let seen := pollReads fromSlice sizes (.fromStream sent) polls
    Delivers whole seen ∧
      (whole.1.length + stalls polls < sizes.countP (0 < ·) →
        seen = (whole.1, some whole.2)) := by
  have delivered :=
    pollReads_delivers fromSlice sizes (.fromStream sent) rfl polls
  subst contents
  refine ⟨delivered.1, ?_⟩
  intro enough
  exact delivered.1.eq_of_isSome (delivered.2 enough)

/-- The cut of a downstream byte stream into chunks is invisible.  Calls of
`try_decode_app` return the same payloads and the same last result, and
`read_app` on the one cut and `poll_read` on the other, with buffers of any
sizes and a stream below that stalls at will, deliver the same bytes and the
same end. -/
theorem tunnel_stream_cut_invisible {chunks chunks' : List Bytes}
    (same : chunks.flatten = chunks'.flatten) :
    decodeChunks fromSlice [] chunks = decodeChunks fromSlice [] chunks' ∧
      ((∀ chunk ∈ chunks, chunk ≠ []) → (∀ chunk ∈ chunks', chunk ≠ []) →
        ∀ (tail : StreamTail) (sent sent' : Bytes),
          ∃ (bytes : Bytes) (ending : StreamEnd),
            (∀ calls,
              let seen :=
                readApps fromSlice calls (.fromStream sent)
                  (readsOf chunks tail)
              Delivers (bytes, ending) seen ∧
                (bytes.length < calls → seen = (bytes, some ending))) ∧
              ∀ polls, answersOf polls = readsOf chunks' tail → ∀ sizes,
                let seen :=
                  pollReads fromSlice sizes (.fromStream sent') polls
                Delivers (bytes, ending) seen ∧
                  (bytes.length + stalls polls < sizes.countP (0 < ·) →
                    seen = (bytes, some ending))) := by
  refine ⟨decodeChunks_congr fromSlice same, ?_⟩
  intro nonempty nonempty' tail sent sent'
  have sameContent :=
    content_readsOf_congr fromSlice same nonempty nonempty' tail
  refine ⟨(content fromSlice [] (readsOf chunks tail)).1,
    (content fromSlice [] (readsOf chunks tail)).2, ?_, ?_⟩
  · intro calls
    exact readApps_whole fromSlice rfl sent calls
  · intro polls answered sizes
    apply pollReads_whole fromSlice _ sent' sizes
    rw [answered, sameContent]

end Readers

theorem tunnel_stream_cut_invisible_sample :
    ([[0x01, 0x00], [0x00, 0x01, 0x41]] : List Bytes).flatten =
        ([[0x01, 0x00, 0x00, 0x01], [0x41]] : List Bytes).flatten ∧
      ∃ (bytes : Bytes) (ending : StreamEnd),
        (∀ calls, bytes.length < calls →
          readApps (fun _ => none) calls (.fromStream [])
              (readsOf [[0x01, 0x00], [0x00, 0x01, 0x41]] .ends) =
            (bytes, some ending)) ∧
          ∀ sizes, bytes.length + 1 < sizes.countP (0 < ·) →
            pollReads (fun _ => none) sizes (.fromStream [])
                [.ready (.received [0x01, 0x00, 0x00, 0x01]), .pending,
                  .ready (.received [0x41]), .ready (.received [])] =
              (bytes, some ending) := by
  have flattened :
      ([[0x01, 0x00], [0x00, 0x01, 0x41]] : List Bytes).flatten =
        ([[0x01, 0x00, 0x00, 0x01], [0x41]] : List Bytes).flatten := by
    decide
  obtain ⟨-, readers⟩ :=
    tunnel_stream_cut_invisible (fun _ => none) flattened
  obtain ⟨bytes, ending, apps, polled⟩ :=
    readers (by decide) (by decide) .ends [] []
  refine ⟨flattened, bytes, ending, ?_, ?_⟩
  · intro calls enough
    exact (apps calls).2 enough
  · intro sizes enough
    exact (polled _ rfl sizes).2 enough

end HermesAtrust.Tcp
