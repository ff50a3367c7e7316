import HermesAtrust.Framing.ExactReads

/-!
# Programs that read exactly and write

A program talks with its peer over a stream: it reads a number of items that it
knows, or it writes, and goes on as what it has read tells it.  It runs on a
stream of chunks, and it runs on the items of the stream alone.  Both runs end
alike, so what a program accepts is a matter of the items, and the rules below
say what that is, one construction at a time.
-/

namespace HermesAtrust.Framing

/-- How a program can end without a value. -/
inductive Failure (Error : Type) where
  | unexpectedEof
  | failed (error : Error)
  deriving DecidableEq, Repr

inductive Program (Item Error Value : Type) where
  | done (value : Value)
  | fail (error : Error)
  | read (count : Nat) (next : List Item → Program Item Error Value)
  | write (items : List Item) (next : Program Item Error Value)

namespace Program

variable {Item Error Value Result : Type}

def bind (program : Program Item Error Value)
    (next : Value → Program Item Error Result) :
    Program Item Error Result :=
  match program with
  | done value => next value
  | fail error => fail error
  | read count later => read count fun taken => (later taken).bind next
  | write items later => write items (later.bind next)

instance : Monad (Program Item Error) where
  pure := done
  bind := bind

def readExactly (count : Nat) : Program Item Error (List Item) :=
  read count done

def writeAll (items : List Item) : Program Item Error Unit :=
  write items (done ())

/-- The run on a connected stream. -/
def runStream (program : Program Item Error Value)
    (stream : DuplexStream Item) :
    Except (Failure Error) Value × DuplexStream Item :=
  match program with
  | done value => (.ok value, stream)
  | fail error => (.error (.failed error), stream)
  | read count next =>
      match readExact count stream.incoming with
      | (some taken, rest) =>
          (next taken).runStream { stream with incoming := rest }
      | (none, rest) =>
          (.error .unexpectedEof, { stream with incoming := rest })
  | write items next => next.runStream (stream.writeAll items)

/-- The run on the items that the peer sends before it closes the stream: the
result, the items that are left, and what was written. -/
def runItems (program : Program Item Error Value) (input : List Item) :
    Except (Failure Error) Value × List Item × List Item :=
  match program with
  | done value => (.ok value, input, [])
  | fail error => (.error (.failed error), input, [])
  | read count next =>
      if count ≤ input.length then
        (next (input.take count)).runItems (input.drop count)
      else
        (.error .unexpectedEof, [], [])
  | write items next =>
      let (result, rest, written) := next.runItems input
      (result, rest, items ++ written)

theorem runStream_done (value : Value) (stream : DuplexStream Item) :
    (done value : Program Item Error Value).runStream stream =
      (.ok value, stream) := by
  rw [runStream]

theorem runItems_done (value : Value) (input : List Item) :
    (done value : Program Item Error Value).runItems input =
      (.ok value, input, []) := by
  rw [runItems]

/-- However the items come in chunks, the run depends on the items alone. -/
theorem runItems_of_runStream {program : Program Item Error Value}
    {stream after : DuplexStream Item}
    {result : Except (Failure Error) Value}
    (ran : program.runStream stream = (result, after)) :
    ∃ written,
      program.runItems (streamItems stream.incoming) =
          (result, streamItems after.incoming, written) ∧
        after.written = stream.written ++ written := by
  induction program generalizing stream with
  | done value =>
      rw [runStream_done, Prod.mk.injEq] at ran
      obtain ⟨rfl, rfl⟩ := ran
      exact ⟨[], runItems_done _ _, (List.append_nil _).symm⟩
  | fail error =>
      cases ran
      exact ⟨[], rfl, (List.append_nil _).symm⟩
  | read count next inductionHypothesis =>
      rw [runStream] at ran
      rw [runItems]
      by_cases enough : count ≤ (streamItems stream.incoming).length
      · obtain ⟨taken, rest, read⟩ := exists_readExact enough
        obtain ⟨length, items⟩ := streamItems_of_readExact read
        rw [read] at ran
        rw [if_pos enough, items, ← length, List.take_left, List.drop_left]
        exact inductionHypothesis taken ran
      · rw [readExact_short (by omega)] at ran
        cases ran
        rw [if_neg enough]
        exact ⟨[], rfl, (List.append_nil _).symm⟩
  | write items next inductionHypothesis =>
      rw [runStream] at ran
      obtain ⟨written, sameRun, sameWritten⟩ := inductionHypothesis ran
      refine ⟨items ++ written, ?_, ?_⟩
      · rw [runItems]
        change next.runItems (streamItems stream.incoming) = _ at sameRun
        rw [sameRun]
      · rw [sameWritten, DuplexStream.writeAll, List.append_assoc]

/-- The program returns the value for the input, leaving the rest of it. -/
def Accepts (program : Program Item Error Value) (input : List Item)
    (value : Value) (rest written : List Item) : Prop :=
  program.runItems input = (.ok value, rest, written)

section

variable {program : Program Item Error Value} {input rest written : List Item}
  {value : Value}

theorem accepts_done {returned : Value} :
    (done returned : Program Item Error Value).Accepts input value rest
        written ↔
      value = returned ∧ input = rest ∧ written = [] := by
  simp only [Accepts, runItems_done, Prod.mk.injEq, Except.ok.injEq]
  constructor
  · rintro ⟨rfl, rfl, rfl⟩
    exact ⟨rfl, rfl, rfl⟩
  · rintro ⟨rfl, rfl, rfl⟩
    exact ⟨rfl, rfl, rfl⟩

theorem accepts_fail {error : Error} :
    ¬(fail error : Program Item Error Value).Accepts input value rest
        written := by
  intro accepted
  simp [Accepts, runItems] at accepted

theorem accepts_read {count : Nat}
    {next : List Item → Program Item Error Value} :
    (read count next).Accepts input value rest written ↔
      ∃ taken later, taken.length = count ∧ input = taken ++ later ∧
        (next taken).Accepts later value rest written := by
  rw [Accepts, runItems]
  constructor
  · intro ran
    split at ran
    · rename_i enough
      exact ⟨input.take count, input.drop count,
        List.length_take_of_le enough, (List.take_append_drop ..).symm, ran⟩
    · simp at ran
  · rintro ⟨taken, later, rfl, rfl, accepted⟩
    rw [if_pos (by rw [List.length_append]; omega), List.take_left,
      List.drop_left]
    exact accepted

theorem accepts_write {items : List Item}
    {next : Program Item Error Value} :
    (write items next).Accepts input value rest written ↔
      ∃ later, written = items ++ later ∧
        next.Accepts input value rest later := by
  rw [Accepts, runItems]
  cases ran : next.runItems input with
  | mk result others =>
      obtain ⟨left, later⟩ := others
      simp only [Accepts, ran, Prod.mk.injEq]
      constructor
      · rintro ⟨same, sameRest, rfl⟩
        exact ⟨later, rfl, same, sameRest, rfl⟩
      · rintro ⟨_, rfl, same, sameRest, rfl⟩
        exact ⟨same, sameRest, rfl⟩

theorem runItems_bind (next : Value → Program Item Error Result) :
    (program.bind next).runItems input =
      match program.runItems input with
      | (.error failure, rest, written) => (.error failure, rest, written)
      | (.ok value, middle, first) =>
          match (next value).runItems middle with
          | (result, rest, second) => (result, rest, first ++ second) := by
  induction program generalizing input with
  | done value => simp [bind, runItems]
  | fail error => rfl
  | read count later inductionHypothesis =>
      rw [bind, runItems, runItems]
      split
      · exact inductionHypothesis _
      · rfl
  | write items later inductionHypothesis =>
      rw [bind, runItems, runItems, inductionHypothesis]
      cases ran : later.runItems input with
      | mk result others =>
          cases result with
          | error failure => rfl
          | ok value => simp [List.append_assoc]

theorem accepts_bind {next : Value → Program Item Error Result}
    {result : Result} :
    (program >>= next).Accepts input result rest written ↔
      ∃ value middle first second,
        program.Accepts input value middle first ∧
          (next value).Accepts middle result rest second ∧
          written = first ++ second := by
  change (program.bind next).Accepts input result rest written ↔ _
  rw [Accepts, runItems_bind]
  cases ran : program.runItems input with
  | mk ended others =>
      obtain ⟨middle, first⟩ := others
      cases ended with
      | error failure => simp [Accepts, ran]
      | ok value =>
          cases continued : (next value).runItems middle with
          | mk last others =>
              obtain ⟨left, second⟩ := others
              simp only [Accepts, ran, continued, Prod.mk.injEq]
              constructor
              · rintro ⟨same, sameRest, rfl⟩
                refine ⟨value, middle, first, second, ⟨rfl, rfl, rfl⟩, ?_,
                  rfl⟩
                rw [continued, same, sameRest]
              · rintro ⟨_, _, _, _, ⟨returned, rfl, rfl⟩, accepted, rfl⟩
                cases returned
                rw [continued] at accepted
                cases accepted
                exact ⟨rfl, rfl, rfl⟩

theorem accepts_pure {returned : Value} :
    (pure returned : Program Item Error Value).Accepts input value rest
        written ↔
      value = returned ∧ input = rest ∧ written = [] :=
  accepts_done

theorem accepts_readExactly {count : Nat} {taken : List Item} :
    (readExactly count : Program Item Error (List Item)).Accepts input taken
        rest written ↔
      taken.length = count ∧ input = taken ++ rest ∧ written = [] := by
  rw [readExactly, accepts_read]
  simp only [accepts_done]
  constructor
  · rintro ⟨taken, later, length, rfl, rfl, rfl, rfl⟩
    exact ⟨length, rfl, rfl⟩
  · rintro ⟨length, rfl, rfl⟩
    exact ⟨taken, rest, length, rfl, rfl, rfl, rfl⟩

theorem accepts_writeAll {items : List Item} {done : Unit} :
    (writeAll items : Program Item Error Unit).Accepts input done rest
        written ↔
      input = rest ∧ written = items := by
  rw [writeAll, accepts_write]
  simp only [accepts_done]
  constructor
  · rintro ⟨later, rfl, -, rfl, rfl⟩
    exact ⟨rfl, List.append_nil _⟩
  · rintro ⟨rfl, rfl⟩
    exact ⟨[], (List.append_nil _).symm, trivial, rfl, rfl⟩

/-- On a stream a program returns a value for the items that it accepts, and
leaves the others in the stream. -/
theorem runStream_iff_accepts {stream : DuplexStream Item} :
    (∃ after,
        program.runStream stream = (.ok value, after) ∧
          streamItems after.incoming = rest ∧
          after.written = stream.written ++ written) ↔
      program.Accepts (streamItems stream.incoming) value rest written := by
  cases ran : program.runStream stream with
  | mk result after =>
      obtain ⟨output, sameRun, sameWritten⟩ := runItems_of_runStream ran
      rw [Accepts, sameRun]
      constructor
      · rintro ⟨_, same, rfl, appended⟩
        cases same
        rw [sameWritten] at appended
        rw [List.append_cancel_left appended]
      · intro same
        simp only [Prod.mk.injEq] at same
        obtain ⟨rfl, rfl, rfl⟩ := same
        exact ⟨after, rfl, rfl, sameWritten⟩

end

end Program

end HermesAtrust.Framing
