import HermesAtrust.Tcp.TunnelDecoding

/-!
# The limits of the tunnel decoder

`try_decode_app` passes over padding two bytes at a time, at most
`MAX_SKIPPED_CHATTER_BYTES` of it before a frame, and waits only for the rest
of one frame.  So it makes no more rounds than there are pairs of bytes, the
buffer of a waiting decoder is bounded, and the decoder gives up exactly at a
run of padding that is too long.
-/

namespace HermesAtrust.Tcp

open HermesAtrust.Framing HermesAtrust.Protocol

/-! ## The rounds of the loop -/

section Rounds

variable (fromSlice : Bytes → Option StatusBody)

/-- One round of the loop of `try_decode_app`: it returns, or it goes on with a
count of skipped bytes and a buffer. -/
def decodeRound (skipped : Nat) (readBuf : Bytes) :
    (Except TunnelError Decode × Bytes) ⊕ (Nat × Bytes) :=
  if readBuf.length - skipped < 2 then
    .inl (.ok .needMore, readBuf)
  else
    let h0 := byteAt readBuf skipped
    let h1 := byteAt readBuf (skipped + 1)
    let len := beU16 (byteAt readBuf (skipped + 2)) (byteAt readBuf (skipped + 3))
    if h0 = 0x01 ∧ h1 = 0x00 then
      if readBuf.length < skipped + 4 then
        .inl (.ok .needMore, readBuf)
      else if readBuf.length < skipped + 4 + len then
        .inl (.ok .needMore, readBuf)
      else
        .inl (.ok (.app ((readBuf.drop (skipped + 4)).take len)),
          readBuf.drop (skipped + 4 + len))
    else if h0 = 0x01 ∧ h1 = 0x01 then
      if readBuf.length < skipped + 4 then
        .inl (.ok .needMore, readBuf)
      else if
          [byteAt readBuf (skipped + 2), byteAt readBuf (skipped + 3)] =
            serverCloseTrailer then
        .inl (.ok .closed, readBuf.drop (skipped + 4))
      else
        .inr (0, readBuf.drop (skipped + 4))
    else if h0 = 0x05 ∧ h1 = 0x81 then
      .inr (0, readBuf.drop (skipped + 2))
    else if h0 = 0x53 ∧ h1 = 0x00 then
      if readBuf.length < skipped + 4 then
        .inl (.ok .needMore, readBuf)
      else if readBuf.length < skipped + 4 + len then
        .inl (.ok .needMore, readBuf)
      else
        let body := (readBuf.drop (skipped + 4)).take len
        if isStatusOk fromSlice body then
          .inr (0, readBuf.drop (skipped + 4 + len))
        else
          .inl (.error (.protocolError (fromUtf8Lossy body)),
            readBuf.drop (skipped + 4 + len))
    else if maxSkippedChatterBytes < skipped + 2 then
      .inl (.error (.unexpectedFrame h0 h1), readBuf)
    else
      .inr (skipped + 2, readBuf)

/-- The loop, if it returns within so many rounds. -/
def decodeRounds : Nat → Nat → Bytes →
    Option (Except TunnelError Decode × Bytes)
  | 0, _, _ => none
  | rounds + 1, skipped, readBuf =>
      match decodeRound fromSlice skipped readBuf with
      | .inl returned => some returned
      | .inr (next, rest) => decodeRounds rounds next rest

/-- The rest of the loop behind a round. -/
def resume (round : (Except TunnelError Decode × Bytes) ⊕ (Nat × Bytes)) :
    Except TunnelError Decode × Bytes :=
  match round with
  | .inl returned => returned
  | .inr (next, rest) => tryDecodeAppLoop fromSlice next rest

/-- The loop is its rounds. -/
theorem tryDecodeAppLoop_eq_round (skipped : Nat) (readBuf : Bytes) :
    tryDecodeAppLoop fromSlice skipped readBuf =
      resume fromSlice (decodeRound fromSlice skipped readBuf) := by
  rw [tryDecodeAppLoop, decodeRound]
  simp only [apply_ite (resume fromSlice)]
  rfl

/-- A round that, if it goes on, leaves at least two bytes behind. -/
def LeavesFewer (left : Nat)
    (round : (Except TunnelError Decode × Bytes) ⊕ (Nat × Bytes)) : Prop :=
  ∀ next rest, round = .inr (next, rest) → rest.length - next + 2 ≤ left

theorem leavesFewer_inl (left : Nat)
    (returned : Except TunnelError Decode × Bytes) :
    LeavesFewer left (.inl returned) := by
  intro next rest clash
  cases clash

theorem leavesFewer_inr {left next : Nat} {rest : Bytes}
    (fewer : rest.length - next + 2 ≤ left) :
    LeavesFewer left (.inr (next, rest)) := by
  intro next rest same
  cases same
  exact fewer

theorem leavesFewer_decodeRound (skipped : Nat) (readBuf : Bytes) :
    LeavesFewer (readBuf.length - skipped)
      (decodeRound fromSlice skipped readBuf) := by
  have returns := leavesFewer_inl (readBuf.length - skipped)
  rw [decodeRound]
  apply iteInduction (fun _ => returns _)
  intro long
  apply iteInduction
  · intro dataFrame
    apply iteInduction (fun _ => returns _)
    intro header
    exact iteInduction (fun _ => returns _) (fun _ => returns _)
  intro notData
  apply iteInduction
  · intro marker
    apply iteInduction (fun _ => returns _)
    intro header
    apply iteInduction (fun _ => returns _)
    intro other
    apply leavesFewer_inr
    rw [List.length_drop]
    omega
  intro notMarker
  apply iteInduction
  · intro chatter
    apply leavesFewer_inr
    rw [List.length_drop]
    omega
  intro notChatter
  apply iteInduction
  · intro status
    apply iteInduction (fun _ => returns _)
    intro header
    apply iteInduction (fun _ => returns _)
    intro complete
    apply iteInduction
    · intro accepted
      apply leavesFewer_inr
      rw [List.length_drop]
      omega
    · exact fun _ => returns _
  intro notStatus
  apply iteInduction (fun _ => returns _)
  intro padding
  apply leavesFewer_inr
  omega

theorem decodeRounds_eq_some {rounds skipped : Nat} {readBuf : Bytes}
    (enough : readBuf.length - skipped < 2 * rounds) :
    decodeRounds fromSlice rounds skipped readBuf =
      some (tryDecodeAppLoop fromSlice skipped readBuf) := by
  induction rounds generalizing skipped readBuf with
  | zero => omega
  | succ rounds inductionHypothesis =>
      rw [decodeRounds, tryDecodeAppLoop_eq_round]
      cases round : decodeRound fromSlice skipped readBuf with
      | inl returned => rfl
      | inr continued =>
          obtain ⟨next, rest⟩ := continued
          have decreases :=
            leavesFewer_decodeRound fromSlice skipped readBuf next rest round
          apply inductionHypothesis
          omega

end Rounds

/-! ## Padding and the frames between it -/

/-- The headers that the decoder knows. -/
def IsHeader (h0 h1 : UInt8) : Prop :=
  (h0 = 0x01 ∧ h1 = 0x00) ∨ (h0 = 0x01 ∧ h1 = 0x01) ∨
    (h0 = 0x05 ∧ h1 = 0x81) ∨ (h0 = 0x53 ∧ h1 = 0x00)

/-- Bytes that, taken two at a time, are no header. -/
inductive Padding : Bytes → Prop where
  | nil : Padding []
  | pair {h0 h1 : UInt8} {later : Bytes} (unknown : ¬IsHeader h0 h1)
      (padding : Padding later) : Padding (h0 :: h1 :: later)

/-- The frames behind which the decoder goes on. -/
inductive PassedFrame (fromSlice : Bytes → Option StatusBody) : Bytes → Prop
    where
  | chatter : PassedFrame fromSlice [0x05, 0x81]
  | marker {first second : UInt8}
      (other : [first, second] ≠ serverCloseTrailer) :
      PassedFrame fromSlice [0x01, 0x01, first, second]
  | status {body : Bytes} (fits : body.length ≤ 65535)
      (accepted : isStatusOk fromSlice body = true) :
      PassedFrame fromSlice ([0x53, 0x00] ++ toBeU16 body.length ++ body)

/-- The decoder consumes frames of the buffer, each with the padding before it,
and this is what remains behind the last of them. -/
inductive Passes (fromSlice : Bytes → Option StatusBody) :
    Bytes → Bytes → Prop where
  | done (rest : Bytes) : Passes fromSlice rest rest
  | frame {padding frame later rest : Bytes} (padded : Padding padding)
      (within : padding.length ≤ maxSkippedChatterBytes)
      (passed : PassedFrame fromSlice frame)
      (passes : Passes fromSlice later rest) :
      Passes fromSlice (padding ++ frame ++ later) rest

theorem Padding.append {padding more : Bytes} (padded : Padding padding)
    (continued : Padding more) : Padding (padding ++ more) := by
  induction padded with
  | nil => exact continued
  | pair unknown padding inductionHypothesis =>
      exact .pair unknown inductionHypothesis

/-- The pair at an even position of padding. -/
theorem Padding.pair_at {run : Bytes} (padded : Padding run) {position : Nat}
    (even : position % 2 = 0) (inside : position < run.length) :
    ∃ padding h0 h1 later, run = padding ++ h0 :: h1 :: later ∧
      Padding padding ∧ padding.length = position ∧ ¬IsHeader h0 h1 := by
  induction padded generalizing position with
  | nil => cases inside
  | @pair h0 h1 rest unknown padding inductionHypothesis =>
      by_cases first : position = 0
      · exact ⟨[], h0, h1, rest, rfl, .nil, first.symm, unknown⟩
      · rw [List.length_cons, List.length_cons] at inside
        obtain ⟨before, g0, g1, later, rfl, padded, length, other⟩ :=
          @inductionHypothesis (position - 2) (by omega) (by omega)
        refine ⟨h0 :: h1 :: before, g0, g1, later, rfl, .pair unknown padded,
          ?_, other⟩
        rw [List.length_cons, List.length_cons]
        omega

/-! ## What a scan finds -/

theorem scanBody_needMore {item : Bytes → TunnelItem} {skipped : Nat}
    {rest : Bytes} (waits : scanBody item skipped rest = .needMore) :
    rest.length ≤ 65536 := by
  have bound := beU16_le (byteAt rest 0) (byteAt rest 1)
  unfold scanBody at waits
  simp only at waits
  split at waits
  · omega
  · cases waits

theorem scanTrailer_needMore {skipped : Nat} {rest : Bytes}
    (waits : scanTrailer skipped rest = .needMore) : rest.length ≤ 65536 := by
  unfold scanTrailer at waits
  split at waits
  · omega
  · split at waits <;> cases waits

/-- A scan that waits has seen at most the padding and one frame less its last
byte. -/
theorem scanItem_needMore {skipped : Nat} {buffer : Bytes}
    (within : skipped ≤ maxSkippedChatterBytes)
    (waits : scanItem skipped buffer = .needMore) :
    skipped + buffer.length ≤ maxSkippedChatterBytes + 65538 := by
  fun_induction scanItem skipped buffer with
  | case1 skipped h0 h1 rest header =>
      have bound := scanBody_needMore waits
      simp only [List.length_cons]
      omega
  | case2 skipped h0 h1 rest _ header =>
      have bound := scanTrailer_needMore waits
      simp only [List.length_cons]
      omega
  | case3 => cases waits
  | case4 skipped h0 h1 rest _ _ _ header =>
      have bound := scanBody_needMore waits
      simp only [List.length_cons]
      omega
  | case5 => cases waits
  | case6 skipped h0 h1 rest _ _ _ _ notLimit inductionHypothesis =>
      have bound := inductionHypothesis (Nat.le_of_not_lt notLimit) waits
      simp only [List.length_cons]
      omega
  | case7 skipped => exact Nat.le_add_right_of_le within
  | case8 skipped last =>
      exact Nat.add_le_add within (Nat.succ_le_succ (Nat.zero_le 65537))

/-- A scan steps over a pair that is no header. -/
theorem scanItem_pair {skipped : Nat} {h0 h1 : UInt8} {later : Bytes}
    (unknown : ¬IsHeader h0 h1) :
    scanItem skipped (h0 :: h1 :: later) =
      if maxSkippedChatterBytes < skipped + 2 then
        .failed (.unexpectedFrame h0 h1)
      else
        scanItem (skipped + 2) later := by
  simp only [IsHeader, not_or] at unknown
  obtain ⟨notData, notMarker, notChatter, notStatus⟩ := unknown
  rw [scanItem, if_neg notData, if_neg notMarker, if_neg notChatter,
    if_neg notStatus]

/-- A scan steps over padding up to the limit. -/
theorem scanItem_padding {skipped : Nat} {padding : Bytes} (later : Bytes)
    (padded : Padding padding)
    (within : skipped + padding.length ≤ maxSkippedChatterBytes) :
    scanItem skipped (padding ++ later) =
      scanItem (skipped + padding.length) later := by
  induction padded generalizing skipped with
  | nil => rfl
  | @pair h0 h1 rest unknown padding inductionHypothesis =>
      rw [List.length_cons, List.length_cons] at within ⊢
      rw [List.cons_append, List.cons_append, scanItem_pair unknown,
        if_neg (by omega), inductionHypothesis (by omega)]
      congr 1
      omega

/-- A scan gives up at a run of padding that is longer than the limit. -/
theorem scanItem_failed {skipped : Nat} {buffer : Bytes} {error : TunnelError}
    (even : skipped % 2 = 0) (within : skipped ≤ maxSkippedChatterBytes)
    (failed : scanItem skipped buffer = .failed error) :
    ∃ padding h0 h1 later, buffer = padding ++ h0 :: h1 :: later ∧
      Padding padding ∧ skipped + padding.length = maxSkippedChatterBytes ∧
      ¬IsHeader h0 h1 ∧ error = .unexpectedFrame h0 h1 := by
  have limitEven : maxSkippedChatterBytes % 2 = 0 := rfl
  fun_induction scanItem skipped buffer with
  | case1 skipped h0 h1 rest header =>
      unfold scanBody at failed
      simp only at failed
      split at failed <;> cases failed
  | case2 skipped h0 h1 rest _ header =>
      unfold scanTrailer at failed
      split at failed
      · cases failed
      · split at failed <;> cases failed
  | case3 => cases failed
  | case4 skipped h0 h1 rest _ _ _ header =>
      unfold scanBody at failed
      simp only at failed
      split at failed <;> cases failed
  | case5 skipped h0 h1 rest notData notMarker notChatter notStatus limit =>
      cases failed
      refine ⟨[], h0, h1, rest, rfl, .nil, ?_, ?_, rfl⟩
      · rw [List.length_nil]
        omega
      · simp only [IsHeader, not_or]
        exact ⟨notData, notMarker, notChatter, notStatus⟩
  | case6 skipped h0 h1 rest notData notMarker notChatter notStatus notLimit
      inductionHypothesis =>
      obtain ⟨padding, first, second, later, rfl, padded, length, unknown,
        same⟩ := inductionHypothesis (by omega)
          (Nat.le_of_not_lt notLimit) failed
      refine ⟨h0 :: h1 :: padding, first, second, later, rfl, .pair ?_ padded,
        ?_, unknown, same⟩
      · simp only [IsHeader, not_or]
        exact ⟨notData, notMarker, notChatter, notStatus⟩
      · rw [List.length_cons, List.length_cons]
        omega
  | case7 => cases failed
  | case8 => cases failed

section Frames

variable {fromSlice : Bytes → Option StatusBody}

/-- A scan cuts off a frame behind which the decoder goes on. -/
theorem scanItem_passed {skipped : Nat} {frame : Bytes} (later : Bytes)
    (passed : PassedFrame fromSlice frame) :
    ∃ item, scanItem skipped (frame ++ later) =
        .frame item (skipped + frame.length) ∧
      decodeItem fromSlice item = none := by
  cases passed with
  | chatter =>
      refine ⟨.nodeChatter, ?_, rfl⟩
      rw [List.cons_append, List.cons_append, scanItem,
        if_neg (by decide), if_neg (by decide), if_pos (by decide)]
      rfl
  | @marker first second other =>
      refine ⟨.marker, ?_, rfl⟩
      rw [List.cons_append, List.cons_append, scanItem,
        if_neg (by decide), if_pos (by decide), scanTrailer,
        if_neg (by simp), if_neg (by simpa using other)]
      rfl
  | @status body fits accepted =>
      refine ⟨.status body, ?_, ?_⟩
      · simp only [toBeU16, List.cons_append, List.nil_append]
        rw [scanItem, if_neg (by decide), if_neg (by decide),
          if_neg (by decide), if_pos (by decide), scanBody]
        simp only [byteAt_cons_zero, byteAt_cons_succ,
          beU16_toBeU16 (Nat.lt_succ_of_le fits), List.length_cons,
          List.length_append, List.drop_succ_cons, List.drop_zero,
          List.take_left]
        rw [if_neg (by omega)]
        congr 1
        omega
      · rw [decodeItem, if_pos accepted]

/-- A body in the buffer, with the two bytes of its length. -/
theorem body_of_scanBody {item : Bytes → TunnelItem} {skipped consumed : Nat}
    {rest : Bytes} {found : TunnelItem}
    (scanned : scanBody item skipped rest = .frame found consumed) :
    ∃ body later, rest = toBeU16 body.length ++ body ++ later ∧
      body.length ≤ 65535 ∧ found = item body ∧
      consumed = skipped + 4 + body.length := by
  unfold scanBody at scanned
  simp only at scanned
  split at scanned
  · cases scanned
  · next complete =>
      cases scanned
      cases rest with
      | nil => simp at complete
      | cons high others =>
          cases others with
          | nil =>
              simp only [List.length_cons, List.length_nil] at complete
              omega
          | cons low content =>
              simp only [byteAt_cons_zero, byteAt_cons_succ,
                List.length_cons, List.drop_succ_cons,
                List.drop_zero] at complete ⊢
              have length :
                  (content.take (beU16 high low)).length = beU16 high low := by
                rw [List.length_take]
                omega
              refine ⟨content.take (beU16 high low),
                content.drop (beU16 high low), ?_, ?_, rfl, ?_⟩
              · rw [length, toBeU16_beU16, List.append_assoc,
                  List.take_append_drop]
                rfl
              · rw [length]
                exact beU16_le high low
              · rw [length]

/-- A frame that a scan cuts off and behind which the decoder goes on. -/
theorem passed_of_scanItem {skipped consumed : Nat} {buffer : Bytes}
    {item : TunnelItem} (within : skipped ≤ maxSkippedChatterBytes)
    (scanned : scanItem skipped buffer = .frame item consumed)
    (continues : decodeItem fromSlice item = none) :
    ∃ padding frame later, buffer = padding ++ frame ++ later ∧
      Padding padding ∧ skipped + padding.length ≤ maxSkippedChatterBytes ∧
      PassedFrame fromSlice frame ∧
      consumed = skipped + padding.length + frame.length := by
  fun_induction scanItem skipped buffer with
  | case1 skipped h0 h1 rest header =>
      obtain ⟨body, later, -, -, rfl, -⟩ := body_of_scanBody scanned
      cases continues
  | case2 skipped h0 h1 rest _ header =>
      obtain ⟨rfl, rfl⟩ := header
      unfold scanTrailer at scanned
      split at scanned
      · cases scanned
      · next complete =>
          cases rest with
          | nil => simp at complete
          | cons first others =>
              cases others with
              | nil => simp at complete
              | cons second later =>
                  split at scanned
                  · cases scanned
                    cases continues
                  · next other =>
                      cases scanned
                      exact ⟨[], [0x01, 0x01, first, second], later, rfl, .nil,
                        within, .marker other, rfl⟩
  | case3 skipped h0 h1 rest _ _ header =>
      obtain ⟨rfl, rfl⟩ := header
      cases scanned
      exact ⟨[], [0x05, 0x81], rest, rfl, .nil, within, .chatter, rfl⟩
  | case4 skipped h0 h1 rest _ _ _ header =>
      obtain ⟨rfl, rfl⟩ := header
      obtain ⟨body, later, rfl, fits, rfl, rfl⟩ := body_of_scanBody scanned
      have accepted : isStatusOk fromSlice body = true := by
        by_contra rejected
        rw [decodeItem, if_neg rejected] at continues
        cases continues
      refine ⟨[], [0x53, 0x00] ++ toBeU16 body.length ++ body, later, ?_, .nil,
        within, .status fits accepted, ?_⟩
      · simp
      · simp only [List.length_append, length_toBeU16, List.length_cons,
          List.length_nil]
        omega
  | case5 => cases scanned
  | case6 skipped h0 h1 rest notData notMarker notChatter notStatus notLimit
      inductionHypothesis =>
      obtain ⟨padding, frame, later, rfl, padded, bound, passed, same⟩ :=
        inductionHypothesis (Nat.le_of_not_lt notLimit) scanned
      refine ⟨h0 :: h1 :: padding, frame, later, rfl, .pair ?_ padded, ?_,
        passed, ?_⟩
      · simp only [IsHeader, not_or]
        exact ⟨notData, notMarker, notChatter, notStatus⟩
      · rw [List.length_cons, List.length_cons]
        omega
      · rw [List.length_cons, List.length_cons]
        omega
  | case7 => cases scanned
  | case8 => cases scanned

end Frames

/-! ## What the decoder does -/

section Decoder

variable (fromSlice : Bytes → Option StatusBody)

/-- A decoder that waits has decoded all it can. -/
theorem tryDecodeApp_needMore {readBuf rest : Bytes}
    (waits : tryDecodeApp fromSlice readBuf = (.ok .needMore, rest)) :
    scanItem 0 rest = .needMore := by
  induction length : readBuf.length using Nat.strongRecOn
    generalizing readBuf with
  | ind length inductionHypothesis =>
      rw [tryDecodeApp_eq] at waits
      cases scanned : scanItem 0 readBuf with
      | needMore =>
          rw [scanned] at waits
          cases waits
          exact scanned
      | failed error =>
          rw [scanned] at waits
          cases waits
      | frame item consumed =>
          rw [scanned] at waits
          have bounds := scanItem_bounds scanned
          simp only [decodeScanned] at waits
          split at waits
          · apply inductionHypothesis (readBuf.drop consumed).length ?_ waits
              rfl
            rw [List.length_drop]
            omega
          · next found search =>
              cases found <;> cases waits

/-- The decoder goes on behind a frame and the padding before it. -/
theorem tryDecodeApp_passed {padding frame : Bytes} (later : Bytes)
    (padded : Padding padding)
    (within : padding.length ≤ maxSkippedChatterBytes)
    (passed : PassedFrame fromSlice frame) :
    tryDecodeApp fromSlice (padding ++ frame ++ later) =
      tryDecodeApp fromSlice later := by
  have bound : 0 + padding.length ≤ maxSkippedChatterBytes := by
    rw [Nat.zero_add]
    exact within
  obtain ⟨item, scanned, continues⟩ :=
    @scanItem_passed fromSlice (0 + padding.length) frame later passed
  rw [tryDecodeApp_eq, List.append_assoc, scanItem_padding _ padded bound,
    scanned]
  simp only [decodeScanned, continues]
  rw [← List.append_assoc, Nat.zero_add, ← List.length_append, List.drop_left]

theorem tryDecodeApp_of_passes {readBuf rest : Bytes}
    (passes : Passes fromSlice readBuf rest) :
    tryDecodeApp fromSlice readBuf = tryDecodeApp fromSlice rest := by
  induction passes with
  | done rest => rfl
  | frame padded within passed passes inductionHypothesis =>
      rw [tryDecodeApp_passed fromSlice _ padded within passed,
        inductionHypothesis]

/-- Where the decoder gives up, and with which header. -/
theorem tryDecodeApp_unexpectedFrame_iff {readBuf rest : Bytes}
    {h0 h1 : UInt8} :
    tryDecodeApp fromSlice readBuf =
        (.error (.unexpectedFrame h0 h1), rest) ↔
      Passes fromSlice readBuf rest ∧
        ∃ padding later, rest = padding ++ h0 :: h1 :: later ∧
          Padding padding ∧ padding.length = maxSkippedChatterBytes ∧
          ¬IsHeader h0 h1 := by
  constructor
  · intro failed
    induction length : readBuf.length using Nat.strongRecOn
      generalizing readBuf with
    | ind length inductionHypothesis =>
        rw [tryDecodeApp_eq] at failed
        cases scanned : scanItem 0 readBuf with
        | needMore =>
            rw [scanned] at failed
            cases failed
        | failed error =>
            rw [scanned] at failed
            cases failed
            obtain ⟨padding, first, second, later, split, padded, long,
              unknown, same⟩ :=
              scanItem_failed rfl (Nat.zero_le _) scanned
            cases same
            rw [Nat.zero_add] at long
            exact ⟨.done _, padding, later, split, padded, long, unknown⟩
        | frame item consumed =>
            rw [scanned] at failed
            have bounds := scanItem_bounds scanned
            simp only [decodeScanned] at failed
            split at failed
            · next continues =>
                obtain ⟨padding, frame, later, rfl, padded, within, passed,
                  rfl⟩ :=
                  passed_of_scanItem (Nat.zero_le _) scanned continues
                rw [Nat.zero_add] at within
                rw [Nat.zero_add, ← List.length_append,
                  List.drop_left] at failed
                have shorter :
                    later.length < (padding ++ frame ++ later).length := by
                  rw [List.length_append, List.length_append]
                  omega
                obtain ⟨passes, found⟩ :=
                  inductionHypothesis later.length (by omega) failed rfl
                exact ⟨.frame padded within passed passes, found⟩
            · next found search =>
                cases found with
                | app payload => cases failed
                | closed => cases failed
                | rejected error =>
                    cases item with
                    | status body =>
                        rw [decodeItem] at search
                        split at search
                        · cases search
                        · cases search
                          cases failed
                    | _ => cases search
  · intro gaveUp
    obtain ⟨passes, padding, later, rfl, padded, long, unknown⟩ := gaveUp
    have bound : 0 + padding.length ≤ maxSkippedChatterBytes := by
      omega
    rw [tryDecodeApp_of_passes fromSlice passes, tryDecodeApp_eq,
      scanItem_padding _ padded bound, scanItem_pair unknown,
      if_pos (by omega)]
    rfl

/-- `try_decode_app` returns after at most one round for every two bytes and
one more.  When it needs more bytes, it keeps at most the padding and one frame
less its last byte, and a call without new bytes changes nothing.  It gives up
exactly if more than `MAX_SKIPPED_CHATTER_BYTES` bytes behind the last frame
that it consumed, taken two at a time, are no header. -/
theorem try_decode_app_limits (readBuf : Bytes) :
    decodeRounds fromSlice (readBuf.length / 2 + 1) 0 readBuf =
        some (tryDecodeApp fromSlice readBuf) ∧
      (∀ rest, tryDecodeApp fromSlice readBuf = (.ok .needMore, rest) →
        rest.length ≤ 1024 + 65538 ∧
          tryDecodeApp fromSlice rest = (.ok .needMore, rest)) ∧
      ((∃ h0 h1 rest, tryDecodeApp fromSlice readBuf =
          (.error (.unexpectedFrame h0 h1), rest)) ↔
        ∃ rest run later, Passes fromSlice readBuf rest ∧
          rest = run ++ later ∧ Padding run ∧ 1024 < run.length) := by
  refine ⟨decodeRounds_eq_some fromSlice (by omega), ?_, ?_, ?_⟩
  · intro rest waits
    have scanned := tryDecodeApp_needMore fromSlice waits
    constructor
    · have bound := scanItem_needMore (Nat.zero_le _) scanned
      rw [Nat.zero_add] at bound
      exact bound
    · rw [tryDecodeApp_eq, scanned]
      rfl
  · intro gaveUp
    obtain ⟨h0, h1, rest, failed⟩ := gaveUp
    obtain ⟨passes, padding, later, rfl, padded, long, unknown⟩ :=
      (tryDecodeApp_unexpectedFrame_iff fromSlice).mp failed
    refine ⟨_, padding ++ [h0, h1], later, passes, ?_,
      padded.append (.pair unknown .nil), ?_⟩
    · rw [List.append_assoc]
      rfl
    · rw [List.length_append, long]
      exact Nat.lt_add_of_pos_right (Nat.zero_lt_succ 1)
  · intro gaveUp
    obtain ⟨rest, run, later, passes, rfl, padded, long⟩ := gaveUp
    obtain ⟨padding, h0, h1, more, rfl, padded, length, unknown⟩ :=
      padded.pair_at (rfl : 1024 % 2 = 0) long
    refine ⟨h0, h1, _, (tryDecodeApp_unexpectedFrame_iff fromSlice).mpr
      ⟨passes, padding, more ++ later, ?_, padded, length, unknown⟩⟩
    rw [List.append_assoc]
    rfl

end Decoder

end HermesAtrust.Tcp
