import HermesAtrust.Protocol.L3FrameDecoding

/-!
# Measuring and extracting agree

A token-framed body is walked twice: `token_body_len` finds its end, and
`parse_l3_token_data_body` takes its packets out of the bytes up to there.
Both walks stop at the same bodies, the measured bytes alone give the same
packets, and nothing shorter gives any.
-/

namespace HermesAtrust.Protocol

open HermesAtrust.Framing

section Walks

variable {body : Bytes} {consumed : Nat}

/-- The bytes up to the end of a walk. -/
private theorem byteAt_take_append (within : consumed ≤ body.length)
    (rest : Bytes) {index : Nat} (inside : index < consumed) :
    byteAt (body.take consumed ++ rest) index = byteAt body index := by
  have size : (body.take consumed).length = consumed :=
    List.length_take_of_le within
  have front : byteAt (body.take consumed ++ rest) index =
      byteAt (body.take consumed) index :=
    byteAt_append_left (by omega)
  have whole : byteAt (body.take consumed ++ body.drop consumed) index =
      byteAt (body.take consumed) index :=
    byteAt_append_left (by omega)
  rw [List.take_append_drop] at whole
  rw [front, whole]

private theorem slice_take_append (within : consumed ≤ body.length)
    (rest : Bytes) {start length : Nat} (inside : start + length ≤ consumed) :
    ((body.take consumed ++ rest).drop start).take length =
      (body.drop start).take length := by
  have size : (body.take consumed).length = consumed :=
    List.length_take_of_le within
  rw [List.drop_append_of_le_length (by omega),
    List.take_append_of_le_length (by rw [List.length_drop]; omega),
    List.drop_take, List.take_take, Nat.min_eq_left (by omega)]

/-- Where the measuring walk ends, the extracting walk has its packets, and
they do not depend on what is behind. -/
theorem parsePackets_of_skipPackets {count idx : Nat}
    (inside : idx ≤ body.length)
    (skipped : skipPackets body count idx = .ok consumed) :
    ∃ packets, ∀ rest,
      parsePackets (body.take consumed ++ rest) count idx = .ok packets := by
  induction count generalizing idx with
  | zero => exact ⟨[], fun rest => rfl⟩
  | succ count inductionHypothesis =>
      simp only [skipPackets] at skipped
      split at skipped
      · cases skipped
      next header =>
      split at skipped
      · cases skipped
      next payload =>
      have bounds := skipPackets_bounds (by omega) skipped
      have within := bounds.2
      have size : (body.take consumed).length = consumed :=
        List.length_take_of_le within
      obtain ⟨packets, walked⟩ := inductionHypothesis (by omega) skipped
      refine ⟨(body.drop (idx + 2)).take
        (beU16 (byteAt body idx) (byteAt body (idx + 1))) :: packets,
        fun rest => ?_⟩
      rw [parsePackets, byteAt_take_append within rest (by omega),
        byteAt_take_append within rest (by omega), List.length_append, size,
        if_neg (by omega)]
      simp only
      rw [if_neg (by omega), walked rest,
        slice_take_append within rest (by omega)]

theorem skipPackets_of_parsePackets {count idx : Nat} {packets : List Bytes}
    (parsed : parsePackets body count idx = .ok packets) :
    ∃ consumed, skipPackets body count idx = .ok consumed := by
  induction count generalizing idx packets with
  | zero => exact ⟨idx, rfl⟩
  | succ count inductionHypothesis =>
      simp only [parsePackets] at parsed
      split at parsed
      · cases parsed
      next header =>
      split at parsed
      · cases parsed
      next payload =>
      split at parsed
      · next later walked =>
          obtain ⟨consumed, skipped⟩ := inductionHypothesis walked
          refine ⟨consumed, ?_⟩
          rw [skipPackets, if_neg header]
          simp only
          rw [if_neg payload, skipped]
      · cases parsed

/-- A measured body has its packets in the measured bytes, whatever follows. -/
theorem parseL3TokenDataBody_take
    (measured : tokenBodyLen body = .ok consumed) :
    ∃ packets, ∀ rest,
      parseL3TokenDataBody (body.take consumed ++ rest) = .ok packets := by
  have bounds := tokenBodyLen_bounds measured
  have size : (body.take consumed).length = consumed :=
    List.length_take_of_le bounds.2
  unfold tokenBodyLen at measured
  split at measured
  · cases measured
  simp only at measured
  split at measured
  · cases measured
  next header =>
  have after := skipPackets_bounds (by omega) measured
  obtain ⟨packets, walked⟩ := parsePackets_of_skipPackets (by omega) measured
  refine ⟨packets, fun rest => ?_⟩
  rw [parseL3TokenDataBody, List.length_append, size, if_neg (by omega),
    byteAt_take_append bounds.2 rest (by omega)]
  simp only
  rw [if_neg (by omega), byteAt_take_append bounds.2 rest (by omega),
    walked rest]

theorem tokenBodyLen_ok_iff :
    (∃ consumed, tokenBodyLen body = .ok consumed) ↔
      ∃ packets, parseL3TokenDataBody body = .ok packets := by
  constructor
  · rintro ⟨consumed, measured⟩
    obtain ⟨packets, parsed⟩ := parseL3TokenDataBody_take measured
    have whole := parsed (body.drop consumed)
    rw [List.take_append_drop] at whole
    exact ⟨packets, whole⟩
  · rintro ⟨packets, parsed⟩
    unfold parseL3TokenDataBody at parsed
    split at parsed
    · cases parsed
    next long =>
    simp only at parsed
    split at parsed
    · cases parsed
    next header =>
    obtain ⟨consumed, skipped⟩ := skipPackets_of_parsePackets parsed
    refine ⟨consumed, ?_⟩
    have nonempty : body ≠ [] := by
      rintro rfl
      exact long (by decide)
    rw [tokenBodyLen, if_neg nonempty]
    simp only
    rw [if_neg header, skipped]

/-- Nothing shorter than the measured bytes is accepted. -/
theorem tokenBodyLen_shorter (measured : tokenBodyLen body = .ok consumed)
    {front : Bytes} (opening : front <+: body.take consumed)
    (shorter : front ≠ body.take consumed) :
    (∃ needed got, tokenBodyLen front = .error (.truncated needed got)) ∧
      ∃ needed got,
        parseL3TokenDataBody front = .error (.truncated needed got) := by
  have unmeasured : ∀ length, tokenBodyLen front ≠ .ok length := by
    intro length accepted
    obtain ⟨rest, whole⟩ := opening.trans (List.take_prefix consumed body)
    have extended := tokenBodyLen_append rest accepted
    rw [whole, measured, Except.ok.injEq] at extended
    have bounds := tokenBodyLen_bounds accepted
    have size := opening.length_le
    rw [List.length_take] at size
    apply shorter
    apply opening.eq_of_length
    rw [List.length_take]
    omega
  constructor
  · cases result : tokenBodyLen front with
    | ok length => exact absurd result (unmeasured length)
    | error error =>
        obtain ⟨needed, got, rfl⟩ := tokenBodyLen_error result
        exact ⟨needed, got, rfl⟩
  · cases result : parseL3TokenDataBody front with
    | ok packets =>
        obtain ⟨length, accepted⟩ := tokenBodyLen_ok_iff.mpr ⟨packets, result⟩
        exact absurd accepted (unmeasured length)
    | error error =>
        obtain ⟨needed, got, rfl⟩ := parseL3TokenDataBody_error result
        exact ⟨needed, got, rfl⟩

end Walks

/-! ## Requests -/

/-- What the length fields of a data request can hold. -/
def FitsDataReq (token : Bytes) (packets : List Bytes) : Prop :=
  token.length ≤ 255 ∧ packets.length ≤ 255 ∧
    ∀ packet ∈ packets, packet.length ≤ 65535

/-- A request is encoded exactly if everything in it fits. -/
theorem encodeL3DataReq_eq_ok_iff {token frame : Bytes}
    {packets : List Bytes} :
    encodeL3DataReq token packets = .ok frame ↔
      FitsDataReq token packets ∧
        frame = [l3Version, L3Cmd.dataReq] ++ tokenDataBody token packets := by
  rw [encodeL3DataReq, FitsDataReq]
  constructor
  · intro encoded
    split at encoded
    · cases encoded
    next tokenFits =>
    split at encoded
    · cases encoded
    next countFits =>
    split at encoded
    · cases encoded
    next none =>
    cases encoded
    have fits : ∀ packet ∈ packets, packet.length ≤ 65535 := by
      intro packet member
      have small := List.find?_eq_none.mp none packet member
      simpa using small
    exact ⟨⟨by omega, by omega, fits⟩, rfl⟩
  · rintro ⟨⟨tokenFits, countFits, fits⟩, rfl⟩
    have none : packets.find? (fun packet => 65535 < packet.length) = none := by
      rw [List.find?_eq_none]
      intro packet member
      have small := fits packet member
      simpa using small
    rw [if_neg (by omega), if_neg (by omega), none]

theorem encodeL3DataReq_fails {token : Bytes} {packets : List Bytes}
    (tooLarge : ¬FitsDataReq token packets) :
    ∃ error, encodeL3DataReq token packets = .error error := by
  cases result : encodeL3DataReq token packets with
  | ok frame => exact absurd (encodeL3DataReq_eq_ok_iff.mp result).1 tooLarge
  | error error => exact ⟨error, rfl⟩

/-- The measuring and the extracting walk accept the same bodies, the measured
bytes give the packets and nothing shorter does, and both read back exactly the
requests that can be encoded. -/
theorem token_walks_agree :
    (∀ body,
      (∃ consumed, tokenBodyLen body = .ok consumed) ↔
        ∃ packets, parseL3TokenDataBody body = .ok packets) ∧
    (∀ body consumed,
      tokenBodyLen body = .ok consumed →
        consumed ≤ body.length ∧
        parseL3TokenDataBody (body.take consumed) =
          parseL3TokenDataBody body ∧
        ∀ front, front <+: body.take consumed → front ≠ body.take consumed →
          (∃ needed got, tokenBodyLen front = .error (.truncated needed got)) ∧
            ∃ needed got,
              parseL3TokenDataBody front =
                .error (.truncated needed got)) ∧
    ∀ token packets,
      (FitsDataReq token packets →
        ∃ body,
          encodeL3DataReq token packets =
              .ok ([l3Version, L3Cmd.dataReq] ++ body) ∧
            parseL3TokenDataBody body = .ok packets ∧
            tokenBodyLen body = .ok body.length) ∧
      (¬FitsDataReq token packets →
        ∃ error, encodeL3DataReq token packets = .error error) := by
  refine ⟨fun body => tokenBodyLen_ok_iff, ?_, ?_⟩
  · intro body consumed measured
    obtain ⟨packets, parsed⟩ := parseL3TokenDataBody_take measured
    have alone := parsed []
    have whole := parsed (body.drop consumed)
    rw [List.append_nil] at alone
    rw [List.take_append_drop] at whole
    exact ⟨(tokenBodyLen_bounds measured).2, alone.trans whole.symm,
      fun front opening shorter => tokenBodyLen_shorter measured opening shorter⟩
  · intro token packets
    constructor
    · intro fits
      have parsed :=
        parseL3TokenDataBody_tokenDataBody [] fits.1 fits.2.1 fits.2.2
      have measured := tokenBodyLen_tokenDataBody [] fits.1 fits.2.1 fits.2.2
      rw [List.append_nil] at parsed measured
      exact ⟨tokenDataBody token packets,
        encodeL3DataReq_eq_ok_iff.mpr ⟨fits, rfl⟩, parsed, measured⟩
    · exact encodeL3DataReq_fails

/-- Two bytes behind a body are not measured, and a request with a token and a
packet is read back. -/
theorem token_walks_agree_sample :
    parseL3TokenDataBody
        (([1, 0x61, 0, 0, 1, 0, 2, 0x45, 0x00, 9, 9] : Bytes).take 9) =
        parseL3TokenDataBody [1, 0x61, 0, 0, 1, 0, 2, 0x45, 0x00, 9, 9] ∧
      (∃ needed got,
        tokenBodyLen [1, 0x61, 0, 0, 1, 0] = .error (.truncated needed got)) ∧
      (∃ body,
        encodeL3DataReq [0x61] [[0x45, 0x00]] =
            .ok ([l3Version, L3Cmd.dataReq] ++ body) ∧
          parseL3TokenDataBody body = .ok [[0x45, 0x00]] ∧
          tokenBodyLen body = .ok body.length) ∧
      ∃ error,
        encodeL3DataReq (List.replicate 256 0x61) [] = .error error := by
  have measured :
      tokenBodyLen [1, 0x61, 0, 0, 1, 0, 2, 0x45, 0x00, 9, 9] = .ok 9 := by
    decide
  have whole := token_walks_agree.2.1 _ 9 measured
  have fits : FitsDataReq [0x61] [[0x45, 0x00]] := by
    refine ⟨by decide, by decide, ?_⟩
    intro packet member
    cases List.mem_singleton.mp member
    decide
  have tooLong : ¬FitsDataReq (List.replicate 256 0x61) [] := by
    intro fits
    have size := fits.1
    rw [List.length_replicate] at size
    exact absurd size (by decide)
  exact ⟨whole.2.1,
    (whole.2.2 [1, 0x61, 0, 0, 1, 0] ⟨[2, 0x45, 0x00], rfl⟩ (by decide)).1,
    (token_walks_agree.2.2 _ _).1 fits, (token_walks_agree.2.2 _ _).2 tooLong⟩

end HermesAtrust.Protocol
