import HermesAtrust.Protocol.L3Frame

/-!
# Decoding of `0x94` bodies

Two families of facts about `decodeL3DataRespBody`.

*Stability.*  An accepted body is accepted with the same packets and the same
length whatever bytes follow it, and the decoder's only complaint is that a
body is truncated.

*Layout discrimination.*  The leading length of a token-framed body is
`256 * tokenLen + token[0]`, so a token of seventeen bytes or more leaves the
range `(0, 4096]` of the length-prefixed branch.  The look-alike test for large
packets then reads bytes of the token, and a token whose bytes imitate an IP
length field is taken for a packet.
-/

namespace HermesAtrust.Protocol

open HermesAtrust.Framing

/-! ## Cursor loops -/

theorem skipPackets_bounds {body : Bytes} {count idx consumed : Nat}
    (inside : idx ≤ body.length)
    (skipped : skipPackets body count idx = .ok consumed) :
    idx ≤ consumed ∧ consumed ≤ body.length := by
  induction count generalizing idx with
  | zero =>
      simp only [skipPackets, Except.ok.injEq] at skipped
      omega
  | succ count inductionHypothesis =>
      simp only [skipPackets] at skipped
      split at skipped
      · cases skipped
      · split at skipped
        · cases skipped
        · have bounds := inductionHypothesis (by omega) skipped
          omega

theorem skipPackets_append {body : Bytes} {count idx consumed : Nat}
    (rest : Bytes) (skipped : skipPackets body count idx = .ok consumed) :
    skipPackets (body ++ rest) count idx = .ok consumed := by
  induction count generalizing idx with
  | zero =>
      simpa only [skipPackets] using skipped
  | succ count inductionHypothesis =>
      simp only [skipPackets] at skipped ⊢
      split at skipped
      · cases skipped
      · split at skipped
        · cases skipped
        · have firstByte :
              byteAt (body ++ rest) idx = byteAt body idx :=
            byteAt_append_left (by omega)
          have secondByte :
              byteAt (body ++ rest) (idx + 1) = byteAt body (idx + 1) :=
            byteAt_append_left (by omega)
          rw [firstByte, secondByte, List.length_append,
            if_neg (by omega), if_neg (by omega)]
          exact inductionHypothesis skipped

theorem skipPackets_error {body : Bytes} {count idx : Nat}
    {error : L3FrameError}
    (refused : skipPackets body count idx = .error error) :
    ∃ needed got, error = .truncated needed got := by
  induction count generalizing idx with
  | zero =>
      simp [skipPackets] at refused
  | succ count inductionHypothesis =>
      simp only [skipPackets] at refused
      split at refused
      · cases refused
        exact ⟨_, _, rfl⟩
      · split at refused
        · cases refused
          exact ⟨_, _, rfl⟩
        · exact inductionHypothesis refused

theorem parsePackets_error {body : Bytes} {count idx : Nat}
    {error : L3FrameError}
    (refused : parsePackets body count idx = .error error) :
    ∃ needed got, error = .truncated needed got := by
  induction count generalizing idx with
  | zero =>
      simp [parsePackets] at refused
  | succ count inductionHypothesis =>
      simp only [parsePackets] at refused
      split at refused
      · cases refused
        exact ⟨_, _, rfl⟩
      · split at refused
        · cases refused
          exact ⟨_, _, rfl⟩
        · split at refused
          · cases refused
          · rename_i deeper
            cases refused
            exact inductionHypothesis deeper

theorem tokenBodyLen_error {body : Bytes} {error : L3FrameError}
    (refused : tokenBodyLen body = .error error) :
    ∃ needed got, error = .truncated needed got := by
  unfold tokenBodyLen at refused
  split at refused
  · cases refused
    exact ⟨_, _, rfl⟩
  · simp only at refused
    split at refused
    · cases refused
      exact ⟨_, _, rfl⟩
    · exact skipPackets_error refused

theorem parseL3TokenDataBody_error {body : Bytes} {error : L3FrameError}
    (refused : parseL3TokenDataBody body = .error error) :
    ∃ needed got, error = .truncated needed got := by
  unfold parseL3TokenDataBody at refused
  split at refused
  · cases refused
    exact ⟨_, _, rfl⟩
  · simp only at refused
    split at refused
    · cases refused
      exact ⟨_, _, rfl⟩
    · exact parsePackets_error refused

theorem tokenBodyLen_bounds {body : Bytes} {consumed : Nat}
    (measured : tokenBodyLen body = .ok consumed) :
    4 ≤ consumed ∧ consumed ≤ body.length := by
  unfold tokenBodyLen at measured
  split at measured
  · cases measured
  · simp only at measured
    split at measured
    · cases measured
    · have bounds := skipPackets_bounds (by omega) measured
      omega

theorem tokenBodyLen_append {body : Bytes} {consumed : Nat} (rest : Bytes)
    (measured : tokenBodyLen body = .ok consumed) :
    tokenBodyLen (body ++ rest) = .ok consumed := by
  unfold tokenBodyLen at measured ⊢
  split at measured
  · cases measured
  · simp only at measured
    split at measured
    · cases measured
    · have nonempty : body ++ rest ≠ [] := by simp_all
      have lengthByte : byteAt (body ++ rest) 0 = byteAt body 0 :=
        byteAt_append_left (by omega)
      rw [if_neg nonempty]
      simp only [lengthByte, List.length_append]
      rw [if_neg (by omega), byteAt_append_left (by omega)]
      exact skipPackets_append rest measured

/-! ## Stability of the body decoder -/

theorem largeLengthPrefixedPacket_append {body : Bytes} {packetLen : Nat}
    (rest : Bytes)
    (decided : ∀ needed,
      largeLengthPrefixedPacket body packetLen ≠ .needMore needed) :
    largeLengthPrefixedPacket (body ++ rest) packetLen =
      largeLengthPrefixedPacket body packetLen := by
  unfold largeLengthPrefixedPacket at decided ⊢
  cases third : (body[2]? : Option UInt8) with
  | none =>
      simp [third] at decided
  | some byte =>
      have inside : 2 < body.length := by
        obtain ⟨bound, _⟩ := List.getElem?_eq_some_iff.mp third
        exact bound
      have extended : ((body ++ rest)[2]? : Option UInt8) = some byte := by
        rw [List.getElem?_append_left inside, third]
      simp only [third, extended] at decided ⊢
      by_cases four : byte >>> 4 = 4 ∧ 20 ≤ packetLen
      · simp only [if_pos four] at decided ⊢
        by_cases short : body.length < 6
        · simp [short] at decided
        · rw [if_neg short, List.length_append, if_neg (by omega),
            byteAt_append_left (by omega), byteAt_append_left (by omega)]
      · simp only [if_neg four] at decided ⊢
        by_cases six : byte >>> 4 = 6 ∧ 40 ≤ packetLen
        · simp only [if_pos six] at decided ⊢
          by_cases short : body.length < 8
          · simp [short] at decided
          · rw [if_neg short, List.length_append, if_neg (by omega),
              byteAt_append_left (by omega), byteAt_append_left (by omega)]
        · simp only [if_neg six]

theorem dataRespLayout_append {body : Bytes} {layout : DataRespLayout}
    (rest : Bytes) (long : 2 ≤ body.length)
    (chosen : dataRespLayout body = .ok layout) :
    dataRespLayout (body ++ rest) = .ok layout := by
  have firstByte : byteAt (body ++ rest) 0 = byteAt body 0 :=
    byteAt_append_left (by omega)
  have secondByte : byteAt (body ++ rest) 1 = byteAt body 1 :=
    byteAt_append_left (by omega)
  unfold dataRespLayout at chosen ⊢
  simp only [firstByte, secondByte] at chosen ⊢
  cases classified :
      classifyDataRespPrefix (byteAt body 0) (byteAt body 1) with
  | lengthPrefixed packetLen =>
      simpa only [classified] using chosen
  | tokenFramed =>
      simp only [classified] at chosen ⊢
      split at chosen
      · rename_i large
        rw [if_pos large]
        cases decision :
            largeLengthPrefixedPacket body
              (beU16 (byteAt body 0) (byteAt body 1)) with
        | needMore needed =>
            simp [decision] at chosen
        | valid =>
            rw [largeLengthPrefixedPacket_append rest (by simp [decision]),
              decision]
            simpa only [decision] using chosen
        | notIp =>
            rw [largeLengthPrefixedPacket_append rest (by simp [decision]),
              decision]
            simpa only [decision] using chosen
      · rename_i small
        rw [if_neg small]
        exact chosen

theorem dataRespLayout_error {body : Bytes} {error : L3FrameError}
    (refused : dataRespLayout body = .error error) :
    ∃ needed got, error = .truncated needed got := by
  unfold dataRespLayout at refused
  simp only at refused
  split at refused
  · split at refused
    · split at refused
      · cases refused
        exact ⟨_, _, rfl⟩
      · cases refused
      · cases refused
    · cases refused
  · cases refused

/-- A length-prefixed layout never announces an empty packet. -/
theorem dataRespLayout_lengthPrefixed_pos {body : Bytes} {packetLen : Nat}
    (chosen : dataRespLayout body = .ok (.lengthPrefixed packetLen)) :
    0 < packetLen := by
  unfold dataRespLayout classifyDataRespPrefix at chosen
  by_cases small :
      0 < beU16 (byteAt body 0) (byteAt body 1) ∧
        beU16 (byteAt body 0) (byteAt body 1) ≤ maxLengthPrefixedDataResp
  · simp only [if_pos small, Except.ok.injEq,
      DataRespLayout.lengthPrefixed.injEq] at chosen
    omega
  · simp only [if_neg small] at chosen
    split at chosen
    · split at chosen
      · cases chosen
      · cases chosen
        omega
      · cases chosen
    · cases chosen

/-- An accepted body is accepted alike whatever bytes follow it. -/
theorem decodeL3DataRespBody_append {body : Bytes}
    {packets : DataRespPackets} {consumed : Nat} (rest : Bytes)
    (accepted : decodeL3DataRespBody body = .ok (packets, consumed)) :
    decodeL3DataRespBody (body ++ rest) = .ok (packets, consumed) := by
  unfold decodeL3DataRespBody at accepted ⊢
  split at accepted
  · cases accepted
  · rename_i long
    rw [List.length_append, if_neg (by omega)]
    split at accepted
    · cases accepted
    · rename_i packetLen chosen
      rw [dataRespLayout_append rest (by omega) chosen]
      simp only at accepted ⊢
      split at accepted
      · cases accepted
      · rw [if_neg (by omega), List.drop_append_of_le_length (by omega),
          List.take_append_of_le_length (by rw [List.length_drop]; omega)]
        exact accepted
    · rename_i chosen
      rw [dataRespLayout_append rest (by omega) chosen]
      simp only at accepted ⊢
      split at accepted
      · cases accepted
      · rename_i length measured
        have bounds := tokenBodyLen_bounds measured
        rw [tokenBodyLen_append rest measured]
        simp only
        rw [List.take_append_of_le_length bounds.2]
        exact accepted

/-- An accepted body occupies at least three and at most all of the bytes. -/
theorem decodeL3DataRespBody_bounds {body : Bytes}
    {packets : DataRespPackets} {consumed : Nat}
    (accepted : decodeL3DataRespBody body = .ok (packets, consumed)) :
    3 ≤ consumed ∧ consumed ≤ body.length := by
  unfold decodeL3DataRespBody at accepted
  split at accepted
  · cases accepted
  · split at accepted
    · cases accepted
    · rename_i packetLen chosen
      have positive := dataRespLayout_lengthPrefixed_pos chosen
      simp only at accepted
      split at accepted
      · cases accepted
      · cases accepted
        omega
    · split at accepted
      · cases accepted
      · rename_i length measured
        have bounds := tokenBodyLen_bounds measured
        split at accepted
        · cases accepted
        · cases accepted
          omega

/-- The decoder's only complaint is that the body is not complete yet. -/
theorem decodeL3DataRespBody_error {body : Bytes} {error : L3FrameError}
    (refused : decodeL3DataRespBody body = .error error) :
    ∃ needed got, error = .truncated needed got := by
  unfold decodeL3DataRespBody at refused
  split at refused
  · cases refused
    exact ⟨_, _, rfl⟩
  · split at refused
    · rename_i undecided
      cases refused
      exact dataRespLayout_error undecided
    · simp only at refused
      split at refused
      · cases refused
        exact ⟨_, _, rfl⟩
      · cases refused
    · split at refused
      · rename_i unmeasured
        cases refused
        exact tokenBodyLen_error unmeasured
      · split at refused
        · rename_i unparsed
          cases refused
          exact parseL3TokenDataBody_error unparsed
        · cases refused

/-! ## The look-alike test -/

/-- The payload starts like an IPv4 or IPv6 header whose own length field
announces a packet of `n` bytes. -/
def DeclaresIpLength (payload : Bytes) (n : Nat) : Prop :=
  (byteAt payload 0 >>> 4 = 4 ∧
      20 ≤ (byteAt payload 0 &&& 0x0f).toNat * 4 ∧
      (byteAt payload 0 &&& 0x0f).toNat * 4 ≤ n ∧
      beU16 (byteAt payload 2) (byteAt payload 3) = n) ∨
    (byteAt payload 0 >>> 4 = 6 ∧
      beU16 (byteAt payload 4) (byteAt payload 5) + 40 = n)

instance (payload : Bytes) (n : Nat) :
    Decidable (DeclaresIpLength payload n) :=
  inferInstanceAs (Decidable (_ ∨ _))

/-- The test reads the first six bytes of the payload only. -/
theorem declaresIpLength_append {payload : Bytes} {n : Nat} (rest : Bytes)
    (long : 6 ≤ payload.length) :
    DeclaresIpLength (payload ++ rest) n ↔ DeclaresIpLength payload n := by
  unfold DeclaresIpLength
  rw [byteAt_append_left (by omega : 0 < payload.length),
    byteAt_append_left (by omega : 2 < payload.length),
    byteAt_append_left (by omega : 3 < payload.length),
    byteAt_append_left (by omega : 4 < payload.length),
    byteAt_append_left (by omega : 5 < payload.length)]

/-- With six bytes of payload present the test decides. -/
theorem largeLengthPrefixedPacket_eq {high low : UInt8} {payload : Bytes}
    {n : Nat} (large : 40 ≤ n) (long : 6 ≤ payload.length) :
    largeLengthPrefixedPacket (high :: low :: payload) n =
      if DeclaresIpLength payload n then .valid else .notIp := by
  have third :
      ((high :: low :: payload)[2]? : Option UInt8) =
        some (byteAt payload 0) := by
    cases payload with
    | nil => simp at long
    | cons head tail => rfl
  unfold largeLengthPrefixedPacket
  rw [third]
  simp only [byteAt_cons_succ, List.length_cons]
  rw [if_neg (by omega : ¬ payload.length + 1 + 1 < 6),
    if_neg (by omega : ¬ payload.length + 1 + 1 < 8)]
  by_cases four : byteAt payload 0 >>> 4 = 4
  · have notSix : ¬ byteAt payload 0 >>> 4 = 6 := by
      rw [four]
      decide
    rw [if_pos ⟨four, by omega⟩]
    refine if_congr ?_ rfl rfl
    constructor
    · intro shape
      exact Or.inl ⟨four, shape⟩
    · rintro (⟨_, shape⟩ | ⟨isSix, _⟩)
      · exact shape
      · exact absurd isSix notSix
  · rw [if_neg (fun both => four both.1)]
    by_cases six : byteAt payload 0 >>> 4 = 6
    · rw [if_pos ⟨six, large⟩]
      refine if_congr ?_ rfl rfl
      constructor
      · intro shape
        exact Or.inr ⟨six, shape⟩
      · rintro (⟨isFour, _⟩ | ⟨_, shape⟩)
        · exact absurd isFour four
        · exact shape
    · rw [if_neg (fun both => six both.1), if_neg]
      rintro (⟨isFour, _⟩ | ⟨isSix, _⟩)
      · exact four isFour
      · exact six isSix

/-- Past the threshold the layout is what the look-alike test says. -/
theorem dataRespLayout_large {high low : UInt8} {payload : Bytes}
    (large : 4096 < beU16 high low) (long : 6 ≤ payload.length) :
    dataRespLayout (high :: low :: payload) =
      if DeclaresIpLength payload (beU16 high low) then
        .ok (.lengthPrefixed (beU16 high low))
      else
        .ok .tokenFramed := by
  have classified : classifyDataRespPrefix high low = .tokenFramed :=
    if_neg (by unfold maxLengthPrefixedDataResp; omega)
  have pastThreshold : maxLengthPrefixedDataResp < beU16 high low := large
  simp only [dataRespLayout, byteAt_cons_zero, byteAt_cons_succ, classified,
    pastThreshold, if_true,
    largeLengthPrefixedPacket_eq (by omega : 40 ≤ beU16 high low) long]
  by_cases declares : DeclaresIpLength payload (beU16 high low) <;>
    simp [declares]

/-- Up to the threshold a nonzero length is a packet length. -/
theorem dataRespLayout_small {high low : UInt8} (payload : Bytes)
    (positive : 0 < beU16 high low) (small : beU16 high low ≤ 4096) :
    dataRespLayout (high :: low :: payload) =
      .ok (.lengthPrefixed (beU16 high low)) := by
  have classified :
      classifyDataRespPrefix high low = .lengthPrefixed (beU16 high low) :=
    if_pos ⟨positive, small⟩
  simp only [dataRespLayout, byteAt_cons_zero, byteAt_cons_succ, classified]

/-! ## Token-framed bodies -/

section EncodedPackets

variable {packets : List Bytes}

private theorem packetLength_at_cursor (stem more : Bytes) {packet : Bytes}
    (fits : packet.length ≤ 65535) :
    beU16 (byteAt (stem ++ (encodePacket packet ++ more)) stem.length)
        (byteAt (stem ++ (encodePacket packet ++ more)) (stem.length + 1)) =
      packet.length := by
  have first :=
    byteAt_append_right stem (encodePacket packet ++ more) 0
  rw [Nat.add_zero] at first
  rw [first, byteAt_append_right]
  exact beU16_toBeU16 (by omega)

private theorem packet_at_cursor (stem packet more : Bytes) :
    ((stem ++ (encodePacket packet ++ more)).drop (stem.length + 2)).take
        packet.length =
      packet := by
  rw [List.drop_append, Nat.add_sub_cancel_left,
    List.drop_eq_nil_of_le (by omega : stem.length ≤ stem.length + 2)]
  simp [encodePacket, toBeU16]

/-- The cursor loop walks exactly over the encoded packets. -/
theorem skipPackets_encodePackets (stem rest : Bytes)
    (fits : ∀ packet ∈ packets, packet.length ≤ 65535) :
    skipPackets (stem ++ (packets.flatMap encodePacket ++ rest))
        packets.length stem.length =
      .ok (stem.length + (packets.flatMap encodePacket).length) := by
  induction packets generalizing stem with
  | nil =>
      simp [skipPackets]
  | cons packet later inductionHypothesis =>
      have packetFits := fits packet (by simp)
      have laterWalk :=
        inductionHypothesis (stem ++ encodePacket packet)
          (fun packet member => fits packet (List.mem_cons_of_mem _ member))
      have encodedLength :
          (encodePacket packet).length = 2 + packet.length := by
        simp [encodePacket]
      simp only [List.flatMap_cons, List.length_cons, List.append_assoc,
        skipPackets]
      rw [packetLength_at_cursor stem _ packetFits]
      simp only [List.length_append, encodedLength, List.append_assoc] at laterWalk ⊢
      rw [if_neg (by omega), if_neg (by omega),
        show stem.length + 2 + packet.length =
          stem.length + (2 + packet.length) by omega,
        laterWalk]
      congr 1
      omega

/-- The packet loop reads the encoded packets back. -/
theorem parsePackets_encodePackets (stem rest : Bytes)
    (fits : ∀ packet ∈ packets, packet.length ≤ 65535) :
    parsePackets (stem ++ (packets.flatMap encodePacket ++ rest))
        packets.length stem.length =
      .ok packets := by
  induction packets generalizing stem with
  | nil =>
      simp [parsePackets]
  | cons packet later inductionHypothesis =>
      have packetFits := fits packet (by simp)
      have laterWalk :=
        inductionHypothesis (stem ++ encodePacket packet)
          (fun packet member => fits packet (List.mem_cons_of_mem _ member))
      have encodedLength :
          (encodePacket packet).length = 2 + packet.length := by
        simp [encodePacket]
      simp only [List.flatMap_cons, List.length_cons, List.append_assoc,
        parsePackets]
      rw [packetLength_at_cursor stem _ packetFits, packet_at_cursor]
      simp only [List.length_append, encodedLength, List.append_assoc] at laterWalk ⊢
      rw [if_neg (by omega), if_neg (by omega),
        show stem.length + 2 + packet.length =
          stem.length + (2 + packet.length) by omega,
        laterWalk]

end EncodedPackets

section TokenFramed

variable {token : Bytes} {packets : List Bytes}

/-- `tokenLen | token | 00 00 | count`. -/
def tokenHeader (token : Bytes) (count : Nat) : Bytes :=
  UInt8.ofNat token.length :: token ++ [0x00, 0x00, UInt8.ofNat count]

@[simp]
theorem length_tokenHeader (token : Bytes) (count : Nat) :
    (tokenHeader token count).length = token.length + 4 := by
  simp [tokenHeader]

theorem tokenDataBody_eq (token : Bytes) (packets : List Bytes) :
    tokenDataBody token packets =
      tokenHeader token packets.length ++ packets.flatMap encodePacket :=
  rfl

private theorem byteAt_tokenHeader_count (count : Nat) (more : Bytes) :
    byteAt (tokenHeader token count ++ more) (1 + token.length + 2) =
      UInt8.ofNat count := by
  have shape :
      tokenHeader token count ++ more =
        (UInt8.ofNat token.length :: token) ++
          ([0x00, 0x00, UInt8.ofNat count] ++ more) := by
    simp [tokenHeader]
  have index :
      1 + token.length + 2 =
        (UInt8.ofNat token.length :: token).length + 2 := by
    rw [List.length_cons]
    omega
  rw [shape, index, byteAt_append_right]
  rfl

private theorem toNat_ofNat_of_le {value : Nat} (fits : value ≤ 255) :
    (UInt8.ofNat value).toNat = value := by
  rw [UInt8.toNat_ofNat']
  omega

/-- The measured length of an encoded token-framed body is its own. -/
theorem tokenBodyLen_tokenDataBody (rest : Bytes)
    (tokenFits : token.length ≤ 255) (countFits : packets.length ≤ 255)
    (fits : ∀ packet ∈ packets, packet.length ≤ 65535) :
    tokenBodyLen (tokenDataBody token packets ++ rest) =
      .ok (tokenDataBody token packets).length := by
  have walk :=
    skipPackets_encodePackets (tokenHeader token packets.length) rest fits
  unfold tokenBodyLen
  rw [tokenDataBody_eq, List.append_assoc, if_neg (by simp [tokenHeader])]
  have lengthByte :
      (byteAt (tokenHeader token packets.length ++
        (packets.flatMap encodePacket ++ rest)) 0).toNat = token.length := by
    exact toNat_ofNat_of_le tokenFits
  simp only [lengthByte, byteAt_tokenHeader_count,
    toNat_ofNat_of_le countFits]
  rw [if_neg (by simp only [List.length_append, length_tokenHeader]; omega)]
  rw [length_tokenHeader] at walk
  rw [show 1 + token.length + 3 = token.length + 4 by omega, walk,
    List.length_append, length_tokenHeader]

/-- Parsing an encoded token-framed body returns its packets. -/
theorem parseL3TokenDataBody_tokenDataBody (rest : Bytes)
    (tokenFits : token.length ≤ 255) (countFits : packets.length ≤ 255)
    (fits : ∀ packet ∈ packets, packet.length ≤ 65535) :
    parseL3TokenDataBody (tokenDataBody token packets ++ rest) =
      .ok packets := by
  have walk :=
    parsePackets_encodePackets (tokenHeader token packets.length) rest fits
  unfold parseL3TokenDataBody
  rw [tokenDataBody_eq, List.append_assoc,
    if_neg (by simp only [List.length_append, length_tokenHeader]; omega)]
  have lengthByte :
      (byteAt (tokenHeader token packets.length ++
        (packets.flatMap encodePacket ++ rest)) 0).toNat = token.length := by
    exact toNat_ofNat_of_le tokenFits
  simp only [lengthByte, byteAt_tokenHeader_count,
    toNat_ofNat_of_le countFits]
  rw [if_neg (by simp only [List.length_append, length_tokenHeader]; omega)]
  rw [length_tokenHeader] at walk
  rw [show 1 + token.length + 3 = token.length + 4 by omega, walk]

/-- From its second byte on the token reads like an IP header whose length
field holds the leading number `256 * tokenLen + token[0]` of the body. -/
def TokenImitatesIp (token : Bytes) : Prop :=
  DeclaresIpLength token.tail
    (beU16 (UInt8.ofNat token.length) (byteAt token 0))

instance (token : Bytes) : Decidable (TokenImitatesIp token) :=
  inferInstanceAs (Decidable (DeclaresIpLength _ _))

/-- Layout chosen for a token-framed body with a long enough token. -/
theorem dataRespLayout_tokenHeader (count : Nat) (more : Bytes)
    (long : 17 ≤ token.length) (tokenFits : token.length ≤ 255) :
    dataRespLayout (tokenHeader token count ++ more) =
      if TokenImitatesIp token then
        .ok (.lengthPrefixed
          (beU16 (UInt8.ofNat token.length) (byteAt token 0)))
      else
        .ok .tokenFramed := by
  cases token with
  | nil => simp at long
  | cons head tail =>
      have leadLarge :
          4096 < beU16 (UInt8.ofNat (head :: tail).length) head := by
        unfold beU16
        rw [toNat_ofNat_of_le tokenFits]
        omega
      have tailLong : 6 ≤ tail.length := by
        rw [List.length_cons] at long
        omega
      have body :
          tokenHeader (head :: tail) count ++ more =
            UInt8.ofNat (head :: tail).length :: head ::
              (tail ++ ([0x00, 0x00, UInt8.ofNat count] ++ more)) := by
        simp [tokenHeader]
      rw [body, dataRespLayout_large leadLarge (by simp; omega)]
      simp only [declaresIpLength_append _ tailLong]
      rfl

/-- A token of 17 to 255 bytes is recognized in front of its packets, with
nothing of what follows consumed, exactly when its bytes do not imitate an IP
length field. -/
theorem decodeL3DataRespBody_tokenDataBody_iff (rest : Bytes)
    (long : 17 ≤ token.length) (tokenFits : token.length ≤ 255)
    (countFits : packets.length ≤ 255)
    (fits : ∀ packet ∈ packets, packet.length ≤ 65535) :
    decodeL3DataRespBody (tokenDataBody token packets ++ rest) =
        .ok (.tokenFramed packets, (tokenDataBody token packets).length) ↔
      ¬ TokenImitatesIp token := by
  have layout :=
    dataRespLayout_tokenHeader packets.length
      (packets.flatMap encodePacket ++ rest) long tokenFits
  rw [← List.append_assoc, ← tokenDataBody_eq] at layout
  have longBody : ¬ (tokenDataBody token packets ++ rest).length < 2 := by
    rw [tokenDataBody_eq]
    simp only [List.length_append, length_tokenHeader]
    omega
  unfold decodeL3DataRespBody
  rw [if_neg longBody, layout]
  by_cases imitates : TokenImitatesIp token
  · refine iff_of_false ?_ (not_not_intro imitates)
    simp only [if_pos imitates]
    split <;> simp
  · refine iff_of_true ?_ imitates
    have parsed :
        parseL3TokenDataBody (tokenDataBody token packets) = .ok packets := by
      simpa using
        parseL3TokenDataBody_tokenDataBody [] tokenFits countFits fits
    rw [if_neg imitates]
    simp only [tokenBodyLen_tokenDataBody rest tokenFits countFits fits,
      List.take_left, parsed]

/-- Sixty-five bytes of printable text: `E` in second place opens an IPv4
header, and `Aa` in fourth place repeats the length byte and the first letter. -/
def imitatingToken : Bytes :=
  [0x61, 0x45, 0x61, 0x41, 0x61] ++ List.replicate 60 0x78

theorem decodeL3DataRespBody_tokenDataBody_iff_hex32 :
    decodeL3DataRespBody
        (tokenDataBody (List.replicate 32 0x66) [[0x45, 0x00]] ++ [0x05]) =
      .ok (.tokenFramed [[0x45, 0x00]],
        (tokenDataBody (List.replicate 32 0x66) [[0x45, 0x00]]).length) :=
  (decodeL3DataRespBody_tokenDataBody_iff [0x05] (by decide) (by decide)
    (by decide) (by decide)).mpr (by decide)

theorem decodeL3DataRespBody_misreads_imitatingToken :
    17 ≤ imitatingToken.length ∧ imitatingToken.length ≤ 255 ∧
      decodeL3DataRespBody (tokenDataBody imitatingToken [[0x45, 0x00]]) ≠
        .ok (.tokenFramed [[0x45, 0x00]],
          (tokenDataBody imitatingToken [[0x45, 0x00]]).length) := by
  decide

end TokenFramed

/-! ## Length-prefixed bodies -/

/-- The packets that survive a length prefix: at most `4096` bytes, or an IP
packet whose own length field agrees with its length. -/
def SelfDelimiting (packet : Bytes) : Prop :=
  packet.length ≤ 4096 ∨ DeclaresIpLength packet packet.length

instance (packet : Bytes) : Decidable (SelfDelimiting packet) :=
  inferInstanceAs (Decidable (_ ∨ _))

theorem dataRespLayout_encodePacket {packet : Bytes} (rest : Bytes)
    (nonempty : packet ≠ []) (fits : packet.length ≤ 65535) :
    dataRespLayout (encodePacket packet ++ rest) =
      if SelfDelimiting packet then
        .ok (.lengthPrefixed packet.length)
      else
        .ok .tokenFramed := by
  have positive : 0 < packet.length := List.length_pos_iff.mpr nonempty
  have lead :
      beU16 (UInt8.ofNat (packet.length / 256))
          (UInt8.ofNat packet.length) = packet.length :=
    beU16_toBeU16 (by omega)
  have body :
      encodePacket packet ++ rest =
        UInt8.ofNat (packet.length / 256) :: UInt8.ofNat packet.length ::
          (packet ++ rest) :=
    rfl
  rw [body]
  by_cases small : packet.length ≤ 4096
  · have delimited : SelfDelimiting packet := Or.inl small
    rw [dataRespLayout_small _ (by omega) (by omega), lead,
      if_pos delimited]
  · rw [dataRespLayout_large (by omega)
      (by rw [List.length_append]; omega), lead]
    refine if_congr ?_ rfl rfl
    rw [declaresIpLength_append rest (by omega)]
    constructor
    · exact Or.inr
    · rintro (short | declares)
      · exact absurd short small
      · exact declares

/-- A length-prefixed body gives its packet back, and nothing of what follows,
exactly when the packet is self-delimiting. -/
theorem decodeL3DataRespBody_encodePacket_iff {packet : Bytes} (rest : Bytes)
    (nonempty : packet ≠ []) (fits : packet.length ≤ 65535) :
    decodeL3DataRespBody (encodePacket packet ++ rest) =
        .ok (.lengthPrefixed packet, 2 + packet.length) ↔
      SelfDelimiting packet := by
  have longBody : ¬ (encodePacket packet ++ rest).length < 2 := by
    simp only [encodePacket, List.length_append, length_toBeU16]
    omega
  unfold decodeL3DataRespBody
  rw [if_neg longBody, dataRespLayout_encodePacket rest nonempty fits]
  by_cases delimited : SelfDelimiting packet
  · refine iff_of_true ?_ delimited
    have complete :
        ¬ (encodePacket packet ++ rest).length < 2 + packet.length := by
      simp [encodePacket]
    simp only [if_pos delimited]
    rw [if_neg complete]
    simp [encodePacket, toBeU16]
  · refine iff_of_false ?_ delimited
    simp only [if_neg delimited]
    split
    · simp
    · split <;> simp

/-- A length-prefixed answer takes two header bytes and its packet. -/
theorem decodeL3DataRespBody_lengthPrefixed {body packet : Bytes}
    {consumed : Nat}
    (accepted :
      decodeL3DataRespBody body = .ok (.lengthPrefixed packet, consumed)) :
    consumed = 2 + packet.length := by
  unfold decodeL3DataRespBody at accepted
  split at accepted
  · cases accepted
  · split at accepted
    · cases accepted
    · simp only at accepted
      split at accepted
      · cases accepted
      · cases accepted
        rw [List.length_take, List.length_drop]
        omega
    · split at accepted
      · cases accepted
      · split at accepted <;> cases accepted

end HermesAtrust.Protocol
