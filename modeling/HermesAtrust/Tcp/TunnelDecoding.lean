import HermesAtrust.Framing.StreamSplitter
import HermesAtrust.Tcp.Tunnel

/-!
# The tunnel decoder as a stream splitter

`try_decode_app` restarts its padding scan at the head of the buffer on every
call, so padding that arrived in an earlier read is counted again.  Seen as a
splitter, an item is a run of padding together with the frame after it: it is
cut off as a whole when its last byte has arrived, and until then the padding
stays in the buffer.  The limit on padding is reached by the bytes of one item
alone, hence at the same place however they arrive.
-/

namespace HermesAtrust.Tcp

open HermesAtrust.Framing HermesAtrust.Protocol

/-- What the decoder finds behind a run of padding. -/
inductive TunnelItem where
  | app (payload : Bytes)
  | serverClose
  | marker
  | nodeChatter
  | status (body : Bytes)
  deriving DecidableEq, Repr

/-- A frame with a sixteen-bit length and a body, behind its header. -/
def scanBody (item : Bytes → TunnelItem) (skipped : Nat) (rest : Bytes) :
    SplitResult TunnelItem TunnelError :=
  let len := beU16 (byteAt rest 0) (byteAt rest 1)
  if rest.length < 2 + len then
    .needMore
  else
    .frame (item ((rest.drop 2).take len)) (skipped + 4 + len)

/-- An `01 01` frame, behind its header. -/
def scanTrailer (skipped : Nat) (rest : Bytes) :
    SplitResult TunnelItem TunnelError :=
  if rest.length < 2 then
    .needMore
  else if [byteAt rest 0, byteAt rest 1] = serverCloseTrailer then
    .frame .serverClose (skipped + 4)
  else
    .frame .marker (skipped + 4)

/-- Scan for the next item, with the number of padding bytes passed over. -/
def scanItem : Nat → Bytes → SplitResult TunnelItem TunnelError
  | skipped, h0 :: h1 :: rest =>
      if h0 = 0x01 ∧ h1 = 0x00 then
        scanBody .app skipped rest
      else if h0 = 0x01 ∧ h1 = 0x01 then
        scanTrailer skipped rest
      else if h0 = 0x05 ∧ h1 = 0x81 then
        .frame .nodeChatter (skipped + 2)
      else if h0 = 0x53 ∧ h1 = 0x00 then
        scanBody .status skipped rest
      else if maxSkippedChatterBytes < skipped + 2 then
        .failed (.unexpectedFrame h0 h1)
      else
        scanItem (skipped + 2) rest
  | _, [] => .needMore
  | _, [_] => .needMore

/-! ## Stability -/

theorem scanBody_bounds {item : Bytes → TunnelItem} {skipped consumed : Nat}
    {rest : Bytes} {decoded : TunnelItem}
    (found : scanBody item skipped rest = .frame decoded consumed) :
    skipped + 2 ≤ consumed ∧ consumed ≤ skipped + (rest.length + 2) := by
  unfold scanBody at found
  by_cases short : rest.length < 2 + beU16 (byteAt rest 0) (byteAt rest 1)
  · simp [short] at found
  · simp only [short, if_false, SplitResult.frame.injEq] at found
    omega

theorem scanTrailer_bounds {skipped consumed : Nat} {rest : Bytes}
    {decoded : TunnelItem}
    (found : scanTrailer skipped rest = .frame decoded consumed) :
    skipped + 2 ≤ consumed ∧ consumed ≤ skipped + (rest.length + 2) := by
  unfold scanTrailer at found
  by_cases short : rest.length < 2
  · simp [short] at found
  · by_cases close : [byteAt rest 0, byteAt rest 1] = serverCloseTrailer
    · simp only [short, close, if_false, if_true,
        SplitResult.frame.injEq] at found
      omega
    · simp only [short, close, if_false, SplitResult.frame.injEq] at found
      omega

/-- An item ends behind its header and within the buffer. -/
theorem scanItem_bounds {skipped consumed : Nat} {buffer : Bytes}
    {decoded : TunnelItem}
    (found : scanItem skipped buffer = .frame decoded consumed) :
    skipped + 2 ≤ consumed ∧ consumed ≤ skipped + buffer.length := by
  fun_induction scanItem skipped buffer with
  | case1 skipped h0 h1 rest header => exact scanBody_bounds found
  | case2 skipped h0 h1 rest _ header => exact scanTrailer_bounds found
  | case3 skipped h0 h1 rest _ _ header =>
      simp only [SplitResult.frame.injEq] at found
      simp only [List.length_cons]
      omega
  | case4 skipped h0 h1 rest _ _ _ header => exact scanBody_bounds found
  | case5 => simp at found
  | case6 skipped h0 h1 rest _ _ _ _ _ inductionHypothesis =>
      have bounds := inductionHypothesis found
      simp only [List.length_cons]
      omega
  | case7 => simp at found
  | case8 => simp at found

/-- The two bytes behind a header read the same with more bytes behind. -/
theorem byteAt_append_of_two_le {rest : Bytes} (later : Bytes)
    (present : 2 ≤ rest.length) :
    byteAt (rest ++ later) 0 = byteAt rest 0 ∧
      byteAt (rest ++ later) 1 = byteAt rest 1 :=
  ⟨byteAt_append_left (by omega), byteAt_append_left (by omega)⟩

theorem scanBody_append {item : Bytes → TunnelItem} {skipped : Nat}
    {rest : Bytes} (later : Bytes)
    (answered : scanBody item skipped rest ≠ .needMore) :
    scanBody item skipped (rest ++ later) = scanBody item skipped rest := by
  unfold scanBody at answered ⊢
  by_cases short : rest.length < 2 + beU16 (byteAt rest 0) (byteAt rest 1)
  · simp [short] at answered
  · obtain ⟨high, low⟩ := byteAt_append_of_two_le later (by omega : 2 ≤ rest.length)
    have dropped : (rest ++ later).drop 2 = rest.drop 2 ++ later :=
      List.drop_append_of_le_length (by omega)
    have longer :
        ¬ (rest ++ later).length <
          2 + beU16 (byteAt rest 0) (byteAt rest 1) := by
      rw [List.length_append]
      omega
    simp only [high, low, short, longer, if_false, dropped]
    rw [List.take_append_of_le_length]
    rw [List.length_drop]
    omega

theorem scanTrailer_append {skipped : Nat} {rest : Bytes} (later : Bytes)
    (answered : scanTrailer skipped rest ≠ .needMore) :
    scanTrailer skipped (rest ++ later) = scanTrailer skipped rest := by
  unfold scanTrailer at answered ⊢
  by_cases short : rest.length < 2
  · simp [short] at answered
  · obtain ⟨high, low⟩ := byteAt_append_of_two_le later (by omega : 2 ≤ rest.length)
    have longer : ¬ (rest ++ later).length < 2 := by
      rw [List.length_append]
      omega
    simp only [high, low, short, longer, if_false]

/-- An answer of the scan is not revised by bytes that arrive later. -/
theorem scanItem_append {skipped : Nat} {buffer : Bytes} (later : Bytes)
    (answered : scanItem skipped buffer ≠ .needMore) :
    scanItem skipped (buffer ++ later) = scanItem skipped buffer := by
  fun_induction scanItem skipped buffer with
  | case1 skipped h0 h1 rest header =>
      rw [List.cons_append, List.cons_append, scanItem, if_pos header]
      exact scanBody_append later answered
  | case2 skipped h0 h1 rest notData header =>
      rw [List.cons_append, List.cons_append, scanItem, if_neg notData,
        if_pos header]
      exact scanTrailer_append later answered
  | case3 skipped h0 h1 rest notData notMarker header =>
      rw [List.cons_append, List.cons_append, scanItem, if_neg notData,
        if_neg notMarker, if_pos header]
  | case4 skipped h0 h1 rest notData notMarker notChatter header =>
      rw [List.cons_append, List.cons_append, scanItem, if_neg notData,
        if_neg notMarker, if_neg notChatter, if_pos header]
      exact scanBody_append later answered
  | case5 skipped h0 h1 rest notData notMarker notChatter notStatus limit =>
      rw [List.cons_append, List.cons_append, scanItem, if_neg notData,
        if_neg notMarker, if_neg notChatter, if_neg notStatus, if_pos limit]
  | case6 skipped h0 h1 rest notData notMarker notChatter notStatus within
      inductionHypothesis =>
      rw [List.cons_append, List.cons_append, scanItem, if_neg notData,
        if_neg notMarker, if_neg notChatter, if_neg notStatus, if_neg within]
      exact inductionHypothesis answered
  | case7 => exact absurd rfl answered
  | case8 => exact absurd rfl answered

theorem stableSplitter_scanItem : StableSplitter (scanItem 0) where
  consumed_pos found := by
    have bounds := scanItem_bounds found
    omega
  consumed_le found := by
    have bounds := scanItem_bounds found
    omega
  frame_append later found := by
    rw [scanItem_append later (by simp [found]), found]
  failed_append later found := by
    rw [scanItem_append later (by simp [found]), found]

/-! ## The loop of the decoder -/

section Loop

variable (fromSlice : Bytes → Option StatusBody)

/-- What makes the decoder return. -/
inductive Found where
  | app (payload : Bytes)
  | closed
  | rejected (error : TunnelError)

def Found.toResult : Found → Except TunnelError Decode
  | .app payload => .ok (.app payload)
  | .closed => .ok .closed
  | .rejected error => .error error

/-- Whether the decoder returns at an item or goes on behind it. -/
def decodeItem : TunnelItem → Option Found
  | .app payload => some (.app payload)
  | .serverClose => some .closed
  | .marker => none
  | .nodeChatter => none
  | .status body =>
      if isStatusOk fromSlice body then
        none
      else
        some (.rejected (.protocolError (fromUtf8Lossy body)))

/-- What the decoder does after a scan of its buffer. -/
def decodeScanned (readBuf : Bytes) :
    SplitResult TunnelItem TunnelError → Except TunnelError Decode × Bytes
  | .needMore => (.ok .needMore, readBuf)
  | .failed error => (.error error, readBuf)
  | .frame item consumed =>
      match decodeItem fromSlice item with
      | none => tryDecodeApp fromSlice (readBuf.drop consumed)
      | some found => (found.toResult, readBuf.drop consumed)

theorem drop_eq_two_bytes {readBuf : Bytes} {skipped : Nat}
    (present : skipped + 2 ≤ readBuf.length) :
    readBuf.drop skipped =
      byteAt readBuf skipped :: byteAt readBuf (skipped + 1) ::
        readBuf.drop (skipped + 2) := by
  have first : skipped < readBuf.length := by omega
  have second : skipped + 1 < readBuf.length := by omega
  rw [List.drop_eq_getElem_cons first, List.drop_eq_getElem_cons second]
  simp [byteAt, first, second]

theorem byteAt_drop (readBuf : Bytes) (dropped index : Nat) :
    byteAt (readBuf.drop dropped) index = byteAt readBuf (dropped + index) := by
  simp [byteAt]

/-- The scan of a body in the indices of the whole buffer. -/
theorem scanBody_drop (item : Bytes → TunnelItem) {skipped : Nat}
    {readBuf : Bytes} (present : skipped + 2 ≤ readBuf.length) :
    let len :=
      beU16 (byteAt readBuf (skipped + 2)) (byteAt readBuf (skipped + 3))
    scanBody item skipped (readBuf.drop (skipped + 2)) =
      if readBuf.length < skipped + 4 then
        .needMore
      else if readBuf.length < skipped + 4 + len then
        .needMore
      else
        .frame (item ((readBuf.drop (skipped + 4)).take len))
          (skipped + 4 + len) := by
  simp only [scanBody, byteAt_drop, List.length_drop, List.drop_drop,
    Nat.add_assoc, Nat.reduceAdd]
  by_cases header : readBuf.length < skipped + 4
  · rw [if_pos (by omega), if_pos header]
  · rw [if_neg header]
    congr 1
    simp only [eq_iff_iff]
    omega

/-- The scan of a trailer in the indices of the whole buffer. -/
theorem scanTrailer_drop {skipped : Nat} {readBuf : Bytes}
    (present : skipped + 2 ≤ readBuf.length) :
    scanTrailer skipped (readBuf.drop (skipped + 2)) =
      if readBuf.length < skipped + 4 then
        .needMore
      else if
          [byteAt readBuf (skipped + 2), byteAt readBuf (skipped + 3)] =
            serverCloseTrailer then
        .frame .serverClose (skipped + 4)
      else
        .frame .marker (skipped + 4) := by
  simp only [scanTrailer, byteAt_drop, List.length_drop, Nat.add_assoc,
    Nat.reduceAdd]
  congr 1
  simp only [eq_iff_iff]
  omega

/-- One scan is one round of the loop up to its next restart. -/
theorem tryDecodeAppLoop_eq (skipped : Nat) (readBuf : Bytes) :
    tryDecodeAppLoop fromSlice skipped readBuf =
      decodeScanned fromSlice readBuf
        (scanItem skipped (readBuf.drop skipped)) := by
  induction unscanned : readBuf.length - skipped using Nat.strongRecOn
    generalizing skipped with
  | ind unscanned inductionHypothesis =>
      rw [tryDecodeAppLoop]
      by_cases short : readBuf.length - skipped < 2
      · rw [if_pos short]
        have few : (readBuf.drop skipped).length < 2 := by
          rw [List.length_drop]
          exact short
        have waits : scanItem skipped (readBuf.drop skipped) = .needMore := by
          match readBuf.drop skipped, few with
          | [], _ => rfl
          | [_], _ => rfl
        rw [waits]
        rfl
      · have present : skipped + 2 ≤ readBuf.length := by omega
        rw [if_neg short, drop_eq_two_bytes present, scanItem,
          scanBody_drop _ present, scanBody_drop _ present,
          scanTrailer_drop present]
        simp only
        split_ifs with data header long marker trailer close chatter
          status statusHeader statusLong statusOk limit
        all_goals
          simp only [decodeScanned, decodeItem, Found.toResult, tryDecodeApp]
        · simp [*]
        · simp [*]
        · exact inductionHypothesis _ (by omega) (skipped + 2) rfl

/-- The answer of one scan at the head of the buffer. -/
theorem tryDecodeApp_eq (readBuf : Bytes) :
    tryDecodeApp fromSlice readBuf =
      decodeScanned fromSlice readBuf (scanItem 0 readBuf) := by
  rw [tryDecodeApp, tryDecodeAppLoop_eq, List.drop_zero]

def searchResult : DrainEnd TunnelError Found → Except TunnelError Decode
  | .needMore => .ok .needMore
  | .failed error => .error error
  | .stopped found => found.toResult
  | .outOfFuel => .ok .needMore

/-- `try_decode_app` drains the buffer up to the first item it returns at. -/
theorem tryDecodeApp_eq_drain {β : Type} (readBuf : Bytes) :
    let drained :=
      drain (scanItem 0)
        (gather (fun _ => ([] : List β)) (decodeItem fromSlice)) [] readBuf
    tryDecodeApp fromSlice readBuf =
      (searchResult drained.ending, drained.remainder) := by
  induction length : readBuf.length using Nat.strongRecOn
    generalizing readBuf with
  | ind length inductionHypothesis =>
      rw [tryDecodeApp_eq]
      cases answer : scanItem 0 readBuf with
      | needMore =>
          rw [drain_needMore stableSplitter_scanItem _ answer]
          rfl
      | failed error =>
          rw [drain_failed stableSplitter_scanItem _ answer]
          rfl
      | frame item consumed =>
          have bounds := scanItem_bounds answer
          cases search : decodeItem fromSlice item with
          | none =>
              have passed :
                  gather (fun _ => ([] : List β)) (decodeItem fromSlice) []
                    item consumed = ([], none) := by
                simp [gather, search]
              rw [drain_continue stableSplitter_scanItem answer passed]
              simp only [decodeScanned, search]
              apply inductionHypothesis (readBuf.drop consumed).length _ _ rfl
              rw [List.length_drop]
              omega
          | some found =>
              have stopped :
                  gather (fun _ => ([] : List β)) (decodeItem fromSlice) []
                    item consumed = ([], some found) := by
                simp [gather, search]
              rw [drain_stopped stableSplitter_scanItem answer stopped]
              simp only [decodeScanned, search, searchResult]

/-! ## Decoding a whole stream -/

/-- Why decoding stops for good, or that it waits for more bytes. -/
inductive DecodeEnd where
  | needMore
  | closed
  | failed (error : TunnelError)
  deriving DecidableEq, Repr

inductive Finish where
  | closed
  | rejected (error : TunnelError)

def payloadOutput {β : Type} (output : Bytes → List β) : TunnelItem → List β
  | .app payload => output payload
  | _ => []

def decodeEnd : DrainEnd TunnelError Finish → DecodeEnd
  | .needMore => .needMore
  | .failed error => .failed error
  | .stopped .closed => .closed
  | .stopped (.rejected error) => .failed error
  | .outOfFuel => .needMore

/-- What a return of the decoder contributes. -/
def foundOutput {β : Type} (output : Bytes → List β) : Found → List β
  | .app payload => output payload
  | _ => []

def foundFinish : Found → Option Finish
  | .app _ => none
  | .closed => some .closed
  | .rejected error => some (.rejected error)

theorem payloadOutput_of_decodeItem {β : Type} (output : Bytes → List β)
    (item : TunnelItem) :
    payloadOutput output item =
      match decodeItem fromSlice item with
      | none => []
      | some found => foundOutput output found := by
  cases item with
  | app payload => rfl
  | serverClose => rfl
  | marker => rfl
  | nodeChatter => rfl
  | status body =>
      by_cases accepted : isStatusOk fromSlice body
      · simp [payloadOutput, decodeItem, accepted]
      · simp [payloadOutput, decodeItem, accepted, foundOutput]

/-- The items at which decoding stops for good. -/
def finishItem (item : TunnelItem) : Option Finish :=
  (decodeItem fromSlice item).bind foundFinish

/-- What decoding a buffer to its end adds to what was gathered, why it ends
and which bytes it leaves. -/
def decodeWhole {β : Type} (output : Bytes → List β) (gathered : List β)
    (buffer : Bytes) : List β × DecodeEnd × Bytes :=
  let drained :=
    drain (scanItem 0)
      (gather (payloadOutput output) (finishItem fromSlice)) gathered buffer
  (drained.state, decodeEnd drained.ending, drained.remainder)

/-- A call of `try_decode_app` is the first part of decoding the buffer to its
end. -/
theorem decodeWhole_eq {β : Type} (output : Bytes → List β)
    (gathered : List β) (buffer : Bytes) :
    decodeWhole fromSlice output gathered buffer =
      match tryDecodeApp fromSlice buffer with
      | (.error error, rest) => (gathered, .failed error, rest)
      | (.ok .needMore, rest) => (gathered, .needMore, rest)
      | (.ok .closed, rest) => (gathered, .closed, rest)
      | (.ok (.app payload), rest) =>
          decodeWhole fromSlice output (gathered ++ output payload) rest := by
  have silent (item : TunnelItem) (search : decodeItem fromSlice item = none) :
      payloadOutput output item = [] ∧ finishItem fromSlice item = none := by
    rw [payloadOutput_of_decodeItem fromSlice, finishItem, search]
    exact ⟨rfl, rfl⟩
  have loud (item : TunnelItem) (found : Found)
      (search : decodeItem fromSlice item = some found) :
      payloadOutput output item = foundOutput output found ∧
        finishItem fromSlice item = foundFinish found := by
    rw [payloadOutput_of_decodeItem fromSlice, finishItem, search]
    exact ⟨rfl, rfl⟩
  have finer :=
    drain_gather_finer stableSplitter_scanItem (decodeItem fromSlice)
      (foundOutput output) foundFinish silent loud gathered buffer
  have decoded := tryDecodeApp_eq_drain (β := β) fromSlice buffer
  simp only at decoded finer
  rw [decoded, decodeWhole, finer]
  cases (drain (scanItem 0)
      (gather (fun _ => ([] : List β)) (decodeItem fromSlice)) []
      buffer).ending with
  | needMore => rfl
  | failed error => rfl
  | outOfFuel => rfl
  | stopped found =>
      cases found with
      | app payload => rfl
      | closed => simp [foundFinish, searchResult, Found.toResult, foundOutput, decodeEnd]
      | rejected error => simp [foundFinish, searchResult, Found.toResult, foundOutput, decodeEnd]

/-- Bytes that arrive later resume decoding where it stood. -/
theorem decodeWhole_append {β : Type} (output : Bytes → List β)
    (gathered : List β) (buffer later : Bytes) :
    decodeWhole fromSlice output gathered (buffer ++ later) =
      match decodeWhole fromSlice output gathered buffer with
      | (sofar, .needMore, rest) =>
          decodeWhole fromSlice output sofar (rest ++ later)
      | (sofar, ending, rest) => (sofar, ending, rest ++ later) := by
  have ends :
      (drain (scanItem 0)
        (gather (payloadOutput output) (finishItem fromSlice)) gathered
        buffer).ending ≠ .outOfFuel :=
    drain_ending_ne_outOfFuel stableSplitter_scanItem gathered buffer
  simp only [decodeWhole, drain_append stableSplitter_scanItem gathered buffer,
    Drained.resume]
  cases ending : (drain (scanItem 0)
      (gather (payloadOutput output) (finishItem fromSlice)) gathered
      buffer).ending with
  | needMore => rfl
  | failed error => rfl
  | outOfFuel => exact absurd ending ends
  | stopped finish =>
      cases finish with
      | closed => rfl
      | rejected error => rfl

theorem tryDecodeApp_app_length {readBuf rest payload : Bytes}
    (decoded : tryDecodeApp fromSlice readBuf = (.ok (.app payload), rest)) :
    rest.length < readBuf.length :=
  tryDecodeAppLoop_app_length fromSlice decoded

/-- Call `try_decode_app` until it returns something other than a payload. -/
def decodeBuffered (readBuf : Bytes) : List Bytes × DecodeEnd × Bytes :=
  match _decoded : tryDecodeApp fromSlice readBuf with
  | (.error error, rest) => ([], .failed error, rest)
  | (.ok .needMore, rest) => ([], .needMore, rest)
  | (.ok .closed, rest) => ([], .closed, rest)
  | (.ok (.app payload), rest) =>
      let (payloads, ending, left) := decodeBuffered rest
      (payload :: payloads, ending, left)
termination_by readBuf.length
decreasing_by exact tryDecodeApp_app_length fromSlice (by assumption)

/-- Call `try_decode_app` after each chunk as long as more bytes are needed. -/
def decodeChunks : Bytes → List Bytes → List Bytes × DecodeEnd
  | _, [] => ([], .needMore)
  | readBuf, chunk :: later =>
      match decodeBuffered fromSlice (readBuf ++ chunk) with
      | (payloads, .needMore, rest) =>
          let (afterwards, ending) := decodeChunks rest later
          (payloads ++ afterwards, ending)
      | (payloads, ending, _) => (payloads, ending)

theorem decodeBuffered_eq_decodeWhole (gathered : List Bytes)
    (readBuf : Bytes) :
    decodeWhole fromSlice (fun payload => [payload]) gathered readBuf =
      (gathered ++ (decodeBuffered fromSlice readBuf).1,
        (decodeBuffered fromSlice readBuf).2) := by
  fun_induction decodeBuffered fromSlice readBuf generalizing gathered with
  | case1 readBuf error rest decoded =>
      rw [decodeWhole_eq, decoded]
      simp
  | case2 readBuf rest decoded =>
      rw [decodeWhole_eq, decoded]
      simp
  | case3 readBuf rest decoded =>
      rw [decodeWhole_eq, decoded]
      simp
  | case4 readBuf payload rest decoded payloads ending left returned
      inductionHypothesis =>
      rw [decodeWhole_eq, decoded]
      simp only
      rw [inductionHypothesis, returned]
      simp

/-- Where decoding waits, it has already decoded all it can. -/
theorem decodeWhole_idle {β : Type} {output : Bytes → List β}
    {gathered sofar : List β} {buffer rest : Bytes}
    (waits :
      decodeWhole fromSlice output gathered buffer =
        (sofar, .needMore, rest)) :
    decodeWhole fromSlice output sofar rest = (sofar, .needMore, rest) := by
  have again := decodeWhole_append fromSlice output gathered buffer []
  rw [waits] at again
  simpa [waits] using again.symm

/-- Decoding chunk by chunk is decoding the whole stream. -/
theorem decodeChunks_eq_decodeWhole (gathered : List Bytes) (readBuf : Bytes)
    (chunks : List Bytes)
    (idle :
      decodeWhole fromSlice (fun payload => [payload]) gathered readBuf =
        (gathered, .needMore, readBuf)) :
    let whole :=
      decodeWhole fromSlice (fun payload => [payload]) gathered
        (readBuf ++ chunks.flatten)
    (gathered ++ (decodeChunks fromSlice readBuf chunks).1,
      (decodeChunks fromSlice readBuf chunks).2) = (whole.1, whole.2.1) := by
  induction chunks generalizing gathered readBuf with
  | nil => simp [decodeChunks, idle]
  | cons chunk later inductionHypothesis =>
      have buffered :=
        decodeBuffered_eq_decodeWhole fromSlice gathered (readBuf ++ chunk)
      simp only [List.flatten_cons, ← List.append_assoc, decodeChunks]
      rw [decodeWhole_append fromSlice _ gathered (readBuf ++ chunk)]
      rcases decoded : decodeBuffered fromSlice (readBuf ++ chunk) with
        ⟨payloads, ending, rest⟩
      rw [decoded] at buffered
      simp only at buffered
      rw [buffered]
      cases ending with
      | needMore =>
          have continued :=
            inductionHypothesis (gathered ++ payloads) rest
              (decodeWhole_idle fromSlice buffered)
          simpa [List.append_assoc] using continued
      | closed => rfl
      | failed error => rfl

/-- How the stream is cut into chunks does not show in what
`try_decode_app` returns. -/
theorem decodeChunks_congr {chunks chunks' : List Bytes}
    (same : chunks.flatten = chunks'.flatten) :
    decodeChunks fromSlice [] chunks = decodeChunks fromSlice [] chunks' := by
  have idle :
      decodeWhole fromSlice (fun payload => [payload]) [] [] =
        ([], .needMore, []) := by
    rw [decodeWhole_eq, tryDecodeApp_eq]
    rfl
  have first := decodeChunks_eq_decodeWhole fromSlice [] [] chunks idle
  have second := decodeChunks_eq_decodeWhole fromSlice [] [] chunks' idle
  simp only [same, List.nil_append] at first second
  exact first.trans second.symm

end Loop

end HermesAtrust.Tcp
