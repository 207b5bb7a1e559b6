/-
STREAM frames, written and read back.

`writeStreamFrameHeader` decides how much of a buffer fits into what is left of a packet, and
whether the frame carries a length. `streamFrameLayout` is that decision: the subtractions are
those of unsigned 64-bit numbers and are made before it is known that the header fits, so they
may wrap. Whatever is written parses back as the same frame, `streamFrame_roundTrip`.
-/

import MasqueQuic.Quic.ParserRobustness

namespace MasqueQuic

/-! ### Writing -/

/-- What a frame is written to: the space that is left in the packet and the body so far. -/
structure PacketBuilder where
  remainingBytes : UInt32
  body : Bytes
  frames : List WriteStreamFrame
  isEmpty : Bool

namespace PacketBuilder

def push (b : PacketBuilder) (bytes : Bytes) : PacketBuilder :=
  { b with
    remainingBytes := b.remainingBytes - UInt32.ofNat bytes.length
    body := b.body ++ bytes }

/-- `write(QuicInteger)`. -/
def write (b : PacketBuilder) (value : Nat) : Except QuicException PacketBuilder :=
  match encodeQuicInteger value with
  | none => .error (.transport ("Value too large " ++ toString value) .internalError)
  | some bytes => .ok (b.push bytes)

def appendFrame (b : PacketBuilder) (frame : WriteStreamFrame) : PacketBuilder :=
  { b with frames := b.frames ++ [frame], isEmpty := false }

def markNonEmpty (b : PacketBuilder) : PacketBuilder := { b with isEmpty := false }

/-- `insert(buf, limit)`: the cursor throws if there are fewer bytes. -/
def insert (b : PacketBuilder) (buf : BufQueue) (limit : Nat) : Except QuicException PacketBuilder :=
  if buf.chainLength < limit then .error .underflow else .ok (b.push (buf.bytes.take limit))

end PacketBuilder

/-- `QuicInteger::getSize`. -/
def integerSize (value : Nat) : Except QuicException Nat :=
  match getQuicIntegerSize value with
  | some size => .ok size
  | none => .error (.transport ("Value too large " ++ toString value) .internalError)

/-- How a STREAM frame is laid out; without a length field, `dataLenLen` is zero. -/
structure StreamFrameLayout where
  dataLen : Nat
  dataLenLen : Nat
  shouldSetFin : Bool

/-- The size reserved for the length field. -/
def lengthFieldSize (dataLen : Nat) : Except QuicException Nat :=
  if dataLen ≤ kOneByteLimit - 1 then .ok 1
  else if dataLen ≤ kTwoByteLimit - 2 then .ok 2
  else if dataLen ≤ kFourByteLimit - 4 then .ok 4
  else if dataLen ≤ kEightByteLimit - 8 then .ok 8
  else .error (.internal "Stream frame length too large.")

/-- The last checks: an empty frame without FIN is not written. -/
def layoutOf (remaining headerSize writeBufferLen dataLen dataLenLen : Nat) (fin : Bool) :
    Option StreamFrameLayout :=
  let shouldSetFin := fin && dataLen == writeBufferLen
  if dataLen = 0 ∧ shouldSetFin = false then none
  else if remaining < headerSize then none
  else some ⟨dataLen, dataLenLen, shouldSetFin⟩

/-- The rest of the decision, when the size of the length field is known. -/
def finishLayout (remaining headerSize writeBufferLen dataLen dataLenLen : Nat) (fin : Bool) :
    Option StreamFrameLayout :=
  if dataLenLen > 0 ∧ dataLen ≠ 0 ∧ headerSize + dataLenLen ≥ remaining then none
  else
    let headerSize := headerSize + dataLenLen
    let dataLen :=
      if dataLenLen > 0 ∧ remaining < (dataLen + headerSize) % 2 ^ 64 then
        sub64 remaining headerSize
      else dataLen
    layoutOf remaining headerSize writeBufferLen dataLen dataLenLen fin

def streamFrameLayout (remaining headerSize writeBufferLen flowControlLen : Nat) (fin : Bool)
    (skipLenHint : Option Bool) : Except QuicException (Option StreamFrameLayout) := do
  let wanted := min writeBufferLen flowControlLen
  let shouldSkipLengthField :=
    skipLenHint.getD (decide (wanted > 0 ∧ wanted ≥ sub64 remaining headerSize))
  let dataLen := min wanted (sub64 remaining headerSize)
  let dataLenLen ← (if shouldSkipLengthField then pure 0 else lengthFieldSize dataLen)
  return finishLayout remaining headerSize writeBufferLen dataLen dataLenLen fin

/-- `StreamTypeField::Builder`. -/
def streamTypeField (isGroupFrame hasOffset hasLength hasFin : Bool) : Nat :=
  (if isGroupFrame then 0x32 else 0x08) ||| (if hasOffset then 0x04 else 0) |||
    (if hasLength then 0x02 else 0) ||| (if hasFin then 0x01 else 0)

def writeStreamFrameHeader (b : PacketBuilder) (id offset writeBufferLen flowControlLen : Nat)
    (fin : Bool) (skipLenHint : Option Bool) (streamGroupId : Option Nat) (appendFrame : Bool) :
    Except QuicException (Option Nat × PacketBuilder) :=
  let remaining := b.remainingBytes.toNat
  if remaining = 0 then .ok (none, b)
  else if writeBufferLen = 0 ∧ fin = false then
    .error (.internal "No data or fin supplied when writing stream.")
  else do
    let idSize ← integerSize id
    let groupIdSize ← (match streamGroupId with
      | none => pure 0
      | some groupId => integerSize groupId)
    if remaining < 1 + idSize + groupIdSize then return (none, b)
    else
      let offsetSize ← (if offset ≠ 0 then integerSize offset else pure 0)
      let layout ← streamFrameLayout remaining (1 + idSize + groupIdSize + offsetSize)
        writeBufferLen flowControlLen fin skipLenHint
      match layout with
      | none => return (none, b)
      | some layout =>
          let field := streamTypeField streamGroupId.isSome (decide (offset ≠ 0))
            (decide (layout.dataLenLen > 0)) layout.shouldSetFin
          let b ← (b.push [UInt8.ofNat field]).write id
          let b ← (match streamGroupId with
            | none => pure b
            | some groupId => b.write groupId)
          let b ← (if offset ≠ 0 then b.write offset else pure b)
          let b ← (if layout.dataLenLen > 0 then b.write layout.dataLen else pure b)
          let b := if appendFrame then
              b.appendFrame ⟨id, offset, layout.dataLen, layout.shouldSetFin, false, 0⟩
            else b.markNonEmpty
          return (some layout.dataLen, b)

def writeStreamFrameData (b : PacketBuilder) (writeBuffer : BufQueue) (dataLen : Nat) :
    Except QuicException PacketBuilder :=
  if dataLen > 0 then b.insert writeBuffer dataLen else .ok b

/-- A STREAM frame with the front of a buffer, as the stream scheduler writes it. -/
def writeStreamFrame (b : PacketBuilder) (id offset : Nat) (writeBuffer : BufQueue)
    (flowControlLen : Nat) (fin : Bool) : Except QuicException (Option Nat × PacketBuilder) := do
  let (dataLen, b) ← writeStreamFrameHeader b id offset writeBuffer.chainLength flowControlLen fin
    none none true
  match dataLen with
  | none => return (none, b)
  | some dataLen => return (some dataLen, ← writeStreamFrameData b writeBuffer dataLen)

/-! ### The layout -/

/-- The layout fits into `remaining` bytes, and takes all of them if there is no length. -/
structure Fits (remaining headerSize writeBufferLen flowControlLen : Nat) (fin : Bool)
    (l : StreamFrameLayout) : Prop where
  dataLen : l.dataLen ≤ min writeBufferLen flowControlLen
  shouldSetFin : l.shouldSetFin = (fin && l.dataLen == writeBufferLen)
  space : headerSize + l.dataLenLen + l.dataLen ≤ remaining
  full : l.dataLenLen = 0 → headerSize + l.dataLen = remaining
  field : l.dataLenLen ≠ 0 → ∃ size, getQuicIntegerSize l.dataLen = some size ∧ size ≤ l.dataLenLen

theorem getQuicIntegerSize_of_lengthFieldSize {dataLen len reserved : Nat} (hle : dataLen ≤ len)
    (h : lengthFieldSize len = .ok reserved) :
    0 < reserved ∧ ∃ size, getQuicIntegerSize dataLen = some size ∧ size ≤ reserved := by
  unfold lengthFieldSize kOneByteLimit kTwoByteLimit kFourByteLimit kEightByteLimit at h
  unfold getQuicIntegerSize kOneByteLimit kTwoByteLimit kFourByteLimit kEightByteLimit
  split at h
  · cases h
    rw [if_pos (by omega)]
    exact ⟨by omega, 1, rfl, Nat.le_refl _⟩
  · split at h
    · cases h
      split
      · exact ⟨by omega, 1, rfl, by omega⟩
      · rw [if_pos (by omega)]
        exact ⟨by omega, 2, rfl, Nat.le_refl _⟩
    · split at h
      · cases h
        split
        · exact ⟨by omega, 1, rfl, by omega⟩
        · split
          · exact ⟨by omega, 2, rfl, by omega⟩
          · rw [if_pos (by omega)]
            exact ⟨by omega, 4, rfl, Nat.le_refl _⟩
      · split at h
        · cases h
          split
          · exact ⟨by omega, 1, rfl, by omega⟩
          · split
            · exact ⟨by omega, 2, rfl, by omega⟩
            · split
              · exact ⟨by omega, 4, rfl, by omega⟩
              · rw [if_pos (by omega)]
                exact ⟨by omega, 8, rfl, Nat.le_refl _⟩
        · cases h

theorem lengthFieldSize_ok {len : Nat} (h : len ≤ kEightByteLimit - 8) :
    ∃ reserved, lengthFieldSize len = .ok reserved := by
  unfold lengthFieldSize
  by_cases h1 : len ≤ kOneByteLimit - 1
  · exact ⟨1, if_pos h1⟩
  rw [if_neg h1]
  by_cases h2 : len ≤ kTwoByteLimit - 2
  · exact ⟨2, if_pos h2⟩
  rw [if_neg h2]
  by_cases h4 : len ≤ kFourByteLimit - 4
  · exact ⟨4, if_pos h4⟩
  rw [if_neg h4]
  exact ⟨8, if_pos h⟩

theorem le_of_lengthFieldSize {len reserved : Nat} (h : lengthFieldSize len = .ok reserved) :
    len ≤ kEightByteLimit - 8 ∧ 0 < reserved ∧ reserved ≤ 8 := by
  unfold lengthFieldSize kOneByteLimit kTwoByteLimit kFourByteLimit kEightByteLimit at *
  split at h
  · cases h
    omega
  split at h
  · cases h
    omega
  split at h
  · cases h
    omega
  split at h
  · cases h
    omega
  · cases h

section Layout

variable {remaining headerSize writeBufferLen flowControlLen dataLen reserved : Nat} {fin : Bool}

theorem mem_layoutOf {l : StreamFrameLayout}
    (h : l ∈ layoutOf remaining headerSize writeBufferLen dataLen reserved fin) :
    l = ⟨dataLen, reserved, fin && dataLen == writeBufferLen⟩ ∧ headerSize ≤ remaining ∧
      (0 < dataLen ∨ fin = true ∧ dataLen = writeBufferLen) := by
  unfold layoutOf at h
  dsimp only at h
  split at h
  · cases h
  · rename_i hsome
    split at h
    · cases h
    · rename_i hspace
      cases h
      refine ⟨rfl, Nat.le_of_not_lt hspace, ?_⟩
      simpa [Nat.pos_iff_ne_zero, imp_iff_not_or] using hsome

theorem finishLayout_zero (remaining headerSize writeBufferLen dataLen : Nat) (fin : Bool) :
    finishLayout remaining headerSize writeBufferLen dataLen 0 fin =
      layoutOf remaining headerSize writeBufferLen dataLen 0 fin := by
  have hzero : ¬ 0 > 0 := Nat.lt_irrefl 0
  unfold finishLayout
  rw [if_neg fun h => hzero h.1]
  dsimp only
  rw [if_neg fun h => hzero h.1, Nat.add_zero]

/-- Without a length field, the whole rest of the packet is filled. -/
theorem finishLayout_fits_full (hdata : dataLen ≤ min writeBufferLen flowControlLen)
    (hfull : headerSize + dataLen = remaining) :
    ∀ l ∈ finishLayout remaining headerSize writeBufferLen dataLen 0 fin,
      Fits remaining headerSize writeBufferLen flowControlLen fin l := by
  intro l hl
  rw [finishLayout_zero] at hl
  obtain ⟨rfl, -, -⟩ := mem_layoutOf hl
  exact ⟨hdata, rfl, Nat.le_of_eq hfull, fun _ => hfull, fun h => absurd rfl h⟩

theorem finishLayout_fits_length (hremaining : remaining < 2 ^ 32) (hsize : headerSize ≤ 2 ^ 32)
    (hdata : dataLen ≤ min writeBufferLen flowControlLen)
    (hreserved : lengthFieldSize dataLen = .ok reserved) :
    ∀ l ∈ finishLayout remaining headerSize writeBufferLen dataLen reserved fin,
      Fits remaining headerSize writeBufferLen flowControlLen fin l := by
  obtain ⟨hlimit, hpos, height⟩ := le_of_lengthFieldSize hreserved
  unfold kEightByteLimit at hlimit
  have hsum : (dataLen + (headerSize + reserved)) % 2 ^ 64 = dataLen + (headerSize + reserved) :=
    Nat.mod_eq_of_lt (by omega)
  intro l hl
  unfold finishLayout at hl
  split at hl
  · cases hl
  dsimp only at hl
  rw [hsum] at hl
  by_cases hlong : remaining < dataLen + (headerSize + reserved)
  · -- the data is cut to what is left behind the length field
    rw [if_pos ⟨hpos, hlong⟩] at hl
    obtain ⟨rfl, hheader, -⟩ := mem_layoutOf hl
    have hsub : sub64 remaining (headerSize + reserved) = remaining - (headerSize + reserved) :=
      sub64_of_le hheader (by omega)
    have hle : sub64 remaining (headerSize + reserved) ≤ dataLen := by omega
    refine ⟨hle.trans hdata, rfl, ?_, fun h => absurd h (Nat.ne_of_gt hpos), fun _ => ?_⟩
    · change headerSize + reserved + sub64 remaining (headerSize + reserved) ≤ remaining
      omega
    · exact (getQuicIntegerSize_of_lengthFieldSize hle hreserved).2
  · rw [if_neg fun h => hlong h.2] at hl
    obtain ⟨rfl, hheader, -⟩ := mem_layoutOf hl
    refine ⟨hdata, rfl, ?_, fun h => absurd h (Nat.ne_of_gt hpos), fun _ => ?_⟩
    · change headerSize + reserved + dataLen ≤ remaining
      omega
    · exact (getQuicIntegerSize_of_lengthFieldSize (Nat.le_refl _) hreserved).2

theorem streamFrameLayout_fits (fin : Bool) (hremaining : remaining < 2 ^ 32)
    (hsize : headerSize ≤ 2 ^ 32) (hlen : writeBufferLen < 2 ^ 62)
    (hfield : headerSize ≤ remaining ∨ min writeBufferLen flowControlLen ≤ kEightByteLimit - 8) :
    ∃ r, streamFrameLayout remaining headerSize writeBufferLen flowControlLen fin none = .ok r ∧
      ∀ l ∈ r, Fits remaining headerSize writeBufferLen flowControlLen fin l := by
  unfold streamFrameLayout
  dsimp only [Option.getD_none]
  by_cases hskip : min writeBufferLen flowControlLen > 0 ∧
      min writeBufferLen flowControlLen ≥ sub64 remaining headerSize
  · rw [decide_eq_true hskip]
    have hheader : headerSize ≤ remaining := by
      by_contra hlt
      rw [sub64_of_lt (by omega)] at hskip
      omega
    have hsub : sub64 remaining headerSize = remaining - headerSize :=
      sub64_of_le hheader (by omega)
    rw [hsub] at hskip ⊢
    refine ⟨_, rfl, finishLayout_fits_full (by omega) (by omega)⟩
  · rw [decide_eq_false hskip]
    have hdata : min (min writeBufferLen flowControlLen) (sub64 remaining headerSize) =
        min writeBufferLen flowControlLen := by omega
    have hlimit : min writeBufferLen flowControlLen ≤ kEightByteLimit - 8 := by
      rcases hfield with hheader | hlimit
      · rw [sub64_of_le hheader (by omega)] at hskip
        unfold kEightByteLimit
        omega
      · exact hlimit
    obtain ⟨reserved, hreserved⟩ := lengthFieldSize_ok hlimit
    rw [hdata]
    refine ⟨finishLayout remaining headerSize writeBufferLen (min writeBufferLen flowControlLen)
      reserved fin, ?_, finishLayout_fits_length hremaining hsize (Nat.le_refl _) hreserved⟩
    change (do
      let dataLenLen ← lengthFieldSize (min writeBufferLen flowControlLen)
      return finishLayout _ _ _ _ dataLenLen _) = _
    rw [hreserved]
    rfl

end Layout

/-! ### The bytes of a header -/

/-- `header` is the header of a STREAM frame, up to its length field if it has one. -/
structure StreamHeader (id offset : Nat) (dataLen : Option Nat) (fin : Bool) (header : Bytes) :
    Prop where
  fields : ∃ idBytes offsetBytes lenBytes, Varint id idBytes ∧
    (offset = 0 ∧ offsetBytes = [] ∨ offset ≠ 0 ∧ Varint offset offsetBytes) ∧
    (dataLen = none ∧ lenBytes = [] ∨ ∃ n, dataLen = some n ∧ Varint n lenBytes) ∧
    header = UInt8.ofNat (streamTypeField false (decide (offset ≠ 0)) dataLen.isSome fin) ::
      (idBytes ++ offsetBytes ++ lenBytes)

section Parse

variable {p : CodecParameters} {queue : BufQueue} {id offset : Nat} {dataLen : Option Nat}
  {fin : Bool} {header data rest : Bytes}

theorem FrameReader.integer_append {v : Nat} {e : Bytes} (h : Varint v e) (what : String)
    (s : Bytes) : (integer what).run (e ++ s) = .ok (v, s) := by
  have hsized : (sizedInteger what).run (e ++ s) = .ok ((v, e.length), s) := by
    change sizedInteger what (e ++ s) = _
    simp only [sizedInteger, decodeQuicInteger_append h, List.drop_left]
  rw [integer, StateT.run_map, hsized]
  rfl

theorem streamTypeField_bits (hasOffset hasLength hasFin : Bool) :
    let t : StreamTypeField := ⟨streamTypeField false hasOffset hasLength hasFin⟩
    t.hasOffset = hasOffset ∧ t.hasDataLength = hasLength ∧ t.hasFin = hasFin ∧ t.field < 64 ∧
      FrameType.ofCode t.field = some (.stream t.field) := by
  cases hasOffset <;> cases hasLength <;> cases hasFin <;> exact ⟨rfl, rfl, rfl, by decide, rfl⟩

theorem decodeStreamFrameHeader_append (fin : Bool) {idBytes offsetBytes lenBytes : Bytes} {field : Nat}
    (hid : Varint id idBytes)
    (hoffset : offset = 0 ∧ offsetBytes = [] ∨ offset ≠ 0 ∧ Varint offset offsetBytes)
    (hlen : dataLen = none ∧ lenBytes = [] ∨ ∃ n, dataLen = some n ∧ Varint n lenBytes)
    (hfield : field = streamTypeField false (decide (offset ≠ 0)) dataLen.isSome fin)
    (s : Bytes) :
    (decodeStreamFrameHeader ⟨field⟩ false).run (idBytes ++ offsetBytes ++ lenBytes ++ s) =
      .ok (⟨id, none, offset, dataLen⟩, s) := by
  obtain ⟨hasOffset, hasLength, -⟩ := streamTypeField_bits (decide (offset ≠ 0)) dataLen.isSome fin
  rw [← hfield] at hasOffset hasLength
  unfold decodeStreamFrameHeader
  rw [hasOffset, hasLength, List.append_assoc, List.append_assoc]
  simp only [StateT.run_bind, FrameReader.integer_append hid, except_ok_bind]
  have hoff : (if decide (offset ≠ 0) = true then FrameReader.integer "Invalid offset"
      else pure 0 : FrameReader Nat).run (offsetBytes ++ (lenBytes ++ s)) =
        .ok (offset, lenBytes ++ s) := by
    rcases hoffset with ⟨rfl, rfl⟩ | ⟨hne, hvarint⟩
    · rfl
    · rw [if_pos (decide_eq_true hne)]
      exact FrameReader.integer_append hvarint _ _
  have hdata : (if dataLen.isSome = true then some <$> FrameReader.integer "Invalid length"
      else pure none : FrameReader (Option Nat)).run (lenBytes ++ s) = .ok (dataLen, s) := by
    rcases hlen with ⟨rfl, rfl⟩ | ⟨n, rfl, hvarint⟩
    · rfl
    · rw [if_pos (show (some n).isSome = true from rfl), StateT.run_map,
        FrameReader.integer_append hvarint]
      rfl
  change (StateT.run (pure none : FrameReader (Option Nat)) _ >>= _) = _
  simp only [StateT.run_pure, pure_bind, hoff, except_ok_bind, hdata]
  rfl

theorem trimQueue_of_le {n : Nat} (h : n ≤ queue.chainLength) :
    ∃ q, trimQueue queue n = .ok q ∧ q.bytes = queue.bytes.drop n := by
  refine ⟨_, ?_, BufQueue.bytes_of_trimStart (BufQueue.trimStart_of_le h)⟩
  rw [trimQueue, BufQueue.trimStart_of_le h]

theorem overQueue_of_ne_nil {α : Type} (r : FrameReader α) (h : queue.bytes ≠ []) :
    overQueue queue r = r.run queue.bytes := by
  unfold overQueue
  cases hchain : queue.chain_ with
  | none =>
    rw [BufQueue.bytes, hchain] at h
    exact absurd rfl h
  | some chain => rw [BufQueue.bytes, hchain, Buf.bytes_some]

/-- The decoder takes a frame off the queue, when the type is trimmed already. -/
theorem decodeStreamFrame_append {fields : Bytes} {field : Nat} {streamFin isGroupFrame : Bool}
    {groupId : Option Nat}
    (hfields : (decodeStreamFrameHeader ⟨field⟩ isGroupFrame).run (fields ++ (data ++ rest)) =
      .ok (⟨id, groupId, offset, dataLen⟩, data ++ rest))
    (hne : fields ≠ []) (hfin : (⟨field⟩ : StreamTypeField).hasFin = streamFin)
    (hdata : dataLen = some data.length ∨ dataLen = none ∧ rest = [])
    (hqueue : queue.bytes = fields ++ (data ++ rest)) :
    ∃ buf queue', decodeStreamFrame queue ⟨field⟩ isGroupFrame =
        .ok (.stream ⟨id, offset, buf, streamFin⟩ groupId, queue') ∧
      buf.bytes = data ∧ queue'.bytes = rest := by
  have hlength : queue.chainLength = fields.length + (data ++ rest).length := by
    rw [← queue.length_bytes, hqueue, List.length_append]
  have hconsumed : queue.chainLength - (data ++ rest).length = fields.length := by omega
  obtain ⟨trimmed, htrim, hbytes⟩ := trimQueue_of_le (show fields.length ≤ queue.chainLength by omega)
  rw [hqueue, List.drop_left] at hbytes
  have hover : overQueue queue (decodeStreamFrameHeader ⟨field⟩ isGroupFrame) =
      .ok (⟨id, groupId, offset, dataLen⟩, data ++ rest) := by
    rw [overQueue_of_ne_nil, hqueue, hfields]
    rw [hqueue]
    exact List.append_ne_nil_of_left_ne_nil hne _
  unfold decodeStreamFrame
  rw [hover, except_ok_bind]
  dsimp only
  rw [hconsumed, hfin]
  rcases hdata with rfl | ⟨rfl, rfl⟩
  · dsimp only
    rw [if_neg (by rw [List.length_append]; omega), htrim, except_ok_bind]
    obtain ⟨hfront, hback⟩ := trimmed.splitAtMost_bytes data.length
    rw [hbytes] at hfront hback
    exact ⟨_, _, rfl, hfront.trans List.take_left, hback.trans List.drop_left⟩
  · dsimp only
    rw [htrim, except_ok_bind]
    refine ⟨_, _, rfl, ?_, rfl⟩
    rw [BufQueue.move_fst_bytes, hbytes, List.append_nil]

theorem varint_byte {v : Nat} (h : v < 64) : Varint v [UInt8.ofNat v] := by
  have htype : (UInt8.ofNat v).toNat = v := by
    rw [UInt8.toNat_ofNat']
    exact Nat.mod_eq_of_lt (Nat.lt_trans h (by decide))
  refine ⟨0, by decide, rfl, h, ?_⟩
  simp [beNat, htype]

/-- The type of a frame is trimmed off the queue. -/
theorem parseFrame_of_type {code : Nat} {e s : Bytes} (p : CodecParameters) (hcode : Varint code e)
    (hqueue : queue.bytes = e ++ s) :
    ∃ trimmed, trimmed.bytes = s ∧ parseFrame p queue = parseTypedFrame p trimmed code := by
  have hdecode : decodeQuicInteger queue.bytes sizeofUint64 = some (code, e.length) := by
    rw [hqueue]
    exact decodeQuicInteger_append hcode _
  have hlength : e.length ≤ queue.chainLength := by
    rw [← queue.length_bytes, hqueue, List.length_append]
    omega
  have htrim := BufQueue.trimStart_of_le hlength
  refine ⟨(queue.trimStartAtMost e.length).2, ?_, ?_⟩
  · rw [BufQueue.bytes_of_trimStart htrim, hqueue, List.drop_left]
  · have hpos := hcode.length_pos
    unfold parseFrame
    cases hchain : queue.chain_ with
    | none =>
      rw [BufQueue.chainLength_of_chain_none hchain] at hlength
      omega
    | some chain =>
      rw [BufQueue.bytes, hchain, Buf.bytes_some] at hdecode
      dsimp only
      rw [hdecode]
      dsimp only
      rw [htrim]

theorem isNone_of_bytes_ne_nil (h : queue.bytes ≠ []) : queue.chain_.isNone = false := by
  rw [Option.isNone_eq_false_iff, Option.isSome_iff_ne_none]
  intro hnone
  rw [BufQueue.bytes, hnone] at h
  exact h rfl

theorem parseTypedFrame_of_decode {code : Nat} {frameType : FrameType} {frame : QuicFrame}
    {queue' : BufQueue} (hcode : FrameType.ofCode code = some frameType)
    (hdecode : decodeFrame p queue frameType = .ok (frame, queue')) :
    parseTypedFrame p queue code =
      .ok ⟨frame, queue', frameType.takesQueue && queue.chain_.isNone⟩ := by
  unfold parseTypedFrame
  rw [hcode]
  dsimp only
  rw [hdecode]

theorem decode_of_parseTypedFrame {code : Nat} {frameType : FrameType} {f : ParsedFrame}
    (hcode : FrameType.ofCode code = some frameType) (h : parseTypedFrame p queue code = .ok f) :
    decodeFrame p queue frameType = .ok (f.frame, f.queue) := by
  unfold parseTypedFrame at h
  rw [hcode] at h
  dsimp only at h
  split at h
  · rename_i hdecode
    cases h
    exact hdecode
  · cases h
  · cases h
  · cases h
  · cases h

theorem parseFrame_stream (hheader : StreamHeader id offset dataLen fin header)
    (hdata : dataLen = some data.length ∨ dataLen = none ∧ rest = [])
    (hqueue : queue.bytes = header ++ (data ++ rest)) :
    ∃ buf queue', parseFrame p queue =
        .ok ⟨.stream ⟨id, offset, buf, fin⟩ none, queue', false⟩ ∧
      buf.bytes = data ∧ queue'.bytes = rest := by
  obtain ⟨idBytes, offsetBytes, lenBytes, hid, hoffset, hlen, rfl⟩ := hheader.fields
  obtain ⟨-, -, hfin, hsmall, hcode⟩ :=
    streamTypeField_bits (decide (offset ≠ 0)) dataLen.isSome fin
  have hfields := decodeStreamFrameHeader_append fin hid hoffset hlen rfl (data ++ rest)
  generalize streamTypeField false (decide (offset ≠ 0)) dataLen.isSome fin = field at *
  have hne : idBytes ++ offsetBytes ++ lenBytes ≠ [] := by
    refine List.append_ne_nil_of_left_ne_nil (List.append_ne_nil_of_left_ne_nil ?_ _) _
    exact List.ne_nil_of_length_pos hid.length_pos
  obtain ⟨trimmed, hbytes, hparse⟩ := parseFrame_of_type p (varint_byte hsmall) hqueue
  obtain ⟨buf, queue', hframe, hbuf, hrest⟩ :=
    decodeStreamFrame_append hfields hne hfin hdata hbytes
  refine ⟨buf, queue', ?_, hbuf, hrest⟩
  have hsome : trimmed.chain_.isNone = false := by
    refine isNone_of_bytes_ne_nil ?_
    rw [hbytes]
    exact List.append_ne_nil_of_left_ne_nil hne _
  rw [hparse, parseTypedFrame_of_decode hcode hframe, hsome, Bool.and_false]

end Parse

/-! ### What is written -/

theorem getQuicIntegerSize_encode {v : Nat} {e : Bytes} (h : encodeQuicInteger v = some e) :
    getQuicIntegerSize v = some e.length := by
  unfold encodeQuicInteger at h
  unfold getQuicIntegerSize
  split at h
  · rename_i hv
    cases h
    rw [if_pos hv, length_beBytes]
  rename_i h1
  rw [if_neg h1]
  split at h
  · rename_i hv
    cases h
    rw [if_pos hv, length_beBytes]
  rename_i h2
  rw [if_neg h2]
  split at h
  · rename_i hv
    cases h
    rw [if_pos hv, length_beBytes]
  rename_i h4
  rw [if_neg h4]
  split at h
  · rename_i hv
    cases h
    rw [if_pos hv, length_beBytes]
  · cases h

theorem length_encodeQuicInteger_le {v : Nat} {e : Bytes} (h : encodeQuicInteger v = some e) :
    e.length ≤ 8 := by
  have hsize := getQuicIntegerSize_encode h
  unfold getQuicIntegerSize at hsize
  split at hsize
  · have := Option.some.inj hsize
    omega
  split at hsize
  · have := Option.some.inj hsize
    omega
  split at hsize
  · have := Option.some.inj hsize
    omega
  split at hsize
  · have := Option.some.inj hsize
    omega
  · cases hsize

namespace PacketBuilder

variable {b b' b'' : PacketBuilder}

/-- `bytes` have been appended to the body and taken off the space that is left. -/
structure Written (b : PacketBuilder) (bytes : Bytes) (b' : PacketBuilder) : Prop where
  body : b'.body = b.body ++ bytes
  remaining : b'.remainingBytes = b.remainingBytes - UInt32.ofNat bytes.length

theorem Written.refl (b : PacketBuilder) : Written b [] b where
  body := (List.append_nil _).symm
  remaining := (UInt32.sub_zero _).symm

theorem Written.push {bytes : Bytes} (h : Written b bytes b') (more : Bytes) :
    Written b (bytes ++ more) (b'.push more) where
  body := by
    change b'.body ++ more = _
    rw [h.body, List.append_assoc]
  remaining := by
    change b'.remainingBytes - _ = _
    rw [h.remaining, List.length_append, UInt32.ofNat_add, UInt32.sub_eq_add_neg,
      UInt32.sub_eq_add_neg, UInt32.sub_eq_add_neg, UInt32.neg_add, UInt32.add_assoc,
      UInt32.sub_eq_add_neg]

theorem Written.write {bytes e : Bytes} {v : Nat} (h : Written b bytes b')
    (he : encodeQuicInteger v = some e) :
    ∃ b'', b'.write v = .ok b'' ∧ Written b (bytes ++ e) b'' := by
  refine ⟨b'.push e, ?_, h.push e⟩
  rw [PacketBuilder.write, he]

theorem Written.writeIf {c : Prop} [Decidable c] {bytes e : Bytes} {v : Nat} (h : Written b bytes b')
    (he : ¬ c ∧ e = [] ∨ c ∧ encodeQuicInteger v = some e) :
    ∃ b'', (if c then b'.write v else pure b') = .ok b'' ∧ Written b (bytes ++ e) b'' := by
  rcases he with ⟨hc, rfl⟩ | ⟨hc, he⟩
  · rw [if_neg hc, List.append_nil]
    exact ⟨b', rfl, h⟩
  · rw [if_pos hc]
    exact h.write he

theorem Written.appendFrame {bytes : Bytes} (h : Written b bytes b') (frame : WriteStreamFrame) :
    Written b bytes (b'.appendFrame frame) :=
  ⟨h.body, h.remaining⟩

theorem Written.toNat {bytes : Bytes} (h : Written b bytes b')
    (hle : bytes.length ≤ b.remainingBytes.toNat) :
    b'.remainingBytes.toNat + bytes.length = b.remainingBytes.toNat := by
  have hlt := b.remainingBytes.toNat_lt
  have hofNat : (UInt32.ofNat bytes.length).toNat = bytes.length :=
    UInt32.toNat_ofNat_of_lt' (Nat.lt_of_le_of_lt hle hlt)
  rw [h.remaining, UInt32.toNat_sub_of_le, hofNat]
  · omega
  · rw [UInt32.le_iff_toNat_le, hofNat]
    exact hle

end PacketBuilder

/-- The size of the header up to the length field. -/
def streamHeaderSize (id offset : Nat) : Nat :=
  1 + (getQuicIntegerSize id).getD 0 + if offset = 0 then 0 else (getQuicIntegerSize offset).getD 0

theorem integerSize_encode {v : Nat} {e : Bytes} (h : encodeQuicInteger v = some e) :
    integerSize v = .ok e.length := by
  rw [integerSize, getQuicIntegerSize_encode h]

/-- What a header that is written says, for a layout that fits. -/
structure HeaderWritten (b : PacketBuilder) (id offset writeBufferLen flowControlLen : Nat)
    (fin : Bool) (l : StreamFrameLayout) (header : Bytes) (b' : PacketBuilder) : Prop where
  fits : Fits b.remainingBytes.toNat (streamHeaderSize id offset) writeBufferLen flowControlLen fin l
  written : b.Written header b'
  format : StreamHeader id offset (if l.dataLenLen = 0 then none else some l.dataLen)
    l.shouldSetFin header
  atLeast : streamHeaderSize id offset ≤ header.length
  atMost : header.length ≤ streamHeaderSize id offset + l.dataLenLen

section Header

variable {b : PacketBuilder} {id offset writeBufferLen flowControlLen : Nat} {fin : Bool}

/-- The bytes of an offset, which is left out when it is zero. -/
theorem exists_offsetBytes (hoffset : offset < 2 ^ 62) :
    ∃ offsetBytes, (offset = 0 ∧ offsetBytes = [] ∨ offset ≠ 0 ∧
        encodeQuicInteger offset = some offsetBytes) ∧
      (if offset ≠ 0 then integerSize offset else pure 0) = .ok offsetBytes.length ∧
      (if offset = 0 then 0 else (getQuicIntegerSize offset).getD 0) = offsetBytes.length := by
  by_cases hzero : offset = 0
  · exact ⟨[], .inl ⟨hzero, rfl⟩, if_neg (not_not_intro hzero), if_pos hzero⟩
  · obtain ⟨e, he⟩ := encodeQuicInteger_of_lt hoffset
    refine ⟨e, .inr ⟨hzero, he⟩, ?_, ?_⟩
    · rw [if_pos hzero, integerSize_encode he]
    · rw [if_neg hzero, getQuicIntegerSize_encode he, Option.getD_some]

/-- The length field takes no more than what is reserved for it. -/
theorem exists_lenBytes {remaining headerSize : Nat} {l : StreamFrameLayout}
    (hl : Fits remaining headerSize writeBufferLen flowControlLen fin l)
    (hlen : writeBufferLen < 2 ^ 62) :
    ∃ lenBytes, (¬ l.dataLenLen > 0 ∧ lenBytes = [] ∨
        l.dataLenLen > 0 ∧ encodeQuicInteger l.dataLen = some lenBytes) ∧
      lenBytes.length ≤ l.dataLenLen := by
  by_cases hzero : l.dataLenLen = 0
  · exact ⟨[], .inl ⟨by omega, rfl⟩, Nat.zero_le _⟩
  · have hdata := hl.dataLen
    obtain ⟨e, he⟩ := encodeQuicInteger_of_lt (show l.dataLen < 2 ^ 62 by omega)
    obtain ⟨size, hsize, hle⟩ := hl.field hzero
    rw [getQuicIntegerSize_encode he] at hsize
    cases hsize
    exact ⟨e, .inr ⟨Nat.pos_of_ne_zero hzero, he⟩, hle⟩

theorem writeStreamFrameHeader_spec (hid : id < 2 ^ 62) (hoffset : offset < 2 ^ 62)
    (hlen : writeBufferLen < 2 ^ 62) (hremaining : b.remainingBytes.toNat ≠ 0)
    (hdata : ¬ (writeBufferLen = 0 ∧ fin = false))
    (hfield : streamHeaderSize id offset ≤ b.remainingBytes.toNat ∨
      min writeBufferLen flowControlLen ≤ kEightByteLimit - 8) :
    ∃ result b', writeStreamFrameHeader b id offset writeBufferLen flowControlLen fin none none
        true = .ok (result, b') ∧
      (result = none ∧ b' = b ∨ ∃ l header, result = some l.dataLen ∧
        HeaderWritten b id offset writeBufferLen flowControlLen fin l header b') := by
  obtain ⟨idBytes, hidBytes⟩ := encodeQuicInteger_of_lt hid
  obtain ⟨offsetBytes, hoffsetBytes, hoffsetSize, hoffsetLength⟩ := exists_offsetBytes hoffset
  have hsize : streamHeaderSize id offset = 1 + idBytes.length + 0 + offsetBytes.length := by
    rw [streamHeaderSize, getQuicIntegerSize_encode hidBytes, hoffsetLength]
    rfl
  have hsmall : streamHeaderSize id offset ≤ 2 ^ 32 := by
    have hidLength := length_encodeQuicInteger_le hidBytes
    have : offsetBytes.length ≤ 8 := by
      rcases hoffsetBytes with ⟨-, rfl⟩ | ⟨-, he⟩
      · exact Nat.zero_le _
      · exact length_encodeQuicInteger_le he
    omega
  obtain ⟨layout, hlayout, hfits⟩ := streamFrameLayout_fits fin b.remainingBytes.toNat_lt hsmall
    hlen hfield
  rw [hsize] at hlayout
  unfold writeStreamFrameHeader
  rw [if_neg hremaining, if_neg hdata, integerSize_encode hidBytes, except_ok_bind]
  dsimp only
  rw [pure_bind]
  by_cases hshort : b.remainingBytes.toNat < 1 + idBytes.length + 0
  · rw [if_pos hshort]
    exact ⟨none, b, rfl, .inl ⟨rfl, rfl⟩⟩
  rw [if_neg hshort, hoffsetSize, except_ok_bind, hlayout, except_ok_bind]
  cases layout with
  | none => exact ⟨none, b, rfl, .inl ⟨rfl, rfl⟩⟩
  | some l =>
    have hl := hfits l rfl
    obtain ⟨lenBytes, hlenBytes, hlenLength⟩ := exists_lenBytes hl hlen
    have hstart := (PacketBuilder.Written.refl b).push [UInt8.ofNat (streamTypeField false
      (decide (offset ≠ 0)) (decide (l.dataLenLen > 0)) l.shouldSetFin)]
    obtain ⟨b₁, hwrite₁, hb₁⟩ := hstart.write hidBytes
    obtain ⟨b₂, hwrite₂, hb₂⟩ := hb₁.writeIf (c := offset ≠ 0) (v := offset) (e := offsetBytes)
      (hoffsetBytes.imp_left fun h => ⟨not_not_intro h.1, h.2⟩)
    obtain ⟨b₃, hwrite₃, hb₃⟩ := hb₂.writeIf (c := l.dataLenLen > 0) (v := l.dataLen) hlenBytes
    dsimp only [Option.isSome_none]
    rw [hwrite₁, except_ok_bind, pure_bind, hwrite₂, except_ok_bind, hwrite₃, except_ok_bind]
    refine ⟨_, _, rfl, .inr ⟨l, _, rfl, hl, hb₃.appendFrame _, ?_, ?_, ?_⟩⟩
    · refine ⟨idBytes, offsetBytes, lenBytes, encodeQuicInteger_varint hidBytes,
        hoffsetBytes.imp_right fun h => ⟨h.1, encodeQuicInteger_varint h.2⟩, ?_, ?_⟩
      · rcases hlenBytes with ⟨hzero, rfl⟩ | ⟨hpos, he⟩
        · exact .inl ⟨if_pos (by omega), rfl⟩
        · exact .inr ⟨l.dataLen, if_neg (by omega), encodeQuicInteger_varint he⟩
      · have hsome : (if l.dataLenLen = 0 then none else some l.dataLen).isSome =
            decide (l.dataLenLen > 0) := by
          by_cases hzero : l.dataLenLen = 0
          · rw [if_pos hzero, hzero]
            rfl
          · rw [if_neg hzero, decide_eq_true (Nat.pos_of_ne_zero hzero)]
            rfl
        rw [hsome]
        rfl
    · simp only [List.nil_append, List.length_append, List.length_cons, List.length_nil]
      omega
    · simp only [List.nil_append, List.length_append, List.length_cons, List.length_nil]
      omega

end Header

/-! ### Round trip -/

/-- `frame` is what has been written for the first `dataLen` bytes of a buffer. It fits, it parses
back whatever the rest of the packet holds, and without a length it fills the packet. -/
structure RoundTrips (p : CodecParameters) (b : PacketBuilder) (id offset : Nat)
    (writeBuffer : BufQueue) (flowControlLen : Nat) (fin : Bool) (dataLen : Nat) (frame : Bytes)
    (b' : PacketBuilder) : Prop where
  body : b'.body = b.body ++ frame
  space : b'.remainingBytes.toNat + frame.length = b.remainingBytes.toNat
  bounded : dataLen ≤ min writeBuffer.chainLength flowControlLen
  parses : ∀ queue rest, queue.bytes = frame ++ rest → rest.length ≤ b'.remainingBytes.toNat →
    ∃ data queue', parseFrame p queue = .ok ⟨.stream ⟨id, offset, data,
        fin && dataLen == writeBuffer.chainLength⟩ none, queue', false⟩ ∧
      data.bytes = writeBuffer.bytes.take dataLen ∧ queue'.bytes = rest
  fills : ∀ field fields, frame = field :: fields →
    (⟨field.toNat⟩ : StreamTypeField).hasDataLength = false → b'.remainingBytes.toNat = 0

section RoundTrip

variable {p : CodecParameters} {b b' : PacketBuilder} {id offset flowControlLen : Nat}
  {writeBuffer : BufQueue} {fin : Bool} {l : StreamFrameLayout} {header : Bytes}

theorem StreamHeader.hasDataLength {dataLen : Option Nat}
    (h : StreamHeader id offset dataLen fin header) {field : UInt8} {fields rest : Bytes}
    (hframe : header ++ rest = field :: fields) :
    (⟨field.toNat⟩ : StreamTypeField).hasDataLength = dataLen.isSome := by
  obtain ⟨idBytes, offsetBytes, lenBytes, -, -, -, rfl⟩ := h.fields
  obtain ⟨-, hlength, -, hsmall, -⟩ :=
    streamTypeField_bits (decide (offset ≠ 0)) dataLen.isSome fin
  rw [List.cons_append, List.cons.injEq] at hframe
  rw [← hframe.1, UInt8.toNat_ofNat', Nat.mod_eq_of_lt (Nat.lt_trans hsmall (by decide))]
  exact hlength

theorem writeStreamFrameData_spec {dataLen : Nat} (hwritten : b.Written header b')
    (hle : dataLen ≤ writeBuffer.chainLength) :
    ∃ b'', writeStreamFrameData b' writeBuffer dataLen = .ok b'' ∧
      b.Written (header ++ writeBuffer.bytes.take dataLen) b'' := by
  unfold writeStreamFrameData
  by_cases hpos : dataLen > 0
  · rw [if_pos hpos, PacketBuilder.insert, if_neg (Nat.not_lt.mpr hle)]
    exact ⟨_, rfl, hwritten.push _⟩
  · rw [if_neg hpos, Nat.eq_zero_of_not_pos hpos, List.take_zero, List.append_nil]
    exact ⟨b', rfl, hwritten⟩

theorem HeaderWritten.roundTrips {b'' : PacketBuilder}
    (h : HeaderWritten b id offset writeBuffer.chainLength flowControlLen fin l header b')
    (hwritten : b.Written (header ++ writeBuffer.bytes.take l.dataLen) b'') :
    RoundTrips p b id offset writeBuffer flowControlLen fin l.dataLen
      (header ++ writeBuffer.bytes.take l.dataLen) b'' := by
  have hdata := h.fits.dataLen
  have hspace := h.fits.space
  have hatMost := h.atMost
  have htake : (writeBuffer.bytes.take l.dataLen).length = l.dataLen := by
    rw [List.length_take, writeBuffer.length_bytes]
    omega
  have hlength : (header ++ writeBuffer.bytes.take l.dataLen).length =
      header.length + l.dataLen := by rw [List.length_append, htake]
  have hremaining := hwritten.toNat (by omega)
  have hfull : l.dataLenLen = 0 → b''.remainingBytes.toNat = 0 := by
    intro hzero
    have := h.fits.full hzero
    have := h.atLeast
    omega
  refine ⟨hwritten.body, hremaining, hdata, fun queue rest hqueue hrest => ?_,
    fun field fields hframe hnone => ?_⟩
  · rw [List.append_assoc] at hqueue
    rw [← h.fits.shouldSetFin]
    refine parseFrame_stream h.format ?_ hqueue
    by_cases hzero : l.dataLenLen = 0
    · refine .inr ⟨if_pos hzero, List.length_eq_zero_iff.mp ?_⟩
      have := hfull hzero
      omega
    · exact .inl (by rw [if_neg hzero, htake])
  · rw [h.format.hasDataLength hframe] at hnone
    by_cases hzero : l.dataLenLen = 0
    · exact hfull hzero
    · rw [if_neg hzero] at hnone
      cases hnone

end RoundTrip

/-- With neither data nor FIN there is nothing to write and the call throws. Otherwise nothing is
written, or a frame that fits and parses back. The last hypothesis leaves out a header that does
not fit in front of 2 ^ 62 - 8 bytes or more. -/
theorem streamFrame_roundTrip (p : CodecParameters) (b : PacketBuilder) (id offset : Nat)
    (writeBuffer : BufQueue) (flowControlLen : Nat) (fin : Bool) (hid : id < 2 ^ 62)
    (hoffset : offset < 2 ^ 62) (hlen : writeBuffer.chainLength < 2 ^ 62)
    (hfield : streamHeaderSize id offset ≤ b.remainingBytes.toNat ∨
      min writeBuffer.chainLength flowControlLen ≤ kEightByteLimit - 8) :
    (b.remainingBytes.toNat ≠ 0 ∧ writeBuffer.chainLength = 0 ∧ fin = false →
      writeStreamFrame b id offset writeBuffer flowControlLen fin =
        .error (.internal "No data or fin supplied when writing stream.")) ∧
    (¬ (b.remainingBytes.toNat ≠ 0 ∧ writeBuffer.chainLength = 0 ∧ fin = false) →
      writeStreamFrame b id offset writeBuffer flowControlLen fin = .ok (none, b) ∨
        ∃ dataLen frame b',
          writeStreamFrame b id offset writeBuffer flowControlLen fin = .ok (some dataLen, b') ∧
          RoundTrips p b id offset writeBuffer flowControlLen fin dataLen frame b') := by
  constructor
  · rintro ⟨hremaining, hempty⟩
    unfold writeStreamFrame writeStreamFrameHeader
    rw [if_neg hremaining, if_pos hempty]
    rfl
  · intro hdata
    unfold writeStreamFrame
    by_cases hremaining : b.remainingBytes.toNat = 0
    · left
      rw [writeStreamFrameHeader, if_pos hremaining]
      rfl
    · obtain ⟨result, b', hheader, hresult⟩ := writeStreamFrameHeader_spec hid hoffset hlen
        hremaining (fun h => hdata ⟨hremaining, h⟩) hfield
      rw [hheader, except_ok_bind]
      rcases hresult with ⟨rfl, rfl⟩ | ⟨l, header, rfl, hwritten⟩
      · exact .inl rfl
      · have hle : l.dataLen ≤ writeBuffer.chainLength :=
          hwritten.fits.dataLen.trans (Nat.min_le_left _ _)
        obtain ⟨b'', hb'', hall⟩ := writeStreamFrameData_spec hwritten.written hle
        refine .inr ⟨l.dataLen, _, b'', ?_, hwritten.roundTrips hall⟩
        dsimp only
        rw [hb'']
        rfl

/-- Three bytes and FIN, in a packet with ten bytes left. -/
theorem streamFrame_roundTrip_threeBytes :
    ∃ dataLen frame b',
      writeStreamFrame ⟨10, [], [], true⟩ 4 0 (.ofBuf (some (.wrapBuffer [1, 2, 3]))) 100 true =
        .ok (some dataLen, b') ∧
      RoundTrips .default ⟨10, [], [], true⟩ 4 0 (.ofBuf (some (.wrapBuffer [1, 2, 3]))) 100 true
        dataLen frame b' := by
  refine ((streamFrame_roundTrip .default ⟨10, [], [], true⟩ 4 0
    (.ofBuf (some (.wrapBuffer [1, 2, 3]))) 100 true (by decide) (by decide) (by decide)
    (.inl (by decide))).2 (by decide)).resolve_left ?_
  intro hnone
  have hsome : ∃ b', writeStreamFrame ⟨10, [], [], true⟩ 4 0
      (.ofBuf (some (.wrapBuffer [1, 2, 3]))) 100 true = .ok (some 3, b') := ⟨_, rfl⟩
  obtain ⟨b', hsome⟩ := hsome
  rw [hsome] at hnone
  cases hnone

/-- Neither data nor FIN: no frame is written, and the call does not return. -/
theorem streamFrame_nothing_throws :
    writeStreamFrame ⟨10, [], [], true⟩ 4 0 .cleared 100 false =
        .error (.internal "No data or fin supplied when writing stream.") ∧
      ¬ ∃ result, writeStreamFrame ⟨10, [], [], true⟩ 4 0 .cleared 100 false = .ok result := by
  have hrun : writeStreamFrame ⟨10, [], [], true⟩ 4 0 .cleared 100 false =
      .error (.internal "No data or fin supplied when writing stream.") := rfl
  refine ⟨hrun, ?_⟩
  rintro ⟨result, h⟩
  rw [hrun] at h
  cases h

end MasqueQuic
