/-
STREAM frames of a stream group, written and read back.

A frame of a group has a type of its own, `FrameType::GROUP_STREAM`, and
`StreamTypeField::Builder` sets the same bits in it as in `FrameType::STREAM`. The base value is
0x32, in which the bit of the length field is set already: the reader finds a length in every
frame that `writeStreamFrameHeader` writes. What has been written with a length is read back. What
has been written without one, because the data fills the packet, is not:
`groupStreamFrame_roundTrip_iff`.
-/

import MasqueQuic.Quic.StreamFrameCodec

namespace MasqueQuic

/-- A STREAM frame of a group with the front of a buffer, as the stream scheduler and the packet
rebuilder write it. -/
def writeGroupStreamFrame (b : PacketBuilder) (id groupId offset : Nat) (writeBuffer : BufQueue)
    (flowControlLen : Nat) (fin : Bool) (skipLenHint : Option Bool) :
    Except QuicException (Option Nat × PacketBuilder) := do
  let (dataLen, b) ← writeStreamFrameHeader b id offset writeBuffer.chainLength flowControlLen fin
    skipLenHint (some groupId) true
  match dataLen with
  | none => return (none, b)
  | some dataLen => return (some dataLen, ← writeStreamFrameData b writeBuffer dataLen)

/-- The fields of a frame, besides the ids and the data. -/
structure StreamFields where
  offset : Bool
  dataLength : Bool
  fin : Bool
  deriving DecidableEq

/-- The names of the enumeration `FrameType`. -/
def FrameType.groupStreamFields : Nat → Option StreamFields
  | 0x32 => some ⟨false, false, false⟩  -- GROUP_STREAM
  | 0x33 => some ⟨false, false, true⟩   -- GROUP_STREAM_FIN
  | 0x34 => some ⟨false, true, false⟩   -- GROUP_STREAM_LEN
  | 0x35 => some ⟨false, true, true⟩    -- GROUP_STREAM_LEN_FIN
  | 0x36 => some ⟨true, false, false⟩   -- GROUP_STREAM_OFF
  | 0x37 => some ⟨true, false, true⟩    -- GROUP_STREAM_OFF_FIN
  | 0x38 => some ⟨true, true, false⟩    -- GROUP_STREAM_OFF_LEN
  | 0x39 => some ⟨true, true, true⟩     -- GROUP_STREAM_OFF_LEN_FIN
  | _ => none

/-- The fields that are read. -/
def StreamTypeField.fields (t : StreamTypeField) : StreamFields :=
  ⟨t.hasOffset, t.hasDataLength, t.hasFin⟩

/-- No type of a group is read with the fields that its name says. -/
theorem fields_ne_groupStreamFields {code field : Nat}
    (h : FrameType.ofCode code = some (.groupStream field)) :
    FrameType.groupStreamFields code ≠ some (StreamTypeField.fields ⟨field⟩) := by
  unfold FrameType.ofCode at h
  split at h <;> cases h <;> decide

/-! ### The layout -/

/-- The header up to the length field. -/
def groupHeaderSize (id groupId offset : Nat) : Option Nat := do
  let idSize ← getQuicIntegerSize id
  let groupIdSize ← getQuicIntegerSize groupId
  let offsetSize ← (if offset ≠ 0 then getQuicIntegerSize offset else pure 0)
  return 1 + idSize + groupIdSize + offsetSize

/-- The length is to be left out: as the caller says, or because the data fills the packet. -/
def skipsLength (skipLenHint : Option Bool) (wanted room : Nat) : Bool :=
  skipLenHint.getD (decide (wanted > 0 ∧ wanted ≥ room))

/-- There is room for the header, something to send behind it, and the length is left out. -/
def OmitsLength (remaining headerSize writeBufferLen flowControlLen : Nat) (fin : Bool)
    (skipLenHint : Option Bool) : Prop :=
  headerSize ≤ remaining ∧
    skipsLength skipLenHint (min writeBufferLen flowControlLen) (remaining - headerSize) = true ∧
    (0 < min (min writeBufferLen flowControlLen) (remaining - headerSize) ∨
      fin = true ∧ writeBufferLen = 0)

instance (remaining headerSize writeBufferLen flowControlLen : Nat) (fin : Bool)
    (skipLenHint : Option Bool) :
    Decidable (OmitsLength remaining headerSize writeBufferLen flowControlLen fin skipLenHint) :=
  inferInstanceAs (Decidable (_ ∧ _ ∧ (_ ∨ _)))

section Layout

variable {remaining headerSize writeBufferLen flowControlLen : Nat} {fin : Bool}
  {skipLenHint : Option Bool} {l : StreamFrameLayout}

theorem dataLenLen_of_mem_finishLayout {dataLen reserved : Nat}
    (h : l ∈ finishLayout remaining headerSize writeBufferLen dataLen reserved fin) :
    l.dataLenLen = reserved := by
  unfold finishLayout at h
  split at h
  · cases h
  · exact congrArg StreamFrameLayout.dataLenLen (mem_layoutOf h).1

/-- A layout with a length field fits, and one without has been asked for. -/
theorem streamFrameLayout_cases (hremaining : remaining < 2 ^ 32) (hsize : headerSize ≤ 2 ^ 32)
    (h : streamFrameLayout remaining headerSize writeBufferLen flowControlLen fin skipLenHint =
      .ok (some l)) :
    l.dataLenLen = 0 ∧
        OmitsLength remaining headerSize writeBufferLen flowControlLen fin skipLenHint ∨
      l.dataLenLen ≠ 0 ∧
        ¬ OmitsLength remaining headerSize writeBufferLen flowControlLen fin skipLenHint ∧
        Fits remaining headerSize writeBufferLen flowControlLen fin l := by
  unfold streamFrameLayout at h
  dsimp only at h
  generalize hskip : skipLenHint.getD (decide (min writeBufferLen flowControlLen > 0 ∧
    min writeBufferLen flowControlLen ≥ sub64 remaining headerSize)) = skip at h
  have hskips : headerSize ≤ remaining → skipsLength skipLenHint (min writeBufferLen flowControlLen)
      (remaining - headerSize) = skip := by
    intro hle
    rw [sub64_of_le hle (by omega)] at hskip
    exact hskip
  cases skip with
  | true =>
    rw [if_pos rfl, pure_bind] at h
    have hl : l ∈ finishLayout remaining headerSize writeBufferLen
        (min (min writeBufferLen flowControlLen) (sub64 remaining headerSize)) 0 fin :=
      Except.ok.inj h
    rw [finishLayout_zero] at hl
    obtain ⟨rfl, hheader, hsome⟩ := mem_layoutOf hl
    rw [sub64_of_le hheader (by omega)] at hsome
    refine .inl ⟨rfl, hheader, hskips hheader, ?_⟩
    rcases hsome with hpos | ⟨hfin, hall⟩
    · exact .inl hpos
    · by_cases hempty : writeBufferLen = 0
      · exact .inr ⟨hfin, hempty⟩
      · exact .inl (by omega)
  | false =>
    rw [if_neg Bool.false_ne_true] at h
    obtain ⟨reserved, hreserved, hl⟩ := except_bind_eq_ok.mp h
    have hl : l ∈ finishLayout remaining headerSize writeBufferLen
        (min (min writeBufferLen flowControlLen) (sub64 remaining headerSize)) reserved fin :=
      Except.ok.inj hl
    refine .inr ⟨?_, ?_,
      finishLayout_fits_length hremaining hsize (Nat.min_le_left _ _) hreserved l hl⟩
    · rw [dataLenLen_of_mem_finishLayout hl]
      exact Nat.ne_of_gt (le_of_lengthFieldSize hreserved).2.1
    · rintro ⟨hheader, homits, -⟩
      rw [hskips hheader] at homits
      cases homits

/-- What is asked for without a length is laid out so. -/
theorem streamFrameLayout_of_omitsLength (hremaining : remaining < 2 ^ 32)
    (h : OmitsLength remaining headerSize writeBufferLen flowControlLen fin skipLenHint) :
    ∃ dataLen, dataLen ≤ writeBufferLen ∧ streamFrameLayout remaining headerSize writeBufferLen
      flowControlLen fin skipLenHint = .ok (some ⟨dataLen, 0, fin && dataLen == writeBufferLen⟩) := by
  obtain ⟨hheader, hskips, hsome⟩ := h
  generalize hdata : min (min writeBufferLen flowControlLen) (remaining - headerSize) = dataLen at *
  refine ⟨dataLen, by omega, ?_⟩
  have hnonempty : ¬ (dataLen = 0 ∧ (fin && dataLen == writeBufferLen) = false) := by
    rintro ⟨hnone, hfin⟩
    rcases hsome with hpos | ⟨rfl, rfl⟩
    · omega
    · rw [hnone] at hfin
      cases hfin
  have hskip : skipLenHint.getD (decide (min writeBufferLen flowControlLen > 0 ∧
      min writeBufferLen flowControlLen ≥ remaining - headerSize)) = true := hskips
  unfold streamFrameLayout
  rw [sub64_of_le hheader (by omega)]
  dsimp only
  rw [hskip, if_pos rfl, pure_bind, hdata, finishLayout_zero]
  unfold layoutOf
  rw [if_neg hnonempty, if_neg (Nat.not_lt.mpr hheader)]
  rfl

end Layout

/-! ### The bytes of a header -/

/-- `header` is the header of a frame of a group, up to its length field if it has one. -/
structure GroupStreamHeader (id groupId offset : Nat) (dataLen : Option Nat) (fin : Bool)
    (header : Bytes) : Prop where
  fields : ∃ idBytes groupIdBytes offsetBytes lenBytes, Varint id idBytes ∧
    Varint groupId groupIdBytes ∧
    (offset = 0 ∧ offsetBytes = [] ∨ offset ≠ 0 ∧ Varint offset offsetBytes) ∧
    (dataLen = none ∧ lenBytes = [] ∨ ∃ n, dataLen = some n ∧ Varint n lenBytes) ∧
    header = UInt8.ofNat (streamTypeField true (decide (offset ≠ 0)) dataLen.isSome fin) ::
      (idBytes ++ (groupIdBytes ++ (offsetBytes ++ lenBytes)))

/-- The bit of the length field is set whether or not there is one. -/
theorem streamTypeField_group_bits (hasOffset hasLength hasFin : Bool) :
    let t : StreamTypeField := ⟨streamTypeField true hasOffset hasLength hasFin⟩
    t.hasOffset = hasOffset ∧ t.hasDataLength = true ∧ t.hasFin = hasFin ∧ t.field < 64 ∧
      FrameType.ofCode t.field = some (.groupStream t.field) := by
  cases hasOffset <;> cases hasLength <;> cases hasFin <;> exact ⟨rfl, rfl, rfl, by decide, rfl⟩

section Parse

variable {p : CodecParameters} {queue : BufQueue} {id groupId offset : Nat} {dataLen : Option Nat}
  {fin : Bool} {header data rest : Bytes}

theorem accepts_integer {v : Nat} {e : Bytes} (h : Varint v e) (what : String) :
    Accepts (FrameReader.integer what) e v := FrameReader.integer_append h what

/-- The fields in front of the length, and then whatever is read as a length. -/
theorem decodeStreamFrameHeader_group {idBytes groupIdBytes offsetBytes s : Bytes}
    {field : StreamTypeField} (hid : Varint id idBytes) (hgroupId : Varint groupId groupIdBytes)
    (hoffset : offset = 0 ∧ offsetBytes = [] ∨ offset ≠ 0 ∧ Varint offset offsetBytes)
    (hasOffset : field.hasOffset = decide (offset ≠ 0)) (hasLength : field.hasDataLength = true) :
    (decodeStreamFrameHeader field true).run (idBytes ++ (groupIdBytes ++ (offsetBytes ++ s))) =
      ((FrameReader.integer "Invalid length").run s).map fun r =>
        (⟨id, some groupId, offset, some r.1⟩, r.2) := by
  have hoff : Accepts (if field.hasOffset then FrameReader.integer "Invalid offset" else pure 0)
      offsetBytes offset := by
    rw [hasOffset]
    rcases hoffset with ⟨rfl, rfl⟩ | ⟨hne, hvarint⟩
    · exact .pure 0
    · rw [if_pos (decide_eq_true hne)]
      exact accepts_integer hvarint _
  unfold decodeStreamFrameHeader
  rw [StateT.run_bind, accepts_integer hid, except_ok_bind, if_pos rfl]
  dsimp only
  rw [StateT.run_bind, (accepts_integer hgroupId _).map, except_ok_bind]
  dsimp only
  rw [StateT.run_bind, hoff, except_ok_bind, hasLength, if_pos rfl]
  dsimp only
  rw [StateT.run_bind, StateT.run_map]
  cases (FrameReader.integer "Invalid length").run s with
  | error fault => rfl
  | ok r => rfl

/-- With a length the frame is read back. -/
theorem parseFrame_groupStream
    (hheader : GroupStreamHeader id groupId offset (some data.length) fin header)
    (hqueue : queue.bytes = header ++ (data ++ rest)) :
    ∃ buf queue', parseFrame p queue =
        .ok ⟨.stream ⟨id, offset, buf, fin⟩ (some groupId), queue', false⟩ ∧
      buf.bytes = data ∧ queue'.bytes = rest := by
  obtain ⟨idBytes, groupIdBytes, offsetBytes, lenBytes, hid, hgroupId, hoffset, hlen, rfl⟩ :=
    hheader.fields
  obtain ⟨hasOffset, hasLength, hfin, hsmall, hcode⟩ :=
    streamTypeField_group_bits (decide (offset ≠ 0)) (some data.length).isSome fin
  generalize streamTypeField true (decide (offset ≠ 0)) (some data.length).isSome fin = field at *
  have hlenBytes : Varint data.length lenBytes := by
    rcases hlen with ⟨hnone, -⟩ | ⟨n, hn, hvarint⟩
    · cases hnone
    · cases hn
      exact hvarint
  have hfields : (decodeStreamFrameHeader ⟨field⟩ true).run
      (idBytes ++ (groupIdBytes ++ (offsetBytes ++ lenBytes)) ++ (data ++ rest)) =
      .ok (⟨id, some groupId, offset, some data.length⟩, data ++ rest) := by
    simp only [List.append_assoc]
    rw [decodeStreamFrameHeader_group hid hgroupId hoffset hasOffset hasLength,
      accepts_integer hlenBytes]
    rfl
  have hne : idBytes ++ (groupIdBytes ++ (offsetBytes ++ lenBytes)) ≠ [] :=
    List.append_ne_nil_of_left_ne_nil (List.ne_nil_of_length_pos hid.length_pos) _
  obtain ⟨trimmed, hbytes, hparse⟩ := parseFrame_of_type p (varint_byte hsmall) hqueue
  obtain ⟨buf, queue', hframe, hbuf, hrest⟩ :=
    decodeStreamFrame_append hfields hne hfin (.inl rfl) hbytes
  have hsome : trimmed.chain_.isNone = false := by
    apply isNone_of_bytes_ne_nil
    rw [hbytes]
    exact List.append_ne_nil_of_left_ne_nil hne _
  refine ⟨buf, queue', ?_, hbuf, hrest⟩
  rw [hparse, parseTypedFrame_of_decode hcode hframe, hsome, Bool.and_false]

theorem integer_run_ok {what : String} {s t : Bytes} {v : Nat}
    (h : (FrameReader.integer what).run s = .ok (v, t)) : ∃ e, Varint v e ∧ s = e ++ t := by
  rw [FrameReader.integer, StateT.run_map] at h
  obtain ⟨⟨⟨value, width⟩, left⟩, hsized, hresult⟩ := except_bind_eq_ok.mp h
  change FrameReader.sizedInteger what s = _ at hsized
  unfold FrameReader.sizedInteger at hsized
  split at hsized
  · cases hsized
  · rename_i hdecode
    cases hsized
    cases hresult
    obtain ⟨e, rest, hvarint, rfl, rfl⟩ := varint_of_decodeQuicInteger hdecode
    exact ⟨e, hvarint, by rw [List.drop_left]⟩

/-- Without a length the first bytes of the data are taken for one, and the frame is not read
back. -/
theorem parseFrame_groupStream_without_length
    (hheader : GroupStreamHeader id groupId offset none fin header)
    (hqueue : queue.bytes = header ++ data) :
    ¬ ∃ buf queue', parseFrame p queue =
        .ok ⟨.stream ⟨id, offset, buf, fin⟩ (some groupId), queue', false⟩ ∧ buf.bytes = data := by
  rintro ⟨buf, queue', hframe, hbuf⟩
  obtain ⟨idBytes, groupIdBytes, offsetBytes, lenBytes, hid, hgroupId, hoffset, hlen, rfl⟩ :=
    hheader.fields
  obtain rfl : lenBytes = [] := by
    rcases hlen with ⟨-, hnil⟩ | ⟨n, hn, -⟩
    · exact hnil
    · cases hn
  obtain ⟨hasOffset, hasLength, hfin, hsmall, hcode⟩ :=
    streamTypeField_group_bits (decide (offset ≠ 0)) (none : Option Nat).isSome fin
  generalize streamTypeField true (decide (offset ≠ 0)) (none : Option Nat).isSome fin = field at *
  obtain ⟨trimmed, hbytes, hparse⟩ := parseFrame_of_type p (varint_byte hsmall)
    (show queue.bytes = [UInt8.ofNat field] ++ (idBytes ++ (groupIdBytes ++ (offsetBytes ++ data))) by
      simpa using hqueue)
  have hfields := decodeStreamFrameHeader_group (s := data) hid hgroupId hoffset hasOffset hasLength
  have hne : idBytes ≠ [] := List.ne_nil_of_length_pos hid.length_pos
  have htrimmed : trimmed.bytes ≠ [] := by
    rw [hbytes]
    exact List.append_ne_nil_of_left_ne_nil hne _
  rw [hparse] at hframe
  have hdecode : decodeStreamFrame trimmed ⟨field⟩ true =
      .ok (.stream ⟨id, offset, buf, fin⟩ (some groupId), queue') :=
    decode_of_parseTypedFrame hcode hframe
  cases hlength : (FrameReader.integer "Invalid length").run data with
  | error fault =>
    unfold decodeStreamFrame at hdecode
    rw [overQueue_of_ne_nil _ htrimmed, hbytes, hfields, hlength] at hdecode
    cases hdecode
  | ok r =>
    obtain ⟨n, rest⟩ := r
    obtain ⟨e, hvarint, rfl⟩ := integer_run_ok hlength
    have hpos := hvarint.length_pos
    by_cases hle : n ≤ rest.length
    · -- the frame that is read has fewer bytes of data
      have hrun : (decodeStreamFrameHeader ⟨field⟩ true).run
          (idBytes ++ (groupIdBytes ++ (offsetBytes ++ e)) ++ (rest.take n ++ rest.drop n)) =
          .ok (⟨id, some groupId, offset, some n⟩, rest.take n ++ rest.drop n) := by
        rw [List.take_append_drop]
        simp only [List.append_assoc]
        rw [hfields, hlength]
        rfl
      obtain ⟨buf', queue'', hdecode', hbuf', -⟩ := decodeStreamFrame_append hrun
        (List.append_ne_nil_of_left_ne_nil hne _) hfin
        (.inl (by rw [List.length_take, Nat.min_eq_left hle]))
        (by rw [hbytes, List.take_append_drop]; simp only [List.append_assoc])
      rw [hdecode'] at hdecode
      cases hdecode
      rw [hbuf] at hbuf'
      have hlen := congrArg List.length hbuf'
      rw [List.length_append, List.length_take] at hlen
      omega
    · have hshort : decodeStreamFrame trimmed ⟨field⟩ true =
          .error (.exception "Length mismatch") := by
        unfold decodeStreamFrame
        rw [overQueue_of_ne_nil _ htrimmed, hbytes, hfields, hlength]
        exact if_pos (Nat.lt_of_not_le hle)
      rw [hshort] at hdecode
      cases hdecode

end Parse

/-! ### What is written -/

theorem encode_of_size {v size : Nat} (h : getQuicIntegerSize v = some size) :
    ∃ e, encodeQuicInteger v = some e ∧ e.length = size := by
  have hlt : v < 2 ^ 62 := by
    unfold getQuicIntegerSize kOneByteLimit kTwoByteLimit kFourByteLimit kEightByteLimit at h
    by_contra hge
    rw [if_neg (by omega), if_neg (by omega), if_neg (by omega), if_neg (by omega)] at h
    cases h
  obtain ⟨e, he⟩ := encodeQuicInteger_of_lt hlt
  rw [getQuicIntegerSize_encode he] at h
  exact ⟨e, he, Option.some.inj h⟩

theorem size_of_integerSize {v size : Nat} (h : integerSize v = .ok size) :
    getQuicIntegerSize v = some size := by
  unfold integerSize at h
  split at h
  · rename_i hsize
    rw [hsize, Except.ok.inj h]
  · cases h

section Header

variable {b b' : PacketBuilder} {id groupId offset writeBufferLen flowControlLen dataLen : Nat}
  {fin : Bool} {skipLenHint : Option Bool}

/-- The bytes in front of the length field. -/
structure GroupFields (id groupId offset headerSize : Nat)
    (idBytes groupIdBytes offsetBytes : Bytes) : Prop where
  id : encodeQuicInteger id = some idBytes
  groupId : encodeQuicInteger groupId = some groupIdBytes
  offset : offset = 0 ∧ offsetBytes = [] ∨
    offset ≠ 0 ∧ encodeQuicInteger offset = some offsetBytes
  size : headerSize = 1 + idBytes.length + groupIdBytes.length + offsetBytes.length

theorem exists_groupFields {headerSize : Nat} (h : groupHeaderSize id groupId offset = some headerSize) :
    ∃ idBytes groupIdBytes offsetBytes,
      GroupFields id groupId offset headerSize idBytes groupIdBytes offsetBytes := by
  simp only [groupHeaderSize, Option.bind_eq_bind, Option.bind_eq_some_iff] at h
  obtain ⟨idSize, hid, groupIdSize, hgroupId, offsetSize, hoffset, hsize⟩ := h
  obtain ⟨idBytes, hidBytes, rfl⟩ := encode_of_size hid
  obtain ⟨groupIdBytes, hgroupIdBytes, rfl⟩ := encode_of_size hgroupId
  by_cases hzero : offset = 0
  · rw [if_neg (not_not_intro hzero)] at hoffset
    cases hoffset
    exact ⟨idBytes, groupIdBytes, [], hidBytes, hgroupIdBytes, .inl ⟨hzero, rfl⟩,
      (Option.some.inj hsize).symm⟩
  · rw [if_pos hzero] at hoffset
    obtain ⟨offsetBytes, hoffsetBytes, rfl⟩ := encode_of_size hoffset
    exact ⟨idBytes, groupIdBytes, offsetBytes, hidBytes, hgroupIdBytes,
      .inr ⟨hzero, hoffsetBytes⟩, (Option.some.inj hsize).symm⟩

/-- A frame is written only if the header can be, for a layout. -/
theorem layout_of_writeStreamFrameHeader
    (h : writeStreamFrameHeader b id offset writeBufferLen flowControlLen fin skipLenHint
      (some groupId) true = .ok (some dataLen, b')) :
    ¬ (writeBufferLen = 0 ∧ fin = false) ∧
      ∃ headerSize l, groupHeaderSize id groupId offset = some headerSize ∧
        streamFrameLayout b.remainingBytes.toNat headerSize writeBufferLen flowControlLen fin
          skipLenHint = .ok (some l) := by
  unfold writeStreamFrameHeader at h
  dsimp only at h
  split at h
  · cases h
  split at h
  · cases h
  rename_i hsome
  refine ⟨hsome, ?_⟩
  obtain ⟨idSize, hid, h⟩ := except_bind_eq_ok.mp h
  obtain ⟨groupIdSize, hgroupId, h⟩ := except_bind_eq_ok.mp h
  split at h
  · cases h
  obtain ⟨offsetSize, hoffset, h⟩ := except_bind_eq_ok.mp h
  obtain ⟨layout, hlayout, h⟩ := except_bind_eq_ok.mp h
  cases layout with
  | none => cases h
  | some l =>
    refine ⟨1 + idSize + groupIdSize + offsetSize, l, ?_, hlayout⟩
    have hoffset : (if offset ≠ 0 then getQuicIntegerSize offset else pure 0) = some offsetSize := by
      by_cases hzero : offset = 0
      · rw [if_neg (not_not_intro hzero)] at hoffset ⊢
        cases hoffset
        rfl
      · rw [if_pos hzero] at hoffset ⊢
        exact size_of_integerSize hoffset
    rw [groupHeaderSize, size_of_integerSize hid, size_of_integerSize hgroupId, hoffset]
    rfl

/-- The header that is written for a layout. -/
theorem writeStreamFrameHeader_of_layout {headerSize : Nat} {l : StreamFrameLayout}
    {idBytes groupIdBytes offsetBytes lenBytes : Bytes}
    (hfields : GroupFields id groupId offset headerSize idBytes groupIdBytes offsetBytes)
    (hsome : ¬ (writeBufferLen = 0 ∧ fin = false)) (hspace : headerSize ≤ b.remainingBytes.toNat)
    (hlayout : streamFrameLayout b.remainingBytes.toNat headerSize writeBufferLen flowControlLen fin
      skipLenHint = .ok (some l))
    (hlen : ¬ l.dataLenLen > 0 ∧ lenBytes = [] ∨
      l.dataLenLen > 0 ∧ encodeQuicInteger l.dataLen = some lenBytes) :
    ∃ b', writeStreamFrameHeader b id offset writeBufferLen flowControlLen fin skipLenHint
        (some groupId) true = .ok (some l.dataLen, b') ∧
      b.Written (UInt8.ofNat (streamTypeField true (decide (offset ≠ 0))
        (decide (l.dataLenLen > 0)) l.shouldSetFin) ::
          (idBytes ++ (groupIdBytes ++ (offsetBytes ++ lenBytes)))) b' := by
  have hsize := hfields.size
  have hoffsetSize : (if offset ≠ 0 then integerSize offset else pure 0) =
      .ok offsetBytes.length := by
    rcases hfields.offset with ⟨hzero, rfl⟩ | ⟨hne, he⟩
    · rw [if_neg (not_not_intro hzero)]
      rfl
    · rw [if_pos hne, integerSize_encode he]
  have hstart := (PacketBuilder.Written.refl b).push [UInt8.ofNat (streamTypeField true
    (decide (offset ≠ 0)) (decide (l.dataLenLen > 0)) l.shouldSetFin)]
  obtain ⟨b₁, hwrite₁, hb₁⟩ := hstart.write hfields.id
  obtain ⟨b₂, hwrite₂, hb₂⟩ := hb₁.write hfields.groupId
  obtain ⟨b₃, hwrite₃, hb₃⟩ := hb₂.writeIf (c := offset ≠ 0) (v := offset) (e := offsetBytes)
    (hfields.offset.imp_left fun h => ⟨not_not_intro h.1, h.2⟩)
  obtain ⟨b₄, hwrite₄, hb₄⟩ := hb₃.writeIf (c := l.dataLenLen > 0) (v := l.dataLen) hlen
  refine ⟨b₄.appendFrame ⟨id, offset, l.dataLen, l.shouldSetFin, false, 0⟩, ?_, ?_⟩
  · unfold writeStreamFrameHeader
    rw [if_neg (by omega), if_neg hsome, integerSize_encode hfields.id, except_ok_bind]
    dsimp only
    rw [integerSize_encode hfields.groupId, except_ok_bind, if_neg (by omega), hoffsetSize,
      except_ok_bind, ← hsize, hlayout, except_ok_bind]
    dsimp only [Option.isSome_some]
    rw [hwrite₁, except_ok_bind, hwrite₂, except_ok_bind, hwrite₃, except_ok_bind, hwrite₄,
      except_ok_bind]
    rfl
  · have hb := hb₄.appendFrame ⟨id, offset, l.dataLen, l.shouldSetFin, false, 0⟩
    simpa only [List.nil_append, List.append_assoc, List.cons_append] using hb

end Header

/-! ### Round trip -/

/-- Whatever is written is read back as a frame of the group, behind which the packet may go on
within the space that is left. -/
def GroupRoundTrips (p : CodecParameters) (b : PacketBuilder) (id groupId offset : Nat)
    (writeBuffer : BufQueue) (flowControlLen : Nat) (fin : Bool) (skipLenHint : Option Bool) : Prop :=
  ∀ dataLen b', writeGroupStreamFrame b id groupId offset writeBuffer flowControlLen fin
      skipLenHint = .ok (some dataLen, b') →
    ∃ frame, b'.body = b.body ++ frame ∧
      ∀ queue rest, queue.bytes = frame ++ rest → rest.length ≤ b'.remainingBytes.toNat →
        ∃ data queue', parseFrame p queue = .ok ⟨.stream ⟨id, offset, data,
            fin && dataLen == writeBuffer.chainLength⟩ (some groupId), queue', false⟩ ∧
          data.bytes = writeBuffer.bytes.take dataLen ∧ queue'.bytes = rest

section RoundTrip

variable {p : CodecParameters} {b : PacketBuilder} {id groupId offset flowControlLen headerSize : Nat}
  {writeBuffer : BufQueue} {fin : Bool} {skipLenHint : Option Bool}

theorem GroupFields.header_le {idBytes groupIdBytes offsetBytes : Bytes}
    (h : GroupFields id groupId offset headerSize idBytes groupIdBytes offsetBytes) :
    headerSize ≤ 2 ^ 32 := by
  have hid := length_encodeQuicInteger_le h.id
  have hgroupId := length_encodeQuicInteger_le h.groupId
  have hoffset : offsetBytes.length ≤ 8 := by
    rcases h.offset with ⟨-, rfl⟩ | ⟨-, he⟩
    · exact Nat.zero_le _
    · exact length_encodeQuicInteger_le he
  have := h.size
  omega

theorem GroupFields.format {idBytes groupIdBytes offsetBytes lenBytes : Bytes} {len : Option Nat}
    (h : GroupFields id groupId offset headerSize idBytes groupIdBytes offsetBytes)
    (hlen : len = none ∧ lenBytes = [] ∨ ∃ n, len = some n ∧ Varint n lenBytes) :
    GroupStreamHeader id groupId offset len fin
      (UInt8.ofNat (streamTypeField true (decide (offset ≠ 0)) len.isSome fin) ::
        (idBytes ++ (groupIdBytes ++ (offsetBytes ++ lenBytes)))) :=
  ⟨⟨idBytes, groupIdBytes, offsetBytes, lenBytes, encodeQuicInteger_varint h.id,
    encodeQuicInteger_varint h.groupId,
    h.offset.imp_right fun ho => ⟨ho.1, encodeQuicInteger_varint ho.2⟩, hlen, rfl⟩⟩

theorem not_groupRoundTrips (hsize : groupHeaderSize id groupId offset = some headerSize)
    (homits : OmitsLength b.remainingBytes.toNat headerSize writeBuffer.chainLength flowControlLen
      fin skipLenHint) :
    ¬ GroupRoundTrips p b id groupId offset writeBuffer flowControlLen fin skipLenHint := by
  intro h
  obtain ⟨idBytes, groupIdBytes, offsetBytes, hfields⟩ := exists_groupFields hsize
  obtain ⟨dataLen, hle, hlayout⟩ :=
    streamFrameLayout_of_omitsLength b.remainingBytes.toNat_lt homits
  have hsome : ¬ (writeBuffer.chainLength = 0 ∧ fin = false) := by
    rintro ⟨hempty, hfin⟩
    rcases homits.2.2 with hpos | ⟨htrue, -⟩
    · omega
    · rw [hfin] at htrue
      cases htrue
  obtain ⟨b₁, hheader, hwritten⟩ := writeStreamFrameHeader_of_layout hfields hsome
    homits.1 hlayout (.inl ⟨Nat.lt_irrefl 0, rfl⟩)
  obtain ⟨b₂, hdata, hall⟩ := writeStreamFrameData_spec hwritten hle
  have hwrite : writeGroupStreamFrame b id groupId offset writeBuffer flowControlLen fin
      skipLenHint = .ok (some dataLen, b₂) := by
    unfold writeGroupStreamFrame
    rw [hheader, except_ok_bind]
    dsimp only
    rw [hdata]
    rfl
  obtain ⟨frame, hbody, hparses⟩ := h dataLen b₂ hwrite
  have hbytes : (BufQueue.ofBuf (some (.wrapBuffer frame))).bytes = frame :=
    IOBuf.bytes_wrapBuffer frame
  obtain ⟨data, queue', hframe, hread, -⟩ :=
    hparses _ [] (hbytes.trans (List.append_nil _).symm) (Nat.zero_le _)
  have hformat : GroupStreamHeader id groupId offset none
      (fin && dataLen == writeBuffer.chainLength) _ := hfields.format (.inl ⟨rfl, rfl⟩)
  refine parseFrame_groupStream_without_length hformat ?_ ⟨data, queue', hframe, hread⟩
  exact hbytes.trans (List.append_cancel_left (hbody.symm.trans hall.body))

theorem groupRoundTrips_of_length
    (h : ¬ ∃ headerSize, groupHeaderSize id groupId offset = some headerSize ∧
      OmitsLength b.remainingBytes.toNat headerSize writeBuffer.chainLength flowControlLen fin
        skipLenHint) :
    GroupRoundTrips p b id groupId offset writeBuffer flowControlLen fin skipLenHint := by
  intro dataLen b' hwrite
  unfold writeGroupStreamFrame at hwrite
  obtain ⟨⟨written, b₁⟩, hheader, hwrite⟩ := except_bind_eq_ok.mp hwrite
  cases written with
  | none => cases hwrite
  | some n =>
    obtain ⟨hsome, headerSize, l, hsize, hlayout⟩ := layout_of_writeStreamFrameHeader hheader
    obtain ⟨idBytes, groupIdBytes, offsetBytes, hfields⟩ := exists_groupFields hsize
    rcases streamFrameLayout_cases b.remainingBytes.toNat_lt hfields.header_le hlayout with
      ⟨-, homits⟩ | ⟨hpos, -, hfits⟩
    · exact absurd ⟨headerSize, hsize, homits⟩ h
    obtain ⟨size, hlenSize, -⟩ := hfits.field hpos
    obtain ⟨lenBytes, hlenBytes, -⟩ := encode_of_size hlenSize
    have hspace := hfits.space
    obtain ⟨b₂, hheader', hwritten⟩ := writeStreamFrameHeader_of_layout hfields hsome (by omega)
      hlayout (.inr ⟨Nat.pos_of_ne_zero hpos, hlenBytes⟩)
    rw [hheader'] at hheader
    cases hheader
    have hle : l.dataLen ≤ writeBuffer.chainLength := hfits.dataLen.trans (Nat.min_le_left _ _)
    obtain ⟨b₃, hdata, hall⟩ := writeStreamFrameData_spec hwritten hle
    dsimp only at hwrite
    rw [hdata] at hwrite
    cases hwrite
    have htake : (writeBuffer.bytes.take l.dataLen).length = l.dataLen := by
      rw [List.length_take, writeBuffer.length_bytes, Nat.min_eq_left hle]
    refine ⟨_, hall.body, fun queue rest hqueue _ => ?_⟩
    have hformat : GroupStreamHeader id groupId offset
        (some (writeBuffer.bytes.take l.dataLen).length) l.shouldSetFin _ :=
      hfields.format (.inr ⟨_, rfl, htake.symm ▸ encodeQuicInteger_varint hlenBytes⟩)
    rw [← hfits.shouldSetFin]
    rw [decide_eq_true (Nat.pos_of_ne_zero hpos), List.append_assoc] at hqueue
    exact parseFrame_groupStream hformat hqueue

end RoundTrip

/-- What is written is read back exactly when it has a length; and none of the names of the types
says which fields are read. -/
theorem groupStreamFrame_roundTrip_iff (p : CodecParameters) (b : PacketBuilder)
    (id groupId offset : Nat) (writeBuffer : BufQueue) (flowControlLen : Nat) (fin : Bool)
    (skipLenHint : Option Bool) :
    (GroupRoundTrips p b id groupId offset writeBuffer flowControlLen fin skipLenHint ↔
      ¬ ∃ headerSize, groupHeaderSize id groupId offset = some headerSize ∧
        OmitsLength b.remainingBytes.toNat headerSize writeBuffer.chainLength flowControlLen fin
          skipLenHint) ∧
    ∀ code field, FrameType.ofCode code = some (.groupStream field) →
      FrameType.groupStreamFields code ≠ some (StreamTypeField.fields ⟨field⟩) := by
  refine ⟨⟨?_, groupRoundTrips_of_length⟩, fun code field => fields_ne_groupStreamFields⟩
  rintro h ⟨headerSize, hsize, homits⟩
  exact not_groupRoundTrips hsize homits h

/-- Eight bytes where eight are left behind the type and the ids: the first of them is read as the
length. -/
theorem groupStreamFrame_full_fails :
    ¬ GroupRoundTrips .default ⟨11, [], [], true⟩ 4 7 0
        (.ofBuf (some (.wrapBuffer (List.replicate 8 1)))) 100 false none ∧
      FrameType.groupStreamFields 0x34 ≠ some (StreamTypeField.fields ⟨0x34⟩) := by
  refine ⟨?_, by decide⟩
  exact not_groupRoundTrips (show groupHeaderSize 4 7 0 = some 3 from rfl) (by decide)

end MasqueQuic
