/-
What the frame parser does on every payload.

A decoder that reads through a cursor throws or moves forward. The one way out of
`decodeRegularPacket` that is neither a list of frames nor a `FRAME_ENCODING_ERROR` is a STREAM
or DATAGRAM frame of which only the type is there: its decoder builds a cursor over an empty
queue, and those that read a stream id or a length go through it.
-/

import MasqueQuic.Quic.Decode

namespace MasqueQuic

open FrameReader

/-! ### Readers -/

/-- An exception that `parseFrame` catches. -/
def DecodeFault.Thrown (e : DecodeFault) : Prop := ∃ what, e = .exception what

open DecodeFault

namespace FrameReader

variable {α : Type} {what : String}

theorem steady_throwIf {p : Bool} : Steady Thrown (throwIf what p) := Steady.guard ⟨what, rfl⟩

theorem steady_sizedInteger : Steady Thrown (sizedInteger what) := by
  intro s
  change Ends Thrown (sizedInteger what s) _
  unfold sizedInteger
  split
  · exact ⟨what, rfl⟩
  · exact List.drop_suffix _ s

/-- The width that is returned is what was read. -/
theorem sizedInteger_width (s : Bytes) :
    Ends Thrown ((sizedInteger what).run s)
      (fun result => result.1.2 + result.2.length = s.length) := by
  change Ends Thrown (sizedInteger what s) _
  unfold sizedInteger
  split
  · exact ⟨what, rfl⟩
  · rename_i value width hdecode
    obtain ⟨e, t, -, rfl, rfl⟩ := varint_of_decodeQuicInteger hdecode
    rw [List.drop_left]
    exact (List.length_append).symm

theorem steady_integer : Steady Thrown (integer what) := steady_sizedInteger.map

theorem steady_pull {n : Nat} : Steady Thrown (pull n) := (Steady.take ⟨_, rfl⟩).map

theorem steady_totalLength : Steady Thrown totalLength := fun s => List.suffix_refl s

theorem steady_cloneAtMost {n : Nat} : Steady Thrown (cloneAtMost n) :=
  fun s => List.drop_suffix n s

/-- The next field is read, and then the rest. -/
theorem steady_field {k : Nat → FrameReader α} (hk : ∀ value, Steady Thrown (k value)) :
    Steady Thrown (integer what >>= k) :=
  steady_integer.bind hk

theorem steady_checked {p : Bool} {k : Unit → FrameReader α} (hk : Steady Thrown (k ())) :
    Steady Thrown (throwIf what p >>= k) :=
  steady_throwIf.bind fun _ => hk

theorem steady_ite {c : Bool} {r r' : FrameReader α} (hr : Steady Thrown r)
    (hr' : Steady Thrown r') : Steady Thrown (if c then r else r') := by
  cases c with
  | true => exact hr
  | false => exact hr'

end FrameReader

theorem steady_decodePaddingFrame : Steady Thrown decodePaddingFrame := by
  intro s
  change Ends Thrown (decodePaddingFrame s) _
  unfold decodePaddingFrame
  split
  · exact List.suffix_refl _
  · split
    · exact List.suffix_refl _
    · split
      · exact List.nil_suffix
      · exact List.suffix_refl _

theorem steady_decodeKnobFrame : Steady Thrown decodeKnobFrame :=
  steady_field fun _ => steady_field fun _ => steady_field fun _ =>
    steady_cloneAtMost.bind fun _ => .pure _

theorem steady_decodeAckFrequencyFrame : Steady Thrown decodeAckFrequencyFrame :=
  steady_field fun _ => steady_field fun _ => steady_field fun _ => steady_field fun _ => .pure _

theorem steady_convert (p : CodecParameters) (exponent delay : Nat) :
    Steady Thrown (p.convertEncodedDurationToMicroseconds exponent delay) :=
  steady_checked (steady_checked (.pure _))

theorem steady_nextAckedPacketGap (packetNum gap : Nat) :
    Steady Thrown (nextAckedPacketGap packetNum gap) := by
  intro s
  change Ends Thrown (nextAckedPacketGap packetNum gap s) _
  unfold nextAckedPacketGap
  split
  · exact ⟨_, rfl⟩
  · exact List.suffix_refl s

theorem steady_nextAckedPacketLen (packetNum ackBlockLen : Nat) :
    Steady Thrown (nextAckedPacketLen packetNum ackBlockLen) := by
  intro s
  change Ends Thrown (nextAckedPacketLen packetNum ackBlockLen s) _
  unfold nextAckedPacketLen
  split
  · exact ⟨_, rfl⟩
  · exact List.suffix_refl s

theorem steady_decodeAckBlocks (numBlocks currentPacketNum : Nat) :
    Steady Thrown (decodeAckBlocks numBlocks currentPacketNum) := by
  induction numBlocks generalizing currentPacketNum with
  | zero => exact .pure _
  | succ numBlocks ih =>
    refine steady_field fun _ => steady_field fun _ => ?_
    refine (steady_nextAckedPacketGap _ _).bind fun nextEndPacket => ?_
    refine (steady_nextAckedPacketLen _ _).bind fun start => ?_
    exact (ih start).bind fun _ => .pure _

theorem steady_decodeAckFrame (p : CodecParameters) : Steady Thrown (decodeAckFrame p) := by
  refine steady_field fun _ => steady_field fun _ => steady_field fun _ => steady_field fun _ => ?_
  refine (steady_nextAckedPacketLen _ _).bind fun _ => (steady_convert p _ _).bind fun _ => ?_
  exact (steady_decodeAckBlocks _ _).bind fun _ => .pure _

theorem steady_decodeDeltas (p : CodecParameters) (n : Nat) :
    Steady Thrown (decodeDeltas p n) := by
  induction n with
  | zero => exact .pure _
  | succ n ih =>
    refine steady_field fun _ => (steady_convert p _ _).bind fun _ => ?_
    exact ih.bind fun _ => .pure _

theorem steady_decodeTimestampRanges (p : CodecParameters) (n : Nat) :
    Steady Thrown (decodeTimestampRanges p n) := by
  induction n with
  | zero => exact .pure _
  | succ n ih =>
    refine steady_field fun _ => steady_field fun _ => (steady_decodeDeltas p _).bind fun _ => ?_
    exact ih.bind fun _ => .pure _

theorem steady_decodeAckFrameWithReceivedTimestamps (p : CodecParameters) :
    Steady Thrown (decodeAckFrameWithReceivedTimestamps p) := by
  refine (steady_decodeAckFrame p).bind fun _ => ?_
  refine steady_field fun _ => steady_field fun _ => steady_field fun _ => ?_
  exact (steady_decodeTimestampRanges p _).bind fun _ => .pure _

theorem steady_decodeAckFrameWithECN (p : CodecParameters) :
    Steady Thrown (decodeAckFrameWithECN p) :=
  (steady_decodeAckFrame p).bind fun _ =>
    steady_field fun _ => steady_field fun _ => steady_field fun _ => .pure _

theorem steady_lengthAndData : Steady Thrown lengthAndData :=
  steady_field fun _ => steady_totalLength.bind fun _ => steady_checked steady_pull

theorem steady_decodeMaxStreamsFrame (what : String) (isBidirectional : Bool) :
    Steady Thrown (decodeMaxStreamsFrame what isBidirectional) :=
  steady_field fun _ => steady_checked (.pure _)

theorem steady_decodeNewConnectionIdFrame : Steady Thrown decodeNewConnectionIdFrame := by
  refine steady_field fun _ => steady_field fun _ => steady_totalLength.bind fun _ => ?_
  refine steady_checked (steady_pull.map.bind fun _ => steady_totalLength.bind fun _ => ?_)
  refine steady_checked (steady_checked (steady_pull.bind fun _ => ?_))
  exact steady_pull.bind fun _ => .pure _

theorem steady_decodePathData (what : String) : Steady Thrown (decodePathData what) :=
  steady_totalLength.bind fun _ => steady_checked steady_pull.map

theorem steady_decodeReasonPhrase : Steady Thrown decodeReasonPhrase :=
  steady_field fun _ => steady_checked steady_pull

theorem steady_decodeConnectionCloseFrame : Steady Thrown decodeConnectionCloseFrame := by
  refine steady_field fun _ => steady_sizedInteger.bind fun _ => steady_checked ?_
  exact steady_decodeReasonPhrase.bind fun _ => .pure _

theorem steady_decodeStreamFrameHeader (frameTypeField : StreamTypeField) (isGroupFrame : Bool) :
    Steady Thrown (decodeStreamFrameHeader frameTypeField isGroupFrame) := by
  refine steady_field fun _ => ?_
  refine (steady_ite steady_integer.map (.pure _)).bind fun _ => ?_
  refine (steady_ite steady_integer (.pure _)).bind fun _ => ?_
  exact (steady_ite steady_integer.map (.pure _)).bind fun _ => .pure _

/-! ### The queue -/

namespace BufQueue

variable {q q' : BufQueue} {n : Nat}

theorem chainLength_of_trimStart (h : q.trimStart n = some q') :
    n ≤ q.chainLength ∧ q'.chainLength = q.chainLength - n := by
  have htrimmed := q.trimStartAtMost_fst n
  have hlength := congrArg List.length (q.bytes_trimStartAtMost n)
  rw [length_bytes, List.length_drop, length_bytes] at hlength
  change (if (q.trimStartAtMost n).1 ≠ n then none else some (q.trimStartAtMost n).2) = some q' at h
  split at h
  · cases h
  · cases h
    constructor
    · omega
    · exact hlength

theorem bytes_of_trimStart (h : q.trimStart n = some q') : q'.bytes = q.bytes.drop n := by
  rw [trimStart_of_le (chainLength_of_trimStart h).1] at h
  cases h
  exact q.bytes_trimStartAtMost n

/-- Trimming a queue to nothing frees its last buffer. -/
theorem chain_none_of_trimStart (hn : 0 < n) (h : q.trimStart n = some q')
    (hempty : q'.chainLength = 0) : q'.chain_ = none := by
  obtain ⟨hle, hlength⟩ := chainLength_of_trimStart h
  rw [trimStart_of_le hle] at h
  cases h
  change (q.splitAtMost n).2.chain_ = none
  unfold splitAtMost
  split
  · rename_i hnone
    have hzero : (n == 0) = false := beq_false_of_ne (Nat.ne_of_gt hn)
    rw [hzero, Bool.or_false, Option.isNone_iff_eq_none] at hnone
    exact hnone
  · split
    · rfl
    · rename_i hlong
      exact absurd (show n ≥ q.chainLength by omega) hlong

theorem chainLength_of_chain_none (h : q.chain_ = none) : q.chainLength = 0 := by
  rw [← length_bytes, bytes, h]
  rfl

theorem chainLength_splitAtMost (q : BufQueue) (n : Nat) :
    (q.splitAtMost n).1.bytes.length = min n q.chainLength ∧
      (q.splitAtMost n).2.chainLength ≤ q.chainLength := by
  obtain ⟨hfront, hback⟩ := q.splitAtMost_bytes n
  have hlength := congrArg List.length hback
  rw [length_bytes, List.length_drop, length_bytes] at hlength
  refine ⟨?_, by omega⟩
  rw [hfront, List.length_take, length_bytes]

end BufQueue

variable {p : CodecParameters} {queue : BufQueue}

theorem trimQueue_ends {amount : Nat} (h : amount ≤ queue.chainLength) :
    Ends Thrown (trimQueue queue amount) (·.chainLength = queue.chainLength - amount) := by
  unfold trimQueue
  rw [BufQueue.trimStart_of_le h]
  exact Ends.ok (BufQueue.chainLength_of_trimStart (BufQueue.trimStart_of_le h)).2

theorem overQueue_ends {α : Type} {r : FrameReader α} {P : Bytes → α × Bytes → Prop}
    (hr : ∀ s, Ends Thrown (r.run s) (P s)) (hqueue : queue.chain_ ≠ none) :
    Ends Thrown (overQueue queue r) (P queue.bytes) := by
  unfold overQueue
  cases hchain : queue.chain_ with
  | none => exact absurd hchain hqueue
  | some chain =>
    have hbytes : queue.bytes = chain.bytes := by rw [BufQueue.bytes, hchain, Buf.bytes_some]
    rw [hbytes]
    exact hr chain.bytes

theorem decodeStreamFrame_ends (frameTypeField : StreamTypeField) (isGroupFrame : Bool)
    (hqueue : queue.chain_ ≠ none) :
    Ends Thrown (decodeStreamFrame queue frameTypeField isGroupFrame)
      (fun result => result.2.chainLength ≤ queue.chainLength) := by
  have hheader := steady_decodeStreamFrameHeader frameTypeField isGroupFrame
  refine (overQueue_ends hheader hqueue).bind fun result hrest => ?_
  obtain ⟨⟨streamId, groupId, offset, dataLength⟩, rest⟩ := result
  have hconsumed : queue.chainLength - rest.length ≤ queue.chainLength := Nat.sub_le _ _
  cases dataLength with
  | some dataLength =>
    refine Ends.ite (fun _ => ⟨_, rfl⟩) fun _ => ?_
    refine (trimQueue_ends hconsumed).bind fun trimmed htrimmed => ?_
    have hle := (trimmed.chainLength_splitAtMost dataLength).2
    exact hle.trans (htrimmed ▸ Nat.sub_le _ _)
  | none =>
    refine (trimQueue_ends hconsumed).bind fun trimmed htrimmed => ?_
    exact Nat.zero_le _

theorem overCursor_ends {r : FrameReader QuicFrame} (hr : Steady Thrown r) :
    Ends Thrown (overCursor queue r)
      (fun result => result.2.chainLength ≤ queue.chainLength) := by
  refine (hr queue.bytes).bind fun result _ => ?_
  refine Ends.ite (fun _ => Nat.le_refl _) fun _ => ?_
  have hle : queue.chainLength - result.2.length ≤ queue.chainLength := Nat.sub_le _ _
  rw [BufQueue.trimStart_of_le hle]
  refine Ends.ok ?_
  have := (BufQueue.chainLength_of_trimStart (BufQueue.trimStart_of_le hle)).2
  change (queue.trimStartAtMost _).2.chainLength ≤ _
  omega

theorem makeDatagramFrame_ends {E : DecodeFault → Prop} {length : Nat}
    (h : length ≤ queue.chainLength) :
    Ends E (makeDatagramFrame queue length)
      (fun result => result.2.chainLength ≤ queue.chainLength) := by
  obtain ⟨hdata, hrest⟩ := queue.chainLength_splitAtMost length
  change Ends E (if length = (BufQueue.ofBuf (queue.splitAtMost length).1).chainLength then _
    else _) _
  refine Ends.ite (fun _ => hrest) fun hne => absurd ?_ hne
  rw [← BufQueue.length_bytes, BufQueue.bytes_ofBuf, hdata, Nat.min_eq_left h]

theorem decodeDatagramFrame_ends (hqueue : queue.chain_ ≠ none) (hasLen : Bool) :
    Ends Thrown (decodeDatagramFrame queue hasLen)
      (fun result => result.2.chainLength ≤ queue.chainLength) := by
  cases hasLen with
  | false => exact makeDatagramFrame_ends (Nat.le_refl _)
  | true =>
    refine (overQueue_ends sizedInteger_width hqueue).bind fun result hwidth => ?_
    obtain ⟨⟨length, width⟩, rest⟩ := result
    replace hwidth : width + rest.length = queue.chainLength :=
      Eq.trans hwidth queue.length_bytes
    refine Ends.ite (fun _ => ⟨_, rfl⟩) fun hlong => ?_
    replace hlong : length ≤ rest.length := Nat.le_of_not_lt hlong
    have hle : width ≤ queue.chainLength := by omega
    refine (trimQueue_ends hle).bind fun trimmed htrimmed => ?_
    have hlength : length ≤ trimmed.chainLength := by omega
    refine (makeDatagramFrame_ends hlength).imp fun result hresult => ?_
    omega

/-- A decoder throws or takes something off the queue, unless it builds a cursor over a queue
that is empty. -/
theorem decodeFrame_ends (frameType : FrameType)
    (hqueue : frameType.takesQueue = true → queue.chain_ ≠ none) :
    Ends Thrown (decodeFrame p queue frameType)
      (fun result => result.2.chainLength ≤ queue.chainLength) := by
  cases frameType with
  | padding => exact overCursor_ends steady_decodePaddingFrame
  | ping => exact overCursor_ends (.pure _)
  | ack => exact overCursor_ends (steady_decodeAckFrame p).map
  | ackEcn => exact overCursor_ends (steady_decodeAckFrameWithECN p)
  | rstStream =>
    exact overCursor_ends (steady_field fun _ => steady_field fun _ => steady_field fun _ => .pure _)
  | stopSending => exact overCursor_ends (steady_field fun _ => steady_field fun _ => .pure _)
  | cryptoFrame =>
    exact overCursor_ends (steady_field fun _ => steady_lengthAndData.bind fun _ => .pure _)
  | newToken => exact overCursor_ends (steady_lengthAndData.bind fun _ => .pure _)
  | stream field => exact decodeStreamFrame_ends _ _ (hqueue rfl)
  | maxData => exact overCursor_ends (steady_field fun _ => .pure _)
  | maxStreamData => exact overCursor_ends (steady_field fun _ => steady_field fun _ => .pure _)
  | maxStreamsBidi => exact overCursor_ends (steady_decodeMaxStreamsFrame _ _)
  | maxStreamsUni => exact overCursor_ends (steady_decodeMaxStreamsFrame _ _)
  | dataBlocked => exact overCursor_ends (steady_field fun _ => .pure _)
  | streamDataBlocked => exact overCursor_ends (steady_field fun _ => steady_field fun _ => .pure _)
  | streamsBlockedBidi => exact overCursor_ends (steady_field fun _ => .pure _)
  | streamsBlockedUni => exact overCursor_ends (steady_field fun _ => .pure _)
  | newConnectionId => exact overCursor_ends steady_decodeNewConnectionIdFrame
  | retireConnectionId => exact overCursor_ends (steady_field fun _ => .pure _)
  | pathChallenge => exact overCursor_ends ((steady_decodePathData _).bind fun _ => .pure _)
  | pathResponse => exact overCursor_ends ((steady_decodePathData _).bind fun _ => .pure _)
  | connectionClose => exact overCursor_ends steady_decodeConnectionCloseFrame
  | connectionCloseAppErr =>
    exact overCursor_ends (steady_field fun _ => steady_decodeReasonPhrase.bind fun _ => .pure _)
  | handshakeDone => exact overCursor_ends (.pure _)
  | datagram => exact decodeDatagramFrame_ends (hqueue rfl) false
  | datagramLen => exact decodeDatagramFrame_ends (hqueue rfl) true
  | knob => exact overCursor_ends steady_decodeKnobFrame
  | immediateAck => exact overCursor_ends (.pure _)
  | ackFrequency => exact overCursor_ends steady_decodeAckFrequencyFrame
  | groupStream field => exact decodeStreamFrame_ends _ _ (hqueue rfl)
  | ackReceiveTimestamps => exact overCursor_ends (steady_decodeAckFrameWithReceivedTimestamps p)

/-- Over an empty queue, a DATAGRAM frame without length is empty and the others go through the
null cursor. -/
theorem decodeFrame_of_none {frameType : FrameType} (htakes : frameType.takesQueue = true)
    (hqueue : queue.chain_ = none) :
    Ends (· = .nullCursor) (decodeFrame p queue frameType)
      (fun result => result.2.chainLength ≤ queue.chainLength) := by
  have hnull {α : Type} (r : FrameReader α) : overQueue queue r = .error .nullCursor := by
    rw [overQueue, hqueue]
  cases frameType with
  | stream field =>
    change Ends _ (decodeStreamFrame queue ⟨field⟩ false) _
    rw [decodeStreamFrame, hnull]
    exact Ends.error rfl
  | groupStream field =>
    change Ends _ (decodeStreamFrame queue ⟨field⟩ true) _
    rw [decodeStreamFrame, hnull]
    exact Ends.error rfl
  | datagramLen =>
    change Ends _ (decodeDatagramFrame queue true) _
    rw [decodeDatagramFrame, if_pos rfl, hnull]
    exact Ends.error rfl
  | datagram => exact makeDatagramFrame_ends (Nat.le_refl _)
  | _ => cases htakes

/-! ### Frames and packets -/

/-- Nothing is left but the type of a frame whose decoder takes the queue. -/
def BareType (bytes : Bytes) : Prop :=
  ∃ code frameType, Varint code bytes ∧ FrameType.ofCode code = some frameType ∧
    frameType.takesQueue = true

/-- The exception that closes the connection with the error of the frame. -/
def ParseStop.EncodingError (e : ParseStop) : Prop :=
  ∃ message frameType, e = .transport message .frameEncodingError frameType

/-- The decoder of this type would build a cursor over an empty queue. -/
def OverEmpty (queue : BufQueue) (code : Nat) : Prop :=
  ∃ frameType, FrameType.ofCode code = some frameType ∧ frameType.takesQueue = true ∧
    queue.chain_ = none

theorem parseTypedFrame_ends (code : Nat) :
    Ends (fun e => e.EncodingError ∧ ¬ OverEmpty queue code ∨ e = .nullCursor ∧ OverEmpty queue code)
      (parseTypedFrame p queue code) (fun f => f.queue.chainLength ≤ queue.chainLength ∧
        (f.overEmpty = true ↔ OverEmpty queue code)) := by
  unfold parseTypedFrame
  cases hcode : FrameType.ofCode code with
  | none =>
    refine .inl ⟨⟨_, _, rfl⟩, ?_⟩
    rintro ⟨frameType, hnone, -⟩
    rw [hcode] at hnone
    cases hnone
  | some frameType =>
    have hover : OverEmpty queue code ↔
        frameType.takesQueue = true ∧ queue.chain_ = none := by
      simp only [OverEmpty, hcode, Option.some.injEq, exists_eq_left']
    have hflag : (frameType.takesQueue && queue.chain_.isNone) = true ↔ OverEmpty queue code := by
      rw [hover, Bool.and_eq_true, Option.isNone_iff_eq_none]
    dsimp only
    by_cases hnull : frameType.takesQueue = true ∧ queue.chain_ = none
    · have hdecoded := decodeFrame_of_none (p := p) hnull.1 hnull.2
      cases hresult : decodeFrame p queue frameType with
      | error fault =>
        obtain rfl := hdecoded.of_error hresult
        exact .inr ⟨rfl, hover.mpr hnull⟩
      | ok result => exact ⟨hdecoded.of_ok hresult, hflag⟩
    · have hdecoded := decodeFrame_ends (p := p) frameType
        fun htakes hnone => hnull ⟨htakes, hnone⟩
      cases hresult : decodeFrame p queue frameType with
      | error fault =>
        obtain ⟨what, rfl⟩ := hdecoded.of_error hresult
        exact .inl ⟨⟨_, _, rfl⟩, fun h => hnull (hover.mp h)⟩
      | ok result => exact ⟨hdecoded.of_ok hresult, hflag⟩

theorem Varint.length_pos {code : Nat} {e : Bytes} (h : Varint code e) : 0 < e.length := by
  obtain ⟨k, -, hlen, -⟩ := h
  rw [hlen]
  exact Nat.pow_pos (by decide)

/-- The type takes all bytes exactly when trimming it leaves a null chain. -/
theorem bareType_iff {trimmed : BufQueue} {code width : Nat}
    (hdecode : decodeQuicInteger queue.bytes sizeofUint64 = some (code, width))
    (htrim : queue.trimStart width = some trimmed) :
    BareType queue.bytes ↔ OverEmpty trimmed code := by
  obtain ⟨e, t, hvarint, hwidth, hsplit⟩ := varint_of_decodeQuicInteger hdecode
  have hpos : 0 < width := hwidth ▸ hvarint.length_pos
  obtain ⟨hle, hlength⟩ := BufQueue.chainLength_of_trimStart htrim
  constructor
  · rintro ⟨code', frameType, hbare, hcode, htakes⟩
    have happend := decodeQuicInteger_append hbare []
    rw [List.append_nil, hdecode] at happend
    cases happend
    refine ⟨frameType, hcode, htakes, ?_⟩
    refine BufQueue.chain_none_of_trimStart hpos htrim ?_
    rw [hlength, queue.length_bytes, Nat.sub_self]
  · rintro ⟨frameType, hcode, htakes, hnone⟩
    refine ⟨code, frameType, ?_, hcode, htakes⟩
    have hzero := BufQueue.chainLength_of_chain_none hnone
    have ht : t = [] := by
      have := congrArg List.length hsplit
      rw [queue.length_bytes, List.length_append, hwidth] at this
      exact List.length_eq_zero_iff.mp (by omega)
    rw [hsplit, ht, List.append_nil]
    exact hvarint

theorem parseFrame_ends (hqueue : queue.chainLength ≠ 0) :
    Ends (fun e => e.EncodingError ∧ ¬ BareType queue.bytes ∨
        e = .nullCursor ∧ BareType queue.bytes)
      (parseFrame p queue) (fun f => f.queue.chainLength < queue.chainLength ∧
        (f.overEmpty = true → f.queue.chainLength = 0) ∧
        (f.overEmpty = true ↔ BareType queue.bytes)) := by
  unfold parseFrame
  cases hchain : queue.chain_ with
  | none => exact absurd (BufQueue.chainLength_of_chain_none hchain) hqueue
  | some chain =>
    have hbytes : chain.bytes = queue.bytes := by rw [BufQueue.bytes, hchain, Buf.bytes_some]
    dsimp only
    rw [hbytes]
    cases hdecode : decodeQuicInteger queue.bytes sizeofUint64 with
    | none =>
      refine .inl ⟨⟨_, _, rfl⟩, ?_⟩
      rintro ⟨code, frameType, hvarint, -, -⟩
      have happend := decodeQuicInteger_append hvarint []
      rw [List.append_nil, hdecode] at happend
      cases happend
    | some result =>
      obtain ⟨code, width⟩ := result
      obtain ⟨e, t, hvarint, rfl, hsplit⟩ := varint_of_decodeQuicInteger hdecode
      have hpos := hvarint.length_pos
      have hle : e.length ≤ queue.chainLength := by
        rw [← queue.length_bytes, hsplit, List.length_append]
        exact Nat.le_add_right _ _
      have htrim := BufQueue.trimStart_of_le hle
      have hlength := (BufQueue.chainLength_of_trimStart htrim).2
      rw [bareType_iff hdecode htrim]
      dsimp only
      rw [htrim]
      refine (parseTypedFrame_ends code).imp fun f hparsed => ?_
      obtain ⟨hf, hover⟩ := hparsed
      refine ⟨by omega, fun hempty => ?_, hover⟩
      obtain ⟨-, -, -, hnone⟩ := hover.mp hempty
      have := BufQueue.chainLength_of_chain_none hnone
      omega

/-- The queue after some of the frames. -/
inductive Reaches (p : CodecParameters) : BufQueue → BufQueue → Prop
  | refl (queue : BufQueue) : Reaches p queue queue
  | step {queue rest : BufQueue} {f : ParsedFrame} :
      parseFrame p queue = .ok f → Reaches p f.queue rest → Reaches p queue rest

/-- The frames are returned or the packet is rejected, and no decoder has built a cursor over an
empty queue. -/
def Robust (result : Except ParseStop (List QuicFrame × Bool)) : Prop :=
  Ends ParseStop.EncodingError result fun frames => frames.2 = false

theorem not_bareType_of_empty (h : queue.chainLength = 0) : ¬ BareType queue.bytes := by
  rintro ⟨code, frameType, ⟨k, -, hlen, -⟩, -⟩
  rw [queue.length_bytes, h] at hlen
  exact absurd hlen.symm (Nat.pow_pos (by decide)).ne'

theorem parseFrame_of_empty (hempty : queue.chainLength = 0) (f : ParsedFrame) :
    parseFrame p queue ≠ .ok f := by
  intro hparse
  unfold parseFrame at hparse
  have hnil : queue.bytes = [] := List.length_eq_zero_iff.mp (queue.length_bytes.trans hempty)
  cases hchain : queue.chain_ with
  | none =>
    rw [hchain] at hparse
    cases hparse
  | some chain =>
    rw [BufQueue.bytes, hchain, Buf.bytes_some] at hnil
    rw [hchain] at hparse
    dsimp only at hparse
    rw [hnil] at hparse
    cases hparse

theorem parseFrames_of_empty (fuel : Nat) (hempty : queue.chainLength = 0)
    (result : List QuicFrame × Bool) : parseFrames p fuel queue result = .ok result := by
  rw [parseFrames.eq_def]
  exact if_pos hempty

theorem reaches_of_empty (hempty : queue.chainLength = 0) (rest : BufQueue)
    (h : Reaches p queue rest) : ¬ BareType rest.bytes := by
  cases h with
  | refl => exact not_bareType_of_empty hempty
  | step hparse _ => exact absurd hparse (parseFrame_of_empty hempty _)

/-- One frame, and then the loop. -/
theorem robust_parseFrame_iff (hqueue : queue.chainLength ≠ 0) {fuel : ParsedFrame → Nat}
    {frames : ParsedFrame → List QuicFrame}
    (hloop : ∀ f, parseFrame p queue = .ok f →
      (Robust (parseFrames p (fuel f) f.queue (frames f, false)) ↔
        ∀ rest, Reaches p f.queue rest → ¬ BareType rest.bytes)) :
    Robust (do
        let f ← parseFrame p queue
        parseFrames p (fuel f) f.queue (frames f, f.overEmpty)) ↔
      ∀ rest, Reaches p queue rest → ¬ BareType rest.bytes := by
  have hends := parseFrame_ends (p := p) hqueue
  cases hparse : parseFrame p queue with
  | error e =>
    rcases hends.of_error hparse with ⟨hencoding, hbare⟩ | ⟨rfl, hbare⟩
    · refine ⟨fun _ rest hrest => ?_, fun _ => hencoding⟩
      cases hrest with
      | refl => exact hbare
      | step hstep _ =>
        rw [hparse] at hstep
        cases hstep
    · constructor
      · rintro ⟨message, frameType, h⟩
        cases h
      · intro hall
        exact absurd hbare (hall queue (.refl queue))
  | ok f =>
    obtain ⟨-, hlast, hover⟩ := hends.of_ok hparse
    change Robust (parseFrames p (fuel f) f.queue (frames f, f.overEmpty)) ↔ _
    cases hempty : f.overEmpty with
    | true =>
      -- the packet is done, and the flag stays
      rw [parseFrames_of_empty _ (hlast hempty)]
      refine ⟨fun h => (by cases h), fun hall => ?_⟩
      exact absurd (hover.mp hempty) (hall queue (.refl queue))
    | false =>
      rw [hloop f hparse]
      constructor
      · intro hall rest hrest
        cases hrest with
        | refl =>
          intro hbare
          rw [hover.mpr hbare] at hempty
          cases hempty
        | step hstep hrest =>
          rw [hparse] at hstep
          cases hstep
          exact hall rest hrest
      · intro hall rest hrest
        exact hall rest (.step hparse hrest)

theorem parseFrames_robust_iff {fuel : Nat} (hfuel : queue.chainLength ≤ fuel)
    (frames : List QuicFrame) :
    Robust (parseFrames p fuel queue (frames, false)) ↔
      ∀ rest, Reaches p queue rest → ¬ BareType rest.bytes := by
  induction fuel generalizing queue frames with
  | zero =>
    have hempty : queue.chainLength = 0 := Nat.le_zero.mp hfuel
    rw [parseFrames_of_empty _ hempty]
    exact ⟨fun _ => reaches_of_empty hempty, fun _ => rfl⟩
  | succ fuel ih =>
    by_cases hempty : queue.chainLength = 0
    · rw [parseFrames_of_empty _ hempty]
      exact ⟨fun _ => reaches_of_empty hempty, fun _ => rfl⟩
    · rw [parseFrames, if_neg hempty]
      simp only [Bool.false_or]
      refine robust_parseFrame_iff hempty fun f hparse => ?_
      have hshorter := ((parseFrame_ends hempty).of_ok hparse).1
      exact ih (by omega) _

/-- Parsing a frame always takes something off the queue. A payload is parsed or rejected, with
no cursor over an empty queue, exactly when it does not end, after some frames, with nothing but
the type of a STREAM or DATAGRAM frame. -/
theorem decodeRegularPacket_robust_iff (p : CodecParameters) (payload : Bytes) :
    (∀ queue f, parseFrame p queue = .ok f → f.queue.chainLength < queue.chainLength) ∧
      (Robust (decodeRegularPacket p (some (.wrapBuffer payload))) ↔
        ∀ rest, Reaches p (BufQueue.cleared.append (some (.wrapBuffer payload))) rest →
          ¬ BareType rest.bytes) := by
  constructor
  · intro queue f hparse
    by_cases hempty : queue.chainLength = 0
    · exact absurd hparse (parseFrame_of_empty hempty f)
    · exact ((parseFrame_ends hempty).of_ok hparse).1
  · unfold decodeRegularPacket
    generalize BufQueue.cleared.append (some (.wrapBuffer payload)) = queue
    dsimp only
    by_cases hempty : queue.chainLength = 0
    · rw [if_pos hempty]
      exact ⟨fun _ => reaches_of_empty hempty, fun _ => rfl⟩
    · rw [if_neg hempty]
      refine robust_parseFrame_iff hempty fun f _ => ?_
      exact parseFrames_robust_iff (Nat.le_refl _) _

/-- The parameters of a new connection. -/
def CodecParameters.default : CodecParameters := ⟨false, kDefaultAckDelayExponent, none, fun v _ => v⟩

/-- The type of a STREAM frame and nothing else. -/
theorem decodeRegularPacket_nullCursor :
    decodeRegularPacket .default (some (.wrapBuffer [0x08])) = .error .nullCursor ∧
      ¬ Robust (decodeRegularPacket .default (some (.wrapBuffer [0x08]))) := by
  have hrun : decodeRegularPacket .default (some (.wrapBuffer [0x08])) = .error .nullCursor := rfl
  refine ⟨hrun, ?_⟩
  rw [hrun]
  rintro ⟨message, frameType, h⟩
  cases h

end MasqueQuic
