/-
Control frames, written and read back.

The writer adds up the sizes of the fields, the reader takes the fields one after the other.
`Encoded` describes the bytes of a list of fields between the two: the writer produces them
(`writeFrameFields_spec`), and each decoder accepts them in front of any rest, so that a frame is
settled by naming its fields and the decoder that takes them (`roundTrips_of_accepts`).
-/

import MasqueQuic.Quic.FrameWriting
import MasqueQuic.Quic.GroupStreamCodec

namespace MasqueQuic

/-! ### The bytes of a list of fields -/

/-- Every number is encoded, and the bytes are as many as declared. -/
inductive Encoded : List WireField → Bytes → Prop
  | nil : Encoded [] []
  | int {v : Nat} {e es : Bytes} {fields : List WireField} :
      encodeQuicInteger v = some e → Encoded fields es → Encoded (.int v :: fields) (e ++ es)
  | bytes {data es : Bytes} {fields : List WireField} :
      Encoded fields es → Encoded (.bytes data.length data :: fields) (data ++ es)

theorem Encoded.fixed {w v : Nat} {es : Bytes} {fields : List WireField} (h : Encoded fields es) :
    Encoded (.fixed w v :: fields) (beBytes w v ++ es) := by
  have hbytes := @Encoded.bytes (beBytes w v) _ _ h
  rw [length_beBytes] at hbytes
  exact hbytes

theorem Encoded.int_inv {v : Nat} {e : Bytes} {fields : List WireField}
    (h : Encoded (.int v :: fields) e) :
    ∃ front back, encodeQuicInteger v = some front ∧ Encoded fields back ∧ e = front ++ back := by
  cases h with
  | int hfront hback => exact ⟨_, _, hfront, hback, rfl⟩

theorem Encoded.bytes_inv {n : Nat} {data e : Bytes} (h : Encoded [.bytes n data] e) :
    e = data ++ [] := by
  cases h with
  | bytes hback =>
    cases hback
    rfl

theorem Encoded.nil_inv {e : Bytes} (h : Encoded [] e) : e = [] := by
  cases h
  rfl

theorem Encoded.size {fields : List WireField} {e : Bytes} (h : Encoded fields e) :
    fieldsSize fields = .ok e.length := by
  induction h with
  | nil => rfl
  | int he _ ih =>
    rw [fieldsSize, WireField.getSize, integerSize_encode he, except_ok_bind, ih, except_ok_bind,
      List.length_append]
    rfl
  | bytes _ ih =>
    rw [fieldsSize, WireField.getSize, except_ok_bind, ih, except_ok_bind, List.length_append]
    rfl

theorem Encoded.written {fields : List WireField} {e : Bytes} (h : Encoded fields e)
    {b b' : PacketBuilder} {s : Bytes} (hs : b.Written s b') :
    ∃ b'', writeFields b' fields = .ok b'' ∧ b.Written (s ++ e) b'' := by
  induction h generalizing b' s with
  | nil => exact ⟨b', rfl, by rwa [List.append_nil]⟩
  | @int v e es fields he _ ih =>
    obtain ⟨b₁, hwrite, hb₁⟩ := hs.write he
    obtain ⟨b₂, hrest, hb₂⟩ := ih hb₁
    refine ⟨b₂, ?_, by rwa [← List.append_assoc]⟩
    rw [writeFields, List.foldlM_cons, WireField.write, hwrite]
    exact hrest
  | @bytes data es fields _ ih =>
    obtain ⟨b₂, hrest, hb₂⟩ := ih (hs.push data)
    refine ⟨b₂, ?_, by rwa [← List.append_assoc]⟩
    rw [writeFields, List.foldlM_cons, WireField.write]
    exact hrest

/-- All the fields are written, or nothing is. -/
theorem writeFrameFields_spec {b : ControlBuilder} (frame : ControlFrame) {fields : List WireField}
    {e : Bytes} (h : Encoded fields e) :
    b.remainingBytes.toNat < e.length ∧ b.writeFrameFields frame fields = .ok (0, b) ∨
      e.length ≤ b.remainingBytes.toNat ∧ ∃ b', b.writeFrameFields frame fields = .ok (e.length, b') ∧
        b.Written e b'.toPacketBuilder := by
  unfold ControlBuilder.writeFrameFields
  rw [h.size, except_ok_bind]
  by_cases hspace : e.length ≤ b.remainingBytes.toNat
  · obtain ⟨written, hwrite, hwritten⟩ := h.written (PacketBuilder.Written.refl b.toPacketBuilder)
    rw [List.nil_append] at hwritten
    refine .inr ⟨hspace, { b with toPacketBuilder := written }.appendFrame frame, ?_, ?_, ?_⟩
    rotate_left
    · exact hwritten.body
    · exact hwritten.remaining
    rw [ControlBuilder.packetSpaceCheck, if_pos (decide_eq_true hspace), hwrite]
    rfl
  · refine .inl ⟨Nat.lt_of_not_le hspace, ?_⟩
    rw [ControlBuilder.packetSpaceCheck, if_neg (by simpa using hspace)]
    rfl

/-! ### Reading -/

section Read

variable {p : CodecParameters} {queue : BufQueue} {e rest : Bytes} {f : QuicFrame}
  {r : FrameReader QuicFrame}

/-- A decoder takes its bytes off the queue. -/
theorem overCursor_of_accepts (hr : Accepts r e f) (hqueue : queue.bytes = e ++ rest) :
    ∃ queue', overCursor queue r = .ok (f, queue') ∧ queue'.bytes = rest := by
  have hlength : queue.chainLength = e.length + rest.length := by
    rw [← queue.length_bytes, hqueue, List.length_append]
  unfold overCursor
  rw [hqueue, hr rest, except_ok_bind]
  dsimp only
  by_cases hempty : queue.empty = true
  · refine ⟨queue, if_pos hempty, ?_⟩
    have hnil := BufQueue.empty_iff.mp hempty
    rw [hnil] at hqueue
    rw [hnil, (List.append_eq_nil_iff.mp hqueue.symm).2]
  · have hle : queue.chainLength - rest.length ≤ queue.chainLength := Nat.sub_le _ _
    have htrim := BufQueue.trimStart_of_le hle
    refine ⟨(queue.trimStartAtMost (queue.chainLength - rest.length)).2, ?_, ?_⟩
    · rw [if_neg hempty, htrim]
      rfl
    · rw [BufQueue.bytes_of_trimStart htrim, hqueue, show queue.chainLength - rest.length = e.length
        by omega, List.drop_left]

theorem parseFrame_of_accepts {code : Nat} {type : Bytes} {frameType : FrameType}
    (htype : Varint code type) (hcode : FrameType.ofCode code = some frameType)
    (hdecode : ∀ queue, decodeFrame p queue frameType = overCursor queue r)
    (htakes : frameType.takesQueue = false) (hr : Accepts r e f)
    (hqueue : queue.bytes = type ++ (e ++ rest)) :
    ∃ queue', parseFrame p queue = .ok ⟨f, queue', false⟩ ∧ queue'.bytes = rest := by
  obtain ⟨trimmed, hbytes, hparse⟩ := parseFrame_of_type p htype hqueue
  obtain ⟨queue', hover, hrest⟩ := overCursor_of_accepts hr hbytes
  refine ⟨queue', ?_, hrest⟩
  rw [hparse, parseTypedFrame_of_decode hcode ((hdecode trimmed).trans hover), htakes,
    Bool.false_and]

/-! What the decoders accept, besides single numbers. -/

theorem accepts_pull (data : Bytes) : Accepts (FrameReader.pull data.length) data data := by
  have htake : Accepts (Reader.take (DecodeFault.exception "underflow") data.length) data
      ⟨data, rfl⟩ := (Reads.take _ data.length).accepts rfl
  exact htake.map Subtype.val

theorem accepts_throwIf (what : String) {c : Bool} (h : c = false) :
    Accepts (FrameReader.throwIf what c) [] () := Accepts.guard _ (by rw [h]; rfl)

/-- A check that at least so many bytes are left. -/
theorem accepts_available {α : Type} {data : Bytes} {a : α} {need : Nat} {what : String}
    {k : FrameReader α} (hneed : need ≤ data.length) (hk : Accepts k data a) :
    Accepts (do
      let available ← FrameReader.totalLength
      FrameReader.throwIf what (decide (available < need))
      k) data a := by
  intro t
  have henough : decide ((data ++ t).length < need) = false := by
    rw [List.length_append]
    exact decide_eq_false (by omega)
  have hguard := accepts_throwIf what henough (data ++ t)
  change (do
    FrameReader.throwIf what (decide ((data ++ t).length < need))
    k : FrameReader α).run (data ++ t) = _
  rw [StateT.run_bind, show (FrameReader.throwIf what _).run (data ++ t) = _ from hguard,
    except_ok_bind]
  exact hk t

theorem accepts_lengthAndData {lenBytes data : Bytes} (h : Varint data.length lenBytes) :
    Accepts lengthAndData (lenBytes ++ data) data :=
  (accepts_integer h _).bind (accepts_available (Nat.le_refl _) (accepts_pull data))

theorem accepts_fixed {w v : Nat} (h : v < 256 ^ w) :
    Accepts (beNat <$> FrameReader.pull w) (beBytes w v) v := by
  have hpull := (accepts_pull (beBytes w v)).map beNat
  rw [length_beBytes, beNat_beBytes_of_lt h] at hpull
  exact hpull

theorem accepts_pathData {v : Nat} (h : v < 2 ^ 64) (what : String) :
    Accepts (decodePathData what) (beBytes sizeofUint64 v) v :=
  accepts_available (by rw [length_beBytes]) (accepts_fixed (h.trans_le (by decide)))

theorem accepts_cloneAtMost (data : Bytes) :
    Accepts (FrameReader.cloneAtMost data.length) data data := by
  intro t
  change FrameReader.cloneAtMost data.length (data ++ t) = _
  rw [FrameReader.cloneAtMost, List.take_left, List.drop_left]

end Read

/-! ### Round trips -/

namespace ControlFrame

/-- The frame as the peer reads it. The data of a datagram may be laid out in other buffers. -/
def ReadAs : ControlFrame → QuicFrame → Prop
  | .padding, f => f = .padding 1
  | .rstStream frame, f => f = .rstStream frame
  | .maxData maximumData, f => f = .maxData maximumData
  | .maxStreamData streamId maximumData, f => f = .maxStreamData streamId maximumData
  | .dataBlocked dataLimit, f => f = .dataBlocked dataLimit
  | .streamDataBlocked streamId dataLimit, f => f = .streamDataBlocked streamId dataLimit
  | .streamsBlocked streamLimit isBidirectional, f => f = .streamsBlocked streamLimit isBidirectional
  | .connectionClose (.transport code) reasonPhrase closingFrameType, f =>
      f = .connectionClose (.transport code) reasonPhrase (some closingFrameType)
  | .connectionClose (.application code) reasonPhrase _, f =>
      f = .connectionClose (.application code) reasonPhrase none
  | .ping, f => f = .ping
  | .simple frame, f => f = .simple frame
  | .knob knobSpace id blob, f => f = .simple (.knob ⟨knobSpace, id, blob.bytes⟩)
  | .datagram length data, f => ∃ queue, f = .datagram length queue ∧ queue.bytes = data.bytes
  | .immediateAck, f => f = .immediateAck

end ControlFrame

/-- `bytes` have been written, within the space, and are read back in front of any rest. -/
structure ReadsBack (p : CodecParameters) (b b' : PacketBuilder) (bytes : Bytes)
    (frame : QuicFrame → Prop) : Prop where
  body : b'.body = b.body ++ bytes
  space : b'.remainingBytes.toNat + bytes.length = b.remainingBytes.toNat
  parses : ∀ queue rest, queue.bytes = bytes ++ rest →
    ∃ f queue', parseFrame p queue = .ok ⟨f, queue', false⟩ ∧ frame f ∧ queue'.bytes = rest

/-- Nothing is written and the builder is as before, or what is written is as long as the result
says and is read back. -/
def ControlFrame.RoundTrips (p : CodecParameters) (frame : ControlFrame) (b : ControlBuilder) :
    Prop :=
  writeFrame frame b = .ok (0, b) ∨
    ∃ b' bytes, writeFrame frame b = .ok (bytes.length, b') ∧
      ReadsBack p b.toPacketBuilder b'.toPacketBuilder bytes frame.ReadAs

section RoundTrip

variable {p : CodecParameters} {b : ControlBuilder} {frame shown : ControlFrame} {code : Nat}
  {type e : Bytes} {fields : List WireField} {frameType : FrameType} {r : FrameReader QuicFrame}
  {f : QuicFrame}

theorem roundTrips_of_parses
    (hwrite : writeFrame frame b = b.writeFrameFields shown fields) (hfields : Encoded fields e)
    (hparses : ∀ queue rest, queue.bytes = e ++ rest →
      ∃ f queue', parseFrame p queue = .ok ⟨f, queue', false⟩ ∧ frame.ReadAs f ∧ queue'.bytes = rest) :
    frame.RoundTrips p b := by
  unfold ControlFrame.RoundTrips
  rw [hwrite]
  rcases writeFrameFields_spec shown hfields with ⟨-, hnone⟩ | ⟨hle, b', hb', hwritten⟩
  · exact .inl hnone
  · exact .inr ⟨b', e, hb', hwritten.body, hwritten.toNat hle, hparses⟩

theorem roundTrips_of_accepts
    (hwrite : writeFrame frame b = b.writeFrameFields shown (.int code :: fields))
    (htype : encodeQuicInteger code = some type) (hfields : Encoded fields e)
    (hcode : FrameType.ofCode code = some frameType)
    (hdecode : ∀ queue, decodeFrame p queue frameType = overCursor queue r)
    (htakes : frameType.takesQueue = false) (hr : Accepts r e f) (hread : frame.ReadAs f) :
    frame.RoundTrips p b := by
  refine roundTrips_of_parses hwrite (.int htype hfields) fun queue rest hqueue => ?_
  rw [List.append_assoc] at hqueue
  obtain ⟨queue', hparse, hrest⟩ := parseFrame_of_accepts (encodeQuicInteger_varint htype) hcode
    hdecode htakes hr hqueue
  exact ⟨f, queue', hparse, hread, hrest⟩

end RoundTrip

/-! ### The frames one by one -/

theorem accepts_encoded {v : Nat} {e : Bytes} (h : encodeQuicInteger v = some e) (what : String) :
    Accepts (FrameReader.integer what) e v := accepts_integer (encodeQuicInteger_varint h) what

/-- The fields are in their ranges. PADDING is left out: reading it takes the padding that follows as
well. -/
def ControlFrame.WellFormed : ControlFrame → Prop
  | .padding => False
  | .rstStream frame => frame.streamId < 2 ^ 62 ∧ frame.errorCode < 2 ^ 16 ∧ frame.offset < 2 ^ 62
  | .maxData maximumData => maximumData < 2 ^ 62
  | .maxStreamData streamId maximumData => streamId < 2 ^ 62 ∧ maximumData < 2 ^ 62
  | .dataBlocked dataLimit => dataLimit < 2 ^ 62
  | .streamDataBlocked streamId dataLimit => streamId < 2 ^ 62 ∧ dataLimit < 2 ^ 62
  | .streamsBlocked streamLimit _ => streamLimit < 2 ^ 62
  | .connectionClose (.transport code) reasonPhrase closingFrameType =>
      code < 2 ^ 16 ∧ closingFrameType ≤ kOneByteLimit ∧ reasonPhrase.length ≤ kMaxReasonPhraseLength
  | .connectionClose (.application code) reasonPhrase _ =>
      code < 2 ^ 16 ∧ reasonPhrase.length ≤ kMaxReasonPhraseLength
  | .ping => True
  | .simple (.stopSending streamId errorCode) => streamId < 2 ^ 62 ∧ errorCode < 2 ^ 16
  | .simple (.pathChallenge pathData) => pathData < 2 ^ 64
  | .simple (.pathResponse pathData) => pathData < 2 ^ 64
  | .simple (.newConnectionId frame) =>
      frame.sequenceNumber < 2 ^ 62 ∧ frame.retirePriorTo < 2 ^ 62 ∧
        frame.connectionId.length ≤ kMaxConnectionIdSize ∧
        frame.token.length = kStatelessResetTokenLength
  | .simple (.maxStreams maxStreams _) => maxStreams ≤ kMaxMaxStreams
  | .simple (.retireConnectionId sequenceNumber) => sequenceNumber < 2 ^ 62
  | .simple .handshakeDone => True
  | .simple (.knob frame) => frame.knobSpace < 2 ^ 62 ∧ frame.id < 2 ^ 62 ∧ frame.blob.length < 2 ^ 62
  | .simple (.ackFrequency sequenceNumber packetTolerance updateMaxAckDelay reorderThreshold) =>
      sequenceNumber < 2 ^ 62 ∧ packetTolerance < 2 ^ 62 ∧ updateMaxAckDelay < 2 ^ 62 ∧
        reorderThreshold < 2 ^ 62
  | .simple (.newToken token) => token.length < 2 ^ 62
  | .knob knobSpace id blob =>
      knobSpace < 2 ^ 62 ∧ id < 2 ^ 62 ∧ blob.computeChainDataLength < 2 ^ 62
  | .datagram length data => length = data.chainLength ∧ length < 2 ^ 62
  | .immediateAck => True

/-- HANDSHAKE_DONE goes into a packet with a short header, the blob of a KNOB frame is in its first
buffer, and a datagram has a buffer. -/
def ControlFrame.Writable (b : ControlBuilder) : ControlFrame → Prop
  | .simple .handshakeDone => b.shortHeader = true
  | .knob _ _ blob => blob.computeChainDataLength = blob.length
  | .datagram _ data => data.chain_.isSome = true
  | _ => True

section Frames

variable {p : CodecParameters} {b : ControlBuilder}

theorem roundTrips_rstStream {frame : RstStreamFrame} (h : (ControlFrame.rstStream frame).WellFormed) :
    (ControlFrame.rstStream frame).RoundTrips p b := by
  obtain ⟨hstreamId, herrorCode, hoffset⟩ := h
  obtain ⟨e₁, h₁⟩ := encodeQuicInteger_of_lt hstreamId
  obtain ⟨e₂, h₂⟩ := encodeQuicInteger_of_lt (herrorCode.trans (by decide))
  obtain ⟨e₃, h₃⟩ := encodeQuicInteger_of_lt hoffset
  have hcode : toErrorCode frame.errorCode = frame.errorCode := Nat.mod_eq_of_lt herrorCode
  refine roundTrips_of_accepts rfl rfl (.int h₁ (.int h₂ (.int h₃ .nil))) rfl (fun _ => rfl) rfl
    ((accepts_encoded h₁ _).bind ((accepts_encoded h₂ _).bind ((accepts_encoded h₃ _).bind
      (.pure _)))) ?_
  rw [hcode]
  rfl

theorem roundTrips_streamsBlocked {streamLimit : Nat} (h : streamLimit < 2 ^ 62) (bidi : Bool) :
    (ControlFrame.streamsBlocked streamLimit bidi).RoundTrips p b := by
  obtain ⟨e₁, h₁⟩ := encodeQuicInteger_of_lt h
  cases bidi with
  | false =>
    exact roundTrips_of_accepts rfl rfl (.int h₁ .nil) rfl (fun _ => rfl) rfl
      ((accepts_encoded h₁ _).bind (.pure _)) rfl
  | true =>
    exact roundTrips_of_accepts rfl rfl (.int h₁ .nil) rfl (fun _ => rfl) rfl
      ((accepts_encoded h₁ _).bind (.pure _)) rfl

theorem accepts_sizedInteger {v : Nat} {e : Bytes} (h : encodeQuicInteger v = some e)
    (what : String) : Accepts (FrameReader.sizedInteger what) e (v, e.length) := by
  intro t
  change FrameReader.sizedInteger what (e ++ t) = _
  simp only [FrameReader.sizedInteger, decodeQuicInteger_append (encodeQuicInteger_varint h),
    List.drop_left]

theorem length_encode_byte {v : Nat} {e : Bytes} (h : encodeQuicInteger v = some e)
    (hv : v ≤ kOneByteLimit) : e.length = 1 := by
  have hsize := getQuicIntegerSize_encode h
  rw [getQuicIntegerSize, if_pos hv] at hsize
  exact (Option.some.inj hsize).symm

theorem accepts_reasonPhrase {lenBytes reasonPhrase : Bytes}
    (h : encodeQuicInteger reasonPhrase.length = some lenBytes)
    (hlen : reasonPhrase.length ≤ kMaxReasonPhraseLength) :
    Accepts decodeReasonPhrase (lenBytes ++ ([] ++ reasonPhrase)) reasonPhrase :=
  (accepts_encoded h _).bind ((accepts_throwIf _ (decide_eq_false (Nat.not_lt.mpr hlen))).bind
    (accepts_pull reasonPhrase))

theorem roundTrips_connectionClose {errorCode : QuicErrorCode} {reasonPhrase : Bytes}
    {closingFrameType : Nat}
    (h : (ControlFrame.connectionClose errorCode reasonPhrase closingFrameType).WellFormed) :
    (ControlFrame.connectionClose errorCode reasonPhrase closingFrameType).RoundTrips p b := by
  cases errorCode with
  | transport code =>
    obtain ⟨hcode, htype, hreason⟩ := h
    have hlen : reasonPhrase.length < 2 ^ 62 := Nat.lt_of_le_of_lt hreason (by decide)
    obtain ⟨e₁, h₁⟩ := encodeQuicInteger_of_lt (hcode.trans (by decide))
    obtain ⟨e₂, h₂⟩ := encodeQuicInteger_of_lt (Nat.lt_of_le_of_lt htype (by decide))
    obtain ⟨e₃, h₃⟩ := encodeQuicInteger_of_lt hlen
    have hone : ((closingFrameType, e₂.length).2 != 1) = false := by
      rw [length_encode_byte h₂ htype]
      rfl
    refine roundTrips_of_accepts rfl rfl
      (.int h₁ (.int h₂ (.int h₃ (@Encoded.bytes reasonPhrase _ _ .nil)))) rfl (fun _ => rfl) rfl
      (f := .connectionClose (.transport (toErrorCode code)) reasonPhrase (some closingFrameType))
      ?_ ?_
    · have hread : Accepts decodeConnectionCloseFrame
          (e₁ ++ (e₂ ++ ([] ++ ((e₃ ++ ([] ++ reasonPhrase)) ++ []))))
          (.connectionClose (.transport (toErrorCode code)) reasonPhrase (some closingFrameType)) :=
        (accepts_encoded h₁ _).bind ((accepts_sizedInteger h₂ _).bind ((accepts_throwIf _ hone).bind
          ((accepts_reasonPhrase h₃ hreason).bind (.pure _))))
      simpa only [List.nil_append, List.append_nil] using hread
    · rw [toErrorCode, Nat.mod_eq_of_lt hcode]
      rfl
  | application code =>
    obtain ⟨hcode, hreason⟩ := h
    have hlen : reasonPhrase.length < 2 ^ 62 := Nat.lt_of_le_of_lt hreason (by decide)
    obtain ⟨e₁, h₁⟩ := encodeQuicInteger_of_lt (hcode.trans (by decide))
    obtain ⟨e₃, h₃⟩ := encodeQuicInteger_of_lt hlen
    refine roundTrips_of_accepts rfl rfl
      (.int h₁ (.int h₃ (@Encoded.bytes reasonPhrase _ _ .nil))) rfl (fun _ => rfl) rfl
      (f := .connectionClose (.application (toErrorCode code)) reasonPhrase none) ?_ ?_
    · have hread : Accepts decodeApplicationClose (e₁ ++ ((e₃ ++ ([] ++ reasonPhrase)) ++ []))
          (.connectionClose (.application (toErrorCode code)) reasonPhrase none) :=
        (accepts_encoded h₁ _).bind ((accepts_reasonPhrase h₃ hreason).bind (.pure _))
      simpa only [List.nil_append, List.append_nil] using hread
    · rw [toErrorCode, Nat.mod_eq_of_lt hcode]
      rfl

theorem roundTrips_knob {knobSpace id : Nat} {blob : IOBuf} {frame : ControlFrame}
    (hknobSpace : knobSpace < 2 ^ 62) (hid : id < 2 ^ 62) (hlen : blob.computeChainDataLength < 2 ^ 62)
    (hfirst : blob.computeChainDataLength = blob.length)
    (hwrite : writeFrame frame b = b.writeFrameFields frame (knobFields knobSpace id blob))
    (hread : frame.ReadAs (.simple (.knob ⟨knobSpace, id, blob.bytes⟩))) : frame.RoundTrips p b := by
  have hlength : blob.length = blob.bytes.length := by rw [← hfirst, blob.length_bytes]
  rw [← blob.length_bytes] at hlen
  obtain ⟨e₁, h₁⟩ := encodeQuicInteger_of_lt hknobSpace
  obtain ⟨e₂, h₂⟩ := encodeQuicInteger_of_lt hid
  obtain ⟨e₃, h₃⟩ := encodeQuicInteger_of_lt hlen
  rw [knobFields, hlength] at hwrite
  refine roundTrips_of_accepts hwrite rfl
    (.int h₁ (.int h₂ (.int h₃ (@Encoded.bytes blob.bytes _ _ .nil)))) rfl (fun _ => rfl) rfl ?_ hread
  exact (accepts_encoded h₁ _).bind ((accepts_encoded h₂ _).bind ((accepts_encoded h₃ _).bind
    ((accepts_cloneAtMost blob.bytes).bind (.pure _))))

theorem roundTrips_newConnectionId {frame : NewConnectionIdFrame}
    (h : (ControlFrame.simple (.newConnectionId frame)).WellFormed) :
    (ControlFrame.simple (.newConnectionId frame)).RoundTrips p b := by
  obtain ⟨hsequence, hretire, hconnId, htoken⟩ := h
  obtain ⟨e₁, h₁⟩ := encodeQuicInteger_of_lt hsequence
  obtain ⟨e₂, h₂⟩ := encodeQuicInteger_of_lt hretire
  have hbyte : frame.connectionId.length < 256 ^ 1 := Nat.lt_of_le_of_lt hconnId (by decide)
  refine roundTrips_of_accepts rfl rfl (.int h₁ (.int h₂ (.fixed (w := 1)
    (v := frame.connectionId.length) (@Encoded.bytes frame.connectionId _ _
      (@Encoded.bytes frame.token _ _ .nil))))) rfl (fun _ => rfl) rfl ?_ rfl
  have htokenRead : Accepts (FrameReader.pull kStatelessResetTokenLength) frame.token frame.token := by
    rw [← htoken]
    exact accepts_pull frame.token
  refine (accepts_encoded h₁ _).bind ((accepts_encoded h₂ _).bind ?_)
  refine accepts_available (by rw [List.length_append, length_beBytes]; omega) ?_
  refine (accepts_fixed hbyte).bind ?_
  refine accepts_available (by rw [List.length_append]; omega) ?_
  change Accepts _ ([] ++ (frame.connectionId ++ (frame.token ++ []))) _
  exact (accepts_throwIf _ (decide_eq_false (Nat.not_lt.mpr hconnId))).bind
    ((accepts_pull frame.connectionId).bind (htokenRead.bind (.pure _)))

theorem roundTrips_simple {frame : QuicSimpleFrame} (h : (ControlFrame.simple frame).WellFormed)
    (hwritable : (ControlFrame.simple frame).Writable b) :
    (ControlFrame.simple frame).RoundTrips p b := by
  cases frame with
  | stopSending streamId errorCode =>
    obtain ⟨hstreamId, herrorCode⟩ := h
    obtain ⟨e₁, h₁⟩ := encodeQuicInteger_of_lt hstreamId
    obtain ⟨e₂, h₂⟩ := encodeQuicInteger_of_lt (herrorCode.trans (by decide))
    refine roundTrips_of_accepts rfl rfl (.int h₁ (.int h₂ .nil)) rfl (fun _ => rfl) rfl
      ((accepts_encoded h₁ _).bind ((accepts_encoded h₂ _).bind (.pure _))) ?_
    rw [toErrorCode, Nat.mod_eq_of_lt herrorCode]
    rfl
  | pathChallenge pathData =>
    exact roundTrips_of_accepts rfl rfl (.fixed .nil) rfl (fun _ => rfl) rfl
      ((accepts_pathData h _).bind (.pure _)) rfl
  | pathResponse pathData =>
    exact roundTrips_of_accepts rfl rfl (.fixed .nil) rfl (fun _ => rfl) rfl
      ((accepts_pathData h _).bind (.pure _)) rfl
  | newConnectionId frame => exact roundTrips_newConnectionId h
  | maxStreams maxStreams bidi =>
    obtain ⟨e₁, h₁⟩ := encodeQuicInteger_of_lt (Nat.lt_of_le_of_lt h (by decide))
    have hguard : ∀ what, Accepts (FrameReader.throwIf what (decide (maxStreams > kMaxMaxStreams)))
        [] () := fun what => accepts_throwIf what (decide_eq_false (Nat.not_lt.mpr h))
    cases bidi with
    | false =>
      refine roundTrips_of_accepts rfl rfl (.int h₁ .nil) rfl (fun _ => rfl) rfl
        (r := decodeUniMaxStreamsFrame) ?_ rfl
      exact (accepts_encoded h₁ _).bind ((hguard _).bind (.pure _))
    | true =>
      refine roundTrips_of_accepts rfl rfl (.int h₁ .nil) rfl (fun _ => rfl) rfl
        (r := decodeBiDiMaxStreamsFrame) ?_ rfl
      exact (accepts_encoded h₁ _).bind ((hguard _).bind (.pure _))
  | retireConnectionId sequenceNumber =>
    obtain ⟨e₁, h₁⟩ := encodeQuicInteger_of_lt h
    exact roundTrips_of_accepts rfl rfl (.int h₁ .nil) rfl (fun _ => rfl) rfl
      ((accepts_encoded h₁ _).bind (.pure _)) rfl
  | handshakeDone =>
    exact roundTrips_of_accepts (if_pos hwritable) rfl .nil rfl (fun _ => rfl) rfl (.pure _) rfl
  | knob frame =>
    obtain ⟨hknobSpace, hid, hlen⟩ := h
    have hbytes := IOBuf.bytes_wrapBuffer frame.blob
    refine roundTrips_knob hknobSpace hid
      (?_ : (IOBuf.wrapBuffer frame.blob).computeChainDataLength < 2 ^ 62) ?_ rfl ?_
    · rw [← IOBuf.length_bytes, hbytes]
      exact hlen
    · rw [← IOBuf.length_bytes, hbytes]
      rfl
    · rw [hbytes]
      rfl
  | ackFrequency sequenceNumber packetTolerance updateMaxAckDelay reorderThreshold =>
    obtain ⟨hsequence, htolerance, hdelay, hreorder⟩ := h
    obtain ⟨e₁, h₁⟩ := encodeQuicInteger_of_lt hsequence
    obtain ⟨e₂, h₂⟩ := encodeQuicInteger_of_lt htolerance
    obtain ⟨e₃, h₃⟩ := encodeQuicInteger_of_lt hdelay
    obtain ⟨e₄, h₄⟩ := encodeQuicInteger_of_lt hreorder
    exact roundTrips_of_accepts rfl rfl (.int h₁ (.int h₂ (.int h₃ (.int h₄ .nil)))) rfl
      (fun _ => rfl) rfl ((accepts_encoded h₁ _).bind ((accepts_encoded h₂ _).bind
        ((accepts_encoded h₃ _).bind ((accepts_encoded h₄ _).bind (.pure _))))) rfl
  | newToken token =>
    obtain ⟨e₁, h₁⟩ := encodeQuicInteger_of_lt h
    refine roundTrips_of_accepts rfl rfl (.int h₁ (@Encoded.bytes token _ _ .nil)) rfl (fun _ => rfl)
      rfl (r := decodeNewTokenFrame) (f := .simple (.newToken token)) ?_ rfl
    rw [List.append_nil, ← List.append_nil (e₁ ++ token)]
    exact (accepts_lengthAndData (encodeQuicInteger_varint h₁)).bind (.pure _)

theorem parseFrame_datagram {queue : BufQueue} {lenBytes data rest : Bytes}
    (hlen : encodeQuicInteger data.length = some lenBytes)
    (hqueue : queue.bytes = [0x31] ++ (lenBytes ++ (data ++ rest))) :
    ∃ read queue', parseFrame p queue = .ok ⟨.datagram data.length read, queue', false⟩ ∧
      read.bytes = data ∧ queue'.bytes = rest := by
  obtain ⟨trimmed, hbytes, hparse⟩ := parseFrame_of_type p (varint_byte (by decide)) hqueue
  have hne : trimmed.bytes ≠ [] := by
    rw [hbytes]
    exact List.append_ne_nil_of_left_ne_nil
      (List.ne_nil_of_length_pos (encodeQuicInteger_varint hlen).length_pos) _
  have hlength : trimmed.chainLength = lenBytes.length + (data.length + rest.length) := by
    rw [← trimmed.length_bytes, hbytes, List.length_append, List.length_append]
  obtain ⟨body, htrim, hbody⟩ := trimQueue_of_le
    (show lenBytes.length ≤ trimmed.chainLength by omega)
  rw [hbytes, List.drop_left] at hbody
  obtain ⟨hfront, hback⟩ := body.splitAtMost_bytes data.length
  rw [hbody, List.take_left] at hfront
  rw [hbody, List.drop_left] at hback
  have hdecode : decodeDatagramFrame trimmed true =
      .ok (.datagram data.length (.ofBuf (body.splitAtMost data.length).1),
        (body.splitAtMost data.length).2) := by
    have hcheck : data.length = (BufQueue.ofBuf (body.splitAtMost data.length).1).chainLength := by
      rw [← BufQueue.length_bytes]
      exact (congrArg List.length hfront).symm
    unfold decodeDatagramFrame makeDatagramFrame
    rw [if_pos rfl, overQueue_of_ne_nil _ hne, hbytes, accepts_sizedInteger hlen, except_ok_bind]
    dsimp only
    rw [if_neg (by rw [List.length_append]; omega), htrim, except_ok_bind, if_pos hcheck]
  refine ⟨.ofBuf (body.splitAtMost data.length).1, _, ?_, hfront, hback⟩
  rw [hparse, parseTypedFrame_of_decode (show FrameType.ofCode 0x31 = some .datagramLen from rfl)
    hdecode,
    isNone_of_bytes_ne_nil hne, Bool.and_false]

theorem roundTrips_datagram {length : Nat} {data : BufQueue}
    (h : (ControlFrame.datagram length data).WellFormed)
    (hwritable : (ControlFrame.datagram length data).Writable b) :
    (ControlFrame.datagram length data).RoundTrips p b := by
  obtain ⟨rfl, hlen⟩ := h
  have hall : data.bytes.take data.chainLength = data.bytes :=
    List.take_of_length_le (by rw [data.length_bytes])
  obtain ⟨lenBytes, hlenBytes⟩ := encodeQuicInteger_of_lt hlen
  have hnone : data.chain_.isNone = false := by
    rw [Option.isNone_eq_false_iff]
    exact hwritable
  have hsize : fieldsSize [.int 0x31, .int data.chainLength, .bytes data.chainLength []] =
      .ok (1 + (lenBytes.length + (data.chainLength + 0))) := by
    simp only [fieldsSize, WireField.getSize, integerSize_encode hlenBytes]
    rfl
  have hwrite : writeFrame (.datagram data.chainLength data) b =
      b.writeFrameFields (.datagram data.chainLength data)
        [.int 0x31, .int data.chainLength, .bytes data.chainLength data.bytes] := by
    unfold writeFrame
    dsimp only
    rw [hsize, except_ok_bind, hnone, if_neg (fun h => Bool.false_ne_true h.2), hall]
  have hfields : Encoded [.int 0x31, .int data.chainLength, .bytes data.chainLength data.bytes]
      ([0x31] ++ (lenBytes ++ (data.bytes ++ []))) := by
    have hbytes := @Encoded.bytes data.bytes _ _ .nil
    rw [data.length_bytes] at hbytes
    exact .int rfl (.int hlenBytes hbytes)
  refine roundTrips_of_parses hwrite hfields fun queue rest hqueue => ?_
  rw [List.append_nil, List.append_assoc, List.append_assoc] at hqueue
  rw [← data.length_bytes] at hlenBytes
  obtain ⟨read, queue', hparse, hread, hrest⟩ := parseFrame_datagram hlenBytes hqueue
  refine ⟨_, queue', hparse, ⟨read, ?_, hread⟩, hrest⟩
  rw [data.length_bytes]

theorem roundTrips {frame : ControlFrame} (h : frame.WellFormed) (hwritable : frame.Writable b) :
    frame.RoundTrips p b := by
  cases frame with
  | padding => cases h
  | rstStream frame => exact roundTrips_rstStream h
  | maxData maximumData =>
    obtain ⟨e₁, h₁⟩ := encodeQuicInteger_of_lt h
    exact roundTrips_of_accepts rfl rfl (.int h₁ .nil) rfl (fun _ => rfl) rfl
      ((accepts_encoded h₁ _).bind (.pure _)) rfl
  | maxStreamData streamId maximumData =>
    obtain ⟨e₁, h₁⟩ := encodeQuicInteger_of_lt h.1
    obtain ⟨e₂, h₂⟩ := encodeQuicInteger_of_lt h.2
    exact roundTrips_of_accepts rfl rfl (.int h₁ (.int h₂ .nil)) rfl (fun _ => rfl) rfl
      ((accepts_encoded h₁ _).bind ((accepts_encoded h₂ _).bind (.pure _))) rfl
  | dataBlocked dataLimit =>
    obtain ⟨e₁, h₁⟩ := encodeQuicInteger_of_lt h
    exact roundTrips_of_accepts rfl rfl (.int h₁ .nil) rfl (fun _ => rfl) rfl
      ((accepts_encoded h₁ _).bind (.pure _)) rfl
  | streamDataBlocked streamId dataLimit =>
    obtain ⟨e₁, h₁⟩ := encodeQuicInteger_of_lt h.1
    obtain ⟨e₂, h₂⟩ := encodeQuicInteger_of_lt h.2
    exact roundTrips_of_accepts rfl rfl (.int h₁ (.int h₂ .nil)) rfl (fun _ => rfl) rfl
      ((accepts_encoded h₁ _).bind ((accepts_encoded h₂ _).bind (.pure _))) rfl
  | streamsBlocked streamLimit bidi => exact roundTrips_streamsBlocked h bidi
  | connectionClose errorCode reasonPhrase closingFrameType => exact roundTrips_connectionClose h
  | ping => exact roundTrips_of_accepts rfl rfl .nil rfl (fun _ => rfl) rfl (.pure _) rfl
  | simple frame => exact roundTrips_simple h hwritable
  | knob knobSpace id blob => exact roundTrips_knob h.1 h.2.1 h.2.2 hwritable rfl rfl
  | datagram length data => exact roundTrips_datagram h hwritable
  | immediateAck => exact roundTrips_of_accepts rfl rfl .nil rfl (fun _ => rfl) rfl (.pure _) rfl

end Frames

/-! ### CRYPTO frames -/

/-- Nothing is written and the builder is as before, or as much of the data as fits is written and
read back. -/
def CryptoRoundTrips (p : CodecParameters) (offset : Nat) (data : BufQueue) (b : ControlBuilder) :
    Prop :=
  writeCryptoFrame offset data b = .ok (none, b) ∨
    ∃ len b' bytes, writeCryptoFrame offset data b = .ok (some (offset, len), b') ∧
      len ≤ data.chainLength ∧ ReadsBack p b.toPacketBuilder b'.toPacketBuilder bytes
        (· = .crypto offset (data.bytes.take len))

/-- The space behind the header of a CRYPTO frame, for which two bytes of length are reserved. -/
def cryptoSpace (offset : Nat) (b : ControlBuilder) : Nat :=
  b.remainingBytes.toNat - (1 + (getQuicIntegerSize offset).getD 0 + 2)

theorem length_encode_le_two {v : Nat} {e : Bytes} (h : encodeQuicInteger v = some e)
    (hv : v ≤ kTwoByteLimit) : e.length ≤ 2 := by
  have hsize := getQuicIntegerSize_encode h
  unfold getQuicIntegerSize at hsize
  split at hsize
  · have := Option.some.inj hsize
    omega
  · exact Nat.le_of_eq (Option.some.inj hsize).symm

theorem two_lt_length_encode {v : Nat} {e : Bytes} (h : encodeQuicInteger v = some e)
    (hv : kTwoByteLimit < v) : 2 < e.length := by
  have hsize := getQuicIntegerSize_encode h
  unfold getQuicIntegerSize kOneByteLimit at hsize
  unfold kTwoByteLimit at hv hsize
  rw [if_neg (by omega), if_neg (by omega)] at hsize
  split at hsize
  · have := Option.some.inj hsize
    omega
  split at hsize
  · have := Option.some.inj hsize
    omega
  · cases hsize

theorem cryptoHeader_size {offset : Nat} {e : Bytes} (h : encodeQuicInteger offset = some e) :
    fieldsSize [.int 0x06, .int offset] = .ok (1 + e.length) := by
  have hsize := (Encoded.int (show encodeQuicInteger 0x06 = some [0x06] from rfl) (.int h .nil)).size
  rw [hsize, List.append_nil, List.length_append]
  rfl

theorem parseFrame_crypto {p : CodecParameters} {queue : BufQueue} {offset : Nat}
    {offsetBytes lenBytes data rest : Bytes} (hoffset : encodeQuicInteger offset = some offsetBytes)
    (hlen : encodeQuicInteger data.length = some lenBytes)
    (hqueue : queue.bytes = [0x06] ++ (offsetBytes ++ (lenBytes ++ (data ++ rest)))) :
    ∃ f queue', parseFrame p queue = .ok ⟨f, queue', false⟩ ∧ f = .crypto offset data ∧
      queue'.bytes = rest := by
  have hread : Accepts decodeCryptoFrame (offsetBytes ++ ((lenBytes ++ data) ++ []))
      (.crypto offset data) :=
    (accepts_encoded hoffset _).bind
      ((accepts_lengthAndData (encodeQuicInteger_varint hlen)).bind (.pure _))
  rw [List.append_nil] at hread
  have hqueue' : queue.bytes = [0x06] ++ ((offsetBytes ++ (lenBytes ++ data)) ++ rest) := by
    rw [hqueue]
    simp only [List.append_assoc]
  obtain ⟨queue', hparse, hrest⟩ := parseFrame_of_accepts (varint_byte (by decide))
    (show FrameType.ofCode 6 = some .cryptoFrame from rfl) (fun _ => rfl) rfl hread hqueue'
  exact ⟨_, queue', hparse, rfl, hrest⟩

theorem cryptoRoundTrips {p : CodecParameters} {b : ControlBuilder} {offset : Nat} {data : BufQueue}
    (hoffset : offset < 2 ^ 62) (hsome : data.chain_.isSome = true)
    (hshort : min data.chainLength (cryptoSpace offset b) ≤ kTwoByteLimit) :
    CryptoRoundTrips p offset data b := by
  obtain ⟨e₁, h₁⟩ := encodeQuicInteger_of_lt hoffset
  rw [cryptoSpace, getQuicIntegerSize_encode h₁, Option.getD_some] at hshort
  unfold CryptoRoundTrips writeCryptoFrame
  rw [cryptoHeader_size h₁, except_ok_bind]
  dsimp only
  by_cases hspace : b.remainingBytes.toNat ≤ 1 + e₁.length + 2
  · rw [if_pos hspace]
    exact .inl rfl
  · rw [if_neg hspace]
    generalize hlen : min data.chainLength (b.remainingBytes.toNat - (1 + e₁.length + 2)) = len at *
    have hle : len ≤ data.chainLength := by omega
    have htake : (data.bytes.take len).length = len := by
      rw [List.length_take, data.length_bytes, Nat.min_eq_left hle]
    obtain ⟨e₂, h₂⟩ := encodeQuicInteger_of_lt (Nat.lt_of_le_of_lt hshort (by decide))
    have htwo := length_encode_le_two h₂ hshort
    have hfields : Encoded [.int 0x06, .int offset, .int len, .bytes len (data.bytes.take len)]
        ([0x06] ++ (e₁ ++ (e₂ ++ (data.bytes.take len ++ [])))) := by
      have hbytes := @Encoded.bytes (data.bytes.take len) _ _ .nil
      rw [htake] at hbytes
      exact .int rfl (.int h₁ (.int h₂ hbytes))
    obtain ⟨written, hwrite, hwritten⟩ :=
      hfields.written (PacketBuilder.Written.refl b.toPacketBuilder)
    rw [List.nil_append, List.append_nil] at hwritten
    have htotal : ([0x06] ++ (e₁ ++ (e₂ ++ data.bytes.take len)) : Bytes).length =
        1 + (e₁.length + (e₂.length + len)) := by
      simp only [List.length_append, List.length_singleton, htake]
    refine .inr ⟨len, { b with
      toPacketBuilder := { written with isEmpty := false }
      cryptoFrames := b.cryptoFrames ++ [(offset, len)] },
      [0x06] ++ (e₁ ++ (e₂ ++ data.bytes.take len)), ?_, hle, ?_, ?_, ?_⟩
    · rw [WireField.getSize, integerSize_encode h₂]
      dsimp only
      rw [except_ok_bind, if_neg (by omega), Option.isNone_eq_false_iff.mpr hsome,
        if_neg Bool.false_ne_true, hwrite]
      rfl
    · exact hwritten.body
    · exact hwritten.toNat (by omega)
    · intro queue rest hqueue
      rw [List.append_assoc, List.append_assoc, List.append_assoc] at hqueue
      refine parseFrame_crypto h₁ ?_ hqueue
      rw [htake]
      exact h₂

/-- Data whose length takes more than two bytes is not written. -/
theorem writeCryptoFrame_throws {b : ControlBuilder} {offset : Nat} {data : BufQueue}
    (hoffset : offset < 2 ^ 62)
    (hlong : kTwoByteLimit < min data.chainLength (cryptoSpace offset b)) :
    writeCryptoFrame offset data b = .error (.exception (.internal "Length bytes representation")) := by
  obtain ⟨e₁, h₁⟩ := encodeQuicInteger_of_lt hoffset
  rw [cryptoSpace, getQuicIntegerSize_encode h₁, Option.getD_some] at hlong
  have hspace : ¬ b.remainingBytes.toNat ≤ 1 + e₁.length + 2 := by omega
  have hremaining := b.remainingBytes.toNat_lt
  obtain ⟨e₂, h₂⟩ := encodeQuicInteger_of_lt (show min data.chainLength
    (b.remainingBytes.toNat - (1 + e₁.length + 2)) < 2 ^ 62 by omega)
  unfold writeCryptoFrame
  rw [cryptoHeader_size h₁, except_ok_bind]
  dsimp only
  rw [if_neg hspace, WireField.getSize, integerSize_encode h₂]
  exact if_pos (two_lt_length_encode h₂ hlong)

/-- A control frame is written as a whole or not at all, and what is written is read back as the same
frame. A CRYPTO frame carries as much as fits, or is refused where that is more than 16383 bytes. -/
theorem controlFrame_roundTrip (p : CodecParameters) (b : ControlBuilder) :
    (∀ frame : ControlFrame, frame.WellFormed → frame.Writable b → frame.RoundTrips p b) ∧
    (∀ (offset : Nat) (data : BufQueue), offset < 2 ^ 62 → data.chain_.isSome = true →
      min data.chainLength (cryptoSpace offset b) ≤ kTwoByteLimit →
      CryptoRoundTrips p offset data b) ∧
    ∀ (offset : Nat) (data : BufQueue), offset < 2 ^ 62 →
      kTwoByteLimit < min data.chainLength (cryptoSpace offset b) →
      writeCryptoFrame offset data b =
        .error (.exception (.internal "Length bytes representation")) :=
  ⟨fun _ => roundTrips, fun _ _ => cryptoRoundTrips, fun _ _ => writeCryptoFrame_throws⟩

theorem controlFrame_roundTrip_stopSending :
    (ControlFrame.simple (.stopSending 4 7)).RoundTrips .default ⟨⟨1200, [], [], true⟩, true, [], []⟩ ∧
      CryptoRoundTrips .default 0 (.ofBuf (some (.wrapBuffer [1, 2, 3])))
        ⟨⟨1200, [], [], true⟩, true, [], []⟩ := by
  obtain ⟨hframes, hcrypto, -⟩ :=
    controlFrame_roundTrip .default ⟨⟨1200, [], [], true⟩, true, [], []⟩
  exact ⟨hframes _ ⟨by decide, by decide⟩ trivial, hcrypto _ _ (by decide) rfl (by decide)⟩

/-- A CRYPTO frame with 2 ^ 14 bytes, HANDSHAKE_DONE in a long header packet, a KNOB frame whose blob
is in two buffers, and an empty datagram without a buffer. -/
theorem controlFrame_roundTrip_fails :
    ¬ CryptoRoundTrips .default 0 (.ofBuf (some (.wrapBuffer (List.replicate (2 ^ 14) 0))))
        ⟨⟨20000, [], [], true⟩, true, [], []⟩ ∧
      ¬ (ControlFrame.simple .handshakeDone).RoundTrips .default
        ⟨⟨1200, [], [], true⟩, false, [], []⟩ ∧
      ¬ (ControlFrame.knob 1 2 ⟨⟨[1], 0, false⟩, [⟨[2], 0, false⟩]⟩).RoundTrips .default
        ⟨⟨1200, [], [], true⟩, true, [], []⟩ ∧
      ¬ (ControlFrame.datagram 0 .cleared).RoundTrips .default
        ⟨⟨1200, [], [], true⟩, true, [], []⟩ := by
  refine ⟨?_, ?_, ?_, ?_⟩
  · have hlength : (BufQueue.ofBuf (some (.wrapBuffer (List.replicate (2 ^ 14) 0)))).chainLength =
        2 ^ 14 := by
      rw [← BufQueue.length_bytes]
      exact (congrArg List.length (IOBuf.bytes_wrapBuffer _)).trans List.length_replicate
    have hthrows := @writeCryptoFrame_throws ⟨⟨20000, [], [], true⟩, true, [], []⟩ 0 _ (by decide)
      (by rw [hlength]; decide)
    rintro (hnone | ⟨len, b', bytes, hsome, -⟩)
    · rw [hthrows] at hnone
      cases hnone
    · rw [hthrows] at hsome
      cases hsome
  · rintro (h | ⟨b', bytes, h, -⟩) <;> cases h
  · rintro (h | ⟨b', bytes, h, hread⟩)
    · cases h
    · have hwrite : ∃ b', writeFrame (.knob 1 2 ⟨⟨[1], 0, false⟩, [⟨[2], 0, false⟩]⟩)
          ⟨⟨1200, [], [], true⟩, true, [], []⟩ = .ok (6, b') ∧ b'.body.length = 7 := ⟨_, rfl, rfl⟩
      obtain ⟨b₁, hwrite, hlong⟩ := hwrite
      rw [hwrite] at h
      obtain ⟨hlen, rfl⟩ := Prod.mk.inj (Except.ok.inj h)
      rw [hread.body, List.nil_append, ← hlen] at hlong
      cases hlong
  · rintro (h | ⟨b', bytes, h, -⟩) <;> cases h

end MasqueQuic
