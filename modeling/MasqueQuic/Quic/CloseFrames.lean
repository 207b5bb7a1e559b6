/-
CONNECTION_CLOSE frames, written and read again.

The writer takes a reason of any length, the decoder one of at most `kMaxReasonPhraseLength` bytes.
The close of an application is written without the type of the frame that is to blame, and is read
with that of PADDING; the close of the transport is read with its type where that takes one byte.
-/

import MasqueQuic.Quic.FrameReencoding

namespace MasqueQuic

/-- The type with which a close is read. That of an application has none on the wire. -/
def carriedType (application : Bool) (closingFrameType : Nat) : Nat :=
  if application then 0 else closingFrameType

/-- A frame with this code, reason and type. Where it has no type, that is `FrameType::PADDING`. -/
def ClosesWith (errorCode : QuicErrorCode) (reasonPhrase : Bytes) (closingFrameType : Nat)
    (f : QuicFrame) : Prop :=
  ∃ frameType, f = .connectionClose errorCode reasonPhrase frameType ∧
    frameType.getD 0 = closingFrameType

/-- Nothing is written for lack of space, or what is written is read back, with `readType`. -/
def CloseKept (p : CodecParameters) (b : ControlBuilder) (errorCode : QuicErrorCode)
    (reasonPhrase : Bytes) (closingFrameType readType : Nat) : Prop :=
  writeFrame (.connectionClose errorCode reasonPhrase closingFrameType) b = .ok (0, b) ∨
    ∃ b' bytes, writeFrame (.connectionClose errorCode reasonPhrase closingFrameType) b =
        .ok (bytes.length, b') ∧
      ReadsBack p b.toPacketBuilder b'.toPacketBuilder bytes
        (ClosesWith errorCode reasonPhrase readType)

/-- A code of 16 bits, of either kind. -/
def closeCode (application : Bool) (code : UInt16) : QuicErrorCode :=
  if application then .application code.toNat else .transport code.toNat

/-- The type is not written, or takes one byte. -/
def ShortType (application : Bool) (closingFrameType : Nat) : Prop :=
  application = false → closingFrameType ≤ kOneByteLimit

/-- There is no room for the frame, the size of which is known. -/
def CloseTooLarge (b : ControlBuilder) (errorCode : QuicErrorCode) (reasonPhrase : Bytes)
    (closingFrameType : Nat) : Prop :=
  ∃ size, fieldsSize (connectionCloseFields errorCode reasonPhrase closingFrameType) = .ok size ∧
    b.remainingBytes.toNat < size

section

variable {p : CodecParameters} {code : UInt16} {reasonPhrase : Bytes} {closingFrameType : Nat}
  {application : Bool} {bytes rest : Bytes} {queue : BufQueue}

theorem toErrorCode_toNat (code : UInt16) : toErrorCode code.toNat = code.toNat :=
  toErrorCode_of_lt code.toNat_lt

theorem oneByte_of_le {e : Bytes} (h : encodeQuicInteger closingFrameType = some e)
    (htype : closingFrameType ≤ kOneByteLimit) :
    (((closingFrameType, e.length) : Nat × Nat).2 != 1) = false := by
  rw [length_encode_byte h htype]
  rfl

/-- A frame that the decoder takes. -/
theorem parseFrame_close (htype : ShortType application closingFrameType)
    (hreason : reasonPhrase.length ≤ kMaxReasonPhraseLength)
    (h : Encoded (connectionCloseFields (closeCode application code) reasonPhrase closingFrameType)
      bytes) (hqueue : queue.bytes = bytes ++ rest) :
    ∃ f queue', parseFrame p queue = .ok ⟨f, queue', false⟩ ∧
      ClosesWith (closeCode application code) reasonPhrase
        (carriedType application closingFrameType) f ∧ queue'.bytes = rest := by
  cases application with
  | true =>
    obtain ⟨type, _, ht, t₁, rfl⟩ := h.int_inv
    obtain ⟨e₁, _, h₁, t₂, rfl⟩ := t₁.int_inv
    obtain ⟨e₂, _, h₂, t₃, rfl⟩ := t₂.int_inv
    obtain rfl := t₃.bytes_inv
    have hread : Accepts decodeApplicationClose (e₁ ++ ((e₂ ++ ([] ++ reasonPhrase)) ++ []))
        (.connectionClose (.application (toErrorCode code.toNat)) reasonPhrase none) :=
      (accepts_encoded h₁ _).bind ((accepts_reasonPhrase h₂ hreason).bind (.pure _))
    simp only [List.nil_append, List.append_nil, List.append_assoc] at hread hqueue
    obtain ⟨queue', hparse, hrest⟩ := parseFrame_of_accepts (encodeQuicInteger_varint ht)
      (show FrameType.ofCode 0x1d = some .connectionCloseAppErr from rfl) (fun _ => rfl) rfl hread
      (by simpa only [List.append_assoc] using hqueue)
    rw [toErrorCode_toNat] at hparse
    exact ⟨_, queue', hparse, ⟨none, rfl, rfl⟩, hrest⟩
  | false =>
    obtain ⟨type, _, ht, t₁, rfl⟩ := h.int_inv
    obtain ⟨e₁, _, h₁, t₂, rfl⟩ := t₁.int_inv
    obtain ⟨e₂, _, h₂, t₃, rfl⟩ := t₂.int_inv
    obtain ⟨e₃, _, h₃, t₄, rfl⟩ := t₃.int_inv
    obtain rfl := t₄.bytes_inv
    have hone := oneByte_of_le h₂ (htype rfl)
    have hread : Accepts decodeConnectionCloseFrame
        (e₁ ++ (e₂ ++ ([] ++ ((e₃ ++ ([] ++ reasonPhrase)) ++ []))))
        (.connectionClose (.transport (toErrorCode code.toNat)) reasonPhrase
          (some closingFrameType)) :=
      (accepts_encoded h₁ _).bind ((accepts_sizedInteger h₂ _).bind ((accepts_throwIf _ hone).bind
        ((accepts_reasonPhrase h₃ hreason).bind (.pure _))))
    simp only [List.nil_append, List.append_nil] at hread hqueue
    obtain ⟨queue', hparse, hrest⟩ := parseFrame_of_accepts (encodeQuicInteger_varint ht)
      (show FrameType.ofCode 0x1c = some .connectionClose from rfl) (fun _ => rfl) rfl hread
      (by simpa only [List.append_assoc] using hqueue)
    rw [toErrorCode_toNat] at hparse
    exact ⟨_, queue', hparse, ⟨some closingFrameType, rfl, rfl⟩, hrest⟩

/-- A reason that is too long is rejected, of either kind. -/
theorem parseFrame_close_longReason (htype : ShortType application closingFrameType)
    (hlong : ¬ reasonPhrase.length ≤ kMaxReasonPhraseLength)
    (h : Encoded (connectionCloseFields (closeCode application code) reasonPhrase closingFrameType)
      bytes) (hqueue : queue.bytes = bytes ++ rest) : ∃ stop, parseFrame p queue = .error stop := by
  cases application with
  | true =>
    obtain ⟨type, _, ht, t₁, rfl⟩ := h.int_inv
    obtain ⟨e₁, _, h₁, t₂, rfl⟩ := t₁.int_inv
    obtain ⟨e₂, _, h₂, t₃, rfl⟩ := t₂.int_inv
    obtain rfl := t₃.bytes_inv
    rw [List.append_assoc] at hqueue
    have hfaults : Faults decodeApplicationClose (e₁ ++ (e₂ ++ (reasonPhrase ++ []))) _ :=
      (accepts_encoded h₁ _).bind_faults ((faults_reasonPhrase h₂ hlong _).bind _)
    exact parseFrame_of_faults (encodeQuicInteger_varint ht)
      (show FrameType.ofCode 0x1d = some .connectionCloseAppErr from rfl) (fun _ => rfl) hfaults
      hqueue
  | false =>
    obtain ⟨type, _, ht, t₁, rfl⟩ := h.int_inv
    obtain ⟨e₁, _, h₁, t₂, rfl⟩ := t₁.int_inv
    obtain ⟨e₂, _, h₂, t₃, rfl⟩ := t₂.int_inv
    obtain ⟨e₃, _, h₃, t₄, rfl⟩ := t₃.int_inv
    obtain rfl := t₄.bytes_inv
    rw [List.append_assoc] at hqueue
    have hone := oneByte_of_le h₂ (htype rfl)
    have hfaults : Faults decodeConnectionCloseFrame
        (e₁ ++ (e₂ ++ (e₃ ++ (reasonPhrase ++ [])))) _ :=
      (accepts_encoded h₁ _).bind_faults ((accepts_sizedInteger h₂ _).bind_faults
        ((accepts_throwIf _ hone).bind_faults ((faults_reasonPhrase h₃ hlong _).bind _)))
    exact parseFrame_of_faults (encodeQuicInteger_varint ht)
      (show FrameType.ofCode 0x1c = some .connectionClose from rfl) (fun _ => rfl) hfaults hqueue

/-! ### Sizes -/

theorem integerSize_of_none {v : Nat} (h : encodeQuicInteger v = none) :
    ∃ e, integerSize v = .error e := by
  have hlarge : ¬ v < 2 ^ 62 := by
    intro hlt
    obtain ⟨e, he⟩ := encodeQuicInteger_of_lt hlt
    rw [h] at he
    cases he
  have hnone : getQuicIntegerSize v = none := by
    unfold getQuicIntegerSize
    rw [if_neg, if_neg, if_neg, if_neg]
    all_goals
      intro hle
      exact hlarge (Nat.lt_of_le_of_lt hle (by decide))
  exact ⟨_, by rw [integerSize, hnone]⟩

/-- Fields that have a size can be written, if they are declared with the size that they have. -/
theorem encoded_of_size {fields : List WireField} {size : Nat}
    (hdeclared : ∀ n data, .bytes n data ∈ fields → n = data.length)
    (h : fieldsSize fields = .ok size) : ∃ bytes, Encoded fields bytes := by
  induction fields generalizing size with
  | nil => exact ⟨[], .nil⟩
  | cons field fields ih =>
    obtain ⟨first, hfirst, hrest⟩ := except_bind_eq_ok.mp h
    obtain ⟨others, hothers, -⟩ := except_bind_eq_ok.mp hrest
    obtain ⟨es, hes⟩ := ih (fun n data hmem => hdeclared n data (List.mem_cons_of_mem field hmem))
      hothers
    cases field with
    | int v =>
      cases he : encodeQuicInteger v with
      | some e => exact ⟨e ++ es, .int he hes⟩
      | none =>
        obtain ⟨e, herror⟩ := integerSize_of_none he
        rw [WireField.getSize, herror] at hfirst
        cases hfirst
    | bytes n data =>
      obtain rfl := hdeclared n data List.mem_cons_self
      exact ⟨data ++ es, .bytes hes⟩

theorem connectionCloseFields_declared (errorCode : QuicErrorCode) (reasonPhrase : Bytes)
    (closingFrameType : Nat) : ∀ n data,
      .bytes n data ∈ connectionCloseFields errorCode reasonPhrase closingFrameType →
        n = data.length := by
  intro n data hmem
  cases errorCode with
  | transport code =>
    simp only [connectionCloseFields, List.mem_cons, reduceCtorEq, WireField.bytes.injEq,
      List.not_mem_nil, or_false, false_or] at hmem
    rw [hmem.1, hmem.2]
  | application code =>
    simp only [connectionCloseFields, List.mem_cons, reduceCtorEq, WireField.bytes.injEq,
      List.not_mem_nil, or_false, false_or] at hmem
    rw [hmem.1, hmem.2]

theorem encoded_of_shortReason (htype : ShortType application closingFrameType)
    (hreason : reasonPhrase.length ≤ kMaxReasonPhraseLength) : ∃ bytes,
      Encoded (connectionCloseFields (closeCode application code) reasonPhrase closingFrameType)
        bytes := by
  have hcode : code.toNat < 2 ^ 62 := code.toNat_lt.trans (by decide)
  have hlen : reasonPhrase.length < 2 ^ 62 := Nat.lt_of_le_of_lt hreason (by decide)
  obtain ⟨e₁, h₁⟩ := encodeQuicInteger_of_lt hcode
  obtain ⟨e₃, h₃⟩ := encodeQuicInteger_of_lt hlen
  cases application with
  | true => exact ⟨_, .int rfl (.int h₁ (.int h₃ (@Encoded.bytes reasonPhrase _ _ .nil)))⟩
  | false =>
    obtain ⟨e₂, h₂⟩ := encodeQuicInteger_of_lt (Nat.lt_of_le_of_lt (htype rfl) (by decide))
    exact ⟨_, .int rfl (.int h₁ (.int h₂ (.int h₃ (@Encoded.bytes reasonPhrase _ _ .nil))))⟩

end

/-! ### Both ends -/

theorem length_encodedClose_pos {errorCode : QuicErrorCode} {reasonPhrase bytes : Bytes}
    {closingFrameType : Nat}
    (h : Encoded (connectionCloseFields errorCode reasonPhrase closingFrameType) bytes) :
    0 < bytes.length := by
  have htype : ∀ {v : Nat} {fields : List WireField}, Encoded (.int v :: fields) bytes →
      0 < bytes.length := by
    intro v fields hfields
    obtain ⟨e, es, he, -, rfl⟩ := hfields.int_inv
    have hpos := (encodeQuicInteger_varint he).length_pos
    rw [List.length_append]
    omega
  cases errorCode with
  | transport code => exact htype h
  | application code => exact htype h

/-- Fields without a size are not written. -/
theorem writeFrameFields_of_noSize {b : ControlBuilder} (frame : ControlFrame)
    {fields : List WireField} (h : ∀ size, fieldsSize fields ≠ .ok size) :
    ∃ fault, b.writeFrameFields frame fields = .error fault := by
  cases hsize : fieldsSize fields with
  | ok size => exact absurd hsize (h size)
  | error fault =>
    refine ⟨fault, ?_⟩
    unfold ControlBuilder.writeFrameFields
    rw [hsize]
    rfl

/-- The close of an application, and that of the transport that blames a type of one byte, is kept
exactly if it does not fit into the packet or its reason is short enough. -/
theorem closeFrame_kept_iff (p : CodecParameters) (b : ControlBuilder) (application : Bool)
    (code : UInt16) (reasonPhrase : Bytes) (closingFrameType : Nat)
    (htype : ShortType application closingFrameType) :
    CloseKept p b (closeCode application code) reasonPhrase closingFrameType
        (carriedType application closingFrameType) ↔
      CloseTooLarge b (closeCode application code) reasonPhrase closingFrameType ∨
        reasonPhrase.length ≤ kMaxReasonPhraseLength := by
  have hwrite : writeFrame (.connectionClose (closeCode application code) reasonPhrase
      closingFrameType) b = b.writeFrameFields (.connectionClose (closeCode application code)
        reasonPhrase closingFrameType)
        (connectionCloseFields (closeCode application code) reasonPhrase closingFrameType) := rfl
  unfold CloseKept CloseTooLarge
  rw [hwrite]
  by_cases hencoded : ∃ bytes, Encoded
      (connectionCloseFields (closeCode application code) reasonPhrase closingFrameType) bytes
  · obtain ⟨bytes, hbytes⟩ := hencoded
    rcases writeFrameFields_spec (b := b)
      (.connectionClose (closeCode application code) reasonPhrase closingFrameType) hbytes with
      ⟨hlt, hnone⟩ | ⟨hle, b', hb', hwritten⟩
    · exact iff_of_true (.inl hnone) (.inl ⟨_, hbytes.size, hlt⟩)
    · have hfits : ¬ ∃ size, fieldsSize (connectionCloseFields (closeCode application code)
          reasonPhrase closingFrameType) = .ok size ∧ b.remainingBytes.toNat < size := by
        rintro ⟨size, hsize, hlt⟩
        rw [hbytes.size, Except.ok.injEq] at hsize
        omega
      rw [or_iff_right hfits, hb']
      constructor
      · rintro (hnone | ⟨b'', bytes', hsame, hreads⟩)
        · rw [Except.ok.injEq, Prod.mk.injEq] at hnone
          have hpos := length_encodedClose_pos hbytes
          omega
        · rw [Except.ok.injEq, Prod.mk.injEq] at hsame
          obtain rfl := hsame.2
          have hsameBytes : bytes = bytes' := by
            have hbody := hreads.body
            rw [hwritten.body] at hbody
            exact List.append_cancel_left hbody
          subst hsameBytes
          by_contra hlong
          have hwrapped : (BufQueue.ofBuf (some (.wrapBuffer bytes))).bytes = bytes ++ [] := by simp
          obtain ⟨f, queue', hparse, -, -⟩ := hreads.parses _ [] hwrapped
          obtain ⟨stop, hstop⟩ := parseFrame_close_longReason (p := p) htype hlong hbytes hwrapped
          rw [hstop] at hparse
          cases hparse
      · intro hreason
        refine .inr ⟨b', bytes, rfl, hwritten.body, hwritten.toNat hle, fun queue rest hqueue => ?_⟩
        exact parseFrame_close htype hreason hbytes hqueue
  · have hsize : ∀ size, fieldsSize (connectionCloseFields (closeCode application code) reasonPhrase
        closingFrameType) ≠ .ok size := by
      intro size hsize
      exact hencoded (encoded_of_size (connectionCloseFields_declared _ _ _) hsize)
    obtain ⟨fault, hfault⟩ := writeFrameFields_of_noSize (b := b)
      (.connectionClose (closeCode application code) reasonPhrase closingFrameType) hsize
    rw [hfault]
    refine iff_of_false ?_ ?_
    · rintro (hnone | ⟨b', bytes, hwritten, -⟩)
      · cases hnone
      · cases hwritten
    · rintro (⟨size, hok, -⟩ | hreason)
      · exact hsize size hok
      · exact hencoded (encoded_of_shortReason htype hreason)

/-- A packet with a short header and nothing in it. -/
def freshPacket : ControlBuilder :=
  { remainingBytes := 1252, body := [], frames := [], isEmpty := true, shortHeader := true,
    controlFrames := [], cryptoFrames := [] }

theorem closeFrame_kept_iff_noError :
    CloseKept .default freshPacket (closeCode false 0) [0x4e, 0x6f] 0x1c
        (carriedType false 0x1c) ↔
      CloseTooLarge freshPacket (closeCode false 0) [0x4e, 0x6f] 0x1c ∨
        ([0x4e, 0x6f] : Bytes).length ≤ kMaxReasonPhraseLength :=
  closeFrame_kept_iff .default freshPacket false 0 [0x4e, 0x6f] 0x1c fun _ => by decide

/-- The close that `writeCloseCommon` writes for an application is not read with its type,
`FrameType::CONNECTION_CLOSE_APP_ERR`. -/
theorem applicationClose_type_lost :
    ¬ CloseKept .default freshPacket (closeCode true 0) [] 0x1d 0x1d := by
  have hwrite : writeFrame (.connectionClose (closeCode true 0) [] 0x1d) freshPacket =
      .ok (3, { freshPacket with
        remainingBytes := 1249, body := [0x1d, 0, 0], isEmpty := false,
        controlFrames := [.connectionClose (closeCode true 0) [] 0x1d] }) := rfl
  rintro (hnone | ⟨b', bytes, hsame, hreads⟩)
  · rw [hwrite] at hnone
    cases hnone
  · rw [hwrite, Except.ok.injEq, Prod.mk.injEq] at hsame
    obtain ⟨-, rfl⟩ := hsame
    obtain rfl : [0x1d, 0, 0] = bytes := hreads.body
    obtain ⟨f, queue', hparse, ⟨frameType, hf, htype⟩, -⟩ :=
      hreads.parses (.ofBuf (some (.wrapBuffer [0x1d, 0, 0]))) [] (by simp)
    obtain ⟨queue, hread⟩ : ∃ queue, parseFrame .default
        (.ofBuf (some (.wrapBuffer [0x1d, 0, 0]))) =
          .ok ⟨.connectionClose (.application 0) [] none, queue, false⟩ := ⟨_, rfl⟩
    rw [hread] at hparse
    cases hparse
    cases hf
    cases htype

end MasqueQuic
