/-
Frames read and written again.

A frame that is accepted is put back on the wire. The error codes of RST_STREAM, STOP_SENDING and the
two CONNECTION_CLOSE frames are numbers of up to 62 bits on the wire and 16 bits in the frame, and a
KNOB frame takes whatever is there of its blob. `wire_kept_iff` says for which frames the same bytes
come back: those whose code fits, and KNOB frames that are complete.
-/

import MasqueQuic.Quic.ControlFrameCodec

namespace MasqueQuic

/-- A frame on the wire. The blob of a KNOB frame is what is there of it. -/
inductive WireFrame where
  | rstStream (streamId errorCode offset : Nat)
  | stopSending (streamId errorCode : Nat)
  | connectionClose (errorCode frameType : Nat) (reasonPhrase : Bytes)
  | applicationClose (errorCode : Nat) (reasonPhrase : Bytes)
  | knob (knobSpace id declared : Nat) (blob : Bytes)

namespace WireFrame

def fields : WireFrame → List WireField
  | .rstStream streamId errorCode offset => [.int 0x04, .int streamId, .int errorCode, .int offset]
  | .stopSending streamId errorCode => [.int 0x05, .int streamId, .int errorCode]
  | .connectionClose errorCode frameType reasonPhrase =>
      [.int 0x1c, .int errorCode, .int frameType, .int reasonPhrase.length,
        .bytes reasonPhrase.length reasonPhrase]
  | .applicationClose errorCode reasonPhrase =>
      [.int 0x1d, .int errorCode, .int reasonPhrase.length, .bytes reasonPhrase.length reasonPhrase]
  | .knob knobSpace id declared blob =>
      [.int 0x1550, .int knobSpace, .int id, .int declared, .bytes blob.length blob]

/-- A blob that is shorter than declared is the last of the packet. -/
def EndsBefore (rest : Bytes) : WireFrame → Prop
  | .knob _ _ declared blob => blob.length ≤ declared ∧ (blob.length < declared → rest = [])
  | _ => True

def errorCode : WireFrame → Option Nat
  | .rstStream _ errorCode _ => some errorCode
  | .stopSending _ errorCode => some errorCode
  | .connectionClose errorCode _ _ => some errorCode
  | .applicationClose errorCode _ => some errorCode
  | .knob .. => none

/-- A declared length is more than what is there. -/
def Truncated : WireFrame → Prop
  | .knob _ _ declared blob => blob.length < declared
  | _ => False

/-- The error code fits into 16 bits, where the frame is accepted at all, and nothing is missing. -/
def Fitting : WireFrame → Prop
  | .rstStream _ errorCode _ => errorCode < 2 ^ 16
  | .stopSending _ errorCode => errorCode < 2 ^ 16
  | .connectionClose errorCode frameType reasonPhrase =>
      frameType ≤ kOneByteLimit → reasonPhrase.length ≤ kMaxReasonPhraseLength → errorCode < 2 ^ 16
  | .applicationClose errorCode reasonPhrase =>
      reasonPhrase.length ≤ kMaxReasonPhraseLength → errorCode < 2 ^ 16
  | .knob _ _ declared blob => blob.length = declared

end WireFrame

/-- The frame that is read, as a frame to write. -/
def QuicFrame.toControlFrame : QuicFrame → Option ControlFrame
  | .rstStream frame => some (.rstStream frame)
  | .simple frame => some (.simple frame)
  | .connectionClose errorCode reasonPhrase closingFrameType =>
      some (.connectionClose errorCode reasonPhrase (closingFrameType.getD 0))
  | _ => none

def QuicFrame.errorCode : QuicFrame → Option Nat
  | .rstStream frame => some frame.errorCode
  | .simple (.stopSending _ errorCode) => some errorCode
  | .connectionClose (.transport code) _ _ => some code
  | .connectionClose (.application code) _ _ => some code
  | _ => none

/-- `bytes` come back from the frame, wherever there is space for them. -/
def Reencodes (f : QuicFrame) (bytes : Bytes) : Prop :=
  ∃ frame, f.toControlFrame = some frame ∧ ∀ b : ControlBuilder,
    bytes.length ≤ b.remainingBytes.toNat →
      ∃ b', writeFrame frame b = .ok (bytes.length, b') ∧ b'.body = b.body ++ bytes

/-- Parsing keeps everything that is on the wire. -/
structure Kept (p : CodecParameters) (wire : WireFrame) (bytes : Bytes) (queue : BufQueue) : Prop where
  reencodes : ∀ f, parseFrame p queue = .ok f → Reencodes f.frame bytes
  errorCode : ∀ f, parseFrame p queue = .ok f → f.frame.errorCode = wire.errorCode
  rejects : wire.Truncated → ∃ e, parseFrame p queue = .error e

/-! ### What is read -/

section Read

variable {p : CodecParameters} {queue : BufQueue} {bytes rest : Bytes}

theorem parseFrame_of_faults {code : Nat} {type e : Bytes} {frameType : FrameType}
    {r : FrameReader QuicFrame} {fault : DecodeFault} (htype : Varint code type)
    (hcode : FrameType.ofCode code = some frameType)
    (hdecode : ∀ queue, decodeFrame p queue frameType = overCursor queue r) (hr : Faults r e fault)
    (hqueue : queue.bytes = type ++ (e ++ rest)) : ∃ stop, parseFrame p queue = .error stop := by
  obtain ⟨trimmed, hbytes, hparse⟩ := parseFrame_of_type p htype hqueue
  have hover : decodeFrame p trimmed frameType = .error fault := by
    rw [hdecode, overCursor, hbytes, hr rest]
    rfl
  cases hresult : parseTypedFrame p trimmed code with
  | error stop => exact ⟨stop, hparse.trans hresult⟩
  | ok f =>
    rw [decode_of_parseTypedFrame hcode hresult] at hover
    cases hover

theorem reencodes_of_fields {f : QuicFrame} {frame : ControlFrame} {fields : List WireField}
    (hframe : f.toControlFrame = some frame) (h : Encoded fields bytes)
    (hwrite : ∀ b, writeFrame frame b = b.writeFrameFields frame fields) : Reencodes f bytes := by
  refine ⟨frame, hframe, fun b hspace => ?_⟩
  rw [hwrite b]
  rcases writeFrameFields_spec (b := b) frame h with ⟨hshort, -⟩ | ⟨-, b', hb', hwritten⟩
  · omega
  · exact ⟨b', hb', hwritten.body⟩

theorem kept_of_error {wire : WireFrame} {stop : ParseStop} (h : parseFrame p queue = .error stop) :
    Kept p wire bytes queue where
  reencodes f hf := by
    rw [h] at hf
    cases hf
  errorCode f hf := by
    rw [h] at hf
    cases hf
  rejects _ := ⟨stop, h⟩

theorem kept_iff_of_ok {wire : WireFrame} {f : ParsedFrame} (h : parseFrame p queue = .ok f) :
    Kept p wire bytes queue ↔
      Reencodes f.frame bytes ∧ f.frame.errorCode = wire.errorCode ∧ ¬ wire.Truncated := by
  constructor
  · intro hkept
    refine ⟨hkept.reencodes f h, hkept.errorCode f h, fun htruncated => ?_⟩
    obtain ⟨stop, hstop⟩ := hkept.rejects htruncated
    rw [h] at hstop
    cases hstop
  · rintro ⟨hreencodes, herrorCode, hcomplete⟩
    refine ⟨fun g hg => ?_, fun g hg => ?_, fun htruncated => absurd htruncated hcomplete⟩
    · rw [h] at hg
      cases hg
      exact hreencodes
    · rw [h] at hg
      cases hg
      exact herrorCode

theorem lt_of_toErrorCode_eq {code : Nat} (h : some (toErrorCode code) = some code) :
    code < 2 ^ 16 := by
  rw [Option.some.injEq] at h
  rw [← h]
  exact Nat.mod_lt _ (by decide)

theorem toErrorCode_of_lt {code : Nat} (h : code < 2 ^ 16) : toErrorCode code = code :=
  Nat.mod_eq_of_lt h

theorem rstStream_kept_iff {streamId errorCode offset : Nat}
    (h : Encoded (WireFrame.rstStream streamId errorCode offset).fields bytes)
    (hqueue : queue.bytes = bytes ++ rest) :
    Kept p (.rstStream streamId errorCode offset) bytes queue ↔ errorCode < 2 ^ 16 := by
  obtain ⟨type, _, ht, t₁, rfl⟩ := h.int_inv
  obtain ⟨e₁, _, h₁, t₂, rfl⟩ := t₁.int_inv
  obtain ⟨e₂, _, h₂, t₃, rfl⟩ := t₂.int_inv
  obtain ⟨e₃, _, h₃, t₄, rfl⟩ := t₃.int_inv
  obtain rfl := t₄.nil_inv
  rw [List.append_assoc] at hqueue
  obtain ⟨queue', hparse, -⟩ := parseFrame_of_accepts (p := p) (encodeQuicInteger_varint ht)
    (show FrameType.ofCode 0x04 = some .rstStream from rfl) (fun _ => rfl) rfl
    ((accepts_encoded h₁ _).bind ((accepts_encoded h₂ _).bind ((accepts_encoded h₃ _).bind
      (.pure _)))) hqueue
  rw [kept_iff_of_ok hparse]
  constructor
  · rintro ⟨-, hcode, -⟩
    exact lt_of_toErrorCode_eq hcode
  · intro hlt
    have hcode := toErrorCode_of_lt hlt
    refine ⟨reencodes_of_fields rfl h fun b => ?_, congrArg some hcode, False.elim⟩
    rw [hcode]
    rfl

theorem stopSending_kept_iff {streamId errorCode : Nat}
    (h : Encoded (WireFrame.stopSending streamId errorCode).fields bytes)
    (hqueue : queue.bytes = bytes ++ rest) :
    Kept p (.stopSending streamId errorCode) bytes queue ↔ errorCode < 2 ^ 16 := by
  obtain ⟨type, _, ht, t₁, rfl⟩ := h.int_inv
  obtain ⟨e₁, _, h₁, t₂, rfl⟩ := t₁.int_inv
  obtain ⟨e₂, _, h₂, t₃, rfl⟩ := t₂.int_inv
  obtain rfl := t₃.nil_inv
  rw [List.append_assoc] at hqueue
  obtain ⟨queue', hparse, -⟩ := parseFrame_of_accepts (p := p) (encodeQuicInteger_varint ht)
    (show FrameType.ofCode 0x05 = some .stopSending from rfl) (fun _ => rfl) rfl
    ((accepts_encoded h₁ _).bind ((accepts_encoded h₂ _).bind (.pure _))) hqueue
  rw [kept_iff_of_ok hparse]
  constructor
  · rintro ⟨-, hcode, -⟩
    exact lt_of_toErrorCode_eq hcode
  · intro hlt
    have hcode := toErrorCode_of_lt hlt
    refine ⟨reencodes_of_fields rfl h fun b => ?_, congrArg some hcode, False.elim⟩
    rw [hcode]
    rfl

theorem faults_reasonPhrase {lenBytes reasonPhrase : Bytes}
    (h : encodeQuicInteger reasonPhrase.length = some lenBytes)
    (hlong : ¬ reasonPhrase.length ≤ kMaxReasonPhraseLength) (s : Bytes) :
    Faults decodeReasonPhrase (lenBytes ++ s) (.exception "Bad reason phrase length") := by
  refine (accepts_encoded h _).bind_faults (Faults.bind (Faults.guard _ ?_ s) _)
  rw [decide_eq_true (Nat.lt_of_not_le hlong)]
  rfl

theorem one_lt_length_encode {v : Nat} {e : Bytes} (h : encodeQuicInteger v = some e)
    (hv : ¬ v ≤ kOneByteLimit) : e.length ≠ 1 := by
  have hsize := getQuicIntegerSize_encode h
  rw [getQuicIntegerSize, if_neg hv] at hsize
  intro hone
  rw [hone] at hsize
  split at hsize
  · cases hsize
  split at hsize
  · cases hsize
  split at hsize
  · cases hsize
  · cases hsize

theorem connectionClose_kept_iff {errorCode frameType : Nat} {reasonPhrase : Bytes}
    (h : Encoded (WireFrame.connectionClose errorCode frameType reasonPhrase).fields bytes)
    (hqueue : queue.bytes = bytes ++ rest) :
    Kept p (.connectionClose errorCode frameType reasonPhrase) bytes queue ↔
      (frameType ≤ kOneByteLimit → reasonPhrase.length ≤ kMaxReasonPhraseLength →
        errorCode < 2 ^ 16) := by
  obtain ⟨type, _, ht, t₁, rfl⟩ := h.int_inv
  obtain ⟨e₁, _, h₁, t₂, rfl⟩ := t₁.int_inv
  obtain ⟨e₂, _, h₂, t₃, rfl⟩ := t₂.int_inv
  obtain ⟨e₃, _, h₃, t₄, rfl⟩ := t₃.int_inv
  obtain rfl := t₄.bytes_inv
  rw [List.append_assoc] at hqueue
  have hrejected : ∀ fault, Faults decodeConnectionCloseFrame
      (e₁ ++ (e₂ ++ (e₃ ++ (reasonPhrase ++ [])))) fault →
      Kept p (.connectionClose errorCode frameType reasonPhrase)
        (type ++ (e₁ ++ (e₂ ++ (e₃ ++ (reasonPhrase ++ []))))) queue := by
    intro fault hfaults
    obtain ⟨stop, hstop⟩ := parseFrame_of_faults (p := p) (encodeQuicInteger_varint ht)
      (show FrameType.ofCode 0x1c = some .connectionClose from rfl) (fun _ => rfl) hfaults hqueue
    exact kept_of_error hstop
  by_cases hbyte : frameType ≤ kOneByteLimit
  · have hone : (((frameType, e₂.length) : Nat × Nat).2 != 1) = false := by
      rw [length_encode_byte h₂ hbyte]
      rfl
    by_cases hreason : reasonPhrase.length ≤ kMaxReasonPhraseLength
    · have hread : Accepts decodeConnectionCloseFrame
          (e₁ ++ (e₂ ++ ([] ++ ((e₃ ++ ([] ++ reasonPhrase)) ++ []))))
          (.connectionClose (.transport (toErrorCode errorCode)) reasonPhrase (some frameType)) :=
        (accepts_encoded h₁ _).bind ((accepts_sizedInteger h₂ _).bind ((accepts_throwIf _ hone).bind
          ((accepts_reasonPhrase h₃ hreason).bind (.pure _))))
      simp only [List.nil_append, List.append_nil] at hread hqueue h ⊢
      obtain ⟨queue', hparse, -⟩ := parseFrame_of_accepts (p := p) (encodeQuicInteger_varint ht)
        (show FrameType.ofCode 0x1c = some .connectionClose from rfl) (fun _ => rfl) rfl hread
        hqueue
      rw [kept_iff_of_ok hparse]
      constructor
      · rintro ⟨-, hcode, -⟩ - -
        exact lt_of_toErrorCode_eq hcode
      · intro hlt
        have hcode := toErrorCode_of_lt (hlt hbyte hreason)
        refine ⟨reencodes_of_fields rfl h fun b => ?_, congrArg some hcode, False.elim⟩
        rw [hcode]
        rfl
    · have hfaults : Faults decodeConnectionCloseFrame (e₁ ++ (e₂ ++ (e₃ ++ (reasonPhrase ++ [])))) _ :=
        (accepts_encoded h₁ _).bind_faults ((accepts_sizedInteger h₂ _).bind_faults
          ((accepts_throwIf _ hone).bind_faults ((faults_reasonPhrase h₃ hreason _).bind _)))
      exact iff_of_true (hrejected _ hfaults) fun _ h => absurd h hreason
  · refine iff_of_true (hrejected (.exception "Bad connection close triggering frame type value") ?_)
      fun h => absurd h hbyte
    have hnot : (((frameType, e₂.length) : Nat × Nat).2 != 1) = true :=
      bne_iff_ne.mpr (one_lt_length_encode h₂ hbyte)
    refine (accepts_encoded h₁ _).bind_faults ((accepts_sizedInteger h₂ _).bind_faults
      (Faults.bind (Faults.guard _ ?_ _) _))
    rw [hnot]
    rfl

theorem applicationClose_kept_iff {errorCode : Nat} {reasonPhrase : Bytes}
    (h : Encoded (WireFrame.applicationClose errorCode reasonPhrase).fields bytes)
    (hqueue : queue.bytes = bytes ++ rest) :
    Kept p (.applicationClose errorCode reasonPhrase) bytes queue ↔
      (reasonPhrase.length ≤ kMaxReasonPhraseLength → errorCode < 2 ^ 16) := by
  obtain ⟨type, _, ht, t₁, rfl⟩ := h.int_inv
  obtain ⟨e₁, _, h₁, t₂, rfl⟩ := t₁.int_inv
  obtain ⟨e₂, _, h₂, t₃, rfl⟩ := t₂.int_inv
  obtain rfl := t₃.bytes_inv
  rw [List.append_assoc] at hqueue
  by_cases hreason : reasonPhrase.length ≤ kMaxReasonPhraseLength
  · have hread : Accepts decodeApplicationClose (e₁ ++ ((e₂ ++ ([] ++ reasonPhrase)) ++ []))
        (.connectionClose (.application (toErrorCode errorCode)) reasonPhrase none) :=
      (accepts_encoded h₁ _).bind ((accepts_reasonPhrase h₂ hreason).bind (.pure _))
    simp only [List.nil_append, List.append_nil] at hread hqueue h ⊢
    obtain ⟨queue', hparse, -⟩ := parseFrame_of_accepts (p := p) (encodeQuicInteger_varint ht)
      (show FrameType.ofCode 0x1d = some .connectionCloseAppErr from rfl) (fun _ => rfl) rfl hread
      hqueue
    rw [kept_iff_of_ok hparse]
    constructor
    · rintro ⟨-, hcode, -⟩ -
      exact lt_of_toErrorCode_eq hcode
    · intro hlt
      have hcode := toErrorCode_of_lt (hlt hreason)
      refine ⟨reencodes_of_fields rfl h fun b => ?_, congrArg some hcode, False.elim⟩
      rw [hcode]
      rfl
  · have hfaults : Faults decodeApplicationClose (e₁ ++ (e₂ ++ (reasonPhrase ++ []))) _ :=
      (accepts_encoded h₁ _).bind_faults ((faults_reasonPhrase h₂ hreason _).bind _)
    obtain ⟨stop, hstop⟩ := parseFrame_of_faults (p := p) (encodeQuicInteger_varint ht)
      (show FrameType.ofCode 0x1d = some .connectionCloseAppErr from rfl) (fun _ => rfl) hfaults
      hqueue
    exact iff_of_true (kept_of_error hstop) fun h => absurd h hreason

/-- What is there of a blob is taken, however much was declared. -/
theorem cloneAtMost_run {declared : Nat} {blob : Bytes} (hle : blob.length ≤ declared)
    (hrest : blob.length < declared → rest = []) :
    (FrameReader.cloneAtMost declared).run (blob ++ rest) = .ok (blob, rest) := by
  change FrameReader.cloneAtMost declared (blob ++ rest) = _
  rw [FrameReader.cloneAtMost]
  rcases Nat.lt_or_eq_of_le hle with hlt | rfl
  · rw [hrest hlt, List.append_nil, List.take_of_length_le hle, List.drop_of_length_le hle]
  · rw [List.take_left, List.drop_left]

theorem parseFrame_knob {knobSpace id declared : Nat} {blob : Bytes}
    (h : Encoded (WireFrame.knob knobSpace id declared blob).fields bytes)
    (hle : blob.length ≤ declared) (hrest : blob.length < declared → rest = [])
    (hqueue : queue.bytes = bytes ++ rest) :
    ∃ queue', parseFrame p queue =
      .ok ⟨.simple (.knob ⟨knobSpace, id, blob⟩), queue', false⟩ := by
  obtain ⟨type, _, ht, t₁, rfl⟩ := h.int_inv
  obtain ⟨e₁, _, h₁, t₂, rfl⟩ := t₁.int_inv
  obtain ⟨e₂, _, h₂, t₃, rfl⟩ := t₂.int_inv
  obtain ⟨e₃, _, h₃, t₄, rfl⟩ := t₃.int_inv
  obtain rfl := t₄.bytes_inv
  simp only [List.append_nil, List.append_assoc] at hqueue
  obtain ⟨trimmed, hbytes, hparse⟩ := parseFrame_of_type p (encodeQuicInteger_varint ht) hqueue
  have hrun : decodeKnobFrame.run trimmed.bytes =
      .ok (.simple (.knob ⟨knobSpace, id, blob⟩), rest) := by
    rw [hbytes, decodeKnobFrame, StateT.run_bind, accepts_encoded h₁, except_ok_bind]
    dsimp only
    rw [StateT.run_bind, accepts_encoded h₂, except_ok_bind]
    dsimp only
    rw [StateT.run_bind, accepts_encoded h₃, except_ok_bind]
    dsimp only
    rw [StateT.run_bind, cloneAtMost_run hle hrest]
    rfl
  have hdecode : ∃ queue', overCursor trimmed decodeKnobFrame =
      .ok (.simple (.knob ⟨knobSpace, id, blob⟩), queue') := by
    unfold overCursor
    rw [hrun, except_ok_bind]
    dsimp only
    split
    · exact ⟨_, rfl⟩
    · rw [BufQueue.trimStart_of_le (Nat.sub_le _ _)]
      exact ⟨_, rfl⟩
  obtain ⟨queue', hdecode⟩ := hdecode
  refine ⟨queue', ?_⟩
  rw [hparse, parseTypedFrame_of_decode (show FrameType.ofCode 0x1550 = some .knob from rfl) hdecode]
  rfl

theorem knob_kept_iff {knobSpace id declared : Nat} {blob : Bytes}
    (h : Encoded (WireFrame.knob knobSpace id declared blob).fields bytes)
    (hle : blob.length ≤ declared) (hrest : blob.length < declared → rest = [])
    (hqueue : queue.bytes = bytes ++ rest) :
    Kept p (.knob knobSpace id declared blob) bytes queue ↔ blob.length = declared := by
  obtain ⟨queue', hparse⟩ := parseFrame_knob (p := p) h hle hrest hqueue
  rw [kept_iff_of_ok hparse]
  constructor
  · rintro ⟨-, -, hcomplete⟩
    exact Nat.le_antisymm hle (Nat.le_of_not_lt hcomplete)
  · intro hcomplete
    subst hcomplete
    refine ⟨reencodes_of_fields rfl h fun b => ?_, rfl, Nat.lt_irrefl _⟩
    have hbytes := IOBuf.bytes_wrapBuffer blob
    change b.writeFrameFields _ (knobFields knobSpace id (.wrapBuffer blob)) = _
    rw [knobFields, hbytes]
    rfl

end Read

/-- The same bytes come back exactly for the frames whose error code fits and of which nothing is
missing. -/
theorem wire_kept_iff (p : CodecParameters) (wire : WireFrame) (bytes rest : Bytes)
    (queue : BufQueue) (hfields : Encoded wire.fields bytes) (hends : wire.EndsBefore rest)
    (hqueue : queue.bytes = bytes ++ rest) : Kept p wire bytes queue ↔ wire.Fitting := by
  cases wire with
  | rstStream streamId errorCode offset => exact rstStream_kept_iff hfields hqueue
  | stopSending streamId errorCode => exact stopSending_kept_iff hfields hqueue
  | connectionClose errorCode frameType reasonPhrase => exact connectionClose_kept_iff hfields hqueue
  | applicationClose errorCode reasonPhrase => exact applicationClose_kept_iff hfields hqueue
  | knob knobSpace id declared blob => exact knob_kept_iff hfields hends.1 hends.2 hqueue

/-- RST_STREAM with error code 7, and a PING behind it. -/
theorem wire_kept_rstStream :
    Kept .default (.rstStream 4 7 10) [0x04, 0x04, 0x07, 0x0a]
        (.ofBuf (some (.wrapBuffer [0x04, 0x04, 0x07, 0x0a, 0x01]))) ∧
      (WireFrame.rstStream 4 7 10).Fitting := by
  have hfitting : (WireFrame.rstStream 4 7 10).Fitting := by
    change 7 < 2 ^ 16
    decide
  refine ⟨(wire_kept_iff .default (.rstStream 4 7 10) [0x04, 0x04, 0x07, 0x0a] [0x01] _ ?_ trivial
    rfl).mpr hfitting, hfitting⟩
  exact .int (e := [0x04]) rfl (.int (e := [0x04]) rfl (.int (e := [0x07]) rfl
    (.int (e := [0x0a]) rfl .nil)))

/-- RST_STREAM with error code 2 ^ 16, and a KNOB frame that declares five bytes and has one. -/
theorem wire_not_kept :
    ¬ Kept .default (.rstStream 4 (2 ^ 16) 10) [0x04, 0x04, 0x80, 0x01, 0x00, 0x00, 0x0a]
        (.ofBuf (some (.wrapBuffer [0x04, 0x04, 0x80, 0x01, 0x00, 0x00, 0x0a]))) ∧
      ¬ Kept .default (.knob 1 2 5 [0x09]) [0x55, 0x50, 0x01, 0x02, 0x05, 0x09]
        (.ofBuf (some (.wrapBuffer [0x55, 0x50, 0x01, 0x02, 0x05, 0x09]))) := by
  constructor
  · intro h
    have hparse : ∃ f, parseFrame .default (.ofBuf (some (.wrapBuffer
        [0x04, 0x04, 0x80, 0x01, 0x00, 0x00, 0x0a]))) = .ok f ∧ f.frame.errorCode = some 0 :=
      ⟨_, rfl, rfl⟩
    obtain ⟨f, hf, hcode⟩ := hparse
    have hsame := h.errorCode f hf
    rw [hcode] at hsame
    cases hsame
  · intro h
    have hparse : ∃ f, parseFrame .default (.ofBuf (some (.wrapBuffer
        [0x55, 0x50, 0x01, 0x02, 0x05, 0x09]))) = .ok f := ⟨_, rfl⟩
    obtain ⟨f, hf⟩ := hparse
    obtain ⟨stop, hstop⟩ := h.rejects (show 1 < 5 by decide)
    rw [hf] at hstop
    cases hstop

end MasqueQuic
