/-
How far a stream has been transmitted, as `getLargestWriteOffsetTxed` reports it.

The offset of the BufMeta is set when BufMeta is queued, to where the real data will end. It counts
as transmitted from then on, so what is reported lies behind real data that still waits. A log of
the frames that were sent says what really has been transmitted; it is read by nothing. The
report is right exactly when no real data waits in front of BufMeta.
-/

import MasqueQuic.Quic.FinalSize

namespace MasqueQuic

def SendStream.getLargestWriteOffsetTxed (s : SendStream) : Option Nat :=
  if s.currentWriteOffset = 0 ∧ s.writeBufMeta.offset = 0 then none
  else some (max s.currentWriteOffset s.writeBufMeta.offset - 1)

/-- The frame that a scheduler makes at the event. -/
def SendHalfEvent.frame (s : SendStream) : SendHalfEvent → Option WriteStreamFrame
  | .writeChain _ _ => none
  | .writeBufMeta _ _ => none
  | .setDSRSender _ => none
  | .send len => s.newFrame len
  | .sendBufMeta len => s.newBufMetaFrame len
  | .windowUpdate _ => none

/-- The position behind the frame; the FIN counts. -/
def WriteStreamFrame.stop (f : WriteStreamFrame) : Nat := f.offset + f.len + if f.fin then 1 else 0

/-- A stream and the frames of it that were sent. -/
structure FrameLog where
  written : WrittenStream
  frames : List WriteStreamFrame

namespace FrameLog

def step (log : FrameLog) (event : SendHalfEvent) : Except StreamFault FrameLog := do
  let written ← log.written.step event
  return ⟨written, log.frames ++ (event.frame log.written.stream).toList⟩

def start (id : StreamId) (peerAdvertisedMaxOffset : Fin (2 ^ 62)) : FrameLog :=
  ⟨.start id peerAdvertisedMaxOffset, []⟩

/-- A frame that was sent has carried the byte at this offset, or the FIN. -/
def Txed (log : FrameLog) (x : Nat) : Prop := ∃ f ∈ log.frames, f.offset ≤ x ∧ x < f.stop

/-- `getLargestWriteOffsetTxed` reports nothing as long as nothing has been sent, and otherwise an
offset up to which everything has been sent. -/
structure TxedExact (log : FrameLog) : Prop where
  none_iff : log.written.stream.getLargestWriteOffsetTxed = none ↔ ∀ x, ¬ log.Txed x
  sent : ∀ n, log.written.stream.getLargestWriteOffsetTxed = some n → ∀ x ≤ n, log.Txed x

end FrameLog

/-- Real data waits in front of BufMeta. -/
def SendStream.RealDataAhead (s : SendStream) : Prop :=
  s.writeBufMeta.offset ≠ 0 ∧ s.writeBuffer.empty = false

/-! ### What the calls do to the offsets -/

namespace SendStream

variable (s : SendStream)

theorem writeChain_eq (data : Buf) (eof : Bool) :
    Ends AnyFault (s.writeChain data eof) (fun t => ∃ writeBuffer finalWriteOffset,
      t = { s with toSendLike := { s.toSendLike with writeBuffer }, finalWriteOffset } ∧
        (s.writeBufMeta.offset = 0 ∨ writeBuffer = s.writeBuffer)) := by
  unfold writeChain writeDataToQuicStream
  refine Ends.ite (fun _ => ?_) fun _ => .ok ⟨_, _, rfl, .inr rfl⟩
  refine Ends.ite (fun _ => .error trivial) fun hmeta => ?_
  refine Ends.ite (fun _ => .error trivial) fun _ => ?_
  refine (updateWritableStreams_eq _).imp fun t ht => ?_
  subst ht
  cases eof with
  | false => exact ⟨_, _, rfl, .inl (not_not.mp hmeta)⟩
  | true => exact ⟨_, _, rfl, .inl (not_not.mp hmeta)⟩

theorem writeBufMetaAPI_eq (length : Nat) (eof : Bool) :
    Ends AnyFault (s.writeBufMetaAPI length eof) (fun t => ∃ writeBufMeta finalWriteOffset,
      t = { s with writeBufMeta, finalWriteOffset } ∧
        (writeBufMeta.offset = s.writeBufMeta.offset ∨ s.writeBufMeta.offset = 0 ∧
          writeBufMeta.offset = s.currentWriteOffset + s.writeBuffer.chainLength)) := by
  unfold writeBufMetaAPI writeBufMetaToQuicStream
  refine Ends.ite (fun _ => .ok ⟨_, _, rfl, .inl rfl⟩) fun _ => ?_
  dsimp only
  refine Ends.ite (fun _ => .error trivial) fun _ => ?_
  refine Ends.ite (fun _ => .error trivial) fun _ => ?_
  refine (updateWritableStreams_eq _).imp fun t ht => ?_
  subst ht
  refine ⟨_, _, rfl, ?_⟩
  by_cases hfirst : s.writeBufMeta.offset = 0
  · exact .inr ⟨hfirst, if_pos hfirst⟩
  · exact .inl (if_neg hfirst)

theorem setDSRSender_eq (sender : Bool) :
    Ends AnyFault (s.setDSRPacketizationRequestSender sender)
      (fun t => ∃ dsrSender, t = { s with dsrSender }) := by
  unfold setDSRPacketizationRequestSender
  split_ifs
  · exact .ok ⟨_, rfl⟩
  · exact .error trivial
  · exact .ok ⟨_, rfl⟩
  · exact .ok ⟨_, rfl⟩
  · exact .ok ⟨_, rfl⟩

theorem handleStreamWindowUpdate_eq (maximumData : Nat) :
    Ends AnyFault (s.handleStreamWindowUpdate maximumData)
      (fun t => ∃ peerAdvertisedMaxOffset, t = { s with peerAdvertisedMaxOffset }) := by
  unfold handleStreamWindowUpdate
  refine Ends.ite (fun _ => ?_) fun _ => .ok ⟨_, rfl⟩
  refine (updateWritableStreams_eq _).imp fun t ht => ?_
  subst ht
  exact ⟨_, rfl⟩

end SendStream

/-- BufMeta begins where the real data ends. -/
theorem Stage.buffered_le {current buffered offset length sent : Nat} {final : Option Nat}
    (h : Stage current buffered offset length sent final) (hoffset : offset ≠ 0) :
    current + buffered ≤ offset := by
  cases h with
  | real hzero _ _ _ => exact absurd hzero hoffset
  | realFin hzero _ _ _ _ => exact absurd hzero hoffset
  | unsent _ heq _ _ => exact heq.le
  | sending hlt _ _ => exact hlt.le
  | sentFin hlt _ _ _ => exact hlt.le

/-! ### Runs -/

namespace FrameLog

/-- What has been sent is the real data up to `currentWriteOffset`, and the BufMeta up to its
offset. -/
structure Inv (log : FrameLog) : Prop where
  written : log.written.Inv
  real : ∀ x < log.written.stream.currentWriteOffset, log.Txed x
  bufMeta : ∀ x < log.written.stream.writeBufMeta.offset,
    log.written.stream.currentWriteOffset + log.written.stream.writeBuffer.chainLength ≤ x →
      log.Txed x
  only : ∀ f ∈ log.frames, f.stop ≤ log.written.stream.currentWriteOffset ∨
    log.written.stream.writeBufMeta.offset ≠ 0 ∧ f.stop ≤ log.written.stream.writeBufMeta.offset ∧
      log.written.stream.currentWriteOffset + log.written.stream.writeBuffer.chainLength ≤
        f.offset

variable {log : FrameLog}

theorem Inv.txed_iff (h : log.Inv) (hahead : ¬ log.written.stream.RealDataAhead) (x : Nat) :
    log.Txed x ↔
      x < max log.written.stream.currentWriteOffset log.written.stream.writeBufMeta.offset := by
  have hempty : log.written.stream.writeBufMeta.offset ≠ 0 →
      log.written.stream.writeBuffer.chainLength = 0 := by
    intro hoffset
    have hbuffer : log.written.stream.writeBuffer.empty = true := by
      rw [← Bool.not_eq_false]
      exact fun hbuffer => hahead ⟨hoffset, hbuffer⟩
    rw [BufQueue.empty, beq_iff_eq] at hbuffer
    exact hbuffer
  constructor
  · rintro ⟨f, hf, -, hlt⟩
    rcases h.only f hf with hreal | ⟨-, hmeta, -⟩
    · exact lt_max_of_lt_left (hlt.trans_le hreal)
    · exact lt_max_of_lt_right (hlt.trans_le hmeta)
  · intro hx
    by_cases hcurrent : x < log.written.stream.currentWriteOffset
    · exact h.real x hcurrent
    · have hmeta : x < log.written.stream.writeBufMeta.offset := by omega
      have hbuffered := hempty (by omega)
      exact h.bufMeta x hmeta (by omega)

/-- In such a state the report is right. -/
theorem Inv.txedExact (h : log.Inv) (hahead : ¬ log.written.stream.RealDataAhead) :
    log.TxedExact := by
  have htxed := h.txed_iff hahead
  constructor
  · rw [SendStream.getLargestWriteOffsetTxed, ite_eq_left_iff]
    constructor
    · intro hnothing x hx
      rw [htxed] at hx
      have hstarted : ¬ (log.written.stream.currentWriteOffset = 0 ∧
          log.written.stream.writeBufMeta.offset = 0) := by omega
      cases hnothing hstarted
    · intro hnothing hstarted
      have hzero := hnothing 0
      rw [htxed] at hzero
      omega
  · intro n hn x hx
    rw [htxed]
    rw [SendStream.getLargestWriteOffsetTxed] at hn
    split at hn
    · cases hn
    · cases hn
      omega

/-- Real data in front of BufMeta is reported although it has not been sent. -/
theorem Inv.not_txedExact (h : log.Inv) (hahead : log.written.stream.RealDataAhead) :
    ¬ log.TxedExact := by
  obtain ⟨hoffset, hbuffer⟩ := hahead
  have hbuffered : log.written.stream.writeBuffer.chainLength ≠ 0 := by
    intro hzero
    rw [BufQueue.empty, beq_eq_false_iff_ne] at hbuffer
    exact hbuffer hzero
  have hle := h.written.stage.buffered_le hoffset
  intro hexact
  have hreport : log.written.stream.getLargestWriteOffsetTxed = some (max
      log.written.stream.currentWriteOffset log.written.stream.writeBufMeta.offset - 1) :=
    if_neg fun hzero => hoffset hzero.2
  -- The first byte that waits.
  obtain ⟨f, hf, hfrom, hlt⟩ :=
    hexact.sent _ hreport log.written.stream.currentWriteOffset (by omega)
  rcases h.only f hf with hreal | ⟨-, -, hmeta⟩
  · omega
  · omega

/-- The calls that send nothing. -/
theorem Inv.unsent {stream : SendStream} (h : log.Inv)
    (hwritten : (⟨stream, log.written.sent⟩ : WrittenStream).Inv)
    (hcurrent : stream.currentWriteOffset = log.written.stream.currentWriteOffset)
    (hmeta : stream.writeBufMeta.offset = log.written.stream.writeBufMeta.offset ∨
      log.written.stream.writeBufMeta.offset = 0 ∧ stream.writeBufMeta.offset =
        stream.currentWriteOffset + stream.writeBuffer.chainLength)
    (hbuffer : log.written.stream.writeBufMeta.offset = 0 ∨
      stream.writeBuffer.chainLength = log.written.stream.writeBuffer.chainLength) :
    (⟨⟨stream, log.written.sent⟩, log.frames ++ []⟩ : FrameLog).Inv := by
  rw [List.append_nil]
  refine ⟨hwritten, ?_, ?_, ?_⟩
  · intro x hx
    dsimp only at hx
    rw [hcurrent] at hx
    exact h.real x hx
  · intro x hx hreal
    dsimp only at hx hreal
    exact h.bufMeta x (by omega) (by omega)
  · intro f hf
    dsimp only
    rcases h.only f hf with hstop | ⟨hoffset, hstop, hfrom⟩
    · exact .inl (by omega)
    · exact .inr (by omega)

theorem Inv.send (h : log.Inv) (len : Nat) :
    Ends AnyFault (log.step (.send len)) Inv := by
  refine Ends.bind (h.written.step (.send len)).with_eq ?_
  rintro written ⟨hstep, hwritten⟩
  refine .ok ?_
  dsimp only [SendHalfEvent.frame, WrittenStream.step] at hstep ⊢
  cases hframe : log.written.stream.newFrame len with
  | none =>
    rw [hframe] at hstep
    cases hstep
    exact h.unsent hwritten rfl (.inl rfl) (.inr rfl)
  | some frame =>
    obtain ⟨hlen, -, -, hfin, heq⟩ := SendStream.newFrame_eq_some hframe
    have hfin : frame.fin = true → log.written.stream.writeBufMeta.offset = 0 :=
      fun hend => (hfin.mp hend).2.1
    rw [hframe, heq, WrittenStream.onFrame, except_bind_eq_ok] at hstep
    obtain ⟨stream, hsent, hstep⟩ := hstep
    cases hstep
    obtain ⟨like, rfl, hcurrent, hbuffer⟩ := (SendStream.frameSent_new frame.fin len).of_ok hsent
    have hstop : frame.stop = like.currentWriteOffset := by
      rw [hcurrent, heq]
      rfl
    have hfrom : frame.offset = log.written.stream.currentWriteOffset := by rw [heq]
    have hmem : frame ∈ log.frames ++ (some frame).toList :=
      List.mem_append_right _ List.mem_cons_self
    refine ⟨hwritten, fun x hx => ?_, fun x hx hreal => ?_, fun f hf => ?_⟩
    · by_cases hbefore : x < log.written.stream.currentWriteOffset
      · obtain ⟨f, hf, hcarries⟩ := h.real x hbefore
        exact ⟨f, List.mem_append_left _ hf, hcarries⟩
      · exact ⟨frame, hmem, by omega, hx.trans_eq hstop.symm⟩
    · dsimp only at hx hreal
      obtain ⟨f, hf, hcarries⟩ := h.bufMeta x hx (by split at hcurrent <;> omega)
      exact ⟨f, List.mem_append_left _ hf, hcarries⟩
    · dsimp only
      rcases List.mem_append.mp hf with hf | hf
      · rcases h.only f hf with hreal | ⟨hoffset, hbelow, hmeta⟩
        · exact .inl (by omega)
        · have hnofin : ¬ frame.fin = true := fun hend => hoffset (hfin hend)
          rw [if_neg hnofin] at hcurrent
          exact .inr (by omega)
      · cases List.mem_singleton.mp hf
        exact .inl hstop.le

theorem Inv.sendBufMeta (h : log.Inv) (len : Nat) :
    Ends AnyFault (log.step (.sendBufMeta len)) Inv := by
  refine Ends.bind (h.written.step (.sendBufMeta len)).with_eq ?_
  rintro written ⟨hstep, hwritten⟩
  refine .ok ?_
  dsimp only [SendHalfEvent.frame, WrittenStream.step] at hstep ⊢
  cases hframe : log.written.stream.newBufMetaFrame len with
  | none =>
    rw [hframe] at hstep
    cases hstep
    exact h.unsent hwritten rfl (.inl rfl) (.inr rfl)
  | some frame =>
    obtain ⟨hoffset, -, -, -, -, heq⟩ := SendStream.newBufMetaFrame_eq_some hframe
    have hle := h.written.stage.buffered_le hoffset
    rw [hframe, heq, WrittenStream.onFrame, except_bind_eq_ok] at hstep
    obtain ⟨stream, hsent, hstep⟩ := hstep
    cases hstep
    obtain ⟨sent, rfl⟩ := (SendStream.frameSent_newBufMeta hoffset frame.fin len).of_ok hsent
    have hstop : frame.stop = log.written.stream.writeBufMeta.offset + len +
        if frame.fin then 1 else 0 := by
      rw [heq]
      rfl
    have hfrom : frame.offset = log.written.stream.writeBufMeta.offset := by rw [heq]
    have hmem : frame ∈ log.frames ++ (some frame).toList :=
      List.mem_append_right _ List.mem_cons_self
    refine ⟨hwritten, fun x hx => ?_, fun x hx hreal => ?_, fun f hf => ?_⟩
    · obtain ⟨f, hf, hcarries⟩ := h.real x hx
      exact ⟨f, List.mem_append_left _ hf, hcarries⟩
    · by_cases hbefore : x < log.written.stream.writeBufMeta.offset
      · obtain ⟨f, hf, hcarries⟩ := h.bufMeta x hbefore hreal
        exact ⟨f, List.mem_append_left _ hf, hcarries⟩
      · exact ⟨frame, hmem, by omega, hx.trans_eq hstop.symm⟩
    · dsimp only
      rcases List.mem_append.mp hf with hf | hf
      · rcases h.only f hf with hreal | ⟨hstarted, hbelow, hmeta⟩
        · exact .inl hreal
        · exact .inr (by omega)
      · cases List.mem_singleton.mp hf
        exact .inr (by omega)

/-- A call of the application, or the peer's limit. -/
theorem Inv.call {act : Except StreamFault SendStream} (h : log.Inv)
    (hwritten : Ends AnyFault act (fun t => (⟨t, log.written.sent⟩ : WrittenStream).Inv))
    (hoffsets : Ends AnyFault act (fun t =>
      t.currentWriteOffset = log.written.stream.currentWriteOffset ∧
      (t.writeBufMeta.offset = log.written.stream.writeBufMeta.offset ∨
        log.written.stream.writeBufMeta.offset = 0 ∧
          t.writeBufMeta.offset = t.currentWriteOffset + t.writeBuffer.chainLength) ∧
      (log.written.stream.writeBufMeta.offset = 0 ∨
        t.writeBuffer.chainLength = log.written.stream.writeBuffer.chainLength))) :
    Ends AnyFault (((⟨·, log.written.sent⟩ : SendStream → WrittenStream) <$> act) >>= fun written =>
      .ok (⟨written, log.frames ++ []⟩ : FrameLog)) Inv := by
  refine Ends.bind (P := fun w => (⟨w, log.frames ++ []⟩ : FrameLog).Inv) ?_ fun _ hw => .ok hw
  refine Ends.map ((hwritten.also hoffsets.forget).imp ?_)
  rintro t ⟨hinv, hcurrent, hmeta, hbuffer⟩
  exact h.unsent hinv hcurrent hmeta hbuffer

theorem Inv.step (h : log.Inv) (event : SendHalfEvent) : Ends AnyFault (log.step event) Inv := by
  cases event with
  | writeChain data eof =>
    refine h.call (h.written.writeChain data eof)
      ((log.written.stream.writeChain_eq data eof).imp ?_)
    rintro _ ⟨writeBuffer, finalWriteOffset, rfl, hbuffer⟩
    exact ⟨rfl, .inl rfl, hbuffer.imp_right (congrArg BufQueue.chainLength)⟩
  | writeBufMeta length eof =>
    refine h.call (h.written.writeBufMeta length eof)
      ((log.written.stream.writeBufMetaAPI_eq length eof).imp ?_)
    rintro _ ⟨writeBufMeta, finalWriteOffset, rfl, hmeta⟩
    exact ⟨rfl, hmeta, .inr rfl⟩
  | setDSRSender sender =>
    refine h.call (h.written.setDSRSender sender)
      ((log.written.stream.setDSRSender_eq sender).imp ?_)
    rintro _ ⟨dsrSender, rfl⟩
    exact ⟨rfl, .inl rfl, .inr rfl⟩
  | send len => exact h.send len
  | sendBufMeta len => exact h.sendBufMeta len
  | windowUpdate maximumData =>
    refine h.call (h.written.windowUpdate maximumData)
      ((log.written.stream.handleStreamWindowUpdate_eq maximumData).imp ?_)
    rintro _ ⟨peerAdvertisedMaxOffset, rfl⟩
    exact ⟨rfl, .inl rfl, .inr rfl⟩

theorem start_inv (id : StreamId) (peerAdvertisedMaxOffset : Fin (2 ^ 62)) :
    (start id peerAdvertisedMaxOffset).Inv where
  written := WrittenStream.start_inv id peerAdvertisedMaxOffset
  real x hx := absurd hx (Nat.not_lt_zero x)
  bufMeta x hx _ := absurd hx (Nat.not_lt_zero x)
  only _ hf := absurd hf List.not_mem_nil

end FrameLog

/-- After every run the largest offset that is reported as transmitted is right exactly when no
real data waits in front of BufMeta. -/
theorem largestWriteOffsetTxed_iff (id : StreamId) (peerAdvertisedMaxOffset : Fin (2 ^ 62))
    (events : List SendHalfEvent) :
    Ends AnyFault (events.foldlM FrameLog.step (.start id peerAdvertisedMaxOffset)) (fun log =>
      log.TxedExact ↔ ¬ log.written.stream.RealDataAhead) := by
  have hrun : Ends AnyFault (events.foldlM FrameLog.step (.start id peerAdvertisedMaxOffset))
      FrameLog.Inv :=
    Ends.foldlM (I := fun log _ => FrameLog.Inv log) (fun log event _ h => h.step event)
      (FrameLog.start_inv id peerAdvertisedMaxOffset)
  refine hrun.imp fun log h => ?_
  constructor
  · intro hexact hahead
    exact h.not_txedExact hahead hexact
  · intro hahead
    exact h.txedExact hahead

/-- Ten bytes are written and BufMeta is queued behind them: nothing has been sent, and offset 9 is
reported as transmitted. -/
theorem largestWriteOffsetTxed_unsent :
    ∃ log, [.writeChain (some (.wrapBuffer (List.replicate 10 0))) false, .setDSRSender true,
        .writeBufMeta 5 false].foldlM FrameLog.step (.start 0 ⟨1000, by decide⟩) = .ok log ∧
      log.frames = [] ∧ log.written.stream.getLargestWriteOffsetTxed = some 9 ∧
      ¬ log.TxedExact := by
  refine ⟨_, rfl, rfl, rfl, fun hexact => ?_⟩
  obtain ⟨_, hf, -⟩ := hexact.sent 9 rfl 9 le_rfl
  cases hf

end MasqueQuic
