/-
The final size that a reset announces.

`sendRstSMHandler` clears the buffers of the stream and then works out how much of it has been
sent, from the offsets that are left. `sent` records the highest offset that has been sent, the
FIN not counted, and is read by nothing.
-/

import MasqueQuic.Quic.StreamSend

namespace MasqueQuic

/-- What happens on the stream before it is reset. The peer's limits are variable-length
integers. -/
inductive SendHalfEvent where
  | writeChain (data : Buf) (eof : Bool)
  | writeBufMeta (length : Nat) (eof : Bool)
  | setDSRSender (sender : Bool)
  | send (len : Nat)
  | sendBufMeta (len : Nat)
  | windowUpdate (maximumData : Fin (2 ^ 62))

structure WrittenStream where
  stream : SendStream
  sent : Nat

namespace WrittenStream

/-- A scheduler has made a frame, or none. -/
def onFrame (s : WrittenStream) : Option WriteStreamFrame → Except StreamFault WrittenStream
  | none => .ok s
  | some frame => do
      let stream ← s.stream.frameSent frame
      return ⟨stream, max s.sent (frame.offset + frame.len)⟩

def step (s : WrittenStream) : SendHalfEvent → Except StreamFault WrittenStream
  | .writeChain data eof => (⟨·, s.sent⟩) <$> s.stream.writeChain data eof
  | .writeBufMeta length eof => (⟨·, s.sent⟩) <$> s.stream.writeBufMetaAPI length eof
  | .setDSRSender sender => (⟨·, s.sent⟩) <$> s.stream.setDSRPacketizationRequestSender sender
  | .send len => s.onFrame (s.stream.newFrame len)
  | .sendBufMeta len => s.onFrame (s.stream.newBufMetaFrame len)
  | .windowUpdate maximumData => (⟨·, s.sent⟩) <$> s.stream.handleStreamWindowUpdate maximumData

def start (id : StreamId) (peerAdvertisedMaxOffset : Fin (2 ^ 62)) : WrittenStream :=
  ⟨.new id peerAdvertisedMaxOffset .open, 0⟩

end WrittenStream

/-! ### Offsets -/

/-- How far a stream has been sent, in terms of `currentWriteOffset`, the bytes in the write
buffer, the offset and the length of the BufMeta that is left, the highest offset sent and the
final size. -/
inductive Stage (current buffered offset length sent : Nat) (final : Option Nat) : Prop where
  /-- There is real data only. -/
  | real : offset = 0 → length = 0 → sent = current → (∀ f ∈ final, current + buffered = f) →
      Stage current buffered offset length sent final
  /-- The FIN has been sent with it. -/
  | realFin : offset = 0 → length = 0 → buffered = 0 → final = some sent → current = sent + 1 →
      Stage current buffered offset length sent final
  /-- There is BufMeta behind it, and none has been sent. -/
  | unsent : offset ≠ 0 → current + buffered = offset → sent = current →
      (∀ f ∈ final, offset + length = f) → Stage current buffered offset length sent final
  /-- Some of the BufMeta has been sent. -/
  | sending : current + buffered < offset → sent = offset → (∀ f ∈ final, offset + length = f) →
      Stage current buffered offset length sent final
  /-- All of it, and the FIN. -/
  | sentFin : current + buffered < offset → length = 0 → final = some sent → offset = sent + 1 →
      Stage current buffered offset length sent final

section Stage

variable {current buffered offset length sent : Nat} {final : Option Nat}

theorem Stage.write (h : Stage current buffered 0 length sent none) (more : Nat) (eof : Bool) :
    Stage current more 0 length sent (if eof then some (current + more) else none) := by
  cases h with
  | real _ hlength hsent _ =>
    refine .real rfl hlength hsent fun f hf => ?_
    cases eof with
    | false => cases hf
    | true => exact Option.some.inj hf
  | realFin _ _ _ hfinal _ => cases hfinal
  | unsent hoffset _ _ _ => exact absurd rfl hoffset
  | sending hlt _ _ => omega
  | sentFin hlt _ _ _ => omega

theorem Stage.writeBufMeta (h : Stage current buffered offset length sent none)
    (hreal : current + buffered ≠ 0) (more : Nat) (eof : Bool) :
    Stage current buffered (if offset = 0 then current + buffered else offset) (length + more) sent
      (if eof then some ((if offset = 0 then current + buffered else offset) + (length + more))
        else none) := by
  have hfinal : ∀ offset' : Nat, ∀ f ∈ (if eof then some (offset' + (length + more)) else none),
      offset' + (length + more) = f := by
    intro offset' f hf
    cases eof with
    | false => cases hf
    | true => exact Option.some.inj hf
  cases h with
  | real hoffset _ hsent _ =>
    rw [if_pos hoffset]
    exact .unsent hreal rfl hsent (hfinal _)
  | realFin _ _ _ hnone _ => cases hnone
  | unsent hoffset heq hsent _ =>
    rw [if_neg hoffset]
    exact .unsent hoffset heq hsent (hfinal _)
  | sending hlt hsent _ =>
    rw [if_neg (by omega)]
    exact .sending hlt hsent (hfinal _)
  | sentFin _ _ hnone _ => cases hnone

/-- As long as there is real data or a FIN to send, `current` counts no FIN. -/
theorem Stage.current_le (h : Stage current buffered offset length sent final)
    (hoffer : buffered ≠ 0 ∨ ∃ f ∈ final, current ≤ f) : current ≤ sent := by
  cases h with
  | real _ _ hsent _ => omega
  | realFin _ _ hempty hfinal hcurrent =>
    rcases hoffer with hbuffer | ⟨f, hf, hle⟩
    · exact absurd hempty hbuffer
    · rw [hfinal] at hf
      cases hf
      omega
  | unsent _ _ hsent _ => omega
  | sending hlt hsent _ => omega
  | sentFin hlt _ _ hoffset => omega

/-- New real data is sent, with the FIN if it is the end of the stream. -/
theorem Stage.send (h : Stage current buffered offset length sent final) {len : Nat} {fin : Bool}
    (hlen : len ≤ buffered) (hoffer : buffered ≠ 0 ∨ ∃ f ∈ final, current ≤ f)
    (hfin : fin = true ↔ final.isSome ∧ offset = 0 ∧ len = buffered) :
    Stage (current + len + (if fin then 1 else 0)) (buffered - len) offset length
      (max sent (current + len)) final := by
  have hle := h.current_le hoffer
  have hnoFin : offset ≠ 0 → (if fin = true then 1 else 0) = 0 := by
    intro hoffset
    rw [if_neg]
    rw [hfin]
    exact fun h => hoffset h.2.1
  cases h with
  | real hoffset hlength hsent hfinal =>
    by_cases hend : fin = true
    · obtain ⟨hsome, -, hall⟩ := hfin.mp hend
      obtain ⟨f, hf⟩ := Option.isSome_iff_exists.mp hsome
      have heq := hfinal f hf
      rw [if_pos hend]
      refine .realFin hoffset hlength (by omega) ?_ (by omega)
      rw [hf]
      exact congrArg some (by omega)
    · rw [if_neg hend]
      refine .real hoffset hlength (by omega) fun f hf => ?_
      have heq := hfinal f hf
      omega
  | realFin _ _ _ _ hcurrent => omega
  | unsent hoffset heq hsent hfinal =>
    rw [hnoFin hoffset]
    exact .unsent hoffset (by omega) (by omega) hfinal
  | sending hlt hsent hfinal =>
    rw [hnoFin (by omega)]
    exact .sending (by omega) (by omega) hfinal
  | sentFin hlt hlength hfinal hoffset =>
    rw [hnoFin (by omega), show max sent (current + len) = sent by omega]
    exact .sentFin (by omega) hlength hfinal hoffset

/-- BufMeta is sent. -/
theorem Stage.sendBufMeta (h : Stage current buffered offset length sent final) {len : Nat}
    {fin : Bool} (hoffset : offset ≠ 0) (hzero : len ≠ 0) (hlen : len ≤ length)
    (hfin : fin = true ↔ final.isSome ∧ len = length) :
    Stage current buffered (offset + len + (if fin then 1 else 0)) (length - len)
      (max sent (offset + len)) final := by
  have hmove : current + buffered ≤ offset → sent ≤ offset → (∀ f ∈ final, offset + length = f) →
      Stage current buffered (offset + len + (if fin then 1 else 0)) (length - len)
        (max sent (offset + len)) final := by
    intro hle hsent hfinal
    by_cases hend : fin = true
    · obtain ⟨hsome, hall⟩ := hfin.mp hend
      obtain ⟨f, hf⟩ := Option.isSome_iff_exists.mp hsome
      have heq := hfinal f hf
      rw [if_pos hend]
      refine .sentFin (by omega) (by omega) ?_ (by omega)
      rw [hf]
      exact congrArg some (by omega)
    · rw [if_neg hend]
      refine .sending (by omega) (by omega) fun f hf => ?_
      have heq := hfinal f hf
      omega
  cases h with
  | real hzero _ _ _ => exact absurd hzero hoffset
  | realFin hzero _ _ _ _ => exact absurd hzero hoffset
  | unsent _ heq hsent hfinal => exact hmove (by omega) (by omega) hfinal
  | sending hlt hsent hfinal => exact hmove (by omega) (by omega) hfinal
  | sentFin _ hlength _ _ => omega

end Stage

namespace SendStream

/-- The stream has BufMeta behind real data, and neither all of the real data nor any of the
BufMeta has been sent. -/
def UnsentBeforeBufMeta (s : SendStream) : Prop :=
  s.writeBufMeta.offset ≠ 0 ∧ s.writeBuffer.chainLength ≠ 0 ∧
    s.currentWriteOffset + s.writeBuffer.chainLength = s.writeBufMeta.offset

def Sent (s : SendStream) (sent : Nat) : Prop :=
  Stage s.currentWriteOffset s.writeBuffer.chainLength s.writeBufMeta.offset s.writeBufMeta.length
    sent s.finalWriteOffset

/-- The offset in the reset is what has been sent, unless real data is mistaken for BufMeta. -/
theorem pendingResetOffset_eq_iff {s : SendStream} {sent : Nat} (h : s.Sent sent)
    (hsent : sent < 2 ^ 62) (errorCode : Nat) :
    (s.resetQuicStream errorCode).pendingResetOffset = sent ↔ ¬ s.UnsentBeforeBufMeta := by
  have hempty : BufQueue.cleared.chainLength = 0 := rfl
  simp only [pendingResetOffset, resetQuicStream, UnsentBeforeBufMeta, hempty]
  have hfinal : ∀ f : Option Nat, (∀ x ∈ f, sent ≤ x) → sent ≤ f.getD (2 ^ 64 - 1) := by
    intro f hf
    cases f with
    | none =>
      rw [Option.getD_none]
      omega
    | some x => exact hf x rfl
  cases h with
  | real hoffset _ heq hlast =>
    have hle := hfinal s.finalWriteOffset fun f hf => by
      have := hlast f hf
      omega
    rw [if_neg (by omega)]
    omega
  | realFin hoffset _ _ hlast hcurrent =>
    rw [if_neg (by omega), hlast, Option.getD_some]
    omega
  | unsent hoffset heq hcurrent hlast =>
    have hle : s.writeBufMeta.offset ≤ s.finalWriteOffset.getD (2 ^ 64 - 1) ∨
        sent < s.finalWriteOffset.getD (2 ^ 64 - 1) := by
      cases hf : s.finalWriteOffset with
      | none =>
        rw [Option.getD_none]
        omega
      | some f =>
        have := hlast f hf
        rw [Option.getD_some]
        omega
    split <;> omega
  | sending hlt heq hlast =>
    have hle := hfinal s.finalWriteOffset fun f hf => by
      have := hlast f hf
      omega
    rw [if_pos (by omega)]
    omega
  | sentFin hlt _ hlast hoffset =>
    rw [if_pos (by omega), hlast, Option.getD_some]
    omega

end SendStream

/-! ### What the calls do to the offsets -/

/-- Any failure. -/
def AnyFault (_ : StreamFault) : Prop := True

theorem SendLike.handleNewStreamDataWritten_offsets (s : SendLike) (frameLen : Nat) (frameFin : Bool) :
    Ends AnyFault (s.handleNewStreamDataWritten frameLen frameFin) (fun t =>
      t.currentWriteOffset = s.currentWriteOffset + frameLen + (if frameFin then 1 else 0) ∧
      t.writeBuffer.chainLength = s.writeBuffer.chainLength - frameLen) := by
  have hlength : (s.writeBuffer.splitAtMost frameLen).2.chainLength =
      s.writeBuffer.chainLength - frameLen := by
    rw [← BufQueue.length_bytes, (s.writeBuffer.splitAtMost_bytes frameLen).2, List.length_drop,
      BufQueue.length_bytes]
  unfold SendLike.handleNewStreamDataWritten SendLike.emplace
  dsimp only
  split
  · exact .error trivial
  · exact .ok ⟨rfl, hlength⟩

namespace SendStream

variable {s : SendStream}

theorem updateWritableStreams_eq (s : SendStream) :
    Ends AnyFault s.updateWritableStreams (· = s) := by
  unfold updateWritableStreams
  cases s.streamWriteError.isSome with
  | true => exact .ok rfl
  | false =>
    refine Ends.bind (P := fun _ => True) (.of_forall (fun _ => trivial) fun _ => trivial) fun _ _ => ?_
    refine Ends.bind (P := fun _ => True) (.of_forall (fun _ => trivial) fun _ => trivial) fun _ _ => ?_
    exact .ok rfl

/-- The frames that are made of new real data. -/
theorem newFrame_eq_some {len : Nat} {frame : WriteStreamFrame} (hframe : s.newFrame len = some frame) :
    len ≤ s.writeBuffer.chainLength ∧ len ≤ s.peerAdvertisedMaxOffset - s.nextOffsetToWrite ∧
    (s.writeBuffer.chainLength ≠ 0 ∨ ∃ f ∈ s.finalWriteOffset, s.currentWriteOffset ≤ f) ∧
    (frame.fin = true ↔ s.finalWriteOffset.isSome ∧ s.writeBufMeta.offset = 0 ∧
      len = s.writeBuffer.chainLength) ∧
    frame = ⟨s.id, s.currentWriteOffset, len, frame.fin, false, 0⟩ := by
  unfold newFrame at hframe
  dsimp only at hframe
  split at hframe
  · cases hframe
  · rename_i hoffer
    push Not at hoffer
    obtain ⟨hwritable, hlen, hlimit, -⟩ := hoffer
    cases hframe
    refine ⟨hlen, hlimit, ?_, ?_, rfl⟩
    · by_cases hempty : s.writeBuffer.chainLength = 0
      · right
        have hbuffer : s.writeBuffer.empty = true := beq_iff_eq.mpr hempty
        rw [hasWritableData, hbuffer] at hwritable
        cases hfinal : s.finalWriteOffset with
        | none =>
          rw [hfinal] at hwritable
          cases hwritable
        | some f =>
          rw [hfinal] at hwritable
          simp at hwritable
          exact ⟨f, rfl, hwritable.2⟩
      · exact .inl hempty
    · simp only [Bool.and_eq_true, beq_iff_eq, and_assoc]

theorem frameSent_new (fin : Bool) (len : Nat) :
    Ends AnyFault (s.frameSent ⟨s.id, s.currentWriteOffset, len, fin, false, 0⟩) (fun t =>
      ∃ like, t = { s with toSendLike := like } ∧
        like.currentWriteOffset = s.currentWriteOffset + len + (if fin then 1 else 0) ∧
        like.writeBuffer.chainLength = s.writeBuffer.chainLength - len) := by
  unfold frameSent SendLike.handleStreamWritten
  simp only [Bool.false_eq_true, if_false, if_true]
  refine Ends.bind (P := fun r => ∃ like, r.1 = { s with toSendLike := like } ∧
    like.currentWriteOffset = s.currentWriteOffset + len + (if fin then 1 else 0) ∧
    like.writeBuffer.chainLength = s.writeBuffer.chainLength - len) ?_ ?_
  · refine Ends.bind (P := fun r => r.1.currentWriteOffset =
      s.currentWriteOffset + len + (if fin then 1 else 0) ∧
      r.1.writeBuffer.chainLength = s.writeBuffer.chainLength - len) ?_ ?_
    · refine Ends.bind (s.toSendLike.handleNewStreamDataWritten_offsets len fin) ?_
      intro like hlike
      exact .ok hlike
    · intro r hr
      exact .ok ⟨r.1, rfl, hr⟩
  · rintro ⟨t, new⟩ ⟨like, rfl, hlike⟩
    exact (updateWritableStreams_eq _).imp fun u hu => ⟨like, hu, hlike⟩

/-- The frames that are made of new BufMeta. -/
theorem newBufMetaFrame_eq_some {len : Nat} {frame : WriteStreamFrame}
    (hframe : s.newBufMetaFrame len = some frame) :
    s.writeBufMeta.offset ≠ 0 ∧ len ≠ 0 ∧ len ≤ s.writeBufMeta.length ∧
    s.writeBufMeta.offset + len ≤ s.peerAdvertisedMaxOffset ∧
    (frame.fin = true ↔ s.finalWriteOffset.isSome ∧ len = s.writeBufMeta.length) ∧
    frame = ⟨s.id, s.writeBufMeta.offset, len, frame.fin, true, 0⟩ := by
  unfold newBufMetaFrame at hframe
  dsimp only at hframe
  split at hframe
  · cases hframe
  · rename_i hoffer
    push Not at hoffer
    obtain ⟨-, hwritable, hzero, hlen, hlimit⟩ := hoffer
    cases hframe
    have hoffset : s.writeBufMeta.offset ≠ 0 := by
      intro hoffset
      rw [hasWritableBufMeta, if_pos hoffset] at hwritable
      cases hwritable
    have hsome : s.writeBufMeta.offset + len ≤ s.peerAdvertisedMaxOffset := by omega
    refine ⟨hoffset, hzero, hlen, hsome, ?_, rfl⟩
    simp only [Bool.and_eq_true, beq_iff_eq]

theorem frameSent_newBufMeta (hoffset : s.writeBufMeta.offset ≠ 0) (fin : Bool) (len : Nat) :
    Ends AnyFault (s.frameSent ⟨s.id, s.writeBufMeta.offset, len, fin, true, 0⟩) (fun t =>
      ∃ sent, t = { s with
        writeBufMeta := ⟨s.writeBufMeta.length - len,
          s.writeBufMeta.offset + len + (if fin then 1 else 0), s.writeBufMeta.eof⟩
        retransmissionBufMetas := sent }) := by
  unfold frameSent handleStreamBufMetaWritten
  rw [if_pos rfl, if_pos ⟨Nat.pos_of_ne_zero hoffset, rfl⟩]
  refine Ends.bind (P := fun r => ∃ sent, r.1 = { s with
    writeBufMeta := ⟨s.writeBufMeta.length - len,
      s.writeBufMeta.offset + len + (if fin then 1 else 0), s.writeBufMeta.eof⟩
    retransmissionBufMetas := sent }) ?_ ?_
  · refine Ends.bind (P := fun t => ∃ sent, t = { s with
      writeBufMeta := ⟨s.writeBufMeta.length - len,
        s.writeBufMeta.offset + len + (if fin then 1 else 0), s.writeBufMeta.eof⟩
      retransmissionBufMetas := sent }) ?_ ?_
    · unfold handleNewStreamBufMetaWritten emplaceBufMeta
      dsimp only
      split
      · exact .error trivial
      · split
        · exact .error trivial
        · exact .ok ⟨_, rfl⟩
    · intro t ht
      exact .ok ht
  · rintro ⟨t, new⟩ ⟨sent, rfl⟩
    exact (updateWritableStreams_eq _).imp fun u hu => ⟨sent, hu⟩

end SendStream

/-! ### Runs -/

namespace WrittenStream

structure Inv (s : WrittenStream) : Prop where
  isOpen : s.stream.sendState = .open
  limit : s.sent ≤ s.stream.peerAdvertisedMaxOffset
  varint : s.stream.peerAdvertisedMaxOffset < 2 ^ 62
  stage : s.stream.Sent s.sent

variable {s : WrittenStream}

theorem final_eq_none_of_writable {s : SendStream} (hwritable : s.writable = true) :
    s.finalWriteOffset = none := by
  rw [SendStream.writable, Bool.and_eq_true] at hwritable
  exact Option.isNone_iff_eq_none.mp hwritable.2

theorem Inv.writeChain (hs : s.Inv) (data : Buf) (eof : Bool) :
    Ends AnyFault (s.stream.writeChain data eof) (fun t => (⟨t, s.sent⟩ : WrittenStream).Inv) := by
  unfold SendStream.writeChain SendStream.writeDataToQuicStream
  split
  · rename_i hwritable
    have hfinal := final_eq_none_of_writable hwritable
    split
    · exact .error trivial
    · rename_i hmeta
      have hmeta : s.stream.writeBufMeta.offset = 0 := not_not.mp hmeta
      have hstage := hs.stage
      rw [SendStream.Sent, hfinal, hmeta] at hstage
      split
      · exact .error trivial
      · refine (SendStream.updateWritableStreams_eq _).imp fun t ht => ?_
        subst ht
        have hwrite := hstage.write (s.stream.writeBuffer.append data).chainLength eof
        cases eof with
        | false =>
          refine ⟨hs.isOpen, hs.limit, hs.varint, ?_⟩
          rw [SendStream.Sent]
          simpa [hfinal, hmeta] using hwrite
        | true =>
          refine ⟨hs.isOpen, hs.limit, hs.varint, ?_⟩
          rw [SendStream.Sent]
          simpa [hmeta] using hwrite
  · exact .ok hs

theorem Inv.writeBufMeta (hs : s.Inv) (length : Nat) (eof : Bool) :
    Ends AnyFault (s.stream.writeBufMetaAPI length eof)
      (fun t => (⟨t, s.sent⟩ : WrittenStream).Inv) := by
  unfold SendStream.writeBufMetaAPI SendStream.writeBufMetaToQuicStream
  split
  · exact .ok hs
  · rename_i hcall
    simp only [Bool.or_eq_true, Bool.not_eq_true', not_or, Bool.not_eq_false] at hcall
    have hfinal := final_eq_none_of_writable hcall.1.1
    have hstage := hs.stage
    rw [SendStream.Sent, hfinal] at hstage
    dsimp only
    split
    · exact .error trivial
    · rename_i hreal
      split
      · exact .error trivial
      · refine (SendStream.updateWritableStreams_eq _).imp fun t ht => ?_
        subst ht
        refine ⟨hs.isOpen, hs.limit, hs.varint, ?_⟩
        rw [SendStream.Sent, hfinal]
        exact hstage.writeBufMeta hreal length eof

theorem Inv.setDSRSender (hs : s.Inv) (sender : Bool) :
    Ends AnyFault (s.stream.setDSRPacketizationRequestSender sender)
      (fun t => (⟨t, s.sent⟩ : WrittenStream).Inv) := by
  unfold SendStream.setDSRPacketizationRequestSender
  split_ifs
  · exact .ok hs
  · exact .error trivial
  · exact .ok ⟨hs.isOpen, hs.limit, hs.varint, hs.stage⟩
  · exact .ok hs
  · exact .ok ⟨hs.isOpen, hs.limit, hs.varint, hs.stage⟩

theorem Inv.windowUpdate (hs : s.Inv) (maximumData : Fin (2 ^ 62)) :
    Ends AnyFault (s.stream.handleStreamWindowUpdate maximumData)
      (fun t => (⟨t, s.sent⟩ : WrittenStream).Inv) := by
  unfold SendStream.handleStreamWindowUpdate
  split
  · rename_i hle
    refine (SendStream.updateWritableStreams_eq _).imp fun t ht => ?_
    subst ht
    exact ⟨hs.isOpen, hs.limit.trans hle, maximumData.isLt, hs.stage⟩
  · exact .ok hs

theorem Inv.send (hs : s.Inv) (len : Nat) : Ends AnyFault (s.onFrame (s.stream.newFrame len)) Inv := by
  cases hframe : s.stream.newFrame len with
  | none => exact .ok hs
  | some frame =>
    obtain ⟨hlen, hlimit, hoffer, hfin, heq⟩ := SendStream.newFrame_eq_some hframe
    rw [onFrame, heq]
    refine Ends.bind (SendStream.frameSent_new frame.fin len) fun t ht => ?_
    obtain ⟨like, rfl, hcurrent, hbuffer⟩ := ht
    have hstage := hs.stage.send hlen hoffer hfin
    have hle := hs.stage.current_le hoffer
    have hsent := hs.limit
    clear hoffer
    refine .ok ⟨hs.isOpen, ?_, hs.varint, ?_⟩
    · change max s.sent (s.stream.currentWriteOffset + len) ≤ s.stream.peerAdvertisedMaxOffset
      by_cases hzero : len = 0
      · omega
      · have hbuffer : s.stream.writeBuffer.empty = false := by
          rw [BufQueue.empty, beq_eq_false_iff_ne]
          exact fun h => hzero (by rw [BufQueue.chainLength, h] at hlen; omega)
        have hnext : s.stream.nextOffsetToWrite = s.stream.currentWriteOffset := by
          rw [SendStream.nextOffsetToWrite, hbuffer]
          simp
        omega
    · rw [SendStream.Sent]
      simpa only [hcurrent, hbuffer] using hstage

theorem Inv.sendBufMeta (hs : s.Inv) (len : Nat) :
    Ends AnyFault (s.onFrame (s.stream.newBufMetaFrame len)) Inv := by
  cases hframe : s.stream.newBufMetaFrame len with
  | none => exact .ok hs
  | some frame =>
    obtain ⟨hoffset, hzero, hlen, hlimit, hfin, heq⟩ := SendStream.newBufMetaFrame_eq_some hframe
    rw [onFrame, heq]
    refine Ends.bind (SendStream.frameSent_newBufMeta hoffset frame.fin len) fun t ht => ?_
    obtain ⟨sent, rfl⟩ := ht
    refine .ok ⟨hs.isOpen, Nat.max_le.mpr ⟨hs.limit, hlimit⟩, hs.varint, ?_⟩
    exact hs.stage.sendBufMeta hoffset hzero hlen hfin

theorem Inv.step (hs : s.Inv) (event : SendHalfEvent) : Ends AnyFault (s.step event) Inv := by
  cases event with
  | writeChain data eof => exact (hs.writeChain data eof).map
  | writeBufMeta length eof => exact (hs.writeBufMeta length eof).map
  | setDSRSender sender => exact (hs.setDSRSender sender).map
  | send len => exact hs.send len
  | sendBufMeta len => exact hs.sendBufMeta len
  | windowUpdate maximumData => exact (hs.windowUpdate maximumData).map

theorem start_inv (id : StreamId) (peerAdvertisedMaxOffset : Fin (2 ^ 62)) :
    (start id peerAdvertisedMaxOffset).Inv where
  isOpen := rfl
  limit := Nat.zero_le _
  varint := peerAdvertisedMaxOffset.isLt
  stage := .real rfl rfl rfl nofun

end WrittenStream

/-- After every run the reset carries what has been sent, and stays within the peer's limit,
exactly when the stream has no unsent real data in front of BufMeta none of which has been
sent. -/
theorem resetOffset_iff (id : StreamId) (peerAdvertisedMaxOffset : Fin (2 ^ 62))
    (events : List SendHalfEvent) (errorCode : Nat) :
    Ends AnyFault (events.foldlM WrittenStream.step (.start id peerAdvertisedMaxOffset)) (fun s =>
      ∃ stream frame, s.stream.sendRstSMHandler errorCode = .ok (stream, some frame) ∧
        ((frame.offset = s.sent ∧ frame.offset ≤ s.stream.peerAdvertisedMaxOffset) ↔
          ¬ s.stream.UnsentBeforeBufMeta)) := by
  have hrun : Ends AnyFault (events.foldlM WrittenStream.step (.start id peerAdvertisedMaxOffset))
      WrittenStream.Inv :=
    Ends.foldlM (I := fun s _ => WrittenStream.Inv s) (fun s event _ hs => hs.step event)
      (WrittenStream.start_inv id peerAdvertisedMaxOffset)
  refine hrun.imp fun s hs => ?_
  refine ⟨_, _, by rw [SendStream.sendRstSMHandler, hs.isOpen], ?_⟩
  rw [← SendStream.pendingResetOffset_eq_iff hs.stage (hs.limit.trans_lt hs.varint) errorCode]
  constructor
  · exact fun h => h.1
  · exact fun h => ⟨h, h.trans_le hs.limit⟩

/-- Ten bytes are written, DSR data is appended, and the stream is reset before anything has been
sent: the reset announces ten bytes. -/
theorem resetOffset_fails :
    ∃ s, [.writeChain (some (.wrapBuffer (List.replicate 10 0))) false, .setDSRSender true,
        .writeBufMeta 5 false].foldlM WrittenStream.step (.start 0 ⟨1000, by decide⟩) = .ok s ∧
      s.sent = 0 ∧ ∃ stream frame, s.stream.sendRstSMHandler 7 = .ok (stream, some frame) ∧
        frame.offset = 10 :=
  ⟨_, rfl, rfl, _, _, rfl, rfl⟩

end MasqueQuic
