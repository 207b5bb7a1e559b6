/-
What is sent stays within the peer's limits, and the connection's sums are exact.

The sums of the connection are those of its streams: the bytes that were sent, over all streams
that were ever opened, and the bytes that wait, over those that exist. A packet is made within
what the connection's limit leaves, and its frames are charged one after the other; the frames
that are still to come keep their place in what is left.
-/

import MasqueQuic.Quic.SendTracking

namespace MasqueQuic

variable {f f' : SendFlowControl}

theorem Ends.liftStream {α : Type} {x : Except StreamFault α} {Q : α → Prop} (h : Ends AnyFault x Q) :
    Ends (fun _ => True) (MasqueQuic.liftStream x) Q := by
  cases x with
  | error e => trivial
  | ok a => exact h

theorem Ends.liftException {α : Type} {x : Except QuicException α} {Q : α → Prop}
    (h : Ends (fun _ => True) x Q) : Ends (fun _ => True) (MasqueQuic.liftException x) Q := by
  cases x with
  | error e => trivial
  | ok a => exact h

/-! ### A stream and the connection -/

namespace SendFlowControl

/-- A subtraction that does not wrap leaves everything as it was. -/
theorem subtract_of_le {minuend subtrahend : Nat} (hle : subtrahend ≤ minuend)
    (hlt : minuend < 2 ^ 64) : f.subtract minuend subtrahend = (minuend - subtrahend, f) := by
  have hwraps : decide (minuend < subtrahend) = false := decide_eq_false (Nat.not_lt.mpr hle)
  rw [subtract, sub64_of_le hle hlt, hwraps, Bool.or_false]

/-- The connection's limit is kept. -/
structure Sound (f : SendFlowControl) : Prop where
  varint : f.peerAdvertisedMaxOffset < 2 ^ 62
  within : f.sumCurWriteOffset ≤ f.peerAdvertisedMaxOffset
  bounded : f.sumCurStreamBufferLen < 2 ^ 64

theorem Sound.wire (h : f.Sound) : f.getSendConnFlowControlBytesWire =
    (f.peerAdvertisedMaxOffset - f.sumCurWriteOffset, f) := by
  have := h.varint
  exact subtract_of_le h.within (by omega)

theorem Sound.api (h : f.Sound) : f.getSendConnFlowControlBytesAPI.2 = f := by
  have := h.varint
  unfold getSendConnFlowControlBytesAPI
  rw [h.wire]
  dsimp only
  split
  · rfl
  · rename_i hle
    rw [subtract_of_le (Nat.le_of_not_lt hle) (by omega)]

theorem Sound.writeToStream (h : f.Sound) {length : Nat} (hlength : length < 2 ^ 64) :
    Ends (fun _ => True) (f.updateFlowControlOnWriteToStream length) (fun g => g.Sound ∧ g = { f with
      sumCurStreamBufferLen := f.sumCurStreamBufferLen + length }) := by
  unfold updateFlowControlOnWriteToStream incrementWithOverFlowCheck
  split
  · exact .error trivial
  · refine .ok ⟨{ h with bounded := ?_ }, rfl⟩
    dsimp only
    omega

/-- What is sent was buffered, and the connection's limit has room for it. -/
theorem Sound.writeToSocket (h : f.Sound) {length : Nat}
    (hroom : f.sumCurWriteOffset + length ≤ f.peerAdvertisedMaxOffset)
    (hlength : length ≤ f.sumCurStreamBufferLen) :
    ∃ g, f.updateFlowControlOnWriteToSocket length = .ok g ∧ g.Sound ∧ g = { f with
      sumCurWriteOffset := f.sumCurWriteOffset + length
      sumCurStreamBufferLen := f.sumCurStreamBufferLen - length } := by
  have hvarint := h.varint
  have hbounded := h.bounded
  refine ⟨{ f with
    sumCurWriteOffset := f.sumCurWriteOffset + length
    sumCurStreamBufferLen := f.sumCurStreamBufferLen - length }, ?_, ⟨hvarint, hroom, ?_⟩, rfl⟩
  · unfold updateFlowControlOnWriteToSocket incrementWithOverFlowCheck
    rw [if_neg (by omega), subtract_of_le hlength hbounded]
    rfl
  · dsimp only
    omega

end SendFlowControl

namespace SendStream

variable {s t : SendStream} {sent : Nat}

/-- What a call or a frame does to a stream and to the connection's sums when nothing is sent. -/
structure Keeps (s t : SendStream) (sent : Nat) (f f' : SendFlowControl) : Prop where
  id : t.id = s.id
  tracked : t.Tracked sent
  settled : Settled s t
  sound : f'.Sound
  limit : f'.peerAdvertisedMaxOffset = f.peerAdvertisedMaxOffset
  written : f'.sumCurWriteOffset = f.sumCurWriteOffset
  buffered : f'.sumCurStreamBufferLen + s.dataInBuffer = f.sumCurStreamBufferLen + t.dataInBuffer
  exact : f'.wrapped = f.wrapped

theorem Keeps.of_tracked (hid : t.id = s.id) (ht : t.Tracked sent)
    (hdata : t.dataInBuffer = s.dataInBuffer) (hsettled : Settled s t) (hf : f.Sound) :
    Keeps s t sent f f :=
  ⟨hid, ht, hsettled, hf, rfl, rfl, by rw [hdata], rfl⟩

theorem Unmoved.dataInBuffer (h : Unmoved s t) : t.dataInBuffer = s.dataInBuffer := by
  rw [SendStream.dataInBuffer, h.buffer, h.bufMeta, SendStream.dataInBuffer]

theorem Settled.of_eq (h : t.sendState = s.sendState) : Settled s t := fun _ => h

theorem Keeps.refl (h : s.Tracked sent) (hf : f.Sound) : Keeps s s sent f f :=
  .of_tracked rfl h rfl (.of_eq rfl) hf

/-- A change of the stream alone. -/
theorem Keeps.alone {x : Except StreamFault SendStream}
    (h : Ends AnyFault x (fun t => t.id = s.id ∧ t.Tracked sent ∧
      t.dataInBuffer = s.dataInBuffer ∧ Settled s t))
    (hf : f.Sound) :
    Ends (fun _ => True) (do
      let t ← MasqueQuic.liftStream x
      return (t, f)) (fun r => Keeps s r.1 sent f r.2) := by
  refine Ends.bind h.liftStream ?_
  rintro t ⟨hid, ht, hdata, hsettled⟩
  exact .ok (.of_tracked hid ht hdata hsettled hf)

theorem Tracked.wire (h : s.Tracked sent)
    (hle : s.nextOffsetToWrite ≤ s.peerAdvertisedMaxOffset) (f : SendFlowControl) :
    s.getSendStreamFlowControlBytesWire f =
      (s.peerAdvertisedMaxOffset - s.nextOffsetToWrite, f) := by
  have := h.varint
  exact SendFlowControl.subtract_of_le hle (by omega)

theorem Tracked.next_le_of_writable (h : s.Tracked sent) (hwritable : s.writable = true) :
    s.nextOffsetToWrite ≤ s.peerAdvertisedMaxOffset :=
  h.next_le (hasSentFIN_of_writable hwritable) (h.isOpen (open_of_writable hwritable))

theorem Keeps.writeChainTo (h : s.Tracked sent) (hf : f.Sound) (data : SizedBuf) (eof : Bool) :
    Ends (fun _ => True) (s.writeChainTo data eof f) (fun r => Keeps s r.1 sent f r.2) := by
  unfold SendStream.writeChainTo
  refine Ends.ite (fun hwritable => ?_) fun _ => .ok (.refl h hf)
  have hblocked : s.maybeWriteBlockAfterAPIWrite f = f := by
    rw [maybeWriteBlockAfterAPIWrite, h.wire (h.next_le_of_writable hwritable)]
  simp only [hblocked, ite_self]
  refine Ends.bind (h.writeDataToQuicStream hwritable data eof).liftStream ?_
  rintro t ⟨ht, hdata, hstate, hid⟩
  refine Ends.bind (hf.writeToStream data.2).liftException ?_
  rintro _ ⟨hg, rfl⟩
  refine .ok ⟨hid, ht, .of_eq hstate, hg, rfl, rfl, ?_, rfl⟩
  dsimp only
  omega

theorem Keeps.writeBufMetaTo (h : s.Tracked sent) (hf : f.Sound) (length : Fin (2 ^ 64)) (eof : Bool) :
    Ends (fun _ => True) (s.writeBufMetaTo length eof f) (fun r => Keeps s r.1 sent f r.2) := by
  unfold SendStream.writeBufMetaTo
  refine Ends.ite (fun _ => .ok (.refl h hf)) fun hcall => ?_
  simp only [Bool.or_eq_true, Bool.not_eq_true', not_or, Bool.not_eq_false] at hcall
  have hwritable := hcall.1.1
  have hblocked : s.maybeWriteBlockAfterAPIWrite f = f := by
    rw [maybeWriteBlockAfterAPIWrite, h.wire (h.next_le_of_writable hwritable)]
  simp only [hblocked, ite_self]
  refine Ends.bind (h.writeBufMetaToQuicStream hwritable length eof).liftStream ?_
  rintro t ⟨ht, hdata, hstate, hid⟩
  refine Ends.bind (hf.writeToStream length.2).liftException ?_
  rintro _ ⟨hg, rfl⟩
  refine .ok ⟨hid, ht, .of_eq hstate, hg, rfl, rfl, ?_, rfl⟩
  dsimp only
  omega

theorem Keeps.reset (h : s.Tracked sent) (hf : f.Sound) (errorCode : Nat) :
    Ends (fun _ => True) (s.reset errorCode f) (fun r => Keeps s r.1 sent f r.2) := by
  unfold SendStream.reset
  by_cases hopen : s.sendState = .open
  · rw [if_pos hopen]
    refine Ends.bind (P := fun g => g = { f with
      sumCurStreamBufferLen := f.sumCurStreamBufferLen - s.dataInBuffer } ∧
      s.dataInBuffer ≤ f.sumCurStreamBufferLen) ?_ ?_
    · refine Ends.liftException ?_
      unfold updateFlowControlOnResetStream decrementWithOverFlowCheck
      split
      · exact .error trivial
      · rename_i hle
        exact .ok ⟨rfl, Nat.le_of_not_lt hle⟩
    · rintro _ ⟨rfl, hle⟩
      refine Ends.bind (h.sendRstSMHandler errorCode).liftStream ?_
      rintro ⟨t, frame⟩ ⟨ht, hsettled, hdata, -, hid⟩
      rw [if_pos hopen] at hdata
      change t.dataInBuffer = 0 at hdata
      have hbounded := hf.bounded
      refine .ok ⟨hid, ht, hsettled, { hf with bounded := ?_ }, rfl, rfl, ?_, rfl⟩
      · dsimp only
        omega
      · dsimp only
        omega
  · rw [if_neg hopen]
    refine Ends.bind (P := (· = f)) (.ok rfl) ?_
    rintro _ rfl
    refine Ends.bind (h.sendRstSMHandler errorCode).liftStream ?_
    rintro ⟨t, frame⟩ ⟨ht, hsettled, hdata, -, hid⟩
    rw [if_neg hopen] at hdata
    exact .ok (.of_tracked hid ht hdata hsettled hf)

end SendStream

namespace ConnStream

variable {s t : ConnStream}

/-- The same, when something may be sent. -/
structure Keeps (s t : ConnStream) (f f' : SendFlowControl) : Prop where
  id : t.id = s.id
  tracked : t.toSendStream.Tracked t.sentOffset
  terminal : s.inTerminalStates = true → t.inTerminalStates = true
  sound : f'.Sound
  limit : f'.peerAdvertisedMaxOffset = f.peerAdvertisedMaxOffset
  written : f'.sumCurWriteOffset + s.bytesSent = f.sumCurWriteOffset + t.bytesSent
  buffered : f'.sumCurStreamBufferLen + s.dataInBuffer = f.sumCurStreamBufferLen + t.dataInBuffer
  exact : f'.wrapped = f.wrapped

theorem inTerminalStates_of_settled (h : SendStream.Settled s.toSendStream t.toSendStream)
    (hrecv : t.recvState = s.recvState) (hs : s.inTerminalStates = true) :
    t.inTerminalStates = true := by
  unfold inTerminalStates at *
  simp only [Bool.and_eq_true, Bool.or_eq_true, beq_iff_eq] at hs ⊢
  rw [h hs.1, hrecv]
  exact hs

theorem Keeps.onSendHalf
    {act : SendStream → SendFlowControl → Except SendFault (SendStream × SendFlowControl)}
    (h : Ends (fun _ => True) (act s.toSendStream f) (fun r =>
      SendStream.Keeps s.toSendStream r.1 s.sentOffset f r.2)) :
    Ends (fun _ => True) (s.onSendHalf f act) (fun r => Keeps s r.1 f r.2 ∧
      r.1.recvState = s.recvState) := by
  unfold ConnStream.onSendHalf
  refine Ends.bind h ?_
  rintro ⟨t, g⟩ ht
  refine .ok ⟨⟨ht.id, ht.tracked, ?_, ht.sound, ht.limit, ?_, ht.buffered, ht.exact⟩, rfl⟩
  · exact inTerminalStates_of_settled ht.settled rfl
  · rw [ht.written]

/-- A frame with new data is charged. -/
theorem Keeps.updateConnection_new {frame : WriteStreamFrame}
    (hs : s.streamWriteError = none) (hf : f.Sound)
    (hroom : f.sumCurWriteOffset + frame.len ≤ f.peerAdvertisedMaxOffset)
    (hbuffered : s.dataInBuffer ≤ f.sumCurStreamBufferLen)
    (h : Ends AnyFault (s.toSendStream.frameWritten frame) (fun r =>
      r.2 = true ∧ r.1.Tracked (max s.sentOffset (frame.offset + frame.len)) ∧
      r.1.dataInBuffer + frame.len = s.dataInBuffer ∧ r.1.sendState = s.sendState ∧
      r.1.streamWriteError = s.streamWriteError ∧ r.1.id = s.id)) :
    Ends (fun _ => True) (s.updateConnection frame f) (fun r =>
      Keeps s r.1 f r.2 ∧ r.2.sumCurWriteOffset = f.sumCurWriteOffset + frame.len) := by
  unfold ConnStream.updateConnection
  refine Ends.bind h.liftStream ?_
  rintro ⟨t, new⟩ ⟨rfl, ht, hdata, hstate, herror, hid⟩
  dsimp only at ht hdata hstate herror hid ⊢
  obtain ⟨g, hcharge, hg, heq⟩ := hf.writeToSocket hroom (by omega)
  have hblocked : t.maybeWriteBlockAfterSocketWrite g = g := by
    unfold SendStream.maybeWriteBlockAfterSocketWrite
    rw [herror, hs]
    by_cases hfin : t.hasSentFIN = true
    · have hsome : t.finalWriteOffset.isSome = true := by
        obtain ⟨final, hfinal, -⟩ := (SendStream.hasSentFIN_iff t).mp hfin
        rw [hfinal, Option.isSome_some]
      rw [hsome, hfin]
      rfl
    · rw [Bool.not_eq_true] at hfin
      rw [hfin, Bool.and_false]
      exact congrArg Prod.snd (ht.wire (ht.next_le hfin (herror.trans hs)) g)
  rw [if_pos rfl, hcharge]
  refine Ends.bind (P := (· = g)) ?_ ?_
  · change Ends _ (.ok (t.maybeWriteBlockAfterSocketWrite g).maybeWriteDataBlockedAfterSocketWrite) _
    rw [hblocked, SendFlowControl.maybeWriteDataBlockedAfterSocketWrite, hg.wire]
    exact .ok rfl
  · rintro _ rfl
    refine Ends.bind (SendStream.updateWritableStreams_eq t).liftStream ?_
    rintro u rfl
    subst heq
    refine .ok ⟨⟨hid, ht, ?_, hg, rfl, ?_, ?_, rfl⟩, rfl⟩
    · exact inTerminalStates_of_settled (.of_eq hstate) rfl
    · change f.sumCurWriteOffset + frame.len + s.bytesSent = f.sumCurWriteOffset + (s.bytesSent + frame.len)
      omega
    · change f.sumCurStreamBufferLen - frame.len + s.dataInBuffer = f.sumCurStreamBufferLen + u.dataInBuffer
      omega

/-- A frame that repeats data costs nothing. -/
theorem Keeps.updateConnection_repeated {frame : WriteStreamFrame} (hf : f.Sound)
    (hsent : frame.offset + frame.len ≤ s.sentOffset)
    (h : Ends AnyFault (s.toSendStream.frameWritten frame) (fun r =>
      r.2 = false ∧ r.1.Tracked s.sentOffset ∧ SendStream.Unmoved s.toSendStream r.1 ∧
        r.1.sendState = s.sendState)) :
    Ends (fun _ => True) (s.updateConnection frame f) (fun r =>
      Keeps s r.1 f r.2 ∧ r.2.sumCurWriteOffset = f.sumCurWriteOffset ∧
        SendStream.Unmoved s.toSendStream r.1.toSendStream ∧ r.1.sentOffset = s.sentOffset) := by
  unfold ConnStream.updateConnection
  refine Ends.bind h.liftStream ?_
  rintro ⟨t, new⟩ ⟨rfl, ht, hsame, hstate⟩
  dsimp only at ht hsame hstate ⊢
  refine Ends.bind (P := (· = f)) (.ok rfl) ?_
  rintro _ rfl
  refine Ends.bind (SendStream.updateWritableStreams_eq t).liftStream ?_
  rintro u rfl
  have hmax : max s.sentOffset (frame.offset + frame.len) = s.sentOffset := Nat.max_eq_left hsent
  refine .ok ⟨⟨hsame.id, ?_, ?_, hf, rfl, rfl, ?_, rfl⟩, rfl, hsame, hmax⟩
  · dsimp only
    rw [hmax]
    exact ht
  · exact inTerminalStates_of_settled (.of_eq hstate) rfl
  · change _ = _ + u.dataInBuffer
    rw [hsame.dataInBuffer]

end ConnStream

/-! ### The connection -/

/-- A sum over streams, when one of them changes. -/
theorem sum_update {α : Type} (S : Finset StreamId) (stream : StreamId → α) (g : α → Nat)
    {id : StreamId} (hid : id ∈ S) (t : α) :
    ∑ x ∈ S, g (Function.update stream id t x) + g (stream id) = ∑ x ∈ S, g (stream x) + g t := by
  have hrest : ∑ x ∈ S.erase id, g (Function.update stream id t x) =
      ∑ x ∈ S.erase id, g (stream x) := by
    refine Finset.sum_congr rfl fun x hx => ?_
    rw [Function.update_of_ne (Finset.ne_of_mem_erase hx)]
  rw [← Finset.add_sum_erase S _ hid, ← Finset.add_sum_erase S (fun x => g (stream x)) hid, hrest,
    Function.update_self]
  omega

namespace SendingConn

variable {c c' : SendingConn} {id : StreamId}

structure Inv (c : SendingConn) : Prop where
  live : c.streams ⊆ c.opened
  sound : c.flowControlState.Sound
  written : c.flowControlState.sumCurWriteOffset = ∑ id ∈ c.opened, (c.stream id).bytesSent
  buffered : c.flowControlState.sumCurStreamBufferLen = ∑ id ∈ c.streams, (c.stream id).dataInBuffer
  named : ∀ id ∈ c.opened, (c.stream id).id = id
  tracked : ∀ id ∈ c.opened, (c.stream id).toSendStream.Tracked (c.stream id).sentOffset
  closed : ∀ id ∈ c.closedStreams, id ∈ c.streams ∧ (c.stream id).inTerminalStates = true

/-- What is the same for the rest of the connection. -/
structure Frame (c c' : SendingConn) (id : StreamId) : Prop where
  nodeType : c'.nodeType = c.nodeType
  opened : c'.opened = c.opened
  streams : c'.streams = c.streams
  others : ∀ other, other ≠ id → c'.stream other = c.stream other
  limit : c'.flowControlState.peerAdvertisedMaxOffset = c.flowControlState.peerAdvertisedMaxOffset
  exact : c'.flowControlState.wrapped = c.flowControlState.wrapped

theorem Frame.refl (c : SendingConn) (id : StreamId) : Frame c c id :=
  ⟨rfl, rfl, rfl, fun _ _ => rfl, rfl, rfl⟩

theorem Inv.dataInBuffer_le (hc : c.Inv) (hid : id ∈ c.streams) :
    (c.stream id).dataInBuffer ≤ c.flowControlState.sumCurStreamBufferLen := by
  rw [hc.buffered, ← Finset.add_sum_erase c.streams _ hid]
  exact Nat.le_add_right _ _

/-- One stream changes, and the sums with it. -/
theorem Inv.update (hc : c.Inv) (hid : id ∈ c.streams) {t : ConnStream} {f : SendFlowControl}
    (ht : ConnStream.Keeps (c.stream id) t c.flowControlState f) :
    ({ c with stream := Function.update c.stream id t, flowControlState := f } : SendingConn).Inv where
  live := hc.live
  sound := ht.sound
  written := by
    have hsum := sum_update c.opened c.stream ConnStream.bytesSent (hc.live hid) t
    have hwritten := ht.written
    have hbefore := hc.written
    dsimp only
    omega
  buffered := by
    have hsum := sum_update c.streams c.stream (·.dataInBuffer) hid t
    have hbuffered := ht.buffered
    have hbefore := hc.buffered
    dsimp only at hsum ⊢
    omega
  named other hother := by
    by_cases heq : other = id
    · subst heq
      dsimp only
      rw [Function.update_self, ht.id]
      exact hc.named other hother
    · dsimp only
      rw [Function.update_of_ne heq]
      exact hc.named other hother
  tracked other hother := by
    by_cases heq : other = id
    · subst heq
      dsimp only
      rw [Function.update_self]
      exact ht.tracked
    · dsimp only
      rw [Function.update_of_ne heq]
      exact hc.tracked other hother
  closed other hother := by
    obtain ⟨hlive, hterminal⟩ := hc.closed other hother
    refine ⟨hlive, ?_⟩
    by_cases heq : other = id
    · subst heq
      dsimp only
      rw [Function.update_self]
      exact ht.terminal hterminal
    · dsimp only
      rw [Function.update_of_ne heq]
      exact hterminal

theorem Inv.onStream {P : ConnStream → SendFlowControl → Prop} (hc : c.Inv)
    {act : ConnStream → SendFlowControl → Except SendFault (ConnStream × SendFlowControl)}
    (hact : id ∈ c.streams → Ends (fun _ => True) (act (c.stream id) c.flowControlState) (fun r =>
      ConnStream.Keeps (c.stream id) r.1 c.flowControlState r.2 ∧ P r.1 r.2)) :
    Ends (fun _ => True) (c.onStream id act) (fun c' =>
      c'.Inv ∧ Frame c c' id ∧ c'.closedStreams = c.closedStreams ∧
        (id ∈ c.streams → P (c'.stream id) c'.flowControlState) ∧ (id ∉ c.streams → c' = c)) := by
  unfold SendingConn.onStream
  refine Ends.ite (fun hid => ?_) fun hid =>
    .ok ⟨hc, .refl c id, rfl, fun h => absurd h hid, fun _ => rfl⟩
  refine Ends.bind (hact hid) ?_
  rintro ⟨t, f⟩ ⟨ht, hP⟩
  refine .ok ⟨hc.update hid ht, ⟨rfl, rfl, rfl, ?_, ht.limit, ht.exact⟩, rfl, fun _ => ?_,
    fun h => absurd hid h⟩
  · exact fun other hother => Function.update_of_ne hother _ _
  · dsimp only
    rw [Function.update_self]
    exact hP

theorem Inv.onSendHalf (hc : c.Inv)
    {act : SendStream → SendFlowControl → Except SendFault (SendStream × SendFlowControl)}
    (hact : ∀ sent, (c.stream id).toSendStream.Tracked sent → Ends (fun _ => True)
      (act (c.stream id).toSendStream c.flowControlState) (fun r =>
        SendStream.Keeps (c.stream id).toSendStream r.1 sent c.flowControlState r.2)) :
    Ends (fun _ => True) (c.onSendHalf id act) (fun c' =>
      c'.Inv ∧ Frame c c' id ∧ c'.closedStreams = c.closedStreams) := by
  have hstream : Ends (fun _ => True) (c.onStream id fun s f => s.onSendHalf f act) _ :=
    hc.onStream (P := fun t _ => t.recvState = (c.stream id).recvState) fun hid =>
      ConnStream.Keeps.onSendHalf (hact _ (hc.tracked id (hc.live hid)))
  exact hstream.imp fun c' hc' => ⟨hc'.1, hc'.2.1, hc'.2.2.1⟩

/-- A stream changes alone. -/
theorem Inv.onSendHalf_alone (hc : c.Inv) {act : SendStream → Except StreamFault SendStream}
    (hact : ∀ sent, (c.stream id).toSendStream.Tracked sent →
      Ends AnyFault (act (c.stream id).toSendStream) (fun t => t.id = (c.stream id).id ∧
        t.Tracked sent ∧ t.dataInBuffer = (c.stream id).dataInBuffer ∧
        SendStream.Settled (c.stream id).toSendStream t)) :
    Ends (fun _ => True) (c.onSendHalf id fun s f => do
      let s ← liftStream (act s)
      return (s, f)) (fun c' => c'.Inv ∧ Frame c c' id ∧ c'.closedStreams = c.closedStreams) :=
  hc.onSendHalf fun sent ht => SendStream.Keeps.alone (hact sent ht) hc.sound

/-- A transition of one of the state machines. -/
theorem Inv.onTransition (hc : c.Inv) {act : ConnStream → Except StreamFault ConnStream}
    (hact : (c.stream id).toSendStream.Tracked (c.stream id).sentOffset →
      Ends AnyFault (act (c.stream id)) (fun t => t.id = (c.stream id).id ∧
        t.toSendStream.Tracked t.sentOffset ∧
        ((c.stream id).inTerminalStates = true → t.inTerminalStates = true) ∧
        t.dataInBuffer = (c.stream id).dataInBuffer ∧ t.bytesSent = (c.stream id).bytesSent)) :
    Ends (fun _ => True) (c.onTransition id act) (fun c' => c'.Inv ∧ Frame c c' id) := by
  unfold SendingConn.onTransition
  refine Ends.bind (hc.onStream (P := fun _ _ => True) fun hid => ?_) ?_
  · refine Ends.bind (hact (hc.tracked id (hc.live hid))).liftStream ?_
    rintro t ⟨hname, ht, hterminal, hdata, hbytes⟩
    exact .ok ⟨⟨hname, ht, hterminal, hc.sound, rfl, by rw [hbytes], by rw [hdata], rfl⟩, trivial⟩
  · rintro c' ⟨hc', hframe, -, -, hnone⟩
    refine .ok (?_ : Inv (ite _ _ _) ∧ Frame c (ite _ _ _) id)
    split
    · rename_i hlast
      refine ⟨{ hc' with closed := fun other hother => ?_ }, { hframe with }⟩
      rcases Finset.mem_insert.mp hother with rfl | hother
      · refine ⟨?_, hlast.2⟩
        change other ∈ c'.streams
        rw [hframe.streams]
        by_contra hgone
        rw [hnone hgone] at hlast
        rcases hlast.1 with hsend | hrecv
        · exact hsend rfl
        · exact hrecv rfl
      · exact hc'.closed other hother
    · exact ⟨hc', hframe⟩

end SendingConn

/-! ### Packets -/

namespace SendStream

variable {s t : SendStream} {sent : Nat}

theorem Unmoved.newFrame (h : Unmoved s t) (len : Nat) : t.newFrame len = s.newFrame len := by
  unfold SendStream.newFrame hasWritableData nextOffsetToWrite
  simp only [h.id, h.current, h.buffer, h.bufMeta, h.final, h.limit]

theorem newFrame_offset {len : Nat} {frame : WriteStreamFrame} (h : s.newFrame len = some frame) :
    frame.streamId = s.id ∧ frame.offset = s.currentWriteOffset ∧ frame.len = len := by
  obtain ⟨-, -, -, -, heq⟩ := newFrame_eq_some h
  rw [heq]
  exact ⟨rfl, rfl, rfl⟩

/-- A frame that may be sent on the stream: it repeats real data, or it is the next. -/
def Due (s : SendStream) (sent : Nat) (frame : WriteStreamFrame) : Prop :=
  s.Repeats sent frame ∨ s.newFrame frame.len = some frame

/-- What a frame costs. -/
def cost (s : SendStream) (frame : WriteStreamFrame) : Nat :=
  if s.currentWriteOffset ≤ frame.offset then frame.len else 0

theorem writeStreamLossBuffers_repeats {entries : List StreamBuffer} {lens : List Nat}
    (hentries : ∀ b ∈ entries, Within s.currentWriteOffset sent b.endOffset b.eof) (id : StreamId) :
    Ends (fun _ => True) (writeStreamLossBuffers id entries lens) (fun frames =>
      ∀ frame ∈ frames, frame.streamId = id ∧ s.Repeats sent frame) := by
  induction entries generalizing lens with
  | nil => exact .ok (by simp)
  | cons b rest ih =>
    cases lens with
    | nil => exact .ok (by simp)
    | cons len lens =>
      obtain ⟨⟨hsent, hcurrent, hfin⟩, hrest⟩ := List.forall_mem_cons.mp hentries
      rw [writeStreamLossBuffers]
      refine Ends.ite (fun _ => .error trivial) fun _ => ?_
      refine Ends.ite (fun _ => .ok (by simp)) fun hfits => ?_
      push Not at hfits
      refine Ends.map ((ih hrest).imp fun frames hframes => ?_)
      refine List.forall_mem_cons.mpr ⟨⟨rfl, rfl, ?_, ?_⟩, hframes⟩
      · dsimp only
        by_cases hzero : len = 0
        · exact .inr (by simpa only [ne_eq, Bool.not_eq_eq_eq_not, Bool.not_true,
            Bool.not_eq_false] using hfits.2 hzero)
        · exact .inl (Nat.pos_of_ne_zero hzero)
      · have hle : b.offset + len ≤ b.endOffset := Nat.add_le_add_left hfits.1 _
        refine ⟨hle.trans hsent, hle.trans hcurrent, fun hend => hfin ?_⟩
        exact (Bool.and_eq_true_iff.mp hend).1

theorem Repeats.cost_eq {frame : WriteStreamFrame} (h : s.Repeats sent frame) : s.cost frame = 0 :=
  if_neg (Nat.not_le.mpr h.offset_lt)

/-- A stream that has data or a FIN to offer is within its limit. -/
theorem Tracked.next_le_of_hasWritableData (h : s.Tracked sent) (herror : s.streamWriteError = none)
    (hwritable : s.hasWritableData = .ok true) :
    s.nextOffsetToWrite ≤ s.peerAdvertisedMaxOffset := by
  by_contra hlt
  obtain ⟨hempty, hpast⟩ := h.limit_lt_next_iff.mp (Nat.lt_of_not_le hlt)
  rw [herror] at hpast
  rcases hpast with ⟨hfin, -⟩ | ⟨hreset, -⟩
  · obtain ⟨final, hfinal, hsent⟩ := (hasSentFIN_iff s).mp hfin
    rw [hasWritableData, hempty, hfinal] at hwritable
    simp at hwritable
    omega
  · cases hreset

/-- The frames that a stream gets into a packet. -/
theorem Tracked.writeSingleStream (h : s.Tracked sent) (herror : s.streamWriteError = none)
    (room : StreamRoom) (connWritableBytes : Nat) (f : SendFlowControl) :
    Ends (fun _ => True) (s.writeSingleStream room connWritableBytes f) (fun r =>
      (∀ frame ∈ r.1, frame.streamId = s.id ∧ s.Due sent frame) ∧
      r.1.Pairwise (fun g _ => g.offset < s.currentWriteOffset) ∧
      r.2.1 + (r.1.map s.cost).sum = connWritableBytes ∧ r.2.2 = f) := by
  unfold SendStream.writeSingleStream
  refine Ends.bind (writeStreamLossBuffers_repeats h.lostEntries s.id) fun losses hlosses => ?_
  have hpairwise : losses.Pairwise fun g _ => g.offset < s.currentWriteOffset := by
    refine List.Pairwise.imp_of_mem (R := fun _ _ => True) (fun hg _ _ => ?_)
      (List.pairwise_of_forall fun _ _ => trivial)
    exact (hlosses _ hg).2.offset_lt
  have hcost : (losses.map s.cost).sum = 0 := by
    refine List.sum_eq_zero fun n hn => ?_
    obtain ⟨g, hg, rfl⟩ := List.mem_map.mp hn
    exact (hlosses g hg).2.cost_eq
  have hold : ∀ g ∈ losses, g.streamId = s.id ∧ s.Due sent g :=
    fun g hg => ⟨(hlosses g hg).1, .inl (hlosses g hg).2⟩
  have hnone : Ends (fun _ : SendFault => True) (.ok (losses, connWritableBytes, f)) (fun r =>
      (∀ frame ∈ r.1, frame.streamId = s.id ∧ s.Due sent frame) ∧
      r.1.Pairwise (fun g _ => g.offset < s.currentWriteOffset) ∧
      r.2.1 + (r.1.map s.cost).sum = connWritableBytes ∧ r.2.2 = f) :=
    .ok ⟨hold, hpairwise, by rw [hcost]; rfl, rfl⟩
  refine Ends.ite (fun _ => .ok ⟨by simp, .nil, by simp, rfl⟩) fun _ => ?_
  refine Ends.bind (P := fun writable => s.hasWritableData = .ok writable) ?_ fun writable hwritable => ?_
  · refine Ends.liftStream ?_
    cases hdata : s.hasWritableData with
    | error e => exact trivial
    | ok b => exact rfl
  · cases hnew : room.new with
    | none => exact hnone
    | some len =>
      refine Ends.ite (fun hroom => ?_) fun _ => hnone
      rw [Bool.and_eq_true] at hroom
      rw [hroom.1] at hwritable
      rw [h.wire (h.next_le_of_hasWritableData herror hwritable)]
      dsimp only
      split
      · exact hnone
      · rename_i frame hframe
        split at hframe
        · rename_i hlen
          obtain ⟨hname, hoffset, hlength⟩ := newFrame_offset hframe
          have hpays : s.cost frame = len := by
            rw [cost, if_pos (Nat.le_of_eq hoffset.symm), hlength]
          refine .ok ⟨List.forall_mem_append.mpr ⟨hold, ?_⟩, ?_, ?_, rfl⟩
          · refine List.forall_mem_singleton.mpr ⟨hname, .inr ?_⟩
            rw [hlength]
            exact hframe
          · refine List.pairwise_append.mpr ⟨hpairwise, List.pairwise_singleton _ _, ?_⟩
            exact fun g hg _ _ => (hlosses g hg).2.offset_lt
          · rw [List.map_append, List.sum_append, hcost, List.map_singleton, List.sum_singleton,
              hpays]
            change connWritableBytes - len + (0 + len) = connWritableBytes
            omega
        · cases hframe

end SendStream

namespace SendingConn

variable {c c' : SendingConn}

/-- The frames of a packet that are still to be charged. Behind the one with new data there is no
other of its stream. -/
structure Scheduled (c : SendingConn) (frames : List WriteStreamFrame) : Prop where
  due : ∀ frame ∈ frames, frame.streamId ∈ c.streams ∧
    (c.stream frame.streamId).streamWriteError = none ∧
    (c.stream frame.streamId).toSendStream.Due (c.stream frame.streamId).sentOffset frame
  last : frames.Pairwise fun g h => h.streamId = g.streamId →
    g.offset < (c.stream g.streamId).currentWriteOffset
  room : c.flowControlState.sumCurWriteOffset +
    (frames.map fun frame => (c.stream frame.streamId).cost frame).sum ≤
      c.flowControlState.peerAdvertisedMaxOffset

/-- The packet as far as it has been made, with what is left of the connection's limit. -/
def Made (c : SendingConn) (sofar : List WriteStreamFrame × Nat × SendFlowControl) : Prop :=
  Scheduled c sofar.1 ∧
    c.flowControlState.sumCurWriteOffset + sofar.2.1 +
      (sofar.1.map fun frame => (c.stream frame.streamId).cost frame).sum =
        c.flowControlState.peerAdvertisedMaxOffset ∧ sofar.2.2 = c.flowControlState

theorem Inv.writeNextStream (hc : c.Inv) (room : StreamRoom)
    {sofar : List WriteStreamFrame × Nat × SendFlowControl} (h : c.Made sofar) :
    Ends (fun _ => True) (c.writeNextStream sofar room) c.Made := by
  obtain ⟨frames, connWritableBytes, f⟩ := sofar
  obtain ⟨hsched, hleft, hf⟩ := h
  dsimp only at hsched hleft hf
  subst hf
  unfold SendingConn.writeNextStream
  refine Ends.ite (fun hvisit => ?_) fun _ => .ok ⟨hsched, hleft, rfl⟩
  obtain ⟨hlive, herror, hfresh⟩ := hvisit
  have hname := hc.named room.streamId (hc.live hlive)
  refine Ends.bind ((hc.tracked room.streamId (hc.live hlive)).writeSingleStream herror room _ _) ?_
  rintro ⟨more, left, g⟩ ⟨hmore, hpairwise, hcost, rfl⟩
  dsimp only at hmore hpairwise hcost ⊢
  rw [hname] at hmore
  have hpays : (more.map fun frame => (c.stream frame.streamId).cost frame).sum =
      (more.map (c.stream room.streamId).cost).sum := by
    congr 1
    refine List.map_congr_left fun frame hframe => ?_
    rw [(hmore frame hframe).1]
  have htotal : c.flowControlState.sumCurWriteOffset + left +
      ((frames ++ more).map fun frame => (c.stream frame.streamId).cost frame).sum =
        c.flowControlState.peerAdvertisedMaxOffset := by
    rw [List.map_append, List.sum_append, hpays]
    omega
  refine .ok ⟨⟨?_, ?_, ?_⟩, htotal, rfl⟩
  · refine List.forall_mem_append.mpr ⟨hsched.due, fun frame hframe => ?_⟩
    obtain ⟨hid, hdue⟩ := hmore frame hframe
    rw [hid]
    exact ⟨hlive, herror, hdue⟩
  · refine List.pairwise_append.mpr ⟨hsched.last, ?_, fun g hg h hh heq => ?_⟩
    · refine hpairwise.imp_of_mem fun hg _ hlt _ => ?_
      rw [(hmore _ hg).1]
      exact hlt
    · rw [(hmore h hh).1] at heq
      exact absurd heq.symm (hfresh g hg)
  · dsimp only
    omega

theorem Inv.writeStreams (hc : c.Inv) (rooms : List StreamRoom) :
    Ends (fun _ => True) (c.writeStreams rooms) c.Made := by
  have hwithin := hc.sound.within
  unfold SendingConn.writeStreams
  rw [hc.sound.wire]
  refine Ends.foldlM (I := fun sofar _ => c.Made sofar) (fun _ room _ h => hc.writeNextStream room h) ?_
  refine ⟨⟨by simp, .nil, ?_⟩, ?_, rfl⟩
  · simpa using hwithin
  · simp only [List.map_nil, List.sum_nil]
    omega

theorem Scheduled.of_frame {frame : WriteStreamFrame} {rest : List WriteStreamFrame}
    (h : Scheduled c rest) (hframe : Frame c c' frame.streamId)
    (hdue : ∀ g ∈ rest, g.streamId = frame.streamId →
      (c'.stream frame.streamId).streamWriteError = none ∧
      (c'.stream frame.streamId).toSendStream.Due (c'.stream frame.streamId).sentOffset g ∧
      (c'.stream frame.streamId).currentWriteOffset = (c.stream frame.streamId).currentWriteOffset)
    (hroom : c'.flowControlState.sumCurWriteOffset +
      (rest.map fun g => (c.stream g.streamId).cost g).sum ≤
        c.flowControlState.peerAdvertisedMaxOffset) : Scheduled c' rest := by
  have hcurrent : ∀ g ∈ rest, (c'.stream g.streamId).currentWriteOffset =
      (c.stream g.streamId).currentWriteOffset := by
    intro g hg
    by_cases heq : g.streamId = frame.streamId
    · rw [heq]
      exact (hdue g hg heq).2.2
    · rw [hframe.others _ heq]
  refine ⟨fun g hg => ?_, ?_, ?_⟩
  · by_cases heq : g.streamId = frame.streamId
    · obtain ⟨herror, hg', -⟩ := hdue g hg heq
      rw [heq, hframe.streams]
      exact ⟨heq ▸ (h.due g hg).1, herror, hg'⟩
    · rw [hframe.others _ heq, hframe.streams]
      exact h.due g hg
  · refine h.last.imp_of_mem fun hg _ hlast heq => ?_
    rw [hcurrent _ hg]
    exact hlast heq
  · have hcost : rest.map (fun g => (c'.stream g.streamId).cost g) =
        rest.map (fun g => (c.stream g.streamId).cost g) := by
      refine List.map_congr_left fun g hg => ?_
      rw [SendStream.cost, SendStream.cost, hcurrent g hg]
    rw [hcost, hframe.limit]
    exact hroom

/-- One frame of the packet is charged. -/
theorem Inv.updateConnection (hc : c.Inv) {frame : WriteStreamFrame} {rest : List WriteStreamFrame}
    (h : Scheduled c (frame :: rest)) :
    Ends (fun _ => True) (c.updateConnection frame) (fun c' =>
      c'.Inv ∧ Scheduled c' rest ∧ c'.flowControlState.wrapped = c.flowControlState.wrapped) := by
  obtain ⟨⟨hlive, herror, hdue⟩, hrest⟩ := List.forall_mem_cons.mp h.due
  obtain ⟨hlast, hpairwise⟩ := List.pairwise_cons.mp h.last
  have hroom := h.room
  rw [List.map_cons, List.sum_cons] at hroom
  have htracked := hc.tracked _ (hc.live hlive)
  have hafter : Scheduled c rest := ⟨hrest, hpairwise, by omega⟩
  unfold SendingConn.updateConnection
  rw [if_pos hlive]
  rcases hdue with hrepeats | hnew
  · have hfree := hrepeats.cost_eq
    refine (hc.onStream (P := fun t f =>
      f.sumCurWriteOffset = c.flowControlState.sumCurWriteOffset ∧
      SendStream.Unmoved (c.stream frame.streamId).toSendStream t.toSendStream ∧
      t.sentOffset = (c.stream frame.streamId).sentOffset) fun _ =>
        ConnStream.Keeps.updateConnection_repeated hc.sound hrepeats.2.2.1
          (htracked.frameWritten_repeated hrepeats)).imp ?_
    rintro c' ⟨hc', hframe, -, hP, -⟩
    obtain ⟨hsum, hsame, hsent⟩ := hP hlive
    refine ⟨hc', hafter.of_frame hframe (fun g hg heq => ?_) (by rw [hsum]; omega), hframe.exact⟩
    have hg' := (hrest g hg).2
    rw [heq] at hg'
    refine ⟨hsame.error.trans hg'.1, ?_, hsame.current⟩
    rw [hsent]
    rcases hg'.2 with hrep | hnext
    · refine .inl ⟨hrep.1, hrep.2.1, ?_⟩
      rw [hsame.current]
      exact hrep.2.2
    · exact .inr ((hsame.newFrame _).trans hnext)
  · have hoffset := (SendStream.newFrame_offset hnew).2.1
    have hpays : (c.stream frame.streamId).cost frame = frame.len := if_pos (Nat.le_of_eq hoffset.symm)
    refine (hc.onStream (P := fun _ f =>
      f.sumCurWriteOffset = c.flowControlState.sumCurWriteOffset + frame.len) fun _ =>
        ConnStream.Keeps.updateConnection_new herror hc.sound (by omega)
          (hc.dataInBuffer_le hlive) (htracked.frameWritten_new herror hnew)).imp ?_
    rintro c' ⟨hc', hframe, -, hP, -⟩
    refine ⟨hc', hafter.of_frame hframe (fun g hg heq => ?_) (by rw [hP hlive]; omega), hframe.exact⟩
    -- No other frame of this stream follows.
    have hlt := hlast g hg heq
    rw [hoffset] at hlt
    exact absurd hlt (Nat.lt_irrefl _)

theorem Inv.sendPacket (hc : c.Inv) (rooms : List StreamRoom) :
    Ends (fun _ => True) (c.sendPacket rooms) (fun c' =>
      c'.Inv ∧ c'.flowControlState.wrapped = c.flowControlState.wrapped) := by
  unfold SendingConn.sendPacket
  refine Ends.bind (hc.writeStreams rooms) ?_
  rintro ⟨frames, left, f⟩ ⟨hsched, -, hf⟩
  dsimp only at hsched hf ⊢
  subst hf
  refine (Ends.foldlM (I := fun c' rest => c'.Inv ∧ Scheduled c' rest ∧
    c'.flowControlState.wrapped = c.flowControlState.wrapped) ?_ ⟨hc, hsched, rfl⟩).imp
    fun c' hc' => ⟨hc'.1, hc'.2.2⟩
  rintro c' frame rest ⟨hc', hsched', hexact⟩
  exact (hc'.updateConnection hsched').imp fun c'' hc'' => ⟨hc''.1, hc''.2.1, hc''.2.2.trans hexact⟩

/-- A stream with BufMeta to send has not sent its FIN. -/
theorem next_le_of_bufMeta {s : SendStream} {sent : Nat} (h : s.Tracked sent)
    (herror : s.streamWriteError = none) (hlength : s.writeBufMeta.length ≠ 0) :
    s.nextOffsetToWrite ≤ s.peerAdvertisedMaxOffset := by
  by_contra hlt
  obtain ⟨hempty, hpast⟩ := h.limit_lt_next_iff.mp (Nat.lt_of_not_le hlt)
  rw [herror] at hpast
  rcases hpast with ⟨hfin, -⟩ | ⟨hreset, -⟩
  · have hdata := h.drained herror hfin hempty
    rw [SendStream.dataInBuffer] at hdata
    omega
  · cases hreset

theorem Inv.sendDSRPacket (hc : c.Inv) (id : StreamId) (len : Nat) :
    Ends (fun _ => True) (c.sendDSRPacket id len) (fun c' =>
      c'.Inv ∧ c'.flowControlState.wrapped = c.flowControlState.wrapped) := by
  unfold SendingConn.sendDSRPacket
  rw [hc.sound.wire]
  dsimp only
  refine Ends.ite (fun _ => .ok ⟨hc, rfl⟩) fun hsend => ?_
  push Not at hsend
  obtain ⟨hlive, herror, -, hlength⟩ := hsend
  have herror : (c.stream id).streamWriteError = none := by simpa using herror
  have htracked := hc.tracked id (hc.live hlive)
  refine Ends.ite (fun _ => .ok ⟨hc, rfl⟩) fun _ => ?_
  rw [htracked.wire (next_le_of_bufMeta htracked herror hlength)]
  dsimp only
  split
  · exact .ok ⟨hc, rfl⟩
  · rename_i frame hframe
    split at hframe
    · rename_i hroom
      obtain ⟨-, -, -, -, -, heq⟩ := SendStream.newBufMetaFrame_eq_some hframe
      have hname : frame.streamId = id := by
        rw [heq]
        exact hc.named id (hc.live hlive)
      have hlen : frame.len = len := by rw [heq]
      have hwithin := hc.sound.within
      subst hname
      change Ends _ (c.updateConnection frame) _
      unfold SendingConn.updateConnection
      rw [if_pos hlive]
      refine (hc.onStream (P := fun _ _ => True) fun _ =>
        (ConnStream.Keeps.updateConnection_new herror hc.sound (by omega) (hc.dataInBuffer_le hlive)
          (htracked.frameWritten_newBufMeta herror hframe)).imp fun r hr => ⟨hr.1, trivial⟩).imp ?_
      rintro c' ⟨hc', hkeeps, -⟩
      exact ⟨hc', hkeeps.exact⟩
    · cases hframe

theorem Inv.sendDSRLossPacket (hc : c.Inv) (id : StreamId) (len : Nat) :
    Ends (fun _ => True) (c.sendDSRLossPacket id len) (fun c' =>
      c'.Inv ∧ c'.flowControlState.wrapped = c.flowControlState.wrapped) := by
  unfold SendingConn.sendDSRLossPacket
  dsimp only
  refine Ends.ite (fun _ => .ok ⟨hc, rfl⟩) fun hsend => ?_
  push Not at hsend
  have hlive := hsend.1
  have htracked := hc.tracked id (hc.live hlive)
  cases hframe : (c.stream id).toSendStream.lossBufMetaFrame len with
  | none => exact .ok ⟨hc, rfl⟩
  | some frame =>
    have hname : frame.streamId = id := by
      have hname := hc.named id (hc.live hlive)
      unfold SendStream.lossBufMetaFrame at hframe
      split at hframe
      · cases hframe
      · split at hframe
        · cases hframe
        · cases hframe
          exact hname
    obtain ⟨hwritten, hsent⟩ := htracked.frameWritten_lossBufMeta hframe
    subst hname
    dsimp only
    unfold SendingConn.updateConnection
    rw [if_pos hlive]
    refine (hc.onStream (P := fun _ _ => True) fun _ =>
      (ConnStream.Keeps.updateConnection_repeated hc.sound hsent hwritten).imp
        fun r hr => ⟨hr.1, trivial⟩).imp ?_
    rintro c' ⟨hc', hkeeps, -⟩
    exact ⟨hc', hkeeps.exact⟩

/-! ### Opening, closing, looking -/

theorem tracked_new (nodeType : QuicNodeType) (id : StreamId) (limit : Fin (2 ^ 62)) :
    (ConnStream.new nodeType id limit).toSendStream.Tracked 0 where
  varint := limit.isLt
  limit := Nat.zero_le _
  stage _ := .real rfl rfl rfl fun f hf => by cases hf
  current := .inl le_rfl
  isOpen _ := rfl
  dropped _ := rfl
  sentEntries b hb := by cases hb
  lostEntries b hb := by cases hb
  sentMetas m hm := by cases hm
  lostMetas m hm := by cases hm

theorem Inv.openStream (hc : c.Inv) (id : StreamId) (limit : Fin (2 ^ 62)) :
    (c.openStream id limit).Inv := by
  unfold SendingConn.openStream
  split
  · exact hc
  · rename_i hnew
    have hne : ∀ other ∈ c.opened, other ≠ id := fun other hother heq => hnew (heq ▸ hother)
    have hsame : ∀ other ∈ c.opened,
        Function.update c.stream id (ConnStream.new c.nodeType id limit) other = c.stream other :=
      fun other hother => Function.update_of_ne (hne other hother) _ _
    have hgone : id ∉ c.streams := fun hlive => hnew (hc.live hlive)
    refine ⟨Finset.insert_subset_insert id hc.live, hc.sound, ?_, ?_, ?_, ?_, ?_⟩
    · dsimp only
      rw [Finset.sum_insert hnew, Function.update_self, hc.written]
      refine Eq.trans (Finset.sum_congr rfl fun other hother => ?_) (Nat.zero_add _).symm
      rw [hsame other hother]
    · dsimp only
      rw [Finset.sum_insert hgone, Function.update_self, hc.buffered]
      refine Eq.trans (Finset.sum_congr rfl fun other hother => ?_) (Nat.zero_add _).symm
      rw [hsame other (hc.live hother)]
    · intro other hother
      dsimp only
      rcases Finset.mem_insert.mp hother with rfl | hother
      · rw [Function.update_self]
        rfl
      · rw [hsame other hother]
        exact hc.named other hother
    · intro other hother
      dsimp only
      rcases Finset.mem_insert.mp hother with rfl | hother
      · rw [Function.update_self]
        exact tracked_new _ _ _
      · rw [hsame other hother]
        exact hc.tracked other hother
    · intro other hother
      obtain ⟨hlive, hterminal⟩ := hc.closed other hother
      refine ⟨Finset.mem_insert_of_mem hlive, ?_⟩
      dsimp only
      rw [hsame other (hc.live hlive)]
      exact hterminal

theorem not_open_of_inTerminalStates {s : ConnStream} (h : s.inTerminalStates = true) :
    s.sendState ≠ .open := by
  intro hopen
  rw [ConnStream.inTerminalStates, hopen] at h
  cases h

theorem Inv.removeClosedStream (hc : c.Inv) (id : StreamId) : (c.removeClosedStream id).Inv := by
  unfold SendingConn.removeClosedStream
  split
  · rename_i hclosed
    obtain ⟨hlive, hterminal⟩ := hc.closed id hclosed
    have hdata := (hc.tracked id (hc.live hlive)).dropped (not_open_of_inTerminalStates hterminal)
    refine { hc with live := (Finset.erase_subset _ _).trans hc.live, buffered := ?_, closed := ?_ }
    · dsimp only
      rw [Finset.sum_erase (f := fun id => (c.stream id).dataInBuffer) c.streams hdata]
      exact hc.buffered
    · intro other hother
      obtain ⟨hne, hother⟩ := Finset.mem_erase.mp hother
      obtain ⟨hlive, hterminal⟩ := hc.closed other hother
      exact ⟨Finset.mem_erase.mpr ⟨hne, hlive⟩, hterminal⟩
  · exact hc

/-- Nothing but `wrapped` changes. -/
theorem Inv.noted (hc : c.Inv) (wrapped : Bool) :
    (c.readFlowControl { c.flowControlState with wrapped }).Inv :=
  { hc with sound := { hc.sound with } }

theorem wire_snd (s : SendStream) (f : SendFlowControl) : (s.getSendStreamFlowControlBytesWire f).2 =
    { f with wrapped := f.wrapped || decide (s.peerAdvertisedMaxOffset < s.nextOffsetToWrite) } := by
  rw [SendStream.getSendStreamFlowControlBytesWire, SendFlowControl.subtract]

theorem api_snd (s : SendStream) (f : SendFlowControl) : (s.getSendStreamFlowControlBytesAPI f).2 =
    { f with wrapped := f.wrapped || decide (s.peerAdvertisedMaxOffset < s.nextOffsetToWrite) } := by
  unfold SendStream.getSendStreamFlowControlBytesAPI SendStream.getSendStreamFlowControlBytesWire
  rw [SendFlowControl.subtract]
  dsimp only
  split
  · rfl
  · rename_i hle
    rw [SendFlowControl.subtract_of_le (Nat.le_of_not_lt hle) (sub64_lt _ _)]

/-- The calls that look at the limit of a stream, and on a server STOP_SENDING frames for a send
half that is open, do not come for a stream whose next offset lies past the limit. -/
def Careful (c : SendingConn) : SendingEvent → Prop
  | .getStreamFlowControl id => id ∈ c.streams → ¬ (c.stream id).PastLimit
  | .getMaxWritableOnStream id =>
      id ∈ c.streams → isReceivingStream c.nodeType id = false → ¬ (c.stream id).PastLimit
  | .stopSending id =>
      id ∈ c.streams → c.nodeType = .server → (c.stream id).sendState = .open →
        ¬ (c.stream id).PastLimit
  | _ => True

/-- The connection after the difference of a stream has been looked at. -/
def looked (c : SendingConn) (id : StreamId) : SendingConn :=
  c.readFlowControl { c.flowControlState with
    wrapped := c.flowControlState.wrapped ||
      decide ((c.stream id).peerAdvertisedMaxOffset < (c.stream id).nextOffsetToWrite) }

theorem Inv.looked_exact (hc : c.Inv) {id : StreamId} (hlive : id ∈ c.streams)
    (h : ¬ (c.stream id).PastLimit) :
    (c.looked id).flowControlState.wrapped = c.flowControlState.wrapped := by
  rw [← (hc.tracked id (hc.live hlive)).limit_lt_next_iff] at h
  change (_ || decide _) = _
  rw [decide_eq_false h, Bool.or_false]

theorem Inv.looked_wrapped (hc : c.Inv) {id : StreamId} (hlive : id ∈ c.streams)
    (h : (c.stream id).PastLimit) : (c.looked id).flowControlState.wrapped = true := by
  rw [← (hc.tracked id (hc.live hlive)).limit_lt_next_iff] at h
  change (_ || decide _) = _
  rw [decide_eq_true h, Bool.or_true]

theorem getStreamFlowControl_eq (c : SendingConn) (id : StreamId) :
    c.getStreamFlowControl id = if id ∈ c.streams then c.looked id else c := by
  unfold SendingConn.getStreamFlowControl
  rw [api_snd, ← looked]

theorem Inv.maxWritableOnConn_eq (hc : c.Inv) :
    ∃ bytes, c.maxWritableOnConn = (bytes, c.flowControlState) := by
  have hapi : ∃ bytes, c.flowControlState.getSendConnFlowControlBytesAPI =
      (bytes, c.flowControlState) := ⟨_, Prod.ext rfl hc.sound.api⟩
  obtain ⟨bytes, hapi⟩ := hapi
  refine ⟨min bytes c.bufferSpaceAvailable, ?_⟩
  rw [SendingConn.maxWritableOnConn, hapi]

theorem Inv.maxWritableOnStream_eq (hc : c.Inv) (id : StreamId) :
    ∃ bytes, c.maxWritableOnStream id = (bytes, (c.looked id).flowControlState) := by
  obtain ⟨connBytes, hconn⟩ := hc.maxWritableOnConn_eq
  have hapi : ∃ bytes, (c.stream id).getSendStreamFlowControlBytesAPI c.flowControlState =
      (bytes, (c.looked id).flowControlState) := ⟨_, Prod.ext rfl (api_snd _ _)⟩
  obtain ⟨bytes, hapi⟩ := hapi
  refine ⟨min bytes connBytes, ?_⟩
  rw [SendingConn.maxWritableOnStream, hconn]
  dsimp only
  rw [hapi]

theorem Inv.getMaxWritableOnStream_eq (hc : c.Inv) (id : StreamId) :
    c.getMaxWritableOnStream id =
      if id ∈ c.streams ∧ isReceivingStream c.nodeType id = false then c.looked id else c := by
  obtain ⟨bytes, hbytes⟩ := hc.maxWritableOnStream_eq id
  unfold SendingConn.getMaxWritableOnStream
  rw [hbytes]
  simp only [Bool.not_eq_true']
  rfl

theorem sendStopSendingSMHandler_eq (s : SendStream) (nodeType : QuicNodeType) (f : SendFlowControl)
    (hvalid : s.sendState ≠ .invalid) : s.sendStopSendingSMHandler nodeType f =
      .ok (if s.sendState = .open ∧ nodeType = .server then
        { f with wrapped := f.wrapped || decide (s.peerAdvertisedMaxOffset < s.nextOffsetToWrite) }
      else f) := by
  rw [SendStream.sendStopSendingSMHandler]
  cases hstate : s.sendState with
  | «open» => simp only [wire_snd, true_and]
  | resetSent => simp only [reduceCtorEq, false_and, if_false]
  | closed => simp only [reduceCtorEq, false_and, if_false]
  | invalid => exact absurd hstate hvalid

theorem stopSending_eq (c : SendingConn) (id : StreamId) (hvalid : (c.stream id).sendState ≠ .invalid) :
    c.step (.stopSending id) = .ok (if id ∈ c.streams ∧ (c.stream id).sendState = .open ∧
      c.nodeType = .server then c.looked id else c) := by
  have hself : ∀ f, ({ c with
      stream := Function.update c.stream id (c.stream id), flowControlState := f } : SendingConn) =
      c.readFlowControl f := by
    intro f
    rw [SendingConn.readFlowControl, Function.update_eq_self]
  rw [SendingConn.step, SendingConn.onSendHalf, SendingConn.onStream]
  by_cases hlive : id ∈ c.streams
  · rw [if_pos hlive, ConnStream.onSendHalf, sendStopSendingSMHandler_eq _ _ _ hvalid]
    refine (congrArg Except.ok (hself _)).trans ?_
    by_cases hlook : (c.stream id).sendState = .open ∧ c.nodeType = .server
    · rw [if_pos hlook, if_pos ⟨hlive, hlook⟩]
      rfl
    · rw [if_neg hlook, if_neg (fun h => hlook h.2)]
      rfl
  · rw [if_neg hlive, if_neg (fun h => hlive h.1)]

/-- What a step keeps: the invariant, and where it is careful, that no difference has wrapped. -/
def StepKeeps (c : SendingConn) (e : SendingEvent) (c' : SendingConn) : Prop :=
  c'.Inv ∧ (c.Careful e → c'.flowControlState.wrapped = c.flowControlState.wrapped)

theorem StepKeeps.of_frame {c' : SendingConn} {e : SendingEvent} {id : StreamId} (hc' : c'.Inv)
    (hframe : Frame c c' id) : c.StepKeeps e c' :=
  ⟨hc', fun _ => hframe.exact⟩

/-! ### Looking at the window of a stream -/

theorem Inv.stopSending (hc : c.Inv) (id : StreamId) :
    Ends (fun _ => True) (c.step (.stopSending id)) (c.StepKeeps (.stopSending id)) := by
  by_cases hvalid : (c.stream id).sendState = .invalid
  · rw [SendingConn.step, SendingConn.onSendHalf, SendingConn.onStream]
    refine Ends.ite (fun _ => ?_) fun _ => .ok ⟨hc, fun _ => rfl⟩
    rw [ConnStream.onSendHalf, SendStream.sendStopSendingSMHandler, hvalid]
    exact .error trivial
  · rw [stopSending_eq c id hvalid]
    refine .ok ?_
    split
    · rename_i hlook
      exact ⟨hc.noted _, fun hcareful =>
        hc.looked_exact hlook.1 (hcareful hlook.1 hlook.2.2 hlook.2.1)⟩
    · exact ⟨hc, fun _ => rfl⟩

theorem Inv.getStreamFlowControl (hc : c.Inv) (id : StreamId) :
    c.StepKeeps (.getStreamFlowControl id) (c.getStreamFlowControl id) := by
  rw [getStreamFlowControl_eq]
  split
  · rename_i hlive
    exact ⟨hc.noted _, fun hcareful => hc.looked_exact hlive (hcareful hlive)⟩
  · exact ⟨hc, fun _ => rfl⟩

theorem Inv.getMaxWritableOnStream (hc : c.Inv) (id : StreamId) :
    c.StepKeeps (.getMaxWritableOnStream id) (c.getMaxWritableOnStream id) := by
  rw [hc.getMaxWritableOnStream_eq]
  split
  · rename_i hlook
    exact ⟨hc.noted _, fun hcareful => hc.looked_exact hlook.1 (hcareful hlook.1 hlook.2)⟩
  · exact ⟨hc, fun _ => rfl⟩

/-! ### Frames of the peer -/

theorem Inv.maxData (hc : c.Inv) (maximumData : Fin (2 ^ 62)) :
    Ends (fun _ => True) (c.step (.maxData maximumData)) (c.StepKeeps (.maxData maximumData)) := by
  refine .ok ?_
  unfold SendFlowControl.handleConnWindowUpdate
  split
  · rename_i hle
    exact ⟨{ hc with sound := { hc.sound with
      varint := maximumData.isLt
      within := hc.sound.within.trans hle } }, fun _ => rfl⟩
  · exact ⟨hc, fun _ => rfl⟩

theorem Inv.maxStreamData (hc : c.Inv) (id : StreamId) (maximumData : Fin (2 ^ 62)) :
    Ends (fun _ => True) (c.step (.maxStreamData id maximumData))
      (c.StepKeeps (.maxStreamData id maximumData)) := by
  refine Ends.ite (fun _ => .error trivial) fun _ => ?_
  unfold SendingConn.handleStreamWindowUpdate
  refine Ends.bind (hc.onSendHalf_alone fun sent ht => ?_) ?_
  · exact (ht.handleStreamWindowUpdate maximumData).imp fun t h =>
      ⟨h.2.2.2, h.1, h.2.1, .of_eq h.2.2.1⟩
  · rintro c' ⟨hc', hframe, -⟩
    refine .ok (?_ : Inv (ite _ _ _) ∧ (_ → (ite _ _ _ : SendingConn).flowControlState.wrapped = _))
    split
    · exact ⟨{ hc' with }, fun _ => hframe.exact⟩
    · exact ⟨hc', fun _ => hframe.exact⟩

theorem Inv.frameAcked (hc : c.Inv) (frame : WriteStreamFrame) :
    Ends (fun _ => True) (c.step (.frameAcked frame)) (c.StepKeeps (.frameAcked frame)) := by
  refine (hc.onTransition fun ht => ?_).imp fun c' hc' => .of_frame hc'.1 hc'.2
  refine Ends.bind (ht.sendAckSMHandler frame) ?_
  rintro t ⟨ht', hunmoved, hsettled⟩
  exact .ok ⟨hunmoved.id, ht', ConnStream.inTerminalStates_of_settled hsettled rfl,
    hunmoved.dataInBuffer, rfl⟩

theorem Inv.rstAcked (hc : c.Inv) (id : StreamId) :
    Ends (fun _ => True) (c.step (.rstAcked id)) (c.StepKeeps (.rstAcked id)) := by
  refine (hc.onTransition fun ht => ?_).imp fun c' hc' => .of_frame hc'.1 hc'.2
  refine Ends.bind ht.sendRstAckSMHandler ?_
  rintro t ⟨ht', hunmoved, hsettled⟩
  exact .ok ⟨hunmoved.id, ht', ConnStream.inTerminalStates_of_settled hsettled rfl,
    hunmoved.dataInBuffer, rfl⟩

theorem Inv.receiveEnded (hc : c.Inv) (id : StreamId) :
    Ends (fun _ => True) (c.step (.receiveEnded id)) (c.StepKeeps (.receiveEnded id)) := by
  refine Ends.imp (hc.onTransition fun ht => .ok ?_) fun c' hc' => StepKeeps.of_frame hc'.1 hc'.2
  split
  · refine ⟨rfl, ht, fun hterminal => ?_, rfl, rfl⟩
    unfold ConnStream.inTerminalStates at *
    rw [Bool.and_eq_true] at hterminal
    rw [hterminal.1]
    rfl
  · exact ⟨rfl, ht, fun hterminal => hterminal, rfl, rfl⟩

/-! ### Every step -/

theorem Inv.step (hc : c.Inv) (e : SendingEvent) :
    Ends (fun _ => True) (c.step e) (c.StepKeeps e) := by
  have hframed : ∀ {x : Except SendFault SendingConn} {id : StreamId},
      Ends (fun _ => True) x (fun c' =>
        c'.Inv ∧ Frame c c' id ∧ c'.closedStreams = c.closedStreams) →
      Ends (fun _ => True) x (c.StepKeeps e) :=
    fun h => h.imp fun c' hc' => .of_frame hc'.1 hc'.2.1
  have hdone : Ends (fun _ : SendFault => True) (.ok c) (c.StepKeeps e) := .ok ⟨hc, fun _ => rfl⟩
  cases e with
  | openStream id limit =>
    refine .ok ⟨hc.openStream id limit, fun _ => ?_⟩
    unfold SendingConn.openStream
    split <;> rfl
  | writeChain id data eof =>
    refine Ends.ite (fun _ => hdone) fun _ => hframed (hc.onSendHalf fun sent ht => ?_)
    exact SendStream.Keeps.writeChainTo ht hc.sound data eof
  | writeBufMeta id length eof =>
    refine Ends.ite (fun _ => hdone) fun _ => hframed (hc.onSendHalf fun sent ht => ?_)
    exact SendStream.Keeps.writeBufMetaTo ht hc.sound length eof
  | setDSRSender id sender =>
    refine Ends.ite (fun _ => hdone) fun _ => hframed (hc.onSendHalf_alone fun sent ht => ?_)
    exact (ht.setDSRSender sender).imp fun t h => ⟨h.2.1.id, h.1, h.2.1.dataInBuffer, .of_eq h.2.2⟩
  | resetStream id errorCode =>
    refine Ends.ite (fun _ => hdone) fun _ => hframed (hc.onSendHalf fun sent ht => ?_)
    exact SendStream.Keeps.reset ht hc.sound errorCode
  | getStreamFlowControl id => exact .ok (hc.getStreamFlowControl id)
  | getMaxWritableOnStream id => exact .ok (hc.getMaxWritableOnStream id)
  | getConnectionFlowControl =>
    rw [SendingConn.step, hc.sound.api]
    exact hdone
  | maxData maximumData => exact hc.maxData maximumData
  | maxStreamData id maximumData => exact hc.maxStreamData id maximumData
  | stopSending id => exact hc.stopSending id
  | frameAcked frame => exact hc.frameAcked frame
  | frameAckedLate frame =>
    refine hframed (hc.onSendHalf_alone fun sent ht => ?_)
    exact (ht.frameAckedLate frame).imp fun t h => ⟨h.2.1.id, h.1, h.2.1.dataInBuffer, .of_eq h.2.2⟩
  | rstAcked id => exact hc.rstAcked id
  | frameLost frame disabled =>
    refine hframed (hc.onSendHalf_alone fun sent ht => ?_)
    exact (ht.frameLost frame disabled).imp fun t h =>
      ⟨h.2.1.id, h.1, h.2.1.dataInBuffer, .of_eq h.2.2⟩
  | receiveEnded id => exact hc.receiveEnded id
  | packet rooms => exact (hc.sendPacket rooms).imp fun c' h => ⟨h.1, fun _ => h.2⟩
  | dsrPacket id len => exact (hc.sendDSRPacket id len).imp fun c' h => ⟨h.1, fun _ => h.2⟩
  | dsrLossPacket id len => exact (hc.sendDSRLossPacket id len).imp fun c' h => ⟨h.1, fun _ => h.2⟩
  | removeClosedStream id =>
    refine .ok ⟨hc.removeClosedStream id, fun _ => ?_⟩
    unfold SendingConn.removeClosedStream
    split <;> rfl

/-- A step that is not careful wraps. -/
theorem Inv.wrapped_of_not_careful (hc : c.Inv) {e : SendingEvent} (h : ¬ c.Careful e) :
    ∃ c', c.step e = .ok c' ∧ c'.flowControlState.wrapped = true := by
  cases e with
  | getStreamFlowControl id =>
    have hpast : id ∈ c.streams ∧ (c.stream id).PastLimit := by simpa [Careful] using h
    refine ⟨_, rfl, ?_⟩
    rw [getStreamFlowControl_eq, if_pos hpast.1]
    exact hc.looked_wrapped hpast.1 hpast.2
  | getMaxWritableOnStream id =>
    have hpast : id ∈ c.streams ∧ isReceivingStream c.nodeType id = false ∧
        (c.stream id).PastLimit := by simpa [Careful] using h
    refine ⟨_, rfl, ?_⟩
    rw [hc.getMaxWritableOnStream_eq, if_pos ⟨hpast.1, hpast.2.1⟩]
    exact hc.looked_wrapped hpast.1 hpast.2.2
  | stopSending id =>
    have hpast : id ∈ c.streams ∧ c.nodeType = .server ∧ (c.stream id).sendState = .open ∧
        (c.stream id).PastLimit := by simpa [Careful] using h
    obtain ⟨hlive, hserver, hopen, hpast⟩ := hpast
    refine ⟨_, stopSending_eq c id (by rw [hopen]; exact fun h => by cases h), ?_⟩
    rw [if_pos ⟨hlive, hopen, hserver⟩]
    exact hc.looked_wrapped hlive hpast
  | _ => exact absurd trivial h

theorem new_inv (nodeType : QuicNodeType) (space : Nat) (limit : Fin (2 ^ 62)) :
    (new nodeType space limit).Inv where
  live := Finset.Subset.refl _
  sound := ⟨limit.isLt, Nat.zero_le _, (Nat.pow_pos (by decide) : 0 < 2 ^ 64)⟩
  written := rfl
  buffered := rfl
  named id hid := by cases hid
  tracked id hid := by cases hid
  closed id hid := by cases hid

/-- Everything is accounted for: what was sent, within both limits, and what is waiting; and no
subtraction has wrapped. -/
structure Accounted (c : SendingConn) : Prop where
  written : c.flowControlState.sumCurWriteOffset = ∑ id ∈ c.opened, (c.stream id).bytesSent
  connLimit : c.flowControlState.sumCurWriteOffset ≤ c.flowControlState.peerAdvertisedMaxOffset
  streamLimit : ∀ id ∈ c.opened, (c.stream id).sentOffset ≤ (c.stream id).peerAdvertisedMaxOffset
  buffered : c.flowControlState.sumCurStreamBufferLen =
    ∑ id ∈ c.streams, ((c.stream id).writeBuffer.chainLength + (c.stream id).writeBufMeta.length)
  exact : c.flowControlState.wrapped = false

theorem Inv.accounted (hc : c.Inv) (hexact : c.flowControlState.wrapped = false) : c.Accounted :=
  ⟨hc.written, hc.sound.within, fun id hid => (hc.tracked id hid).limit, hc.buffered, hexact⟩

end SendingConn

/-- The states of a run are all accounted for exactly when no step looks at the difference of a
stream whose next offset lies past its limit. -/
theorem accounted_iff_careful (nodeType : QuicNodeType) (totalBufferSpaceAvailable : Nat)
    (peerAdvertisedMaxOffset : Fin (2 ^ 62)) (events : List SendingEvent) :
    (∀ before c, before <+: events →
      before.foldlM SendingConn.step
        (.new nodeType totalBufferSpaceAvailable peerAdvertisedMaxOffset) = .ok c → c.Accounted) ↔
      Meets SendingConn.step SendingConn.Careful
        (.new nodeType totalBufferSpaceAvailable peerAdvertisedMaxOffset) events := by
  have hstart := SendingConn.new_inv nodeType totalBufferSpaceAvailable peerAdvertisedMaxOffset
  refine @never_bad_iff_meets _ _ _ SendingConn.step SendingConn.Careful SendingConn.Inv
    SendingConn.Accounted ?_ ?_ ?_ _ _ hstart (hstart.accounted rfl)
  · intro c e c' hc hstep
    exact ((hc.step e).of_ok hstep).1
  · intro c e c' hc hgood hcareful hstep
    obtain ⟨hc', hexact⟩ := (hc.step e).of_ok hstep
    exact hc'.accounted ((hexact hcareful).trans hgood.exact)
  · intro c e hc _ hcareless
    obtain ⟨c', hstep, hwrapped⟩ := hc.wrapped_of_not_careful hcareless
    refine ⟨c', hstep, fun haccounted => ?_⟩
    rw [haccounted.exact] at hwrapped
    cases hwrapped

/-- Ten bytes and the FIN are sent where the peer's limit for the stream is ten. The application
asks for the flow control of the stream. -/
theorem accounted_fails_atLimit :
    ∃ c, [.openStream 0 10, .writeChain 0 ⟨some (.wrapBuffer (List.replicate 10 0)), by decide⟩ true,
        .packet [⟨0, [], some 10⟩], .getStreamFlowControl 0].foldlM SendingConn.step
        (.new .client 1000 100) = .ok c ∧ ¬ c.Accounted := by
  have hrun : ∃ c, [.openStream 0 10,
      .writeChain 0 ⟨some (.wrapBuffer (List.replicate 10 0)), by decide⟩ true,
      .packet [⟨0, [], some 10⟩], .getStreamFlowControl 0].foldlM SendingConn.step
      (.new .client 1000 100) = .ok c ∧ c.flowControlState.wrapped = true := ⟨_, rfl, rfl⟩
  obtain ⟨c, hc, hwrapped⟩ := hrun
  refine ⟨c, hc, fun haccounted => ?_⟩
  rw [haccounted.exact] at hwrapped
  cases hwrapped

end MasqueQuic
