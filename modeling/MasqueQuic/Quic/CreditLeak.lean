/-
Connection credit of abandoned streams.

`DuplexConn` is the receive side of a connection together with what removes a stream: the send
states, `stopSending` with the data it drops, resets of the send half, and the removal once both
halves are terminal. `arrived` records how far the peer has sent on each stream, as far as its
frames have arrived, whether they were accepted, discarded, or came after the removal. It is
read by nothing.

A removed stream gives its credit back when all that arrived on it is counted as observed and as
read. Bytes go uncounted where `stopSending` closes a receive half with unread data, where a local
reset or the removal drops data from the read buffer, and where a frame is discarded.
-/

import MasqueQuic.Quic.ReceiveHistory
import MasqueQuic.Quic.StreamSend

namespace MasqueQuic

open QuicStreamLike (segs)

namespace QuicStreamState

def processTxStopSending (s : QuicStreamState) : QuicStreamState :=
  { s with recvState := .closed, readBuffer := [] }

/-- The receive half of `resetQuicStream`. -/
def resetQuicStream (s : QuicStreamState) : QuicStreamState := { s with readBuffer := [] }

/-- `inTerminalStates`, with the state of the send half. -/
def inTerminalStates (s : QuicStreamState) (sendState : StreamSendState) : Bool :=
  (sendState == .closed || sendState == .invalid) &&
    (s.recvState == .closed || s.recvState == .invalid)

/-- Data lies in the read buffer. -/
def hasUnread (s : QuicStreamState) : Bool := s.readBuffer.any (!·.data.empty)

/-- What has been observed has been read or lies in the read buffer. -/
def Held (s : QuicStreamState) : Prop :=
  ∀ i, i < s.maxOffsetObserved → i < s.readSize ∨ Segment.Covered (segs s.readBuffer) i

end QuicStreamState

structure DuplexConn where
  receiver : Receiver
  sendState : StreamId → StreamSendState
  dropIngressOnStopSending : Bool
  arrived : StreamId → Nat

/-- `sendClosed`: the FIN or the reset and all before it have been acknowledged. -/
inductive DuplexConnEvent where
  | receiver (e : ReceiverEvent)
  | stopSending (id : StreamId)
  | resetStream (id : StreamId)
  | sendClosed (id : StreamId)

namespace DuplexConn

def new (nodeType : QuicNodeType) (settings : ReceiveSettings) (dropIngressOnStopSending : Bool) :
    DuplexConn where
  receiver := .new nodeType settings
  sendState := fun id => if isReceivingStream nodeType id then .invalid else .open
  dropIngressOnStopSending
  arrived := fun _ => 0

/-- The stream of a frame, and how far the frame says that the peer has sent on it. -/
def reach : ReceiverEvent → Option (StreamId × Nat)
  | .streamFrame frame =>
      some (frame.streamId,
        if frame.fin ∨ frame.data.bytes.length ≠ 0 then frame.offset + frame.data.bytes.length
        else 0)
  | .rstStream frame _ => some (frame.streamId, frame.offset)
  | _ => none

/-- The peer has sent up to `endOffset` on a stream that exists or existed. -/
def arrivedUpTo (d : DuplexConn) (id : StreamId) (endOffset : Nat) (i : StreamId) : Nat :=
  if i = id ∧ d.receiver.opened.any (·.id == id) then max (d.arrived i) endOffset else d.arrived i

def arrivedAfter (d : DuplexConn) (e : ReceiverEvent) : StreamId → Nat :=
  match reach e with
  | none => d.arrived
  | some (id, endOffset) => d.arrivedUpTo id endOffset

/-- `checkForClosedStream` removes a stream in terminal states only. -/
def stays (d : DuplexConn) : ReceiverEvent → Bool
  | .removeStream id =>
      (Receiver.getStream d.receiver.streams id).any (!·.inTerminalStates (d.sendState id))
  | _ => false

/-- Change a stream, if it exists. -/
def modify (d : DuplexConn) (id : StreamId) (f : QuicStreamState → QuicStreamState) : DuplexConn :=
  match Receiver.getStream d.receiver.streams id with
  | none => d
  | some s =>
      { d with receiver := { d.receiver with streams := Receiver.setStream (f s) d.receiver.streams } }

def stopSending (d : DuplexConn) (id : StreamId) : DuplexConn :=
  if isSendingStream d.receiver.conn.nodeType id then d
  else d.modify id fun s =>
    if s.recvState = .closed ∨ ¬ d.dropIngressOnStopSending then s else s.processTxStopSending

/-- The send half of an existing stream changes its state. -/
def setSendState (d : DuplexConn) (id : StreamId) (sendState : StreamSendState) : DuplexConn :=
  if (Receiver.getStream d.receiver.streams id).isSome then
    { d with sendState := Function.update d.sendState id sendState }
  else d

def step (d : DuplexConn) : DuplexConnEvent → Except QuicException DuplexConn
  | .receiver e =>
      if d.stays e then .ok d
      else
        match d.receiver.step e with
        | .error (x, _) => .error x
        | .ok receiver => .ok { d with receiver, arrived := d.arrivedAfter e }
  | .stopSending id => .ok (d.stopSending id)
  | .resetStream id =>
      if d.sendState id = .open then
        .ok ((d.setSendState id .resetSent).modify id (·.resetQuicStream))
      else .ok d
  | .sendClosed id =>
      if d.sendState id = .invalid then .ok d else .ok (d.setSendState id .closed)

/-! ### Credit -/

/-- What removed streams added to the bytes observed they added to the bytes read, and it is all
that arrived on them. -/
structure NoLeak (d : DuplexConn) : Prop where
  read : d.receiver.conn.flowControlState.sumMaxObservedOffset +
      (d.receiver.streams.map (·.readSize)).sum =
    d.receiver.conn.flowControlState.sumCurReadOffset +
      (d.receiver.streams.map (·.maxOffsetObserved)).sum
  arrived : d.receiver.conn.flowControlState.sumMaxObservedOffset =
    (d.receiver.streams.map (·.maxOffsetObserved)).sum +
      (d.receiver.removed.map fun s => d.arrived s.id).sum

/-- Nothing goes uncounted: `stopSending` closes no receive half before all that was observed has
been read; no local reset drops data that was received before the receive half ended, and no
removal drops any; and a frame that is discarded, since the receive half has ended or the stream
was removed, reaches no further than what was observed. -/
def CountsAll (d : DuplexConn) : DuplexConnEvent → Prop
  | .stopSending id =>
      isSendingStream d.receiver.conn.nodeType id = false → d.dropIngressOnStopSending = true →
        ∀ s ∈ Receiver.getStream d.receiver.streams id, s.recvState ≠ .closed →
          s.maxOffsetObserved ≤ s.readSize
  | .resetStream id =>
      d.sendState id = .open →
        ∀ s ∈ Receiver.getStream d.receiver.streams id, s.recvState ≠ .open → s.hasUnread = false
  | .receiver (.removeStream id) =>
      ∀ s ∈ Receiver.getStream d.receiver.streams id,
        s.inTerminalStates (d.sendState id) = true → s.hasUnread = false
  | .receiver (.streamFrame frame) =>
      ∀ s ∈ d.receiver.opened, s.id = frame.streamId →
        s ∈ d.receiver.removed ∨ s.recvState = .closed →
          (frame.fin ∨ frame.data.bytes.length ≠ 0) →
            frame.offset + frame.data.bytes.length ≤ s.maxOffsetObserved
  | .receiver (.rstStream frame _) =>
      ∀ s ∈ d.receiver.removed, s.id = frame.streamId → frame.offset ≤ s.maxOffsetObserved
  | _ => True

instance (d : DuplexConn) : ∀ e, Decidable (d.CountsAll e)
  | .stopSending _ | .resetStream _ | .receiver (.removeStream _) | .receiver (.streamFrame _)
  | .receiver (.rstStream _ _) => by
      unfold CountsAll
      infer_instance
  | .receiver (.openStream _) | .receiver (.read _ _ _) | .receiver (.consume _ _ _)
  | .receiver (.sendMaxData _) | .receiver (.sendMaxStreamData _ _) | .sendClosed _ =>
      .isTrue trivial

/-- What holds of the streams as long as nothing goes uncounted. -/
structure Kept (d : DuplexConn) : Prop where
  accounting : d.receiver.Accounting
  arrived : ∀ s ∈ d.receiver.opened, d.arrived s.id = s.maxOffsetObserved
  unopened : ∀ id, id ∉ d.receiver.opened.map (·.id) → d.arrived id = 0
  held : ∀ s ∈ d.receiver.streams, s.recvState ≠ .open → s.Held
  removed : ∀ s ∈ d.receiver.removed, s.readSize = s.maxOffsetObserved

end DuplexConn

/-! ### What calls do to a stream -/

namespace QuicStreamState

variable {s s' : QuicStreamState} {c c' : RecvConn} {t : Now}

/-- A call for a frame that reaches to `endOffset` leaves nothing uncounted. -/
structure Keeps (s s' : QuicStreamState) (c c' : RecvConn) (endOffset : Nat) : Prop extends
    Accounted s s' c c' where
  reached : s'.maxOffsetObserved = max s.maxOffsetObserved endOffset
  held : (s.recvState ≠ .open → s.Held) → s'.recvState ≠ .open → s'.Held

theorem held_of_readSize (h : s.readSize = s.maxOffsetObserved) : s.Held :=
  fun _ hi => .inl (h ▸ hi)

/-- Without data in the read buffer all has been read. -/
theorem Held.readSize_eq (h : s.Held) (hs : s.Ok) (hunread : s.hasUnread = false) :
    s.readSize = s.maxOffsetObserved := by
  refine Nat.le_antisymm hs.readSize_le (Nat.le_of_not_lt fun hlt => ?_)
  rcases h _ hlt with hread | ⟨a, ha, hle, hstop⟩
  · exact absurd hread (Nat.lt_irrefl _)
  · obtain ⟨b, hb, rfl⟩ := List.mem_map.mp ha
    have hempty : b.data.empty = true := by
      simpa using List.any_eq_false.mp hunread b hb
    have hzero : b.data.chainLength = 0 := beq_iff_eq.mp hempty
    have hend : b.seg.stop = b.offset + b.data.chainLength := b.stop_seg
    have hoffset : b.offset ≤ s.readSize := hle
    omega

theorem Keeps.of_onlyReads (hacc : Accounted s s' c c') (h : OnlyReads s s') :
    Keeps s s' c c' 0 := by
  refine ⟨hacc, by rw [h.observed, Nat.max_zero], fun hheld hstate i hi => ?_⟩
  rw [h.unread]
  exact hheld (h.state ▸ hstate) i (h.observed ▸ hi)

/-- Dropping the read buffer and closing the stream leaves all counters alone. -/
theorem accounted_dropped (h : s.Ok) {recvState : StreamRecvState} :
    Accounted s { s with readBuffer := [], recvState } c c :=
  ⟨rfl, h.withoutBuffer.congr rfl rfl, rfl, rfl, Nat.le_refl _, rfl, fun hc => hc⟩

/-- A section moves the largest offset observed to its end. -/
theorem appendDataToReadBuffer_observed {frame : ReadStreamFrame} (hs : s.Ok)
    (h : s.appendDataToReadBuffer c (.new frame.data frame.offset frame.fin) = .ok ((), s', c')) :
    s'.maxOffsetObserved = max s.maxOffsetObserved
      (if frame.fin ∨ frame.data.bytes.length ≠ 0 then frame.offset + frame.data.bytes.length
        else 0) := by
  unfold appendDataToReadBuffer at h
  by_cases hempty : ¬ (StreamBuffer.new frame.data frame.offset frame.fin).eof = true ∧
      (StreamBuffer.new frame.data frame.offset frame.fin).data.chainLength = 0
  · have hnone : ¬ (frame.fin ∨ frame.data.bytes.length ≠ 0) := by
      rintro (hfin | hne)
      · exact hempty.1 hfin
      · exact hne hempty.2
    unfold QuicStreamLike.appendDataToReadBufferCommon at h
    rw [if_pos hempty] at h
    cases h
    rw [if_neg hnone, Nat.max_zero]
  · have hsome : frame.fin ∨ frame.data.bytes.length ≠ 0 := by
      have hnot : ¬ (¬ frame.fin = true ∧ frame.data.bytes.length = 0) := hempty
      tauto
    rw [if_pos hsome]
    split at h
    · cases h
    · rename_i like c₁ hcommon
      cases h
      rcases QuicStreamLike.appendDataToReadBufferCommon_ok hcommon with
        ⟨hnofin, hnone, -, -⟩ | ⟨final, -, -, rfl⟩
      · exact absurd ⟨hnofin, hnone⟩ hempty
      · obtain ⟨readBuffer, heq, -⟩ := @QuicStreamLike.insertUnread_spec
          (.new frame.data frame.offset frame.fin)
          { s.toQuicStreamLike with
            finalReadOffset := final
            maxOffsetObserved := max s.maxOffsetObserved
              (StreamBuffer.new frame.data frame.offset frame.fin).endOffset } [] hs.normal
        rw [heq]
        rfl

/-- A STREAM frame leaves nothing uncounted when it is accepted, or reaches no further than what
was observed. -/
theorem receiveReadStreamFrameSMHandler_keeps {frame : ReadStreamFrame} (hs : s.Ok)
    (hdiscarded : s.recvState = .closed → (frame.fin ∨ frame.data.bytes.length ≠ 0) →
      frame.offset + frame.data.bytes.length ≤ s.maxOffsetObserved)
    (h : s.receiveReadStreamFrameSMHandler c frame = .ok ((), s', c')) :
    Keeps s s' c c' (if frame.fin ∨ frame.data.bytes.length ≠ 0 then
      frame.offset + frame.data.bytes.length else 0) := by
  have hacc := receiveReadStreamFrameSMHandler_accounted hs h
  rcases receiveReadStreamFrameSMHandler_ok h with ⟨hopen, s₁, happend, rfl⟩ | ⟨hclosed, rfl, -⟩
  · have hok := (appendDataToReadBuffer_accounted hs happend).ok
    have hobserved := appendDataToReadBuffer_observed hs happend
    have hstate := (appendDataToReadBuffer_appended hs happend).state
    by_cases hall : s₁.isAllDataReceived = true
    · rw [if_pos hall] at hacc ⊢
      obtain ⟨final, hfinal, hcovered⟩ := (isAllDataReceived_iff hok).mp hall
      have hmax := (hok.final_eq final hfinal).1
      exact ⟨hacc, hobserved, fun _ _ i hi => hcovered i (hmax ▸ hi)⟩
    · rw [if_neg hall] at hacc ⊢
      exact ⟨hacc, hobserved, fun _ hne => absurd (hstate.trans hopen) hne⟩
  · refine ⟨hacc, ?_, fun hheld hstate => hheld hstate⟩
    split
    · rename_i hsome
      exact (Nat.max_eq_left (hdiscarded hclosed hsome)).symm
    · exact (Nat.max_zero _).symm

/-- A reset counts everything up to the final size as read. -/
theorem onResetQuicStream_readSize {frame : RstStreamFrame}
    (h : s.onResetQuicStream c frame t = .ok ((), s', c')) : s'.readSize = frame.offset := by
  unfold onResetQuicStream at h
  split at h
  · cases h
  · split at h
    · cases h
    · split at h
      · cases h
      · dsimp only at h
        split at h
        · rename_i hread
          cases h
          exact Nat.min_eq_right (Nat.le_of_lt hread)
        · split at h
          · cases h
          · cases h
            exact Nat.min_self _

theorem receiveRstStreamSMHandler_keeps {frame : RstStreamFrame} (hs : s.Ok)
    (h : s.receiveRstStreamSMHandler c frame t = .ok ((), s', c')) :
    Keeps s s' c c' frame.offset := by
  have hacc := receiveRstStreamSMHandler_accounted hs h
  obtain ⟨hreset, -⟩ := receiveRstStreamSMHandler_reset h
  have hmax : s'.maxOffsetObserved = frame.offset := (hacc.ok.final_eq _ hreset.final).1
  have hread : s'.readSize = frame.offset := by
    unfold receiveRstStreamSMHandler at h
    split at h
    · exact onResetQuicStream_readSize h
    · exact onResetQuicStream_readSize h
    · cases h
  exact ⟨hacc, by rw [hmax, Nat.max_eq_right hreset.observed],
    fun _ _ => held_of_readSize (hread.trans hmax.symm)⟩

theorem consumeDataFromQuicStream_keeps {amount : Nat} (hs : s.Ok)
    (h : s.consumeDataFromQuicStream c amount t = .ok ((), s', c')) : Keeps s s' c c' 0 := by
  refine .of_onlyReads (consumeDataFromQuicStream_accounted hs h) ?_
  unfold consumeDataFromQuicStream at h
  split at h
  · cases h
  · rename_i hread
    cases h
    exact readOrConsume_onlyReads hs hread

end QuicStreamState

/-! ### Steps -/

namespace Receiver

variable {r : Receiver}

theorem mem_setStream {s u : QuicStreamState} {streams : List QuicStreamState}
    (h : u ∈ setStream s streams) : u = s ∨ u ∈ streams := by
  induction streams with
  | nil => cases h
  | cons a rest ih =>
    rw [setStream] at h
    split at h
    · rcases List.mem_cons.mp h with rfl | h
      · exact .inl rfl
      · exact .inr (.tail _ h)
    · rcases List.mem_cons.mp h with rfl | h
      · exact .inr (.head _)
      · exact (ih h).imp_right (.tail _)

/-- No two streams have one id. -/
theorem Accounting.eq_of_id (hr : r.Accounting) {s u : QuicStreamState} (hs : s ∈ r.opened)
    (hu : u ∈ r.opened) (hid : s.id = u.id) : s = u :=
  List.inj_on_of_nodup_map hr.ids hs hu hid

theorem mem_of_getStream {s : QuicStreamState} {id : StreamId}
    (h : getStream r.streams id = some s) : s ∈ r.opened ∧ s.id = id :=
  ⟨List.mem_append_left _ (List.mem_of_find?_eq_some h), (getStream_eq_some h).1⟩

theorem Accounting.getStream_of_mem (hr : r.Accounting) {s : QuicStreamState}
    (hs : s ∈ r.streams) : getStream r.streams s.id = some s := by
  cases hget : getStream r.streams s.id with
  | none => exact absurd rfl (List.find?_eq_none.mp hget s hs ∘ beq_iff_eq.mpr)
  | some u =>
    obtain ⟨hu, hid⟩ := mem_of_getStream hget
    rw [hr.eq_of_id hu (List.mem_append_left _ hs) hid]

end Receiver

namespace DuplexConn

variable {d d' : DuplexConn} {id : StreamId}

theorem kept_new (nodeType : QuicNodeType) (settings : ReceiveSettings) (drop : Bool) :
    (new nodeType settings drop).Kept :=
  ⟨Receiver.accounting_new nodeType settings, nofun, fun _ _ => rfl, nofun, nofun⟩

/-- What was observed on removed streams is what arrived on them, and has been read. -/
theorem Kept.noLeak (hd : d.Kept) : d.NoLeak := by
  have hobserved := hd.accounting.observed
  have hread := hd.accounting.read
  have hremoved : d.receiver.removed.map (·.readSize) =
      d.receiver.removed.map (·.maxOffsetObserved) := List.map_congr_left hd.removed
  have harrived : (d.receiver.removed.map fun s => d.arrived s.id) =
      d.receiver.removed.map (·.maxOffsetObserved) :=
    List.map_congr_left fun s hs => hd.arrived s (List.mem_append_right _ hs)
  rw [Receiver.opened, List.map_append, List.sum_append] at hobserved hread
  rw [hremoved] at hread
  refine ⟨by omega, ?_⟩
  rw [harrived]
  exact hobserved

theorem arrivedUpTo_of_ne {endOffset : Nat} {i : StreamId} (hne : i ≠ id) :
    d.arrivedUpTo id endOffset i = d.arrived i :=
  if_neg fun h => hne h.1

theorem arrivedUpTo_self {endOffset : Nat} {s : QuicStreamState} (hs : s ∈ d.receiver.opened)
    (hid : s.id = id) : d.arrivedUpTo id endOffset id = max (d.arrived id) endOffset := by
  have hany : d.receiver.opened.any (·.id == id) = true :=
    List.any_eq_true.mpr ⟨s, hs, beq_iff_eq.mpr hid⟩
  simp only [arrivedUpTo, hany, and_self, if_true]

theorem arrivedUpTo_unopened {endOffset : Nat} {i : StreamId}
    (hi : i ∉ d.receiver.opened.map (·.id)) : d.arrivedUpTo id endOffset i = d.arrived i := by
  refine if_neg ?_
  rintro ⟨rfl, hany⟩
  obtain ⟨u, hu, hid⟩ := List.any_eq_true.mp hany
  exact hi (List.mem_map.mpr ⟨u, hu, beq_iff_eq.mp hid⟩)

theorem arrivedUpTo_zero : d.arrivedUpTo id 0 = d.arrived := by
  funext i
  unfold arrivedUpTo
  split
  · exact Nat.max_zero _
  · rfl

/-- A call on a stream, for a frame that reaches to `endOffset`. When the stream was removed
nothing is called, and the frame reaches no further than what was observed. -/
theorem Kept.onStream {α : Type} {f : QuicStreamState → RecvConn → OnStream α} {out : Option α}
    {r' : Receiver} {endOffset : Nat} (hd : d.Kept) (hacc : r'.Accounting)
    (hf : ∀ s ∈ Receiver.getStream d.receiver.streams id, ∀ s' c c' a, s.Ok →
      f s c = .ok (a, s', c') → QuicStreamState.Keeps s s' c c' endOffset)
    (hgone : ∀ s ∈ d.receiver.removed, s.id = id → endOffset ≤ s.maxOffsetObserved)
    (h : d.receiver.onStream id f = .ok (out, r')) :
    Kept { d with receiver := r', arrived := d.arrivedUpTo id endOffset } := by
  rcases Receiver.onStream_ok h with ⟨hget, rfl⟩ | ⟨s, a, s', c', hget, hcall, rfl⟩
  · refine ⟨hacc, fun u hu => ?_, fun i hi => ?_, hd.held, hd.removed⟩
    · have hu : u ∈ d.receiver.opened := hu
      change d.arrivedUpTo id endOffset u.id = _
      by_cases hid : u.id = id
      · have hmem : u ∈ d.receiver.removed := (List.mem_append.mp hu).resolve_left fun hmem =>
          List.find?_eq_none.mp hget u hmem (beq_iff_eq.mpr hid)
        have hle := hgone u hmem hid
        rw [hid, arrivedUpTo_self hu hid, ← hid, hd.arrived u hu]
        exact Nat.max_eq_left hle
      · exact (arrivedUpTo_of_ne hid).trans (hd.arrived u hu)
    · have hi : i ∉ d.receiver.opened.map (·.id) := hi
      change d.arrivedUpTo id endOffset i = 0
      exact (arrivedUpTo_unopened hi).trans (hd.unopened i hi)
  · obtain ⟨hs, hid⟩ := Receiver.mem_of_getStream hget
    have hkeeps := hf s hget s' _ c' a (hd.accounting.ok s hs) hcall
    have hid' : s'.id = id := hkeeps.id.trans hid
    obtain ⟨-, pre, post, hstreams, hset⟩ := Receiver.getStream_eq_some hget
    have hset := hset s' hid'
    refine ⟨hacc, fun u hu => ?_, fun i hi => ?_, fun u hu hstate => ?_, hd.removed⟩
    · change d.arrivedUpTo id endOffset u.id = _
      by_cases huid : u.id = id
      · have hmem : s' ∈ Receiver.setStream s' d.receiver.streams := by simp [hset]
        obtain rfl := hacc.eq_of_id hu (List.mem_append_left _ hmem) (huid.trans hid'.symm)
        rw [huid, arrivedUpTo_self hs hid, ← hid, hd.arrived s hs]
        exact hkeeps.reached.symm
      · refine (arrivedUpTo_of_ne huid).trans (hd.arrived u ?_)
        rcases List.mem_append.mp hu with hu | hu
        · rcases Receiver.mem_setStream hu with rfl | hu
          · exact absurd hid' huid
          · exact List.mem_append_left _ hu
        · exact List.mem_append_right _ hu
    · have hids : (Receiver.setStream s' d.receiver.streams ++ d.receiver.removed).map (·.id) =
          d.receiver.opened.map (·.id) := by
        rw [hset, Receiver.opened, hstreams]
        simp only [List.map_append, List.map_cons, hid', hid]
      have hi : i ∉ d.receiver.opened.map (·.id) := hids ▸ hi
      change d.arrivedUpTo id endOffset i = 0
      exact (arrivedUpTo_unopened hi).trans (hd.unopened i hi)
    · rcases Receiver.mem_setStream hu with rfl | hu
      · exact hkeeps.held (hd.held s (List.mem_of_find?_eq_some hget)) hstate
      · exact hd.held u hu hstate

/-- The same for a call that handles no frame. -/
theorem Kept.onStream_zero {α : Type} {f : QuicStreamState → RecvConn → OnStream α}
    {out : Option α} {r' : Receiver} (hd : d.Kept) (hacc : r'.Accounting)
    (hf : ∀ s s' c c' a, s.Ok → f s c = .ok (a, s', c') → QuicStreamState.Keeps s s' c c' 0)
    (h : d.receiver.onStream id f = .ok (out, r')) : Kept { d with receiver := r' } := by
  have hkept := hd.onStream hacc (fun s _ s' c c' a hs h => hf s s' c c' a hs h)
    (fun _ _ _ => Nat.zero_le _) h
  rwa [arrivedUpTo_zero] at hkept

theorem Kept.openStream {r' : Receiver} (hd : d.Kept) (hacc : r'.Accounting)
    (h : d.receiver.step (.openStream id) = .ok r') : Kept { d with receiver := r' } := by
  rw [Receiver.step] at h
  split at h
  · cases h
    exact hd
  · rename_i hnew
    cases h
    have hunopened : id ∉ d.receiver.opened.map (·.id) := by
      intro hmem
      obtain ⟨u, hu, hid⟩ := List.mem_map.mp hmem
      exact hnew (List.any_eq_true.mpr ⟨u, hu, beq_iff_eq.mpr hid⟩)
    refine ⟨hacc, fun u hu => ?_, fun i hi => hd.unopened i fun hmem => hi ?_, fun u hu hstate => ?_,
      hd.removed⟩
    · rcases List.mem_append.mp hu with hu | hu
      · rcases List.mem_append.mp hu with hu | hu
        · exact hd.arrived u (List.mem_append_left _ hu)
        · rw [List.mem_singleton.mp hu]
          exact hd.unopened id hunopened
      · exact hd.arrived u (List.mem_append_right _ hu)
    · obtain ⟨u, hu, rfl⟩ := List.mem_map.mp hmem
      refine List.mem_map_of_mem (List.mem_append.mpr ?_)
      exact (List.mem_append.mp hu).imp_left (List.mem_append_left _)
    · rcases List.mem_append.mp hu with hu | hu
      · exact hd.held u hu hstate
      · rw [List.mem_singleton.mp hu]
        exact fun i hi => absurd hi (Nat.not_lt_zero i)

/-- A removed stream without data in its read buffer has been read. -/
theorem Kept.removeStream {r' : Receiver} (hd : d.Kept) (hacc : r'.Accounting)
    (hC : d.CountsAll (.receiver (.removeStream id))) (hstays : d.stays (.removeStream id) = false)
    (h : d.receiver.step (.removeStream id) = .ok r') : Kept { d with receiver := r' } := by
  cases h
  have hperm := Receiver.opened_removeStream_perm d.receiver id
  refine ⟨hacc, fun u hu => hd.arrived u (hperm.mem_iff.mp hu), fun i hi => hd.unopened i ?_,
    fun u hu => hd.held u (List.mem_of_mem_filter hu), fun u hu => ?_⟩
  · exact fun hmem => hi ((hperm.map _).mem_iff.mpr hmem)
  · rcases List.mem_append.mp hu with hu | hu
    · exact hd.removed u hu
    · obtain ⟨hmem, hid⟩ : u ∈ d.receiver.streams ∧ u.id = id := by simpa using hu
      subst hid
      have hget := hd.accounting.getStream_of_mem hmem
      have hterminal : u.inTerminalStates (d.sendState u.id) = true := by
        simpa [stays, hget] using hstays
      have hclosed : u.recvState ≠ .open := by
        intro hopen
        simp [QuicStreamState.inTerminalStates, hopen] at hterminal
      exact (hd.held u hmem hclosed).readSize_eq
        (hd.accounting.ok u (List.mem_append_left _ hmem)) (hC u hget hterminal)

theorem Kept.receiver {e : ReceiverEvent} {r' : Receiver} (hd : d.Kept)
    (hC : d.CountsAll (.receiver e)) (hstays : d.stays e = false) (h : d.receiver.step e = .ok r') :
    Kept { d with receiver := r', arrived := d.arrivedAfter e } := by
  have hacc := (Receiver.step_accounting hd.accounting h).1
  cases e with
  | openStream id => exact hd.openStream hacc h
  | removeStream id => exact hd.removeStream hacc hC hstays h
  | streamFrame frame =>
    obtain ⟨out, h⟩ := Receiver.map_snd_eq_ok.mp h
    refine hd.onStream hacc (fun s hget s' c c' a hs hcall => ?_) (fun s hs hid => ?_) h
    · obtain ⟨hmem, hid⟩ := Receiver.mem_of_getStream hget
      exact QuicStreamState.receiveReadStreamFrameSMHandler_keeps hs
        (fun hclosed => hC s hmem hid (.inr hclosed)) hcall
    · split
      · rename_i hsome
        exact hC s (List.mem_append_right _ hs) hid (.inl hs) hsome
      · exact Nat.zero_le _
  | rstStream frame t =>
    obtain ⟨out, h⟩ := Receiver.map_snd_eq_ok.mp h
    exact hd.onStream hacc (fun s _ s' c c' a hs hcall =>
      QuicStreamState.receiveRstStreamSMHandler_keeps hs hcall) hC h
  | read id amount t =>
    obtain ⟨out, h⟩ := Receiver.map_snd_eq_ok.mp h
    exact hd.onStream_zero hacc (fun s s' c c' a hs hcall => .of_onlyReads
      (QuicStreamState.readDataFromQuicStream_accounted hs hcall)
      (QuicStreamState.readOrConsume_onlyReads hs hcall)) h
  | consume id amount t =>
    obtain ⟨out, h⟩ := Receiver.map_snd_eq_ok.mp h
    exact hd.onStream_zero hacc (fun s s' c c' a hs hcall =>
      QuicStreamState.consumeDataFromQuicStream_keeps hs hcall) h
  | sendMaxData sentTime =>
    cases h
    exact ⟨hacc, hd.arrived, hd.unopened, hd.held, hd.removed⟩
  | sendMaxStreamData id sentTime =>
    obtain ⟨out, h⟩ := Receiver.map_snd_eq_ok.mp h
    refine hd.onStream_zero hacc (fun s s' c c' a hs hcall => ?_) h
    cases hcall
    exact ⟨QuicStreamState.onStreamWindowUpdateSent_accounted hs rfl, (Nat.max_zero _).symm,
      fun hheld => hheld⟩

/-- Dropping the read buffer of a stream changes no counter. -/
theorem Kept.modify {f : QuicStreamState → QuicStreamState} (hd : d.Kept)
    (hf : ∀ s, f s = s ∨ ∃ recvState, f s = { s with readBuffer := [], recvState })
    (hheld : ∀ s ∈ Receiver.getStream d.receiver.streams id, s.Ok →
      (s.recvState ≠ .open → s.Held) → (f s).recvState ≠ .open → (f s).Held) :
    (d.modify id f).Kept := by
  have hacc : ∀ s c, s.Ok → QuicStreamState.Accounted s (f s) c c ∧
      (f s).maxOffsetObserved = max s.maxOffsetObserved 0 := by
    intro s c hs
    rcases hf s with h | ⟨recvState, h⟩
    · rw [h]
      exact ⟨.refl hs, (Nat.max_zero _).symm⟩
    · rw [h]
      exact ⟨QuicStreamState.accounted_dropped hs, (Nat.max_zero _).symm⟩
  cases hget : Receiver.getStream d.receiver.streams id with
  | none =>
    simp only [DuplexConn.modify, hget]
    exact hd
  | some s =>
    have hcall : d.receiver.onStream id (fun s c => .ok ((), f s, c)) =
        .ok (some (), (d.modify id f).receiver) := by
      simp only [Receiver.onStream, DuplexConn.modify, hget]
    have hsame : d.modify id f = { d with
        receiver := (d.modify id f).receiver, arrived := d.arrivedUpTo id 0 } := by
      rw [arrivedUpTo_zero]
      simp only [DuplexConn.modify, hget]
    rw [hsame]
    refine hd.onStream ?_ (fun s hs s' c c' a hok h => ?_) (fun _ _ _ => Nat.zero_le _) hcall
    · refine (Receiver.onStream_accounting (fun s s' c c' a hs h => ?_) hd.accounting hcall).1
      cases h
      exact (hacc s c hs).1
    · cases h
      obtain ⟨hacc, hmax⟩ := hacc s c hok
      exact ⟨hacc, hmax, hheld s hs hok⟩

theorem Kept.stopSending (hd : d.Kept) (hC : d.CountsAll (.stopSending id)) :
    (d.stopSending id).Kept := by
  unfold DuplexConn.stopSending
  by_cases hsending : isSendingStream d.receiver.conn.nodeType id = true
  · rw [if_pos hsending]
    exact hd
  · rw [if_neg hsending]
    refine hd.modify (fun s => ?_) fun s hs hok hheld hstate => ?_
    · split
      · exact .inl rfl
      · exact .inr ⟨.closed, rfl⟩
    · by_cases hkept : s.recvState = .closed ∨ ¬ d.dropIngressOnStopSending
      · rw [if_pos hkept] at hstate ⊢
        exact hheld hstate
      · rw [if_neg hkept] at hstate ⊢
        obtain ⟨hclosed, hdrop⟩ := not_or.mp hkept
        have hle := hC (Bool.not_eq_true _ ▸ hsending) (Classical.not_not.mp hdrop) s hs hclosed
        exact QuicStreamState.held_of_readSize (Nat.le_antisymm hok.readSize_le hle)

theorem setSendState_eq (d : DuplexConn) (id : StreamId) (state : StreamSendState) :
    ∃ sendState, d.setSendState id state = { d with sendState } := by
  unfold setSendState
  split <;> exact ⟨_, rfl⟩

theorem Kept.setSendState (hd : d.Kept) (id : StreamId) (state : StreamSendState) :
    (d.setSendState id state).Kept := by
  obtain ⟨sendState, hsend⟩ := d.setSendState_eq id state
  rw [hsend]
  exact ⟨hd.accounting, hd.arrived, hd.unopened, hd.held, hd.removed⟩

theorem Kept.resetStream (hd : d.Kept) (hopen : d.sendState id = .open)
    (hC : d.CountsAll (.resetStream id)) :
    ((d.setSendState id .resetSent).modify id (·.resetQuicStream)).Kept := by
  have hstreams : (d.setSendState id .resetSent).receiver = d.receiver := by
    obtain ⟨sendState, hsend⟩ := d.setSendState_eq id .resetSent
    rw [hsend]
  refine (hd.setSendState id .resetSent).modify (fun s => .inr ⟨s.recvState, rfl⟩)
    fun s hs hok hheld hstate => ?_
  rw [hstreams] at hs
  exact QuicStreamState.held_of_readSize ((hheld hstate).readSize_eq hok (hC hopen s hs hstate))

theorem step_kept {e : DuplexConnEvent} (hd : d.Kept) (hC : d.CountsAll e)
    (h : d.step e = .ok d') : d'.Kept := by
  cases e with
  | receiver e =>
    rw [step] at h
    split at h
    · cases h
      exact hd
    · rename_i hstays
      split at h
      · cases h
      · rename_i r hr
        cases h
        exact hd.receiver hC (by simpa using hstays) hr
  | stopSending id =>
    cases h
    exact hd.stopSending hC
  | resetStream id =>
    rw [step] at h
    split at h
    · rename_i hopen
      cases h
      exact hd.resetStream hopen hC
    · cases h
      exact hd
  | sendClosed id =>
    rw [step] at h
    split at h
    · cases h
      exact hd
    · cases h
      exact hd.setSendState id .closed

/-! ### Runs -/

/-- No credit is lost along a run in which nothing goes uncounted. -/
theorem noLeak_of_countsAll (nodeType : QuicNodeType) (settings : ReceiveSettings)
    (dropIngressOnStopSending : Bool) (es : List DuplexConnEvent) (d : DuplexConn)
    (hmeets : Meets step CountsAll (new nodeType settings dropIngressOnStopSending) es)
    (hrun : es.foldlM step (new nodeType settings dropIngressOnStopSending) = .ok d) :
    d.NoLeak := by
  have hnew := kept_new nodeType settings dropIngressOnStopSending
  exact (run_invariant_of_meets (fun _ _ _ hd hC h => step_kept hd hC h) hnew hmeets hrun).noLeak

/-- Three bytes arrive, the application asks the peer to stop and resets its own half, and the
stream is removed. -/
def abandoned (read : List DuplexConnEvent) : List DuplexConnEvent :=
  [.receiver (.openStream 0),
    .receiver (.streamFrame ⟨0, 0, some (IOBuf.wrapBuffer [1, 2, 3]), false⟩)] ++ read ++
  [.stopSending 0, .resetStream 0, .sendClosed 0, .receiver (.removeStream 0)]

/-- When the three bytes are read before, nothing is lost. -/
theorem abandoned_after_read :
    ∃ d, (abandoned [.receiver (.read 0 0 ⟨0, 0⟩)]).foldlM step
        (new .server Receiver.tenBytes true) = .ok d ∧
      d.receiver.streams = [] ∧ d.NoLeak :=
  ⟨_, rfl, rfl, noLeak_of_countsAll .server Receiver.tenBytes true
    (abandoned [.receiver (.read 0 0 ⟨0, 0⟩)]) _ (by decide) rfl⟩

/-- The three bytes are never counted as read. -/
theorem abandoned_leaks :
    ∃ d, (abandoned []).foldlM step (new .server Receiver.tenBytes true) = .ok d ∧
      d.receiver.streams = [] ∧ d.receiver.conn.flowControlState.sumMaxObservedOffset = 3 ∧
      d.receiver.conn.flowControlState.sumCurReadOffset = 0 ∧ ¬ d.NoLeak := by
  refine ⟨_, rfl, rfl, rfl, rfl, fun hleak => ?_⟩
  have : 3 + 0 = 0 + 0 := hleak.read
  omega

end DuplexConn

end MasqueQuic
