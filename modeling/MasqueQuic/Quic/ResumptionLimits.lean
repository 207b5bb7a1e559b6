/-
The limits that are announced and those that are enforced after a session has been resumed.

An accepted ticket holds windows that are at most those of the configuration. They replace the windows
that are enforced, while the client has been told those of the configuration. So the limits that are
enforced cover those that are announced exactly if the windows of the ticket are those of the
configuration; the numbers of streams make no difference, since the stream manager keeps the limits that
it was made with (`announced_enforced_iff`). In that case no frame of a client that respects what it has
been told is answered with `FLOW_CONTROL_ERROR` or `STREAM_LIMIT_ERROR`, whatever has happened before.
-/

import MasqueQuic.Quic.ReceiveAccounting
import MasqueQuic.Quic.Resumption
import MasqueQuic.Quic.StreamLimits

namespace MasqueQuic

/-! ### What receiving leaves alone -/

/-- New streams start with the same windows. -/
def RecvConn.SameSettings (c c' : RecvConn) : Prop :=
  c'.nodeType = c.nodeType ∧ c'.transportSettings = c.transportSettings

namespace RecvConn.SameSettings

theorem refl (c : RecvConn) : SameSettings c c := ⟨rfl, rfl⟩

theorem trans {c c' c'' : RecvConn} (h : SameSettings c c') (h' : SameSettings c' c'') :
    SameSettings c c'' :=
  ⟨h'.1.trans h.1, h'.2.trans h.2⟩

theorem initialWindow {c c' : RecvConn} (h : SameSettings c c') (id : StreamId) :
    c'.initialWindow id = c.initialWindow id := by
  unfold RecvConn.initialWindow
  rw [h.1, h.2]

end RecvConn.SameSettings

section Receiving

open RecvConn (SameSettings)

variable {c c' : RecvConn} {s s' : QuicStreamState} {t : Now}

theorem maybeSendConnWindowUpdate_settings (h : maybeSendConnWindowUpdate c t = .ok c') :
    SameSettings c c' := by
  unfold maybeSendConnWindowUpdate at h
  dsimp only at h
  split at h
  · cases h
    exact .refl c
  · split at h
    · cases h
      exact .refl c
    · split at h
      · split at h <;> cases h
        exact ⟨rfl, rfl⟩
      · cases h
        exact ⟨rfl, rfl⟩

theorem maybeSendStreamWindowUpdate_settings :
    SameSettings c (maybeSendStreamWindowUpdate s c t) := by
  unfold maybeSendStreamWindowUpdate
  split
  · exact .refl c
  · split
    · exact .refl c
    · exact ⟨rfl, rfl⟩

theorem updateFlowControlOnRead_settings {last : Nat}
    (h : updateFlowControlOnRead s last c t = .ok c') : SameSettings c c' := by
  unfold updateFlowControlOnRead at h
  dsimp only at h
  split at h
  · cases h
  · split at h
    · cases h
    · rename_i hsend
      cases h
      have hconn := maybeSendConnWindowUpdate_settings hsend
      exact .trans ⟨hconn.1, hconn.2⟩ maybeSendStreamWindowUpdate_settings

namespace QuicStreamState

open QuicStreamLike

theorem receiveReadStreamFrameSMHandler_settings {frame : ReadStreamFrame}
    (h : s.receiveReadStreamFrameSMHandler c frame = .ok ((), s', c')) : SameSettings c c' := by
  have happend : ∀ {s'' c''}, s.appendDataToReadBuffer c (.new frame.data frame.offset frame.fin) =
      .ok ((), s'', c'') → SameSettings c c'' := by
    intro s'' c'' h
    unfold appendDataToReadBuffer at h
    split at h
    · cases h
    · rename_i happend
      cases h
      rcases appendDataToReadBufferCommon_ok happend with ⟨-, -, -, rfl⟩ | hbuffer
      · exact .refl _
      · obtain ⟨final, -, hvisit, -⟩ := hbuffer
        obtain ⟨-, -, rfl⟩ := updateFlowControlOnStreamData_ok hvisit
        exact ⟨rfl, rfl⟩
  unfold receiveReadStreamFrameSMHandler at h
  split at h
  · split at h
    · cases h
    · rename_i hcall
      split at h <;> cases h <;> exact happend hcall
  · split at h <;> cases h
    exact .refl c
  · cases h

theorem onResetQuicStream_settings {frame : RstStreamFrame}
    (h : s.onResetQuicStream c frame t = .ok ((), s', c')) : SameSettings c c' := by
  unfold onResetQuicStream at h
  dsimp only at h
  split at h
  · cases h
  · split at h
    · cases h
    · split at h
      · cases h
      · rename_i hvisit
        obtain ⟨-, -, rfl⟩ := updateFlowControlOnStreamData_ok hvisit
        split at h
        · cases h
          exact ⟨rfl, rfl⟩
        · split at h
          · cases h
          · rename_i hread
            cases h
            have hsame := updateFlowControlOnRead_settings hread
            exact ⟨hsame.1, hsame.2⟩

theorem receiveRstStreamSMHandler_settings {frame : RstStreamFrame}
    (h : s.receiveRstStreamSMHandler c frame t = .ok ((), s', c')) : SameSettings c c' := by
  unfold receiveRstStreamSMHandler at h
  split at h
  · exact onResetQuicStream_settings h
  · exact onResetQuicStream_settings h
  · cases h

theorem readOrConsume_settings {amount : Nat} {sinkData : Bool} {out : Buf × Bool}
    (h : s.readOrConsume c amount sinkData t = .ok (out, s', c')) : SameSettings c c' := by
  unfold readOrConsume at h
  dsimp only at h
  split at h
  · split at h <;> cases h <;> exact .refl c
  · split at h
    · cases h
    · split at h
      · cases h
      · rename_i hread
        split at h <;> cases h <;> exact updateFlowControlOnRead_settings hread

end QuicStreamState

namespace Receiver

variable {r r' : Receiver} {id : StreamId}

theorem onStream_settings {α : Type} {f : QuicStreamState → RecvConn → OnStream α}
    (hf : ∀ s s' c c' a, f s c = .ok (a, s', c') → SameSettings c c')
    (h : (·.2) <$> r.onStream id f = .ok r') : SameSettings r.conn r'.conn := by
  obtain ⟨out, h⟩ := map_snd_eq_ok.mp h
  obtain ⟨-, rfl⟩ | ⟨s, a, s', c', -, hcall, rfl⟩ := onStream_ok h
  · exact .refl _
  · exact hf _ _ _ _ _ hcall

theorem step_settings {e : ReceiverEvent} (h : r.step e = .ok r') : SameSettings r.conn r'.conn := by
  cases e with
  | openStream id =>
    rw [step] at h
    split at h <;> cases h <;> exact .refl _
  | removeStream id =>
    cases h
    exact .refl _
  | streamFrame frame =>
    exact onStream_settings (fun _ _ _ _ _ h =>
      QuicStreamState.receiveReadStreamFrameSMHandler_settings h) h
  | rstStream frame t =>
    exact onStream_settings (fun _ _ _ _ _ h =>
      QuicStreamState.receiveRstStreamSMHandler_settings h) h
  | read id amount t =>
    exact onStream_settings (fun _ _ _ _ _ h => QuicStreamState.readOrConsume_settings h) h
  | consume id amount t =>
    refine onStream_settings (fun s s' c c' a h => ?_) h
    unfold QuicStreamState.consumeDataFromQuicStream at h
    split at h
    · cases h
    · rename_i hread
      cases h
      exact QuicStreamState.readOrConsume_settings hread
  | sendMaxData sentTime =>
    cases h
    exact ⟨rfl, rfl⟩
  | sendMaxStreamData id sentTime =>
    refine onStream_settings (fun s s' c c' a h => ?_) h
    cases h
    exact ⟨rfl, rfl⟩

end Receiver

/-! ### Which frames exceed a limit -/

/-- Neither `FLOW_CONTROL_ERROR` nor `STREAM_LIMIT_ERROR`. -/
def WithinLimits (code : Option TransportErrorCode) : Prop :=
  code ≠ some .flowControlError ∧ code ≠ some .streamLimitError

instance (code : Option TransportErrorCode) : Decidable (WithinLimits code) :=
  inferInstanceAs (Decidable (_ ∧ _))

theorem updateFlowControlOnStreamData_limits {x : QuicException} {endOffset : Nat}
    (h : updateFlowControlOnStreamData s.id s.flowControlState.advertisedMaxOffset
      s.maxOffsetObserved endOffset c = .error x) :
    WithinLimits x.code ∨ Receiver.Exceeds s c endOffset := by
  rw [updateFlowControlOnStreamData_eq] at h
  split at h
  · next hstream => exact .inr (.inl hstream)
  · split at h
    · cases h
      exact .inl (by decide)
    · split at h
      · next hconn => exact .inr (.inr hconn)
      · cases h

theorem checkFinalOffset_limits {s : QuicStreamLike} {buffer : StreamBuffer} {x : QuicException}
    (h : s.checkFinalOffset buffer = .error x) : WithinLimits x.code := by
  have hcode : x.code = some .finalSizeError := by
    unfold QuicStreamLike.checkFinalOffset at h
    repeat' split at h
    all_goals first
      | cases h
        rfl
      | cases h
  rw [hcode]
  decide

namespace QuicStreamState

open QuicStreamLike

theorem appendDataToReadBuffer_limits {buffer : StreamBuffer} {x : QuicException}
    (h : s.appendDataToReadBuffer c buffer = .error (x, s', c')) :
    WithinLimits x.code ∨ Receiver.Exceeds s c buffer.endOffset := by
  unfold appendDataToReadBuffer appendDataToReadBufferCommon at h
  split at h
  · next hcommon =>
      cases h
      split at hcommon
      · cases hcommon
      · split at hcommon
        · next hfinal =>
            cases hcommon
            exact .inl (checkFinalOffset_limits hfinal)
        · dsimp only at hcommon
          split at hcommon
          · next hvisit =>
              cases hcommon
              exact updateFlowControlOnStreamData_limits hvisit
          · cases hcommon
  · cases h

theorem receiveReadStreamFrameSMHandler_limits {frame : ReadStreamFrame} {x : QuicException}
    (h : s.receiveReadStreamFrameSMHandler c frame = .error (x, s', c')) :
    WithinLimits x.code ∨ Receiver.Exceeds s c (frame.offset + frame.data.bytes.length) := by
  unfold receiveReadStreamFrameSMHandler at h
  split at h
  · split at h
    · next happend =>
        cases h
        exact appendDataToReadBuffer_limits happend
    · split at h <;> cases h
  · split at h <;> cases h
    exact .inl (by decide)
  · cases h
    exact .inl ⟨by simp [invalidTransition, QuicException.code],
      by simp [invalidTransition, QuicException.code]⟩

theorem onResetQuicStream_limits {frame : RstStreamFrame} {x : QuicException}
    (h : s.onResetQuicStream c frame t = .error (x, s', c')) :
    WithinLimits x.code ∨ Receiver.Exceeds s c frame.offset := by
  unfold onResetQuicStream at h
  dsimp only at h
  split at h
  · cases h
    exact .inl ⟨by simp [QuicException.code], by simp [QuicException.code]⟩
  · split at h
    · cases h
      exact .inl ⟨by simp [QuicException.code], by simp [QuicException.code]⟩
    · split at h
      · next hvisit =>
          cases h
          exact updateFlowControlOnStreamData_limits hvisit
      · split at h
        · cases h
        · split at h
          · next hread =>
              cases h
              cases updateFlowControlOnRead_error hread with
              | inl heq =>
                rw [heq]
                exact .inl (by decide)
              | inr heq =>
                rw [heq]
                exact .inl (by decide)
          · cases h

theorem receiveRstStreamSMHandler_limits {frame : RstStreamFrame} {x : QuicException}
    (h : s.receiveRstStreamSMHandler c frame t = .error (x, s', c')) :
    WithinLimits x.code ∨ Receiver.Exceeds s c frame.offset := by
  unfold receiveRstStreamSMHandler at h
  split at h
  · exact onResetQuicStream_limits h
  · have hreset := onResetQuicStream_limits (s := { s with recvState := .closed }) h
    exact hreset
  · cases h
    exact .inl ⟨by simp [invalidTransition, QuicException.code],
      by simp [invalidTransition, QuicException.code]⟩

end QuicStreamState

namespace Receiver

variable {r r' : Receiver} {id : StreamId}

/-- A frame for which the receiver answers with one of the two codes exceeds a limit. -/
theorem step_limits {e : ReceiverEvent} {x : QuicException} {endOffset : Nat} {fin : Bool}
    (hframe : frameEnd e = some (id, endOffset, fin)) (h : r.step e = .error (x, r')) :
    WithinLimits x.code ∨ ∃ s, getStream r.streams id = some s ∧ Exceeds s r.conn endOffset := by
  cases e with
  | streamFrame frame =>
    cases hframe
    obtain ⟨s, s', c', hget, hcall⟩ := onStream_eq_error h
    refine (QuicStreamState.receiveReadStreamFrameSMHandler_limits hcall).imp_right fun hex => ?_
    exact ⟨s, hget, hex⟩
  | rstStream frame t =>
    cases hframe
    obtain ⟨s, s', c', hget, hcall⟩ := onStream_eq_error h
    refine (QuicStreamState.receiveRstStreamSMHandler_limits hcall).imp_right fun hex => ?_
    exact ⟨s, hget, hex⟩
  | openStream => cases hframe
  | removeStream => cases hframe
  | read => cases hframe
  | consume => cases hframe
  | sendMaxData => cases hframe
  | sendMaxStreamData => cases hframe

end Receiver

end Receiving

namespace PeerStreams

variable {m m' : PeerStreams} {streamId : Nat} {streamGroupId : Option StreamGroupId}

/-- Every limit that the peer has been told is enforced. -/
def ToldEnforced (m : PeerStreams) : Prop :=
  ∀ d, ∀ limit ∈ m.history.advertised d, limit ≤ (m.remote d).maxStreams

theorem ToldEnforced.removed {r : RemoteStreams} {credit : StreamCredit} (hm : m.Inv)
    (htold : m.ToldEnforced)
    (hremove : (m.remote (getStreamDirectionality streamId)).removeClosedStream
      m.streamLimitWindowingFraction streamId = .ok (r, credit)) :
    (m.removed streamId r credit).maybeSendStreamLimitUpdates.ToldEnforced := by
  obtain ⟨-, hcases⟩ := RemoteStreams.removeClosedStream_cases (hm.remote _) hremove
  have hkind : ∀ limit ∈ r.remoteStreamLimitUpdate.toList ++
      m.history.advertised (getStreamDirectionality streamId), limit ≤ r.maxStreams := by
    intro limit hlimit
    obtain rfl | ⟨new, -, -, rfl⟩ := hcases
    · change limit ∈ (m.remote _).remoteStreamLimitUpdate.toList ++ _ at hlimit
      rw [hm.told] at hlimit
      exact htold _ limit hlimit
    · rw [RemoteStreams.maxStreams_withLimit ((hm.remote _).erased _)]
      cases List.mem_cons.mp hlimit with
      | inl heq => exact heq.trans_le (Nat.le_max_left _ _)
      | inr hlimit => exact (htold _ limit hlimit).trans (Nat.le_max_right _ _)
  have hother : ∀ d, ∀ limit ∈ (m.remote d).remoteStreamLimitUpdate.toList ++
      m.history.advertised d, limit ≤ (m.remote d).maxStreams := by
    intro d limit hlimit
    rw [hm.told] at hlimit
    exact htold d limit hlimit
  rw [maybeSendStreamLimitUpdates_eq]
  exact forall_setRemote (P := fun d r => ∀ limit ∈ r.remoteStreamLimitUpdate.toList ++
    m.history.advertised d, limit ≤ r.maxStreams) hkind fun d _ => hother d

theorem step_toldEnforced {e : PeerStreamEvent} (hm : m.Inv) (htold : m.ToldEnforced)
    (hstep : m.step e = .ok m') : m'.ToldEnforced := by
  obtain hsame | ⟨streamId, r, credit, -, hr, rfl⟩ | ⟨bidi, uni, -, -, rfl⟩ := step_cases hm hstep
  · intro d limit hlimit
    rw [hsame.advertised] at hlimit
    rw [hsame.maxStreams]
    exact htold d limit hlimit
  · exact htold.removed hm hr
  · intro d limit hlimit
    cases d <;> exact htold _ limit hlimit

/-- The frame names a stream below a limit that the peer has been told, and a group that there is. -/
def Respected (m : PeerStreams) (streamId : StreamId) (streamGroupId : Option StreamGroupId) : Prop :=
  (∃ limit ∈ m.history.advertised (getStreamDirectionality streamId),
    streamId < limit * kStreamIncrement +
      initialRemoteStreamId m.nodeType (getStreamDirectionality streamId)) ∧
    ∀ groupId, streamGroupId = some groupId →
      groupId < min (u64 (m.advertisedMaxStreamGroups * kStreamGroupIncrement)) kMaxStreamGroupId

theorem validateStream_limits (hrespected : m.Respected streamId streamGroupId) :
    Ends (fun f => WithinLimits f.code) (m.validateStream streamId streamGroupId) fun _ => True := by
  unfold validateStream
  refine Ends.ite (fun _ => .error (by decide)) fun _ => ?_
  refine Ends.ite (fun _ => .error (by decide)) fun _ => ?_
  refine Ends.ite (fun _ => .error (by decide)) fun _ => ?_
  cases streamGroupId with
  | none => exact .ok trivial
  | some groupId =>
    have hgroup := hrespected.2 groupId rfl
    unfold validateStreamGroup
    refine Ends.ite (fun _ => .error (by decide)) fun _ => ?_
    refine Ends.ite (fun _ => .error (by decide)) fun _ => ?_
    refine Ends.ite (fun hlimit => ?_) fun _ => .ok trivial
    exact absurd hgroup (Nat.not_lt.mpr hlimit)

/-- A frame that respects the limits is not answered with one of the two codes. -/
theorem getOrCreatePeerStream_limits (hm : m.Inv) (htold : m.ToldEnforced)
    (hrespected : m.Respected streamId streamGroupId) :
    Ends (fun f => WithinLimits f.code) (m.getOrCreatePeerStream streamId streamGroupId)
      fun _ => True := by
  obtain ⟨limit, hlimit, hlt⟩ := hrespected.1
  have hbelow : streamId < (m.remote (getStreamDirectionality streamId)).maxRemoteStreamId := by
    have hle := Nat.mul_le_mul_right kStreamIncrement (htold _ limit hlimit)
    rw [(hm.remote _).max, hm.initial]
    exact Nat.lt_of_lt_of_le hlt (Nat.add_le_add_right hle _)
  refine (validateStream_limits hrespected).bind fun _ _ => ?_
  cases m.streams.lookup streamId with
  | some groupId => exact .ok trivial
  | none =>
    refine Ends.ite (fun _ => .ok trivial) fun _ => ?_
    unfold RemoteStreams.openPeerStreamIfNotClosed
    rw [if_neg (Nat.not_le.mpr hbelow)]
    split
    · exact .ok trivial
    · next hopen => split at hopen <;> cases hopen
    · exact .ok trivial

end PeerStreams

/-! ### Runs after the resumption -/

namespace Receiver

variable {r r' : Receiver} {id : StreamId}

/-- A stream that was not there before is a new one. -/
theorem step_opened {e : ReceiverEvent} (hr : r.Accounting) (h : r.step e = .ok r')
    {s' : QuicStreamState} (hs' : s' ∈ r'.opened) :
    (∃ s ∈ r.opened, s.id = s'.id) ∨ s' = .new r.conn s'.id := by
  have hcall : ∀ {α : Type} {i : StreamId} {f : QuicStreamState → RecvConn → OnStream α},
      (∀ s s' c c' a, s.Ok → f s c = .ok (a, s', c') → QuicStreamState.Accounted s s' c c') →
      (·.2) <$> r.onStream i f = .ok r' → ∃ s ∈ r.opened, s.id = s'.id := by
    intro α i f hf h
    obtain ⟨out, h⟩ := map_snd_eq_ok.mp h
    obtain ⟨-, rfl⟩ | ⟨s, a, u, c', hget, hcall, rfl⟩ := onStream_ok h
    · exact ⟨s', hs', rfl⟩
    · obtain ⟨hid, pre, post, hstreams, hset⟩ := getStream_eq_some hget
      have hs : s ∈ r.opened := by simp [opened, hstreams]
      have hu := (hf s u _ _ a (hr.ok s hs) hcall).id
      rw [opened, hset u (hu.trans hid), List.append_assoc, List.cons_append] at hs'
      have hopened : r.opened = pre ++ s :: (post ++ r.removed) := by
        rw [opened, hstreams, List.append_assoc, List.cons_append]
      rw [hopened]
      cases List.mem_append.mp hs' with
      | inl hpre => exact ⟨s', List.mem_append_left _ hpre, rfl⟩
      | inr hrest =>
        cases List.mem_cons.mp hrest with
        | inl heq => exact ⟨s, List.mem_append_right _ List.mem_cons_self, heq ▸ hu.symm⟩
        | inr hpost => exact ⟨s', List.mem_append_right _ (List.mem_cons_of_mem _ hpost), rfl⟩
  cases e with
  | openStream id =>
    rw [step] at h
    split at h <;> cases h
    · exact .inl ⟨s', hs', rfl⟩
    · rw [opened, List.append_assoc] at hs'
      cases List.mem_append.mp hs' with
      | inl hs => exact .inl ⟨s', List.mem_append_left _ hs, rfl⟩
      | inr hs =>
        cases List.mem_cons.mp hs with
        | inl heq =>
          subst heq
          exact .inr rfl
        | inr hs => exact .inl ⟨s', List.mem_append_right _ hs, rfl⟩
  | removeStream id =>
    cases h
    exact .inl ⟨s', (opened_removeStream_perm r id).mem_iff.mp hs', rfl⟩
  | streamFrame frame =>
    exact .inl (hcall (fun _ _ _ _ _ hs h =>
      QuicStreamState.receiveReadStreamFrameSMHandler_accounted hs h) h)
  | rstStream frame t =>
    exact .inl (hcall (fun _ _ _ _ _ hs h =>
      QuicStreamState.receiveRstStreamSMHandler_accounted hs h) h)
  | read id amount t =>
    exact .inl (hcall (fun _ _ _ _ _ hs h =>
      QuicStreamState.readDataFromQuicStream_accounted hs h) h)
  | consume id amount t =>
    exact .inl (hcall (fun _ _ _ _ _ hs h =>
      QuicStreamState.consumeDataFromQuicStream_accounted hs h) h)
  | sendMaxData sentTime =>
    cases h
    exact .inl ⟨s', hs', rfl⟩
  | sendMaxStreamData id sentTime =>
    refine .inl (hcall (fun s s' c c' a hs h => ?_) h)
    cases h
    exact QuicStreamState.onStreamWindowUpdateSent_accounted hs rfl

end Receiver

namespace ResumedConn

variable {c c' : ResumedConn}

/-- The event is a frame that respects what the client has been told. The data of the client is
counted as far as it has arrived. -/
def Respects (c : ResumedConn) : ResumedEvent → Prop
  | .receive e => ∃ id endOffset fin, Receiver.frameEnd e = some (id, endOffset, fin) ∧
      endOffset ≤ c.toldMaxStreamData id ∧
      ∀ s, Receiver.getStream c.receiver.streams id = some s →
        (c.receiver.opened.map (·.maxOffsetObserved)).sum + Receiver.advanceBy s endOffset ≤
          c.toldMaxData
  | .peer e => ∃ id groupId, e = .frame id groupId ∧ c.peerStreams.Respected id groupId

/-- Everything that the client has been told is enforced. -/
structure Covered (c : ResumedConn) : Prop where
  accounting : c.receiver.Accounting
  inv : c.peerStreams.Inv
  streams : c.peerStreams.ToldEnforced
  data : c.toldMaxData ≤ c.receiver.conn.flowControlState.advertisedMaxOffset
  streamData : ∀ s ∈ c.receiver.opened,
    c.toldMaxStreamData s.id ≤ s.flowControlState.advertisedMaxOffset
  next : ∀ id, (∀ s ∈ c.receiver.opened, s.id ≠ id) →
    c.toldMaxStreamData id ≤ (c.receiver.conn.initialWindow id).toNat

/-- Limits that are enforced only grow. -/
theorem Covered.grow (h : c.Covered) {e : ReceiverEvent} {r : Receiver}
    (hstep : c.receiver.step e = .ok r) : Covered { c with receiver := r } := by
  obtain ⟨hacc, hgrow⟩ := Receiver.step_accounting h.accounting hstep
  have hsettings := Receiver.step_settings hstep
  refine ⟨hacc, h.inv, h.streams, h.data.trans hgrow.conn, fun s' hs' => ?_, fun id hid => ?_⟩
  · by_cases hold : ∃ s ∈ c.receiver.opened, s.id = s'.id
    · obtain ⟨s, hs, hids⟩ := hold
      obtain ⟨u, hu, huid, hle⟩ := hgrow.stream s hs
      have heq : u = s' := List.inj_on_of_nodup_map hacc.ids hu hs' (huid.trans hids)
      rw [← hids, ← heq]
      exact (h.streamData s hs).trans hle
    · have hnew := (Receiver.step_opened h.accounting hstep hs').resolve_left hold
      have hle := h.next s'.id fun s hs hids => hold ⟨s, hs, hids⟩
      rw [hnew]
      exact hle
  · change _ ≤ (r.conn.initialWindow id).toNat
    rw [hsettings.initialWindow]
    refine h.next id fun s hs hids => ?_
    obtain ⟨u, hu, huid, -⟩ := hgrow.stream s hs
    exact hid u hu (huid.trans hids)

theorem tell_of_none {id : StreamId} (hget : Receiver.getStream c.receiver.streams id = none)
    (sentTime : Nat) : c.tell (.sendMaxStreamData id sentTime) = c := by
  unfold tell
  dsimp only
  rw [hget]

theorem tell_of_some {id : StreamId} {s : QuicStreamState}
    (hget : Receiver.getStream c.receiver.streams id = some s) (sentTime : Nat) :
    c.tell (.sendMaxStreamData id sentTime) = { c with
      toldMaxStreamData := Function.update c.toldMaxStreamData id
        (max (c.toldMaxStreamData id) (generateMaxStreamDataFrame s)) } := by
  unfold tell
  dsimp only
  rw [hget]

/-- A `MAX_STREAM_DATA` frame tells no more than is enforced from then on. -/
theorem Covered.tellStream (h : c.Covered) {id : StreamId} {sentTime : Nat} {r : Receiver}
    (hstep : c.receiver.step (.sendMaxStreamData id sentTime) = .ok r) :
    Covered { c.tell (.sendMaxStreamData id sentTime) with receiver := r } := by
  have hgrown := h.grow hstep
  obtain ⟨out, hcall⟩ := Receiver.map_snd_eq_ok.mp hstep
  obtain ⟨hnone, -⟩ | ⟨s, _, u, conn, hget, hu, hr⟩ := Receiver.onStream_ok hcall
  · rw [tell_of_none hnone]
    exact hgrown
  · cases hu
    obtain ⟨hid, pre, post, hstreams, hset⟩ := Receiver.getStream_eq_some hget
    have hmem : (onStreamWindowUpdateSent s c.receiver.conn (generateMaxStreamDataFrame s)
        sentTime).1 ∈ r.opened := by
      have hplaced : (onStreamWindowUpdateSent s c.receiver.conn (generateMaxStreamDataFrame s)
          sentTime).1 ∈ Receiver.setStream (onStreamWindowUpdateSent s c.receiver.conn
            (generateMaxStreamDataFrame s) sentTime).1 c.receiver.streams := by
        rw [hset (onStreamWindowUpdateSent s c.receiver.conn (generateMaxStreamDataFrame s)
          sentTime).1 hid]
        exact List.mem_append_right _ List.mem_cons_self
      rw [hr]
      exact List.mem_append_left _ hplaced
    rw [tell_of_some hget]
    refine ⟨hgrown.accounting, hgrown.inv, hgrown.streams, hgrown.data, fun v hv => ?_, fun i hi => ?_⟩
    · by_cases heq : v.id = id
      · have hsame := List.inj_on_of_nodup_map hgrown.accounting.ids hv hmem (heq.trans hid.symm)
        have hold := hgrown.streamData v hv
        dsimp only at hold ⊢
        rw [heq] at hold
        rw [heq, Function.update_self]
        refine Nat.max_le.mpr ⟨hold, ?_⟩
        rw [hsame]
        exact Nat.le_refl _
      · dsimp only
        rw [Function.update_of_ne heq]
        exact hgrown.streamData v hv
    · have hne : i ≠ id := fun heq => hi _ hmem (hid.trans heq.symm)
      dsimp only
      rw [Function.update_of_ne hne]
      exact hgrown.next i hi

theorem Covered.step (h : c.Covered) {e : ResumedEvent} (hstep : c.step e = .ok c') : c'.Covered := by
  cases e with
  | receive e =>
    rw [ResumedConn.step] at hstep
    split at hstep
    · cases hstep
    · next r hr =>
        cases hstep
        cases e with
        | sendMaxStreamData id sentTime => exact h.tellStream hr
        | sendMaxData sentTime =>
          have hgrown := h.grow hr
          change Covered { c with
            receiver := r
            toldMaxData := max c.toldMaxData (generateMaxDataFrame c.receiver.conn) }
          refine ⟨hgrown.accounting, hgrown.inv, hgrown.streams, ?_, hgrown.streamData, hgrown.next⟩
          refine Nat.max_le.mpr ⟨hgrown.data, ?_⟩
          cases hr
          exact Nat.le_refl _
        | openStream id => exact h.grow hr
        | removeStream id => exact h.grow hr
        | streamFrame frame => exact h.grow hr
        | rstStream frame t => exact h.grow hr
        | read id amount t => exact h.grow hr
        | consume id amount t => exact h.grow hr
  | peer e =>
    rw [ResumedConn.step] at hstep
    split at hstep
    · cases hstep
    · next m hm =>
        cases hstep
        exact ⟨h.accounting, PeerStreams.step_inv h.inv hm,
          PeerStreams.step_toldEnforced h.inv h.streams hm, h.data, h.streamData, h.next⟩

/-- The answer to a frame that respects the limits. -/
theorem Covered.respects (h : c.Covered) {e : ResumedEvent} (hrespects : c.Respects e)
    {f : ResumedFault} (hstep : c.step e = .error f) : WithinLimits f.code := by
  cases e with
  | receive e =>
    obtain ⟨id, endOffset, fin, hframe, hstream, hconn⟩ := hrespects
    rw [ResumedConn.step] at hstep
    split at hstep
    · next x r hr =>
        cases hstep
        refine (Receiver.step_limits hframe hr).resolve_right ?_
        rintro ⟨s, hget, hexceeds⟩
        obtain ⟨hid, pre, post, hstreams, -⟩ := Receiver.getStream_eq_some hget
        have hs := h.streamData s (by simp [Receiver.opened, hstreams])
        rw [hid] at hs
        have hsum := hconn s hget
        rw [← h.accounting.observed] at hsum
        cases hexceeds with
        | inl hlt => exact absurd (hstream.trans hs) (Nat.not_le.mpr hlt)
        | inr hlt => exact absurd (hsum.trans h.data) (Nat.not_le.mpr hlt)
    · cases hstep
  | peer e =>
    obtain ⟨id, groupId, rfl, hrespected⟩ := hrespects
    rw [ResumedConn.step] at hstep
    split at hstep
    · next x hx =>
        cases hstep
        have hget := PeerStreams.getOrCreatePeerStream_limits h.inv h.streams hrespected
        have hframe : Ends (fun f => WithinLimits f.code) (c.peerStreams.step (.frame id groupId))
            fun _ => True := hget.bind fun _ _ => .ok trivial
        exact hframe.of_error hx
    · cases hstep

/-- No frame that respects the limits is ever answered with one of the two codes. -/
def NeverPunished (c : ResumedConn) : Prop :=
  ∀ (events : List ResumedEvent) c', events.foldlM step c = .ok c' →
    ∀ e, c'.Respects e → ∀ f, c'.step e = .error f →
    WithinLimits f.code

theorem Covered.neverPunished (h : c.Covered) : c.NeverPunished := by
  intro events c' hrun e hrespects f hf
  have hcovered : c'.Covered := run_invariant (fun _ _ _ h hstep => h.step hstep) h hrun
  exact hcovered.respects hrespects hf

end ResumedConn

/-! ### What an accepted ticket does -/

namespace ResumingServer

variable {Address : Type}

/-- The limits that are enforced are at least those that were announced. -/
structure LimitsCover (conn : ResumingServer Address) : Prop where
  data : conn.announced.initialMaxData ≤ conn.receiver.conn.flowControlState.advertisedMaxOffset
  streamData : ∀ id, conn.announced.maxStreamData id ≤ (conn.receiver.conn.initialWindow id).toNat
  streams : ∀ d, conn.announced.maxStreams d ≤ (conn.peerStreams.remote d).maxStreams

/-- The windows in the ticket are those of the configuration. -/
structure TicketWindows (params : List TransportParameter) (settings : ReceiveSettings) : Prop where
  data : getIntegerParameter params .initialMaxData =
    .ok (some settings.advertisedInitialConnectionWindowSize.toNat)
  bidiLocal : getIntegerParameter params .initialMaxStreamDataBidiLocal =
    .ok (some settings.advertisedInitialBidiLocalStreamWindowSize.toNat)
  bidiRemote : getIntegerParameter params .initialMaxStreamDataBidiRemote =
    .ok (some settings.advertisedInitialBidiRemoteStreamWindowSize.toNat)
  uni : getIntegerParameter params .initialMaxStreamDataUni =
    .ok (some settings.advertisedInitialUniStreamWindowSize.toNat)

theorem takeIf_eq_some {test : Nat → Bool} {value : Option Nat} {n : Nat} :
    takeIf test value = some n ↔ value = some n ∧ test n = true :=
  Option.filter_eq_some_iff

/-- What the checks on the parameters let through. -/
structure Matches (conn : ResumingServer Address) (params : List TransportParameter)
    (ticket : TicketParams) : Prop where
  data : getIntegerParameter params .initialMaxData = .ok (some ticket.maxData)
  bidiLocal : getIntegerParameter params .initialMaxStreamDataBidiLocal =
    .ok (some ticket.maxStreamDataBidiLocal)
  bidiRemote : getIntegerParameter params .initialMaxStreamDataBidiRemote =
    .ok (some ticket.maxStreamDataBidiRemote)
  uni : getIntegerParameter params .initialMaxStreamDataUni = .ok (some ticket.maxStreamDataUni)
  data_le : ticket.maxData ≤
    conn.receiver.conn.transportSettings.advertisedInitialConnectionWindowSize.toNat
  bidiLocal_le : ticket.maxStreamDataBidiLocal ≤
    conn.receiver.conn.transportSettings.advertisedInitialBidiLocalStreamWindowSize.toNat
  bidiRemote_le : ticket.maxStreamDataBidiRemote ≤
    conn.receiver.conn.transportSettings.advertisedInitialBidiRemoteStreamWindowSize.toNat
  uni_le : ticket.maxStreamDataUni ≤
    conn.receiver.conn.transportSettings.advertisedInitialUniStreamWindowSize.toNat
  streams : conn.peerStreams.ticketAccepted ticket.maxStreamsBidi ticket.maxStreamsUni = true

/-- One check: a value that is refused ends the validation. -/
theorem takeIf_bind {α : Type} {test : Nat → Bool} {value : Option Nat}
    {k : Nat → ParameterResult (Option α)} {a : α}
    (h : (match takeIf test value with
      | some n => k n
      | _ => pure none) = .ok (some a)) :
    ∃ n, value = some n ∧ test n = true ∧ k n = .ok (some a) := by
  split at h
  · next n hn =>
      obtain ⟨hvalue, htest⟩ := takeIf_eq_some.mp hn
      exact ⟨n, hvalue, htest, h⟩
  · cases h

theorem matches_of_matchParams {conn : ResumingServer Address} {params : List TransportParameter}
    {ticket : TicketParams} (h : conn.matchParams params = .ok (some ticket)) :
    conn.Matches params ticket := by
  unfold matchParams at h
  dsimp only at h
  split at h
  · cases h
  · obtain ⟨_, -, h⟩ := except_bind_eq_ok.mp h
    obtain ⟨idle, -, -, h⟩ := takeIf_bind h
    obtain ⟨_, -, h⟩ := except_bind_eq_ok.mp h
    obtain ⟨size, -, -, h⟩ := takeIf_bind h
    obtain ⟨data, hdata, h⟩ := except_bind_eq_ok.mp h
    obtain ⟨data, rfl, hdata_le, h⟩ := takeIf_bind h
    obtain ⟨_, hbidiLocal, h⟩ := except_bind_eq_ok.mp h
    obtain ⟨_, hbidiRemote, h⟩ := except_bind_eq_ok.mp h
    obtain ⟨_, huni, h⟩ := except_bind_eq_ok.mp h
    obtain ⟨bidiLocal, rfl, hbidiLocal_le, h⟩ := takeIf_bind h
    obtain ⟨bidiRemote, rfl, hbidiRemote_le, h⟩ := takeIf_bind h
    obtain ⟨uni, rfl, huni_le, h⟩ := takeIf_bind h
    obtain ⟨_, -, h⟩ := except_bind_eq_ok.mp h
    obtain ⟨_, -, h⟩ := except_bind_eq_ok.mp h
    obtain ⟨streamsBidi, -, hstreamsBidi, h⟩ := takeIf_bind h
    obtain ⟨streamsUni, -, hstreamsUni, h⟩ := takeIf_bind h
    cases h
    exact ⟨hdata, hbidiLocal, hbidiRemote, huni, of_decide_eq_true hdata_le,
      of_decide_eq_true hbidiLocal_le, of_decide_eq_true hbidiRemote_le, of_decide_eq_true huni_le,
      Bool.and_eq_true_iff.mpr ⟨hstreamsBidi, hstreamsUni⟩⟩

theorem validateAndUpdateSourceToken_kept [DecidableEq Address] (conn : ResumingServer Address)
    (addresses : List Address) :
    (conn.validateAndUpdateSourceToken addresses).2.receiver = conn.receiver ∧
      (conn.validateAndUpdateSourceToken addresses).2.peerStreams = conn.peerStreams ∧
      (conn.validateAndUpdateSourceToken addresses).2.announced = conn.announced := by
  unfold validateAndUpdateSourceToken
  split <;> exact ⟨rfl, rfl, rfl⟩

/-- What the connection is after a ticket has been accepted. -/
theorem validate_accepted [DecidableEq Address]
    {validator : Option (Option Bytes → Bytes → Bool)} {alpn : Option Bytes}
    {appToken : AppToken Address} {conn conn' : ResumingServer Address}
    (h : validate validator alpn (some appToken) conn = .ok (true, conn')) :
    ∃ ticket, conn.Matches appToken.transportParams ticket ∧
      conn'.receiver = { conn.receiver with
        conn := conn.receiver.conn.updateTransportParamsFromTicket ticket.maxData
          ticket.maxStreamDataBidiLocal ticket.maxStreamDataBidiRemote ticket.maxStreamDataUni } ∧
      conn'.peerStreams = conn.peerStreams.updateTransportParamsFromTicket ticket.maxStreamsBidi
        ticket.maxStreamsUni ∧
      conn'.announced = conn.announced := by
  unfold validate at h
  dsimp only at h
  obtain ⟨ticket, hmatch, h⟩ := except_bind_eq_ok.mp h
  split at h
  · next ticket =>
      have hmatches := matches_of_matchParams hmatch
      obtain ⟨hreceiver, hstreams, hannounced⟩ := validateAndUpdateSourceToken_kept
        { conn with transportParamsMatching := some true, sourceTokenMatching := some false }
        appToken.sourceAddresses
      split at h
      · cases h
      · split at h
        · cases h
        · cases h
          refine ⟨ticket, ⟨hmatches.data, hmatches.bidiLocal, hmatches.bidiRemote, hmatches.uni,
            hmatches.data_le, hmatches.bidiLocal_le, hmatches.bidiRemote_le, hmatches.uni_le,
            hmatches.streams⟩, ?_, ?_, hannounced⟩
          · exact congrArg (fun r : Receiver => { r with
              conn := r.conn.updateTransportParamsFromTicket ticket.maxData
                ticket.maxStreamDataBidiLocal ticket.maxStreamDataBidiRemote
                ticket.maxStreamDataUni }) hreceiver
          · exact congrArg (fun m : PeerStreams => m.updateTransportParamsFromTicket
              ticket.maxStreamsBidi ticket.maxStreamsUni) hstreams
  · cases h

theorem uint64_ofNat_toNat {n : Nat} {w : UInt64} (h : n ≤ w.toNat) : (UInt64.ofNat n).toNat = n :=
  UInt64.toNat_ofNat_of_lt' (h.trans_lt w.toNat_lt)

theorem ToldEnforced_of_kept {m : PeerStreams} (h : m.LimitsKept) : m.ToldEnforced := by
  intro d limit hlimit
  obtain ⟨limits, hlimits⟩ := List.head?_eq_some_iff.mp (h.enforced d)
  have hrising := h.rising d
  rw [hlimits] at hlimit hrising
  cases List.mem_cons.mp hlimit with
  | inl heq => exact heq.le
  | inr hlimit => exact (List.pairwise_cons.mp hrising).1 limit hlimit

/-- The connection as it is when the ticket is looked at. -/
theorem new_eq_ok {settings : ResumptionSettings} {peerAddress : Address}
    {conn : ResumingServer Address} (h : new settings peerAddress = .ok conn) :
    conn.receiver = .new .server settings.receive ∧
      conn.announced = {
        initialMaxData := settings.receive.advertisedInitialConnectionWindowSize.toNat
        initialMaxStreamDataBidiLocal :=
          settings.receive.advertisedInitialBidiLocalStreamWindowSize.toNat
        initialMaxStreamDataBidiRemote :=
          settings.receive.advertisedInitialBidiRemoteStreamWindowSize.toNat
        initialMaxStreamDataUni := settings.receive.advertisedInitialUniStreamWindowSize.toNat
        initialMaxStreamsBidi := settings.streams.advertisedInitialMaxStreamsBidi
        initialMaxStreamsUni := settings.streams.advertisedInitialMaxStreamsUni } ∧
      conn.peerStreams.Inv ∧ conn.peerStreams.LimitsKept ∧
      ∀ d, conn.announced.maxStreams d = (conn.peerStreams.remote d).maxStreams := by
  obtain ⟨m, hm, h⟩ := except_bind_eq_ok.mp h
  cases h
  obtain ⟨hinv, hkept⟩ := PeerStreams.new_kept hm
  refine ⟨rfl, rfl, hinv, hkept, fun d => ?_⟩
  simp only [PeerStreams.new, except_bind_eq_ok] at hm
  obtain ⟨bidi, hbidi, uni, huni, hm⟩ := hm
  cases hm
  cases d with
  | bidirectional => exact (RemoteStreams.new_spec hbidi).2.2.2.1.symm
  | unidirectional => exact (RemoteStreams.new_spec huni).2.2.2.1.symm

section

variable {settings : ResumptionSettings} {peerAddress : Address} {start conn : ResumingServer Address}
  {params : List TransportParameter} {ticket : TicketParams}

/-- The windows that are enforced after the ticket has been accepted are those of the ticket. -/
theorem limitsCover_iff (hstart : new settings peerAddress = .ok start)
    (hmatches : start.Matches params ticket)
    (hreceiver : conn.receiver = { start.receiver with
      conn := start.receiver.conn.updateTransportParamsFromTicket ticket.maxData
        ticket.maxStreamDataBidiLocal ticket.maxStreamDataBidiRemote ticket.maxStreamDataUni })
    (hstreams : conn.peerStreams = start.peerStreams.updateTransportParamsFromTicket
      ticket.maxStreamsBidi ticket.maxStreamsUni)
    (hannounced : conn.announced = start.announced) :
    conn.LimitsCover ↔ TicketWindows params settings.receive := by
  obtain ⟨hnew, hlimits, -, -, hcounts⟩ := new_eq_ok hstart
  obtain ⟨hdata, hbidiLocal, hbidiRemote, huni, hdata_le, hbidiLocal_le, hbidiRemote_le, huni_le, -⟩ :=
    hmatches
  rw [hnew] at hdata_le hbidiLocal_le hbidiRemote_le huni_le
  have hmax : conn.receiver.conn.flowControlState.advertisedMaxOffset = ticket.maxData := by
    rw [hreceiver]
    exact uint64_ofNat_toNat hdata_le
  have hwindow : ∀ id, (conn.receiver.conn.initialWindow id).toNat =
      if isUnidirectionalStream id then ticket.maxStreamDataUni
      else if isLocalStream .server id then ticket.maxStreamDataBidiLocal
      else ticket.maxStreamDataBidiRemote := by
    intro id
    have heq : conn.receiver.conn.initialWindow id =
        if isUnidirectionalStream id then UInt64.ofNat ticket.maxStreamDataUni
        else if isLocalStream .server id then UInt64.ofNat ticket.maxStreamDataBidiLocal
        else UInt64.ofNat ticket.maxStreamDataBidiRemote := by
      rw [hreceiver, hnew]
      rfl
    rw [heq]
    by_cases hkind : isUnidirectionalStream id = true
    · rw [if_pos hkind, if_pos hkind]
      exact uint64_ofNat_toNat huni_le
    · rw [if_neg hkind, if_neg hkind]
      by_cases hlocal : isLocalStream .server id = true
      · rw [if_pos hlocal, if_pos hlocal]
        exact uint64_ofNat_toNat hbidiLocal_le
      · rw [if_neg hlocal, if_neg hlocal]
        exact uint64_ofNat_toNat hbidiRemote_le
  have hcovered : ∀ d, conn.announced.maxStreams d ≤ (conn.peerStreams.remote d).maxStreams := by
    intro d
    rw [hannounced, hstreams, hcounts d]
    exact Nat.le_refl _
  constructor
  · intro hcover
    have hd := hcover.data
    rw [hannounced, hlimits, hmax] at hd
    have hs := hcover.streamData
    simp only [hwindow, hannounced, hlimits, AnnouncedLimits.maxStreamData] at hs
    have hremote : _ ≤ ticket.maxStreamDataBidiRemote := hs 0
    have hlocal : _ ≤ ticket.maxStreamDataBidiLocal := hs 1
    have huni' : _ ≤ ticket.maxStreamDataUni := hs 2
    constructor
    · rw [hdata, Nat.le_antisymm hdata_le hd]
      rfl
    · rw [hbidiLocal, Nat.le_antisymm hbidiLocal_le hlocal]
      rfl
    · rw [hbidiRemote, Nat.le_antisymm hbidiRemote_le hremote]
      rfl
    · rw [huni, Nat.le_antisymm huni_le huni']
      rfl
  · intro hwindows
    have hd := hwindows.data
    have hl := hwindows.bidiLocal
    have hr := hwindows.bidiRemote
    have hu := hwindows.uni
    rw [hdata, Except.ok.injEq, Option.some.injEq] at hd
    rw [hbidiLocal, Except.ok.injEq, Option.some.injEq] at hl
    rw [hbidiRemote, Except.ok.injEq, Option.some.injEq] at hr
    rw [huni, Except.ok.injEq, Option.some.injEq] at hu
    refine ⟨?_, fun id => ?_, hcovered⟩
    · rw [hannounced, hlimits, hmax, hd]
    · rw [hwindow, hannounced, hlimits, hl, hr, hu]
      exact Nat.le_refl _

/-- Limits that cover what was announced cover it in every run that follows. -/
theorem covered_of_limitsCover (hstart : new settings peerAddress = .ok start)
    (hmatches : start.Matches params ticket)
    (hreceiver : conn.receiver = { start.receiver with
      conn := start.receiver.conn.updateTransportParamsFromTicket ticket.maxData
        ticket.maxStreamDataBidiLocal ticket.maxStreamDataBidiRemote ticket.maxStreamDataUni })
    (hstreams : conn.peerStreams = start.peerStreams.updateTransportParamsFromTicket
      ticket.maxStreamsBidi ticket.maxStreamsUni)
    (hcover : conn.LimitsCover) : (ResumedConn.new conn).Covered := by
  obtain ⟨hnew, -, hinv, hkept, -⟩ := new_eq_ok hstart
  have hopened : conn.receiver.opened = [] := by
    rw [hreceiver, hnew]
    rfl
  have hinv' := hinv.ticket hmatches.streams
  rw [← hstreams] at hinv'
  refine ⟨?_, hinv', ?_, hcover.data, fun s hs => ?_, fun id _ => hcover.streamData id⟩
  · change conn.receiver.Accounting
    rw [hreceiver, hnew]
    exact ⟨.nil, nofun, rfl, rfl, Nat.zero_le _⟩
  · change conn.peerStreams.ToldEnforced
    rw [hstreams]
    intro d limit hlimit
    cases d <;> exact ToldEnforced_of_kept hkept _ limit hlimit
  · change s ∈ conn.receiver.opened at hs
    rw [hopened] at hs
    exact absurd hs List.not_mem_nil

end

/-- After a ticket has been accepted, the limits that are enforced cover those that were announced, and
no client that respects the latter is punished, exactly if the windows in the ticket are those of the
configuration. -/
theorem announced_enforced_iff [DecidableEq Address] (settings : ResumptionSettings) (peerAddress : Address)
    (validator : Option (Option Bytes → Bytes → Bool)) (alpn : Option Bytes)
    (appToken : AppToken Address) (start conn : ResumingServer Address)
    (hstart : new settings peerAddress = .ok start)
    (haccepted : validate validator alpn (some appToken) start = .ok (true, conn)) :
    (conn.LimitsCover ∧ (ResumedConn.new conn).NeverPunished) ↔
      TicketWindows appToken.transportParams settings.receive := by
  obtain ⟨ticket, hmatches, hreceiver, hstreams, hannounced⟩ := validate_accepted haccepted
  rw [← limitsCover_iff hstart hmatches hreceiver hstreams hannounced]
  constructor
  · intro h
    exact h.1
  · intro hcover
    exact ⟨hcover, (covered_of_limitsCover hstart hmatches hreceiver hstreams hcover).neverPunished⟩

/-- Windows of `window` bytes and four streams of each kind. -/
def windowsOf (window : UInt64) : ResumptionSettings where
  idleTimeout := 60
  maxRecvPacketSize := 1452
  receive := ⟨window, window, window, window, 2, 2, false⟩
  streams := ⟨4, 4, 0, false⟩
  zeroRttSourceTokenMatchingPolicy := .rejectIfNoExactMatch
  limitedCwndInMss := 10
  udpSendPacketLen := 1232

/-- The ticket of a connection with windows of `window` bytes, less than 64, from the address 7. -/
def ticketOf (window : UInt8) : AppToken Nat where
  transportParams := [⟨0x01, [60]⟩, ⟨0x03, [0x44, 0xb0]⟩, ⟨0x04, [window]⟩, ⟨0x05, [window]⟩,
    ⟨0x06, [window]⟩, ⟨0x07, [window]⟩, ⟨0x08, [4]⟩, ⟨0x09, [4]⟩]
  sourceAddresses := [7]
  appParams := []

/-- The configuration has not changed since the ticket was made. -/
theorem announced_enforced_unchanged :
    ∃ start conn, new (windowsOf 20) 7 = .ok start ∧
      validate none none (some (ticketOf 20)) start = .ok (true, conn) ∧
      conn.LimitsCover ∧ (ResumedConn.new conn).NeverPunished := by
  have hrun : ∃ start conn, new (windowsOf 20) 7 = .ok start ∧
      validate none none (some (ticketOf 20)) start = .ok (true, conn) := ⟨_, _, rfl, rfl⟩
  obtain ⟨start, conn, hstart, haccepted⟩ := hrun
  refine ⟨start, conn, hstart, haccepted, ?_⟩
  exact (announced_enforced_iff (windowsOf 20) 7 none none (ticketOf 20) start conn hstart
    haccepted).mpr ⟨rfl, rfl, rfl, rfl⟩

/-- The windows have grown from 10 to 20 bytes since. A client that sends 11 bytes on its first stream
is closed. -/
theorem announced_unenforced :
    ∃ start conn c, new (windowsOf 20) 7 = .ok start ∧
      validate none none (some (ticketOf 10)) start = .ok (true, conn) ∧
      conn.announced.initialMaxData = 20 ∧ conn.announced.maxStreamData 0 = 20 ∧
      [.peer (.frame 0 none), .receive (.openStream 0)].foldlM ResumedConn.step
        (ResumedConn.new conn) = .ok c ∧
      c.Respects (.receive (.streamFrame ⟨0, 0, some (.wrapBuffer (List.replicate 11 5)), false⟩)) ∧
      ∃ f, c.step (.receive (.streamFrame
          ⟨0, 0, some (.wrapBuffer (List.replicate 11 5)), false⟩)) = .error f ∧
        f.code = some .flowControlError := by
  refine ⟨_, _, _, rfl, rfl, rfl, rfl, rfl, ⟨0, 11, false, rfl, by decide, ?_⟩, _, rfl, rfl⟩
  intro s hs
  cases hs
  decide

end ResumingServer

end MasqueQuic
