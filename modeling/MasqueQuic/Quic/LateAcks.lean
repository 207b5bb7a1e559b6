/-
Runs of a stream whose lost frames are sent again, in other pieces, and acknowledged late.

A packet that was declared lost may still be acknowledged. `removeFromLossBuffer` is then called
for each of its frames, whatever has become of their data in between. Along every run the loss
buffer stays sorted and disjoint, and removal takes away no byte outside the frame and no FIN
that the frame did not carry. It leaves no entry that is empty and has no FIN exactly when no frame
with the FIN is acknowledged late while an entry without the FIN lies in its range.
-/

import MasqueQuic.Quic.LossBuffer
import MasqueQuic.Quic.SendAccounting
import MasqueQuic.Quic.TxedOffset

namespace MasqueQuic

/-- The calls of the application, the fate of the frames, and the frames that are sent. A lost entry
that is sent again is the first one, or a later one when those before it go into the same packet. -/
inductive LossEvent where
  | sendHalf (event : SendHalfEvent)
  | frameLost (frame : WriteStreamFrame) (streamRetransmissionDisabled : Bool)
  | frameAcked (frame : WriteStreamFrame)
  | frameAckedLate (frame : WriteStreamFrame)
  | sendLost (index len : Nat)
  | sendLostBufMeta (len : Nat)

namespace FrameLog

def onStream (log : FrameLog) (act : Except StreamFault SendStream) :
    Except SendFault FrameLog := do
  let stream ← liftStream act
  return { log with written := { log.written with stream } }

/-- A frame that carries lost data again. -/
def sendAgain (log : FrameLog) (frame : WriteStreamFrame) : Except SendFault FrameLog := do
  let log ← log.onStream (log.written.stream.frameSent frame)
  return { log with frames := log.frames ++ [frame] }

def lossStep (log : FrameLog) : LossEvent → Except SendFault FrameLog
  | .sendHalf event => liftStream (log.step event)
  | .frameLost frame streamRetransmissionDisabled =>
      log.onStream (log.written.stream.frameLost frame streamRetransmissionDisabled)
  | .frameAcked frame => log.onStream (log.written.stream.sendAckSMHandler frame)
  | .frameAckedLate frame =>
      if frame ∈ log.frames then log.onStream (log.written.stream.frameAckedLate frame) else .ok log
  | .sendLost index len => do
      let frames ← SendStream.writeStreamLossBuffers log.written.stream.id
        (log.written.stream.lossBuffer.drop index) [len]
      frames.foldlM sendAgain log
  | .sendLostBufMeta len =>
      match log.written.stream.lossBufMetaFrame len with
      | none => .ok log
      | some frame => log.sendAgain frame

/-- What removal does to the loss buffer when a frame is acknowledged late. -/
def removed (log : FrameLog) (f : WriteStreamFrame) : List StreamBuffer :=
  removeFromLossBuffer log.written.stream.lossBuffer f.offset f.len f.fin

structure LossSound (log : FrameLog) : Prop where
  sorted : log.written.stream.lossBuffer.Pairwise fun a b =>
    a.offset ≤ b.offset ∧ a.endOffset ≤ b.offset
  nonempty : ∀ b ∈ log.written.stream.lossBuffer, b.data.empty = true → b.eof = true
  bytes : ∀ f ∈ log.frames, ∀ x v, x < f.offset ∨ f.offset + f.len ≤ x →
    (HoldsByte (log.removed f) x v ↔ HoldsByte log.written.stream.lossBuffer x v)
  fin : ∀ f ∈ log.frames, f.fin = false → ∀ n,
    HoldsFin log.written.stream.lossBuffer n → HoldsFin (log.removed f) n

/-- No frame with the FIN is acknowledged late while an entry without it lies in its range. -/
def FinMatches (log : FrameLog) : LossEvent → Prop
  | .sendHalf _ => True
  | .frameLost _ _ => True
  | .frameAcked _ => True
  | .frameAckedLate f => f ∈ log.frames → f.fin = true → 0 < f.len →
      ∀ b ∈ log.written.stream.lossBuffer, b.Hit f.offset f.len → b.eof = true
  | .sendLost _ _ => True
  | .sendLostBufMeta _ => True

end FrameLog

/-! ### The entries of a stream -/

namespace SendLike

variable {s t : SendLike} {owed owed' : List StreamSpan} {b : StreamBuffer}
  {before after : List StreamBuffer} {offset len : Nat} {fin : Bool}

/-- What `Balanced` says, and that the FIN, wherever it is, comes last. -/
structure Carries (s : SendLike) (owed : List StreamSpan) : Prop where
  balanced : s.Balanced owed
  sentFin : ∀ f ∈ owed, f.fin = true → f.stop = s.currentWriteOffset
  lostFin : ∀ b ∈ s.lossBuffer, b.eof = true → b.stop = s.currentWriteOffset

theorem Carries.congr (h : s.Carries owed)
    (hsent : t.retransmissionBuffer = s.retransmissionBuffer) (hlost : t.lossBuffer = s.lossBuffer)
    (hcurrent : t.currentWriteOffset = s.currentWriteOffset) : t.Carries owed where
  balanced := by
    refine ⟨?_, ?_, ?_⟩
    · rw [hsent]
      exact h.balanced.sent
    · rw [hsent, hlost, hcurrent]
      exact h.balanced.laid
    · rw [hlost]
      exact h.balanced.sorted
  sentFin := by
    rw [hcurrent]
    exact h.sentFin
  lostFin := by
    rw [hlost, hcurrent]
    exact h.lostFin

theorem Carries.perm (h : s.Carries owed) (hperm : owed.Perm owed') : s.Carries owed' :=
  ⟨h.balanced.perm hperm, fun f hf => h.sentFin f (hperm.mem_iff.mpr hf), h.lostFin⟩

/-- New data is sent, as long as the FIN has not been. -/
theorem Carries.new (h : s.Carries owed) (hlen : len ≤ s.writeBuffer.chainLength)
    (hpos : 0 < len ∨ fin = true) (howed : ∀ f ∈ owed, f.fin = false)
    (hlost : ∀ b ∈ s.lossBuffer, b.eof = false) :
    ∃ t, s.handleStreamWritten s.currentWriteOffset len fin = .ok (t, true) ∧
      t.Carries (⟨s.currentWriteOffset, len, fin⟩ :: owed) ∧
      t.writeBuffer.chainLength = s.writeBuffer.chainLength - len ∧
      t.currentWriteOffset = s.currentWriteOffset + len + if fin then 1 else 0 := by
  obtain ⟨t, ht, hbalanced, hloss, hbuffer, hcurrent⟩ :=
    h.balanced.handleNewStreamDataWritten hlen hpos
  refine ⟨t, ?_, ⟨hbalanced, List.forall_mem_cons.mpr ⟨fun _ => ?_, fun f hf hfin => ?_⟩,
    fun b hb hfin => ?_⟩, ?_, hcurrent⟩
  · rw [handleStreamWritten_new, ht]
    rfl
  · rw [hcurrent]
    rfl
  · rw [howed f hf] at hfin
    cases hfin
  · rw [hloss] at hb
    rw [hlost b hb] at hfin
    cases hfin
  · rw [hbuffer, BufQueue.chainLength_splitAtMost_snd]

/-- Lost data is sent again. -/
theorem Carries.again (h : s.Carries owed) (hloss : s.lossBuffer = before ++ b :: after)
    (hpart : len = b.data.chainLength ∧ fin = b.eof ∨
      0 < len ∧ len ≤ b.data.chainLength ∧ fin = false) :
    ∃ t, s.handleStreamWritten b.offset len fin = .ok (t, false) ∧
      t.Carries (⟨b.offset, len, fin⟩ :: owed) := by
  obtain ⟨t, ht, hbalanced, ⟨rest, hlost, hrest⟩, -, hcurrent⟩ :=
    h.balanced.handleRetransmissionWritten hloss hpart
  have hkept : ∀ a ∈ before ++ b :: after, a.eof = true → a.stop = s.currentWriteOffset := by
    rw [← hloss]
    exact h.lostFin
  have hb := hkept b (List.mem_append_right _ List.mem_cons_self)
  refine ⟨t, ?_, hbalanced, List.forall_mem_cons.mpr ⟨fun hfin => ?_, fun f hf hfin => ?_⟩,
    fun a ha hfin => ?_⟩
  · rw [h.balanced.handleStreamWritten_lost hloss, ht]
    rfl
  · -- The FIN goes out with the whole entry only.
    dsimp only at hfin
    rcases hpart with ⟨hlen, heof⟩ | ⟨-, -, hnofin⟩
    · rw [hcurrent, ← hb (heof ▸ hfin), StreamBuffer.stop, ← heof, StreamSpan.stop, hlen]
      rfl
    · rw [hnofin] at hfin
      cases hfin
  · rw [hcurrent]
    exact h.sentFin f hf hfin
  · rw [hcurrent]
    rw [hlost] at ha
    rcases List.mem_append.mp ha with ha | ha
    · exact hkept a (List.mem_append_left _ ha) hfin
    · rcases List.mem_append.mp ha with ha | ha
      · obtain ⟨heof, hstop⟩ := hrest a ha
        rw [hstop]
        exact hb (heof ▸ hfin)
      · exact hkept a (List.mem_append_right _ (List.mem_cons_of_mem b ha)) hfin

theorem Carries.found (h : s.Carries owed) (hfind : s.findSent offset = some b) :
    b.offset = offset ∧ ∃ rest, s.Carries (b.span :: rest) := by
  have hmem := List.mem_of_find?_eq_some hfind
  have hspan : b.span ∈ owed := h.balanced.sent.mem_iff.mp (List.mem_map_of_mem hmem)
  have hoffset := List.find?_some hfind
  exact ⟨beq_iff_eq.mp hoffset, _, h.perm (List.perm_cons_erase hspan)⟩

/-- What is not on its way any longer. -/
theorem Carries.eraseSent (h : s.Carries owed) (hfind : s.findSent offset = some b) :
    ∃ rest, (s.eraseSent offset).Carries rest := by
  obtain ⟨hoffset, rest, hrest⟩ := h.found hfind
  subst hoffset
  exact ⟨rest, hrest.balanced.eraseSent, fun f hf => hrest.sentFin f (List.mem_cons_of_mem _ hf),
    h.lostFin⟩

theorem Carries.lose (h : s.Carries owed) (hfind : s.findSent offset = some b) :
    ∃ rest, ({ s with lossBuffer := insertIntoLossBuffer s.lossBuffer b }.eraseSent
      offset).Carries rest := by
  obtain ⟨hoffset, rest, hrest⟩ := h.found hfind
  subst hoffset
  have hb : b.eof = true → b.stop = s.currentWriteOffset :=
    hrest.sentFin b.span List.mem_cons_self
  have hsent : ∀ f ∈ rest, f.fin = true → f.stop = s.currentWriteOffset :=
    fun f hf => hrest.sentFin f (List.mem_cons_of_mem _ hf)
  refine ⟨rest, hrest.balanced.lose hfind, hsent, ?_⟩
  refine forall_insertIntoLossBuffer h.lostFin hb fun last _ hjoin heof => ?_
  rw [StreamBuffer.join_stop hjoin]
  exact hb heof

/-- A range is removed. -/
theorem Carries.remove (h : s.Carries owed)
    (hmatch : fin = true → 0 < len → ∀ b ∈ s.lossBuffer, b.Hit offset len → b.eof = true) :
    ({ s with lossBuffer := removeFromLossBuffer s.lossBuffer offset len fin } : SendLike).Carries
      owed := by
  rcases removeFromLossBuffer_cases h.balanced.sorted offset len fin with ⟨-, hsame⟩ |
    ⟨before, b, after, hloss, hpos, hhit, -, hcut⟩
  · rw [hsame]
    exact h
  · have hlaid := h.balanced.laid
    have hsorted := h.balanced.sorted
    have hfin := h.lostFin
    rw [hloss] at hlaid hsorted hfin hmatch
    rw [hcut]
    have hb : b ∈ before ++ b :: after := List.mem_append_right _ List.mem_cons_self
    refine ⟨⟨h.balanced.sent, hlaid.cutFrom hhit fun hend => hmatch hend hpos b hb hhit,
      cutFrom_sorted (hlaid.sublist (List.sublist_append_right _ _)) hsorted hhit⟩, h.sentFin, ?_⟩
    have hspec := cutOut_spec hhit
    refine forall_cutFrom hhit (fun a ha => hfin a ?_) ?_ fun a hnofin heof => ?_
    · rw [List.mem_append, List.mem_cons]
      exact (List.mem_append.mp ha).imp_right .inr
    · rw [hspec.eof, hspec.stop_eq]
      exact hfin b hb
    · rw [hnofin] at heof
      cases heof

end SendLike

/-! ### The entries and what happens to a stream -/

namespace SendStream

variable {s t : SendStream} {sent start : Nat} {owed : List StreamSpan}

/-- BufMeta that was sent begins at `start` or behind it. -/
structure Stored (s : SendStream) (start : Nat) : Prop where
  carries : ∃ owed, s.toSendLike.Carries owed
  sentMetas : ∀ m ∈ s.retransmissionBufMetas, start ≤ m.offset
  lostMetas : ∀ m ∈ s.lossBufMetas, start ≤ m.offset

/-- Nothing on its way and nothing lost has changed. -/
theorem Stored.congr (h : s.Stored start)
    (hsent : t.retransmissionBuffer = s.retransmissionBuffer) (hlost : t.lossBuffer = s.lossBuffer)
    (hcurrent : t.currentWriteOffset = s.currentWriteOffset)
    (hsentMetas : t.retransmissionBufMetas = s.retransmissionBufMetas)
    (hlostMetas : t.lossBufMetas = s.lossBufMetas) : t.Stored start where
  carries := h.carries.imp fun _ howed => howed.congr hsent hlost hcurrent
  sentMetas := by
    rw [hsentMetas]
    exact h.sentMetas
  lostMetas := by
    rw [hlostMetas]
    exact h.lostMetas

/-- Sending a frame is what happens to the buffers. -/
theorem frameSent_of_written {frame : WriteStreamFrame} {Q : SendStream × Bool → Prop}
    (h : Ends AnyFault (s.frameWritten frame) Q) :
    Ends AnyFault (s.frameSent frame) (fun t => ∃ new, Q (t, new)) := by
  refine Ends.bind (P := Q) h ?_
  rintro ⟨t, new⟩ ht
  exact (updateWritableStreams_eq t).imp fun u hu => ⟨new, hu ▸ ht⟩

theorem frameWritten_real {frame : WriteStreamFrame} {like : SendLike} {new : Bool}
    (hreal : frame.fromBufMeta = false)
    (hlike : s.toSendLike.handleStreamWritten frame.offset frame.len frame.fin = .ok (like, new)) :
    s.frameWritten frame = .ok ({ s with toSendLike := like }, new) := by
  unfold frameWritten
  rw [hreal, if_neg Bool.false_ne_true, hlike]
  rfl

theorem Stored.emplaceBufMeta (h : s.Stored start) {m : WriteBufferMeta} (hm : start ≤ m.offset) :
    Ends AnyFault (s.emplaceBufMeta m) (fun t => t.Stored start) := by
  refine (emplaceBufMeta_cases s m).imp fun t ht => ?_
  subst ht
  exact ⟨h.carries, List.forall_mem_append.mpr ⟨h.sentMetas, List.forall_mem_singleton.mpr hm⟩,
    h.lostMetas⟩

/-- Frames of BufMeta leave the real data alone. -/
theorem Stored.bufMeta (h : s.Stored start) {frame : WriteStreamFrame}
    (hmeta : frame.fromBufMeta = true) (hframe : start ≤ frame.offset) :
    Ends AnyFault (s.frameWritten frame) (fun r => r.1.Stored start) := by
  have hpure : ∀ (x : Except StreamFault SendStream) (new : Bool),
      Ends AnyFault x (fun t => t.Stored start) →
        Ends AnyFault (x >>= fun t => .ok (t, new)) (fun r => r.1.Stored start) :=
    fun x new hx => hx.bind fun t ht => .ok ht
  unfold frameWritten handleStreamBufMetaWritten
  rw [if_pos hmeta]
  refine Ends.ite (fun hnew => hpure _ _ ?_) fun _ => ?_
  · unfold handleNewStreamBufMetaWritten
    refine Ends.ite (fun _ => .error trivial) fun _ => ?_
    have hmoved : ∀ w, ({ s with writeBufMeta := w } : SendStream).Stored start :=
      fun w => h.congr rfl rfl rfl rfl rfl
    refine (hmoved _).emplaceBufMeta ?_
    rw [← hnew.2]
    exact hframe
  · split
    · rename_i before m after hspan
      refine Ends.ite (fun hoffset => hpure _ _ ?_) fun _ => .error trivial
      have hlost := h.lostMetas
      rw [append_of_span hspan] at hlost
      obtain ⟨hbefore, hrest⟩ := List.forall_mem_append.mp hlost
      obtain ⟨hm, hafter⟩ := List.forall_mem_cons.mp hrest
      have hkept : ∀ metas : List WriteBufferMeta, (∀ a ∈ metas, start ≤ a.offset) →
          ({ s with lossBufMetas := metas } : SendStream).Stored start :=
        fun metas hmetas => ⟨h.carries, h.sentMetas, hmetas⟩
      unfold handleRetransmissionBufMetaWritten
      refine Ends.ite (fun _ => ?_) fun _ => Ends.ite (fun _ => .error trivial) fun _ => ?_
      · exact (hkept _ (List.forall_mem_append.mpr ⟨hbefore, hafter⟩)).emplaceBufMeta hframe
      · refine (hkept _ (List.forall_mem_append.mpr ⟨hbefore,
          List.forall_mem_cons.mpr ⟨?_, hafter⟩⟩)).emplaceBufMeta hframe
        exact hm.trans (Nat.le_add_right _ _)
    · exact .error trivial

theorem Stored.insertIntoLossBufMeta (h : s.Stored start) {m : WriteBufferMeta}
    (hm : start ≤ m.offset) : (s.insertIntoLossBufMeta m).Stored start := by
  rcases hspan : s.lossBufMetas.span (·.offset ≤ m.offset) with ⟨before, after⟩
  have hlost := h.lostMetas
  rw [append_of_span hspan] at hlost
  obtain ⟨hbefore, hafter⟩ := List.forall_mem_append.mp hlost
  unfold SendStream.insertIntoLossBufMeta
  rw [hspan]
  dsimp only
  split
  · exact ⟨h.carries, h.sentMetas, List.forall_mem_cons.mpr ⟨hm, hafter⟩⟩
  · rename_i last hlast
    split
    · refine ⟨h.carries, h.sentMetas, List.forall_mem_append.mpr ⟨fun a ha => ?_,
        List.forall_mem_cons.mpr ⟨?_, hafter⟩⟩⟩
      · exact hbefore a (List.dropLast_subset _ ha)
      · exact hbefore last (List.mem_of_getLast? hlast)
    · exact ⟨h.carries, h.sentMetas, List.forall_mem_append.mpr ⟨hbefore,
        List.forall_mem_cons.mpr ⟨hm, hafter⟩⟩⟩

theorem Stored.frameLost (h : s.Stored start) (frame : WriteStreamFrame) (disabled : Bool) :
    Ends AnyFault (s.frameLost frame disabled) (fun t => t.Stored start) := by
  obtain ⟨owed, howed⟩ := h.carries
  unfold SendStream.frameLost
  split
  · cases hfind : s.toSendLike.findSent frame.offset with
    | none => exact .ok h
    | some buf =>
      refine (updateWritableStreams_eq _).imp fun t ht => ?_
      subst ht
      cases disabled with
      | true => exact ⟨howed.eraseSent hfind, h.sentMetas, h.lostMetas⟩
      | false => exact ⟨howed.lose hfind, h.sentMetas, h.lostMetas⟩
  · cases hfind : s.retransmissionBufMetas.find? (·.offset == frame.offset) with
    | none => exact .ok h
    | some m =>
      have hkept : ({ s with retransmissionBufMetas :=
          s.retransmissionBufMetas.filter (·.offset != frame.offset) } : SendStream).Stored
            start :=
        ⟨h.carries, fun a ha => h.sentMetas a (List.mem_of_mem_filter ha), h.lostMetas⟩
      refine Ends.ite (fun _ => .error trivial) fun _ => ?_
      refine (updateWritableStreams_eq _).imp fun t ht => ?_
      subst ht
      cases disabled with
      | true => exact hkept
      | false =>
        exact hkept.insertIntoLossBufMeta (h.sentMetas m (List.mem_of_find?_eq_some hfind))

theorem Stored.removeAcked (h : s.Stored start) (frame : WriteStreamFrame) :
    Ends AnyFault (s.removeAcked frame) (fun t => t.Stored start) := by
  obtain ⟨owed, howed⟩ := h.carries
  unfold SendStream.removeAcked
  split
  · cases hfind : s.toSendLike.findSent frame.offset with
    | none => exact .ok h
    | some buf =>
      refine Ends.ite (fun _ => .error trivial) fun _ => ?_
      refine Ends.bind (updateAckedIntervals_eq _ _ _ _) ?_
      rintro like ⟨acked, rfl⟩
      obtain ⟨rest, hrest⟩ := howed.eraseSent hfind
      exact .ok ⟨⟨rest, hrest.congr rfl rfl rfl⟩, h.sentMetas, h.lostMetas⟩
  · cases hfind : s.retransmissionBufMetas.find? (·.offset == frame.offset) with
    | none => exact .ok h
    | some m =>
      refine Ends.ite (fun _ => .error trivial) fun _ => ?_
      refine Ends.bind (updateAckedIntervals_eq _ _ _ _) ?_
      rintro like ⟨acked, rfl⟩
      exact .ok ⟨⟨owed, howed.congr rfl rfl rfl⟩,
        fun a ha => h.sentMetas a (List.mem_of_mem_filter ha), h.lostMetas⟩

theorem Stored.sendAckSMHandler (h : s.Stored start) (frame : WriteStreamFrame) :
    Ends AnyFault (s.sendAckSMHandler frame) (fun t => t.Stored start) := by
  unfold SendStream.sendAckSMHandler
  split
  · refine Ends.bind (h.removeAcked frame) fun u hu => ?_
    refine Ends.bind (P := fun _ => True) (.of_forall (fun _ => trivial) fun _ => trivial) ?_
    rintro done -
    cases done with
    | false => exact .ok hu
    | true => exact .ok (hu.congr rfl rfl rfl rfl rfl)
  · exact .ok h
  · exact .ok h
  · exact .error trivial

theorem Stored.frameAckedLate (h : s.Stored start) {frame : WriteStreamFrame}
    (hmatch : frame.fin = true → 0 < frame.len →
      ∀ b ∈ s.lossBuffer, b.Hit frame.offset frame.len → b.eof = true) :
    Ends AnyFault (s.frameAckedLate frame) (fun t => t.Stored start) := by
  obtain ⟨owed, howed⟩ := h.carries
  unfold SendStream.frameAckedLate
  refine Ends.bind (updateAckedIntervals_eq _ _ _ _) ?_
  rintro like ⟨acked, rfl⟩
  refine (updateWritableStreams_eq _).imp fun t ht => ?_
  subst ht
  exact ⟨⟨owed, (howed.remove hmatch).congr rfl rfl rfl⟩, h.sentMetas, h.lostMetas⟩

/-! ### The frames that were sent -/

/-- Where the real data ends. -/
def realEnd (s : SendStream) : Nat := s.currentWriteOffset + s.writeBuffer.chainLength

/-- What holds of a stream that has been sent up to `sent`, and of the frames of it that were
sent. -/
structure Followed (s : SendStream) (sent : Nat) (frames : List WriteStreamFrame) : Prop where
  tracked : s.Tracked sent
  error : s.streamWriteError = none
  stored : s.Stored s.realEnd
  real : ∀ f ∈ frames, f.fromBufMeta = false → f.fin = true →
    f.stop = s.currentWriteOffset ∧ sent < s.currentWriteOffset
  bufMeta : ∀ f ∈ frames, f.fromBufMeta = true → s.writeBufMeta.offset ≠ 0 ∧ s.realEnd ≤ f.offset

variable {frames : List WriteStreamFrame}

theorem Unmoved.realEnd (h : Unmoved s t) : t.realEnd = s.realEnd := by
  rw [SendStream.realEnd, SendStream.realEnd, h.current, h.buffer]

/-- The stream is where it was, and so are its frames. -/
theorem Followed.unmoved (h : s.Followed sent frames) (ht : t.Tracked sent) (hsame : Unmoved s t)
    (hstored : t.Stored s.realEnd) : t.Followed sent frames where
  tracked := ht
  error := hsame.error.trans h.error
  stored := by
    rw [hsame.realEnd]
    exact hstored
  real := by
    rw [hsame.current]
    exact h.real
  bufMeta := by
    rw [hsame.bufMeta, hsame.realEnd]
    exact h.bufMeta

theorem Followed.concat (h : s.Followed sent frames) {f : WriteStreamFrame}
    (hreal : f.fromBufMeta = false → f.fin = true →
      f.stop = s.currentWriteOffset ∧ sent < s.currentWriteOffset)
    (hmeta : f.fromBufMeta = true → s.writeBufMeta.offset ≠ 0 ∧ s.realEnd ≤ f.offset) :
    s.Followed sent (frames ++ [f]) where
  tracked := h.tracked
  error := h.error
  stored := h.stored
  real := List.forall_mem_append.mpr ⟨h.real, List.forall_mem_singleton.mpr hreal⟩
  bufMeta := List.forall_mem_append.mpr ⟨h.bufMeta, List.forall_mem_singleton.mpr hmeta⟩

/-- Without BufMeta there is none on its way. -/
theorem Followed.no_metas (h : s.Followed sent frames) (hoffset : s.writeBufMeta.offset = 0) :
    s.retransmissionBufMetas = [] ∧ s.lossBufMetas = [] := by
  have hnone : ∀ m : WriteBufferMeta, ¬ m.Within s.writeBufMeta.offset sent := by
    rintro m ⟨hlt, -⟩
    omega
  refine ⟨List.eq_nil_iff_forall_not_mem.mpr fun m hm => ?_,
    List.eq_nil_iff_forall_not_mem.mpr fun m hm => ?_⟩
  · exact hnone m (h.tracked.sentMetas m hm)
  · exact hnone m (h.tracked.lostMetas m hm)

/-! ### The calls of the application -/

theorem Followed.writeChain (h : s.Followed sent frames) (data : Buf) (eof : Bool) :
    Ends AnyFault (s.writeChain data eof) (fun t => t.Followed sent frames) := by
  have htracked : Ends AnyFault (s.writeChain data eof) (fun t =>
      t.Tracked sent ∧ t.streamWriteError = none) := by
    unfold SendStream.writeChain
    refine Ends.ite (fun hwritable => ?_) fun _ => .ok ⟨h.tracked, h.error⟩
    refine (h.tracked.writeDataToQuicStream hwritable data eof).imp ?_
    rintro t ⟨ht, -, hstate, -⟩
    exact ⟨ht, ht.isOpen (hstate.trans (open_of_writable hwritable))⟩
  refine (htracked.also (s.writeChain_eq data eof).forget).imp ?_
  rintro t ⟨⟨ht, herror⟩, writeBuffer, finalWriteOffset, rfl, hbuffer⟩
  refine ⟨ht, herror, ?_, h.real, fun f hf hmeta => ?_⟩
  · rcases hbuffer with hoffset | rfl
    · obtain ⟨hsent, hlost⟩ := h.no_metas hoffset
      refine ⟨h.stored.carries.imp fun _ howed => howed.congr rfl rfl rfl, ?_, ?_⟩
      · intro m hm
        rw [hsent] at hm
        cases hm
      · intro m hm
        rw [hlost] at hm
        cases hm
    · exact h.stored.congr rfl rfl rfl rfl rfl
  · obtain ⟨hoffset, hbehind⟩ := h.bufMeta f hf hmeta
    rcases hbuffer with hzero | rfl
    · exact absurd hzero hoffset
    · exact ⟨hoffset, hbehind⟩

theorem Followed.writeBufMeta (h : s.Followed sent frames) (length : Nat) (eof : Bool) :
    Ends AnyFault (s.writeBufMetaAPI length eof) (fun t => t.Followed sent frames) := by
  have htracked : Ends AnyFault (s.writeBufMetaAPI length eof) (fun t =>
      t.Tracked sent ∧ t.streamWriteError = none) := by
    unfold writeBufMetaAPI
    refine Ends.ite (fun _ => .ok ⟨h.tracked, h.error⟩) fun hcall => ?_
    simp only [Bool.or_eq_true, Bool.not_eq_true', not_or, Bool.not_eq_false] at hcall
    refine (h.tracked.writeBufMetaToQuicStream hcall.1.1 length eof).imp ?_
    rintro t ⟨ht, -, hstate, -⟩
    exact ⟨ht, ht.isOpen (hstate.trans (open_of_writable hcall.1.1))⟩
  refine (htracked.also (s.writeBufMetaAPI_eq length eof).forget).imp ?_
  rintro t ⟨⟨ht, herror⟩, writeBufMeta, finalWriteOffset, rfl, hmoved⟩
  refine ⟨ht, herror, h.stored.congr rfl rfl rfl rfl rfl, h.real, fun f hf hmeta => ?_⟩
  obtain ⟨hoffset, hbehind⟩ := h.bufMeta f hf hmeta
  rcases hmoved with hsame | ⟨hzero, -⟩
  · exact ⟨fun hzero => hoffset (hsame.symm.trans hzero), hbehind⟩
  · exact absurd hzero hoffset

theorem Followed.setDSRSender (h : s.Followed sent frames) (sender : Bool) :
    Ends AnyFault (s.setDSRPacketizationRequestSender sender)
      (fun t => t.Followed sent frames) := by
  refine ((h.tracked.setDSRSender sender).also (s.setDSRSender_eq sender).forget).imp ?_
  rintro t ⟨⟨ht, hsame, -⟩, dsrSender, rfl⟩
  exact h.unmoved ht hsame (h.stored.congr rfl rfl rfl rfl rfl)

theorem Followed.windowUpdate (h : s.Followed sent frames) (maximumData : Fin (2 ^ 62)) :
    Ends AnyFault (s.handleStreamWindowUpdate maximumData) (fun t => t.Followed sent frames) := by
  refine ((h.tracked.handleStreamWindowUpdate maximumData).also
    (s.handleStreamWindowUpdate_eq maximumData).forget).imp ?_
  rintro t ⟨⟨ht, -⟩, peerAdvertisedMaxOffset, rfl⟩
  exact ⟨ht, h.error, h.stored.congr rfl rfl rfl rfl rfl, h.real, h.bufMeta⟩

/-! ### New frames -/

theorem newFrame_nonempty {len : Nat} {frame : WriteStreamFrame}
    (hframe : s.newFrame len = some frame) : 0 < len ∨ frame.fin = true := by
  unfold newFrame at hframe
  dsimp only at hframe
  split at hframe
  · cases hframe
  · rename_i hoffer
    push Not at hoffer
    cases hframe
    by_cases hzero : len = 0
    · exact .inr (by simpa only [ne_eq, Bool.not_eq_eq_eq_not, Bool.not_true,
        Bool.not_eq_false] using hoffer.2.2.2 hzero)
    · exact .inl (Nat.pos_of_ne_zero hzero)

/-- As long as there is something to send, no FIN has been sent. -/
theorem Followed.no_fin (h : s.Followed sent frames) (hle : s.currentWriteOffset ≤ sent) :
    ∀ f ∈ frames, f.fromBufMeta = false → f.fin = false := by
  intro f hf hreal
  by_contra hfin
  obtain ⟨-, hlt⟩ := h.real f hf hreal (eq_true_of_ne_false hfin)
  omega

theorem Followed.send (h : s.Followed sent frames) {len : Nat} {frame : WriteStreamFrame}
    (hframe : s.newFrame len = some frame) :
    Ends AnyFault (s.frameSent frame) (fun t =>
      t.Followed (max sent (frame.offset + frame.len)) (frames ++ [frame])) := by
  obtain ⟨hlen, -, hoffer, hfin, heq⟩ := newFrame_eq_some hframe
  have hpos := newFrame_nonempty hframe
  have hle : s.currentWriteOffset ≤ sent := (h.tracked.stage h.error).current_le hoffer
  have hnofin : ∀ b : StreamBuffer, Within s.currentWriteOffset sent b.endOffset b.eof →
      b.eof = false := by
    rintro b ⟨-, -, hpast⟩
    by_contra hend
    have := hpast (eq_true_of_ne_false hend)
    omega
  obtain ⟨owed, howed⟩ := h.stored.carries
  have hsentFin : ∀ f ∈ owed, f.fin = false := by
    intro f hf
    obtain ⟨b, hb, rfl⟩ := List.mem_map.mp (howed.balanced.sent.mem_iff.mpr hf)
    exact hnofin b (h.tracked.sentEntries b hb)
  obtain ⟨like, hlike, hcarries, hbuffer, hcurrent⟩ := howed.new hlen hpos hsentFin
    fun b hb => hnofin b (h.tracked.lostEntries b hb)
  have hwritten : s.frameWritten frame = .ok ({ s with toSendLike := like }, true) := by
    refine frameWritten_real (by rw [heq]) ?_
    rw [heq]
    exact hlike
  obtain ⟨-, htracked, -, -, herror, -⟩ :=
    (h.tracked.frameWritten_new h.error hframe).of_ok hwritten
  have hoffset : frame.offset = s.currentWriteOffset := by rw [heq]
  have hframeLen : frame.len = len := by rw [heq]
  have hstop : frame.stop = like.currentWriteOffset := by
    rw [hcurrent, WriteStreamFrame.stop, hoffset, hframeLen]
  refine (frameSent_of_written (Q := (· = ({ s with toSendLike := like }, true))) ?_).imp ?_
  · rw [hwritten]
    exact .ok rfl
  · rintro t ⟨new, ht⟩
    cases ht
    -- The FIN does not move the end of the real data in front of BufMeta.
    have hrealEnd : s.writeBufMeta.offset ≠ 0 →
        ({ s with toSendLike := like } : SendStream).realEnd = s.realEnd := by
      intro hmeta
      have hnofin : ¬ frame.fin = true := fun hend => hmeta (hfin.mp hend).2.1
      rw [if_neg hnofin] at hcurrent
      change like.currentWriteOffset + like.writeBuffer.chainLength =
        s.currentWriteOffset + s.writeBuffer.chainLength
      omega
    refine ⟨htracked, herror.trans h.error, ⟨⟨_, hcarries⟩, fun m hm => ?_, fun m hm => ?_⟩, ?_, ?_⟩
    · have hmeta := h.tracked.sentMetas m hm
      rw [hrealEnd (by have := hmeta.1; omega)]
      exact h.stored.sentMetas m hm
    · have hmeta := h.tracked.lostMetas m hm
      rw [hrealEnd (by have := hmeta.1; omega)]
      exact h.stored.lostMetas m hm
    · refine List.forall_mem_append.mpr ⟨fun f hf hreal hend => ?_,
        List.forall_mem_singleton.mpr fun _ hend => ⟨hstop, ?_⟩⟩
      · rw [h.no_fin hle f hf hreal] at hend
        cases hend
      · obtain ⟨-, hmeta, -⟩ := hfin.mp hend
        have hstage := h.tracked.stage h.error
        rw [Sent, hmeta] at hstage
        have hsent := hstage.sent_eq hle
        rw [if_pos hend] at hcurrent
        change max sent (frame.offset + frame.len) < like.currentWriteOffset
        omega
    · refine List.forall_mem_append.mpr ⟨fun f hf hbuf => ?_,
        List.forall_mem_singleton.mpr fun hbuf => ?_⟩
      · obtain ⟨hmeta, hbehind⟩ := h.bufMeta f hf hbuf
        rw [hrealEnd hmeta]
        exact ⟨hmeta, hbehind⟩
      · rw [heq] at hbuf
        cases hbuf

theorem Followed.sendBufMeta (h : s.Followed sent frames) {len : Nat} {frame : WriteStreamFrame}
    (hframe : s.newBufMetaFrame len = some frame) :
    Ends AnyFault (s.frameSent frame) (fun t =>
      t.Followed (max sent (frame.offset + frame.len)) (frames ++ [frame])) := by
  obtain ⟨hoffset, -, -, -, -, heq⟩ := newBufMetaFrame_eq_some hframe
  have hle : s.currentWriteOffset ≤ sent := by
    rcases h.tracked.current with hle | ⟨-, -, hzero⟩
    · exact hle
    · exact absurd hzero hoffset
  have hmeta : frame.fromBufMeta = true := by rw [heq]
  have hbehind : s.realEnd ≤ frame.offset := by
    rw [heq]
    exact (h.tracked.stage h.error).buffered_le hoffset
  have hwritten := (h.tracked.frameWritten_newBufMeta h.error hframe).also
    (h.stored.bufMeta hmeta hbehind).forget
  have hmoved : Ends AnyFault (s.frameSent frame) (fun t => ∃ sent, t = { s with
      writeBufMeta := ⟨s.writeBufMeta.length - len,
        s.writeBufMeta.offset + len + (if frame.fin then 1 else 0), s.writeBufMeta.eof⟩
      retransmissionBufMetas := sent }) := by
    rw [heq]
    exact frameSent_newBufMeta hoffset frame.fin len
  refine ((frameSent_of_written hwritten).also hmoved.forget).imp ?_
  rintro t ⟨⟨new, ⟨-, htracked, -, -, herror, -⟩, hstored⟩, metas, rfl⟩
  have hstarted : s.writeBufMeta.offset + len + (if frame.fin then 1 else 0) ≠ 0 := by omega
  refine ⟨htracked, herror.trans h.error, hstored, ?_, ?_⟩
  · refine List.forall_mem_append.mpr ⟨fun f hf hreal hend => ?_,
      List.forall_mem_singleton.mpr fun hreal => ?_⟩
    · rw [h.no_fin hle f hf hreal] at hend
      cases hend
    · rw [hmeta] at hreal
      cases hreal
  · exact List.forall_mem_append.mpr ⟨fun f hf hbuf => ⟨hstarted, (h.bufMeta f hf hbuf).2⟩,
      List.forall_mem_singleton.mpr fun _ => ⟨hstarted, hbehind⟩⟩

/-! ### Frames that are sent again -/

/-- The frame that is made of the first of some lost entries, if there is room for it. -/
theorem writeStreamLossBuffers_one (id : StreamId) (entries : List StreamBuffer) (len : Nat) :
    Ends (fun _ => True) (writeStreamLossBuffers id entries [len]) (fun made =>
      made = [] ∨ ∃ b after fin, entries = b :: after ∧
        made = [⟨id, b.offset, len, fin, false, 0⟩] ∧
        (len = b.data.chainLength ∧ fin = b.eof ∨
          0 < len ∧ len ≤ b.data.chainLength ∧ fin = false)) := by
  cases entries with
  | nil => exact .ok (.inl rfl)
  | cons b after =>
    rw [writeStreamLossBuffers]
    refine Ends.ite (fun _ => .error trivial) fun _ => ?_
    refine Ends.ite (fun _ => .ok (.inl rfl)) fun hfits => ?_
    push Not at hfits
    obtain ⟨hle, hsome⟩ := hfits
    have hrest : writeStreamLossBuffers id after [] = .ok [] := by
      cases after with
      | nil => rfl
      | cons _ _ => rfl
    rw [hrest]
    refine .ok (.inr ⟨b, after, _, rfl, rfl, ?_⟩)
    by_cases hwhole : len = b.data.chainLength
    · rw [beq_iff_eq.mpr hwhole, Bool.and_true]
      exact .inl ⟨hwhole, rfl⟩
    · have hpart : (len == b.data.chainLength) = false := beq_eq_false_iff_ne.mpr hwhole
      rw [hpart, Bool.and_false] at hsome ⊢
      refine .inr ⟨Nat.pos_of_ne_zero fun hzero => ?_, hle, rfl⟩
      exact absurd rfl (hsome hzero)

/-- Real data that was lost. -/
theorem Followed.sendLost (h : s.Followed sent frames) {before after : List StreamBuffer}
    {b : StreamBuffer} {len : Nat} {fin : Bool} (hloss : s.lossBuffer = before ++ b :: after)
    (hpart : len = b.data.chainLength ∧ fin = b.eof ∨
      0 < len ∧ len ≤ b.data.chainLength ∧ fin = false) :
    Ends AnyFault (s.frameSent ⟨s.id, b.offset, len, fin, false, 0⟩) (fun t =>
      t.Followed sent (frames ++ [⟨s.id, b.offset, len, fin, false, 0⟩])) := by
  have hmem : b ∈ s.lossBuffer := by
    rw [hloss]
    exact List.mem_append_right _ List.mem_cons_self
  obtain ⟨hsent, hcurrent, hpast⟩ := h.tracked.lostEntries b hmem
  obtain ⟨owed, howed⟩ := h.stored.carries
  have hsolid := howed.balanced.laid.solid b (List.mem_append_right _ hmem)
  have hle : len ≤ b.data.chainLength := by
    rcases hpart with ⟨hlen, -⟩ | ⟨-, hlen, -⟩
    · exact hlen.le
    · exact hlen
  have hend : b.offset + len ≤ b.endOffset := Nat.add_le_add_left hle _
  have heof : fin = true → b.eof = true ∧ len = b.data.chainLength := by
    intro hfin
    rcases hpart with ⟨hlen, hb⟩ | ⟨-, -, hnofin⟩
    · exact ⟨hb ▸ hfin, hlen⟩
    · rw [hnofin] at hfin
      cases hfin
  have hrepeats : s.Repeats sent ⟨s.id, b.offset, len, fin, false, 0⟩ := by
    refine ⟨rfl, ?_, hend.trans hsent, hend.trans hcurrent, fun hfin => hpast (heof hfin).1⟩
    rcases hpart with ⟨hlen, hb⟩ | ⟨hpos, -, -⟩
    · unfold StreamBuffer.stop StreamBuffer.endOffset at hsolid
      rw [← hlen, ← hb] at hsolid
      dsimp only
      cases fin with
      | true => exact .inr rfl
      | false =>
        rw [if_neg Bool.false_ne_true] at hsolid
        exact .inl (by omega)
    · exact .inl hpos
  obtain ⟨like, hlike, hcarries⟩ := howed.again hloss hpart
  have hwritten : s.frameWritten ⟨s.id, b.offset, len, fin, false, 0⟩ =
      .ok ({ s with toSendLike := like }, false) := frameWritten_real rfl hlike
  obtain ⟨-, htracked, hsame, -⟩ := (h.tracked.frameWritten_repeated hrepeats).of_ok hwritten
  have hstored : ({ s with toSendLike := like } : SendStream).Stored s.realEnd :=
    ⟨⟨_, hcarries⟩, h.stored.sentMetas, h.stored.lostMetas⟩
  have hfollowed := h.unmoved htracked hsame hstored
  refine (frameSent_of_written (Q := (· = ({ s with toSendLike := like }, false))) ?_).imp ?_
  · rw [hwritten]
    exact .ok rfl
  · rintro t ⟨new, ht⟩
    cases ht
    refine hfollowed.concat (fun _ hfin => ?_) fun hmeta => by cases hmeta
    obtain ⟨hb, hlen⟩ := heof hfin
    rw [hsame.current]
    refine ⟨?_, hpast hb⟩
    rw [← howed.lostFin b hmem hb, WriteStreamFrame.stop, StreamBuffer.stop, hb, hfin, hlen]
    rfl

/-- BufMeta that was lost. -/
theorem Followed.sendLostBufMeta (h : s.Followed sent frames) {len : Nat} {frame : WriteStreamFrame}
    (hframe : s.lossBufMetaFrame len = some frame) :
    Ends AnyFault (s.frameSent frame) (fun t => t.Followed sent (frames ++ [frame])) := by
  have hframe' : frame.fromBufMeta = true ∧ ∃ m ∈ s.lossBufMetas, frame.offset = m.offset := by
    unfold lossBufMetaFrame at hframe
    split at hframe
    · cases hframe
    · rename_i m rest hloss
      split at hframe
      · cases hframe
      · cases hframe
        rw [hloss]
        exact ⟨rfl, m, List.mem_cons_self, rfl⟩
  obtain ⟨hmeta, m, hm, hoffset⟩ := hframe'
  have hbehind : s.realEnd ≤ frame.offset := by
    rw [hoffset]
    exact h.stored.lostMetas m hm
  have hstarted : s.writeBufMeta.offset ≠ 0 := by
    have := (h.tracked.lostMetas m hm).1
    omega
  have hwritten := (h.tracked.frameWritten_lossBufMeta hframe).1.also
    (h.stored.bufMeta hmeta hbehind).forget
  refine (frameSent_of_written hwritten).imp ?_
  rintro t ⟨new, ⟨-, htracked, hsame, -⟩, hstored⟩
  refine (h.unmoved htracked hsame hstored).concat (fun hreal => ?_) fun _ => ?_
  · rw [hmeta] at hreal
    cases hreal
  · rw [hsame.bufMeta, hsame.realEnd]
    exact ⟨hstarted, hbehind⟩

/-! ### Losses and acks -/

theorem Followed.frameLost (h : s.Followed sent frames) (frame : WriteStreamFrame)
    (disabled : Bool) :
    Ends AnyFault (s.frameLost frame disabled) (fun t => t.Followed sent frames) := by
  refine ((h.tracked.frameLost frame disabled).also
    (h.stored.frameLost frame disabled).forget).imp ?_
  rintro t ⟨⟨ht, hsame, -⟩, hstored⟩
  exact h.unmoved ht hsame hstored

theorem Followed.sendAckSMHandler (h : s.Followed sent frames) (frame : WriteStreamFrame) :
    Ends AnyFault (s.sendAckSMHandler frame) (fun t => t.Followed sent frames) := by
  refine ((h.tracked.sendAckSMHandler frame).also (h.stored.sendAckSMHandler frame).forget).imp ?_
  rintro t ⟨⟨ht, hsame, -⟩, hstored⟩
  exact h.unmoved ht hsame hstored

theorem Followed.frameAckedLate (h : s.Followed sent frames) {frame : WriteStreamFrame}
    (hmatch : frame.fin = true → 0 < frame.len →
      ∀ b ∈ s.lossBuffer, b.Hit frame.offset frame.len → b.eof = true) :
    Ends AnyFault (s.frameAckedLate frame) (fun t => t.Followed sent frames) := by
  refine ((h.tracked.frameAckedLate frame).also (h.stored.frameAckedLate hmatch).forget).imp ?_
  rintro t ⟨⟨ht, hsame, -⟩, hstored⟩
  exact h.unmoved ht hsame hstored

/-- Nothing waits behind the FIN, and none of the assertions fails. -/
theorem Followed.frameAckedLate_fin (h : s.Followed sent frames) {f : WriteStreamFrame}
    (hpast : sent < s.currentWriteOffset) (hfin : f.fin = true) :
    ∃ t, s.frameAckedLate f = .ok t ∧
      t.lossBuffer = removeFromLossBuffer s.lossBuffer f.offset f.len f.fin := by
  obtain ⟨hoffset, hbuffer⟩ : s.writeBufMeta.offset = 0 ∧ s.writeBuffer.chainLength = 0 := by
    rcases h.tracked.current with hle | ⟨-, -, hoffset⟩
    · omega
    · have hstage := h.tracked.stage h.error
      rw [Sent, hoffset] at hstage
      cases hstage with
      | real _ _ hsent _ => omega
      | realFin _ _ hbuffer _ _ => exact ⟨hoffset, hbuffer⟩
      | unsent hne _ _ _ => exact absurd rfl hne
      | sending hlt _ _ => omega
      | sentFin hlt _ _ _ => omega
  have hempty := (BufQueue.empty_iff_chainLength _).mpr hbuffer
  have hwritable : ∀ t : SendStream, t.writeBuffer = s.writeBuffer →
      t.writeBufMeta = s.writeBufMeta → t.updateWritableStreams = .ok t := by
    intro t hsame hmeta
    unfold updateWritableStreams hasWritableData hasWritableBufMeta
    rw [hsame, hmeta, hempty, if_pos hoffset]
    cases t.streamWriteError.isSome with
    | true => rfl
    | false => rfl
  unfold SendStream.frameAckedLate SendLike.updateAckedIntervals
  rw [if_neg (by simp [hfin])]
  exact ⟨_, hwritable _ rfl rfl, rfl⟩

/-- Frames of BufMeta lie behind the lost entries. -/
theorem Followed.not_hit (h : s.Followed sent frames) {f : WriteStreamFrame} (hf : f ∈ frames)
    (hmeta : f.fromBufMeta = true) (hpos : 0 < f.len) :
    ∀ b ∈ s.lossBuffer, ¬ b.Hit f.offset f.len := by
  intro b hb hhit
  obtain ⟨hoffset, hbehind⟩ := h.bufMeta f hf hmeta
  obtain ⟨hsent, hcurrent, hpast⟩ := h.tracked.lostEntries b hb
  obtain ⟨owed, howed⟩ := h.stored.carries
  have hsolid := howed.balanced.laid.solid b (List.mem_append_right _ hb)
  have hnofin : b.eof = false := by
    by_contra heof
    have hlt := hpast (eq_true_of_ne_false heof)
    rcases h.tracked.current with hle | ⟨-, -, hzero⟩
    · omega
    · exact hoffset hzero
  unfold StreamBuffer.stop at hsolid
  rw [hnofin, if_neg Bool.false_ne_true] at hsolid
  unfold realEnd at hbehind
  unfold StreamBuffer.Hit at hhit
  omega

end SendStream

/-! ### Runs -/

namespace FrameLog

variable {log log' : FrameLog}

def LossInv (log : FrameLog) : Prop := log.written.stream.Followed log.written.sent log.frames

theorem LossInv.onStream {act : Except StreamFault SendStream}
    (h : Ends AnyFault act (fun t => t.Followed log.written.sent log.frames)) :
    Ends (fun _ => True) (log.onStream act) LossInv :=
  h.liftStream.bind fun _ ht => .ok ht

theorem LossInv.sendAgain {frame : WriteStreamFrame}
    (h : Ends AnyFault (log.written.stream.frameSent frame)
      (fun t => t.Followed log.written.sent (log.frames ++ [frame]))) :
    Ends (fun _ => True) (log.sendAgain frame) LossInv := by
  unfold FrameLog.sendAgain FrameLog.onStream
  rw [bind_assoc]
  exact h.liftStream.bind fun _ ht => .ok ht

/-- A call of the application or of a scheduler. -/
theorem LossInv.sendHalf (h : log.LossInv) (event : SendHalfEvent) :
    Ends AnyFault (log.step event) LossInv := by
  have hcall : ∀ act : Except StreamFault SendStream,
      Ends AnyFault act (fun t => t.Followed log.written.sent log.frames) →
        Ends AnyFault (((⟨·, log.written.sent⟩ : SendStream → WrittenStream) <$> act) >>=
          fun written => .ok (⟨written, log.frames ++ []⟩ : FrameLog)) LossInv := by
    intro act hact
    refine Ends.bind (P := fun w => LossInv ⟨w, log.frames ++ []⟩) (Ends.map (hact.imp ?_))
      fun _ hw => .ok hw
    intro t ht
    rw [List.append_nil]
    exact ht
  have hframe : ∀ made : Option WriteStreamFrame,
      (∀ frame, made = some frame → Ends AnyFault (log.written.stream.frameSent frame) (fun t =>
        t.Followed (max log.written.sent (frame.offset + frame.len)) (log.frames ++ [frame]))) →
        Ends AnyFault (log.written.onFrame made >>= fun written =>
          .ok (⟨written, log.frames ++ made.toList⟩ : FrameLog)) LossInv := by
    intro made hmade
    cases made with
    | none =>
      refine .ok ?_
      rw [Option.toList_none, List.append_nil]
      exact h
    | some frame =>
      unfold WrittenStream.onFrame
      rw [bind_assoc]
      exact (hmade frame rfl).bind fun _ ht => .ok ht
  cases event with
  | writeChain data eof => exact hcall _ (h.writeChain data eof)
  | writeBufMeta length eof => exact hcall _ (h.writeBufMeta length eof)
  | setDSRSender sender => exact hcall _ (h.setDSRSender sender)
  | send len => exact hframe _ fun frame hmade => h.send hmade
  | sendBufMeta len => exact hframe _ fun frame hmade => h.sendBufMeta hmade
  | windowUpdate maximumData => exact hcall _ (h.windowUpdate maximumData)

/-- A step that meets the condition keeps the invariant. -/
theorem LossInv.step (h : log.LossInv) {event : LossEvent} (hmatch : log.FinMatches event) :
    Ends (fun _ => True) (log.lossStep event) LossInv := by
  cases event with
  | sendHalf event => exact (h.sendHalf event).liftStream
  | frameLost frame disabled => exact LossInv.onStream (h.frameLost frame disabled)
  | frameAcked frame => exact LossInv.onStream (h.sendAckSMHandler frame)
  | frameAckedLate frame =>
    refine Ends.ite (fun hsent => ?_) fun _ => .ok h
    exact LossInv.onStream (h.frameAckedLate (hmatch hsent))
  | sendLost index len =>
    refine Ends.bind (SendStream.writeStreamLossBuffers_one _ _ _) fun made hmade => ?_
    rcases hmade with rfl | ⟨b, after, fin, hloss, rfl, hpart⟩
    · exact .ok h
    · have hsplit := List.take_append_drop index log.written.stream.lossBuffer
      rw [hloss] at hsplit
      rw [List.foldlM_cons]
      exact (LossInv.sendAgain (h.sendLost hsplit.symm hpart)).bind fun _ ht => .ok ht
  | sendLostBufMeta len =>
    dsimp only [lossStep]
    cases hframe : log.written.stream.lossBufMetaFrame len with
    | none => exact .ok h
    | some frame => exact LossInv.sendAgain (h.sendLostBufMeta hframe)

theorem LossInv.sound (h : log.LossInv) : log.LossSound := by
  obtain ⟨owed, howed⟩ := h.stored.carries
  have hlaid := howed.balanced.laid
  have hloss := hlaid.sublist (List.sublist_append_right _ _)
  have hsorted := howed.balanced.sorted
  refine ⟨?_, fun b hb hempty => ?_, fun f _ x v hout => ?_, fun f _ hnofin n hfin => ?_⟩
  · refine (hsorted.and (hloss.follow hsorted)).imp ?_
    rintro a b ⟨hle, hstop⟩
    exact ⟨hle, (Nat.le_add_right _ _).trans hstop⟩
  · have hsolid := hloss.solid b hb
    have hzero := (BufQueue.empty_iff_chainLength _).mp hempty
    unfold StreamBuffer.stop StreamBuffer.endOffset at hsolid
    by_contra heof
    rw [hzero, if_neg heof] at hsolid
    omega
  · exact holdsByte_removeFromLossBuffer hsorted hout
  · unfold removed
    rw [hnofin]
    rcases removeFromLossBuffer_cases hsorted f.offset f.len false with
      ⟨-, hsame⟩ | ⟨before, b, after, hsplit, -, hhit, -, hcut⟩
    · rw [hsame]
      exact hfin
    · rw [hsplit] at hlaid hfin
      rw [hcut]
      exact holdsFin_cutFrom hlaid hhit hfin

/-- The first entry that is hit has no FIN if any has none. -/
theorem LossInv.first_hit (h : log.LossInv) {f : WriteStreamFrame}
    {before after : List StreamBuffer} {a b : StreamBuffer}
    (hloss : log.written.stream.lossBuffer = before ++ b :: after)
    (hfirst : ∀ c ∈ before, ¬ c.Hit f.offset f.len) (ha : a ∈ log.written.stream.lossBuffer)
    (hhit : a.Hit f.offset f.len) (hnofin : a.eof = false) : b.eof = false := by
  obtain ⟨owed, howed⟩ := h.stored.carries
  have hlaid := howed.balanced.laid.sublist (List.sublist_append_right _ _)
  have hbelow := hlaid.below a ha
  have hsolid := hlaid.solid a ha
  by_contra heof
  have hstop := howed.lostFin b (by rw [hloss]; exact List.mem_append_right _ List.mem_cons_self)
    (eq_true_of_ne_false heof)
  have hfollow := hlaid.follow howed.balanced.sorted
  rw [hloss] at hfollow ha
  rcases List.mem_append.mp ha with ha | ha
  · exact hfirst a ha hhit
  · rcases List.mem_cons.mp ha with rfl | ha
    · exact heof hnofin
    · -- Nothing is lost behind the FIN.
      have hbehind := (List.pairwise_cons.mp (List.pairwise_append.mp hfollow).2.1).1 a ha
      omega

/-- A step that does not meet it leaves an entry with neither data nor the FIN. -/
theorem LossInv.not_sound (h : log.LossInv) {event : LossEvent} (hmatch : ¬ log.FinMatches event) :
    ∃ log', log.lossStep event = .ok log' ∧ ¬ log'.LossSound := by
  cases event with
  | frameAckedLate f =>
    unfold FinMatches at hmatch
    push Not at hmatch
    obtain ⟨hsent, hfin, hpos, a, ha, hhit, hnofin⟩ := hmatch
    have hnofin : a.eof = false := eq_false_of_ne_true hnofin
    have hreal : f.fromBufMeta = false := by
      by_contra hmeta
      exact h.not_hit hsent (eq_true_of_ne_false hmeta) hpos a ha hhit
    obtain ⟨hstop, hpast⟩ := h.real f hsent hreal hfin
    obtain ⟨owed, howed⟩ := h.stored.carries
    rcases removeFromLossBuffer_cases howed.balanced.sorted f.offset f.len f.fin with
      ⟨hnone, -⟩ | ⟨before, b, after, hloss, -, hhitb, hfirst, hcut⟩
    · exact absurd hhit (hnone hpos a ha)
    · have hb : b ∈ log.written.stream.lossBuffer := by
        rw [hloss]
        exact List.mem_append_right _ List.mem_cons_self
      have hnofinb := h.first_hit hloss hfirst ha hhit hnofin
      have hend : b.endOffset ≤ f.offset + f.len := by
        have hwithin := (h.tracked.lostEntries b hb).1
        rw [WriteStreamFrame.stop, if_pos hfin] at hstop
        omega
      obtain ⟨c, hc, hempty, hceof⟩ :=
        exists_empty_cutFrom before after hhitb hnofinb hend
      obtain ⟨t, ht, hlost⟩ := h.frameAckedLate_fin hpast hfin
      refine ⟨{ log with written := { log.written with stream := t } }, ?_, fun hsound => ?_⟩
      · change (if f ∈ log.frames then _ else _) = _
        rw [if_pos hsent, FrameLog.onStream, ht]
        rfl
      · have hmem : c ∈ t.lossBuffer := by
          rw [hlost, hcut, hfin]
          exact hc
        have hkept := hsound.nonempty c hmem hempty
        rw [hceof] at hkept
        cases hkept
  | sendHalf event => exact absurd trivial hmatch
  | frameLost frame disabled => exact absurd trivial hmatch
  | frameAcked frame => exact absurd trivial hmatch
  | sendLost index len => exact absurd trivial hmatch
  | sendLostBufMeta len => exact absurd trivial hmatch

theorem start_followed (id : StreamId) (peerAdvertisedMaxOffset : Fin (2 ^ 62)) :
    (start id peerAdvertisedMaxOffset).LossInv where
  tracked := {
    varint := peerAdvertisedMaxOffset.isLt
    limit := Nat.zero_le _
    stage := fun _ => .real rfl rfl rfl fun f hf => by cases hf
    current := .inl le_rfl
    isOpen := fun _ => rfl
    dropped := fun _ => rfl
    sentEntries := fun b hb => by cases hb
    lostEntries := fun b hb => by cases hb
    sentMetas := fun m hm => by cases hm
    lostMetas := fun m hm => by cases hm }
  error := rfl
  stored := by
    refine ⟨⟨[], ⟨.refl _, ⟨?_, ?_, ?_⟩, .nil⟩, ?_, ?_⟩, ?_, ?_⟩
    · intro b hb
      cases hb
    · intro b hb
      cases hb
    · intro x
      exact Nat.zero_le _
    · intro f hf
      cases hf
    · intro b hb
      cases hb
    · intro m hm
      cases hm
    · intro m hm
      cases hm
  real f hf := by cases hf
  bufMeta f hf := by cases hf

end FrameLog

/-- In every state that a run reaches the loss buffer is sorted and disjoint and has no entry
without data and FIN, and removing a frame that was sent takes away nothing outside the frame, if
and only if no frame with the FIN is acknowledged late while an entry without the FIN lies in its
range. -/
theorem lossBuffer_sound_iff (id : StreamId) (peerAdvertisedMaxOffset : Fin (2 ^ 62))
    (events : List LossEvent) :
    (∀ fs log, fs <+: events → fs.foldlM FrameLog.lossStep (.start id peerAdvertisedMaxOffset) =
        .ok log → log.LossSound) ↔
      Meets FrameLog.lossStep FrameLog.FinMatches (.start id peerAdvertisedMaxOffset) events := by
  apply reaches_good_iff_meets
  · exact fun log e log' (h : log.LossInv) hmatch hstep => (h.step hmatch).of_ok hstep
  · exact fun log e (h : log.LossInv) hmatch => h.not_sound hmatch
  · exact fun log (h : log.LossInv) => h.sound
  · exact FrameLog.start_followed id peerAdvertisedMaxOffset

/-- Ten bytes and the FIN are sent in one frame, lost, and sent again in two frames, the first of
which is lost as well. Then the frame that carried everything is acknowledged: an entry without
data and FIN stays in the loss buffer, and the next frame cannot be written. -/
theorem lossBuffer_empty_entry :
    ∃ log, [.sendHalf (.writeChain (some (.wrapBuffer (List.replicate 10 0))) true),
        .sendHalf (.send 10), .frameLost ⟨0, 0, 10, true, false, 0⟩ false, .sendLost 0 6,
        .sendLost 0 4, .frameLost ⟨0, 0, 6, false, false, 0⟩ false,
        .frameAckedLate ⟨0, 0, 10, true, false, 0⟩].foldlM FrameLog.lossStep
          (.start 0 ⟨1000, by decide⟩) = .ok log ∧
      log.written.stream.lossBuffer.map (·.span) = [⟨6, 0, false⟩] ∧ ¬ log.LossSound ∧
      log.lossStep (.sendLost 0 1) = .error (.exception
        (.internal "No data or fin supplied when writing stream.")) := by
  refine ⟨_, rfl, rfl, fun hsound => ?_, rfl⟩
  have hkept := hsound.nonempty _ List.mem_cons_self rfl
  cases hkept

end MasqueQuic
