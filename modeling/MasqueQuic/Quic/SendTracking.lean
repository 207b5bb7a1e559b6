/-
How far the send half of a stream has been sent, whatever happens to it.

Until it is reset the stream is somewhere in the stages of `FinalSize`; after that it has nothing
left to send. What is on its way and what was lost ends where the stream has got to, so no frame
that repeats it is taken for new data.

The peer's limit is compared with the next offset to write, which lies one behind the final size
once the FIN has been sent. `PastLimit` describes the streams for which it lies past the limit.
-/

import MasqueQuic.Quic.FinalSize
import MasqueQuic.Quic.SendCoverage
import MasqueQuic.Quic.SendFlowControl

namespace MasqueQuic

/-! ### Streams -/

/-- What has been sent, lost or not, ends where the stream has got to. Behind a FIN
`currentWriteOffset` is one further. -/
def Within (current sent stop : Nat) (fin : Bool) : Prop :=
  stop ≤ sent ∧ stop ≤ current ∧ (fin = true → sent < current)

def WriteBufferMeta.Within (offset sent : Nat) (m : WriteBufferMeta) : Prop :=
  m.offset < offset ∧ m.offset + m.length ≤ offset ∧ m.offset + m.length ≤ sent

theorem BufQueue.empty_iff_chainLength (q : BufQueue) : q.empty = true ↔ q.chainLength = 0 := by
  rw [BufQueue.empty, beq_iff_eq]
  exact Iff.rfl

theorem Within.mono {current sent sent' stop : Nat} {fin : Bool}
    (h : Within current sent stop fin) (hle : current ≤ sent) {current' : Nat}
    (hcurrent : current ≤ current') (hsent : sent ≤ sent') : Within current' sent' stop fin := by
  obtain ⟨hstop, hstop', hfin⟩ := h
  refine ⟨hstop.trans hsent, hstop'.trans hcurrent, fun h => ?_⟩
  have := hfin h
  omega

theorem append_of_span {α : Type} {p : α → Bool} {l before after : List α}
    (h : l.span p = (before, after)) : l = before ++ after := by
  rw [List.span_eq_takeWhile_dropWhile, Prod.mk.injEq] at h
  rw [← h.1, ← h.2, List.takeWhile_append_dropWhile]

theorem Stage.current_cases {sent current buffered offset length : Nat} {final : Option Nat}
    (h : Stage current buffered offset length sent final) :
    current ≤ sent ∨ (current = sent + 1 ∧ final = some sent ∧ offset = 0) := by
  cases h with
  | real _ _ hsent _ => exact .inl (by omega)
  | realFin hoffset _ _ hfinal hcurrent => exact .inr ⟨hcurrent, hfinal, hoffset⟩
  | unsent _ _ hsent _ => exact .inl (by omega)
  | sending _ hsent _ => exact .inl (by omega)
  | sentFin _ _ _ hoffset => exact .inl (by omega)

theorem Stage.sent_eq {sent current buffered length : Nat} {final : Option Nat}
    (h : Stage current buffered 0 length sent final) (hle : current ≤ sent) : sent = current := by
  cases h with
  | real _ _ hsent _ => exact hsent
  | realFin _ _ _ _ hcurrent => omega
  | unsent hoffset _ _ _ => exact absurd rfl hoffset
  | sending hlt _ _ => omega
  | sentFin hlt _ _ _ => omega

namespace SendStream

/-- The next offset to write lies past the peer's limit: the stream has sent its FIN where the limit
is, or it was reset while its BufMeta began behind the limit. -/
def PastLimit (s : SendStream) : Prop :=
  s.writeBuffer.empty = true ∧
    ((s.hasSentFIN = true ∧ s.finalWriteOffset = some s.peerAdvertisedMaxOffset) ∨
      (s.streamWriteError.isSome ∧ s.peerAdvertisedMaxOffset < s.writeBufMeta.offset))

/-- What holds of the send half of a stream that has been sent up to `sent`. -/
structure Tracked (s : SendStream) (sent : Nat) : Prop where
  varint : s.peerAdvertisedMaxOffset < 2 ^ 62
  limit : sent ≤ s.peerAdvertisedMaxOffset
  stage : s.streamWriteError = none → s.Sent sent
  current : s.currentWriteOffset ≤ sent ∨
    (s.currentWriteOffset = sent + 1 ∧ s.finalWriteOffset = some sent ∧ s.writeBufMeta.offset = 0)
  isOpen : s.sendState = .open → s.streamWriteError = none
  dropped : s.sendState ≠ .open → s.dataInBuffer = 0
  sentEntries : ∀ b ∈ s.retransmissionBuffer, Within s.currentWriteOffset sent b.endOffset b.eof
  lostEntries : ∀ b ∈ s.lossBuffer, Within s.currentWriteOffset sent b.endOffset b.eof
  sentMetas : ∀ m ∈ s.retransmissionBufMetas, m.Within s.writeBufMeta.offset sent
  lostMetas : ∀ m ∈ s.lossBufMetas, m.Within s.writeBufMeta.offset sent

variable {s t : SendStream} {sent : Nat}

theorem Tracked.open_of_buffered (h : s.Tracked sent) (hbuffer : s.dataInBuffer ≠ 0) :
    s.sendState = .open := by
  by_contra hstate
  exact hbuffer (h.dropped hstate)

/-- As long as real data is waiting, `currentWriteOffset` counts no FIN. -/
theorem Tracked.current_le (h : s.Tracked sent) (hbuffer : s.writeBuffer.chainLength ≠ 0) :
    s.currentWriteOffset ≤ sent := by
  have hopen := h.open_of_buffered (by unfold dataInBuffer; omega)
  exact (h.stage (h.isOpen hopen)).current_le (.inl hbuffer)

theorem hasSentFIN_iff (s : SendStream) : s.hasSentFIN = true ↔
    ∃ final, s.finalWriteOffset = some final ∧
      (final < s.currentWriteOffset ∨ final < s.writeBufMeta.offset) := by
  unfold hasSentFIN
  cases s.finalWriteOffset with
  | none => simp
  | some final => simp

/-- The difference between the limit and the next offset wraps for these streams only. -/
theorem Tracked.limit_lt_next_iff (h : s.Tracked sent) :
    s.peerAdvertisedMaxOffset < s.nextOffsetToWrite ↔ s.PastLimit := by
  have hlimit := h.limit
  unfold nextOffsetToWrite PastLimit
  rw [hasSentFIN_iff, BufQueue.empty_iff_chainLength]
  by_cases hbuffer : s.writeBuffer.chainLength = 0
  · have hempty : s.writeBuffer.empty = true := (BufQueue.empty_iff_chainLength _).mpr hbuffer
    simp only [hbuffer, hempty, Bool.not_true, Bool.false_eq_true, if_false, true_and]
    by_cases hmeta : s.writeBufMeta.offset = 0
    · rw [if_pos hmeta, hmeta]
      constructor
      · intro hlt
        rcases h.current with hle | ⟨hcurrent, hfinal, -⟩
        · omega
        · have hsent : sent = s.peerAdvertisedMaxOffset := by omega
          subst hsent
          exact .inl ⟨⟨_, hfinal, .inl (by omega)⟩, hfinal⟩
      · rintro (⟨⟨final, hfinal, hpast⟩, hat⟩ | ⟨-, hlt⟩)
        · rw [hfinal] at hat
          cases hat
          omega
        · omega
    · rw [if_neg hmeta]
      constructor
      · intro hlt
        cases herror : s.streamWriteError with
        | some error => exact .inr ⟨rfl, hlt⟩
        | none =>
          have hstage := h.stage herror
          rw [Sent, hbuffer] at hstage
          cases hstage with
          | real hzero _ _ _ => exact absurd hzero hmeta
          | realFin hzero _ _ _ _ => exact absurd hzero hmeta
          | unsent _ _ _ _ => omega
          | sending _ _ _ => omega
          | sentFin _ _ hfinal hoffset =>
            have hsent : sent = s.peerAdvertisedMaxOffset := by omega
            subst hsent
            exact .inl ⟨⟨_, hfinal, .inr (by omega)⟩, hfinal⟩
      · rintro (⟨⟨final, hfinal, hpast⟩, hat⟩ | ⟨-, hlt⟩)
        · rw [hfinal] at hat
          cases hat
          rcases h.current with hle | ⟨-, -, hzero⟩
          · omega
          · exact absurd hzero hmeta
        · exact hlt
  · have hempty : s.writeBuffer.empty = false := by
      rw [← Bool.not_eq_true, BufQueue.empty_iff_chainLength]
      exact hbuffer
    have hle := h.current_le hbuffer
    simp only [hbuffer, hempty, Bool.not_false, if_true, ite_self, false_and, iff_false]
    omega

theorem Tracked.next_le (h : s.Tracked sent) (hfin : s.hasSentFIN = false)
    (herror : s.streamWriteError = none) : s.nextOffsetToWrite ≤ s.peerAdvertisedMaxOffset := by
  by_contra hlt
  rcases (h.limit_lt_next_iff.mp (Nat.lt_of_not_le hlt)).2 with ⟨hsent, -⟩ | ⟨hreset, -⟩
  · rw [hfin] at hsent
    cases hsent
  · rw [herror] at hreset
    cases hreset

theorem hasSentFIN_of_writable (hwritable : s.writable = true) : s.hasSentFIN = false := by
  rw [hasSentFIN, WrittenStream.final_eq_none_of_writable hwritable]

theorem open_of_writable (hwritable : s.writable = true) : s.sendState = .open := by
  rw [writable, Bool.and_eq_true, beq_iff_eq] at hwritable
  exact hwritable.1

/-! ### Acks and losses -/

/-- What the offsets of a stream depend on is as it was. -/
structure Unmoved (s t : SendStream) : Prop where
  id : t.id = s.id
  current : t.currentWriteOffset = s.currentWriteOffset
  buffer : t.writeBuffer = s.writeBuffer
  bufMeta : t.writeBufMeta = s.writeBufMeta
  final : t.finalWriteOffset = s.finalWriteOffset
  limit : t.peerAdvertisedMaxOffset = s.peerAdvertisedMaxOffset
  error : t.streamWriteError = s.streamWriteError

theorem Unmoved.refl (s : SendStream) : Unmoved s s := ⟨rfl, rfl, rfl, rfl, rfl, rfl, rfl⟩

/-- Entries of a stream that is where it was may be moved, cut and joined. -/
theorem Tracked.moved (h : s.Tracked sent) (ht : Unmoved s t) (hstate : t.sendState = s.sendState)
    (hsent : ∀ b ∈ t.retransmissionBuffer, Within s.currentWriteOffset sent b.endOffset b.eof)
    (hlost : ∀ b ∈ t.lossBuffer, Within s.currentWriteOffset sent b.endOffset b.eof)
    (hsentMetas : ∀ m ∈ t.retransmissionBufMetas, m.Within s.writeBufMeta.offset sent)
    (hlostMetas : ∀ m ∈ t.lossBufMetas, m.Within s.writeBufMeta.offset sent) : t.Tracked sent where
  varint := by rw [ht.limit]; exact h.varint
  limit := by rw [ht.limit]; exact h.limit
  stage herror := by
    rw [ht.error] at herror
    rw [Sent, ht.current, ht.buffer, ht.bufMeta, ht.final]
    exact h.stage herror
  current := by rw [ht.current, ht.final, ht.bufMeta]; exact h.current
  isOpen hopen := by
    rw [ht.error]
    exact h.isOpen (hstate.symm.trans hopen)
  dropped hopen := by
    rw [dataInBuffer, ht.buffer, ht.bufMeta]
    exact h.dropped (hstate ▸ hopen)
  sentEntries := by rw [ht.current]; exact hsent
  lostEntries := by rw [ht.current]; exact hlost
  sentMetas := by rw [ht.bufMeta]; exact hsentMetas
  lostMetas := by rw [ht.bufMeta]; exact hlostMetas

theorem within_insertIntoLossBuffer {current : Nat} {entries : List StreamBuffer} {buf : StreamBuffer}
    (hentries : ∀ b ∈ entries, Within current sent b.endOffset b.eof)
    (hbuf : Within current sent buf.endOffset buf.eof) :
    ∀ b ∈ insertIntoLossBuffer entries buf, Within current sent b.endOffset b.eof := by
  refine forall_insertIntoLossBuffer hentries hbuf fun last _ hjoin => ?_
  rw [StreamBuffer.join_endOffset hjoin]
  exact hbuf

/-- What is left of an entry ends where it ended, and what was in front of the cut ends before. -/
theorem cutOut_endOffset (b : StreamBuffer) {offset len : Nat}
    (hrange : offset ≤ b.offset ∨ offset ≤ b.endOffset) :
    (cutOut b offset len).1.endOffset = b.endOffset ∧ (cutOut b offset len).1.eof = b.eof ∧
      ∀ front ∈ (cutOut b offset len).2, front.endOffset ≤ b.endOffset ∧ front.eof = false := by
  unfold StreamBuffer.endOffset at *
  unfold cutOut
  by_cases hcut : offset - b.offset > 0
  · simp only [if_pos hcut]
    refine ⟨?_, trivial, ?_⟩
    · change b.offset + (offset - b.offset) + ((b.data.splitAtMost (offset - b.offset)).2.trimStartAtMost
        len).1 + (((b.data.splitAtMost (offset - b.offset)).2).splitAtMost len).2.chainLength = _
      have hback := b.data.chainLength_splitAtMost_snd (offset - b.offset)
      have hrest := (b.data.splitAtMost (offset - b.offset)).2.chainLength_splitAtMost_snd len
      rw [BufQueue.trimStartAtMost_fst]
      omega
    · intro front hfront
      cases hfront
      refine ⟨?_, rfl⟩
      change b.offset + (b.data.splitAtMost (offset - b.offset)).1.bytes.length ≤ _
      rw [BufQueue.length_splitAtMost_fst]
      omega
  · simp only [if_neg hcut]
    refine ⟨?_, trivial, fun front hfront => by cases hfront⟩
    change b.offset + (offset - b.offset) + (b.data.trimStartAtMost len).1 +
      (b.data.splitAtMost len).2.chainLength = _
    rw [BufQueue.trimStartAtMost_fst, BufQueue.chainLength_splitAtMost_snd]
    omega

theorem within_removeLoop {current offset len : Nat} {eof : Bool} {before entries : List StreamBuffer}
    (hbefore : ∀ b ∈ before, Within current sent b.endOffset b.eof)
    (hentries : ∀ b ∈ entries, Within current sent b.endOffset b.eof) :
    ∀ b ∈ removeLoop offset len eof before entries, Within current sent b.endOffset b.eof := by
  induction entries generalizing before with
  | nil => exact hbefore
  | cons b rest ih =>
    obtain ⟨hb, hrest⟩ := List.forall_mem_cons.mp hentries
    rw [removeLoop]
    split
    · exact List.forall_mem_append.mpr ⟨hbefore, hentries⟩
    · split
      · rename_i hrange
        obtain ⟨hback, heof, hfront⟩ := @cutOut_endOffset b offset len (by
          unfold StreamBuffer.endOffset at *
          omega)
        have hleft : Within current sent (cutOut b offset len).1.endOffset
            (cutOut b offset len).1.eof := by
          rw [hback, heof]
          exact hb
        have hlist : ∀ a ∈ (if (cutOut b offset len).1.data.empty = true ∧
            (cutOut b offset len).1.eof = eof then before ++ rest
            else before ++ (cutOut b offset len).1 :: rest),
            Within current sent a.endOffset a.eof := by
          split
          · exact List.forall_mem_append.mpr ⟨hbefore, hrest⟩
          · exact List.forall_mem_append.mpr ⟨hbefore, List.forall_mem_cons.mpr ⟨hleft, hrest⟩⟩
        cases hcut : (cutOut b offset len).2 with
        | none =>
          simp only [hcut, Option.elim_none]
          exact hlist
        | some front =>
          obtain ⟨hend, hnofin⟩ := hfront front hcut
          simp only [hcut, Option.elim_some]
          refine within_insertIntoLossBuffer hlist ⟨hend.trans hb.1, hend.trans hb.2.1, ?_⟩
          rw [hnofin]
          intro hfin
          cases hfin
      · exact ih (List.forall_mem_append.mpr ⟨hbefore, List.forall_mem_singleton.mpr hb⟩) hrest

theorem within_removeFromLossBuffer {current offset len : Nat} {eof : Bool}
    {entries : List StreamBuffer} (hentries : ∀ b ∈ entries, Within current sent b.endOffset b.eof) :
    ∀ b ∈ removeFromLossBuffer entries offset len eof, Within current sent b.endOffset b.eof := by
  unfold removeFromLossBuffer
  split
  · exact hentries
  · exact within_removeLoop (by simp) hentries

theorem within_insertIntoLossBufMeta {m : WriteBufferMeta} {offset : Nat}
    (hmetas : ∀ m ∈ s.lossBufMetas, m.Within offset sent) (hm : m.Within offset sent) :
    ∃ metas, s.insertIntoLossBufMeta m = { s with lossBufMetas := metas } ∧
      ∀ m ∈ metas, m.Within offset sent := by
  rcases hspan : s.lossBufMetas.span (·.offset ≤ m.offset) with ⟨before, after⟩
  rw [append_of_span hspan] at hmetas
  obtain ⟨hbefore, hafter⟩ := List.forall_mem_append.mp hmetas
  unfold insertIntoLossBufMeta
  rw [hspan]
  dsimp only
  split
  · exact ⟨_, rfl, List.forall_mem_cons.mpr ⟨hm, hafter⟩⟩
  · rename_i last hlast
    have hmem := List.mem_of_getLast? hlast
    split
    · rename_i hjoin
      refine ⟨_, rfl, List.forall_mem_append.mpr ⟨?_, List.forall_mem_cons.mpr ⟨?_, hafter⟩⟩⟩
      · exact fun m hm => hbefore m (List.dropLast_subset _ hm)
      · obtain ⟨hlt, -, -⟩ := hbefore last hmem
        obtain ⟨-, hle, hsent⟩ := hm
        refine ⟨hlt, ?_, ?_⟩
        · change last.offset + (last.length + m.length) ≤ offset
          omega
        · change last.offset + (last.length + m.length) ≤ sent
          omega
    · exact ⟨_, rfl, List.forall_mem_append.mpr ⟨hbefore, List.forall_mem_cons.mpr ⟨hm, hafter⟩⟩⟩

theorem Tracked.frameLost (h : s.Tracked sent) (frame : WriteStreamFrame) (disabled : Bool) :
    Ends AnyFault (s.frameLost frame disabled) (fun t =>
      t.Tracked sent ∧ Unmoved s t ∧ t.sendState = s.sendState) := by
  unfold SendStream.frameLost
  split
  · cases hfind : s.toSendLike.findSent frame.offset with
    | none => exact .ok ⟨h, .refl s, rfl⟩
    | some buf =>
      have hbuf := h.sentEntries buf (List.mem_of_find?_eq_some hfind)
      have hsent : ∀ b ∈ (s.toSendLike.eraseSent frame.offset).retransmissionBuffer,
          Within s.currentWriteOffset sent b.endOffset b.eof :=
        fun b hb => h.sentEntries b (List.mem_of_mem_filter hb)
      refine (updateWritableStreams_eq _).imp fun t ht => ?_
      subst ht
      cases disabled with
      | true =>
        exact ⟨h.moved ⟨rfl, rfl, rfl, rfl, rfl, rfl, rfl⟩ rfl hsent h.lostEntries h.sentMetas
          h.lostMetas, ⟨rfl, rfl, rfl, rfl, rfl, rfl, rfl⟩, rfl⟩
      | false =>
        exact ⟨h.moved ⟨rfl, rfl, rfl, rfl, rfl, rfl, rfl⟩ rfl hsent
          (within_insertIntoLossBuffer h.lostEntries hbuf) h.sentMetas h.lostMetas,
          ⟨rfl, rfl, rfl, rfl, rfl, rfl, rfl⟩, rfl⟩
  · cases hfind : s.retransmissionBufMetas.find? (·.offset == frame.offset) with
    | none => exact .ok ⟨h, .refl s, rfl⟩
    | some m =>
      have hm := h.sentMetas m (List.mem_of_find?_eq_some hfind)
      have hsent : ∀ m ∈ s.retransmissionBufMetas.filter (·.offset != frame.offset),
          m.Within s.writeBufMeta.offset sent :=
        fun m hm => h.sentMetas m (List.mem_of_mem_filter hm)
      refine Ends.ite (fun _ => .error trivial) fun _ => ?_
      refine (updateWritableStreams_eq _).imp fun t ht => ?_
      subst ht
      cases disabled with
      | true =>
        exact ⟨h.moved ⟨rfl, rfl, rfl, rfl, rfl, rfl, rfl⟩ rfl h.sentEntries h.lostEntries hsent
          h.lostMetas, ⟨rfl, rfl, rfl, rfl, rfl, rfl, rfl⟩, rfl⟩
      | false =>
        obtain ⟨metas, hmetas, hlost⟩ := within_insertIntoLossBufMeta (s := { s with
          retransmissionBufMetas := s.retransmissionBufMetas.filter (·.offset != frame.offset) })
          h.lostMetas hm
        rw [if_neg Bool.false_ne_true, hmetas]
        exact ⟨h.moved ⟨rfl, rfl, rfl, rfl, rfl, rfl, rfl⟩ rfl h.sentEntries h.lostEntries hsent
          hlost, ⟨rfl, rfl, rfl, rfl, rfl, rfl, rfl⟩, rfl⟩

theorem updateAckedIntervals_eq (like : SendLike) (offset len : Nat) (eof : Bool) :
    Ends AnyFault (like.updateAckedIntervals offset len eof) (fun t =>
      ∃ acked, t = { like with ackedIntervals := acked }) := by
  unfold SendLike.updateAckedIntervals
  exact Ends.ite (fun _ => .error trivial) fun _ => .ok ⟨_, rfl⟩

theorem Tracked.frameAckedLate (h : s.Tracked sent) (frame : WriteStreamFrame) :
    Ends AnyFault (s.frameAckedLate frame) (fun t =>
      t.Tracked sent ∧ Unmoved s t ∧ t.sendState = s.sendState) := by
  unfold SendStream.frameAckedLate
  refine Ends.bind (updateAckedIntervals_eq _ _ _ _) ?_
  rintro like ⟨acked, rfl⟩
  refine (updateWritableStreams_eq _).imp fun t ht => ?_
  subst ht
  exact ⟨h.moved ⟨rfl, rfl, rfl, rfl, rfl, rfl, rfl⟩ rfl h.sentEntries
    (within_removeFromLossBuffer h.lostEntries) h.sentMetas h.lostMetas,
    ⟨rfl, rfl, rfl, rfl, rfl, rfl, rfl⟩, rfl⟩

theorem Tracked.removeAcked (h : s.Tracked sent) (frame : WriteStreamFrame) :
    Ends AnyFault (s.removeAcked frame) (fun t =>
      t.Tracked sent ∧ Unmoved s t ∧ t.sendState = s.sendState) := by
  unfold SendStream.removeAcked
  split
  · cases hfind : s.toSendLike.findSent frame.offset with
    | none => exact .ok ⟨h, .refl s, rfl⟩
    | some buf =>
      refine Ends.ite (fun _ => .error trivial) fun _ => ?_
      refine Ends.bind (updateAckedIntervals_eq _ _ _ _) ?_
      rintro like ⟨acked, rfl⟩
      refine .ok ⟨h.moved ⟨rfl, rfl, rfl, rfl, rfl, rfl, rfl⟩ rfl ?_ h.lostEntries h.sentMetas
        h.lostMetas, ⟨rfl, rfl, rfl, rfl, rfl, rfl, rfl⟩, rfl⟩
      exact fun b hb => h.sentEntries b (List.mem_of_mem_filter hb)
  · cases hfind : s.retransmissionBufMetas.find? (·.offset == frame.offset) with
    | none => exact .ok ⟨h, .refl s, rfl⟩
    | some m =>
      refine Ends.ite (fun _ => .error trivial) fun _ => ?_
      refine Ends.bind (updateAckedIntervals_eq _ _ _ _) ?_
      rintro like ⟨acked, rfl⟩
      refine .ok ⟨h.moved ⟨rfl, rfl, rfl, rfl, rfl, rfl, rfl⟩ rfl h.sentEntries h.lostEntries ?_
        h.lostMetas, ⟨rfl, rfl, rfl, rfl, rfl, rfl, rfl⟩, rfl⟩
      exact fun m hm => h.sentMetas m (List.mem_of_mem_filter hm)

/-- Behind the FIN nothing is left to send. -/
theorem Tracked.drained (h : s.Tracked sent) (herror : s.streamWriteError = none)
    (hfin : s.hasSentFIN = true) (hempty : s.writeBuffer.empty = true) : s.dataInBuffer = 0 := by
  obtain ⟨final, hfinal, hpast⟩ := (hasSentFIN_iff s).mp hfin
  have hbuffer := (BufQueue.empty_iff_chainLength _).mp hempty
  rw [dataInBuffer, hbuffer, Nat.zero_add]
  have hstage := h.stage herror
  rw [Sent, hfinal] at hstage
  cases hstage with
  | real _ hlength _ _ => exact hlength
  | realFin _ hlength _ _ _ => exact hlength
  | unsent _ _ _ hlast =>
    have := hlast final rfl
    omega
  | sending _ _ hlast =>
    have := hlast final rfl
    omega
  | sentFin _ hlength _ _ => exact hlength

theorem allBytesTillFinAcked_eq (s : SendStream) :
    Ends AnyFault s.allBytesTillFinAcked (fun done =>
      done = true → s.hasSentFIN = true ∧ s.writeBuffer.empty = true) := by
  unfold allBytesTillFinAcked
  refine Ends.ite (fun hall => ?_) fun _ => .ok fun h => by cases h
  simp only [Bool.and_eq_true] at hall
  refine Ends.bind (P := fun _ => True) (.of_forall (fun _ => trivial) fun _ => trivial) fun _ _ => ?_
  exact .ok fun _ => ⟨hall.1.1.1, hall.2⟩

/-- The states of the send half that are not left again. -/
def Settled (s t : SendStream) : Prop :=
  s.sendState = .closed ∨ s.sendState = .invalid → t.sendState = s.sendState

theorem Tracked.sendAckSMHandler (h : s.Tracked sent) (frame : WriteStreamFrame) :
    Ends AnyFault (s.sendAckSMHandler frame) (fun t =>
      t.Tracked sent ∧ Unmoved s t ∧ Settled s t) := by
  unfold SendStream.sendAckSMHandler
  split
  · rename_i hopen
    have hunsettled : ∀ t, Settled s t := by
      rintro t (hstate | hstate)
      · rw [hopen] at hstate
        cases hstate
      · rw [hopen] at hstate
        cases hstate
    refine Ends.bind (h.removeAcked frame) ?_
    rintro u ⟨hu, hsame, hstate⟩
    have herror := hu.isOpen (hstate.trans hopen)
    refine Ends.bind (allBytesTillFinAcked_eq u) fun done hdone => ?_
    cases done with
    | false => exact .ok ⟨hu, hsame, hunsettled u⟩
    | true =>
      obtain ⟨hfin, hempty⟩ := hdone rfl
      refine .ok ⟨?_, ⟨hsame.1, hsame.2, hsame.3, hsame.4, hsame.5, hsame.6, hsame.7⟩, hunsettled _⟩
      exact { hu with
        isOpen := fun hclosed => by cases hclosed
        dropped := fun _ => hu.drained herror hfin hempty }
  · exact .ok ⟨h, .refl s, fun _ => rfl⟩
  · exact .ok ⟨h, .refl s, fun _ => rfl⟩
  · exact .error trivial

theorem Tracked.sendRstAckSMHandler (h : s.Tracked sent) :
    Ends AnyFault s.sendRstAckSMHandler (fun t => t.Tracked sent ∧ Unmoved s t ∧ Settled s t) := by
  unfold SendStream.sendRstAckSMHandler
  split
  · rename_i hreset
    refine .ok ⟨?_, ⟨rfl, rfl, rfl, rfl, rfl, rfl, rfl⟩, ?_⟩
    · exact { h with
        isOpen := fun hclosed => by cases hclosed
        dropped := fun _ => h.dropped (by rw [hreset]; exact fun hopen => by cases hopen) }
    · rintro (hstate | hstate)
      · rw [hreset] at hstate
        cases hstate
      · rw [hreset] at hstate
        cases hstate
  · exact .ok ⟨h, .refl s, fun _ => rfl⟩
  · exact .error trivial
  · exact .error trivial

/-! ### Calls -/

theorem Tracked.setDSRSender (h : s.Tracked sent) (sender : Bool) :
    Ends AnyFault (s.setDSRPacketizationRequestSender sender) (fun t =>
      t.Tracked sent ∧ Unmoved s t ∧ t.sendState = s.sendState) := by
  unfold setDSRPacketizationRequestSender
  split_ifs
  · exact .ok ⟨h, .refl s, rfl⟩
  · exact .error trivial
  · exact .ok ⟨{ h with }, ⟨rfl, rfl, rfl, rfl, rfl, rfl, rfl⟩, rfl⟩
  · exact .ok ⟨h, .refl s, rfl⟩
  · exact .ok ⟨{ h with }, ⟨rfl, rfl, rfl, rfl, rfl, rfl, rfl⟩, rfl⟩

theorem Tracked.handleStreamWindowUpdate (h : s.Tracked sent) (maximumData : Fin (2 ^ 62)) :
    Ends AnyFault (s.handleStreamWindowUpdate maximumData) (fun t =>
      t.Tracked sent ∧ t.dataInBuffer = s.dataInBuffer ∧ t.sendState = s.sendState ∧
        t.id = s.id) := by
  unfold SendStream.handleStreamWindowUpdate
  refine Ends.ite (fun hle => ?_) fun _ => .ok ⟨h, rfl, rfl, rfl⟩
  refine (updateWritableStreams_eq _).imp fun t ht => ?_
  subst ht
  refine ⟨?_, rfl, rfl, rfl⟩
  exact { h with varint := maximumData.isLt, limit := h.limit.trans hle }

/-- No FIN has been sent before it has been written. -/
theorem Tracked.current_le_of_writable (h : s.Tracked sent) (hwritable : s.writable = true) :
    s.currentWriteOffset ≤ sent := by
  rcases h.current with hle | ⟨-, hfinal, -⟩
  · exact hle
  · rw [WrittenStream.final_eq_none_of_writable hwritable] at hfinal
    cases hfinal

theorem Tracked.writeDataToQuicStream (h : s.Tracked sent) (hwritable : s.writable = true)
    (data : Buf) (eof : Bool) :
    Ends AnyFault (s.writeDataToQuicStream data eof) (fun t =>
      t.Tracked sent ∧ t.dataInBuffer = s.dataInBuffer + data.bytes.length ∧
        t.sendState = s.sendState ∧ t.id = s.id) := by
  have hfinal := WrittenStream.final_eq_none_of_writable hwritable
  have hopen := open_of_writable hwritable
  have hle := h.current_le_of_writable hwritable
  unfold SendStream.writeDataToQuicStream
  refine Ends.ite (fun _ => .error trivial) fun hmeta => ?_
  refine Ends.ite (fun _ => .error trivial) fun _ => ?_
  have hmeta : s.writeBufMeta.offset = 0 := not_not.mp hmeta
  have hstage : ∀ (eof : Bool), Stage s.currentWriteOffset (s.writeBuffer.append data).chainLength
      s.writeBufMeta.offset s.writeBufMeta.length sent
      (if eof then some (s.currentWriteOffset + (s.writeBuffer.append data).chainLength)
        else none) := by
    intro eof
    have hstage := h.stage (h.isOpen hopen)
    rw [Sent, hfinal, hmeta] at hstage
    rw [hmeta]
    exact hstage.write _ eof
  have hdata : (s.writeBuffer.append data).chainLength + s.writeBufMeta.length =
      s.dataInBuffer + data.bytes.length := by
    rw [BufQueue.chainLength_append, dataInBuffer]
    omega
  refine (updateWritableStreams_eq _).imp fun t ht => ?_
  subst ht
  cases eof with
  | false =>
    refine ⟨{ h with stage := fun _ => ?_, dropped := fun hclosed => absurd hopen hclosed }, hdata, rfl,
      rfl⟩
    have := hstage false
    rw [Sent]
    simpa [hfinal] using this
  | true =>
    refine ⟨{ h with
      stage := fun _ => hstage true
      current := .inl hle
      dropped := fun hclosed => absurd hopen hclosed }, hdata, rfl, rfl⟩

theorem Tracked.writeBufMetaToQuicStream (h : s.Tracked sent) (hwritable : s.writable = true)
    (length : Nat) (eof : Bool) :
    Ends AnyFault (s.writeBufMetaToQuicStream length eof) (fun t =>
      t.Tracked sent ∧ t.dataInBuffer = s.dataInBuffer + length ∧ t.sendState = s.sendState ∧
        t.id = s.id) := by
  have hfinal := WrittenStream.final_eq_none_of_writable hwritable
  have hopen := open_of_writable hwritable
  have hle := h.current_le_of_writable hwritable
  have hstage := h.stage (h.isOpen hopen)
  rw [Sent, hfinal] at hstage
  unfold SendStream.writeBufMetaToQuicStream
  dsimp only
  refine Ends.ite (fun _ => .error trivial) fun hreal => ?_
  refine Ends.ite (fun _ => .error trivial) fun _ => ?_
  -- Without BufMeta there are no entries of it.
  have hmetas : ∀ m : WriteBufferMeta, m.Within s.writeBufMeta.offset sent →
      m.Within (if s.writeBufMeta.offset = 0 then s.currentWriteOffset + s.writeBuffer.chainLength
        else s.writeBufMeta.offset) sent := by
    rintro m ⟨hlt, hstop, hsent⟩
    rw [if_neg (by omega)]
    exact ⟨hlt, hstop, hsent⟩
  refine (updateWritableStreams_eq _).imp fun t ht => ?_
  subst ht
  refine ⟨{ h with
    stage := fun _ => ?_
    current := .inl hle
    dropped := fun hclosed => absurd hopen hclosed
    sentMetas := fun m hm => hmetas m (h.sentMetas m hm)
    lostMetas := fun m hm => hmetas m (h.lostMetas m hm) }, ?_, rfl, rfl⟩
  · rw [Sent, hfinal]
    exact hstage.writeBufMeta hreal length eof
  · exact (Nat.add_assoc _ _ _).symm

/-- A reset leaves nothing to send. -/
theorem Tracked.sendRstSMHandler (h : s.Tracked sent) (errorCode : Nat) :
    Ends AnyFault (s.sendRstSMHandler errorCode) (fun r =>
      r.1.Tracked sent ∧ Settled s r.1 ∧
        r.1.dataInBuffer = (if s.sendState = .open then 0 else s.dataInBuffer) ∧
        r.1.sendState = (if s.sendState = .open then .resetSent else s.sendState) ∧
        r.1.id = s.id) := by
  unfold SendStream.sendRstSMHandler
  split
  · rename_i hopen
    refine .ok ⟨?_, ?_, ?_, ?_, rfl⟩
    · refine ⟨h.varint, h.limit, ?_, h.current, ?_, fun _ => rfl, ?_, ?_, ?_, ?_⟩
      · intro herror
        cases herror
      · intro hopen
        cases hopen
      all_goals
        intro entry hentry
        cases hentry
    · rintro (hstate | hstate)
      · rw [hopen] at hstate
        cases hstate
      · rw [hopen] at hstate
        cases hstate
    · rw [if_pos hopen]
      rfl
    · rw [if_pos hopen]
  · rename_i hclosed
    refine .ok ⟨h, fun _ => rfl, ?_, ?_, rfl⟩
    · rw [if_neg (by rw [hclosed]; exact fun hopen => by cases hopen)]
    · rw [if_neg (by rw [hclosed]; exact fun hopen => by cases hopen)]
  · rename_i hreset
    refine .ok ⟨h, fun _ => rfl, ?_, ?_, rfl⟩
    · rw [if_neg (by rw [hreset]; exact fun hopen => by cases hopen)]
    · rw [if_neg (by rw [hreset]; exact fun hopen => by cases hopen)]
  · exact .error trivial

/-! ### Frames -/

theorem handleNewStreamDataWritten_eq (like : SendLike) (frameLen : Nat) (frameFin : Bool) :
    Ends AnyFault (like.handleNewStreamDataWritten frameLen frameFin) (· = { like with
      writeBuffer := (like.writeBuffer.splitAtMost frameLen).2
      currentWriteOffset := like.currentWriteOffset + frameLen + (if frameFin then 1 else 0)
      retransmissionBuffer := like.retransmissionBuffer ++
        [.new (like.writeBuffer.splitAtMost frameLen).1 like.currentWriteOffset frameFin] }) := by
  unfold SendLike.handleNewStreamDataWritten SendLike.emplace
  dsimp only
  exact Ends.ite (fun _ => .error trivial) fun _ => .ok rfl

/-- New real data goes out. -/
theorem Tracked.frameWritten_new (h : s.Tracked sent) (herror : s.streamWriteError = none)
    {len : Nat} {frame : WriteStreamFrame} (hframe : s.newFrame len = some frame) :
    Ends AnyFault (s.frameWritten frame) (fun r =>
      r.2 = true ∧ r.1.Tracked (max sent (frame.offset + frame.len)) ∧
      r.1.dataInBuffer + frame.len = s.dataInBuffer ∧ r.1.sendState = s.sendState ∧
      r.1.streamWriteError = s.streamWriteError ∧ r.1.id = s.id) := by
  obtain ⟨hlen, hlimit, hoffer, hfin, heq⟩ := newFrame_eq_some hframe
  have hstage := h.stage herror
  have hle : s.currentWriteOffset ≤ sent := hstage.current_le hoffer
  have hsend := hstage.send hlen hoffer hfin
  clear hoffer
  have hwithin : s.currentWriteOffset + len ≤ s.peerAdvertisedMaxOffset := by
    by_cases hzero : len = 0
    · have := h.limit
      omega
    · have hbuffer : s.writeBuffer.empty = false := by
        rw [← Bool.not_eq_true, BufQueue.empty_iff_chainLength]
        omega
      have hnext : s.nextOffsetToWrite = s.currentWriteOffset := by
        rw [nextOffsetToWrite, hbuffer]
        simp
      omega
  have hlast : frame.fin = true → sent = s.currentWriteOffset := by
    intro hend
    rw [Sent, (hfin.mp hend).2.1] at hstage
    exact hstage.sent_eq hle
  generalize hf : frame.fin = fin at *
  subst heq
  unfold frameWritten SendLike.handleStreamWritten
  simp only [Bool.false_eq_true, if_false, if_true]
  refine Ends.bind (P := fun r => r = (_, true)) (Ends.bind (handleNewStreamDataWritten_eq _ _ _)
    fun like hlike => .ok (congrArg (·, true) hlike)) ?_
  rintro _ rfl
  have hnew := s.writeBuffer.chainLength_splitAtMost_snd len
  refine .ok ⟨rfl, ?_, ?_, rfl, rfl, rfl⟩
  · exact {
      varint := h.varint
      limit := Nat.max_le.mpr ⟨h.limit, hwithin⟩
      stage := fun _ => by
        rw [Sent, hnew]
        exact hsend
      current := hsend.current_cases
      isOpen := h.isOpen
      dropped := fun hclosed => by
        have hdropped := h.dropped hclosed
        rw [dataInBuffer] at hdropped
        change (s.writeBuffer.splitAtMost len).2.chainLength + s.writeBufMeta.length = 0
        omega
      sentEntries := by
        refine List.forall_mem_append.mpr ⟨fun b hb => ?_, List.forall_mem_singleton.mpr ?_⟩
        · exact (h.sentEntries b hb).mono hle (by dsimp only; omega) (Nat.le_max_left _ _)
        · have hend : (StreamBuffer.new (s.writeBuffer.splitAtMost len).1 s.currentWriteOffset
              fin).endOffset = s.currentWriteOffset + len := by
            change s.currentWriteOffset + (s.writeBuffer.splitAtMost len).1.bytes.length = _
            rw [BufQueue.length_splitAtMost_fst, Nat.min_eq_left hlen]
          rw [hend]
          refine ⟨Nat.le_max_right _ _, by dsimp only; omega, fun hend => ?_⟩
          have := hlast hend
          change fin = true at hend
          dsimp only
          rw [hend, if_pos rfl]
          omega
      lostEntries := fun b hb =>
        (h.lostEntries b hb).mono hle (by dsimp only; omega) (Nat.le_max_left _ _)
      sentMetas := fun m hm =>
        have hm := h.sentMetas m hm
        ⟨hm.1, hm.2.1, hm.2.2.trans (Nat.le_max_left _ _)⟩
      lostMetas := fun m hm =>
        have hm := h.lostMetas m hm
        ⟨hm.1, hm.2.1, hm.2.2.trans (Nat.le_max_left _ _)⟩ }
  · unfold dataInBuffer
    dsimp only
    omega

/-- A frame that repeats real data. -/
def Repeats (s : SendStream) (sent : Nat) (frame : WriteStreamFrame) : Prop :=
  frame.fromBufMeta = false ∧ (0 < frame.len ∨ frame.fin = true) ∧
    Within s.currentWriteOffset sent (frame.offset + frame.len) frame.fin

theorem Repeats.offset_lt {frame : WriteStreamFrame} (h : s.Repeats sent frame) :
    frame.offset < s.currentWriteOffset := by
  obtain ⟨-, hsome, hsent, hcurrent, hfin⟩ := h
  rcases hsome with hpos | hend
  · omega
  · have := hfin hend
    omega

theorem emplace_cases (like : SendLike) (buf : StreamBuffer) :
    Ends AnyFault (like.emplace buf) (· = { like with
      retransmissionBuffer := like.retransmissionBuffer ++ [buf] }) := by
  unfold SendLike.emplace
  exact Ends.ite (fun _ => .error trivial) fun _ => .ok rfl

/-- The entry that a repeated frame is taken from is moved, or cut in two. -/
theorem handleRetransmissionWritten_entries {like : SendLike} {frame : WriteStreamFrame}
    {before after : List StreamBuffer} {b : StreamBuffer} {current : Nat}
    (hframe : Within current sent (frame.offset + frame.len) frame.fin)
    (hoffset : b.offset = frame.offset) (hb : Within current sent b.endOffset b.eof) :
    Ends AnyFault (like.handleRetransmissionWritten frame.offset frame.len frame.fin before b after)
      (fun t => ∃ buf rest, t = { like with
          retransmissionBuffer := like.retransmissionBuffer ++ [buf]
          lossBuffer := before ++ (rest ++ after) } ∧
        Within current sent buf.endOffset buf.eof ∧
        ∀ a ∈ rest, Within current sent a.endOffset a.eof) := by
  unfold SendLike.handleRetransmissionWritten
  refine Ends.ite (fun hwhole => ?_) fun _ => ?_
  · refine (emplace_cases _ _).imp fun t ht => ⟨_, [], ht, ?_, by simp⟩
    have hend : (StreamBuffer.new b.data.move.1 frame.offset frame.fin).endOffset =
        frame.offset + frame.len := by
      rw [hwhole.1, ← BufQueue.length_bytes]
      rfl
    rw [hend]
    exact hframe
  · refine (emplace_cases _ _).imp fun t ht => ⟨_, [_], ht, ?_, List.forall_mem_singleton.mpr ?_⟩
    · have hend : (StreamBuffer.new (b.data.splitAtMost frame.len).1 frame.offset frame.fin).endOffset ≤
          frame.offset + frame.len := by
        change frame.offset + (b.data.splitAtMost frame.len).1.bytes.length ≤ _
        rw [BufQueue.length_splitAtMost_fst]
        omega
      exact ⟨hend.trans hframe.1, hend.trans hframe.2.1, hframe.2.2⟩
    · have hend : b.offset + frame.len + (b.data.splitAtMost frame.len).2.chainLength ≤
          max b.endOffset (frame.offset + frame.len) := by
        rw [BufQueue.chainLength_splitAtMost_snd, StreamBuffer.endOffset]
        omega
      exact ⟨hend.trans (Nat.max_le.mpr ⟨hb.1, hframe.1⟩),
        hend.trans (Nat.max_le.mpr ⟨hb.2.1, hframe.2.1⟩), hb.2.2⟩

theorem Tracked.frameWritten_repeated (h : s.Tracked sent) {frame : WriteStreamFrame}
    (hframe : s.Repeats sent frame) :
    Ends AnyFault (s.frameWritten frame) (fun r =>
      r.2 = false ∧ r.1.Tracked sent ∧ Unmoved s r.1 ∧ r.1.sendState = s.sendState) := by
  have hlt := hframe.offset_lt
  unfold frameWritten
  rw [hframe.1, if_neg Bool.false_ne_true]
  refine Ends.bind (P := fun r => r.2 = false ∧
    ({ s with toSendLike := r.1 } : SendStream).Tracked sent ∧
    Unmoved s { s with toSendLike := r.1 }) ?_ ?_
  · unfold SendLike.handleStreamWritten
    refine Ends.ite (fun heq => by omega) fun _ => ?_
    refine Ends.ite (fun hgt => by omega) fun _ => ?_
    have hclone : Ends AnyFault (.ok (s.toSendLike, false)) (fun r : SendLike × Bool =>
        r.2 = false ∧ ({ s with toSendLike := r.1 } : SendStream).Tracked sent ∧
          Unmoved s { s with toSendLike := r.1 }) := .ok ⟨rfl, h, .refl s⟩
    split
    · rename_i before b after hspan
      refine Ends.ite (fun hoffset => ?_) fun _ => hclone
      have hlost := h.lostEntries
      rw [append_of_span hspan] at hlost
      obtain ⟨hbefore, hrest⟩ := List.forall_mem_append.mp hlost
      obtain ⟨hb, hafter⟩ := List.forall_mem_cons.mp hrest
      refine Ends.bind (handleRetransmissionWritten_entries hframe.2.2 hoffset hb) ?_
      rintro like ⟨buf, rest, rfl, hbuf, hrest⟩
      refine .ok ⟨rfl, h.moved ⟨rfl, rfl, rfl, rfl, rfl, rfl, rfl⟩ rfl ?_ ?_ h.sentMetas h.lostMetas,
        ⟨rfl, rfl, rfl, rfl, rfl, rfl, rfl⟩⟩
      · exact List.forall_mem_append.mpr ⟨h.sentEntries, List.forall_mem_singleton.mpr hbuf⟩
      · exact List.forall_mem_append.mpr ⟨hbefore, List.forall_mem_append.mpr ⟨hrest, hafter⟩⟩
    · exact hclone
  · rintro ⟨like, new⟩ ⟨hnew, htracked, hsame⟩
    exact .ok ⟨hnew, htracked, hsame, rfl⟩

/-- New BufMeta goes out. -/
theorem Tracked.frameWritten_newBufMeta (h : s.Tracked sent) (herror : s.streamWriteError = none)
    {len : Nat} {frame : WriteStreamFrame} (hframe : s.newBufMetaFrame len = some frame) :
    Ends AnyFault (s.frameWritten frame) (fun r =>
      r.2 = true ∧ r.1.Tracked (max sent (frame.offset + frame.len)) ∧
      r.1.dataInBuffer + frame.len = s.dataInBuffer ∧ r.1.sendState = s.sendState ∧
      r.1.streamWriteError = s.streamWriteError ∧ r.1.id = s.id) := by
  obtain ⟨hoffset, hzero, hlen, hlimit, hfin, heq⟩ := newBufMetaFrame_eq_some hframe
  have hsend := (h.stage herror).sendBufMeta hoffset hzero hlen hfin
  have hle : s.currentWriteOffset ≤ sent := by
    rcases h.current with hle | ⟨-, -, hnone⟩
    · exact hle
    · exact absurd hnone hoffset
  have hmetas : ∀ m : WriteBufferMeta, m.Within s.writeBufMeta.offset sent →
      m.Within (s.writeBufMeta.offset + len + (if frame.fin then 1 else 0))
        (max sent (s.writeBufMeta.offset + len)) :=
    fun m hm => ⟨by have := hm.1; omega, by have := hm.2.1; omega,
      hm.2.2.trans (Nat.le_max_left _ _)⟩
  generalize hf : frame.fin = fin at *
  subst heq
  unfold frameWritten handleStreamBufMetaWritten
  rw [if_pos rfl, if_pos ⟨Nat.pos_of_ne_zero hoffset, rfl⟩]
  refine Ends.bind (P := fun t => t = { s with
    writeBufMeta := ⟨s.writeBufMeta.length - len,
      s.writeBufMeta.offset + len + (if fin then 1 else 0), s.writeBufMeta.eof⟩
    retransmissionBufMetas := s.retransmissionBufMetas ++
      [⟨len, s.writeBufMeta.offset, len == s.writeBufMeta.length && s.writeBufMeta.eof⟩] }) ?_ ?_
  · unfold handleNewStreamBufMetaWritten emplaceBufMeta
    dsimp only
    refine Ends.ite (fun _ => .error trivial) fun _ => ?_
    exact Ends.ite (fun _ => .error trivial) fun _ => .ok rfl
  · rintro _ rfl
    refine .ok ⟨rfl, ?_, ?_, rfl, rfl, rfl⟩
    · exact {
        varint := h.varint
        limit := Nat.max_le.mpr ⟨h.limit, hlimit⟩
        stage := fun _ => hsend
        current := hsend.current_cases
        isOpen := h.isOpen
        dropped := fun hclosed => by
          have hdropped := h.dropped hclosed
          rw [dataInBuffer] at hdropped
          change s.writeBuffer.chainLength + (s.writeBufMeta.length - len) = 0
          omega
        sentEntries := fun b hb => (h.sentEntries b hb).mono hle le_rfl (Nat.le_max_left _ _)
        lostEntries := fun b hb => (h.lostEntries b hb).mono hle le_rfl (Nat.le_max_left _ _)
        sentMetas := by
          refine List.forall_mem_append.mpr ⟨fun m hm => hmetas m (h.sentMetas m hm), ?_⟩
          refine List.forall_mem_singleton.mpr ⟨?_, Nat.le_add_right _ _, Nat.le_max_right _ _⟩
          change s.writeBufMeta.offset < s.writeBufMeta.offset + len + (if fin then 1 else 0)
          omega
        lostMetas := fun m hm => hmetas m (h.lostMetas m hm) }
    · change s.writeBuffer.chainLength + (s.writeBufMeta.length - len) + len = _
      rw [dataInBuffer]
      omega

theorem emplaceBufMeta_cases (s : SendStream) (m : WriteBufferMeta) :
    Ends AnyFault (s.emplaceBufMeta m) (· = { s with
      retransmissionBufMetas := s.retransmissionBufMetas ++ [m] }) := by
  unfold emplaceBufMeta
  exact Ends.ite (fun _ => .error trivial) fun _ => .ok rfl

/-- A frame that repeats BufMeta. -/
theorem Tracked.frameWritten_lossBufMeta (h : s.Tracked sent) {len : Nat} {frame : WriteStreamFrame}
    (hframe : s.lossBufMetaFrame len = some frame) :
    Ends AnyFault (s.frameWritten frame) (fun r =>
      r.2 = false ∧ r.1.Tracked sent ∧ Unmoved s r.1 ∧ r.1.sendState = s.sendState) ∧
    frame.offset + frame.len ≤ sent := by
  unfold lossBufMetaFrame at hframe
  split at hframe
  · cases hframe
  · rename_i first others hloss
    split at hframe
    · cases hframe
    · rename_i hoffer
      push Not at hoffer
      cases hframe
      have hfirst := h.lostMetas first (by rw [hloss]; exact List.mem_cons_self)
      refine ⟨?_, by have := hfirst.2.2; dsimp only; omega⟩
      unfold frameWritten handleStreamBufMetaWritten
      rw [if_pos rfl]
      refine Ends.ite (fun hnew => absurd hnew.2 (Nat.ne_of_lt hfirst.1)) fun _ => ?_
      split
      · rename_i before m after hspan
        refine Ends.ite (fun hoffset => ?_) fun _ => .error trivial
        have hlost := h.lostMetas
        rw [append_of_span hspan] at hlost
        obtain ⟨hbefore, hrest⟩ := List.forall_mem_append.mp hlost
        obtain ⟨hm, hafter⟩ := List.forall_mem_cons.mp hrest
        refine Ends.bind (P := fun t => t.Tracked sent ∧ Unmoved s t ∧ t.sendState = s.sendState) ?_
          fun t ht => .ok ⟨rfl, ht⟩
        unfold handleRetransmissionBufMetaWritten
        refine Ends.ite (fun hwhole => ?_) fun _ => Ends.ite (fun _ => .error trivial) fun hpart => ?_
        · refine (emplaceBufMeta_cases _ _).imp ?_
          rintro _ rfl
          refine ⟨h.moved ⟨rfl, rfl, rfl, rfl, rfl, rfl, rfl⟩ rfl h.sentEntries h.lostEntries ?_ ?_,
            ⟨rfl, rfl, rfl, rfl, rfl, rfl, rfl⟩, rfl⟩
          · refine List.forall_mem_append.mpr ⟨h.sentMetas, List.forall_mem_singleton.mpr ?_⟩
            rw [← hoffset, hwhole.1]
            exact hm
          · exact List.forall_mem_append.mpr ⟨hbefore, hafter⟩
        · refine (emplaceBufMeta_cases _ _).imp ?_
          rintro _ rfl
          obtain ⟨hlt, hstop, hsent⟩ := hm
          have hpart : len < m.length := Nat.lt_of_not_le hpart
          refine ⟨h.moved ⟨rfl, rfl, rfl, rfl, rfl, rfl, rfl⟩ rfl h.sentEntries h.lostEntries ?_ ?_,
            ⟨rfl, rfl, rfl, rfl, rfl, rfl, rfl⟩, rfl⟩
          · refine List.forall_mem_append.mpr ⟨h.sentMetas, List.forall_mem_singleton.mpr ?_⟩
            rw [← hoffset]
            refine ⟨hlt, ?_, ?_⟩
            · change m.offset + len ≤ _
              omega
            · change m.offset + len ≤ _
              omega
          · refine List.forall_mem_append.mpr ⟨hbefore, List.forall_mem_cons.mpr ⟨?_, hafter⟩⟩
            refine ⟨?_, ?_, ?_⟩
            · change m.offset + len < _
              omega
            · change m.offset + len + (m.length - len) ≤ _
              omega
            · change m.offset + len + (m.length - len) ≤ _
              omega
      · exact .error trivial

end SendStream

end MasqueQuic
