/-
Streams that have nothing left to send.

`sendAckSMHandler` looks after every acknowledged frame whether everything up to the FIN has been
acknowledged, and closes the send half then. An ACK frame does more than that: data of packets
that had been declared lost leaves the loss buffer when they are acknowledged late, and data of
packets that are declared lost now is dropped where the stream's group is not retransmitted. In
neither place does anything look whether this was all that was left.
-/

import MasqueQuic.Quic.LossBuffer
import MasqueQuic.Quic.SendAccounting

namespace MasqueQuic

/-! ### The send half -/

section LossBuffer

variable {loss before after : List StreamBuffer} {b buf : StreamBuffer} {offset len : Nat}
  {eof : Bool}

/-- What is lost stays lost until it is sent again. -/
theorem insertIntoLossBuffer_ne_nil : insertIntoLossBuffer loss buf ≠ [] := by
  unfold insertIntoLossBuffer
  dsimp only
  split
  · simp
  · split <;> simp

/-- Nothing is left of a buffer that the acked range covers, with its FIN. -/
theorem leftOf_eq_nil_iff :
    leftOf before after b eof = [] ↔
      before = [] ∧ after = [] ∧ b.data.empty = true ∧ b.eof = eof := by
  unfold leftOf
  split
  · rename_i hdropped
    simp [hdropped]
  · rename_i hkept
    simp
    tauto

/-- Nothing is left of an entry when the range begins where it does, or before, and contains it. -/
theorem cutFrom_eq_nil_iff (hhit : b.Hit offset len) :
    cutFrom before after b offset len eof = [] ↔
      before = [] ∧ after = [] ∧ offset ≤ b.offset ∧ b.endOffset ≤ offset + len ∧ b.eof = eof := by
  unfold cutFrom StreamBuffer.Hit StreamBuffer.endOffset at *
  by_cases hcut : offset - b.offset > 0
  · have hfront : (cutOut b offset len).2 ≠ none := by
      unfold cutOut
      simp [hcut]
    obtain ⟨front, hfront⟩ := Option.ne_none_iff_exists'.mp hfront
    rw [hfront, Option.elim_some]
    constructor
    · intro hnil
      exact absurd hnil insertIntoLossBuffer_ne_nil
    · rintro ⟨-, -, hle, -⟩
      omega
  · have hfront : (cutOut b offset len).2 = none := by
      unfold cutOut
      simp [hcut]
    have hback : (cutOut b offset len).1.data.chainLength = b.data.chainLength - len := by
      unfold cutOut
      simp only [if_neg hcut]
      exact BufQueue.chainLength_splitAtMost_snd _ _
    have heof : (cutOut b offset len).1.eof = b.eof := rfl
    rw [hfront, Option.elim_none, leftOf_eq_nil_iff, BufQueue.empty_iff_chainLength, hback, heof]
    constructor
    · rintro ⟨hbefore, hafter, hempty, hfin⟩
      exact ⟨hbefore, hafter, by omega, by omega, hfin⟩
    · rintro ⟨hbefore, hafter, hle, hend, hfin⟩
      exact ⟨hbefore, hafter, by omega, hfin⟩

theorem removeLoop_eq_nil_iff : removeLoop offset len eof before loss = [] ↔
    before = [] ∧ (loss = [] ∨ ∃ b, loss = [b] ∧ offset ≤ b.offset ∧ b.endOffset ≤ offset + len ∧
      b.eof = eof) := by
  induction loss generalizing before with
  | nil => simp [removeLoop]
  | cons b rest ih =>
    rw [removeLoop]
    by_cases hbehind : b.offset > offset + len
    · have hend : ¬ b.endOffset ≤ offset + len := by
        unfold StreamBuffer.endOffset
        omega
      simp [hbehind, hend]
    · rw [if_neg hbehind]
      by_cases hhit : b.Hit offset len
      · refine Iff.trans (Eq.congr_left (if_pos hhit)) ((cutFrom_eq_nil_iff hhit).trans ?_)
        simp only [List.cons_ne_nil, List.cons.injEq, false_or]
        constructor
        · rintro ⟨hbefore, rfl, hrest⟩
          exact ⟨hbefore, b, ⟨rfl, rfl⟩, hrest⟩
        · rintro ⟨hbefore, b, ⟨rfl, rfl⟩, hrest⟩
          exact ⟨hbefore, rfl, hrest⟩
      · refine Iff.trans (Eq.congr_left (if_neg hhit)) (ih.trans ?_)
        simp only [List.append_eq_nil_iff, List.cons_ne_nil, and_false, false_and,
          List.cons.injEq, false_or, false_iff, not_and, not_exists]
        rintro - b' ⟨rfl, rfl⟩ hle hend -
        exact hhit (.inr ⟨hle, hend⟩)

theorem removeFromLossBuffer_eq_nil_iff : removeFromLossBuffer loss offset len eof = [] ↔
    loss = [] ∨ ∃ b, loss = [b] ∧ 0 < len ∧ offset ≤ b.offset ∧ b.endOffset ≤ offset + len ∧
      b.eof = eof := by
  unfold removeFromLossBuffer
  by_cases hzero : len = 0
  · simp [hzero]
  · rw [if_neg hzero, removeLoop_eq_nil_iff]
    have hpos := Nat.pos_of_ne_zero hzero
    simp [hpos]

end LossBuffer

namespace SendStream

variable {s t : SendStream} {sent : Nat}

/-- The send half is open although everything up to the FIN is acknowledged. -/
def Finished (s : SendStream) : Prop :=
  s.sendState = .open ∧ s.allBytesTillFinAcked = .ok true

/-- Everything up to the FIN was sent at least once. -/
structure AllSent (s : SendStream) : Prop where
  state : s.sendState = .open
  fin : s.hasSentFIN = true
  buffer : s.writeBuffer.empty = true
  bufMeta : s.hasWritableBufMeta = .ok false

/-- Only lost data is left, and a late acknowledgement of the frame takes all of it out. -/
def LastLost (s : SendStream) (frame : WriteStreamFrame) : Prop :=
  s.AllSent ∧ s.retransmissionBuffer = [] ∧ s.retransmissionBufMetas = [] ∧ s.lossBufMetas = [] ∧
    ∃ b, s.lossBuffer = [b] ∧ 0 < frame.len ∧ frame.offset ≤ b.offset ∧
      b.endOffset ≤ frame.offset + frame.len ∧ b.eof = frame.fin

/-- Only the data of the frame is left, which is on its way. -/
def LastSent (s : SendStream) (frame : WriteStreamFrame) : Prop :=
  s.AllSent ∧ s.lossBuffer = [] ∧ s.lossBufMetas = [] ∧
    if frame.fromBufMeta then
      s.retransmissionBuffer = [] ∧ s.retransmissionBufMetas ≠ [] ∧
        ∀ m ∈ s.retransmissionBufMetas, m.offset = frame.offset
    else
      s.retransmissionBufMetas = [] ∧ s.retransmissionBuffer ≠ [] ∧
        ∀ b ∈ s.retransmissionBuffer, b.offset = frame.offset

/-- A stream is finished when all is sent and nothing is outstanding or lost, real or not. -/
theorem finished_iff : s.Finished ↔ s.AllSent ∧ s.retransmissionBuffer = [] ∧
    s.retransmissionBufMetas = [] ∧ s.lossBuffer = [] ∧ s.lossBufMetas = [] := by
  unfold Finished allBytesTillFinAcked
  constructor
  · rintro ⟨hopen, hacked⟩
    split at hacked
    · rename_i hall
      simp only [Bool.and_eq_true, List.isEmpty_iff] at hall
      obtain ⟨writable, hwritable, hdone⟩ := except_bind_eq_ok.mp hacked
      have hdone : (!writable && s.lossBuffer.isEmpty && s.lossBufMetas.isEmpty) = true :=
        Except.ok.inj hdone
      simp only [Bool.and_eq_true, Bool.not_eq_true', List.isEmpty_iff] at hdone
      rw [hdone.1.1] at hwritable
      exact ⟨⟨hopen, hall.1.1.1, hall.2, hwritable⟩, hall.1.1.2, hall.1.2, hdone.1.2, hdone.2⟩
    · cases hacked
  · rintro ⟨h, hretransmission, hmetas, hloss, hlossMetas⟩
    refine ⟨h.state, ?_⟩
    simp only [h.fin, h.buffer, h.bufMeta, hretransmission, hmetas, hloss, hlossMetas,
      List.isEmpty_nil, Bool.and_true, if_true]
    rfl

theorem Unmoved.allSent_iff (h : Unmoved s t) (hstate : t.sendState = s.sendState) :
    t.AllSent ↔ s.AllSent := by
  have hfin : t.hasSentFIN = s.hasSentFIN := by
    unfold hasSentFIN
    rw [h.final, h.current, h.bufMeta]
  have hmeta : t.hasWritableBufMeta = s.hasWritableBufMeta := by
    unfold hasWritableBufMeta
    rw [h.final, h.limit, h.bufMeta]
  constructor
  · intro ht
    exact ⟨hstate ▸ ht.state, hfin ▸ ht.fin, h.buffer ▸ ht.buffer, hmeta ▸ ht.bufMeta⟩
  · intro hs
    exact ⟨hstate.trans hs.state, hfin.trans hs.fin, h.buffer.symm ▸ hs.buffer,
      hmeta.trans hs.bufMeta⟩

/-- A late ack finishes a stream only by taking the last of what is lost. -/
theorem frameAckedLate_finished (s : SendStream) (frame : WriteStreamFrame) :
    Ends AnyFault (s.frameAckedLate frame)
      (fun t => t.sendState = s.sendState ∧ (t.Finished ↔ s.Finished ∨ s.LastLost frame)) := by
  unfold SendStream.frameAckedLate
  refine Ends.bind (updateAckedIntervals_eq _ _ _ _) ?_
  rintro like ⟨acked, rfl⟩
  refine (updateWritableStreams_eq _).imp ?_
  rintro t rfl
  refine ⟨rfl, ?_⟩
  rw [finished_iff, finished_iff, LastLost]
  have hsent := Unmoved.allSent_iff (s := s) (t := { s with toSendLike := { s.toSendLike with
    lossBuffer := removeFromLossBuffer s.lossBuffer frame.offset frame.len frame.fin
    ackedIntervals := acked } }) ⟨rfl, rfl, rfl, rfl, rfl, rfl, rfl⟩ rfl
  rw [hsent]
  dsimp only
  rw [removeFromLossBuffer_eq_nil_iff]
  tauto

theorem not_finished_of_sent (h : s.retransmissionBuffer ≠ []) : ¬ s.Finished :=
  fun hs => h (finished_iff.mp hs).2.1

theorem not_finished_of_sentMeta (h : s.retransmissionBufMetas ≠ []) : ¬ s.Finished :=
  fun hs => h (finished_iff.mp hs).2.2.1

theorem not_finished_of_lost (h : s.lossBuffer ≠ []) : ¬ s.Finished :=
  fun hs => h (finished_iff.mp hs).2.2.2.1

theorem not_finished_of_lostMeta (h : s.lossBufMetas ≠ []) : ¬ s.Finished :=
  fun hs => h (finished_iff.mp hs).2.2.2.2

theorem not_finished_of_state (h : s.sendState ≠ .open) : ¬ s.Finished := fun hs => h hs.1

theorem not_finished_of_unsentFin (h : s.hasSentFIN = false) : ¬ s.Finished := by
  intro hs
  have hfin := (finished_iff.mp hs).1.fin
  rw [h] at hfin
  cases hfin

theorem sendState_insertIntoLossBufMeta (s : SendStream) (m : WriteBufferMeta) :
    (s.insertIntoLossBufMeta m).sendState = s.sendState := by
  unfold insertIntoLossBufMeta
  dsimp only
  split
  · rfl
  · split <;> rfl

theorem insertIntoLossBufMeta_ne_nil (m : WriteBufferMeta) :
    (s.insertIntoLossBufMeta m).lossBufMetas ≠ [] := by
  unfold insertIntoLossBufMeta
  dsimp only
  split
  · simp
  · split <;> simp

theorem frameLost_real_finished (s : SendStream) {frame : WriteStreamFrame}
    (hreal : frame.fromBufMeta = false) (disabled : Bool) :
    Ends AnyFault (s.frameLost frame disabled) (fun t => t.sendState = s.sendState ∧
      (t.Finished ↔ s.Finished ∨ (disabled = true ∧ s.LastSent frame))) := by
  unfold SendStream.frameLost
  rw [hreal, Bool.not_false, if_pos rfl]
  cases hfind : s.toSendLike.findSent frame.offset with
  | none =>
    have hlast : ¬ s.LastSent frame := by
      rintro ⟨-, -, -, hlast⟩
      rw [hreal, if_neg Bool.false_ne_true] at hlast
      obtain ⟨-, hne, hall⟩ := hlast
      obtain ⟨b, hb⟩ := List.exists_mem_of_ne_nil _ hne
      have hnone := List.find?_eq_none.mp hfind b hb
      simp [hall b hb] at hnone
    exact .ok ⟨rfl, by simp [hlast]⟩
  | some buf =>
    have hmem : buf ∈ s.retransmissionBuffer := List.mem_of_find?_eq_some hfind
    have hne : s.retransmissionBuffer ≠ [] := List.ne_nil_of_mem hmem
    refine (updateWritableStreams_eq _).imp ?_
    rintro t rfl
    refine ⟨rfl, ?_⟩
    cases disabled with
    | false =>
      have hlost := not_finished_of_lost (s := { s with
        toSendLike := { (s.toSendLike.eraseSent frame.offset) with
          lossBuffer := insertIntoLossBuffer s.lossBuffer buf } }) insertIntoLossBuffer_ne_nil
      simp only [Bool.false_eq_true, false_and, or_false]
      exact iff_of_false hlost (not_finished_of_sent hne)
    | true =>
      have hsent := Unmoved.allSent_iff (s := s)
        (t := { s with toSendLike := (s.toSendLike.eraseSent frame.offset) })
        ⟨rfl, rfl, rfl, rfl, rfl, rfl, rfl⟩ rfl
      have herased : (s.toSendLike.eraseSent frame.offset).retransmissionBuffer = [] ↔
          ∀ b ∈ s.retransmissionBuffer, b.offset = frame.offset := by
        simp [SendLike.eraseSent]
      have hunfinished := not_finished_of_sent hne
      rw [if_pos rfl, finished_iff, hsent, LastSent, hreal, if_neg Bool.false_ne_true]
      dsimp only
      rw [herased]
      have hloss : (s.toSendLike.eraseSent frame.offset).lossBuffer = s.lossBuffer := rfl
      rw [hloss]
      tauto

theorem frameLost_bufMeta_finished (s : SendStream) {frame : WriteStreamFrame}
    (hmeta : frame.fromBufMeta = true) (disabled : Bool) :
    Ends AnyFault (s.frameLost frame disabled) (fun t => t.sendState = s.sendState ∧
      (t.Finished ↔ s.Finished ∨ (disabled = true ∧ s.LastSent frame))) := by
  unfold SendStream.frameLost
  rw [hmeta, Bool.not_true, if_neg Bool.false_ne_true]
  cases hfind : s.retransmissionBufMetas.find? (·.offset == frame.offset) with
  | none =>
    have hlast : ¬ s.LastSent frame := by
      rintro ⟨-, -, -, hlast⟩
      rw [hmeta, if_pos rfl] at hlast
      obtain ⟨-, hne, hall⟩ := hlast
      obtain ⟨m, hm⟩ := List.exists_mem_of_ne_nil _ hne
      have hnone := List.find?_eq_none.mp hfind m hm
      simp [hall m hm] at hnone
    exact .ok ⟨rfl, by simp [hlast]⟩
  | some m =>
    have hmem : m ∈ s.retransmissionBufMetas := List.mem_of_find?_eq_some hfind
    have hne : s.retransmissionBufMetas ≠ [] := List.ne_nil_of_mem hmem
    refine Ends.ite (fun _ => .error trivial) fun _ => ?_
    refine (updateWritableStreams_eq _).imp ?_
    rintro t rfl
    cases disabled with
    | false =>
      refine ⟨sendState_insertIntoLossBufMeta _ _, ?_⟩
      have hlost := not_finished_of_lostMeta (insertIntoLossBufMeta_ne_nil (s := { s with
        retransmissionBufMetas :=
          s.retransmissionBufMetas.filter (·.offset != frame.offset) }) m)
      simp only [Bool.false_eq_true, false_and, or_false]
      exact iff_of_false hlost (not_finished_of_sentMeta hne)
    | true =>
      refine ⟨rfl, ?_⟩
      have hsent := Unmoved.allSent_iff (s := s) (t := { s with
        retransmissionBufMetas := s.retransmissionBufMetas.filter (·.offset != frame.offset) })
        ⟨rfl, rfl, rfl, rfl, rfl, rfl, rfl⟩ rfl
      have herased : s.retransmissionBufMetas.filter (·.offset != frame.offset) = [] ↔
          ∀ m ∈ s.retransmissionBufMetas, m.offset = frame.offset := by
        simp
      have hunfinished := not_finished_of_sentMeta hne
      rw [if_pos rfl, finished_iff, hsent, LastSent, hmeta, if_pos rfl]
      dsimp only
      rw [herased]
      tauto

/-- Where frames are not sent again, a loss may be the last thing that was outstanding. -/
theorem frameLost_finished (s : SendStream) (frame : WriteStreamFrame) (disabled : Bool) :
    Ends AnyFault (s.frameLost frame disabled) (fun t => t.sendState = s.sendState ∧
      (t.Finished ↔ s.Finished ∨ (disabled = true ∧ s.LastSent frame))) := by
  cases hmeta : frame.fromBufMeta with
  | false => exact s.frameLost_real_finished hmeta disabled
  | true => exact s.frameLost_bufMeta_finished hmeta disabled

/-- The handler looks itself. -/
theorem sendAckSMHandler_finished (s : SendStream) (frame : WriteStreamFrame) :
    Ends AnyFault (s.sendAckSMHandler frame) (fun t => ¬ t.Finished) := by
  unfold SendStream.sendAckSMHandler
  cases hstate : s.sendState with
  | «open» =>
    refine Ends.bind (P := fun _ => True) (.of_forall (fun _ => trivial) fun _ => trivial) ?_
    intro u _
    have hlook : Ends AnyFault u.allBytesTillFinAcked (fun _ => True) :=
      .of_forall (fun _ => trivial) fun _ => trivial
    refine Ends.bind hlook.with_eq ?_
    rintro done ⟨hdone, -⟩
    cases done with
    | false =>
      refine .ok ?_
      rintro ⟨-, hacked⟩
      rw [if_neg Bool.false_ne_true, hdone] at hacked
      cases hacked
    | true => exact .ok (not_finished_of_state (by simp))
  | closed => exact .ok (not_finished_of_state (by simp [hstate]))
  | resetSent => exact .ok (not_finished_of_state (by simp [hstate]))
  | invalid => exact .error trivial

theorem sendRstAckSMHandler_finished (s : SendStream) :
    Ends AnyFault s.sendRstAckSMHandler (fun t => ¬ s.Finished ∧ ¬ t.Finished) := by
  unfold SendStream.sendRstAckSMHandler
  cases hstate : s.sendState with
  | «open» => exact .error trivial
  | closed =>
    have hs : ¬ s.Finished := not_finished_of_state (by simp [hstate])
    exact .ok ⟨hs, hs⟩
  | resetSent =>
    exact .ok ⟨not_finished_of_state (by simp [hstate]), not_finished_of_state (by simp)⟩
  | invalid => exact .error trivial

/-! ### Calls and frames -/

/-- Nothing is finished by it. The state is left for that of a reset only. -/
structure Quiet (s t : SendStream) : Prop where
  state : t.sendState = s.sendState ∨ t.sendState = .resetSent
  finished : t.Finished → s.Finished

theorem Quiet.refl (s : SendStream) : Quiet s s := ⟨.inl rfl, fun h => h⟩

theorem Quiet.of_not_finished (hstate : t.sendState = s.sendState) (h : ¬ t.Finished) : Quiet s t :=
  ⟨.inl hstate, fun ht => absurd ht h⟩

theorem writeDataToQuicStream_quiet (hwritable : s.writable = true) (data : Buf) (eof : Bool) :
    Ends AnyFault (s.writeDataToQuicStream data eof) (Quiet s) := by
  have hfinal := WrittenStream.final_eq_none_of_writable hwritable
  unfold SendStream.writeDataToQuicStream
  refine Ends.ite (fun _ => .error trivial) fun hmeta => ?_
  refine Ends.ite (fun _ => .error trivial) fun _ => ?_
  have hmeta : s.writeBufMeta.offset = 0 := not_not.mp hmeta
  refine (updateWritableStreams_eq _).imp ?_
  rintro t rfl
  cases eof with
  | false => exact .of_not_finished rfl (not_finished_of_unsentFin (by simp [hasSentFIN, hfinal]))
  | true => exact .of_not_finished rfl (not_finished_of_unsentFin (by simp [hasSentFIN, hmeta]))


theorem Tracked.current_le_bufMeta (h : s.Tracked sent) (hwritable : s.writable = true)
    (hmeta : s.writeBufMeta.offset ≠ 0) : s.currentWriteOffset ≤ s.writeBufMeta.offset := by
  have hstage := h.stage (h.isOpen (open_of_writable hwritable))
  rw [Sent, WrittenStream.final_eq_none_of_writable hwritable] at hstage
  cases hstage with
  | real hzero _ _ _ => exact absurd hzero hmeta
  | realFin hzero _ _ _ _ => exact absurd hzero hmeta
  | unsent _ heq _ _ => omega
  | sending hlt _ _ => omega
  | sentFin hlt _ _ _ => omega

theorem Tracked.writeBufMetaToQuicStream_quiet (h : s.Tracked sent) (hwritable : s.writable = true)
    (length : Nat) (eof : Bool) :
    Ends AnyFault (s.writeBufMetaToQuicStream length eof) (Quiet s) := by
  have hfinal := WrittenStream.final_eq_none_of_writable hwritable
  unfold SendStream.writeBufMetaToQuicStream
  dsimp only
  refine Ends.ite (fun _ => .error trivial) fun _ => ?_
  refine Ends.ite (fun _ => .error trivial) fun _ => ?_
  refine (updateWritableStreams_eq _).imp ?_
  rintro t rfl
  refine Quiet.of_not_finished ?_ (not_finished_of_unsentFin ?_)
  · rfl
  · cases eof with
    | false => simp [hasSentFIN, hfinal]
    | true =>
      by_cases hmeta : s.writeBufMeta.offset = 0
      · simp [hasSentFIN, hmeta]
        omega
      · have hle := h.current_le_bufMeta hwritable hmeta
        simp [hasSentFIN, hmeta]
        omega

theorem setDSRSender_quiet (s : SendStream) (sender : Bool) :
    Ends AnyFault (s.setDSRPacketizationRequestSender sender) (Quiet s) := by
  unfold setDSRPacketizationRequestSender
  split_ifs
  · exact .ok (.refl s)
  · exact .error trivial
  · exact .ok ⟨.inl rfl, fun h => h⟩
  · exact .ok (.refl s)
  · exact .ok ⟨.inl rfl, fun h => h⟩

theorem sendRstSMHandler_quiet (s : SendStream) (errorCode : Nat) :
    Ends AnyFault (s.sendRstSMHandler errorCode) (fun r => Quiet s r.1) := by
  unfold SendStream.sendRstSMHandler
  cases s.sendState with
  | «open» => exact .ok ⟨.inr rfl, fun ht => absurd ht (not_finished_of_state (by simp))⟩
  | closed => exact .ok (.refl s)
  | resetSent => exact .ok (.refl s)
  | invalid => exact .error trivial

/-- Behind the FIN there is no BufMeta that waits for the peer's limit. -/
theorem Tracked.handleStreamWindowUpdate_quiet (h : s.Tracked sent) (maximumData : Nat) :
    Ends AnyFault (s.handleStreamWindowUpdate maximumData) (Quiet s) := by
  unfold SendStream.handleStreamWindowUpdate
  refine Ends.ite (fun _ => ?_) fun _ => .ok (.refl s)
  refine (updateWritableStreams_eq _).imp ?_
  rintro t rfl
  refine ⟨.inl rfl, fun ht => ?_⟩
  obtain ⟨hsent, hbuffers⟩ := finished_iff.mp ht
  have hdata := h.drained (h.isOpen hsent.state) hsent.fin hsent.buffer
  have hlength : s.writeBufMeta.length = 0 := by
    rw [dataInBuffer] at hdata
    omega
  refine finished_iff.mpr ⟨⟨hsent.state, hsent.fin, hsent.buffer, ?_⟩, hbuffers⟩
  have hmeta := hsent.bufMeta
  unfold hasWritableBufMeta at hmeta ⊢
  simpa [hlength] using hmeta

theorem emplaceBufMeta_quiet {u : SendStream} (hstate : u.sendState = s.sendState)
    (m : WriteBufferMeta) :
    Ends AnyFault (u.emplaceBufMeta m) (Quiet s) := by
  refine (emplaceBufMeta_cases u m).imp ?_
  rintro t rfl
  exact .of_not_finished hstate (not_finished_of_sentMeta (by simp))

theorem handleStreamBufMetaWritten_quiet (s : SendStream) (offset len : Nat) (fin : Bool) :
    Ends AnyFault (s.handleStreamBufMetaWritten offset len fin) (fun r => Quiet s r.1) := by
  unfold handleStreamBufMetaWritten
  refine Ends.ite (fun _ => ?_) fun _ => ?_
  · refine Ends.bind (P := Quiet s) ?_ fun t ht => .ok ht
    unfold handleNewStreamBufMetaWritten
    dsimp only
    exact Ends.ite (fun _ => .error trivial) fun _ => emplaceBufMeta_quiet (by rfl) _
  · split
    · refine Ends.ite (fun _ => ?_) fun _ => .error trivial
      refine Ends.bind (P := Quiet s) ?_ fun t ht => .ok ht
      unfold handleRetransmissionBufMetaWritten
      refine Ends.ite (fun _ => emplaceBufMeta_quiet (by rfl) _) fun _ => ?_
      exact Ends.ite (fun _ => .error trivial) fun _ => emplaceBufMeta_quiet (by rfl) _
    · exact .error trivial

/-- A frame that is not ignored is on its way. -/
theorem handleStreamWritten_sent (like : SendLike) (offset len : Nat) (fin : Bool) :
    Ends AnyFault (like.handleStreamWritten offset len fin) (fun r =>
      r.1 = like ∨ r.1.retransmissionBuffer ≠ []) := by
  unfold SendLike.handleStreamWritten
  refine Ends.ite (fun _ => ?_) fun _ => Ends.ite (fun _ => .error trivial) fun _ => ?_
  · refine Ends.bind (handleNewStreamDataWritten_eq _ _ _) ?_
    rintro t rfl
    exact .ok (.inr (by simp))
  · split
    · refine Ends.ite (fun _ => ?_) fun _ => .ok (.inl rfl)
      refine Ends.bind (P := fun t => t.retransmissionBuffer ≠ []) ?_ fun t ht => .ok (.inr ht)
      unfold SendLike.handleRetransmissionWritten
      refine Ends.ite (fun _ => ?_) fun _ => ?_
      · refine (emplace_cases _ _).imp ?_
        rintro t rfl
        simp
      · refine (emplace_cases _ _).imp ?_
        rintro t rfl
        simp
    · exact .ok (.inl rfl)

theorem frameWritten_quiet (s : SendStream) (frame : WriteStreamFrame) :
    Ends AnyFault (s.frameWritten frame) (fun r => Quiet s r.1) := by
  unfold frameWritten
  refine Ends.ite (fun _ => s.handleStreamBufMetaWritten_quiet _ _ _) fun _ => ?_
  refine Ends.bind (handleStreamWritten_sent _ _ _ _) ?_
  rintro ⟨like, new⟩ (hsame | hsent)
  · dsimp only at hsame
    subst hsame
    exact .ok (.refl s)
  · exact .ok (.of_not_finished rfl (not_finished_of_sent hsent))

variable {f : SendFlowControl}

theorem writeChainTo_quiet (s : SendStream) (data : Buf) (eof : Bool) (f : SendFlowControl) :
    Ends (fun _ => True) (s.writeChainTo data eof f) (fun r => Quiet s r.1) := by
  unfold SendStream.writeChainTo
  refine Ends.ite (fun hwritable => ?_) fun _ => .ok (.refl s)
  refine Ends.bind (writeDataToQuicStream_quiet hwritable data eof).liftStream ?_
  intro t ht
  exact Ends.bind Ends.any fun g _ => .ok ht

theorem Tracked.writeBufMetaTo_quiet (h : s.Tracked sent) (length : Nat) (eof : Bool)
    (f : SendFlowControl) :
    Ends (fun _ => True) (s.writeBufMetaTo length eof f) (fun r => Quiet s r.1) := by
  unfold SendStream.writeBufMetaTo
  refine Ends.ite (fun _ => .ok (.refl s)) fun hcall => ?_
  simp only [Bool.or_eq_true, Bool.not_eq_true', not_or, Bool.not_eq_false] at hcall
  refine Ends.bind (h.writeBufMetaToQuicStream_quiet hcall.1.1 length eof).liftStream ?_
  intro t ht
  exact Ends.bind Ends.any fun g _ => .ok ht

theorem reset_quiet (s : SendStream) (errorCode : Nat) (f : SendFlowControl) :
    Ends (fun _ => True) (s.reset errorCode f) (fun r => Quiet s r.1) := by
  unfold SendStream.reset
  refine Ends.bind Ends.any fun g _ => ?_
  refine Ends.bind (s.sendRstSMHandler_quiet errorCode).liftStream ?_
  rintro ⟨t, frame⟩ ht
  exact .ok ht

end SendStream

/-! ### Streams of a connection -/

namespace ConnStream

variable {s t : ConnStream} {f : SendFlowControl}

/-- Nothing is finished by it, and it does not end the stream. -/
structure Quiet (s t : ConnStream) : Prop where
  finished : t.Finished → s.Finished
  terminal : t.inTerminalStates = true → s.inTerminalStates = true

theorem Quiet.of_sendHalf (h : SendStream.Quiet s.toSendStream t.toSendStream)
    (hrecv : t.recvState = s.recvState) : Quiet s t := by
  refine ⟨h.finished, fun ht => ?_⟩
  unfold inTerminalStates at *
  rcases h.state with hstate | hstate
  · rw [hstate, hrecv] at ht
    exact ht
  · rw [hstate] at ht
    cases ht

theorem updateConnection_quiet (s : ConnStream) (frame : WriteStreamFrame) (f : SendFlowControl) :
    Ends (fun _ => True) (s.updateConnection frame f) (fun r => Quiet s r.1) := by
  unfold ConnStream.updateConnection
  refine Ends.bind (s.toSendStream.frameWritten_quiet frame).liftStream ?_
  rintro ⟨t, new⟩ ht
  refine Ends.bind Ends.any fun g _ => ?_
  refine Ends.bind (SendStream.updateWritableStreams_eq t).liftStream ?_
  rintro u rfl
  exact .ok (.of_sendHalf ht rfl)

end ConnStream

namespace SendingConn

variable {c c' : SendingConn} {id : StreamId}

/-- No stream is open that is finished. -/
def Unfinished (c : SendingConn) : Prop := ∀ id ∈ c.streams, ¬ (c.stream id).Finished

/-- The streams that are over are in the set of closed streams. -/
def Listed (c : SendingConn) : Prop :=
  ∀ id ∈ c.streams, (c.stream id).inTerminalStates = true → id ∈ c.closedStreams

structure Completed (c : SendingConn) : Prop where
  unfinished : c.Unfinished
  listed : c.Listed

/-- Only one stream is changed, and it is still there. -/
structure Touches (c c' : SendingConn) (id : StreamId) : Prop where
  streams : c'.streams = c.streams
  others : ∀ other, other ≠ id → c'.stream other = c.stream other
  closed : c.closedStreams ⊆ c'.closedStreams

/-- Only the stream that is touched can come to its end. -/
theorem Touches.listed (h : Touches c c' id) (hc : c.Listed)
    (hend : id ∈ c.streams → (c'.stream id).inTerminalStates = true →
      (c.stream id).inTerminalStates = true ∨ id ∈ c'.closedStreams) : c'.Listed := by
  intro other hother hterminal
  rw [h.streams] at hother
  by_cases heq : other = id
  · subst heq
    rcases hend hother hterminal with hbefore | hclosed
    · exact h.closed (hc other hother hbefore)
    · exact hclosed
  · rw [h.others other heq] at hterminal
    exact h.closed (hc other hother hterminal)

theorem Touches.completed (h : Touches c c' id) (hc : c.Completed)
    (hquiet : id ∈ c.streams → ConnStream.Quiet (c.stream id) (c'.stream id)) : c'.Completed := by
  refine ⟨fun other hother => ?_, h.listed hc.listed fun hid ht => .inl ((hquiet hid).terminal ht)⟩
  rw [h.streams] at hother
  by_cases heq : other = id
  · subst heq
    intro hfinished
    exact hc.unfinished other hother ((hquiet hother).finished hfinished)
  · rw [h.others other heq]
    exact hc.unfinished other hother

theorem onStream_touches {P : ConnStream → Prop}
    {act : ConnStream → SendFlowControl → Except SendFault (ConnStream × SendFlowControl)}
    (hact : Ends (fun _ => True) (act (c.stream id) c.flowControlState) (fun r => P r.1)) :
    Ends (fun _ => True) (c.onStream id act) (fun c' => Touches c c' id ∧
      c'.closedStreams = c.closedStreams ∧ (id ∈ c.streams → P (c'.stream id)) ∧
      (id ∉ c.streams → c' = c)) := by
  unfold SendingConn.onStream
  refine Ends.ite (fun hid => ?_) fun hid => ?_
  · refine Ends.bind hact ?_
    rintro ⟨t, g⟩ ht
    refine .ok ⟨⟨rfl, fun other hother => Function.update_of_ne hother _ _, subset_rfl⟩, rfl,
      fun _ => ?_, fun hgone => absurd hid hgone⟩
    simpa using ht
  · exact .ok ⟨⟨rfl, fun _ _ => rfl, subset_rfl⟩, rfl, fun hlive => absurd hlive hid, fun _ => rfl⟩

theorem onSendHalf_touches {P : SendStream → Prop}
    {act : SendStream → SendFlowControl → Except SendFault (SendStream × SendFlowControl)}
    (hact : Ends (fun _ => True) (act (c.stream id).toSendStream c.flowControlState)
      (fun r => P r.1)) :
    Ends (fun _ => True) (c.onSendHalf id act) (fun c' => Touches c c' id ∧
      c'.closedStreams = c.closedStreams ∧ (id ∈ c.streams → P (c'.stream id).toSendStream ∧
        (c'.stream id).recvState = (c.stream id).recvState)) := by
  have hstream : Ends (fun _ => True) (c.onStream id fun s f => s.onSendHalf f act) _ :=
    onStream_touches (P := fun t => P t.toSendStream ∧ t.recvState = (c.stream id).recvState) (by
      unfold ConnStream.onSendHalf
      refine Ends.bind hact ?_
      rintro ⟨t, g⟩ ht
      exact .ok ⟨ht, rfl⟩)
  exact hstream.imp fun c' hc' => ⟨hc'.1, hc'.2.1, hc'.2.2.1⟩

theorem Completed.onSendHalf (hc : c.Completed)
    {act : SendStream → SendFlowControl → Except SendFault (SendStream × SendFlowControl)}
    (hact : Ends (fun _ => True) (act (c.stream id).toSendStream c.flowControlState)
      (fun r => SendStream.Quiet (c.stream id).toSendStream r.1)) :
    Ends (fun _ => True) (c.onSendHalf id act) Completed := by
  refine (onSendHalf_touches hact).imp fun c' hc' => ?_
  exact hc'.1.completed hc fun hid => .of_sendHalf (hc'.2.2 hid).1 (hc'.2.2 hid).2

theorem Completed.onSendHalf_alone (hc : c.Completed)
    {act : SendStream → Except StreamFault SendStream}
    (hact : Ends AnyFault (act (c.stream id).toSendStream)
      (SendStream.Quiet (c.stream id).toSendStream)) :
    Ends (fun _ => True) (c.onSendHalf id fun s f => do
      let s ← liftStream (act s)
      return (s, f)) Completed :=
  hc.onSendHalf (Ends.bind hact.liftStream fun _ ht => .ok ht)

/-- A transition that ends a stream puts it into the set of closed streams. -/
theorem onTransition_touches {P : ConnStream → Prop}
    (act : ConnStream → Except StreamFault ConnStream)
    (hact : Ends AnyFault (act (c.stream id)) P) :
    Ends (fun _ => True) (c.onTransition id act) (fun c' => Touches c c' id ∧
      (id ∈ c.streams → P (c'.stream id)) ∧
      ((c'.stream id).inTerminalStates = true →
        (c.stream id).inTerminalStates = true ∨ id ∈ c'.closedStreams)) := by
  unfold SendingConn.onTransition
  refine Ends.bind (onStream_touches (Ends.bind hact.liftStream fun t ht => .ok ht)) ?_
  rintro c' ⟨htouches, -, hP, -⟩
  by_cases hlast : ((c.stream id).sendState ≠ (c'.stream id).sendState ∨
      (c.stream id).recvState ≠ (c'.stream id).recvState) ∧ (c'.stream id).inTerminalStates = true
  · refine .ok ?_
    rw [if_pos hlast]
    refine ⟨⟨htouches.streams, htouches.others, ?_⟩, hP, fun _ => .inr (Finset.mem_insert_self _ _)⟩
    exact htouches.closed.trans (Finset.subset_insert _ _)
  · refine .ok ?_
    rw [if_neg hlast]
    refine ⟨htouches, hP, fun hterminal => .inl ?_⟩
    push Not at hlast
    have hsame : (c.stream id).sendState = (c'.stream id).sendState ∧
        (c.stream id).recvState = (c'.stream id).recvState := by
      by_contra hdiffers
      refine hlast ?_ hterminal
      tauto
    unfold ConnStream.inTerminalStates at *
    rw [hsame.1, hsame.2]
    exact hterminal

end SendingConn

end MasqueQuic
