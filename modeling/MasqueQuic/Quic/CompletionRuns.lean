/-
Runs of a sender, and where a stream that has nothing left to send stays open.

An ACK frame is the list of what it says of the frames that were sent: acknowledged, acknowledged
after their packet had been declared lost, or lost. `Completing` asks that no late acknowledgement,
and no loss where nothing is sent again, takes away the last thing that was left of an open stream,
unless the ack visitor comes to the stream behind it in the same frame (`completed_iff`).
-/

import MasqueQuic.Quic.SendCompletion

namespace MasqueQuic

namespace SendingConn

variable {c c' : SendingConn} {id : StreamId}

/-- What is only looked at does not matter. -/
theorem Completed.of_same (hc : c.Completed) (hstreams : c'.streams = c.streams)
    (hstream : c'.stream = c.stream) (hclosed : c'.closedStreams = c.closedStreams) :
    c'.Completed := by
  refine ⟨fun id hid => ?_, fun id hid hterminal => ?_⟩
  · rw [hstream]
    exact hc.unfinished id (hstreams ▸ hid)
  · rw [hstream] at hterminal
    rw [hclosed]
    exact hc.listed id (hstreams ▸ hid) hterminal

theorem Completed.readFlowControl (hc : c.Completed) (f : SendFlowControl) :
    (c.readFlowControl f).Completed :=
  hc.of_same rfl rfl rfl

theorem ite_completed {p : Prop} [Decidable p] (hc : c.Completed) (hc' : c'.Completed) :
    (if p then c' else c).Completed := by
  split
  · exact hc'
  · exact hc

theorem Completed.updateConnection (hc : c.Completed) (frame : WriteStreamFrame) :
    Ends (fun _ => True) (c.updateConnection frame) Completed := by
  unfold SendingConn.updateConnection
  refine Ends.ite (fun _ => ?_) fun _ => .error trivial
  refine (onStream_touches (ConnStream.updateConnection_quiet _ frame _)).imp fun c' hc' => ?_
  exact hc'.1.completed hc hc'.2.2.1

theorem Completed.sendPacket (hc : c.Completed) (rooms : List StreamRoom) :
    Ends (fun _ => True) (c.sendPacket rooms) Completed := by
  unfold SendingConn.sendPacket
  refine Ends.bind Ends.any ?_
  rintro ⟨frames, left, f⟩ -
  refine Ends.foldlM (I := fun c' _ => Completed c')
    (fun c' frame _ hc' => hc'.updateConnection frame) ?_
  exact hc.of_same rfl rfl rfl

theorem Completed.sendDSRPacket (hc : c.Completed) (id : StreamId) (len : Nat) :
    Ends (fun _ => True) (c.sendDSRPacket id len) Completed := by
  have hread := hc.readFlowControl
  unfold SendingConn.sendDSRPacket
  dsimp only
  refine Ends.ite (fun _ => .ok hc) fun _ => Ends.ite (fun _ => .ok (hread _)) fun _ => ?_
  split
  · exact .ok (hread _)
  · exact (hread _).updateConnection _

theorem Completed.sendDSRLossPacket (hc : c.Completed) (id : StreamId) (len : Nat) :
    Ends (fun _ => True) (c.sendDSRLossPacket id len) Completed := by
  unfold SendingConn.sendDSRLossPacket
  dsimp only
  refine Ends.ite (fun _ => .ok hc) fun _ => ?_
  split
  · exact .ok hc
  · exact hc.updateConnection _

theorem Completed.openStream (hc : c.Completed) (id : StreamId) (limit : Nat) :
    (c.openStream id limit).Completed := by
  unfold SendingConn.openStream
  split
  · exact hc
  · have hone : ∀ {p : StreamId → ConnStream → Prop},
        (∀ other ∈ c.streams, p other (c.stream other)) → p id (.new c.nodeType id limit) →
        ∀ other ∈ insert id c.streams,
          p other (Function.update c.stream id (.new c.nodeType id limit) other) := by
      intro p hall hnew other hother
      by_cases heq : other = id
      · subst heq
        simpa using hnew
      · simp only [Finset.mem_insert, heq, false_or] at hother
        simpa [heq] using hall other hother
    refine ⟨hone (p := fun _ s => ¬ s.Finished) hc.unfinished ?_,
      hone (p := fun id s => s.inTerminalStates = true → id ∈ c.closedStreams) hc.listed
        fun hterminal => ?_⟩
    · exact SendStream.not_finished_of_unsentFin rfl
    · -- No stream has neither half.
      unfold ConnStream.inTerminalStates ConnStream.new SendStream.new isReceivingStream
        isSendingStream at hterminal
      cases huni : isUnidirectionalStream id <;> cases hlocal : isLocalStream c.nodeType id <;>
        simp [huni, hlocal] at hterminal

theorem Completed.removeClosedStream (hc : c.Completed) (id : StreamId) :
    (c.removeClosedStream id).Completed := by
  unfold SendingConn.removeClosedStream
  split
  · refine ⟨fun other hother => ?_, fun other hother hterminal => ?_⟩
    · exact hc.unfinished other (Finset.mem_of_mem_erase hother)
    · obtain ⟨hne, hother⟩ := Finset.mem_erase.mp hother
      exact Finset.mem_erase.mpr ⟨hne, hc.listed other hother hterminal⟩
  · exact hc

end SendingConn

/-! ### ACK frames -/

/-- Acks and losses, which come with ACK frames and timeouts. -/
def SendingEvent.isOutcome : SendingEvent → Bool
  | .frameAcked _ => true
  | .frameAckedLate _ => true
  | .rstAcked _ => true
  | .frameLost _ _ => true
  | _ => false

namespace SendingConn

variable {c c' : SendingConn} {id : StreamId}

theorem Completed.step (hc : c.Completed) (hinv : c.Inv) {e : SendingEvent}
    (he : e.isOutcome = false) : Ends (fun _ => True) (c.step e) Completed := by
  cases e with
  | openStream id limit => exact .ok (hc.openStream id limit)
  | writeChain id data eof =>
    exact Ends.ite (fun _ => .ok hc) fun _ =>
      hc.onSendHalf (SendStream.writeChainTo_quiet _ _ _ _)
  | writeBufMeta id length eof =>
    refine Ends.ite (fun _ => .ok hc) fun _ => ?_
    by_cases hid : id ∈ c.streams
    · have htracked := hinv.tracked id (hinv.live hid)
      exact hc.onSendHalf (htracked.writeBufMetaTo_quiet length eof _)
    · rw [SendingConn.onSendHalf, SendingConn.onStream, if_neg hid]
      exact .ok hc
  | setDSRSender id sender =>
    exact Ends.ite (fun _ => .ok hc) fun _ =>
      hc.onSendHalf_alone (SendStream.setDSRSender_quiet _ sender)
  | resetStream id errorCode =>
    exact Ends.ite (fun _ => .ok hc) fun _ => hc.onSendHalf (SendStream.reset_quiet _ errorCode _)
  | getStreamFlowControl id =>
    rw [SendingConn.step, getStreamFlowControl_eq]
    exact .ok (ite_completed hc (hc.readFlowControl _))
  | getMaxWritableOnStream id =>
    rw [SendingConn.step, hinv.getMaxWritableOnStream_eq]
    exact .ok (ite_completed hc (hc.readFlowControl _))
  | getConnectionFlowControl =>
    rw [SendingConn.step]
    exact .ok (hc.readFlowControl _)
  | maxData maximumData => exact .ok (hc.of_same rfl rfl rfl)
  | maxStreamData id maximumData =>
    refine Ends.ite (fun _ => .error trivial) fun _ => ?_
    unfold SendingConn.handleStreamWindowUpdate
    refine Ends.bind (P := Completed) ?_ fun c' hc' => ?_
    · by_cases hid : id ∈ c.streams
      · have htracked := hinv.tracked id (hinv.live hid)
        exact hc.onSendHalf_alone (htracked.handleStreamWindowUpdate_quiet maximumData)
      · rw [SendingConn.onSendHalf, SendingConn.onStream, if_neg hid]
        exact .ok hc
    · refine .ok (?_ : Completed (ite _ _ _))
      split
      · exact hc'.of_same rfl rfl rfl
      · exact hc'
  | stopSending id =>
    refine hc.onSendHalf (Ends.bind Ends.any fun g _ => .ok (.refl _))
  | frameAcked frame => cases he
  | frameAckedLate frame => cases he
  | rstAcked id => cases he
  | frameLost frame disabled => cases he
  | receiveEnded id =>
    have hact : Ends AnyFault (.ok (if (c.stream id).recvState = .open then
        { c.stream id with recvState := .closed } else c.stream id))
          (fun t : ConnStream => t.toSendStream = (c.stream id).toSendStream) := by
      refine .ok ?_
      split
      · rfl
      · rfl
    have htouched : Ends (fun _ => True) (c.step (.receiveEnded id)) _ :=
      onTransition_touches (fun s =>
        .ok (if s.recvState = .open then { s with recvState := .closed } else s)) hact
    refine htouched.imp fun c' hc' => ?_
    obtain ⟨htouches, hsame, hend⟩ := hc'
    refine ⟨fun other hother => ?_, htouches.listed hc.listed fun _ => hend⟩
    rw [htouches.streams] at hother
    by_cases heq : other = id
    · subst heq
      rw [hsame hother]
      exact hc.unfinished other hother
    · rw [htouches.others other heq]
      exact hc.unfinished other hother
  | packet rooms => exact hc.sendPacket rooms
  | dsrPacket id len => exact hc.sendDSRPacket id len
  | dsrLossPacket id len => exact hc.sendDSRLossPacket id len
  | removeClosedStream id => exact .ok (hc.removeClosedStream id)

end SendingConn

/-- What an ACK frame, or a loss timeout, says of what was sent. -/
inductive AckOutcome where
  | acked (frame : WriteStreamFrame)
  | ackedLate (frame : WriteStreamFrame)
  | rstAcked (id : StreamId)
  | lost (frame : WriteStreamFrame) (streamRetransmissionDisabled : Bool)

namespace AckOutcome

def event : AckOutcome → SendingEvent
  | acked frame => .frameAcked frame
  | ackedLate frame => .frameAckedLate frame
  | rstAcked id => .rstAcked id
  | lost frame streamRetransmissionDisabled => .frameLost frame streamRetransmissionDisabled

/-- The ack visitor comes to the stream, and looks whether anything is left. -/
def Acks (o : AckOutcome) (id : StreamId) : Prop :=
  match o with
  | acked frame => frame.streamId = id
  | _ => False

end AckOutcome

namespace SendingConn

variable {c c' : SendingConn} {id : StreamId}

/-- The outcome takes away the last thing that was left of an open stream, and does not look. -/
def Finishes (c : SendingConn) (id : StreamId) : AckOutcome → Prop
  | .ackedLate frame =>
      frame.streamId = id ∧ id ∈ c.streams ∧ (c.stream id).LastLost frame
  | .lost frame streamRetransmissionDisabled =>
      frame.streamId = id ∧ id ∈ c.streams ∧ streamRetransmissionDisabled = true ∧
        (c.stream id).LastSent frame
  | _ => False

theorem Finishes.mem {o : AckOutcome} (h : c.Finishes id o) : id ∈ c.streams := by
  cases o with
  | acked frame => exact h.elim
  | ackedLate frame => exact h.2.1
  | rstAcked target => exact h.elim
  | lost frame disabled => exact h.2.1

/-- What an outcome does to the streams. -/
structure Outcome (c : SendingConn) (o : AckOutcome) (c' : SendingConn) : Prop where
  streams : c'.streams = c.streams
  listed : c'.Listed
  finished : ∀ id ∈ c.streams, (c'.stream id).Finished ↔
    (c.stream id).Finished ∧ ¬ o.Acks id ∨ c.Finishes id o

/-- An outcome of a single stream. -/
theorem Touches.outcome {o : AckOutcome} {target : StreamId} (h : Touches c c' target)
    (hlisted : c'.Listed) (hother : ∀ id, id ≠ target → ¬ o.Acks id ∧ ¬ c.Finishes id o)
    (htarget : target ∈ c.streams → ((c'.stream target).Finished ↔
      (c.stream target).Finished ∧ ¬ o.Acks target ∨ c.Finishes target o)) :
    c.Outcome o c' := by
  refine ⟨h.streams, hlisted, fun id hid => ?_⟩
  by_cases heq : id = target
  · subst heq
    exact htarget hid
  · obtain ⟨hacks, hfinishes⟩ := hother id heq
    rw [h.others id heq]
    simp [hacks, hfinishes]

theorem Listed.acked (hc : c.Listed) (frame : WriteStreamFrame) :
    Ends (fun _ => True) (c.step (.frameAcked frame)) (c.Outcome (.acked frame)) := by
  have hact : Ends AnyFault
      (do
        let t ← (c.stream frame.streamId).toSendStream.sendAckSMHandler frame
        return { c.stream frame.streamId with toSendStream := t })
      (fun t : ConnStream => ¬ t.toSendStream.Finished) :=
    Ends.bind (SendStream.sendAckSMHandler_finished _ frame) fun t ht => .ok ht
  have htouched : Ends (fun _ => True) (c.step (.frameAcked frame)) _ :=
    onTransition_touches (fun s => do
      let t ← s.toSendStream.sendAckSMHandler frame
      return { s with toSendStream := t }) hact
  refine htouched.imp fun c' hc' => ?_
  obtain ⟨htouches, hfinished, hend⟩ := hc'
  refine htouches.outcome (htouches.listed hc fun _ => hend) ?_ ?_
  · intro other hne
    exact ⟨fun hacks => hne hacks.symm, id⟩
  · intro hid
    exact iff_of_false (hfinished hid) fun hor => hor.elim (fun hand => hand.2 rfl) id

theorem Listed.rstAcked (hc : c.Listed) (target : StreamId) :
    Ends (fun _ => True) (c.step (.rstAcked target)) (c.Outcome (.rstAcked target)) := by
  have hact : Ends AnyFault
      (do
        let t ← (c.stream target).toSendStream.sendRstAckSMHandler
        return { c.stream target with toSendStream := t })
      (fun t : ConnStream =>
        ¬ (c.stream target).toSendStream.Finished ∧ ¬ t.toSendStream.Finished) :=
    Ends.bind (SendStream.sendRstAckSMHandler_finished _) fun t ht => .ok ht
  have htouched : Ends (fun _ => True) (c.step (.rstAcked target)) _ :=
    onTransition_touches (fun s => do
      let t ← s.toSendStream.sendRstAckSMHandler
      return { s with toSendStream := t }) hact
  refine htouched.imp fun c' hc' => ?_
  obtain ⟨htouches, hfinished, hend⟩ := hc'
  refine htouches.outcome (htouches.listed hc fun _ => hend) (fun _ _ => ⟨id, id⟩) fun hid => ?_
  obtain ⟨hbefore, hafter⟩ := hfinished hid
  exact iff_of_false hafter fun hor => hor.elim (fun hand => hbefore hand.1) id

/-- An outcome that leaves the state of the send half as it is. -/
theorem Listed.onSendHalf {o : AckOutcome} {target : StreamId} (hc : c.Listed)
    {act : SendStream → Except StreamFault SendStream} {P : Prop}
    (hact : Ends AnyFault (act (c.stream target).toSendStream) (fun t =>
      t.sendState = (c.stream target).sendState ∧
        (t.Finished ↔ (c.stream target).toSendStream.Finished ∨ P)))
    (hother : ∀ id, id ≠ target → ¬ o.Acks id ∧ ¬ c.Finishes id o) (hacks : ¬ o.Acks target)
    (hfinishes : target ∈ c.streams → (c.Finishes target o ↔ P)) :
    Ends (fun _ => True) (c.onSendHalf target fun s f => do
      let s ← liftStream (act s)
      return (s, f)) (c.Outcome o) := by
  refine (onSendHalf_touches (P := fun t => t.sendState = (c.stream target).sendState ∧
    (t.Finished ↔ (c.stream target).toSendStream.Finished ∨ P))
      (Ends.bind hact.liftStream fun t ht => .ok ht)).imp fun c' hc' => ?_
  obtain ⟨htouches, -, hsame⟩ := hc'
  have hlisted : c'.Listed := by
    refine htouches.listed hc fun hid hterminal => .inl ?_
    obtain ⟨⟨hstate, -⟩, hrecv⟩ := hsame hid
    unfold ConnStream.inTerminalStates at *
    rwa [hstate, hrecv] at hterminal
  refine htouches.outcome hlisted hother fun hid => ?_
  obtain ⟨⟨-, hfinished⟩, -⟩ := hsame hid
  rw [hfinished, hfinishes hid]
  simp [hacks]

theorem Listed.ackedLate (hc : c.Listed) (frame : WriteStreamFrame) :
    Ends (fun _ => True) (c.step (.frameAckedLate frame)) (c.Outcome (.ackedLate frame)) := by
  refine hc.onSendHalf (SendStream.frameAckedLate_finished _ frame) ?_ id ?_
  · intro id hne
    exact ⟨fun hacks => hacks, fun hfinishes => hne hfinishes.1.symm⟩
  · intro hid
    exact ⟨fun hfinishes => hfinishes.2.2, fun hlast => ⟨rfl, hid, hlast⟩⟩

theorem Listed.lost (hc : c.Listed) (frame : WriteStreamFrame) (disabled : Bool) :
    Ends (fun _ => True) (c.step (.frameLost frame disabled))
      (c.Outcome (.lost frame disabled)) := by
  refine hc.onSendHalf (SendStream.frameLost_finished _ frame disabled) ?_ id ?_
  · intro id hne
    exact ⟨fun hacks => hacks, fun hfinishes => hne hfinishes.1.symm⟩
  · intro hid
    exact ⟨fun hfinishes => hfinishes.2.2, fun hlast => ⟨rfl, hid, hlast⟩⟩

theorem Listed.outcome (hc : c.Listed) (o : AckOutcome) :
    Ends (fun _ => True) (c.step o.event) (c.Outcome o) := by
  cases o with
  | acked frame => exact hc.acked frame
  | ackedLate frame => exact hc.ackedLate frame
  | rstAcked id => exact hc.rstAcked id
  | lost frame disabled => exact hc.lost frame disabled

/-- All outcomes of an ACK frame, or of a loss timeout. -/
def outcomes (c : SendingConn) (list : List AckOutcome) : Except SendFault SendingConn :=
  list.foldlM (fun c o => c.step o.event) c

/-- After each outcome that takes away the last thing that was left of an open stream, the ack
visitor comes to the stream. -/
def Completes (c : SendingConn) : List AckOutcome → Prop
  | [] => True
  | o :: rest => (∀ id, c.Finishes id o → ∃ o' ∈ rest, o'.Acks id) ∧
      ∀ c', c.step o.event = .ok c' → Completes c' rest

/-- Nothing is finished and open behind the outcomes exactly if the ack visitor comes to each stream
where that is so, or becomes so. -/
theorem Listed.outcomes (hc : c.Listed) {list : List AckOutcome} (hrun : c.outcomes list = .ok c') :
    c'.Listed ∧ (c'.Unfinished ↔
      (∀ id ∈ c.streams, (c.stream id).Finished → ∃ o ∈ list, o.Acks id) ∧ c.Completes list) := by
  induction list generalizing c with
  | nil =>
    cases hrun
    refine ⟨hc, fun hfinished => ⟨fun id hid h => absurd h (hfinished id hid), trivial⟩, ?_⟩
    rintro ⟨hnone, -⟩ id hid h
    obtain ⟨o, ho, -⟩ := hnone id hid h
    cases ho
  | cons o rest ih =>
    unfold SendingConn.outcomes at hrun
    rw [List.foldlM_cons, except_bind_eq_ok] at hrun
    obtain ⟨c₁, hstep, hrest⟩ := hrun
    have houtcome := (hc.outcome o).of_ok hstep
    obtain ⟨hlisted, hiff⟩ := ih houtcome.listed hrest
    refine ⟨hlisted, hiff.trans ?_⟩
    have hcompletes : c.Completes (o :: rest) ↔
        (∀ id, c.Finishes id o → ∃ o' ∈ rest, o'.Acks id) ∧ c₁.Completes rest := by
      refine and_congr_right fun _ => ⟨fun h => h c₁ hstep, fun h c₂ hstep₂ => ?_⟩
      rw [hstep] at hstep₂
      cases hstep₂
      exact h
    rw [hcompletes, ← and_assoc]
    refine and_congr_left fun _ => ?_
    rw [houtcome.streams]
    constructor
    · intro h
      refine ⟨fun id hid hfinished => ?_, fun id hfinishes => ?_⟩
      · by_cases hacks : o.Acks id
        · exact ⟨o, List.mem_cons_self, hacks⟩
        · obtain ⟨o', ho', hacks'⟩ :=
            h id hid ((houtcome.finished id hid).mpr (.inl ⟨hfinished, hacks⟩))
          exact ⟨o', List.mem_cons_of_mem _ ho', hacks'⟩
      · have hid : id ∈ c.streams := Finishes.mem hfinishes
        exact h id hid ((houtcome.finished id hid).mpr (.inr hfinishes))
    · rintro ⟨hbefore, hnew⟩ id hid hfinished
      rcases (houtcome.finished id hid).mp hfinished with ⟨hwas, hacks⟩ | hfinishes
      · obtain ⟨o', ho', hacks'⟩ := hbefore id hid hwas
        rcases List.mem_cons.mp ho' with rfl | ho'
        · exact absurd hacks' hacks
        · exact ⟨o', ho', hacks'⟩
      · exact hnew id hfinishes

theorem Inv.outcomes (hc : c.Inv) {list : List AckOutcome} (hrun : c.outcomes list = .ok c') :
    c'.Inv :=
  @run_invariant _ _ _ (fun c (o : AckOutcome) => SendingConn.step c o.event) SendingConn.Inv
    (fun _ o _ hinv hstep => ((hinv.step o.event).of_ok hstep).1) _ _ _ hc hrun

end SendingConn

/-! ### Runs -/

/-- A call that is no outcome, or an ACK frame or a loss timeout with all that it says. -/
inductive CompletionEvent where
  | call (event : SendingEvent) (quiet : event.isOutcome = false)
  | outcomes (list : List AckOutcome)

namespace SendingConn

variable {c c' : SendingConn}

def completionStep (c : SendingConn) : CompletionEvent → Except SendFault SendingConn
  | .call event _ => c.step event
  | .outcomes list => c.outcomes list

/-- An ACK frame that is taken in without a fault takes away the last thing that was left of an open
stream only before the ack visitor comes to the stream. -/
def Completing (c : SendingConn) : CompletionEvent → Prop
  | .call _ _ => True
  | .outcomes list => (∃ c', c.outcomes list = .ok c') → c.Completes list

theorem Inv.completionStep (hc : c.Inv) {e : CompletionEvent}
    (hstep : c.completionStep e = .ok c') : c'.Inv := by
  cases e with
  | call event quiet => exact ((hc.step event).of_ok hstep).1
  | outcomes list => exact hc.outcomes hstep

theorem Completed.outcomes_iff (hc : c.Completed) {list : List AckOutcome}
    (hrun : c.outcomes list = .ok c') : c'.Completed ↔ c.Completes list := by
  obtain ⟨hlisted, hiff⟩ := hc.listed.outcomes hrun
  constructor
  · intro h
    exact (hiff.mp h.unfinished).2
  · intro h
    refine ⟨hiff.mpr ⟨fun id hid hfinished => ?_, h⟩, hlisted⟩
    exact absurd hfinished (hc.unfinished id hid)

theorem new_completed (nodeType : QuicNodeType) (space : Nat) (limit : Nat) :
    (new nodeType space limit).Completed where
  unfinished id hid := by cases hid
  listed id hid := by cases hid

end SendingConn

/-- In no state that a run reaches a stream is open with everything acknowledged, and the streams
that are over are in the closed set, exactly if each ACK frame completes what it finishes. -/
theorem completed_iff (nodeType : QuicNodeType) (totalBufferSpaceAvailable : Nat)
    (peerAdvertisedMaxOffset : Fin (2 ^ 62)) (events : List CompletionEvent) :
    (∀ before c, before <+: events →
      before.foldlM SendingConn.completionStep
        (.new nodeType totalBufferSpaceAvailable peerAdvertisedMaxOffset) = .ok c → c.Completed) ↔
      Meets SendingConn.completionStep SendingConn.Completing
        (.new nodeType totalBufferSpaceAvailable peerAdvertisedMaxOffset) events := by
  have hstart := SendingConn.new_inv nodeType totalBufferSpaceAvailable peerAdvertisedMaxOffset
  refine @never_bad_iff_meets _ _ _ SendingConn.completionStep SendingConn.Completing
    SendingConn.Inv SendingConn.Completed ?_ ?_ ?_ _ _ hstart (SendingConn.new_completed _ _ _)
  · exact fun c e c' hinv hstep => hinv.completionStep hstep
  · intro c e c' hinv hc hcompleting hstep
    cases e with
    | call event quiet => exact (hc.step hinv quiet).of_ok hstep
    | outcomes list => exact (hc.outcomes_iff hstep).mpr (hcompleting ⟨c', hstep⟩)
  · intro c e hinv hc hleft
    cases e with
    | call event quiet => exact absurd trivial hleft
    | outcomes list =>
      unfold SendingConn.Completing at hleft
      push Not at hleft
      obtain ⟨⟨c', hrun⟩, hopen⟩ := hleft
      exact ⟨c', hrun, fun hcompleted => hopen ((hc.outcomes_iff hrun).mp hcompleted)⟩

/-- Ten bytes and the FIN are sent in one packet, which is declared lost. Then it is acknowledged
after all, and the loss buffer is empty. -/
theorem completed_fails_late :
    ∃ c, [.call (.openStream 0 100) rfl,
        .call (.writeChain 0 ⟨some (.wrapBuffer (List.replicate 10 0)), by decide⟩ true) rfl,
        .call (.packet [⟨0, [], some 10⟩]) rfl,
        .outcomes [.lost ⟨0, 0, 10, true, false, 0⟩ false],
        .outcomes [.ackedLate ⟨0, 0, 10, true, false, 0⟩]].foldlM SendingConn.completionStep
          (.new .client 1000 100) = .ok c ∧ ¬ c.Completed := by
  have hrun : ∃ c, [.call (.openStream 0 100) rfl,
      .call (.writeChain 0 ⟨some (.wrapBuffer (List.replicate 10 0)), by decide⟩ true) rfl,
      .call (.packet [⟨0, [], some 10⟩]) rfl,
      .outcomes [.lost ⟨0, 0, 10, true, false, 0⟩ false],
      .outcomes [.ackedLate ⟨0, 0, 10, true, false, 0⟩]].foldlM SendingConn.completionStep
        (.new .client 1000 100) = .ok c ∧ 0 ∈ c.streams ∧ (c.stream 0).Finished :=
    ⟨_, rfl, by decide, rfl, rfl⟩
  obtain ⟨c, hc, hlive, hfinished⟩ := hrun
  exact ⟨c, hc, fun hcompleted => hcompleted.unfinished 0 hlive hfinished⟩

end MasqueQuic
