/-
The callbacks of the application that wait for flow control.

A callback for a stream is kept under the stream's id until the stream can be written to.
`handleStreamFlowControlUpdatedCallbacks` and `handleConnWritable` go through the streams and call
the application, which may call the transport from within; any such call may remove streams. So
both loops are taken apart: `Visit` says where they are while the application is running, the
calls of the application are events like any other, and `next` is the loop going on. What the
network does cannot come in between.

`held` are the streams that a read, peek or byte event callback keeps from being removed. Closing
the connection, which ends both loops, is left out, and so are the callbacks themselves: only the
ids matter here.
-/

import Mathlib.Data.Finset.Max
import MasqueQuic.Quic.SendAccounting

namespace MasqueQuic

/-- An iterator of `pendingWriteCallbacks_`. Erasing the entry that it points to leaves it
dangling. -/
inductive PendingIterator where
  | at (id : StreamId)
  | end
  | dangling
  deriving DecidableEq

inductive Visit where
  | idle
  /-- The ids that `handleStreamFlowControlUpdatedCallbacks` still has to come to. -/
  | flowControlUpdated (rest : List StreamId)
  /-- `onFlowControlUpdate` is running for a stream. -/
  | onFlowControlUpdate (id : StreamId) (rest : List StreamId)
  /-- `onConnectionWriteReady` is running. -/
  | onConnectionWriteReady
  /-- `handleConnWritable` comes to this entry next. -/
  | connWritable (writeCallbackIt : PendingIterator)
  deriving DecidableEq

inductive CallbackFault where
  | send (fault : SendFault)
  | visited               -- `CHECK_NOTNULL` in `handleStreamFlowControlUpdatedCallbacks`
  | pending               -- `CHECK_NOTNULL` in `handleConnWritable`
  | danglingIterator

/-- `runPendingWrite` and `runPendingConnWrite` are what the two notify calls leave to the event
base. `order` is the order in which the updated streams come out of their set. -/
inductive CallbackEvent where
  | send (e : SendingEvent)
  | hold (id : StreamId)
  | release (id : StreamId)
  | notifyPendingWriteOnStream (id : StreamId)
  | runPendingWrite (id : StreamId)
  | notifyPendingWriteOnConnection
  | runPendingConnWrite
  | unregisterStreamWriteCallback (id : StreamId)
  | checkForClosedStream
  | handleStreamFlowControlUpdatedCallbacks (order : List StreamId)
  | handleConnWritable
  | next

/-- The events that are calls of the application. -/
def SendingEvent.isCall : SendingEvent → Bool
  | .openStream .. => true
  | .writeChain .. => true
  | .writeBufMeta .. => true
  | .setDSRSender .. => true
  | .resetStream .. => true
  | .getStreamFlowControl .. => true
  | .getMaxWritableOnStream .. => true
  | .getConnectionFlowControl => true
  | _ => false

structure CallbackTransport where
  conn : SendingConn
  held : Finset StreamId
  pendingWriteCallbacks : Finset StreamId
  connWriteCallback : Bool
  visit : Visit

namespace CallbackTransport

def new (nodeType : QuicNodeType) (totalBufferSpaceAvailable peerAdvertisedMaxOffset : Nat) :
    CallbackTransport :=
  ⟨.new nodeType totalBufferSpaceAvailable peerAdvertisedMaxOffset, ∅, ∅, false, .idle⟩

def liftSend {α : Type} (x : Except SendFault α) : Except CallbackFault α := x.mapError .send

/-! ### The map of callbacks -/

def erasePending (t : CallbackTransport) (id : StreamId) : CallbackTransport :=
  { t with
    pendingWriteCallbacks := t.pendingWriteCallbacks.erase id
    visit := if t.visit = .connWritable (.at id) then .connWritable .dangling else t.visit }

/-- The entry with the least id among those given. -/
def first (ids : Finset StreamId) : PendingIterator :=
  if h : ids.Nonempty then .at (ids.min' h) else .end

/-- `++writeCallbackIt`. -/
def successor (t : CallbackTransport) (id : StreamId) : PendingIterator :=
  first (t.pendingWriteCallbacks.filter (id < ·))

/-! ### Removing streams -/

/-- The streams that `checkForClosedStream` removes. -/
def closing (t : CallbackTransport) : Finset StreamId := t.conn.closedStreams \ t.held

/-- All of them at once: that one is removed says nothing about another. -/
def checkForClosedStream (t : CallbackTransport) : CallbackTransport :=
  { t with conn := { t.conn with
      streams := t.conn.streams \ t.closing
      closedStreams := t.conn.closedStreams \ t.closing
      flowControlUpdated := t.conn.flowControlUpdated \ t.closing } }

/-- `checkForClosedStream` runs at the end in any case. -/
def resetStream (t : CallbackTransport) (id : StreamId) (errorCode : Nat) :
    Except CallbackFault CallbackTransport := do
  if isReceivingStream t.conn.nodeType id then return t
  let conn ← liftSend (t.conn.resetStream id errorCode)
  let t := { t with conn }
  return (if id ∈ t.conn.streams then t.erasePending id else t).checkForClosedStream

/-! ### Callbacks -/

def notifyPendingWriteOnStream (t : CallbackTransport) (id : StreamId) : CallbackTransport :=
  if isReceivingStream t.conn.nodeType id ∨ id ∉ t.conn.streams ∨
      !(t.conn.stream id).writable then t
  else { t with pendingWriteCallbacks := insert id t.pendingWriteCallbacks }

/-- The stream's callback is called if the stream can be written to. -/
def callIfWritable (t : CallbackTransport) (id : StreamId) : CallbackTransport :=
  let (maxCanWrite, f) := t.conn.maxWritableOnStream id
  let t := { t with conn := t.conn.readFlowControl f }
  if maxCanWrite ≠ 0 then t.erasePending id else t

def runPendingWrite (t : CallbackTransport) (id : StreamId) : CallbackTransport :=
  if id ∉ t.pendingWriteCallbacks then t
  else if id ∉ t.conn.streams ∨ !(t.conn.stream id).writable then t.erasePending id
  else t.callIfWritable id

def runPendingConnWrite (t : CallbackTransport) : CallbackTransport :=
  if !t.connWriteCallback then t
  else
    let (connWritableBytes, f) := t.conn.maxWritableOnConn
    let t := { t with conn := t.conn.readFlowControl f }
    if connWritableBytes ≠ 0 then { t with connWriteCallback := false } else t

def unregisterStreamWriteCallback (t : CallbackTransport) (id : StreamId) : CallbackTransport :=
  if id ∉ t.conn.streams ∨ id ∉ t.pendingWriteCallbacks then t else t.erasePending id

/-! ### The loops -/

def handleStreamFlowControlUpdatedCallbacks (t : CallbackTransport) (order : List StreamId) :
    CallbackTransport :=
  if t.visit = .idle ∧ order.Nodup ∧ order.toFinset = t.conn.flowControlUpdated then
    { t with
      conn := { t.conn with flowControlUpdated := ∅ }
      visit := .flowControlUpdated order }
  else t

def handleConnWritable (t : CallbackTransport) : CallbackTransport :=
  if t.visit = .idle then
    let (maxConnWrite, f) := t.conn.maxWritableOnConn
    let t := { t with conn := t.conn.readFlowControl f }
    if maxConnWrite = 0 then t
    else if t.connWriteCallback then
      { t with connWriteCallback := false, visit := .onConnectionWriteReady }
    else { t with visit := .connWritable (first t.pendingWriteCallbacks) }
  else t

/-- The loop goes on: the callback that is running returns, or there was none. -/
def next (t : CallbackTransport) : Except CallbackFault CallbackTransport :=
  match t.visit with
  | .idle => .ok t
  | .flowControlUpdated [] => .ok { t with visit := .idle }
  | .flowControlUpdated (id :: rest) =>
      if id ∉ t.conn.streams then .error .visited
      else if !(t.conn.stream id).writable then
        .ok (erasePending { t with visit := .flowControlUpdated rest } id)
      else .ok { t with visit := .onFlowControlUpdate id rest }
  | .onFlowControlUpdate id rest =>
      if id ∉ t.conn.streams then .error .visited
      else .ok (callIfWritable { t with visit := .flowControlUpdated rest } id)
  | .onConnectionWriteReady =>
      .ok { t with visit := .connWritable (first t.pendingWriteCallbacks) }
  | .connWritable .end => .ok { t with visit := .idle }
  | .connWritable .dangling => .error .danglingIterator
  | .connWritable (.at id) =>
      let t' := { t with visit := .connWritable (t.successor id) }
      if id ∉ t.conn.streams then .error .pending
      else if !(t.conn.stream id).writable then .ok (t'.erasePending id)
      else .ok (t'.callIfWritable id)

/-- Only the calls of the application come between the steps of a loop. Streams are removed by
`checkForClosedStream`. -/
def send (t : CallbackTransport) : SendingEvent → Except CallbackFault CallbackTransport
  | .resetStream id errorCode => t.resetStream id errorCode
  | .removeClosedStream _ => .ok t
  | e =>
      if e.isCall ∨ t.visit = .idle then ({ t with conn := · }) <$> liftSend (t.conn.step e)
      else .ok t

def step (t : CallbackTransport) : CallbackEvent → Except CallbackFault CallbackTransport
  | .send e => t.send e
  | .hold id => .ok { t with held := insert id t.held }
  | .release id => .ok { t with held := t.held.erase id }
  | .notifyPendingWriteOnStream id => .ok (t.notifyPendingWriteOnStream id)
  | .runPendingWrite id => .ok (if t.visit = .idle then t.runPendingWrite id else t)
  | .notifyPendingWriteOnConnection => .ok { t with connWriteCallback := true }
  | .runPendingConnWrite => .ok (if t.visit = .idle then t.runPendingConnWrite else t)
  | .unregisterStreamWriteCallback id => .ok (t.unregisterStreamWriteCallback id)
  | .checkForClosedStream => .ok t.checkForClosedStream
  | .handleStreamFlowControlUpdatedCallbacks order =>
      .ok (t.handleStreamFlowControlUpdatedCallbacks order)
  | .handleConnWritable => .ok t.handleConnWritable
  | .next => t.next

end CallbackTransport

/-! ### Streams that stay -/

namespace SendingConn

variable {c c' c'' : SendingConn} {id : StreamId}

/-- No stream is removed, and only existing ones are marked. -/
structure Stays (c c' : SendingConn) : Prop where
  streams : c.streams ⊆ c'.streams
  updated : c'.flowControlUpdated ⊆ c.flowControlUpdated ∪ c'.streams

theorem Stays.of_eq (hstreams : c'.streams = c.streams)
    (hupdated : c'.flowControlUpdated = c.flowControlUpdated) : Stays c c' := by
  refine ⟨?_, ?_⟩
  · rw [hstreams]
  · rw [hupdated]
    exact Finset.subset_union_left

theorem Stays.refl (c : SendingConn) : Stays c c := .of_eq rfl rfl

theorem Stays.trans (h : Stays c c') (h' : Stays c' c'') : Stays c c'' := by
  refine ⟨h.streams.trans h'.streams, fun x hx => ?_⟩
  rcases Finset.mem_union.mp (h'.updated hx) with hx | hx
  · rcases Finset.mem_union.mp (h.updated hx) with hx | hx
    · exact Finset.mem_union_left _ hx
    · exact Finset.mem_union_right _ (h'.streams hx)
  · exact Finset.mem_union_right _ hx

theorem readFlowControl_stays (c : SendingConn) (f : SendFlowControl) :
    Stays c (c.readFlowControl f) :=
  .of_eq rfl rfl

theorem onStream_sets (id : StreamId)
    (act : ConnStream → SendFlowControl → Except SendFault (ConnStream × SendFlowControl)) :
    Ends (fun _ => True) (c.onStream id act) (fun c' => c'.streams = c.streams ∧
      c'.closedStreams = c.closedStreams ∧ c'.flowControlUpdated = c.flowControlUpdated) := by
  unfold SendingConn.onStream
  refine Ends.ite (fun _ => ?_) fun _ => .ok ⟨rfl, rfl, rfl⟩
  refine Ends.bind Ends.any ?_
  rintro ⟨s, f⟩ -
  exact .ok ⟨rfl, rfl, rfl⟩

theorem onStream_stays (id : StreamId)
    (act : ConnStream → SendFlowControl → Except SendFault (ConnStream × SendFlowControl)) :
    Ends (fun _ => True) (c.onStream id act) (Stays c) :=
  (onStream_sets id act).imp fun _ h => .of_eq h.1 h.2.2

theorem onSendHalf_stays (id : StreamId)
    (act : SendStream → SendFlowControl → Except SendFault (SendStream × SendFlowControl)) :
    Ends (fun _ => True) (c.onSendHalf id act) (Stays c) :=
  onStream_stays id _

theorem onTransition_stays (id : StreamId) (act : ConnStream → Except StreamFault ConnStream) :
    Ends (fun _ => True) (c.onTransition id act) (Stays c) := by
  unfold SendingConn.onTransition
  refine Ends.bind (onStream_stays id _) fun c' hc' => ?_
  refine .ok ?_
  split
  · exact ⟨hc'.streams, hc'.updated⟩
  · exact hc'

theorem updateConnection_stays (frame : WriteStreamFrame) :
    Ends (fun _ => True) (c.updateConnection frame) (Stays c) := by
  unfold SendingConn.updateConnection
  exact Ends.ite (fun _ => onStream_stays _ _) fun _ => .error trivial

theorem sendPacket_stays (rooms : List StreamRoom) :
    Ends (fun _ => True) (c.sendPacket rooms) (Stays c) := by
  unfold SendingConn.sendPacket
  refine Ends.bind Ends.any ?_
  rintro ⟨frames, left, f⟩ -
  refine Ends.foldlM (I := fun c' _ => Stays c c')
    (fun c' frame _ hc' => (updateConnection_stays frame).imp fun c'' h => hc'.trans h) ?_
  exact readFlowControl_stays c f

theorem sendDSRPacket_stays (id : StreamId) (len : Nat) :
    Ends (fun _ => True) (c.sendDSRPacket id len) (Stays c) := by
  have hread := readFlowControl_stays c
  unfold SendingConn.sendDSRPacket
  dsimp only
  refine Ends.ite (fun _ => .ok (.refl c)) fun _ => Ends.ite (fun _ => .ok (hread _)) fun _ => ?_
  split
  · exact .ok (hread _)
  · exact (updateConnection_stays _).imp fun c' h => (hread _).trans h

theorem sendDSRLossPacket_stays (id : StreamId) (len : Nat) :
    Ends (fun _ => True) (c.sendDSRLossPacket id len) (Stays c) := by
  unfold SendingConn.sendDSRLossPacket
  dsimp only
  refine Ends.ite (fun _ => .ok (.refl c)) fun _ => ?_
  split
  · exact .ok (.refl c)
  · exact updateConnection_stays _

theorem handleStreamWindowUpdate_stays (id : StreamId) (maximumData : Nat) :
    Ends (fun _ => True) (c.handleStreamWindowUpdate id maximumData) (Stays c) := by
  unfold SendingConn.handleStreamWindowUpdate
  refine Ends.bind (onStream_stays id _) fun c' hc' => ?_
  refine .ok ?_
  split
  · next h =>
      refine ⟨hc'.streams, fun x hx => ?_⟩
      rcases Finset.mem_insert.mp hx with rfl | hx
      · exact Finset.mem_union_right _ (hc'.streams h.1)
      · exact hc'.updated hx
  · exact hc'

theorem openStream_stays (c : SendingConn) (id : StreamId) (limit : Nat) :
    Stays c (c.openStream id limit) := by
  unfold SendingConn.openStream
  split
  · exact .refl c
  · exact ⟨Finset.subset_insert _ _, Finset.subset_union_left⟩

theorem step_stays (e : SendingEvent) (he : ∀ id, e ≠ .removeClosedStream id) :
    Ends (fun _ => True) (c.step e) (Stays c) := by
  cases e with
  | openStream id limit => exact .ok (openStream_stays c id limit)
  | writeChain id data eof => exact Ends.ite (fun _ => .ok (.refl c)) fun _ => onStream_stays id _
  | writeBufMeta id length eof =>
    exact Ends.ite (fun _ => .ok (.refl c)) fun _ => onStream_stays id _
  | setDSRSender id sender =>
    exact Ends.ite (fun _ => .ok (.refl c)) fun _ => onStream_stays id _
  | resetStream id errorCode =>
    exact Ends.ite (fun _ => .ok (.refl c)) fun _ => onStream_stays id _
  | getStreamFlowControl id =>
    rw [SendingConn.step, getStreamFlowControl_eq]
    refine .ok ?_
    split
    · exact readFlowControl_stays c _
    · exact .refl c
  | getMaxWritableOnStream id =>
    rw [SendingConn.step, SendingConn.getMaxWritableOnStream]
    refine .ok ?_
    generalize (c.maxWritableOnStream id).2 = f
    split
    · exact readFlowControl_stays c f
    · exact .refl c
  | getConnectionFlowControl =>
    rw [SendingConn.step]
    exact .ok (readFlowControl_stays c _)
  | maxData maximumData => exact .ok (.of_eq rfl rfl)
  | maxStreamData id maximumData =>
    exact Ends.ite (fun _ => .error trivial) fun _ =>
      handleStreamWindowUpdate_stays id maximumData
  | stopSending id => exact onSendHalf_stays id _
  | frameAcked frame => exact onTransition_stays _ _
  | frameAckedLate frame => exact onSendHalf_stays _ _
  | rstAcked id => exact onTransition_stays id _
  | frameLost frame disabled => exact onSendHalf_stays _ _
  | receiveEnded id => exact onTransition_stays id _
  | packet rooms => exact sendPacket_stays rooms
  | dsrPacket id len => exact sendDSRPacket_stays id len
  | dsrLossPacket id len => exact sendDSRLossPacket_stays id len
  | removeClosedStream id => exact absurd rfl (he id)

end SendingConn

namespace CallbackTransport

variable {t t' : CallbackTransport} {id : StreamId} {e : CallbackEvent}

/-! ### Steps -/

/-- The streams that a loop over updated streams still has to come to, with the one for which the
application is running. -/
def toVisit (t : CallbackTransport) : List StreamId :=
  match t.visit with
  | .flowControlUpdated rest => rest
  | .onFlowControlUpdate id rest => id :: rest
  | _ => []

/-- The streams that are removed by an event. -/
def removes (t : CallbackTransport) : CallbackEvent → Finset StreamId
  | .checkForClosedStream => t.closing
  | .send (.resetStream id _) => if isReceivingStream t.conn.nodeType id then ∅ else t.closing
  | _ => ∅

/-- The callbacks that are left when streams are removed. -/
def leaves (t : CallbackTransport) : CallbackEvent → Finset StreamId
  | .send (.resetStream id _) =>
      if isReceivingStream t.conn.nodeType id then t.pendingWriteCallbacks
      else t.pendingWriteCallbacks.erase id
  | _ => t.pendingWriteCallbacks

/-- What is kept by every event. -/
structure Kept (t : CallbackTransport) : Prop where
  updated : t.conn.flowControlUpdated ⊆ t.conn.streams
  iterator : ∀ id, t.visit = .connWritable (.at id) → id ∈ t.pendingWriteCallbacks

/-- Nothing is removed but callbacks. -/
structure Quiet (t t' : CallbackTransport) : Prop where
  streams : t.conn.streams ⊆ t'.conn.streams
  pending : t'.pendingWriteCallbacks ⊆ t.pendingWriteCallbacks ∪ t'.conn.streams
  toVisit : ∀ x ∈ t'.toVisit, x ∈ t.toVisit ∨ x ∈ t'.conn.streams

/-- Streams are removed. -/
structure Removes (t : CallbackTransport) (e : CallbackEvent) (t' : CallbackTransport) : Prop where
  streams : t'.conn.streams = t.conn.streams \ t.removes e
  toVisit : t'.toVisit = t.toVisit
  pending : t.pendingWriteCallbacks ⊆ t.conn.streams → t'.pendingWriteCallbacks = t.leaves e

theorem Quiet.refl (t : CallbackTransport) : Quiet t t :=
  ⟨Finset.Subset.refl _, Finset.subset_union_left, fun _ => .inl⟩

theorem toVisit_erasePending (t : CallbackTransport) (id : StreamId) :
    (t.erasePending id).toVisit = t.toVisit := by
  unfold toVisit erasePending
  dsimp only
  split_ifs with h
  · rw [h]
  · rfl

theorem Kept.erasePending (h : t.Kept) (id : StreamId) :
    (t.erasePending id).Kept ∧ Quiet t (t.erasePending id) := by
  refine ⟨⟨h.updated, fun x hx => ?_⟩, Finset.Subset.refl _, ?_, ?_⟩
  · have hvisit : (if t.visit = .connWritable (.at id) then .connWritable .dangling
        else t.visit) = .connWritable (.at x) := hx
    split at hvisit
    · cases hvisit
    · next hat =>
        have hne : x ≠ id := by
          rintro rfl
          exact hat hvisit
        exact Finset.mem_erase.mpr ⟨hne, h.iterator x hvisit⟩
  · exact (Finset.erase_subset _ _).trans Finset.subset_union_left
  · rw [toVisit_erasePending]
    exact fun x => .inl

theorem Kept.same (h : t.Kept) (hconn : t'.conn = t.conn)
    (hpending : t'.pendingWriteCallbacks = t.pendingWriteCallbacks) (hvisit : t'.visit = t.visit) :
    t'.Kept ∧ Quiet t t' := by
  refine ⟨⟨?_, ?_⟩, ?_, ?_, fun x hx => .inl ?_⟩
  · rw [hconn]
    exact h.updated
  · rw [hvisit, hpending]
    exact h.iterator
  · rw [hconn]
  · rw [hpending]
    exact Finset.subset_union_left
  · unfold toVisit at hx ⊢
    rwa [hvisit] at hx

theorem Kept.readFlowControl (h : t.Kept) (f : SendFlowControl) :
    Kept { t with conn := t.conn.readFlowControl f } ∧
      Quiet t { t with conn := t.conn.readFlowControl f } :=
  ⟨⟨h.updated, h.iterator⟩, Finset.Subset.refl _, Finset.subset_union_left, fun _ => .inl⟩

theorem Quiet.trans {t'' : CallbackTransport} (h : Quiet t t') (h' : Quiet t' t'') :
    Quiet t t'' := by
  refine ⟨h.streams.trans h'.streams, fun x hx => ?_, fun x hx => ?_⟩
  · rcases Finset.mem_union.mp (h'.pending hx) with hx | hx
    · rcases Finset.mem_union.mp (h.pending hx) with hx | hx
      · exact Finset.mem_union_left _ hx
      · exact Finset.mem_union_right _ (h'.streams hx)
    · exact Finset.mem_union_right _ hx
  · rcases h'.toVisit x hx with hx | hx
    · exact (h.toVisit x hx).imp_right fun hx => h'.streams hx
    · exact .inr hx

theorem Kept.callIfWritable (h : t.Kept) (id : StreamId) :
    (t.callIfWritable id).Kept ∧ Quiet t (t.callIfWritable id) := by
  unfold CallbackTransport.callIfWritable
  generalize t.conn.maxWritableOnStream id = r
  obtain ⟨maxCanWrite, f⟩ := r
  obtain ⟨hread, hquiet⟩ := h.readFlowControl f
  dsimp only
  split
  · obtain ⟨herased, hquiet'⟩ := hread.erasePending id
    exact ⟨herased, hquiet.trans hquiet'⟩
  · exact ⟨hread, hquiet⟩

/-- Only the place of the loop changes. -/
theorem Kept.withVisit (h : t.Kept) (visit : Visit)
    (hiterator : ∀ id, visit = .connWritable (.at id) → id ∈ t.pendingWriteCallbacks)
    (hvisit : ∀ x ∈ toVisit { t with visit }, x ∈ t.toVisit ∨ x ∈ t.conn.streams) :
    Kept { t with visit } ∧ Quiet t { t with visit } :=
  ⟨⟨h.updated, hiterator⟩, Finset.Subset.refl _, Finset.subset_union_left, hvisit⟩

theorem mem_of_first {ids : Finset StreamId} (h : first ids = .at id) : id ∈ ids := by
  unfold first at h
  split at h
  · next hne =>
      cases h
      exact ids.min'_mem hne
  · cases h

theorem mem_of_successor {x : StreamId} (h : t.successor x = .at id) :
    id ∈ t.pendingWriteCallbacks ∧ x < id :=
  Finset.mem_filter.mp (mem_of_first h)

theorem Kept.next (h : t.Kept) (hstep : t.next = .ok t') : t'.Kept ∧ Quiet t t' := by
  unfold CallbackTransport.next at hstep
  cases hvisit : t.visit with
  | idle =>
    rw [hvisit] at hstep
    cases hstep
    exact ⟨h, .refl t⟩
  | flowControlUpdated rest =>
    rw [hvisit] at hstep
    have htail : ∀ {id rest' visit}, rest = id :: rest' →
        toVisit { t with visit } ⊆ id :: rest' →
        ∀ x ∈ toVisit { t with visit }, x ∈ t.toVisit ∨ x ∈ t.conn.streams := by
      intro id rest' visit hrest hsubset x hx
      refine .inl ?_
      unfold toVisit
      rw [hvisit, hrest]
      exact hsubset hx
    cases rest with
    | nil =>
      cases hstep
      exact h.withVisit _ (fun _ hat => by cases hat) fun x hx => absurd hx List.not_mem_nil
    | cons id rest =>
      dsimp only at hstep
      split at hstep
      · cases hstep
      split at hstep
      · cases hstep
        obtain ⟨hkept, hquiet⟩ := h.withVisit (.flowControlUpdated rest)
          (fun _ hat => by cases hat) (htail rfl (List.subset_cons_self id rest))
        obtain ⟨hkept', hquiet'⟩ := hkept.erasePending id
        exact ⟨hkept', hquiet.trans hquiet'⟩
      · cases hstep
        exact h.withVisit _ (fun _ hat => by cases hat) (htail rfl (List.Subset.refl _))
  | onFlowControlUpdate id rest =>
    rw [hvisit] at hstep
    dsimp only at hstep
    split at hstep
    · cases hstep
    · cases hstep
      have htail : ∀ x ∈ toVisit { t with visit := .flowControlUpdated rest },
          x ∈ t.toVisit ∨ x ∈ t.conn.streams := by
        intro x hx
        refine .inl ?_
        unfold toVisit
        rw [hvisit]
        exact List.mem_cons_of_mem id hx
      obtain ⟨hkept, hquiet⟩ := h.withVisit _ (fun _ hat => by cases hat) htail
      obtain ⟨hkept', hquiet'⟩ := hkept.callIfWritable id
      exact ⟨hkept', hquiet.trans hquiet'⟩
  | onConnectionWriteReady =>
    rw [hvisit] at hstep
    cases hstep
    refine h.withVisit _ (fun id hat => ?_) fun x hx => absurd hx List.not_mem_nil
    rw [Visit.connWritable.injEq] at hat
    exact mem_of_first hat
  | connWritable writeCallbackIt =>
    rw [hvisit] at hstep
    cases writeCallbackIt with
    | «end» =>
      cases hstep
      exact h.withVisit _ (fun _ hat => by cases hat) fun x hx => absurd hx List.not_mem_nil
    | dangling => cases hstep
    | «at» id =>
      dsimp only at hstep
      obtain ⟨hkept, hquiet⟩ := h.withVisit (.connWritable (t.successor id))
        (fun x hat => by
          rw [Visit.connWritable.injEq] at hat
          exact (mem_of_successor hat).1) fun x hx => absurd hx List.not_mem_nil
      split at hstep
      · cases hstep
      split at hstep
      · cases hstep
        obtain ⟨hkept', hquiet'⟩ := hkept.erasePending id
        exact ⟨hkept', hquiet.trans hquiet'⟩
      · cases hstep
        obtain ⟨hkept', hquiet'⟩ := hkept.callIfWritable id
        exact ⟨hkept', hquiet.trans hquiet'⟩

/-- An event of the connection. -/
theorem Kept.withConn (h : t.Kept) {conn : SendingConn} (hstays : t.conn.Stays conn) :
    Kept { t with conn } ∧ Quiet t { t with conn } := by
  refine ⟨⟨fun x hx => ?_, h.iterator⟩, hstays.streams, Finset.subset_union_left,
    fun _ => .inl⟩
  rcases Finset.mem_union.mp (hstays.updated hx) with hx | hx
  · exact hstays.streams (h.updated hx)
  · exact hx

theorem Kept.checkForClosedStream (h : t.Kept) : t.checkForClosedStream.Kept :=
  ⟨Finset.sdiff_subset_sdiff h.updated (Finset.Subset.refl _), h.iterator⟩

theorem of_liftSend {α : Type} {x : Except SendFault α} {a : α} (h : liftSend x = .ok a) :
    x = .ok a := by
  cases x with
  | error fault => cases h
  | ok b =>
    cases h
    rfl

theorem map_eq_ok {α β : Type} {f : α → β} {x : Except CallbackFault α} {b : β}
    (h : f <$> x = .ok b) : ∃ a, x = .ok a ∧ b = f a := by
  cases x with
  | error fault => cases h
  | ok a =>
    cases h
    exact ⟨a, rfl, rfl⟩

/-- A reset removes the callback of the stream, and the streams that are closed. -/
theorem Kept.resetStream (h : t.Kept) {errorCode : Nat}
    (hstep : t.resetStream id errorCode = .ok t') :
    t'.Kept ∧ (Quiet t t' ∧ t.removes (.send (.resetStream id errorCode)) = ∅ ∨
      Removes t (.send (.resetStream id errorCode)) t') := by
  unfold CallbackTransport.resetStream at hstep
  by_cases hreceiving : isReceivingStream t.conn.nodeType id = true
  · rw [if_pos hreceiving] at hstep
    cases hstep
    refine ⟨h, .inl ⟨.refl t, ?_⟩⟩
    unfold removes
    exact if_pos hreceiving
  · rw [if_neg hreceiving] at hstep
    obtain ⟨conn, hconn, hstep⟩ := except_bind_eq_ok.mp hstep
    obtain ⟨hstreams, hclosed, hupdated⟩ : conn.streams = t.conn.streams ∧
        conn.closedStreams = t.conn.closedStreams ∧
          conn.flowControlUpdated = t.conn.flowControlUpdated := by
      have hreset := of_liftSend hconn
      unfold SendingConn.resetStream at hreset
      rw [if_neg hreceiving] at hreset
      exact (SendingConn.onStream_sets id _).of_ok hreset
    obtain ⟨hkept, -⟩ := h.withConn (.of_eq hstreams hupdated)
    have hremoves : t.removes (.send (.resetStream id errorCode)) = t.closing :=
      if_neg hreceiving
    have hleaves : t.leaves (.send (.resetStream id errorCode)) =
        t.pendingWriteCallbacks.erase id := if_neg hreceiving
    have hclosing : conn.closedStreams \ t.held = t.closing := by
      rw [hclosed]
      rfl
    cases hstep
    by_cases hid : id ∈ conn.streams
    · rw [if_pos hid]
      refine ⟨(hkept.erasePending id).1.checkForClosedStream, .inr ⟨?_, ?_, fun _ => ?_⟩⟩
      · rw [hremoves, ← hclosing, ← hstreams]
        rfl
      · exact toVisit_erasePending { t with conn } id
      · rw [hleaves]
        rfl
    · rw [if_neg hid]
      refine ⟨hkept.checkForClosedStream, .inr ⟨?_, rfl, fun hnamed => ?_⟩⟩
      · rw [hremoves, ← hclosing, ← hstreams]
        rfl
      · rw [hleaves]
        have hnone : id ∉ t.pendingWriteCallbacks := by
          intro hmem
          rw [hstreams] at hid
          exact hid (hnamed hmem)
        exact (Finset.erase_eq_of_notMem hnone).symm

theorem Kept.send (h : t.Kept) {e : SendingEvent}
    (he : ∀ id errorCode, e ≠ .resetStream id errorCode) (hstep : t.send e = .ok t') :
    t'.Kept ∧ Quiet t t' := by
  by_cases hremove : ∃ id, e = .removeClosedStream id
  · obtain ⟨id, rfl⟩ := hremove
    cases hstep
    exact ⟨h, .refl t⟩
  · have hsend : t.send e = if e.isCall ∨ t.visit = .idle then
        ({ t with conn := · }) <$> liftSend (t.conn.step e) else .ok t := by
      cases e with
      | resetStream id errorCode => exact absurd rfl (he id errorCode)
      | removeClosedStream id => exact absurd ⟨id, rfl⟩ hremove
      | _ => rfl
    rw [hsend] at hstep
    split at hstep
    · obtain ⟨conn, hconn, rfl⟩ := map_eq_ok hstep
      have hstays := SendingConn.step_stays (c := t.conn) e fun id hid => hremove ⟨id, hid⟩
      exact h.withConn (hstays.of_ok (of_liftSend hconn))
    · cases hstep
      exact ⟨h, .refl t⟩

theorem Kept.notifyPendingWriteOnStream (h : t.Kept) (id : StreamId) :
    (t.notifyPendingWriteOnStream id).Kept ∧ Quiet t (t.notifyPendingWriteOnStream id) := by
  unfold CallbackTransport.notifyPendingWriteOnStream
  split
  · exact ⟨h, .refl t⟩
  · next hnotify =>
      have hid : id ∈ t.conn.streams := by
        by_contra hgone
        exact hnotify (.inr (.inl hgone))
      refine ⟨⟨h.updated, fun x hx => Finset.mem_insert_of_mem (h.iterator x hx)⟩,
        Finset.Subset.refl _, fun x hx => ?_, fun _ => .inl⟩
      rcases Finset.mem_insert.mp hx with rfl | hx
      · exact Finset.mem_union_right _ hid
      · exact Finset.mem_union_left _ hx

theorem Kept.runPendingWrite (h : t.Kept) (id : StreamId) :
    (t.runPendingWrite id).Kept ∧ Quiet t (t.runPendingWrite id) := by
  unfold CallbackTransport.runPendingWrite
  split
  · exact ⟨h, .refl t⟩
  split
  · exact h.erasePending id
  · exact h.callIfWritable id

theorem Kept.runPendingConnWrite (h : t.Kept) :
    t.runPendingConnWrite.Kept ∧ Quiet t t.runPendingConnWrite := by
  unfold CallbackTransport.runPendingConnWrite
  generalize t.conn.maxWritableOnConn = r
  obtain ⟨connWritableBytes, f⟩ := r
  obtain ⟨hread, hquiet⟩ := h.readFlowControl f
  dsimp only
  split
  · exact ⟨h, .refl t⟩
  split
  · exact ⟨⟨hread.updated, hread.iterator⟩, hquiet.streams, hquiet.pending, hquiet.toVisit⟩
  · exact ⟨hread, hquiet⟩

/-- The streams that are to be visited were marked. -/
theorem Kept.handleStreamFlowControlUpdatedCallbacks (h : t.Kept) (order : List StreamId) :
    (t.handleStreamFlowControlUpdatedCallbacks order).Kept ∧
      Quiet t (t.handleStreamFlowControlUpdatedCallbacks order) := by
  unfold CallbackTransport.handleStreamFlowControlUpdatedCallbacks
  split
  · next hstart =>
      obtain ⟨-, -, horder⟩ := hstart
      refine ⟨⟨Finset.empty_subset _, fun _ hat => by cases hat⟩, Finset.Subset.refl _,
        Finset.subset_union_left, fun x hx => .inr (h.updated ?_)⟩
      rw [← horder]
      exact List.mem_toFinset.mpr hx
  · exact ⟨h, .refl t⟩

/-- The first stream to be visited has a callback. -/
theorem Kept.handleConnWritable (h : t.Kept) :
    t.handleConnWritable.Kept ∧ Quiet t t.handleConnWritable := by
  unfold CallbackTransport.handleConnWritable
  split
  · generalize t.conn.maxWritableOnConn = r
    obtain ⟨maxConnWrite, f⟩ := r
    obtain ⟨hread, hquiet⟩ := h.readFlowControl f
    dsimp only
    split
    · exact ⟨hread, hquiet⟩
    split
    · exact ⟨⟨hread.updated, fun _ hat => by cases hat⟩, hquiet.streams, hquiet.pending,
        fun x hx => absurd hx List.not_mem_nil⟩
    · refine ⟨⟨hread.updated, fun id hat => ?_⟩, hquiet.streams, hquiet.pending,
        fun x hx => absurd hx List.not_mem_nil⟩
      rw [Visit.connWritable.injEq] at hat
      exact mem_of_first hat
  · exact ⟨h, .refl t⟩

theorem removes_send {e : SendingEvent} (he : ∀ id errorCode, e ≠ .resetStream id errorCode) :
    t.removes (.send e) = ∅ := by
  cases e with
  | resetStream id errorCode => exact absurd rfl (he id errorCode)
  | _ => rfl

/-- What an event does to the streams that somebody still asks for. -/
theorem Kept.step (h : t.Kept) (hstep : t.step e = .ok t') :
    t'.Kept ∧ (Quiet t t' ∧ t.removes e = ∅ ∨ Removes t e t') := by
  have hquiet : ∀ {u : CallbackTransport}, u.Kept ∧ Quiet t u → t.removes e = ∅ →
      u.Kept ∧ (Quiet t u ∧ t.removes e = ∅ ∨ Removes t e u) :=
    fun hu hnone => ⟨hu.1, .inl ⟨hu.2, hnone⟩⟩
  have hsame : t.Kept ∧ Quiet t t := ⟨h, .refl t⟩
  cases e with
  | send e =>
    by_cases hreset : ∃ id errorCode, e = .resetStream id errorCode
    · obtain ⟨id, errorCode, rfl⟩ := hreset
      exact h.resetStream hstep
    · have he : ∀ id errorCode, e ≠ .resetStream id errorCode :=
        fun id errorCode hsame => hreset ⟨id, errorCode, hsame⟩
      exact hquiet (h.send he hstep) (removes_send he)
  | hold id =>
    cases hstep
    exact hquiet (h.same rfl rfl rfl) rfl
  | release id =>
    cases hstep
    exact hquiet (h.same rfl rfl rfl) rfl
  | notifyPendingWriteOnStream id =>
    cases hstep
    exact hquiet (h.notifyPendingWriteOnStream id) rfl
  | runPendingWrite id =>
    cases hstep
    refine hquiet ?_ rfl
    split
    · exact h.runPendingWrite id
    · exact hsame
  | notifyPendingWriteOnConnection =>
    cases hstep
    exact hquiet (h.same rfl rfl rfl) rfl
  | runPendingConnWrite =>
    cases hstep
    refine hquiet ?_ rfl
    split
    · exact h.runPendingConnWrite
    · exact hsame
  | unregisterStreamWriteCallback id =>
    cases hstep
    refine hquiet ?_ rfl
    unfold CallbackTransport.unregisterStreamWriteCallback
    split
    · exact hsame
    · exact h.erasePending id
  | checkForClosedStream =>
    cases hstep
    exact ⟨h.checkForClosedStream, .inr ⟨rfl, rfl, fun _ => rfl⟩⟩
  | handleStreamFlowControlUpdatedCallbacks order =>
    cases hstep
    exact hquiet (h.handleStreamFlowControlUpdatedCallbacks order) rfl
  | handleConnWritable =>
    cases hstep
    exact hquiet h.handleConnWritable rfl
  | next => exact hquiet (h.next hstep) rfl

/-! ### Callbacks and streams -/

/-- Every callback that waits is one of a stream that exists, and `handleConnWritable` finds the
stream. -/
def PendingNamed (t : CallbackTransport) : Prop :=
  t.pendingWriteCallbacks ⊆ t.conn.streams ∧
    ∀ stop, t.next = .error stop → stop ≠ .pending

/-- No stream that is removed leaves a callback behind. An event with a fault is the last one. -/
def KeepsPending (t : CallbackTransport) (e : CallbackEvent) : Prop :=
  (∃ t', t.step e = .ok t') → Disjoint (t.removes e) (t.leaves e)

/-- No stream that is still to be visited has been removed, and the loop finds the next one. -/
def VisitNamed (t : CallbackTransport) : Prop :=
  (∀ id ∈ t.toVisit, id ∈ t.conn.streams) ∧
    ∀ stop, t.next = .error stop → stop ≠ .visited

/-- No stream is removed that is still to be visited. -/
def KeepsVisited (t : CallbackTransport) (e : CallbackEvent) : Prop :=
  (∃ t', t.step e = .ok t') → ∀ id ∈ t.toVisit, id ∉ t.removes e

/-- Where a loop stops at a fault. -/
theorem next_error {stop : CallbackFault} (hstop : t.next = .error stop) :
    stop = .visited ∧ (∃ id ∈ t.toVisit, id ∉ t.conn.streams) ∨
      stop = .pending ∧ (∃ id, t.visit = .connWritable (.at id) ∧ id ∉ t.conn.streams) ∨
        stop = .danglingIterator := by
  unfold CallbackTransport.next at hstop
  unfold toVisit
  cases hvisit : t.visit with
  | idle =>
    rw [hvisit] at hstop
    cases hstop
  | flowControlUpdated rest =>
    rw [hvisit] at hstop
    cases rest with
    | nil => cases hstop
    | cons id rest =>
      dsimp only at hstop
      split at hstop
      · next hgone =>
          cases hstop
          exact .inl ⟨rfl, id, List.mem_cons_self, hgone⟩
      split at hstop
      · cases hstop
      · cases hstop
  | onFlowControlUpdate id rest =>
    rw [hvisit] at hstop
    dsimp only at hstop
    split at hstop
    · next hgone =>
        cases hstop
        exact .inl ⟨rfl, id, List.mem_cons_self, hgone⟩
    · cases hstop
  | onConnectionWriteReady =>
    rw [hvisit] at hstop
    cases hstop
  | connWritable writeCallbackIt =>
    rw [hvisit] at hstop
    cases writeCallbackIt with
    | «end» => cases hstop
    | dangling =>
      cases hstop
      exact .inr (.inr rfl)
    | «at» id =>
      dsimp only at hstop
      split at hstop
      · next hgone =>
          cases hstop
          exact .inr (.inl ⟨rfl, id, rfl, hgone⟩)
      split at hstop
      · cases hstop
      · cases hstop

theorem Kept.pendingNamed (h : t.Kept) (hnamed : t.pendingWriteCallbacks ⊆ t.conn.streams) :
    t.PendingNamed := by
  refine ⟨hnamed, fun stop hstop => ?_⟩
  rintro rfl
  rcases next_error hstop with ⟨hne, -⟩ | ⟨-, id, hvisit, hgone⟩ | hne
  · cases hne
  · exact hgone (hnamed (h.iterator id hvisit))
  · cases hne

theorem visitNamed_of_streams (hnamed : ∀ id ∈ t.toVisit, id ∈ t.conn.streams) :
    t.VisitNamed := by
  refine ⟨hnamed, fun stop hstop => ?_⟩
  rintro rfl
  rcases next_error hstop with ⟨-, id, hid, hgone⟩ | ⟨hne, -⟩ | hne
  · exact hgone (hnamed id hid)
  · cases hne
  · cases hne

theorem leaves_subset (t : CallbackTransport) (e : CallbackEvent) :
    t.leaves e ⊆ t.pendingWriteCallbacks := by
  unfold leaves
  split
  · split
    · exact Finset.Subset.refl _
    · exact Finset.erase_subset _ _
  · exact Finset.Subset.refl _

theorem new_kept (nodeType : QuicNodeType) (space limit : Nat) : (new nodeType space limit).Kept :=
  ⟨Finset.empty_subset _, fun _ hat => by cases hat⟩

end CallbackTransport

/-- Every id in `pendingWriteCallbacks_` names an existing stream, in all states of a run, exactly
if no stream is removed that leaves a callback behind. -/
theorem pendingCallbacks_iff (nodeType : QuicNodeType) (totalBufferSpaceAvailable : Nat)
    (peerAdvertisedMaxOffset : Fin (2 ^ 62)) (events : List CallbackEvent) :
    (∀ before t, before <+: events →
      before.foldlM CallbackTransport.step
        (.new nodeType totalBufferSpaceAvailable peerAdvertisedMaxOffset) = .ok t →
          t.PendingNamed) ↔
      Meets CallbackTransport.step CallbackTransport.KeepsPending
        (.new nodeType totalBufferSpaceAvailable peerAdvertisedMaxOffset) events := by
  have hstart :=
    CallbackTransport.new_kept nodeType totalBufferSpaceAvailable peerAdvertisedMaxOffset
  refine @never_bad_iff_meets _ _ _ CallbackTransport.step CallbackTransport.KeepsPending
    CallbackTransport.Kept CallbackTransport.PendingNamed ?_ ?_ ?_ _ _ hstart
    (hstart.pendingNamed (Finset.empty_subset _))
  · exact fun t e t' h hstep => (h.step hstep).1
  · intro t e t' h hgood hkeeps hstep
    obtain ⟨hkept, hcase⟩ := h.step hstep
    refine hkept.pendingNamed ?_
    rcases hcase with ⟨hquiet, -⟩ | hremoves
    · intro x hx
      rcases Finset.mem_union.mp (hquiet.pending hx) with hx | hx
      · exact hquiet.streams (hgood.1 hx)
      · exact hx
    · rw [hremoves.pending hgood.1, hremoves.streams]
      intro x hx
      refine Finset.mem_sdiff.mpr ⟨hgood.1 (t.leaves_subset e hx), ?_⟩
      exact Finset.disjoint_right.mp (hkeeps ⟨t', hstep⟩) hx
  · intro t e h hgood hleft
    unfold CallbackTransport.KeepsPending at hleft
    push Not at hleft
    obtain ⟨⟨t', hstep⟩, hmeet⟩ := hleft
    obtain ⟨x, hx, hleaves⟩ := Finset.not_disjoint_iff.mp hmeet
    refine ⟨t', hstep, fun hnamed => ?_⟩
    rcases (h.step hstep).2 with ⟨-, hnone⟩ | hremoves
    · rw [hnone] at hx
      exact absurd hx (Finset.notMem_empty x)
    · rw [← hremoves.pending hgood.1] at hleaves
      have hlive := hnamed.1 hleaves
      rw [hremoves.streams] at hlive
      exact (Finset.mem_sdiff.mp hlive).2 hx

/-- The connection's credit is used up, so that the callback of the stream waits. The FIN is written
and everything acknowledged, and the stream is removed with its callback still there. -/
theorem pendingCallbacks_removed :
    ∃ t, [.send (.openStream 0 100),
        .send (.writeChain 0 ⟨some (.wrapBuffer (List.replicate 10 0)), by decide⟩ false),
        .notifyPendingWriteOnStream 0, .send (.writeChain 0 ⟨none, by decide⟩ true),
        .send (.packet [⟨0, [], some 10⟩]), .send (.frameAcked ⟨0, 0, 10, true, false, 0⟩),
        .send (.receiveEnded 0), .handleConnWritable, .checkForClosedStream, .send (.maxData 100),
        .handleConnWritable].foldlM CallbackTransport.step (.new .client 1000 10) = .ok t ∧
      t.next = .error .pending ∧ ¬ t.PendingNamed :=
  ⟨_, rfl, rfl, fun hnamed => hnamed.2 _ rfl rfl⟩

/-- No stream that `handleStreamFlowControlUpdatedCallbacks` still has to come to is removed, in all
states of a run, exactly if no call of the application removes one. -/
theorem visitedStreams_iff (nodeType : QuicNodeType) (totalBufferSpaceAvailable : Nat)
    (peerAdvertisedMaxOffset : Fin (2 ^ 62)) (events : List CallbackEvent) :
    (∀ before t, before <+: events →
      before.foldlM CallbackTransport.step
        (.new nodeType totalBufferSpaceAvailable peerAdvertisedMaxOffset) = .ok t →
          t.VisitNamed) ↔
      Meets CallbackTransport.step CallbackTransport.KeepsVisited
        (.new nodeType totalBufferSpaceAvailable peerAdvertisedMaxOffset) events := by
  have hstart :=
    CallbackTransport.new_kept nodeType totalBufferSpaceAvailable peerAdvertisedMaxOffset
  refine @never_bad_iff_meets _ _ _ CallbackTransport.step CallbackTransport.KeepsVisited
    CallbackTransport.Kept CallbackTransport.VisitNamed ?_ ?_ ?_ _ _ hstart
    (CallbackTransport.visitNamed_of_streams fun id hid => absurd hid List.not_mem_nil)
  · exact fun t e t' h hstep => (h.step hstep).1
  · intro t e t' h hgood hkeeps hstep
    refine CallbackTransport.visitNamed_of_streams fun id hid => ?_
    rcases (h.step hstep).2 with ⟨hquiet, -⟩ | hremoves
    · rcases hquiet.toVisit id hid with hbefore | hnew
      · exact hquiet.streams (hgood.1 id hbefore)
      · exact hnew
    · rw [hremoves.toVisit] at hid
      rw [hremoves.streams]
      exact Finset.mem_sdiff.mpr ⟨hgood.1 id hid, hkeeps ⟨t', hstep⟩ id hid⟩
  · intro t e h hgood hleft
    unfold CallbackTransport.KeepsVisited at hleft
    push Not at hleft
    obtain ⟨⟨t', hstep⟩, x, hx, hremoved⟩ := hleft
    refine ⟨t', hstep, fun hnamed => ?_⟩
    rcases (h.step hstep).2 with ⟨-, hnone⟩ | hremoves
    · rw [hnone] at hremoved
      exact absurd hremoved (Finset.notMem_empty x)
    · rw [← hremoves.toVisit] at hx
      have hlive := hnamed.1 x hx
      rw [hremoves.streams] at hlive
      exact (Finset.mem_sdiff.mp hlive).2 hremoved

theorem CallbackTransport.visitNamed_fails {run : Except CallbackFault CallbackTransport}
    {id : StreamId} {rest : List StreamId}
    (hmissing : run.toOption.any
      fun t => t.visit = .flowControlUpdated (id :: rest) ∧ id ∉ t.conn.streams) :
    ∃ t, run = .ok t ∧ t.next = .error .visited ∧ ¬ t.VisitNamed := by
  cases run with
  | error stop => cases hmissing
  | ok t =>
    obtain ⟨hvisit, hgone⟩ := of_decide_eq_true hmissing
    have hnext : t.next = .error .visited := by
      simp only [CallbackTransport.next, hvisit, hgone, not_false_eq_true, if_true]
    exact ⟨t, rfl, hnext, fun hnamed => hnamed.2 _ hnext rfl⟩

/-- Both streams have a new limit, and stream 4 is closed but held by its read callback. While the
application is told of stream 0 it drops that callback, and resets stream 0. -/
theorem visitedStreams_removed :
    ∃ t, [.send (.openStream 0 100), .send (.openStream 4 100), .hold 4,
        .send (.writeChain 4 ⟨none, by decide⟩ true), .send (.packet [⟨4, [], some 0⟩]),
        .send (.frameAcked ⟨4, 0, 0, true, false, 0⟩), .send (.receiveEnded 4),
        .send (.maxStreamData 0 200), .send (.maxStreamData 4 200),
        .handleStreamFlowControlUpdatedCallbacks [0, 4], .next, .release 4,
        .send (.resetStream 0 0), .next].foldlM CallbackTransport.step
          (.new .client 1000 1000) = .ok t ∧ t.next = .error .visited ∧ ¬ t.VisitNamed := by
  apply @CallbackTransport.visitNamed_fails _ 4 []
  decide

end MasqueQuic
