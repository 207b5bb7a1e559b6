/-
The read side of `H3DatagramAsyncSocket` over whole runs.

A run interleaves datagrams on the default stream, `resumeRead`, `connectSuccess`,
`pauseRead`, the end of the message and errors. `ReadRun` adds the history that
the specification speaks about: the datagrams that arrived and were not dropped
for a full buffer, whether reading is paused, and whether a datagram was handed
over while it was. `HandlerInv` carries the induction: what was handed over and
what is buffered are, in this order, what was accepted.

`pauseRead` clears a pointer that nothing on this side looks at. So a run is as
specified exactly when no datagram arrives while reading is paused and the handler
still has its callback, and no error arrives while it has none.
-/

import MasqueQuic.Lib.Run
import MasqueQuic.Transport.H3DatagramAsyncSocket

namespace MasqueQuic

/-! ### Events -/

/-- What happens to the socket; datagrams, end and error are those of the default
stream. -/
inductive ReadEvent where
  | onDatagram (datagram : IOBuf)
  | resumeRead (cob : Option ReadCallback)
  | connectSuccess (ready : Bool) (canSendHeaders : List Bool)
  | pauseRead
  | onEOM
  | onError

/-- The buffer of the callback takes every datagram up to a length. -/
def ReadCallback.Fits (maxLen : Nat) (callback : ReadCallback) : Prop :=
  0 < callback.bufferLen ∧ maxLen ≤ callback.bufferLen

instance (maxLen : Nat) (callback : ReadCallback) : Decidable (callback.Fits maxLen) :=
  inferInstanceAs (Decidable (_ ∧ _))

/-- Buffers are large enough: `maxLen` is between the datagrams and the buffers. -/
def ReadEvent.Fits (maxLen : Nat) : ReadEvent → Prop
  | onDatagram datagram => datagram.computeChainDataLength ≤ maxLen
  | resumeRead (some callback) => callback.Fits maxLen
  | _ => True

/-- The payload that a call hands over. -/
def HandlerCall.payload : HandlerCall → Option Bytes
  | onDataAvailable _ payload => some payload
  | _ => none

instance (maxLen : Nat) : (event : ReadEvent) → Decidable (event.Fits maxLen)
  | .onDatagram _ => inferInstanceAs (Decidable (_ ≤ _))
  | .resumeRead (some callback) => inferInstanceAs (Decidable (callback.Fits maxLen))
  | .resumeRead none => isTrue trivial
  | .connectSuccess _ _ => isTrue trivial
  | .pauseRead => isTrue trivial
  | .onEOM => isTrue trivial
  | .onError => isTrue trivial

namespace TransactionHandler

/-- The payloads handed to callbacks, in order. -/
def delivered (h : TransactionHandler) : List Bytes := h.calls.filterMap HandlerCall.payload

/-- The payloads of the buffered datagrams. -/
def buffered (h : TransactionHandler) : List Bytes := h.readBuf.map IOBuf.bytes

end TransactionHandler

namespace H3DatagramAsyncSocket

def defaultHandler (s : H3DatagramAsyncSocket) : Option TransactionHandler :=
  s.defaultStreamId_.bind s.transactions_

def isReading (s : H3DatagramAsyncSocket) : Bool :=
  s.defaultHandler.any fun h => h.readCallback.isSome

/-- The payloads handed over on the default stream. -/
def delivered (s : H3DatagramAsyncSocket) : List Bytes :=
  match s.defaultHandler with
  | none => []
  | some h => h.delivered

def buffered (s : H3DatagramAsyncSocket) : List Bytes :=
  match s.defaultHandler with
  | none => []
  | some h => h.buffered

/-- Let the handler of the default stream do something. -/
def onDefault (s : H3DatagramAsyncSocket)
    (f : TransactionHandler → Except Fault TransactionHandler) :
    Except Fault H3DatagramAsyncSocket :=
  match s.defaultStreamId_ with
  | none => .ok s
  | some streamID => s.withHandler streamID f

def handle (s : H3DatagramAsyncSocket) : ReadEvent → Except Fault H3DatagramAsyncSocket
  | .onDatagram datagram => s.onDefault fun h => h.onDatagram s.rcvBufPkts_ datagram
  | .resumeRead cob => s.resumeRead cob
  | .connectSuccess ready canSendHeaders => s.connectSuccess ready canSendHeaders
  | .pauseRead => .ok s.pauseRead
  | .onEOM => s.onDefault fun h => .ok h.onEOM
  | .onError => s.onDefault fun h => h.onError

/-- What an event adds to the accepted datagrams: a datagram is dropped only when
it would have to be buffered and the buffer is full. -/
def acceptedBy (s : H3DatagramAsyncSocket) : ReadEvent → List Bytes
  | .onDatagram datagram =>
      if s.defaultHandler.isSome ∧ (s.isReading ∨ s.buffered.length < s.rcvBufPkts_) then
        [datagram.bytes]
      else []
  | _ => []

end H3DatagramAsyncSocket

/-- The socket and the history of its read side. -/
structure ReadRun where
  socket : H3DatagramAsyncSocket
  accepted : List Bytes
  paused : Bool
  deliveredPaused : Bool

namespace ReadRun

def start (rcvBufPkts : Nat) : ReadRun := ⟨.new rcvBufPkts, [], false, false⟩

/-- Between `pauseRead` and the next `resumeRead`. -/
def pausedAfter (paused : Bool) : ReadEvent → Bool
  | .pauseRead => true
  | .resumeRead _ => false
  | _ => paused

def step (r : ReadRun) (event : ReadEvent) : Except Fault ReadRun := do
  let socket ← r.socket.handle event
  let paused := pausedAfter r.paused event
  return {
    socket := socket
    accepted := r.accepted ++ r.socket.acceptedBy event
    paused := paused
    deliveredPaused := r.deliveredPaused || (paused && socket.delivered != r.socket.delivered) }

/-- What the read side promises. Handed over and buffered together are what was
accepted, in order and once each; nothing waits while there is a callback; the
buffer keeps its bound; and nothing is handed over while reading is paused. -/
def AsPromised (r : ReadRun) : Prop :=
  r.socket.delivered ++ r.socket.buffered = r.accepted ∧
    (r.socket.isReading = true → r.socket.buffered = []) ∧
    r.socket.buffered.length ≤ r.socket.rcvBufPkts_ ∧ r.deliveredPaused = false

/-- The condition on a step. No datagram arrives while reading is paused and the
handler still has its callback, no error while it has none, and no null callback
is set while datagrams wait. -/
def Undisturbed (r : ReadRun) : ReadEvent → Prop
  | .onDatagram _ => ¬ (r.paused = true ∧ r.socket.isReading = true)
  | .resumeRead none => r.socket.buffered = []
  | .onError => r.socket.defaultHandler.isSome = true → r.socket.isReading = true
  | _ => True

instance (r : ReadRun) : (event : ReadEvent) → Decidable (r.Undisturbed event)
  | .onDatagram _ => inferInstanceAs (Decidable (¬ _))
  | .resumeRead none => inferInstanceAs (Decidable (_ = _))
  | .resumeRead (some _) => isTrue trivial
  | .connectSuccess _ _ => isTrue trivial
  | .pauseRead => isTrue trivial
  | .onEOM => isTrue trivial
  | .onError => inferInstanceAs (Decidable (_ → _))

end ReadRun

/-! ### Handlers -/

namespace TransactionHandler

variable {maxLen rcvBufPkts : Nat} {accepted : List Bytes} {h h' : TransactionHandler}

structure Inv (maxLen rcvBufPkts : Nat) (accepted : List Bytes) (h : TransactionHandler) :
    Prop where
  conserved : h.delivered ++ h.buffered = accepted
  reading : h.readCallback.isSome = true → h.readBuf = []
  bounded : h.readBuf.length ≤ rcvBufPkts
  fits : ∀ callback, h.readCallback = some callback → callback.Fits maxLen
  small : ∀ datagram ∈ h.readBuf, datagram.computeChainDataLength ≤ maxLen

/-- Into a buffer that is large enough, a datagram is delivered. -/
theorem deliverDatagram_of_fits {callback : ReadCallback} (hcallback : h.readCallback = some callback)
    (hfits : callback.Fits maxLen) {datagram : IOBuf}
    (hlen : datagram.computeChainDataLength ≤ maxLen) :
    h.deliverDatagram datagram = .ok (h.call (.onDataAvailable callback datagram.bytes)) := by
  obtain ⟨hpos, hmax⟩ := hfits
  have hroom : ¬ (callback.bufferLen = 0 ∨
      callback.bufferLen < datagram.computeChainDataLength) := by omega
  simp [deliverDatagram, hcallback, hroom]

/-- The loop over the buffered datagrams delivers them in order. -/
theorem foldlM_deliverDatagram {callback : ReadCallback}
    (hcallback : h.readCallback = some callback) (hfits : callback.Fits maxLen)
    {datagrams : List IOBuf} (hlen : ∀ d ∈ datagrams, d.computeChainDataLength ≤ maxLen) :
    datagrams.foldlM deliverDatagram h = .ok { h with
      calls := h.calls ++ datagrams.map fun d => .onDataAvailable callback d.bytes } := by
  induction datagrams generalizing h with
  | nil => simp [pure, Except.pure]
  | cons d datagrams ih =>
    obtain ⟨hd, hrest⟩ := List.forall_mem_cons.mp hlen
    rw [List.foldlM_cons, deliverDatagram_of_fits hcallback hfits hd]
    refine (ih (h := h.call (.onDataAvailable callback d.bytes)) hcallback hrest).trans ?_
    simp [call]

/-- Setting the pointer and delivering the bodies leaves the datagrams alone. -/
theorem deliverBodies_spec (h : TransactionHandler) (readCallback : Option ReadCallback) :
    ∃ g, ({ h with readCallback := readCallback } : TransactionHandler).deliverBodies = g ∧
      g.delivered = h.delivered ∧ g.readBuf = h.readBuf ∧ g.readCallback = readCallback := by
  refine ⟨_, rfl, ?_⟩
  have hbodies : ∀ callback, (h.bodyBuf.map fun body : IOBuf =>
      HandlerCall.onBody callback body.bytes).filterMap HandlerCall.payload = [] := by
    intro callback
    rw [List.filterMap_eq_nil_iff]
    simp [HandlerCall.payload]
  unfold deliverBodies
  cases readCallback with
  | none => simp [delivered]
  | some callback =>
    cases hlistens : callback.isBodyListener with
    | false => simp [delivered, hlistens]
    | true => simp [delivered, hlistens, hbodies]

theorem deliverDatagrams_spec {callback : ReadCallback}
    (hcallback : h.readCallback = some callback) (hfits : callback.Fits maxLen)
    (hlen : ∀ d ∈ h.readBuf, d.computeChainDataLength ≤ maxLen) :
    ∃ h', h.deliverDatagrams = .ok h' ∧ h'.delivered = h.delivered ++ h.buffered ∧
      h'.readBuf = [] ∧ h'.readCallback = some callback := by
  have hpayloads : (h.readBuf.map fun d : IOBuf =>
      HandlerCall.onDataAvailable callback d.bytes).filterMap HandlerCall.payload = h.buffered := by
    rw [List.filterMap_map, buffered, ← List.filterMap_eq_map]
    rfl
  rw [deliverDatagrams, foldlM_deliverDatagram hcallback hfits hlen]
  refine ⟨_, rfl, ?_, rfl, hcallback⟩
  rw [delivered, List.filterMap_append, hpayloads]
  rfl

/-- Without a callback, nothing may be buffered. -/
theorem deliverDatagrams_of_none (hcallback : h.readCallback = none) :
    h.deliverDatagrams =
      if h.readBuf = [] then .ok { h with readBuf := [] } else .error .check := by
  unfold deliverDatagrams
  cases h.readBuf with
  | nil => rfl
  | cons d rest =>
    rw [List.foldlM_cons, deliverDatagram, hcallback]
    rfl

/-- A callback takes everything that is buffered. -/
theorem Inv.setReadCallback_some (hinv : Inv maxLen rcvBufPkts accepted h)
    {callback : ReadCallback} (hfits : callback.Fits maxLen) :
    ∃ h', h.setReadCallback (some callback) = .ok h' ∧ Inv maxLen rcvBufPkts accepted h' := by
  obtain ⟨g, hg, hdelivered, hreadBuf, hreadCallback⟩ := deliverBodies_spec h (some callback)
  obtain ⟨h', hrun, hdelivered', hreadBuf', hreadCallback'⟩ :=
    deliverDatagrams_spec hreadCallback hfits (by rw [hreadBuf]; exact hinv.small)
  refine ⟨h', by rw [setReadCallback, hg, hrun], ?_, fun _ => hreadBuf', by simp [hreadBuf'], ?_,
    by simp [hreadBuf']⟩
  · have hbuffered' : h'.buffered = [] := by rw [buffered, hreadBuf']; rfl
    rw [hbuffered', List.append_nil, hdelivered', hdelivered, buffered, hreadBuf]
    exact hinv.conserved
  · intro callback' heq
    rw [hreadCallback'] at heq
    cases heq
    exact hfits

/-- A null callback can be set while nothing is buffered, and only then. -/
theorem Inv.setReadCallback_none (hinv : Inv maxLen rcvBufPkts accepted h)
    (hempty : h.buffered = []) :
    ∃ h', h.setReadCallback none = .ok h' ∧ Inv maxLen rcvBufPkts accepted h' := by
  obtain ⟨g, hg, hdelivered, hreadBuf, hreadCallback⟩ := deliverBodies_spec h none
  have hnil : g.readBuf = [] := hreadBuf.trans (List.map_eq_nil_iff.mp hempty)
  refine ⟨{ g with readBuf := [] }, ?_, ?_, fun _ => rfl, Nat.zero_le _, ?_, by simp⟩
  · rw [setReadCallback, hg, deliverDatagrams_of_none hreadCallback, if_pos hnil]
  · have hconserved := hinv.conserved
    rw [hempty, List.append_nil, ← hdelivered] at hconserved
    rw [buffered, List.map_nil, List.append_nil]
    exact hconserved
  · simp [hreadCallback]

theorem setReadCallback_none_fails (hne : h.buffered ≠ []) :
    h.setReadCallback none = .error .check := by
  obtain ⟨g, hg, -, hreadBuf, hreadCallback⟩ := deliverBodies_spec h none
  have hcons : g.readBuf ≠ [] := by
    rw [hreadBuf]
    exact fun hnil => hne (List.map_eq_nil_iff.mpr hnil)
  rw [setReadCallback, hg, deliverDatagrams_of_none hreadCallback, if_neg hcons]

theorem Inv.onDatagram (hinv : Inv maxLen rcvBufPkts accepted h) {datagram : IOBuf}
    (hlen : datagram.computeChainDataLength ≤ maxLen) :
    ∃ h', h.onDatagram rcvBufPkts datagram = .ok h' ∧
      h'.delivered = h.delivered ++ (if h.readCallback.isSome then [datagram.bytes] else []) ∧
      Inv maxLen rcvBufPkts (accepted ++
        if h.readCallback.isSome ∨ h.buffered.length < rcvBufPkts then [datagram.bytes] else []) h' := by
  cases hcallback : h.readCallback with
  | none =>
    have hlength : h.buffered.length = h.readBuf.length := List.length_map _
    by_cases hroom : h.readBuf.length < rcvBufPkts
    · refine ⟨{ h with readBuf := h.readBuf ++ [datagram] }, ?_, by simp [delivered], ?_⟩
      · simp [TransactionHandler.onDatagram, hcallback, hroom]
      · rw [if_pos (.inr (hlength ▸ hroom))]
        refine ⟨?_, by simp [hcallback], ?_, by simp [hcallback], ?_⟩
        · rw [← hinv.conserved]
          simp [delivered, buffered]
        · rw [List.length_append, List.length_singleton]
          exact hroom
        · intro d hd
          rcases List.mem_append.mp hd with hd | hd
          · exact hinv.small d hd
          · rw [List.mem_singleton.mp hd]
            exact hlen
    · refine ⟨h, by simp [TransactionHandler.onDatagram, hcallback, hroom], by simp, ?_⟩
      rw [if_neg (by rw [hlength]; simp [hroom]), List.append_nil]
      exact hinv
  | some callback =>
    have hfits := hinv.fits callback hcallback
    have hnil := hinv.reading (by rw [hcallback]; rfl)
    refine ⟨h.call (.onDataAvailable callback datagram.bytes), ?_, ?_, ?_⟩
    · rw [TransactionHandler.onDatagram, hcallback]
      exact deliverDatagram_of_fits hcallback hfits hlen
    · simp [delivered, call, HandlerCall.payload]
    · rw [if_pos (.inl rfl), ← hinv.conserved]
      refine ⟨?_, fun _ => hnil, hinv.bounded, hinv.fits, hinv.small⟩
      simp [delivered, buffered, call, HandlerCall.payload, hnil]

/-- Closing the read side delivers nothing. -/
theorem closeRead_spec (h : TransactionHandler) :
    h.closeRead.delivered = h.delivered ∧ h.closeRead.readBuf = h.readBuf ∧
      h.closeRead.readCallback = none := by
  unfold closeRead
  split
  · simp [delivered, call, HandlerCall.payload]
  · rename_i hnone
    simp [hnone]

theorem Inv.closeRead (hinv : Inv maxLen rcvBufPkts accepted h) :
    Inv maxLen rcvBufPkts accepted h.closeRead := by
  obtain ⟨hdelivered, hreadBuf, hreadCallback⟩ := closeRead_spec h
  refine ⟨?_, by simp [hreadCallback], by rw [hreadBuf]; exact hinv.bounded,
    by simp [hreadCallback], by rw [hreadBuf]; exact hinv.small⟩
  rw [hdelivered, buffered, hreadBuf]
  exact hinv.conserved

theorem Inv.onError (hinv : Inv maxLen rcvBufPkts accepted h)
    (hreading : h.readCallback.isSome = true) :
    ∃ h', h.onError = .ok h' ∧ h'.delivered = h.delivered ∧ Inv maxLen rcvBufPkts accepted h' := by
  obtain ⟨callback, hcallback⟩ := Option.isSome_iff_exists.mp hreading
  have hdelivered : (h.call (.onReadError callback)).delivered = h.delivered := by
    simp [delivered, call, HandlerCall.payload]
  have hinv' : Inv maxLen rcvBufPkts accepted (h.call (.onReadError callback)) := by
    refine ⟨?_, hinv.reading, hinv.bounded, hinv.fits, hinv.small⟩
    rw [hdelivered]
    exact hinv.conserved
  refine ⟨(h.call (.onReadError callback)).closeRead, ?_, ?_, hinv'.closeRead⟩
  · rw [TransactionHandler.onError, closeWithError, hcallback]
  · exact (closeRead_spec _).1.trans hdelivered

/-- A new handler has nothing to deliver to its first callback. -/
theorem setReadCallback_new (readCallback : Option ReadCallback) :
    new.setReadCallback readCallback = .ok { new with readCallback := readCallback } := by
  cases readCallback with
  | none => rfl
  | some callback =>
    obtain ⟨name, bufferLen, isBodyListener⟩ := callback
    cases isBodyListener <;> rfl

end TransactionHandler

/-! ### The socket -/

namespace H3DatagramAsyncSocket

variable {maxLen : Nat} {accepted accepted' : List Bytes} {s : H3DatagramAsyncSocket}
  {h h' : TransactionHandler} {f : TransactionHandler → Except Fault TransactionHandler}

structure Inv (maxLen : Nat) (accepted : List Bytes) (s : H3DatagramAsyncSocket) : Prop where
  default_fits : ∀ callback, s.defaultReadCallback_ = some callback → callback.Fits maxLen
  unconnected : s.defaultStreamId_ = none → accepted = []
  connected : ∀ streamID, s.defaultStreamId_ = some streamID → streamID < s.nextStreamID ∧
    ∃ h, s.transactions_ streamID = some h ∧ h.Inv maxLen s.rcvBufPkts_ accepted

/-- Before the connection there is no handler, after it the invariant is that of
the handler. -/
theorem Inv.cases (hinv : s.Inv maxLen accepted) :
    (s.defaultStreamId_ = none ∧ s.defaultHandler = none ∧ accepted = []) ∨
      ∃ h, s.defaultHandler = some h ∧ h.Inv maxLen s.rcvBufPkts_ accepted := by
  cases hdefault : s.defaultStreamId_ with
  | none => exact .inl ⟨rfl, by rw [defaultHandler, hdefault]; rfl, hinv.unconnected hdefault⟩
  | some streamID =>
    obtain ⟨-, h, hh, hhinv⟩ := hinv.connected streamID hdefault
    exact .inr ⟨h, by rw [defaultHandler, hdefault]; exact hh, hhinv⟩

theorem onDefault_of_none (hnone : s.defaultStreamId_ = none) : s.onDefault f = .ok s := by
  rw [onDefault, hnone]

/-- The default handler, and the stream that it belongs to. -/
theorem defaultHandler_eq_some :
    s.defaultHandler = some h ↔
      ∃ streamID, s.defaultStreamId_ = some streamID ∧ s.transactions_ streamID = some h := by
  simp [defaultHandler, Option.bind_eq_some_iff]

theorem delivered_of_default (hdefault : s.defaultHandler = some h) :
    s.delivered = h.delivered := by
  rw [delivered, hdefault]

theorem buffered_of_default (hdefault : s.defaultHandler = some h) : s.buffered = h.buffered := by
  rw [buffered, hdefault]

theorem isReading_of_default (hdefault : s.defaultHandler = some h) :
    s.isReading = h.readCallback.isSome := by
  rw [isReading, hdefault, Option.any_some]

theorem onDefault_of_error {fault : Fault} (hdefault : s.defaultHandler = some h)
    (hf : f h = .error fault) : s.onDefault f = .error fault := by
  obtain ⟨streamID, hstream, hh⟩ := defaultHandler_eq_some.mp hdefault
  rw [onDefault, hstream]
  simp only [withHandler, hh, hf]
  rfl

theorem Inv.onDefault (hinv : s.Inv maxLen accepted) (hdefault : s.defaultHandler = some h)
    (hf : f h = .ok h') (hh' : h'.Inv maxLen s.rcvBufPkts_ accepted') :
    ∃ s', s.onDefault f = .ok s' ∧ s'.defaultHandler = some h' ∧ s'.Inv maxLen accepted' := by
  obtain ⟨streamID, hstream, hh⟩ := defaultHandler_eq_some.mp hdefault
  refine ⟨s.setHandler streamID h', ?_, ?_, hinv.default_fits, ?_, ?_⟩
  · rw [H3DatagramAsyncSocket.onDefault, hstream]
    simp only [withHandler, hh, hf]
    rfl
  · exact defaultHandler_eq_some.mpr ⟨streamID, hstream, Function.update_self _ _ _⟩
  · intro hnone
    rw [show s.defaultStreamId_ = none from hnone] at hstream
    cases hstream
  · intro streamID' hstream'
    obtain rfl : streamID = streamID' :=
      Option.some.inj (hstream.symm.trans hstream')
    exact ⟨(hinv.connected streamID hstream).1, h', Function.update_self _ _ _, hh'⟩

/-- A call of the default handler that hands nothing over. -/
theorem Inv.onDefault_quiet (hinv : s.Inv maxLen accepted)
    (hf : ∀ h, s.defaultHandler = some h → h.Inv maxLen s.rcvBufPkts_ accepted →
      ∃ h', f h = .ok h' ∧ h'.delivered = h.delivered ∧ h'.Inv maxLen s.rcvBufPkts_ accepted) :
    ∃ s', s.onDefault f = .ok s' ∧ s'.delivered = s.delivered ∧ s'.Inv maxLen accepted := by
  rcases hinv.cases with ⟨hnone, -, -⟩ | ⟨h, hdefault, hh⟩
  · exact ⟨s, onDefault_of_none hnone, rfl, hinv⟩
  · obtain ⟨h', hrun, hdelivered, hh'⟩ := hf h hdefault hh
    obtain ⟨s', hs', hdefault', hinv'⟩ := hinv.onDefault hdefault hrun hh'
    refine ⟨s', hs', ?_, hinv'⟩
    rw [delivered_of_default hdefault, delivered_of_default hdefault', hdelivered]

theorem newHandler_eq (s : H3DatagramAsyncSocket) (first : Bool) :
    s.newHandler first = .ok { TransactionHandler.new with
      readCallback := if first then s.defaultReadCallback_ else none } := by
  unfold newHandler
  rw [TransactionHandler.setReadCallback_new]
  cases first with
  | false => rfl
  | true => cases s.defaultReadCallback_ <;> rfl

/-- Further transactions leave the default stream alone: their ids are new. -/
theorem createTransactions_keeps {streamID : Nat} (first : Bool) (canSendHeaders : List Bool)
    (hdefault : s.defaultStreamId_ = some streamID) (hlt : streamID < s.nextStreamID) :
    ∃ complete s', createTransactions first canSendHeaders s = .ok (complete, s') ∧
      s'.defaultStreamId_ = some streamID ∧
      s'.transactions_ streamID = s.transactions_ streamID ∧ streamID < s'.nextStreamID ∧
      s'.defaultReadCallback_ = s.defaultReadCallback_ ∧ s'.rcvBufPkts_ = s.rcvBufPkts_ ∧
      s'.writeBuf = s.writeBuf := by
  induction canSendHeaders generalizing s first with
  | nil => exact ⟨true, s, rfl, hdefault, rfl, hlt, rfl, rfl, rfl⟩
  | cons canSend rest ih =>
    cases canSend with
    | false =>
      exact ⟨false, { s with nextStreamID := s.nextStreamID + 4 }, rfl, hdefault, rfl,
        Nat.lt_add_right 4 hlt, rfl, rfl, rfl⟩
    | true =>
      have hne : streamID ≠ s.nextStreamID := Nat.ne_of_lt hlt
      simp only [createTransactions, if_true, newHandler_eq, addTransaction, hdefault]
      obtain ⟨complete, s', hrun, hdefault', htransactions, hrest⟩ :=
        ih (s := setHandler
            { s with nextStreamID := s.nextStreamID + 4, defaultStreamId_ := some streamID }
            s.nextStreamID _) false rfl (Nat.lt_add_right 4 hlt)
      refine ⟨complete, s', hrun, hdefault', ?_, hrest⟩
      rw [htransactions]
      exact Function.update_of_ne hne _ _

/-- A state that has the default stream of another one keeps its invariant. -/
theorem Inv.of_same {s' : H3DatagramAsyncSocket} {streamID : Nat} (hinv : s.Inv maxLen accepted)
    (hstream : s.defaultStreamId_ = some streamID) (hstream' : s'.defaultStreamId_ = some streamID)
    (hhandler : s'.transactions_ streamID = s.transactions_ streamID)
    (hlt : streamID < s'.nextStreamID)
    (hcallback : s'.defaultReadCallback_ = s.defaultReadCallback_)
    (hrcv : s'.rcvBufPkts_ = s.rcvBufPkts_) :
    s'.defaultHandler = s.defaultHandler ∧ s'.Inv maxLen accepted := by
  refine ⟨?_, by rw [hcallback]; exact hinv.default_fits, ?_, ?_⟩
  · rw [defaultHandler, defaultHandler, hstream, hstream']
    exact hhandler
  · intro hnone
    rw [hstream'] at hnone
    cases hnone
  · intro streamID' h'
    rw [hstream'] at h'
    cases h'
    obtain ⟨-, h, hh, hhinv⟩ := hinv.connected streamID hstream
    exact ⟨hlt, h, hhandler.trans hh, hrcv ▸ hhinv⟩

/-- The first transaction becomes the default stream, with an empty history. -/
theorem Inv.addTransaction (hinv : s.Inv maxLen accepted) (hnone : s.defaultStreamId_ = none)
    {streamID : Nat} (hlt : streamID < s.nextStreamID) :
    (s.addTransaction streamID
      { TransactionHandler.new with readCallback := s.defaultReadCallback_ }).Inv maxLen accepted := by
  rw [H3DatagramAsyncSocket.addTransaction, hnone]
  refine ⟨hinv.default_fits, fun h => (by cases h), fun streamID' h => ?_⟩
  cases h
  rw [hinv.unconnected hnone]
  exact ⟨hlt, _, Function.update_self _ _ _, rfl, fun _ => rfl, Nat.zero_le _, hinv.default_fits,
    by simp [TransactionHandler.new]⟩

theorem delivered_addTransaction (hnone : s.defaultStreamId_ = none) (streamID : Nat)
    (readCallback : Option ReadCallback) :
    (s.addTransaction streamID
      { TransactionHandler.new with readCallback := readCallback }).delivered = [] := by
  rw [addTransaction, hnone]
  simp [delivered, defaultHandler, setHandler, TransactionHandler.delivered,
    TransactionHandler.new]

/-- The loop of `connectSuccess` hands nothing over. -/
theorem Inv.createTransactions (hinv : s.Inv maxLen accepted) (canSendHeaders : List Bool) :
    ∃ complete s', H3DatagramAsyncSocket.createTransactions true canSendHeaders s =
      .ok (complete, s') ∧ s'.delivered = s.delivered ∧ s'.Inv maxLen accepted := by
  cases hdefault : s.defaultStreamId_ with
  | some streamID =>
    obtain ⟨complete, s', hrun, hdefault', hhandler, hlt, hcallback, hrcv, -⟩ :=
      createTransactions_keeps true canSendHeaders hdefault (hinv.connected streamID hdefault).1
    obtain ⟨hsame, hinv'⟩ := hinv.of_same hdefault hdefault' hhandler hlt hcallback hrcv
    exact ⟨complete, s', hrun, by rw [delivered, hsame]; rfl, hinv'⟩
  | none =>
    have hdelivered : s.delivered = [] := by
      rw [delivered, defaultHandler, hdefault]
      rfl
    rw [hdelivered]
    cases canSendHeaders with
    | nil => exact ⟨true, s, rfl, hdelivered, hinv⟩
    | cons canSend rest =>
      have hnext : ({ s with nextStreamID := s.nextStreamID + 4 } :
          H3DatagramAsyncSocket).Inv maxLen accepted := by
        refine ⟨hinv.default_fits, hinv.unconnected, fun streamID h => ?_⟩
        rw [show s.defaultStreamId_ = some streamID from h] at hdefault
        cases hdefault
      cases canSend with
      | false => exact ⟨false, _, rfl, hdelivered, hnext⟩
      | true =>
        have hlt : s.nextStreamID < s.nextStreamID + 4 := by omega
        have hadd := hnext.addTransaction hdefault hlt
        have hempty := delivered_addTransaction
          (s := { s with nextStreamID := s.nextStreamID + 4 }) hdefault s.nextStreamID
          s.defaultReadCallback_
        simp only [H3DatagramAsyncSocket.createTransactions, if_true, newHandler_eq]
        -- The rest of the loop runs after the default stream is there.
        generalize hfirst : H3DatagramAsyncSocket.addTransaction _ s.nextStreamID _ = u
          at hadd hempty
        have hstream : u.defaultStreamId_ = some s.nextStreamID := by
          rw [← hfirst, H3DatagramAsyncSocket.addTransaction, hdefault]
          rfl
        obtain ⟨complete, s', hrun, hstream', hhandler, hlt', hcallback, hrcv, -⟩ :=
          createTransactions_keeps false rest hstream (hadd.connected _ hstream).1
        obtain ⟨hsame, hinv'⟩ := hadd.of_same hstream hstream' hhandler hlt' hcallback hrcv
        rw [← hfirst] at hrun
        exact ⟨complete, s', hrun, by rw [delivered, hsame]; exact hempty, hinv'⟩

theorem Inv.connectSuccess (hinv : s.Inv maxLen accepted) (ready : Bool)
    (canSendHeaders : List Bool) :
    ∃ s', s.connectSuccess ready canSendHeaders = .ok s' ∧ s'.delivered = s.delivered ∧
      s'.Inv maxLen accepted := by
  cases ready with
  | false => exact ⟨s, rfl, rfl, hinv⟩
  | true =>
    obtain ⟨complete, s', hrun, hdelivered, hinv'⟩ := hinv.createTransactions canSendHeaders
    cases complete with
    | false =>
      refine ⟨s', ?_, hdelivered, hinv'⟩
      simp [H3DatagramAsyncSocket.connectSuccess, hrun, bind, Except.bind, pure, Except.pure]
    | true =>
      refine ⟨{ s' with transportConnected_ := true }, ?_, hdelivered,
        hinv'.default_fits, hinv'.unconnected, hinv'.connected⟩
      simp [H3DatagramAsyncSocket.connectSuccess, hrun, bind, Except.bind, pure, Except.pure]

theorem Inv.resumeRead (hinv : s.Inv maxLen accepted) {cob : Option ReadCallback}
    (hfits : ∀ callback, cob = some callback → callback.Fits maxLen)
    (hempty : cob = none → s.buffered = []) :
    ∃ s', s.resumeRead cob = .ok s' ∧ s'.Inv maxLen accepted := by
  rcases hinv.cases with ⟨hnone, -, hnil⟩ | ⟨h, hdefault, hh⟩
  · cases hcallback : s.defaultReadCallback_ with
    | some callback =>
      exact ⟨s, by rw [H3DatagramAsyncSocket.resumeRead, hnone, hcallback], hinv⟩
    | none =>
      refine ⟨{ s with defaultReadCallback_ := cob }, ?_, hfits, fun _ => hnil, ?_⟩
      · rw [H3DatagramAsyncSocket.resumeRead, hnone, hcallback]
      · intro streamID hstream
        rw [show s.defaultStreamId_ = some streamID from hstream] at hnone
        cases hnone
  · obtain ⟨streamID, hstream, -⟩ := defaultHandler_eq_some.mp hdefault
    have hresume : s.resumeRead cob = s.onDefault fun handler => handler.setReadCallback cob := by
      rw [H3DatagramAsyncSocket.resumeRead, H3DatagramAsyncSocket.onDefault, hstream]
      rfl
    obtain ⟨h', hset, hh'⟩ : ∃ h', h.setReadCallback cob = .ok h' ∧
        h'.Inv maxLen s.rcvBufPkts_ accepted := by
      cases cob with
      | some callback => exact hh.setReadCallback_some (hfits callback rfl)
      | none =>
        refine hh.setReadCallback_none ?_
        rw [← buffered_of_default hdefault]
        exact hempty rfl
    obtain ⟨s', hs', -, hinv'⟩ :=
      hinv.onDefault (f := fun handler => handler.setReadCallback cob) hdefault hset hh'
    exact ⟨s', hresume.trans hs', hinv'⟩

end H3DatagramAsyncSocket

/-! ### Runs -/

namespace ReadRun

variable {maxLen : Nat} {r r' : ReadRun}

def Inv (maxLen : Nat) (r : ReadRun) : Prop :=
  r.deliveredPaused = false ∧ r.socket.Inv maxLen r.accepted

theorem inv_start (maxLen rcvBufPkts : Nat) : Inv maxLen (start rcvBufPkts) :=
  ⟨rfl, by simp [start, H3DatagramAsyncSocket.new], fun _ => rfl, by
    simp [start, H3DatagramAsyncSocket.new]⟩

theorem asPromised_of_inv (hinv : Inv maxLen r) : r.AsPromised := by
  obtain ⟨hpaused, hsocket⟩ := hinv
  rcases hsocket.cases with ⟨-, hnone, hnil⟩ | ⟨h, hdefault, hh⟩
  · simp [AsPromised, H3DatagramAsyncSocket.delivered, H3DatagramAsyncSocket.buffered,
      H3DatagramAsyncSocket.isReading, hnone, hnil, hpaused]
  · unfold AsPromised
    rw [H3DatagramAsyncSocket.delivered_of_default hdefault,
      H3DatagramAsyncSocket.buffered_of_default hdefault,
      H3DatagramAsyncSocket.isReading_of_default hdefault]
    refine ⟨hh.conserved, fun hreading => ?_, ?_, hpaused⟩
    · rw [TransactionHandler.buffered, hh.reading hreading]
      rfl
    · rw [TransactionHandler.buffered, List.length_map]
      exact hh.bounded

/-- A step that keeps the invariant of the socket, and that hands nothing over
unless reading is not paused. -/
theorem step_of_handle {event : ReadEvent} {socket : H3DatagramAsyncSocket} (hinv : Inv maxLen r)
    (hhandle : r.socket.handle event = .ok socket)
    (hsocket : socket.Inv maxLen (r.accepted ++ r.socket.acceptedBy event))
    (hpaused : pausedAfter r.paused event = true → socket.delivered = r.socket.delivered) :
    ∃ r', r.step event = .ok r' ∧ Inv maxLen r' := by
  refine ⟨_, by rw [step, hhandle]; rfl, ?_, hsocket⟩
  rw [hinv.1]
  cases hafter : pausedAfter r.paused event with
  | false => rfl
  | true => simp [hpaused hafter]

theorem step_onDatagram (hinv : Inv maxLen r) {datagram : IOBuf}
    (hlen : datagram.computeChainDataLength ≤ maxLen) :
    ∃ socket, r.socket.handle (.onDatagram datagram) = .ok socket ∧
      socket.Inv maxLen (r.accepted ++ r.socket.acceptedBy (.onDatagram datagram)) ∧
      socket.delivered = r.socket.delivered ++
        (if r.socket.isReading then [datagram.bytes] else []) := by
  rcases hinv.2.cases with ⟨hnone, hhandler, -⟩ | ⟨h, hdefault, hh⟩
  · refine ⟨r.socket, H3DatagramAsyncSocket.onDefault_of_none hnone, ?_, ?_⟩
    · simpa [H3DatagramAsyncSocket.acceptedBy, hhandler] using hinv.2
    · simp [H3DatagramAsyncSocket.isReading, hhandler]
  · obtain ⟨h', hrun, hdelivered, hh'⟩ := hh.onDatagram hlen
    obtain ⟨s', hs', hdefault', hinv'⟩ := hinv.2.onDefault
      (f := fun h => h.onDatagram r.socket.rcvBufPkts_ datagram) hdefault hrun hh'
    refine ⟨s', hs', ?_, ?_⟩
    · simpa [H3DatagramAsyncSocket.acceptedBy, H3DatagramAsyncSocket.isReading_of_default hdefault,
        H3DatagramAsyncSocket.buffered_of_default hdefault, hdefault] using hinv'
    · rw [H3DatagramAsyncSocket.delivered_of_default hdefault',
        H3DatagramAsyncSocket.delivered_of_default hdefault,
        H3DatagramAsyncSocket.isReading_of_default hdefault, hdelivered]

/-- Under the condition, a step succeeds and keeps the invariant. -/
theorem step_of_undisturbed (event : ReadEvent) (hfits : event.Fits maxLen) (hinv : Inv maxLen r)
    (hcond : r.Undisturbed event) : ∃ r', r.step event = .ok r' ∧ Inv maxLen r' := by
  have hkeep : r.accepted ++ [] = r.accepted := List.append_nil _
  cases event with
  | onDatagram datagram =>
    obtain ⟨socket, hhandle, hsocket, hdelivered⟩ := step_onDatagram hinv hfits
    refine step_of_handle hinv hhandle hsocket fun hpaused => ?_
    have hreading : r.socket.isReading ≠ true := fun hreading => hcond ⟨hpaused, hreading⟩
    rw [hdelivered, if_neg hreading, List.append_nil]
  | resumeRead cob =>
    have hfits' : ∀ callback, cob = some callback → callback.Fits maxLen := by
      rintro callback rfl
      exact hfits
    have hempty : cob = none → r.socket.buffered = [] := by
      rintro rfl
      exact hcond
    obtain ⟨socket, hhandle, hsocket⟩ := hinv.2.resumeRead hfits' hempty
    exact step_of_handle hinv hhandle (hkeep.symm ▸ hsocket) fun hpaused => by cases hpaused
  | connectSuccess ready canSendHeaders =>
    obtain ⟨socket, hhandle, hdelivered, hsocket⟩ := hinv.2.connectSuccess ready canSendHeaders
    exact step_of_handle hinv hhandle (hkeep.symm ▸ hsocket) fun _ => hdelivered
  | pauseRead =>
    have hhandle : r.socket.handle .pauseRead = .ok r.socket.pauseRead := rfl
    refine step_of_handle hinv hhandle (hkeep.symm ▸ ?_) fun _ => rfl
    exact ⟨hinv.2.default_fits, hinv.2.unconnected, hinv.2.connected⟩
  | onEOM =>
    obtain ⟨socket, hhandle, hdelivered, hsocket⟩ := hinv.2.onDefault_quiet
      (f := fun h => .ok h.onEOM) fun h _ hh =>
        ⟨h.closeRead, rfl, (TransactionHandler.closeRead_spec h).1, hh.closeRead⟩
    exact step_of_handle hinv hhandle (hkeep.symm ▸ hsocket) fun _ => hdelivered
  | onError =>
    obtain ⟨socket, hhandle, hdelivered, hsocket⟩ := hinv.2.onDefault_quiet
      (f := fun h => h.onError) fun h hdefault hh => by
        refine hh.onError ?_
        rw [← H3DatagramAsyncSocket.isReading_of_default hdefault]
        exact hcond (by rw [hdefault]; rfl)
    exact step_of_handle hinv hhandle (hkeep.symm ▸ hsocket) fun _ => hdelivered

/-- A step that breaks the condition either stops or hands a datagram over while
reading is paused. -/
theorem deliveredPaused_of_disturbed (event : ReadEvent) (hfits : event.Fits maxLen)
    (hinv : Inv maxLen r) (hcond : ¬ r.Undisturbed event) (hstep : r.step event = .ok r') :
    r'.deliveredPaused = true := by
  rw [step, except_bind_eq_ok] at hstep
  obtain ⟨socket, hhandle, hstep⟩ := hstep
  cases hstep
  cases event with
  | onDatagram datagram =>
    obtain ⟨hpaused, hreading⟩ := not_not.mp hcond
    obtain ⟨socket', hhandle', -, hdelivered⟩ := step_onDatagram hinv hfits
    rw [hhandle] at hhandle'
    cases hhandle'
    rw [if_pos hreading] at hdelivered
    simp [pausedAfter, hpaused, hdelivered]
  | resumeRead cob =>
    cases cob with
    | some callback => exact absurd trivial hcond
    | none =>
      rcases hinv.2.cases with ⟨-, hnone, -⟩ | ⟨h, hdefault, -⟩
      · refine absurd ?_ hcond
        change r.socket.buffered = []
        rw [H3DatagramAsyncSocket.buffered, hnone]
      · have hne : h.buffered ≠ [] := by
          intro hnil
          apply hcond
          exact (H3DatagramAsyncSocket.buffered_of_default hdefault).trans hnil
        obtain ⟨streamID, hstream, hh⟩ := H3DatagramAsyncSocket.defaultHandler_eq_some.mp hdefault
        simp only [H3DatagramAsyncSocket.handle, H3DatagramAsyncSocket.resumeRead, hstream,
          H3DatagramAsyncSocket.resumeReadOn, H3DatagramAsyncSocket.withHandler, hh,
          TransactionHandler.setReadCallback_none_fails hne] at hhandle
        cases hhandle
  | onError =>
    rcases hinv.2.cases with ⟨-, hnone, -⟩ | ⟨h, hdefault, -⟩
    · exact absurd (fun hsome => by rw [hnone] at hsome; cases hsome) hcond
    · cases hcallback : h.readCallback with
      | some callback =>
        refine absurd (fun _ => ?_) hcond
        rw [H3DatagramAsyncSocket.isReading_of_default hdefault, hcallback]
        rfl
      | none =>
        have hfault : h.onError = .error .nullCallback := by
          rw [TransactionHandler.onError, TransactionHandler.closeWithError, hcallback]
        rw [H3DatagramAsyncSocket.handle,
          H3DatagramAsyncSocket.onDefault_of_error hdefault hfault] at hhandle
        cases hhandle
  | connectSuccess ready canSendHeaders => exact absurd trivial hcond
  | pauseRead => exact absurd trivial hcond
  | onEOM => exact absurd trivial hcond

theorem deliveredPaused_step {event : ReadEvent} (hbad : r.deliveredPaused = true)
    (hstep : r.step event = .ok r') : r'.deliveredPaused = true := by
  rw [step, except_bind_eq_ok] at hstep
  obtain ⟨socket, -, hstep⟩ := hstep
  cases hstep
  simp [hbad]

/-- With buffers that are large enough, a run does not stop and ends as promised
exactly when every step meets the condition. -/
theorem readSide_iff (rcvBufPkts maxLen : Nat) (events : List ReadEvent)
    (hfits : ∀ event ∈ events, event.Fits maxLen) :
    (∃ r, events.foldlM step (start rcvBufPkts) = .ok r ∧ r.AsPromised) ↔
      Meets step Undisturbed (start rcvBufPkts) events :=
  run_iff_meets (fun _ event hfits hinv hcond => step_of_undisturbed event hfits hinv hcond)
    (fun _ event _ hfits hinv hcond hstep =>
      deliveredPaused_of_disturbed event hfits hinv hcond hstep)
    (fun _ _ _ hbad hstep => deliveredPaused_step hbad hstep)
    (fun _ hinv => asPromised_of_inv hinv)
    (fun _ hbad hgood => Bool.false_ne_true (hgood.2.2.2.symm.trans hbad))
    (inv_start maxLen rcvBufPkts) hfits

/-- A callback with a buffer of 1500 bytes. -/
def sampleCallback : ReadCallback := ⟨1, 1500, false⟩

/-- A datagram waits for `resumeRead`; after the next pause none arrives. -/
theorem readSide_example :
    ∃ r, [.connectSuccess true [true], .onDatagram (.wrapBuffer [7]),
        .resumeRead (some sampleCallback), .onDatagram (.wrapBuffer [8]), .pauseRead,
        .onEOM].foldlM step (start 100) = .ok r ∧ r.AsPromised := by
  exact (readSide_iff 100 1 _ (by decide)).mpr (by decide)

/-- `resumeRead`, `connectSuccess`, `pauseRead`: the next datagram is handed over
all the same. -/
theorem readSide_paused_fails :
    ∃ r, [.resumeRead (some sampleCallback), .connectSuccess true [true], .pauseRead,
        .onDatagram (.wrapBuffer [7])].foldlM step (start 100) = .ok r ∧ r.paused = true ∧
      r.socket.delivered = [[7]] ∧ ¬ r.AsPromised := by
  refine ⟨_, rfl, rfl, rfl, fun hpromised => ?_⟩
  cases hpromised.2.2.2

end ReadRun

end MasqueQuic
