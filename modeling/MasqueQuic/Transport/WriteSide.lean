/-
The write side of `H3DatagramAsyncSocket` over whole runs.

A datagram is buffered in the socket until there is a default stream, then in the
handler of that stream until the transport counts as connected, and from then on it
goes to the transaction at once. The handler sends its buffer with the 200 answer.
But `transportConnected_` is set by `connectSuccess`, not by the answer. So a
datagram written between the two overtakes the ones that are still buffered and
leaves before the answer; and when `connectSuccess` gives up on a later transaction,
a datagram written after the answer is buffered and stays there.

`WriteRun` adds the history that the specification speaks about: the datagrams whose
write returned a size, those of them that were passed to `sendDatagram`, whether the
200 answer has arrived and whether one was passed before it.
-/

import MasqueQuic.Transport.ReadSide

namespace MasqueQuic

/-- What happens to the socket; the answer is the one on the default stream. -/
inductive WriteEvent where
  | write (env : H3DatagramAsyncSocket.WriteEnv) (buf : IOBuf)
  | connectSuccess (ready : Bool) (canSendHeaders : List Bool)
  | onHeadersComplete (statusCode : Nat)

/-- The datagram that a call passes to the transaction. -/
def HandlerCall.datagram : HandlerCall → Option Bytes
  | sendDatagram datagram => some datagram
  | _ => none

/-- The datagrams passed to the transaction, in order. -/
def TransactionHandler.passed (h : TransactionHandler) : List Bytes :=
  h.calls.filterMap HandlerCall.datagram

namespace H3DatagramAsyncSocket

/-- The datagrams passed to the transaction of the default stream. -/
def passed (s : H3DatagramAsyncSocket) : List Bytes :=
  match s.defaultHandler with
  | none => []
  | some h => h.passed

/-- The datagrams that wait for the default stream or in its handler. -/
def unsent (s : H3DatagramAsyncSocket) : List Bytes :=
  match s.defaultHandler with
  | none => s.writeBuf.map IOBuf.bytes
  | some h => (s.writeBuf ++ h.writeBuf).map IOBuf.bytes

end H3DatagramAsyncSocket

structure WriteRun where
  socket : H3DatagramAsyncSocket
  accepted : List Bytes
  sent : List Bytes
  responded : Bool
  early : Bool

namespace WriteRun

def start (rcvBufPkts : Nat) : WriteRun := ⟨.new rcvBufPkts, [], [], false, false⟩

/-- Enter what an event did: the datagrams it accepted and those it passed on. -/
def record (r : WriteRun) (socket : H3DatagramAsyncSocket) (accepted : List Bytes) : WriteRun :=
  let newly := socket.passed.drop r.socket.passed.length
  { r with
    socket := socket
    accepted := r.accepted ++ accepted
    sent := r.sent ++ newly
    early := r.early || (!r.responded && !newly.isEmpty) }

def step (sndBufPkts : Nat) (r : WriteRun) : WriteEvent → Except Fault WriteRun
  | .write env buf =>
      match r.socket.write sndBufPkts env buf with
      | (socket, .ok _) => .ok (r.record socket [buf.bytes])
      | (socket, .error _) => .ok { r with socket := socket }
  | .connectSuccess ready canSendHeaders => do
      let socket ← r.socket.connectSuccess ready canSendHeaders
      return r.record socket []
  | .onHeadersComplete statusCode => do
      let socket ← r.socket.onDefault fun h => .ok (h.onHeadersComplete statusCode)
      let answered := statusCode == 200 && r.socket.defaultHandler.isSome
      return { r with responded := r.responded || answered }.record socket []

/-- What the write side promises: accepted datagrams are passed on in order, each
once, none before the answer and all after it, and few are buffered. -/
structure AsPromised (sndBufPkts : Nat) (r : WriteRun) : Prop where
  conserved : r.sent ++ r.socket.unsent = r.accepted
  before : r.responded = false → r.sent = []
  after : r.responded = true → r.socket.unsent = []
  notEarly : r.early = false
  bounded : r.socket.unsent.length ≤ sndBufPkts

/-- A write that the default stream takes comes before the answer if the handler
buffers it, and after the answer if it goes out at once. -/
def InOrder (sndBufPkts : Nat) (r : WriteRun) : WriteEvent → Prop
  | .write env buf =>
      ∀ h, r.socket.defaultHandler = some h → env.isInitialized = true →
        if r.socket.transportConnected_ then
          buf.computeChainDataLength ≤ env.getDatagramSizeLimit → env.sendDatagram = true →
            r.responded = true
        else h.writeBuf.length < sndBufPkts → r.responded = false
  | _ => True

end WriteRun

/-! ### The operations -/

namespace H3DatagramAsyncSocket

variable {s s' : H3DatagramAsyncSocket} {h h' : TransactionHandler}

/-- The default stream has a handler and an id that is in use, and took over what the
socket had buffered. -/
structure Linked (s : H3DatagramAsyncSocket) : Prop where
  handler : ∀ streamID, s.defaultStreamId_ = some streamID →
    streamID < s.nextStreamID ∧ (s.transactions_ streamID).isSome ∧ s.writeBuf = []

theorem Linked.cases (hlinked : s.Linked) :
    (s.defaultStreamId_ = none ∧ s.defaultHandler = none) ∨
      ∃ streamID h, s.defaultStreamId_ = some streamID ∧ s.transactions_ streamID = some h ∧
        s.defaultHandler = some h ∧ streamID < s.nextStreamID ∧ s.writeBuf = [] := by
  cases hdefault : s.defaultStreamId_ with
  | none => exact .inl ⟨rfl, by rw [defaultHandler, hdefault]; rfl⟩
  | some streamID =>
    obtain ⟨hlt, hsome, hempty⟩ := hlinked.handler streamID hdefault
    obtain ⟨h, hh⟩ := Option.isSome_iff_exists.mp hsome
    exact .inr ⟨streamID, h, rfl, hh, by rw [defaultHandler, hdefault]; exact hh, hlt, hempty⟩

theorem passed_of_default (hdefault : s.defaultHandler = some h) : s.passed = h.passed := by
  rw [passed, hdefault]

theorem unsent_of_default (hdefault : s.defaultHandler = some h) (hempty : s.writeBuf = []) :
    s.unsent = h.writeBuf.map IOBuf.bytes := by
  rw [unsent, hdefault, hempty]
  rfl

/-- Replace the handler of the default stream. -/
theorem setHandler_default {streamID : Nat} (hlinked : s.Linked)
    (hdefault : s.defaultStreamId_ = some streamID) (h : TransactionHandler) :
    (s.setHandler streamID h).defaultHandler = some h ∧ (s.setHandler streamID h).Linked := by
  obtain ⟨hlt, -, hempty⟩ := hlinked.handler streamID hdefault
  have hupdate : (s.setHandler streamID h).transactions_ streamID = some h :=
    Function.update_self _ _ _
  refine ⟨?_, ⟨fun streamID' h' => ?_⟩⟩
  · rw [defaultHandler, show (s.setHandler streamID h).defaultStreamId_ = some streamID from hdefault]
    exact hupdate
  · rw [show (s.setHandler streamID h).defaultStreamId_ = some streamID from hdefault] at h'
    cases h'
    exact ⟨hlt, by rw [hupdate]; rfl, hempty⟩

/-- Connecting moves datagrams, it neither adds, drops nor passes on any. -/
theorem createTransactions_unsent (hlinked : s.Linked) (canSendHeaders : List Bool) :
    ∃ complete s', createTransactions true canSendHeaders s = .ok (complete, s') ∧
      s'.passed = s.passed ∧ s'.unsent = s.unsent ∧ s'.Linked ∧
      (s.defaultHandler.isSome → s'.defaultHandler.isSome) := by
  rcases hlinked.cases with ⟨hnone, hhandler⟩ | ⟨streamID, h, hdefault, hh, hhandler, hlt, hempty⟩
  · have hpassed : s.passed = [] := by rw [passed, hhandler]
    have hunsent : s.unsent = s.writeBuf.map IOBuf.bytes := by rw [unsent, hhandler]
    have hfree : ∀ {u : H3DatagramAsyncSocket}, u.defaultStreamId_ = none → u.Linked :=
      fun hu => ⟨fun streamID h => by rw [hu] at h; cases h⟩
    cases canSendHeaders with
    | nil => exact ⟨true, s, rfl, rfl, rfl, hlinked, fun hsome => hsome⟩
    | cons canSend rest =>
      cases canSend with
      | false =>
        refine ⟨false, { s with nextStreamID := s.nextStreamID + 4 }, rfl, rfl, rfl,
          hfree hnone, fun hsome => hsome⟩
      | true =>
        simp only [createTransactions, if_true, newHandler_eq, addTransaction, hnone]
        obtain ⟨complete, s', hrun, hdefault', htransactions, hlt', -, -, hbuf⟩ :=
          @createTransactions_keeps
            (setHandler { s with
                nextStreamID := s.nextStreamID + 4
                defaultStreamId_ := some s.nextStreamID
                writeBuf := [] } s.nextStreamID
              { TransactionHandler.new with
                readCallback := s.defaultReadCallback_, writeBuf := s.writeBuf })
            s.nextStreamID false rest rfl (Nat.lt_add_of_pos_right (by decide))
        have hh : s'.transactions_ s.nextStreamID = some { TransactionHandler.new with
            readCallback := s.defaultReadCallback_, writeBuf := s.writeBuf } :=
          htransactions.trans (Function.update_self _ _ _)
        have hhandler' : s'.defaultHandler = some { TransactionHandler.new with
            readCallback := s.defaultReadCallback_, writeBuf := s.writeBuf } := by
          rw [defaultHandler, hdefault']
          exact hh
        refine ⟨complete, s', hrun, ?_, ?_, ⟨fun streamID h => ?_⟩, fun _ => ?_⟩
        · rw [hpassed, passed_of_default hhandler']
          rfl
        · rw [hunsent, unsent_of_default hhandler' hbuf]
        · rw [hdefault'] at h
          cases h
          exact ⟨hlt', by rw [hh]; rfl, hbuf⟩
        · rw [hhandler']
          rfl
  · obtain ⟨complete, s', hrun, hdefault', htransactions, hlt', -, -, hbuf⟩ :=
      createTransactions_keeps true canSendHeaders hdefault hlt
    have hhandler' : s'.defaultHandler = some h := by
      rw [defaultHandler, hdefault']
      exact htransactions.trans hh
    have hempty' : s'.writeBuf = [] := hbuf.trans hempty
    refine ⟨complete, s', hrun, ?_, ?_, ⟨fun streamID' h' => ?_⟩, fun _ => ?_⟩
    · rw [passed_of_default hhandler', passed_of_default hhandler]
    · rw [unsent_of_default hhandler' hempty', unsent_of_default hhandler hempty]
    · rw [hdefault'] at h'
      cases h'
      exact ⟨hlt', by rw [htransactions, hh]; rfl, hempty'⟩
    · rw [hhandler']
      rfl

theorem connectSuccess_unsent (hlinked : s.Linked) (ready : Bool) (canSendHeaders : List Bool) :
    ∃ s', s.connectSuccess ready canSendHeaders = .ok s' ∧ s'.passed = s.passed ∧
      s'.unsent = s.unsent ∧ s'.Linked ∧ (s.defaultHandler.isSome → s'.defaultHandler.isSome) := by
  cases ready with
  | false => exact ⟨s, rfl, rfl, rfl, hlinked, fun hsome => hsome⟩
  | true =>
    obtain ⟨complete, s', hrun, hpassed, hunsent, hlinked', hsome⟩ :=
      createTransactions_unsent hlinked canSendHeaders
    cases complete with
    | false =>
      refine ⟨s', ?_, hpassed, hunsent, hlinked', hsome⟩
      simp [H3DatagramAsyncSocket.connectSuccess, hrun, bind, Except.bind, pure, Except.pure]
    | true =>
      refine ⟨{ s' with transportConnected_ := true }, ?_, hpassed, hunsent,
        ⟨hlinked'.handler⟩, hsome⟩
      simp [H3DatagramAsyncSocket.connectSuccess, hrun, bind, Except.bind, pure, Except.pure]

theorem write_of_none {env : WriteEnv} {buf : IOBuf} (sndBufPkts : Nat)
    (hnone : s.defaultStreamId_ = none) :
    s.write sndBufPkts env buf =
      if s.writeBuf.length < sndBufPkts then
        ({ s with writeBuf := s.writeBuf ++ [buf.clone] }, .ok buf.computeChainDataLength)
      else (s, .error none) := by
  unfold write
  split
  · rfl
  · rename_i hsome
    rw [hnone] at hsome
    cases hsome

/-- A write on the default stream, once its handler is known. -/
theorem write_of_default {streamID : Nat} {env : WriteEnv} {buf : IOBuf} (sndBufPkts : Nat)
    (hdefault : s.defaultStreamId_ = some streamID) (hh : s.transactions_ streamID = some h) :
    s.write sndBufPkts env buf =
      if !env.isInitialized then (s, .error (some .ENOTCONN))
      else if !s.transportConnected_ then
        if h.writeBuf.length < sndBufPkts then
          (s.setHandler streamID { h with writeBuf := h.writeBuf ++ [buf.clone] },
            .ok buf.computeChainDataLength)
        else (s, .error (some .ENOBUFS))
      else if env.getDatagramSizeLimit < buf.computeChainDataLength then
        (s, .error (some .EMSGSIZE))
      else
        (s.setHandler streamID (h.call (.sendDatagram buf.clone.bytes)),
          if env.sendDatagram then .ok buf.computeChainDataLength else .error (some .ENOBUFS)) := by
  simp only [write, hdefault, writeOn, hh, Option.isNone_some, Bool.false_eq_true, if_false]
  cases env.sendDatagram <;> rfl

end H3DatagramAsyncSocket

namespace TransactionHandler

theorem passed_call_sendDatagram (h : TransactionHandler) (datagram : Bytes) :
    (h.call (.sendDatagram datagram)).passed = h.passed ++ [datagram] := by
  simp [passed, call, HandlerCall.datagram]

/-- The answer empties the buffer into the transaction. -/
theorem passed_onHeadersComplete (h : TransactionHandler) :
    (h.onHeadersComplete 200).passed = h.passed ++ h.writeBuf.map IOBuf.bytes ∧
      (h.onHeadersComplete 200).writeBuf = [] := by
  simp [onHeadersComplete, passed, List.filterMap_map, HandlerCall.datagram, Function.comp_def]

end TransactionHandler

/-! ### Runs -/

namespace WriteRun

variable {sndBufPkts : Nat} {r r' : WriteRun}

structure Inv (sndBufPkts : Nat) (r : WriteRun) : Prop extends AsPromised sndBufPkts r where
  linked : r.socket.Linked
  answered : r.responded = true → r.socket.defaultHandler.isSome

theorem inv_start (rcvBufPkts sndBufPkts : Nat) : (start rcvBufPkts).Inv sndBufPkts where
  conserved := rfl
  before := fun _ => rfl
  after := nofun
  notEarly := rfl
  bounded := Nat.zero_le _
  linked := ⟨nofun⟩
  answered := nofun

/-- An event that neither accepts nor passes on a datagram and keeps the buffers. -/
theorem Inv.record_quiet (hinv : r.Inv sndBufPkts) {socket : H3DatagramAsyncSocket}
    (hpassed : socket.passed = r.socket.passed) (hunsent : socket.unsent = r.socket.unsent)
    (hlinked : socket.Linked)
    (hsome : r.socket.defaultHandler.isSome → socket.defaultHandler.isSome) :
    (r.record socket []).Inv sndBufPkts := by
  have hrecord : r.record socket [] = { r with socket := socket } := by
    simp [record, hpassed]
  rw [hrecord]
  exact {
    conserved := by rw [hunsent]; exact hinv.conserved
    before := hinv.before
    after := fun hresp => by rw [hunsent]; exact hinv.after hresp
    notEarly := hinv.notEarly
    bounded := by rw [hunsent]; exact hinv.bounded
    linked := hlinked
    answered := fun hresp => hsome (hinv.answered hresp) }

/-- A datagram that is accepted into a buffer before the answer. -/
theorem Inv.record_buffered (hinv : r.Inv sndBufPkts) {socket : H3DatagramAsyncSocket}
    {datagram : Bytes} (hpassed : socket.passed = r.socket.passed)
    (hunsent : socket.unsent = r.socket.unsent ++ [datagram]) (hlinked : socket.Linked)
    (hroom : r.socket.unsent.length < sndBufPkts) (hresp : r.responded = false) :
    (r.record socket [datagram]).Inv sndBufPkts := by
  have hrecord : r.record socket [datagram] =
      { r with socket := socket, accepted := r.accepted ++ [datagram] } := by
    simp [record, hpassed]
  rw [hrecord]
  exact {
    conserved := by
      change r.sent ++ socket.unsent = r.accepted ++ [datagram]
      rw [hunsent, ← List.append_assoc, hinv.conserved]
    before := hinv.before
    after := fun h => by rw [show r.responded = true from h] at hresp; cases hresp
    notEarly := hinv.notEarly
    bounded := by
      change socket.unsent.length ≤ sndBufPkts
      rw [hunsent, List.length_append]
      exact hroom
    linked := hlinked
    answered := fun h => by rw [show r.responded = true from h] at hresp; cases hresp }

/-- A datagram that goes out at once. -/
theorem record_passed {socket : H3DatagramAsyncSocket} {datagram : Bytes}
    (hpassed : socket.passed = r.socket.passed ++ [datagram]) :
    r.record socket [datagram] =
      { r with
        socket := socket
        accepted := r.accepted ++ [datagram]
        sent := r.sent ++ [datagram]
        early := r.early || !r.responded } := by
  simp [record, hpassed]

/-- A refused write changes no buffer. -/
theorem Inv.refused (hinv : r.Inv sndBufPkts) {socket : H3DatagramAsyncSocket}
    (hunsent : socket.unsent = r.socket.unsent) (hlinked : socket.Linked)
    (hsome : r.socket.defaultHandler.isSome → socket.defaultHandler.isSome) :
    ({ r with socket := socket } : WriteRun).Inv sndBufPkts where
  conserved := by
    change r.sent ++ socket.unsent = r.accepted
    rw [hunsent]
    exact hinv.conserved
  before := hinv.before
  after := fun hresp => hunsent.trans (hinv.after hresp)
  notEarly := hinv.notEarly
  bounded := (congrArg List.length hunsent).trans_le hinv.bounded
  linked := hlinked
  answered := fun hresp => hsome (hinv.answered hresp)

/-- A datagram that goes out at once, after the answer. -/
theorem Inv.record_sent (hinv : r.Inv sndBufPkts) {socket : H3DatagramAsyncSocket}
    {datagram : Bytes} (hpassed : socket.passed = r.socket.passed ++ [datagram])
    (hunsent : socket.unsent = r.socket.unsent) (hlinked : socket.Linked)
    (hsome : socket.defaultHandler.isSome) (hresp : r.responded = true) :
    (r.record socket [datagram]).Inv sndBufPkts := by
  have hnil : r.socket.unsent = [] := hinv.after hresp
  rw [record_passed hpassed]
  exact {
    conserved := by
      have hconserved := hinv.conserved
      rw [hnil, List.append_nil] at hconserved
      change (r.sent ++ [datagram]) ++ H3DatagramAsyncSocket.unsent _ = _
      rw [hunsent, hnil, List.append_nil, hconserved]
    before := fun h => by rw [show r.responded = false from h] at hresp; cases hresp
    after := fun _ => hunsent.trans hnil
    notEarly := by
      change (r.early || !r.responded) = false
      rw [hinv.notEarly, hresp]
      rfl
    bounded := (congrArg List.length hunsent).trans_le hinv.bounded
    linked := hlinked
    answered := fun _ => hsome }

section Write

variable {env : H3DatagramAsyncSocket.WriteEnv} {buf : IOBuf} {streamID : Nat}
  {h : TransactionHandler}

/-- Without a default stream the socket buffers, and no answer can have come. -/
theorem step_write_none (hinv : r.Inv sndBufPkts) (hnone : r.socket.defaultStreamId_ = none)
    (hhandler : r.socket.defaultHandler = none) :
    ∃ r', r.step sndBufPkts (.write env buf) = .ok r' ∧ r'.Inv sndBufPkts := by
  have hunsent : r.socket.unsent = r.socket.writeBuf.map IOBuf.bytes := by
    rw [H3DatagramAsyncSocket.unsent, hhandler]
  simp only [step, H3DatagramAsyncSocket.write_of_none sndBufPkts hnone]
  by_cases hroom : r.socket.writeBuf.length < sndBufPkts
  · rw [if_pos hroom]
    have hhandler' : ({ r.socket with writeBuf := r.socket.writeBuf ++ [buf.clone] } :
        H3DatagramAsyncSocket).defaultHandler = none := hhandler
    refine ⟨_, rfl, hinv.record_buffered ?_ ?_ ⟨?_⟩ ?_ ?_⟩
    · rw [H3DatagramAsyncSocket.passed, H3DatagramAsyncSocket.passed, hhandler, hhandler']
    · rw [hunsent, H3DatagramAsyncSocket.unsent, hhandler']
      simp
    · intro streamID hstream
      rw [show r.socket.defaultStreamId_ = some streamID from hstream] at hnone
      cases hnone
    · rw [hunsent, List.length_map]
      exact hroom
    · cases hresp : r.responded with
      | false => rfl
      | true =>
        have hsome := hinv.answered hresp
        rw [hhandler] at hsome
        cases hsome
  · rw [if_neg hroom]
    exact ⟨_, rfl, hinv⟩

/-- The handler of the default stream buffers while the transport is not connected. -/
theorem step_write_waiting (hinv : r.Inv sndBufPkts)
    (hdefault : r.socket.defaultStreamId_ = some streamID)
    (hh : r.socket.transactions_ streamID = some h) (hhandler : r.socket.defaultHandler = some h)
    (hempty : r.socket.writeBuf = []) (hinit : env.isInitialized = true)
    (hconnected : r.socket.transportConnected_ = false)
    (hcond : h.writeBuf.length < sndBufPkts → r.responded = false) :
    ∃ r', r.step sndBufPkts (.write env buf) = .ok r' ∧ r'.Inv sndBufPkts := by
  simp only [step, H3DatagramAsyncSocket.write_of_default sndBufPkts hdefault hh, hinit, hconnected,
    Bool.not_true, Bool.not_false, Bool.false_eq_true, if_false, if_true]
  by_cases hroom : h.writeBuf.length < sndBufPkts
  · rw [if_pos hroom]
    have hunsent := H3DatagramAsyncSocket.unsent_of_default hhandler hempty
    obtain ⟨hhandler', hlinked'⟩ := H3DatagramAsyncSocket.setHandler_default hinv.linked
      hdefault { h with writeBuf := h.writeBuf ++ [buf.clone] }
    refine ⟨_, rfl, hinv.record_buffered ?_ ?_ hlinked' ?_ (hcond hroom)⟩
    · rw [H3DatagramAsyncSocket.passed_of_default hhandler',
        H3DatagramAsyncSocket.passed_of_default hhandler]
      rfl
    · rw [H3DatagramAsyncSocket.unsent_of_default hhandler' hempty, hunsent]
      simp
    · rw [hunsent, List.length_map]
      exact hroom
  · rw [if_neg hroom]
    exact ⟨_, rfl, hinv⟩

/-- A connected transport sends at once, what it takes. -/
theorem step_write_connected (hinv : r.Inv sndBufPkts)
    (hdefault : r.socket.defaultStreamId_ = some streamID)
    (hh : r.socket.transactions_ streamID = some h) (hhandler : r.socket.defaultHandler = some h)
    (hempty : r.socket.writeBuf = []) (hinit : env.isInitialized = true)
    (hconnected : r.socket.transportConnected_ = true)
    (hcond : buf.computeChainDataLength ≤ env.getDatagramSizeLimit → env.sendDatagram = true →
      r.responded = true) :
    ∃ r', r.step sndBufPkts (.write env buf) = .ok r' ∧ r'.Inv sndBufPkts := by
  simp only [step, H3DatagramAsyncSocket.write_of_default sndBufPkts hdefault hh, hinit, hconnected,
    Bool.not_true, Bool.false_eq_true, if_false]
  by_cases hsize : env.getDatagramSizeLimit < buf.computeChainDataLength
  · rw [if_pos hsize]
    exact ⟨_, rfl, hinv⟩
  · rw [if_neg hsize]
    obtain ⟨hhandler', hlinked'⟩ := H3DatagramAsyncSocket.setHandler_default hinv.linked
      hdefault (h.call (.sendDatagram buf.clone.bytes))
    have hunsent' : (r.socket.setHandler streamID
        (h.call (.sendDatagram buf.clone.bytes))).unsent = r.socket.unsent := by
      rw [H3DatagramAsyncSocket.unsent_of_default hhandler' hempty,
        H3DatagramAsyncSocket.unsent_of_default hhandler hempty]
      rfl
    have hsome : (r.socket.setHandler streamID
        (h.call (.sendDatagram buf.clone.bytes))).defaultHandler.isSome := by
      rw [hhandler']
      rfl
    cases hsend : env.sendDatagram with
    | false => exact ⟨_, rfl, hinv.refused hunsent' hlinked' fun _ => hsome⟩
    | true =>
      have hpassed : (r.socket.setHandler streamID
          (h.call (.sendDatagram buf.clone.bytes))).passed = r.socket.passed ++ [buf.bytes] := by
        rw [H3DatagramAsyncSocket.passed_of_default hhandler',
          H3DatagramAsyncSocket.passed_of_default hhandler,
          TransactionHandler.passed_call_sendDatagram, IOBuf.bytes_clone]
      exact ⟨_, rfl, hinv.record_sent hpassed hunsent' hlinked' hsome
        (hcond (Nat.le_of_not_lt hsize) hsend)⟩

theorem step_write (hinv : r.Inv sndBufPkts) (hcond : r.InOrder sndBufPkts (.write env buf)) :
    ∃ r', r.step sndBufPkts (.write env buf) = .ok r' ∧ r'.Inv sndBufPkts := by
  rcases hinv.linked.cases with
    ⟨hnone, hhandler⟩ | ⟨streamID, h, hdefault, hh, hhandler, -, hempty⟩
  · exact step_write_none hinv hnone hhandler
  · cases hinit : env.isInitialized with
    | false =>
      simp only [step, H3DatagramAsyncSocket.write_of_default sndBufPkts hdefault hh, hinit]
      exact ⟨_, rfl, hinv⟩
    | true =>
      have hcond := hcond h hhandler hinit
      cases hconnected : r.socket.transportConnected_ with
      | false =>
        rw [hconnected, if_neg Bool.false_ne_true] at hcond
        exact step_write_waiting hinv hdefault hh hhandler hempty hinit hconnected hcond
      | true =>
        rw [hconnected, if_pos rfl] at hcond
        exact step_write_connected hinv hdefault hh hhandler hempty hinit hconnected hcond

end Write

theorem step_connectSuccess (hinv : r.Inv sndBufPkts) (ready : Bool) (canSendHeaders : List Bool) :
    ∃ r', r.step sndBufPkts (.connectSuccess ready canSendHeaders) = .ok r' ∧
      r'.Inv sndBufPkts := by
  obtain ⟨socket, hrun, hpassed, hunsent, hlinked, hsome⟩ :=
    H3DatagramAsyncSocket.connectSuccess_unsent hinv.linked ready canSendHeaders
  refine ⟨r.record socket [], ?_, hinv.record_quiet hpassed hunsent hlinked hsome⟩
  rw [step, hrun]
  rfl

theorem step_onHeadersComplete (hinv : r.Inv sndBufPkts) (statusCode : Nat) :
    ∃ r', r.step sndBufPkts (.onHeadersComplete statusCode) = .ok r' ∧ r'.Inv sndBufPkts := by
  rcases hinv.linked.cases with
    ⟨hnone, hhandler⟩ | ⟨streamID, h, hdefault, hh, hhandler, hlt, hempty⟩
  · refine ⟨r, ?_, hinv⟩
    rw [step, H3DatagramAsyncSocket.onDefault_of_none hnone]
    simp [bind, Except.bind, pure, Except.pure, hhandler, record]
  · have hrun : r.socket.onDefault (fun h => .ok (h.onHeadersComplete statusCode)) =
        .ok (r.socket.setHandler streamID (h.onHeadersComplete statusCode)) := by
      simp [H3DatagramAsyncSocket.onDefault, hdefault, H3DatagramAsyncSocket.withHandler, hh, bind,
        Except.bind, pure, Except.pure]
    obtain ⟨hhandler', hlinked'⟩ := H3DatagramAsyncSocket.setHandler_default hinv.linked hdefault
      (h.onHeadersComplete statusCode)
    have hsome : (r.socket.setHandler streamID
        (h.onHeadersComplete statusCode)).defaultHandler.isSome := by
      rw [hhandler']
      rfl
    have hpassed := H3DatagramAsyncSocket.passed_of_default hhandler'
    have hunsent := H3DatagramAsyncSocket.unsent_of_default hhandler' hempty
    refine ⟨_, by rw [step, hrun]; rfl, ?_⟩
    by_cases hstatus : statusCode = 200
    · subst hstatus
      obtain ⟨hcalls, hnil⟩ := h.passed_onHeadersComplete
      rw [hcalls, ← H3DatagramAsyncSocket.passed_of_default hhandler,
        ← H3DatagramAsyncSocket.unsent_of_default hhandler hempty] at hpassed
      rw [hnil] at hunsent
      simp only [record, hpassed, List.drop_left, hhandler, Option.isSome_some, beq_self_eq_true,
        Bool.and_true, Bool.or_true, Bool.not_true, Bool.false_and, Bool.or_false, List.append_nil]
      exact {
        conserved := by
          change (r.sent ++ r.socket.unsent) ++ H3DatagramAsyncSocket.unsent _ = r.accepted
          rw [hunsent, hinv.conserved]
          exact List.append_nil _
        before := by
          intro hbefore
          cases hbefore
        after := fun _ => hunsent
        notEarly := hinv.notEarly
        bounded := (congrArg List.length hunsent).trans_le (Nat.zero_le _)
        linked := hlinked'
        answered := fun _ => hsome }
    · have hsame : h.onHeadersComplete statusCode = h := if_neg hstatus
      have hbeq : (statusCode == 200) = false := beq_false_of_ne hstatus
      simp only [hbeq, Bool.false_and, Bool.or_false]
      rw [hsame] at hpassed hunsent hlinked' hsome ⊢
      refine hinv.record_quiet ?_ ?_ hlinked' fun _ => hsome
      · rw [hpassed, H3DatagramAsyncSocket.passed_of_default hhandler]
      · rw [hunsent, H3DatagramAsyncSocket.unsent_of_default hhandler hempty]

/-- A write out of order is seen in the state after it. -/
theorem not_asPromised_of_disorder (hinv : r.Inv sndBufPkts) {event : WriteEvent}
    (hcond : ¬ r.InOrder sndBufPkts event) (hstep : r.step sndBufPkts event = .ok r') :
    ¬ r'.AsPromised sndBufPkts := by
  intro hpromised
  cases event with
  | connectSuccess ready canSendHeaders => exact hcond trivial
  | onHeadersComplete statusCode => exact hcond trivial
  | write env buf =>
    apply hcond
    intro h hhandler hinit
    rcases hinv.linked.cases with
      ⟨-, hnone⟩ | ⟨streamID, h', hdefault, hh, hhandler', hlt, hempty⟩
    · rw [hhandler] at hnone
      cases hnone
    · rw [hhandler] at hhandler'
      cases hhandler'
      simp only [step, H3DatagramAsyncSocket.write_of_default sndBufPkts hdefault hh, hinit,
        Bool.not_true, Bool.false_eq_true, if_false] at hstep
      cases hconnected : r.socket.transportConnected_ with
      | false =>
        -- Buffered after the answer: it is left behind.
        simp only [Bool.false_eq_true, if_false]
        intro hroom
        simp only [hconnected, Bool.not_false, if_true, if_pos hroom] at hstep
        cases hstep
        obtain ⟨hnew, -⟩ := H3DatagramAsyncSocket.setHandler_default hinv.linked hdefault
          { h with writeBuf := h.writeBuf ++ [buf.clone] }
        cases hresp : r.responded with
        | false => rfl
        | true =>
          have hnil := hpromised.after hresp
          rw [record, H3DatagramAsyncSocket.unsent_of_default hnew hempty] at hnil
          simp at hnil
      | true =>
        -- Sent before the answer: the run remembers it.
        simp only [if_true]
        intro hsize hsend
        simp only [hconnected, Bool.not_true, Bool.false_eq_true, if_false,
          if_neg (Nat.not_lt_of_le hsize), hsend, if_true] at hstep
        cases hstep
        obtain ⟨hnew, -⟩ := H3DatagramAsyncSocket.setHandler_default hinv.linked hdefault
          (h.call (.sendDatagram buf.clone.bytes))
        have hpassed : (r.socket.setHandler streamID
            (h.call (.sendDatagram buf.clone.bytes))).passed =
            r.socket.passed ++ [buf.bytes] := by
          rw [H3DatagramAsyncSocket.passed_of_default hnew,
            H3DatagramAsyncSocket.passed_of_default hhandler,
            TransactionHandler.passed_call_sendDatagram, IOBuf.bytes_clone]
        have hearly := hpromised.notEarly
        rw [record_passed hpassed] at hearly
        simpa [hinv.notEarly] using hearly

/-- The write side keeps its promise in every state of a run exactly when no write
is out of order. -/
theorem writeSide_iff (rcvBufPkts sndBufPkts : Nat) (events : List WriteEvent) :
    (∀ run, run <+: events →
        ∃ r, run.foldlM (step sndBufPkts) (start rcvBufPkts) = .ok r ∧ r.AsPromised sndBufPkts) ↔
      Meets (step sndBufPkts) (InOrder sndBufPkts) (start rcvBufPkts) events := by
  refine @always_iff_meets _ _ _ _ _ (Inv sndBufPkts) _ ?_ ?_ (fun r hinv => hinv.toAsPromised) _ _
    (inv_start rcvBufPkts sndBufPkts)
  · intro r event hinv hcond
    cases event with
    | write env buf => exact step_write hinv hcond
    | connectSuccess ready canSendHeaders => exact step_connectSuccess hinv ready canSendHeaders
    | onHeadersComplete statusCode => exact step_onHeadersComplete hinv statusCode
  · exact fun r event r' hinv hcond hstep => not_asPromised_of_disorder hinv hcond hstep

/-- A transaction that takes every datagram. -/
def openEnv : H3DatagramAsyncSocket.WriteEnv := ⟨true, 1500, true⟩

/-- The second datagram, written after `connectSuccess`, goes out before the answer
and before the first one. -/
theorem writeSide_overtakes :
    ∃ r, [.write openEnv (.wrapBuffer [1]), .connectSuccess true [true],
        .write openEnv (.wrapBuffer [2]), .onHeadersComplete 200].foldlM (step 100) (start 100) =
          .ok r ∧
      r.accepted = [[1], [2]] ∧ r.sent = [[2], [1]] ∧ ¬ r.AsPromised 100 := by
  refine ⟨_, rfl, rfl, rfl, fun hpromised => ?_⟩
  cases hpromised.notEarly

end WriteRun

end MasqueQuic
