/-
What every function of a transport keeps.

The functions of `ServerTransport` are built from a few changes of the world. A relation between worlds
that is reflexive and transitive and holds of each of these changes holds of the functions too:
`ClosingSteps` names the changes of a close, `TransportSteps` those of reads and crypto events. The
rules below go from the changes to the functions once, for every relation and every kind of fault.
-/

import MasqueQuic.Quic.ServerTransport

namespace MasqueQuic

namespace WorkerWorld

variable {α ι : Type}

/-! ### What a read changes -/

/-- The fields that reading frames leaves as they are. -/
structure SameBinding (transport transport' : ServerTransport α ι) : Prop where
  source : transport'.source = transport.source
  setup : transport'.setup = transport.setup
  closeState : transport'.closeState = transport.closeState
  routingCb : transport'.routingCb = transport.routingCb
  connSetupCallback : transport'.connSetupCallback = transport.connSetupCallback
  drainTimeout : transport'.drainTimeout = transport.drainTimeout
  handshakeDoneNotified : transport'.handshakeDoneNotified = transport.handshakeDoneNotified

/-- Reads may follow each other. -/
theorem SameBinding.trans {transport transport' transport'' : ServerTransport α ι}
    (h : SameBinding transport transport') (h' : SameBinding transport' transport'') :
    SameBinding transport transport'' :=
  ⟨h'.source.trans h.source, h'.setup.trans h.setup, h'.closeState.trans h.closeState,
    h'.routingCb.trans h.routingCb, h'.connSetupCallback.trans h.connSetupCallback,
    h'.drainTimeout.trans h.drainTimeout,
    h'.handshakeDoneNotified.trans h.handshakeDoneNotified⟩

/-- RETIRE_CONNECTION_ID moves IDs between the lists of a transport and does nothing else. -/
theorem sameBinding_readFrames (input : ReadInput ι) (transport : ServerTransport α ι) :
    SameBinding transport (transport.readFrames input) := by
  have hretired : ∀ (numbers : List Nat) (transport : ServerTransport α ι),
      SameBinding transport (numbers.foldl ServerTransport.retireConnectionId transport) := by
    intro numbers
    induction numbers with
    | nil => exact fun _ => ⟨rfl, rfl, rfl, rfl, rfl, rfl, rfl⟩
    | cons number numbers ih =>
      intro transport
      have hfirst : SameBinding transport (transport.retireConnectionId number) := by
        unfold ServerTransport.retireConnectionId
        split
        · exact ⟨rfl, rfl, rfl, rfl, rfl, rfl, rfl⟩
        · exact ⟨rfl, rfl, rfl, rfl, rfl, rfl, rfl⟩
      exact hfirst.trans (ih _)
  have h := hretired input.retired transport
  exact ⟨h.source, h.setup, h.closeState, h.routingCb, h.connSetupCallback, h.drainTimeout,
    h.handshakeDoneNotified⟩

theorem modify_modify (w : WorkerWorld α ι) (t : Nat)
    (f g : ServerTransport α ι → ServerTransport α ι) :
    (w.modify t f).modify t g = w.modify t fun transport => g (f transport) := by
  unfold modify
  simp [Function.update_idem]

/-- The form in which a read is said to change one transport only. -/
theorem exists_eq_modify {w : WorkerWorld α ι} {t : Nat}
    {f : ServerTransport α ι → ServerTransport α ι}
    (h : SameBinding (w.transport t) (f (w.transport t))) :
    ∃ transport', SameBinding (w.transport t) transport' ∧
      w.modify t f = w.modify t fun _ => transport' :=
  ⟨f (w.transport t), h, rfl⟩

/-- A read changes the transport only, and keeps how it is bound. -/
theorem onServerReadData_eq [DecidableEq ι] {t : Nat} {w : WorkerWorld α ι} {input : ReadInput ι}
    {r : List ι × WorkerWorld α ι} (h : w.onServerReadData t input = .ok r) :
    ∃ transport', SameBinding (w.transport t) transport' ∧ r.2 = w.modify t fun _ => transport' := by
  have hstay : w = w.modify t fun _ => w.transport t := by
    unfold modify
    simp [Function.update_eq_self]
  unfold onServerReadData at h
  split at h
  · cases h
    exact ⟨w.transport t, ⟨rfl, rfl, rfl, rfl, rfl, rfl, rfl⟩, hstay⟩
  · rw [except_bind_eq_ok] at h
    obtain ⟨started, hstart, h⟩ := h
    have hstarted : ∃ transport', SameBinding (w.transport t) transport' ∧
        started.2 = w.modify t fun _ => transport' := by
      unfold startConnection chooseServerConnectionId at hstart
      split at hstart
      · split at hstart
        · cases hstart
        · next connId encoded' w' hcreate =>
            obtain ⟨r', -, heq⟩ := Option.map_eq_some_iff.mp hcreate
            cases heq
            cases hstart
            dsimp only
            rw [modify_modify]
            exact exists_eq_modify ⟨rfl, rfl, rfl, rfl, rfl, rfl, rfl⟩
      · cases hstart
        exact ⟨w.transport t, ⟨rfl, rfl, rfl, rfl, rfl, rfl, rfl⟩, hstay⟩
    obtain ⟨transport', hsame, heq⟩ := hstarted
    split at h
    · cases h
      exact ⟨transport', hsame, heq⟩
    · cases h
      refine ⟨transport'.readFrames input, ?_, ?_⟩
      · exact hsame.trans (sameBinding_readFrames input transport')
      · dsimp only
        rw [heq, modify_modify]

variable [DecidableEq α] [DecidableEq ι]

section Callbacks

variable {t : Nat} {w : WorkerWorld α ι}

/-! ### Callbacks into the worker -/

omit [DecidableEq α] in
@[simp] theorem transport_onConnectionIdAvailable (id : ι) :
    (w.onConnectionIdAvailable t id).transport = w.transport := by
  unfold onConnectionIdAvailable
  split
  · rfl
  · rfl

omit [DecidableEq α] in
@[simp] theorem created_onConnectionIdAvailable (id : ι) :
    (w.onConnectionIdAvailable t id).created = w.created := by
  unfold onConnectionIdAvailable
  split
  · rfl
  · rfl

@[simp] theorem transport_onConnectionIdBound : (w.onConnectionIdBound t).transport = w.transport := by
  unfold onConnectionIdBound
  split
  · rfl
  · rfl

@[simp] theorem created_onConnectionIdBound : (w.onConnectionIdBound t).created = w.created := by
  unfold onConnectionIdBound
  split
  · rfl
  · rfl

omit [DecidableEq α] in
/-- Retiring IDs touches a map of the worker, and no transport. -/
theorem foldl_onConnectionIdRetired (ids : List ι) (w : WorkerWorld α ι) :
    (ids.foldl (fun w id => w.onConnectionIdRetired id) w).transport = w.transport ∧
      (ids.foldl (fun w id => w.onConnectionIdRetired id) w).created = w.created := by
  induction ids generalizing w with
  | nil => exact ⟨rfl, rfl⟩
  | cons id ids ih => exact ih (w.onConnectionIdRetired id)

@[simp] theorem transport_onConnectionUnbound :
    (w.onConnectionUnbound t).transport = w.transport := rfl

theorem transport_unbindConnection_of_ne {u : Nat} (h : u ≠ t) :
    (w.unbindConnection t).transport u = w.transport u := by
  unfold unbindConnection
  split
  · dsimp only
    split
    · rw [transport_onConnectionUnbound]
      exact transport_modify_of_ne _ t _ h
    · exact transport_modify_of_ne _ t _ h
  · rfl

theorem created_unbindConnection : (w.unbindConnection t).created = w.created := by
  unfold unbindConnection
  split
  · dsimp only
    split
    · rfl
    · rfl
  · rfl

/-- The transport itself only loses its callback to the worker. -/
theorem transport_unbindConnection : (w.unbindConnection t).transport t =
    { w.transport t with routingCb := false } := by
  unfold unbindConnection
  split
  · dsimp only
    split
    · rw [transport_onConnectionUnbound]
      exact transport_modify _ t _
    · exact transport_modify _ t _
  · next h =>
      rw [Bool.not_eq_true] at h
      rw [← h]

end Callbacks

/-! ### Relations -/

/-- The changes of a close. A timeout is set or cancelled, and the connection unbound, only when it
has been closed. -/
structure ClosingSteps (t : Nat) (R : WorkerWorld α ι → WorkerWorld α ι → Prop) : Prop where
  refl : ∀ w, R w w
  trans : ∀ {w w' w''}, R w w' → R w' w'' → R w w''
  closed : ∀ {w w'}, R w w' → (w.transport t).closeState = .closed →
    (w'.transport t).closeState = .closed
  count : ∀ w n, R w ({ w with globalUnfinishedHandshakes := n }.modify t fun transport =>
    { transport with handshakeFinishedCb := false })
  close : ∀ w, (w.transport t).closeState ≠ .closed →
    R w (w.modify t fun transport => { transport with closeState := .closed })
  resetCallbacks : ∀ w,
    R w (w.modify t fun transport => { transport with connSetupCallback := false })
  closeGracefully : ∀ w, (w.transport t).closeState = .open →
    R w (w.modify t fun transport =>
      { transport with connSetupCallback := false, closeState := .gracefulClosing })
  drain : ∀ w drainTimeout, (w.transport t).closeState = .closed →
    R w (w.modify t fun transport => { transport with drainTimeout := drainTimeout })
  unbind : ∀ w, (w.transport t).closeState = .closed → R w (w.unbindConnection t)

/-- The changes of reads and crypto events. -/
structure TransportSteps (t : Nat) (R : WorkerWorld α ι → WorkerWorld α ι → Prop) : Prop
    extends ClosingSteps t R where
  notifyRouting : ∀ w, R w (w.maybeNotifyRouting t)
  notifyBound : ∀ w, R w (w.maybeNotifyConnectionIdBound t)
  notifyRetired : ∀ w, R w (w.maybeNotifyConnectionIdRetired t)
  notified : ∀ w, R w (w.modify t fun transport => { transport with handshakeDoneNotified := true })
  ready : ∀ w, R w (w.modify t fun transport => { transport with transportReadyNotified := true })
  issue : ∀ {w encoded connId encoded' w'},
    w.createAndAddNewSelfConnId t encoded = some (connId, encoded', w') →
    (w'.transport t).routingCb = true → R w (w'.onConnectionIdAvailable t connId)
  read : ∀ {w input r}, (w.transport t).closeState ≠ .closed →
    w.onServerReadData t input = .ok r → R w r.2
  handshake : ∀ w done, (w.transport t).closeState ≠ .closed →
    R w (w.modify t fun transport =>
      { transport with isHandshakeDone := transport.isHandshakeDone || done })
  update : ∀ w cipher limit, (w.transport t).closeState ≠ .closed →
    R w (w.modify t fun transport =>
      { transport with
        hasWriteCipher := transport.hasWriteCipher || cipher
        peerActiveConnectionIdLimit := limit })

/-! ### Closing -/

variable {t : Nat} {R : WorkerWorld α ι → WorkerWorld α ι → Prop} {E : ServerFault → Prop}

namespace ClosingSteps

/-- The count that falls below zero is the one fault of a close. -/
theorem closeTransport_ends (hR : ClosingSteps t R) (hE : E .unfinishedHandshakes)
    (w : WorkerWorld α ι) : Ends E (w.closeTransport t) (R w) := by
  unfold WorkerWorld.closeTransport onHandshakeUnfinished
  split
  · dsimp only
    split
    · exact .ok (hR.count w _)
    · exact .error hE
  · exact .ok (hR.refl w)

/-- A close leaves the transport closed. -/
theorem closeImpl_ends (hR : ClosingSteps t R) (hE : E .unfinishedHandshakes)
    (drainConnection noDrain : Bool) (w : WorkerWorld α ι) :
    Ends E (w.closeImpl t drainConnection noDrain) fun w' =>
      R w w' ∧ (w'.transport t).closeState = .closed := by
  unfold WorkerWorld.closeImpl
  split
  · next hclosed => exact .ok ⟨hR.refl w, hclosed⟩
  · next hopen =>
      have hclose := hR.close w hopen
      have hclosed : ((w.modify t fun transport =>
          { transport with closeState := .closed }).transport t).closeState = .closed := by
        rw [transport_modify]
      refine (hR.closeTransport_ends hE _).bind fun w₁ hw₁ => Ends.ok ?_
      have hreset := hR.trans (hR.trans hclose hw₁) (hR.resetCallbacks w₁)
      have hclosed' := hR.closed (hR.trans hw₁ (hR.resetCallbacks w₁)) hclosed
      unfold drainOrUnbind drainTimeoutExpired
      split
      · have hdrain := hR.drain _ true hclosed'
        exact ⟨hR.trans hreset hdrain, hR.closed hdrain hclosed'⟩
      · have hunbind := hR.unbind _ hclosed'
        exact ⟨hR.trans hreset hunbind, hR.closed hunbind hclosed'⟩

theorem close_ends (hR : ClosingSteps t R) (hE : E .unfinishedHandshakes) (noDrain : Bool)
    (w : WorkerWorld α ι) : Ends E (w.close t noDrain) (R w) :=
  (hR.closeImpl_ends hE true noDrain _).imp fun _ hw' => hR.trans (hR.resetCallbacks w) hw'.1

/-- A drain that waits is cancelled, and the transport closed all the same. -/
theorem closeNow_ends (hR : ClosingSteps t R) (hE : E .unfinishedHandshakes) (w : WorkerWorld α ι) :
    Ends E (w.closeNow t) fun w' => R w w' ∧ (w'.transport t).closeState = .closed := by
  unfold WorkerWorld.closeNow
  refine (hR.closeImpl_ends hE false false w).bind fun w₁ hw₁ => ?_
  obtain ⟨hw₁, hclosed⟩ := hw₁
  split
  · have hdrain := hR.drain w₁ false hclosed
    have hunbind := hR.unbind _ (hR.closed hdrain hclosed)
    exact .ok ⟨hR.trans hw₁ (hR.trans hdrain hunbind),
      hR.closed hunbind (hR.closed hdrain hclosed)⟩
  · exact .ok ⟨hw₁, hclosed⟩

/-- Each call of the application is made of the changes of a close. -/
theorem appCall_ends (hR : ClosingSteps t R) (hE : E .unfinishedHandshakes) (w : WorkerWorld α ι)
    (call : AppCall) : Ends E (w.appCall t call) (R w) := by
  cases call with
  | close noDrain => exact hR.close_ends hE noDrain w
  | closeNow => exact (hR.closeNow_ends hE w).imp fun _ hw' => hw'.1
  | closeGracefully noStreams =>
    dsimp only [WorkerWorld.appCall, WorkerWorld.closeGracefully]
    split
    · exact .ok (hR.refl w)
    · next hopen =>
        have hgraceful := hR.closeGracefully w (not_not.mp hopen)
        split
        · exact (hR.closeImpl_ends hE true false _).imp fun _ hw' => hR.trans hgraceful hw'.1
        · exact .ok hgraceful

theorem appCalls_ends (hR : ClosingSteps t R) (hE : E .unfinishedHandshakes) (calls : List AppCall)
    (w : WorkerWorld α ι) : Ends E (w.appCalls t calls) (R w) := by
  unfold WorkerWorld.appCalls
  induction calls generalizing w with
  | nil => exact .ok (hR.refl w)
  | cons call calls ih =>
    rw [List.foldlM_cons]
    exact (hR.appCall_ends hE w call).bind fun w₁ hw₁ =>
      (ih w₁).imp fun _ hw' => hR.trans hw₁ hw'

/-- A destroyed transport is closed without a drain, and its timeout is cancelled. -/
theorem destroy_ends (hR : ClosingSteps t R) (hE : E .unfinishedHandshakes) (w : WorkerWorld α ι) :
    Ends E (w.destroy t) (R w) := by
  unfold WorkerWorld.destroy
  split
  · exact .ok (hR.refl w)
  · exact (hR.closeImpl_ends hE false false w).bind fun w₁ hw₁ =>
      .ok (hR.trans hw₁.1 (hR.drain w₁ false hw₁.2))

end ClosingSteps

/-! ### Reads and crypto events -/

namespace TransportSteps

/-- Faults of the steps that are not excluded. -/
structure Allows (E : ServerFault → Prop) : Prop where
  unfinishedHandshakes : E .unfinishedHandshakes
  routingCallback : E .routingCallback
  serverConnectionId : E .serverConnectionId

theorem maybeNotifyFirstPeerPacket_ends (hR : TransportSteps t R) (hE : E .unfinishedHandshakes)
    (waitingForFirstPacket : Bool) (calls : List AppCall) (w : WorkerWorld α ι) :
    Ends E (w.maybeNotifyFirstPeerPacket t waitingForFirstPacket calls) (R w) := by
  unfold WorkerWorld.maybeNotifyFirstPeerPacket
  split
  · exact hR.appCalls_ends hE calls w
  · exact .ok (hR.refl w)

/-- The handshake is counted, the callback told, and the flag set, in this order. -/
theorem maybeNotifyHandshakeFinished_ends (hR : TransportSteps t R) (hE : E .unfinishedHandshakes)
    (calls : List AppCall) (w : WorkerWorld α ι) :
    Ends E (w.maybeNotifyHandshakeFinished t calls) (R w) := by
  unfold WorkerWorld.maybeNotifyHandshakeFinished
  split
  · have hcount : Ends E (w.countHandshakeFinished t) (R w) := by
      unfold countHandshakeFinished onHandshakeFinished
      split
      · dsimp only
        split
        · exact .ok (hR.count w _)
        · exact .error hE
      · exact .ok (hR.refl w)
    refine hcount.bind fun w₁ hw₁ => ?_
    split
    · exact (hR.appCalls_ends hE calls w₁).bind fun w₂ hw₂ =>
        .ok (hR.trans hw₁ (hR.trans hw₂ (hR.notified w₂)))
    · exact .ok hw₁
  · exact .ok (hR.refl w)

/-- Induction on the IDs that are still to be issued; each one is a change of its own. -/
theorem issueConnectionIds_ends (hR : TransportSteps t R) (hE : E .routingCallback) (n : Nat)
    (encoded : List ι) (w : WorkerWorld α ι) : Ends E (w.issueConnectionIds t n encoded) (R w) := by
  induction n generalizing encoded w with
  | zero => exact .ok (hR.refl w)
  | succ n ih =>
    unfold WorkerWorld.issueConnectionIds
    split
    · exact .ok (hR.refl w)
    · next connId encoded' w₁ hcreate =>
        split
        · exact .error hE
        · next hbound =>
            rw [Bool.not_eq_false] at hbound
            exact (ih encoded' _).imp fun _ hw' => hR.trans (hR.issue hcreate hbound) hw'

theorem maybeIssueConnectionIds_ends (hR : TransportSteps t R) (hE : E .routingCallback)
    (encoded : List ι) (w : WorkerWorld α ι) :
    Ends E (w.maybeIssueConnectionIds t encoded) (R w) := by
  unfold WorkerWorld.maybeIssueConnectionIds
  split
  · exact hR.issueConnectionIds_ends hE _ encoded w
  · exact .ok (hR.refl w)

theorem maybeNotifyTransportReady_ends (hR : TransportSteps t R) (hE : E .unfinishedHandshakes)
    (calls : List AppCall) (w : WorkerWorld α ι) :
    Ends E (w.maybeNotifyTransportReady t calls) (R w) := by
  unfold WorkerWorld.maybeNotifyTransportReady
  split
  · exact (hR.appCalls_ends hE calls _).imp fun _ hw' => hR.trans (hR.ready w) hw'
  · exact .ok (hR.refl w)

/-- A closed transport reads nothing, and a read may fail for want of an ID only. -/
theorem onServerReadData_ends (hR : TransportSteps t R) (hE : E .serverConnectionId)
    (input : ReadInput ι) (w : WorkerWorld α ι) :
    Ends E (w.onServerReadData t input) fun r => w.onServerReadData t input = .ok r ∧ R w r.2 := by
  by_cases hclosed : (w.transport t).closeState = .closed
  · have heq : w.onServerReadData t input = .ok (input.encoded, w) := if_pos hclosed
    rw [heq]
    exact .ok ⟨rfl, hR.refl w⟩
  · cases hread : w.onServerReadData t input with
    | ok r => exact .ok ⟨rfl, hR.read hclosed hread⟩
    | error fault =>
      have hfault : fault = .serverConnectionId := by
        unfold onServerReadData startConnection chooseServerConnectionId at hread
        rw [if_neg hclosed] at hread
        split at hread
        · split at hread
          · cases hread
            rfl
          · dsimp only [bind, Except.bind] at hread
            split at hread <;> cases hread
        · dsimp only [bind, Except.bind] at hread
          split at hread <;> cases hread
      rw [hfault]
      exact .error hE

variable (hR : TransportSteps t R) (hE : Allows E)

include hR hE

theorem notifyAfterRead_ends (input : ReadInput ι) (encoded : List ι) (w : WorkerWorld α ι) :
    Ends E (w.notifyAfterRead t input encoded) (R w) := by
  unfold notifyAfterRead
  refine (hR.maybeNotifyHandshakeFinished_ends hE.unfinishedHandshakes _ _).bind
    fun w₁ hw₁ => ?_
  refine (hR.maybeIssueConnectionIds_ends hE.routingCallback _ _).bind fun w₂ hw₂ => ?_
  refine (hR.maybeNotifyTransportReady_ends hE.unfinishedHandshakes _ _).imp fun w' hw' => ?_
  have hfinished := hR.trans (hR.notifyBound w) hw₁
  have hissued := hR.trans (hR.notifyRetired w₁) hw₂
  exact hR.trans hfinished (hR.trans hissued hw')

theorem onReadData_ends (input : ReadInput ι) (w : WorkerWorld α ι) :
    Ends E (w.onReadData t input) fun r => R w r.2 := by
  unfold onReadData
  refine (hR.onServerReadData_ends hE.serverConnectionId input w).bind fun read hread => ?_
  obtain ⟨-, hread⟩ := hread
  split
  · exact .ok hread
  · split
    · exact .ok hread
    · refine (hR.maybeNotifyFirstPeerPacket_ends hE.unfinishedHandshakes _ _ _).bind
        fun w₁ hw₁ => ?_
      have hfirst := hR.trans hread (hR.trans (hR.notifyRouting read.2) hw₁)
      split
      · exact .ok hfirst
      · exact (hR.notifyAfterRead_ends hE input read.1 w₁).bind fun w₂ hw₂ =>
          .ok (hR.trans hfirst hw₂)

/-- Whatever ends the read, an exception or an error of the peer, a close follows. -/
theorem onNetworkData_ends (input : ReadInput ι) (w : WorkerWorld α ι) :
    Ends E (w.onNetworkData t input) (R w) := by
  unfold onNetworkData
  refine (hR.onReadData_ends hE input w).bind fun read hread => ?_
  split
  · exact (hR.closeImpl_ends hE.unfinishedHandshakes true _ _).imp fun _ hw' =>
      hR.trans hread hw'.1
  · exact (hR.closeImpl_ends hE.unfinishedHandshakes true _ _).imp fun _ hw' =>
      hR.trans hread hw'.1
  · split
    · exact .ok hread
    · exact (hR.appCalls_ends hE.unfinishedHandshakes _ _).imp fun _ hw' => hR.trans hread hw'

/-- Data that had to wait for its key is read until the transport is closed. -/
theorem processPendingData_ends (pendingData : List (ReadInput ι)) (w : WorkerWorld α ι) :
    Ends E (processPendingData t pendingData w) (R w) := by
  induction pendingData generalizing w with
  | nil => exact .ok (hR.refl w)
  | cons input pendingData ih =>
    unfold processPendingData
    refine (hR.onNetworkData_ends hE input w).bind fun w₁ hw₁ => ?_
    split
    · exact .ok hw₁
    · exact (ih w₁).imp fun _ hw' => hR.trans hw₁ hw'

theorem notifyAfterCrypto_ends (input : CryptoInput ι) (w : WorkerWorld α ι) :
    Ends E (w.notifyAfterCrypto t input) (R w) := by
  unfold notifyAfterCrypto
  split
  · exact .ok (hR.refl w)
  · split
    · exact (hR.closeImpl_ends hE.unfinishedHandshakes true _ w).imp fun _ hw' => hw'.1
    · refine (hR.maybeNotifyHandshakeFinished_ends hE.unfinishedHandshakes _ _).bind
        fun w₁ hw₁ => ?_
      have hfinished := hR.trans (hR.notifyBound w) hw₁
      refine (hR.maybeIssueConnectionIds_ends hE.routingCallback _ w₁).bind fun w₂ hw₂ => ?_
      have hissued := hR.trans hfinished hw₂
      split
      · exact (hR.closeImpl_ends hE.unfinishedHandshakes true _ w₂).imp fun _ hw' =>
          hR.trans hissued hw'.1
      · exact (hR.maybeNotifyTransportReady_ends hE.unfinishedHandshakes _ w₂).imp fun _ hw' =>
          hR.trans hissued hw'

/-- The handshake goes on, then what waited is read, then the callbacks are told. -/
theorem onCryptoEventAvailable_ends (input : CryptoInput ι) (w : WorkerWorld α ι) :
    Ends E (w.onCryptoEventAvailable t input) (R w) := by
  unfold onCryptoEventAvailable
  split
  · exact .ok (hR.refl w)
  · next hopen =>
      have hdone := hR.handshake w input.handshakeDone hopen
      have hopen' : ((w.modify t fun transport =>
          { transport with isHandshakeDone := transport.isHandshakeDone || input.handshakeDone
            }).transport t).closeState ≠ .closed := by
        rwa [transport_modify]
      dsimp only
      split
      · exact .ok hdone
      · split
        · exact (hR.closeImpl_ends hE.unfinishedHandshakes true _ _).imp fun _ hw' =>
            hR.trans hdone hw'.1
        · have hupdate := hR.trans hdone
            (hR.update _ input.writeCipher input.peerActiveConnectionIdLimit hopen')
          refine (hR.processPendingData_ends hE _ _).bind fun w₁ hw₁ => ?_
          exact (hR.notifyAfterCrypto_ends hE input w₁).imp fun _ hw' =>
            hR.trans hupdate (hR.trans hw₁ hw')

end TransportSteps

end WorkerWorld

end MasqueQuic
