/-
Closing from a callback.

`closeNow`, and a close that does not drain, unbind a connection while `onReadData` or
`onCryptoEventAvailable` goes on behind the callback. `ClosesSafely` says of a step that no connection
ends in a callback while it has IDs to issue, and `closingCallbacks_safe` is about the runs of such
steps.
-/

import MasqueQuic.Quic.ClosePhases

namespace MasqueQuic

namespace WorkerWorld

variable {α ι : Type}

/-! ### Connections that stay bound -/

/-- A transport that is bound as it should be stays so, and one that is not bound gets no ID. -/
structure Binds (t : Nat) (w w' : WorkerWorld α ι) : Prop where
  frame : ∀ u, u ≠ t → w'.transport u = w.transport u
  created : w'.created = w.created
  closed : (w.transport t).closeState = .closed → (w'.transport t).closeState = .closed
  isBound : w.IsBound t → w'.IsBound t
  unbound : w.IsBound t → (w.transport t).routingCb = false →
    (w'.transport t).routingCb = false ∧
      (w'.transport t).nextSelfConnectionIdSequence = (w.transport t).nextSelfConnectionIdSequence

namespace Binds

variable {t : Nat} {w w' w'' : WorkerWorld α ι}

theorem trans (h : Binds t w w') (h' : Binds t w' w'') : Binds t w w'' where
  frame u hu := (h'.frame u hu).trans (h.frame u hu)
  created := h'.created.trans h.created
  closed hc := h'.closed (h.closed hc)
  isBound hb := h'.isBound (h.isBound hb)
  unbound hb hr := by
    obtain ⟨hr', hseq⟩ := h.unbound hb hr
    obtain ⟨hr'', hseq'⟩ := h'.unbound (h.isBound hb) hr'
    exact ⟨hr'', hseq'.trans hseq⟩

/-- The fields that matter are as they were. -/
theorem of_same (hframe : ∀ u, u ≠ t → w'.transport u = w.transport u)
    (hcreated : w'.created = w.created)
    (hstate : (w'.transport t).closeState = (w.transport t).closeState)
    (hrouting : (w'.transport t).routingCb = (w.transport t).routingCb)
    (hdrain : (w'.transport t).drainTimeout = (w.transport t).drainTimeout)
    (hsetup : (w.transport t).connSetupCallback = false →
      (w'.transport t).connSetupCallback = false)
    (hseq : (w.transport t).routingCb = false → (w.transport t).closeState = .closed →
      (w'.transport t).nextSelfConnectionIdSequence =
        (w.transport t).nextSelfConnectionIdSequence) : Binds t w w' where
  frame := hframe
  created := hcreated
  closed hc := hstate.trans hc
  isBound hb := by
    refine ⟨fun hopen => ?_, fun hgraceful => ?_⟩
    · rw [hrouting, hdrain]
      exact hb.bound (hstate ▸ hopen)
    · exact hsetup (hb.graceful (hstate ▸ hgraceful))
  unbound hb hr := by
    refine ⟨hrouting.trans hr, hseq hr ?_⟩
    by_contra hopen
    rw [(hb.bound hopen).1] at hr
    cases hr

/-- Another change of the transport. -/
theorem modify {f : ServerTransport α ι → ServerTransport α ι}
    (hstate : (f (w.transport t)).closeState = (w.transport t).closeState)
    (hrouting : (f (w.transport t)).routingCb = (w.transport t).routingCb)
    (hdrain : (f (w.transport t)).drainTimeout = (w.transport t).drainTimeout)
    (hsetup : (f (w.transport t)).connSetupCallback = (w.transport t).connSetupCallback)
    (hseq : (f (w.transport t)).nextSelfConnectionIdSequence =
      (w.transport t).nextSelfConnectionIdSequence) : Binds t w (w.modify t f) := by
  apply of_same
  · intro u hu
    exact transport_modify_of_ne w t f hu
  · rfl
  · rw [transport_modify, hstate]
  · rw [transport_modify, hrouting]
  · rw [transport_modify, hdrain]
  · rw [transport_modify, hsetup]
    exact id
  · intro _ _
    rw [transport_modify, hseq]

theorem of_transport (htransport : w'.transport = w.transport) (hcreated : w'.created = w.created) :
    Binds t w w' := by
  apply of_same
  · intro u _
    rw [htransport]
  · exact hcreated
  all_goals
    rw [htransport]
  · exact id
  · exact fun _ _ => rfl

/-- A transport that is closed may be unbound. -/
theorem of_closed (hframe : ∀ u, u ≠ t → w'.transport u = w.transport u)
    (hcreated : w'.created = w.created) (hclosed : (w'.transport t).closeState = .closed)
    (hrouting : (w.transport t).routingCb = false → (w'.transport t).routingCb = false)
    (hseq : (w'.transport t).nextSelfConnectionIdSequence =
      (w.transport t).nextSelfConnectionIdSequence) : Binds t w w' where
  frame := hframe
  created := hcreated
  closed _ := hclosed
  isBound _ := by
    refine ⟨fun hopen => absurd hclosed hopen, fun hgraceful => ?_⟩
    rw [hclosed] at hgraceful
    cases hgraceful
  unbound _ hr := ⟨hrouting hr, hseq⟩

end Binds

variable [DecidableEq α] [DecidableEq ι] {t : Nat} {w : WorkerWorld α ι}

/-! ### Every step binds -/

theorem closingSteps_binds (t : Nat) : ClosingSteps t (Binds (α := α) (ι := ι) t) where
  refl w := .of_transport rfl rfl
  trans := Binds.trans
  closed h := h.closed
  count w n := by
    apply Binds.of_same
    · intro u hu
      exact transport_modify_of_ne _ t _ hu
    · rfl
    all_goals rw [transport_modify]
    · exact id
    · exact fun _ _ => rfl
  close w hopen := by
    apply Binds.of_closed
    · intro u hu
      exact transport_modify_of_ne w t _ hu
    · rfl
    all_goals rw [transport_modify]
    exact id
  resetCallbacks w := by
    apply Binds.of_same
    · intro u hu
      exact transport_modify_of_ne w t _ hu
    · rfl
    all_goals rw [transport_modify]
    · exact fun _ => rfl
    · exact fun _ _ => rfl
  closeGracefully w hopen := by
    have hne : (w.transport t).closeState ≠ .closed := by
      rw [hopen]
      nofun
    constructor
    · intro u hu
      exact transport_modify_of_ne w t _ hu
    · rfl
    · exact fun h => absurd h hne
    · intro hb
      constructor
      · intro _
        rw [transport_modify]
        exact hb.bound hne
      · intro _
        rw [transport_modify]
    · intro hb hr
      rw [(hb.bound hne).1] at hr
      cases hr
  drain w drainTimeout hclosed := by
    apply Binds.of_closed
    · intro u hu
      exact transport_modify_of_ne w t _ hu
    · rfl
    all_goals rw [transport_modify]
    · exact hclosed
    · exact id
  unbind w hclosed := by
    apply Binds.of_closed
    · intro u hu
      exact transport_unbindConnection_of_ne hu
    · exact created_unbindConnection
    all_goals rw [transport_unbindConnection]
    · exact hclosed
    · exact fun _ => rfl

theorem transportSteps_binds (t : Nat) : TransportSteps t (Binds (α := α) (ι := ι) t) where
  toClosingSteps := closingSteps_binds t
  notifyRouting w := by
    unfold maybeNotifyRouting
    split
    · exact .of_transport rfl rfl
    · split
      · have hnotified : Binds t w (w.modify t fun transport =>
            { transport with notifiedRouting := true }) := .modify rfl rfl rfl rfl rfl
        apply hnotified.trans
        apply Binds.of_transport
        · exact transport_onConnectionIdAvailable _
        · exact created_onConnectionIdAvailable _
      · exact .of_transport rfl rfl
  notifyBound w := by
    unfold maybeNotifyConnectionIdBound
    split
    · have hnotified : Binds t w (w.modify t fun transport =>
          { transport with notifiedConnIdBound := true }) := .modify rfl rfl rfl rfl rfl
      apply hnotified.trans
      apply Binds.of_transport
      · exact transport_onConnectionIdBound
      · exact created_onConnectionIdBound
    · exact .of_transport rfl rfl
  notifyRetired w := by
    unfold maybeNotifyConnectionIdRetired
    split
    · obtain ⟨htransport, hcreated⟩ :=
        foldl_onConnectionIdRetired (w.transport t).connIdsRetiringSoon w
      exact Binds.trans (.of_transport htransport hcreated) (.modify rfl rfl rfl rfl rfl)
    · exact .of_transport rfl rfl
  notified w := .modify rfl rfl rfl rfl rfl
  ready w := .modify rfl rfl rfl rfl rfl
  issue {w encoded connId encoded' w'} hcreate hbound := by
    obtain ⟨r, -, heq⟩ := Option.map_eq_some_iff.mp hcreate
    cases heq
    rw [transport_modify] at hbound
    apply Binds.of_same
    · intro u hu
      rw [transport_onConnectionIdAvailable]
      exact transport_modify_of_ne w t _ hu
    · exact created_onConnectionIdAvailable _
    all_goals rw [transport_onConnectionIdAvailable, transport_modify]
    · exact id
    · intro hunbound _
      rw [hunbound] at hbound
      cases hbound
  read {w input r} hopen hread := by
    obtain ⟨transport', hsame, heq⟩ := onServerReadData_eq hread
    rw [heq]
    apply Binds.of_same
    · intro u hu
      exact transport_modify_of_ne w t _ hu
    · rfl
    all_goals rw [transport_modify]
    · exact hsame.closeState
    · exact hsame.routingCb
    · exact hsame.drainTimeout
    · rw [hsame.connSetupCallback]
      exact id
    · exact fun _ hclosed => absurd hclosed hopen
  handshake w done _ := .modify rfl rfl rfl rfl rfl
  update w cipher limit _ := .modify rfl rfl rfl rfl rfl

/-! ### What callbacks leave of the IDs to issue -/

/-- What `maybeIssueConnectionIds` and `maybeNotifyRouting` go by is as it was. -/
structure KeepsIds (t : Nat) (w w' : WorkerWorld α ι) : Prop where
  setup : (w'.transport t).setup = (w.transport t).setup
  isHandshakeDone : (w'.transport t).isHandshakeDone = (w.transport t).isHandshakeDone
  selfConnectionIds : (w'.transport t).selfConnectionIds = (w.transport t).selfConnectionIds
  limit : (w'.transport t).peerActiveConnectionIdLimit =
    (w.transport t).peerActiveConnectionIdLimit
  sequence : (w'.transport t).nextSelfConnectionIdSequence =
    (w.transport t).nextSelfConnectionIdSequence
  serverConnectionId : (w'.transport t).serverConnectionId = (w.transport t).serverConnectionId
  notifiedRouting : (w.transport t).notifiedRouting = true →
    (w'.transport t).notifiedRouting = true
  closed : (w.transport t).closeState = .closed → (w'.transport t).closeState = .closed

namespace KeepsIds

variable {w' w'' : WorkerWorld α ι}

omit [DecidableEq α] [DecidableEq ι] in
theorem refl (t : Nat) (w : WorkerWorld α ι) : KeepsIds t w w :=
  ⟨rfl, rfl, rfl, rfl, rfl, rfl, id, id⟩

omit [DecidableEq α] [DecidableEq ι] in
theorem trans (h : KeepsIds t w w') (h' : KeepsIds t w' w'') : KeepsIds t w w'' :=
  ⟨h'.setup.trans h.setup, h'.isHandshakeDone.trans h.isHandshakeDone,
    h'.selfConnectionIds.trans h.selfConnectionIds, h'.limit.trans h.limit,
    h'.sequence.trans h.sequence, h'.serverConnectionId.trans h.serverConnectionId,
    fun hnotified => h'.notifiedRouting (h.notifiedRouting hnotified),
    fun hclosed => h'.closed (h.closed hclosed)⟩

omit [DecidableEq α] [DecidableEq ι] in
theorem issuesConnectionIds_eq (h : KeepsIds t w w') :
    (w'.transport t).issuesConnectionIds = (w.transport t).issuesConnectionIds := by
  unfold ServerTransport.issuesConnectionIds ServerTransport.maximumConnectionIdsToIssue
  rw [h.setup, h.isHandshakeDone, h.selfConnectionIds, h.limit]

end KeepsIds

theorem closingSteps_keepsIds (t : Nat) : ClosingSteps t (KeepsIds (α := α) (ι := ι) t) where
  refl w := .refl t w
  trans := KeepsIds.trans
  closed h := h.closed
  count w n := by
    constructor
    all_goals rw [transport_modify]
    · exact id
    · exact id
  close w _ := by
    constructor
    all_goals rw [transport_modify]
    · exact id
    · exact fun _ => rfl
  resetCallbacks w := by
    constructor
    all_goals rw [transport_modify]
    · exact id
    · exact id
  closeGracefully w hopen := by
    constructor
    all_goals rw [transport_modify]
    · exact id
    · rw [hopen]
      nofun
  drain w drainTimeout _ := by
    constructor
    all_goals rw [transport_modify]
    · exact id
    · exact id
  unbind w hclosed := by
    constructor
    all_goals rw [transport_unbindConnection]
    · exact id
    · exact id

omit [DecidableEq α] in
theorem maybeNotifyRouting_keeps (w : WorkerWorld α ι) :
    KeepsIds t w (w.maybeNotifyRouting t) ∧
      SameBinding (w.transport t) ((w.maybeNotifyRouting t).transport t) := by
  unfold maybeNotifyRouting
  split
  · exact ⟨.refl t w, ⟨rfl, rfl, rfl, rfl, rfl, rfl, rfl⟩⟩
  · split
    · constructor
      · constructor
        all_goals rw [transport_onConnectionIdAvailable, transport_modify]
        · exact fun _ => rfl
        · exact fun hclosed => hclosed
      · rw [transport_onConnectionIdAvailable, transport_modify]
        exact ⟨rfl, rfl, rfl, rfl, rfl, rfl, rfl⟩
    · exact ⟨.refl t w, ⟨rfl, rfl, rfl, rfl, rfl, rfl, rfl⟩⟩

omit [DecidableEq α] in
theorem hasReceivedPackets_maybeNotifyRouting (w : WorkerWorld α ι) :
    ((w.maybeNotifyRouting t).transport t).hasReceivedPackets =
      (w.transport t).hasReceivedPackets := by
  unfold maybeNotifyRouting
  split
  · rfl
  · split
    · rw [transport_onConnectionIdAvailable, transport_modify]
    · rfl

theorem maybeNotifyConnectionIdBound_keeps (w : WorkerWorld α ι) :
    KeepsIds t w (w.maybeNotifyConnectionIdBound t) ∧
      SameBinding (w.transport t) ((w.maybeNotifyConnectionIdBound t).transport t) := by
  unfold maybeNotifyConnectionIdBound
  split
  · constructor
    · constructor
      all_goals rw [transport_onConnectionIdBound, transport_modify]
      · exact id
      · exact id
    · rw [transport_onConnectionIdBound, transport_modify]
      exact ⟨rfl, rfl, rfl, rfl, rfl, rfl, rfl⟩
  · exact ⟨.refl t w, ⟨rfl, rfl, rfl, rfl, rfl, rfl, rfl⟩⟩

omit [DecidableEq α] in
theorem maybeNotifyConnectionIdRetired_keeps (w : WorkerWorld α ι) :
    KeepsIds t w (w.maybeNotifyConnectionIdRetired t) ∧
      SameBinding (w.transport t) ((w.maybeNotifyConnectionIdRetired t).transport t) := by
  unfold maybeNotifyConnectionIdRetired
  split
  · obtain ⟨htransport, -⟩ :=
      foldl_onConnectionIdRetired (w.transport t).connIdsRetiringSoon w
    constructor
    · constructor
      all_goals rw [transport_modify, htransport]
      · exact id
      · exact id
    · rw [transport_modify, htransport]
      exact ⟨rfl, rfl, rfl, rfl, rfl, rfl, rfl⟩
  · exact ⟨.refl t w, ⟨rfl, rfl, rfl, rfl, rfl, rfl, rfl⟩⟩

/-! ### Issuing -/

/-- Every fault but the failing `CHECK(routingCb_)`. -/
def StaysRouted (fault : ServerFault) : Prop := fault ≠ .routingCallback

theorem staysRouted_unfinishedHandshakes : StaysRouted .unfinishedHandshakes := by
  unfold StaysRouted
  simp

omit [DecidableEq α] in
theorem issueConnectionIds_bound (n : Nat) (encoded : List ι) (w : WorkerWorld α ι)
    (h : encoded ≠ [] → (w.transport t).routingCb = true) :
    Ends StaysRouted (w.issueConnectionIds t n encoded) fun _ => True := by
  induction n generalizing encoded w with
  | zero => exact .ok trivial
  | succ n ih =>
    unfold issueConnectionIds
    split
    · exact .ok trivial
    · next connId encoded' w₁ hcreate =>
        have hne : encoded ≠ [] := by
          rintro rfl
          simp [createAndAddNewSelfConnId, encodeConnectionId] at hcreate
        obtain ⟨r, -, heq⟩ := Option.map_eq_some_iff.mp hcreate
        cases heq
        have hbound := h hne
        rw [transport_modify, hbound, if_neg (by simp)]
        apply ih
        intro _
        rw [transport_onConnectionIdAvailable, transport_modify]
        exact hbound

omit [DecidableEq α] in
theorem maybeIssueConnectionIds_bound (encoded : List ι) (w : WorkerWorld α ι)
    (h : (w.transport t).issuesConnectionIds = true → encoded ≠ [] →
      (w.transport t).routingCb = true) :
    Ends StaysRouted (w.maybeIssueConnectionIds t encoded) fun _ => True := by
  unfold maybeIssueConnectionIds
  split
  · next hissues => exact issueConnectionIds_bound _ encoded w (h hissues)
  · exact .ok trivial

/-! ### Steps that close safely -/

end WorkerWorld

namespace ServerTransport

variable {α ι : Type}

/-- The calls from callbacks that come before IDs are issued. After a call there is no further
callback. -/
def callsBeforeIssue (transport : ServerTransport α ι) (waitingForFirstPacket : Bool)
    (onFirstPeerPacketProcessed onFullHandshakeDone : List AppCall) : List AppCall :=
  if transport.connSetupCallback = false then []
  else if waitingForFirstPacket ∧ transport.hasReceivedPackets ∧
      onFirstPeerPacketProcessed.isEmpty = false then onFirstPeerPacketProcessed
  else if transport.handshakeDoneNotified then [] else onFullHandshakeDone

/-- The calls do not end the connection while it has IDs to issue. -/
def StaysBound (transport : ServerTransport α ι) (encoded : List ι) (calls : List AppCall) : Prop :=
  transport.issuesConnectionIds = true → encoded ≠ [] →
    transport.phase.afterAll transport.setup.shouldDrain calls ≠ .ended

end ServerTransport

namespace WorkerWorld

variable {α ι : Type} [DecidableEq α] [DecidableEq ι] {t : Nat} {w : WorkerWorld α ι}

def ReadClosesSafely (w : WorkerWorld α ι) (t : Nat) (input : ReadInput ι) : Prop :=
  ∀ read, w.onServerReadData t input = .ok read → (read.2.transport t).closeState ≠ .closed →
    input.readException = none → input.laterException = none →
    (read.2.transport t).StaysBound read.1
      ((read.2.transport t).callsBeforeIssue (!(w.transport t).hasReceivedPackets)
        input.onFirstPeerPacketProcessed input.onFullHandshakeDone)

def PendingClosesSafely (t : Nat) : List (ReadInput ι) → WorkerWorld α ι → Prop
  | [], _ => True
  | input :: pendingData, w => w.ReadClosesSafely t input ∧
      ∀ w', w.onNetworkData t input = .ok w' → (w'.transport t).closeState ≠ .closed →
        PendingClosesSafely t pendingData w'

def CryptoClosesSafely (w : WorkerWorld α ι) (t : Nat) (input : CryptoInput ι) : Prop :=
  (w.transport t).closeState = .open → input.updateException = none →
    PendingClosesSafely t input.pendingData (w.updated t input) ∧
      ∀ w', processPendingData t input.pendingData (w.updated t input) = .ok w' →
        (w'.transport t).closeState ≠ .closed → input.laterException = none →
        (w'.transport t).StaysBound input.encoded
          ((w'.transport t).callsBeforeIssue false [] input.onFullHandshakeDone)

def ClosesSafely (w : WorkerWorld α ι) : WorkerEvent α ι → Prop
  | .longHeader source isInitial setup input => w.shutdown = false →
      ∀ t w', w.dispatchLongHeader source isInitial setup = .ok (some t, w') →
        w'.ReadClosesSafely t input
  | .shortHeader dstConnId input => w.shutdown = false →
      ∀ t, findEntry dstConnId w.connectionIdMap = some t → w.ReadClosesSafely t input
  | .cryptoEvent t input => w.CryptoClosesSafely t input
  | _ => True

/-! ### Reads and crypto events -/

theorem maybeNotifyHandshakeFinished_phase {drains : Bool} {phase : ClosePhase}
    (calls : List AppCall) (h : w.InPhase t drains phase)
    (hdone : (w.transport t).isHandshakeDone = true) :
    Ends StaysRouted (w.maybeNotifyHandshakeFinished t calls) fun w' =>
      KeepsIds t w w' ∧ w'.InPhase t drains (phase.afterAll drains
        ((w.transport t).callsBeforeIssue false [] calls)) := by
  have hother := staysRouted_unfinishedHandshakes
  unfold maybeNotifyHandshakeFinished
  rw [if_pos hdone]
  have hcount : Ends StaysRouted (w.countHandshakeFinished t) fun w' =>
      KeepsIds t w w' ∧ SameBinding (w.transport t) (w'.transport t) := by
    refine Ends.also ?_ (countHandshakeFinished_sameBinding w)
    unfold countHandshakeFinished onHandshakeFinished
    split
    · dsimp only
      split
      · exact .ok ((closingSteps_keepsIds t).count w _)
      · exact .error hother
    · exact .ok (.refl t w)
  refine hcount.bind fun w₁ hw₁ => ?_
  obtain ⟨hkeeps, hsame⟩ := hw₁
  have hphase := h.of_same hsame
  rw [hsame.connSetupCallback, hsame.handshakeDoneNotified]
  by_cases hruns : (w.transport t).connSetupCallback = true ∧
      (w.transport t).handshakeDoneNotified = false
  · have hcalls : (w.transport t).callsBeforeIssue false [] calls = calls := by
      simp [ServerTransport.callsBeforeIssue, hruns.1, hruns.2]
    rw [if_pos hruns, hcalls]
    refine (((closingSteps_keepsIds t).appCalls_ends hother calls w₁).also
      (hphase.appCalls calls)).bind fun w₂ hw₂ => Ends.ok ?_
    constructor
    · refine hkeeps.trans (hw₂.1.trans ?_)
      constructor
      all_goals rw [transport_modify]
      · exact id
      · exact id
    · apply hw₂.2.of_eq
      all_goals rw [transport_modify]
      exact id
  · have hcalls : (w.transport t).callsBeforeIssue false [] calls = [] := by
      unfold ServerTransport.callsBeforeIssue
      cases hsetup : (w.transport t).connSetupCallback with
      | false => simp
      | true =>
        cases hnotified : (w.transport t).handshakeDoneNotified with
        | false => exact absurd ⟨hsetup, hnotified⟩ hruns
        | true => simp
    rw [if_neg hruns, hcalls]
    exact .ok ⟨hkeeps, hphase⟩

omit [DecidableEq α] [DecidableEq ι] in
theorem callsBeforeIssue_eq {transport transport' : ServerTransport α ι}
    {waitingForFirstPacket : Bool} (first full : List AppCall) (h : SameBinding transport transport')
    (hreceived : waitingForFirstPacket = true →
      transport'.hasReceivedPackets = transport.hasReceivedPackets) :
    transport'.callsBeforeIssue waitingForFirstPacket first full =
      transport.callsBeforeIssue waitingForFirstPacket first full := by
  unfold ServerTransport.callsBeforeIssue
  rw [h.connSetupCallback, h.handshakeDoneNotified]
  cases waitingForFirstPacket with
  | false => simp
  | true => rw [hreceived rfl]

/-- The connection is bound if there are IDs to issue. -/
def MayIssue (t : Nat) (encoded : List ι) (w : WorkerWorld α ι) : Prop :=
  (w.transport t).issuesConnectionIds = true → encoded ≠ [] → (w.transport t).routingCb = true

theorem maybeNotifyHandshakeFinished_mayIssue {drains : Bool} {phase : ClosePhase}
    (encoded : List ι) (calls : List AppCall) (h : w.InPhase t drains phase)
    (hsafe : (w.transport t).issuesConnectionIds = true → encoded ≠ [] →
      phase.afterAll drains ((w.transport t).callsBeforeIssue false [] calls) ≠ .ended) :
    Ends StaysRouted ((w.maybeNotifyConnectionIdBound t).maybeNotifyHandshakeFinished t calls)
      (MayIssue t encoded) := by
  obtain ⟨hkeeps, hsame⟩ := maybeNotifyConnectionIdBound_keeps (t := t) w
  set bound := w.maybeNotifyConnectionIdBound t with hbound
  by_cases hdone : (bound.transport t).isHandshakeDone = true
  · refine (maybeNotifyHandshakeFinished_phase calls (h.of_same hsame) hdone).imp
      fun w' hw' hissues hencoded => ?_
    obtain ⟨hkeeps', hphase⟩ := hw'
    rw [callsBeforeIssue_eq [] calls hsame (by simp)] at hphase
    apply hphase.bound
    apply hsafe _ hencoded
    rw [← (hkeeps.trans hkeeps').issuesConnectionIds_eq]
    exact hissues
  · have heq : bound.maybeNotifyHandshakeFinished t calls = .ok bound := if_neg hdone
    rw [heq]
    apply Ends.ok
    intro hissues _
    simp only [ServerTransport.issuesConnectionIds, Bool.and_eq_true] at hissues
    exact absurd hissues.2 hdone

theorem notifyAfterRead_bound {drains : Bool} {phase : ClosePhase} (input : ReadInput ι)
    (encoded : List ι) (h : w.InPhase t drains phase)
    (hsafe : (w.transport t).issuesConnectionIds = true → encoded ≠ [] →
      phase.afterAll drains
        ((w.transport t).callsBeforeIssue false [] input.onFullHandshakeDone) ≠ .ended) :
    Ends StaysRouted (w.notifyAfterRead t input encoded) fun _ => True := by
  unfold notifyAfterRead
  refine (maybeNotifyHandshakeFinished_mayIssue encoded _ h hsafe).bind fun w₁ hw₁ => ?_
  obtain ⟨hkeeps, hsame⟩ := maybeNotifyConnectionIdRetired_keeps (t := t) w₁
  have hmay : (w₁.maybeNotifyConnectionIdRetired t).MayIssue t encoded := by
    intro hissues hencoded
    rw [hsame.routingCb]
    apply hw₁ _ hencoded
    rw [← hkeeps.issuesConnectionIds_eq]
    exact hissues
  refine (maybeIssueConnectionIds_bound encoded _ hmay).bind fun w₂ _ => ?_
  exact ((transportSteps_binds t).maybeNotifyTransportReady_ends staysRouted_unfinishedHandshakes
    _ w₂).imp fun _ _ => trivial

/-- The first callback of a connection, and what is left of the calls to come. -/
theorem maybeNotifyFirstPeerPacket_phase {drains : Bool} {phase : ClosePhase}
    (waitingForFirstPacket : Bool) (first full : List AppCall) (h : w.InPhase t drains phase) :
    Ends StaysRouted (w.maybeNotifyFirstPeerPacket t waitingForFirstPacket first) fun w' =>
      KeepsIds t w w' ∧ ∃ phase', w'.InPhase t drains phase' ∧
        phase'.afterAll drains ((w'.transport t).callsBeforeIssue false [] full) =
          phase.afterAll drains
            ((w.transport t).callsBeforeIssue waitingForFirstPacket first full) := by
  by_cases hruns : (w.transport t).connSetupCallback = true ∧ waitingForFirstPacket = true ∧
      (w.transport t).hasReceivedPackets = true ∧ first.isEmpty = false
  · obtain ⟨hsetup, hwaiting, hreceived, hfirst⟩ := hruns
    have hcalls : (w.transport t).callsBeforeIssue waitingForFirstPacket first full = first := by
      simp [ServerTransport.callsBeforeIssue, hsetup, hwaiting, hreceived, hfirst]
    unfold maybeNotifyFirstPeerPacket
    rw [if_pos ⟨hsetup, hwaiting, hreceived⟩, hcalls]
    refine (((closingSteps_keepsIds t).appCalls_ends staysRouted_unfinishedHandshakes first w).also
      (h.appCalls first)).imp fun w' hw' => ⟨hw'.1, _, hw'.2, ?_⟩
    have hcallback : (w'.transport t).connSetupCallback = false := by
      apply hw'.2.callback
      apply ClosePhase.afterAll_ne_open
      rintro rfl
      simp at hfirst
    unfold ServerTransport.callsBeforeIssue
    rw [hcallback]
    rfl
  · have hstays : w.maybeNotifyFirstPeerPacket t waitingForFirstPacket first = .ok w := by
      unfold maybeNotifyFirstPeerPacket
      split
      · next hcond =>
          have hempty : first = [] := by
            by_contra hne
            apply hruns
            refine ⟨hcond.1, hcond.2.1, hcond.2.2, ?_⟩
            rwa [List.isEmpty_eq_false_iff]
          subst hempty
          rfl
      · rfl
    have hcalls : (w.transport t).callsBeforeIssue waitingForFirstPacket first full =
        (w.transport t).callsBeforeIssue false [] full := by
      unfold ServerTransport.callsBeforeIssue
      cases hsetup : (w.transport t).connSetupCallback with
      | false => rfl
      | true =>
        have hfirst : ¬ (waitingForFirstPacket = true ∧
            (w.transport t).hasReceivedPackets = true ∧ first.isEmpty = false) :=
          fun hcond => hruns ⟨hsetup, hcond⟩
        simp only [reduceCtorEq, if_false, if_neg hfirst, Bool.false_eq_true, false_and]
    rw [hstays, hcalls]
    exact .ok ⟨.refl t w, phase, h, rfl⟩

theorem onReadData_bound (input : ReadInput ι) (hb : w.IsBound t)
    (hsafe : w.ReadClosesSafely t input) :
    Ends StaysRouted (w.onReadData t input) fun _ => True := by
  have hother := staysRouted_unfinishedHandshakes
  have hserver : StaysRouted .serverConnectionId := by
    unfold StaysRouted
    simp
  unfold onReadData
  refine ((transportSteps_binds t).onServerReadData_ends hserver input w).bind fun read hread => ?_
  obtain ⟨hread, hbinds⟩ := hread
  split
  · exact .ok trivial
  · next hopen =>
      split
      · exact .ok trivial
      · next hnoRead =>
          rw [Option.not_isSome_iff_eq_none] at hnoRead
          have hphase := InPhase.of_isBound (hbinds.isBound hb) hopen
          obtain ⟨hkeeps, hsame⟩ := maybeNotifyRouting_keeps (t := t) read.2
          have hfirst := maybeNotifyFirstPeerPacket_phase (!(w.transport t).hasReceivedPackets)
            input.onFirstPeerPacketProcessed input.onFullHandshakeDone (hphase.of_same hsame)
          refine hfirst.bind fun w₁ hw₁ => ?_
          obtain ⟨hkeeps', phase', hphase', hcalls⟩ := hw₁
          split
          · exact .ok trivial
          · next hnoLater =>
              rw [Option.not_isSome_iff_eq_none] at hnoLater
              refine (notifyAfterRead_bound input read.1 hphase' ?_).bind fun _ _ => .ok trivial
              intro hissues hencoded
              rw [(hkeeps.trans hkeeps').issuesConnectionIds_eq] at hissues
              rw [hcalls, callsBeforeIssue_eq _ _ hsame]
              · exact hsafe read hread hopen hnoRead hnoLater hissues hencoded
              · intro _
                exact hasReceivedPackets_maybeNotifyRouting read.2

theorem onNetworkData_bound (input : ReadInput ι) (hb : w.IsBound t)
    (hsafe : w.ReadClosesSafely t input) :
    Ends StaysRouted (w.onNetworkData t input) fun _ => True := by
  have hclosing := closingSteps_binds (α := α) (ι := ι) t
  have hother := staysRouted_unfinishedHandshakes
  unfold onNetworkData
  refine (onReadData_bound input hb hsafe).bind fun read _ => ?_
  split
  · exact (hclosing.closeImpl_ends hother true _ _).imp fun _ _ => trivial
  · exact (hclosing.closeImpl_ends hother true _ _).imp fun _ _ => trivial
  · split
    · exact .ok trivial
    · exact (hclosing.appCalls_ends hother _ _).imp fun _ _ => trivial

theorem allows_any : TransportSteps.Allows fun _ => True := ⟨trivial, trivial, trivial⟩

theorem processPendingData_bound (pendingData : List (ReadInput ι)) (hb : w.IsBound t)
    (hsafe : PendingClosesSafely t pendingData w) :
    Ends StaysRouted (processPendingData t pendingData w) (IsBound · t) := by
  induction pendingData generalizing w with
  | nil => exact .ok hb
  | cons input pendingData ih =>
    unfold processPendingData
    have hread := (onNetworkData_bound input hb hsafe.1).also
      (((transportSteps_binds t).onNetworkData_ends allows_any input w).with_eq)
    refine hread.bind fun w₁ hw₁ => ?_
    obtain ⟨-, heq, hbinds⟩ := hw₁
    have hb₁ := hbinds.isBound hb
    split
    · exact .ok hb₁
    · next hopen => exact ih hb₁ (hsafe.2 w₁ heq hopen)

theorem notifyAfterCrypto_bound (input : CryptoInput ι) (hb : w.IsBound t)
    (hsafe : (w.transport t).closeState ≠ .closed → input.laterException = none →
      (w.transport t).StaysBound input.encoded
        ((w.transport t).callsBeforeIssue false [] input.onFullHandshakeDone)) :
    Ends StaysRouted (w.notifyAfterCrypto t input) fun _ => True := by
  have hclosing := closingSteps_binds (α := α) (ι := ι) t
  have hother := staysRouted_unfinishedHandshakes
  unfold notifyAfterCrypto
  split
  · exact .ok trivial
  · next hopen =>
      split
      · exact (hclosing.closeImpl_ends hother true _ w).imp fun _ _ => trivial
      · next hnoLater =>
          refine (maybeNotifyHandshakeFinished_mayIssue input.encoded _
            (InPhase.of_isBound hb hopen) (hsafe hopen hnoLater)).bind fun w₁ hw₁ => ?_
          refine (maybeIssueConnectionIds_bound input.encoded w₁ hw₁).bind fun w₂ _ => ?_
          split
          · exact (hclosing.closeImpl_ends hother true _ w₂).imp fun _ _ => trivial
          · exact ((transportSteps_binds t).maybeNotifyTransportReady_ends hother _ w₂).imp
              fun _ _ => trivial

theorem onCryptoEventAvailable_bound (input : CryptoInput ι) (hb : w.IsBound t)
    (hsafe : w.CryptoClosesSafely t input) :
    Ends StaysRouted (w.onCryptoEventAvailable t input) fun _ => True := by
  have hsteps := transportSteps_binds (α := α) (ι := ι) t
  unfold onCryptoEventAvailable
  split
  · exact .ok trivial
  · next hclosed =>
      have hdone := hsteps.handshake w input.handshakeDone hclosed
      dsimp only
      split
      · exact .ok trivial
      · next hopen =>
          rw [not_not] at hopen
          have hstate : (w.transport t).closeState = .open := by
            rwa [transport_modify] at hopen
          split
          · exact (hsteps.closeImpl_ends staysRouted_unfinishedHandshakes true _ _).imp
              fun _ _ => trivial
          · next hnoUpdate =>
              obtain ⟨hpending, hafter⟩ := hsafe hstate hnoUpdate
              have hupdate := hdone.trans (hsteps.update _ input.writeCipher
                input.peerActiveConnectionIdLimit (by rw [hopen]; simp))
              have hb' : (w.updated t input).IsBound t := hupdate.isBound hb
              refine (processPendingData_bound input.pendingData hb' hpending).with_eq.bind
                fun w₁ hw₁ => ?_
              exact notifyAfterCrypto_bound input hw₁.2 (hafter w₁ hw₁.1)

/-! ### Steps of the worker -/

/-- All transports stay bound as they should be, and one that is not bound gets no ID. -/
structure KeepsUnbound (w w' : WorkerWorld α ι) : Prop where
  created : w.created ≤ w'.created
  isBound : (∀ u, w.IsBound u) → ∀ u, w'.IsBound u
  unbound : (∀ u, w.IsBound u) → ∀ u, u < w.created → (w.transport u).routingCb = false →
    (w'.transport u).routingCb = false ∧
      (w'.transport u).nextSelfConnectionIdSequence = (w.transport u).nextSelfConnectionIdSequence

namespace KeepsUnbound

variable {w' w'' : WorkerWorld α ι}

omit [DecidableEq α] [DecidableEq ι] in
theorem trans (h : KeepsUnbound w w') (h' : KeepsUnbound w' w'') : KeepsUnbound w w'' where
  created := Nat.le_trans h.created h'.created
  isBound hb := h'.isBound (h.isBound hb)
  unbound hb u hu hr := by
    obtain ⟨hr', hseq⟩ := h.unbound hb u hu hr
    obtain ⟨hr'', hseq'⟩ := h'.unbound (h.isBound hb) u (Nat.lt_of_lt_of_le hu h.created) hr'
    exact ⟨hr'', hseq'.trans hseq⟩

omit [DecidableEq α] [DecidableEq ι] in
theorem of_binds (h : Binds t w w') : KeepsUnbound w w' where
  created := Nat.le_of_eq h.created.symm
  isBound hb u := by
    by_cases hu : u = t
    · rw [hu]
      exact h.isBound (hb t)
    · have heq := h.frame u hu
      constructor
      all_goals rw [heq]
      · exact (hb u).bound
      · exact (hb u).graceful
  unbound hb u _ hr := by
    by_cases hu : u = t
    · subst hu
      exact h.unbound (hb u) hr
    · rw [h.frame u hu]
      exact ⟨hr, rfl⟩

omit [DecidableEq α] [DecidableEq ι] in
theorem of_transport (htransport : w'.transport = w.transport) (hcreated : w'.created = w.created) :
    KeepsUnbound w w' :=
  of_binds (t := 0) (Binds.of_transport htransport hcreated)

end KeepsUnbound

theorem makeTransport_keeps (source : α × ι) (setup : TransportSetup) (w : WorkerWorld α ι) :
    Ends StaysRouted (w.makeTransport source setup) (KeepsUnbound w) := by
  unfold makeTransport
  split
  · apply Ends.error
    unfold StaysRouted
    simp
  · apply Ends.ok
    constructor
    · exact Nat.le_succ _
    · intro hb u
      by_cases hu : u = w.created
      · subst hu
        constructor
        · intro _
          dsimp only
          rw [Function.update_self]
          exact ⟨rfl, rfl⟩
        · intro hgraceful
          dsimp only at hgraceful
          rw [Function.update_self] at hgraceful
          cases hgraceful
      · constructor
        all_goals
          dsimp only
          rw [Function.update_of_ne hu]
        · exact (hb u).bound
        · exact (hb u).graceful
    · intro _ u hu hr
      dsimp only
      rw [Function.update_of_ne (Nat.ne_of_lt hu)]
      exact ⟨hr, rfl⟩

theorem dispatchLongHeader_keeps (source : α × ι) (isInitial : Bool) (setup : TransportSetup)
    (w : WorkerWorld α ι) :
    Ends StaysRouted (w.dispatchLongHeader source isInitial setup) fun found =>
      KeepsUnbound w found.2 := by
  unfold dispatchLongHeader
  split
  · exact .ok (.of_transport rfl rfl)
  · split
    · exact .ok (.of_transport rfl rfl)
    · split
      · exact (makeTransport_keeps source setup w).bind fun w' hw' => .ok hw'
      · exact .ok (.of_transport rfl rfl)

/-- A transport is unbound before it is closed. -/
theorem shutdownTransport_keeps (t : Nat) (w : WorkerWorld α ι) :
    Ends StaysRouted (w.shutdownTransport t) (KeepsUnbound w) := by
  have hother := staysRouted_unfinishedHandshakes
  unfold shutdownTransport
  set nulled := w.modify t fun transport =>
    { transport with routingCb := false, handshakeFinishedCb := false } with hnulled
  have hnull : (nulled.transport t).routingCb = false := by rw [hnulled, transport_modify]
  have hsequence : (nulled.transport t).nextSelfConnectionIdSequence =
      (w.transport t).nextSelfConnectionIdSequence := by rw [hnulled, transport_modify]
  have hcreated : nulled.created = w.created := by rw [hnulled, created_modify]
  have hframe : ∀ u, u ≠ t → nulled.transport u = w.transport u := by
    intro u hu
    rw [hnulled]
    exact transport_modify_of_ne w t _ hu
  have hbinds := (closingSteps_binds t).closeNow_ends hother nulled
  have hkeeps := ((closingSteps_keepsIds t).closeNow_ends hother nulled).forget
  refine ((hbinds.also hkeeps).also (closeNow_sameMaps hnull)).imp fun w' hw' => ?_
  obtain ⟨⟨⟨hbinds, hclosed⟩, hkeeps, -⟩, hmaps⟩ := hw'
  apply KeepsUnbound.of_binds (t := t)
  apply Binds.of_closed
  · intro u hu
    rw [hbinds.frame u hu, hframe u hu]
  · rw [hbinds.created, hcreated]
  · exact hclosed
  · exact fun _ => hmaps.routingCb
  · rw [hkeeps.sequence, hsequence]

theorem shutdownTransports_keeps (ts : List Nat) (w : WorkerWorld α ι) :
    Ends StaysRouted (ts.foldlM shutdownTransport w) (KeepsUnbound w) := by
  induction ts generalizing w with
  | nil => exact .ok (.of_transport rfl rfl)
  | cons t ts ih =>
    rw [List.foldlM_cons]
    exact (shutdownTransport_keeps t w).bind fun w₁ hw₁ =>
      (ih w₁).imp fun _ hw' => hw₁.trans hw'

theorem shutdownAllConnections_keeps (w : WorkerWorld α ι) :
    Ends StaysRouted w.shutdownAllConnections (KeepsUnbound w) := by
  unfold shutdownAllConnections
  split
  · exact .ok (.of_transport rfl rfl)
  · have hshutdown : KeepsUnbound w { w with shutdown := true } := .of_transport rfl rfl
    refine (shutdownTransports_keeps _ _).bind fun w₁ hw₁ => ?_
    refine (shutdownTransports_keeps _ w₁).bind fun w₂ hw₂ => Ends.ok ?_
    exact (hshutdown.trans hw₁).trans (hw₂.trans (.of_transport rfl rfl))

/-- The timeout is scheduled by a close. -/
theorem drainTimeout_keeps (t : Nat) (w : WorkerWorld α ι) :
    Ends (fun _ => True) (w.step (.drainTimeout t)) (KeepsUnbound w) := by
  dsimp only [step]
  split
  · next htimeout =>
      apply Ends.ok
      unfold drainTimeoutExpired
      by_cases hclosed : (w.transport t).closeState = .closed
      · have hdrain := (closingSteps_binds t).drain w false hclosed
        exact .of_binds (hdrain.trans ((closingSteps_binds t).unbind _ (hdrain.closed hclosed)))
      · have hscheduled : ¬ w.IsBound t := by
          intro hb
          rw [(hb.bound hclosed).2] at htimeout
          cases htimeout
        constructor
        · rw [created_unbindConnection]
          exact Nat.le_refl _
        · exact fun hb => absurd (hb t) hscheduled
        · exact fun hb => absurd (hb t) hscheduled
  · exact .ok (.of_transport rfl rfl)

/-- What every step keeps, whatever the application does. -/
theorem step_keepsUnbound (event : WorkerEvent α ι) (w : WorkerWorld α ι) :
    Ends (fun _ => True) (w.step event) (KeepsUnbound w) := by
  cases event with
  | longHeader source isInitial setup input =>
    dsimp only [step]
    split
    · exact .ok (.of_transport rfl rfl)
    · refine (dispatchLongHeader_keeps source isInitial setup w).forget.bind fun found hfound => ?_
      cases found.1 with
      | none => exact .ok hfound
      | some t =>
        exact ((transportSteps_binds t).onNetworkData_ends allows_any input _).imp
          fun w' hw' => hfound.trans (.of_binds hw')
  | shortHeader dstConnId input =>
    dsimp only [step]
    split
    · exact .ok (.of_transport rfl rfl)
    · cases findEntry dstConnId w.connectionIdMap with
      | none => exact .ok (.of_transport rfl rfl)
      | some t =>
        exact ((transportSteps_binds t).onNetworkData_ends allows_any input w).imp
          fun w' hw' => .of_binds hw'
  | cryptoEvent t input =>
    exact ((transportSteps_binds t).onCryptoEventAvailable_ends allows_any input w).imp
      fun w' hw' => .of_binds hw'
  | appCalls t calls =>
    exact ((closingSteps_binds t).appCalls_ends trivial calls w).imp
      fun w' hw' => .of_binds hw'
  | closeImpl t drainConnection noDrain =>
    exact ((closingSteps_binds t).closeImpl_ends trivial drainConnection noDrain w).imp
      fun w' hw' => .of_binds hw'.1
  | drainTimeout t => exact drainTimeout_keeps t w
  | destroy t =>
    exact ((closingSteps_binds t).destroy_ends trivial w).imp fun w' hw' => .of_binds hw'
  | shutdown => exact (shutdownAllConnections_keeps w).forget

/-- A step that closes safely does not reach the failing `CHECK(routingCb_)`. -/
theorem step_staysRouted (event : WorkerEvent α ι) (hb : ∀ u, w.IsBound u)
    (hsafe : w.ClosesSafely event) : Ends StaysRouted (w.step event) fun _ => True := by
  have hother := staysRouted_unfinishedHandshakes
  cases event with
  | longHeader source isInitial setup input =>
    dsimp only [step]
    split
    · exact .ok trivial
    · next hrunning =>
        rw [Bool.not_eq_true] at hrunning
        have hfound := (dispatchLongHeader_keeps source isInitial setup w).with_eq
        refine hfound.bind fun found hfound => ?_
        obtain ⟨heq, hkeeps⟩ := hfound
        cases hto : found.1 with
        | none => exact .ok trivial
        | some t =>
          apply onNetworkData_bound input (hkeeps.isBound hb t)
          apply hsafe hrunning
          rw [heq, ← hto]
  | shortHeader dstConnId input =>
    dsimp only [step]
    split
    · exact .ok trivial
    · next hrunning =>
        rw [Bool.not_eq_true] at hrunning
        cases hto : findEntry dstConnId w.connectionIdMap with
        | none => exact .ok trivial
        | some t => exact onNetworkData_bound input (hb t) (hsafe hrunning t hto)
  | cryptoEvent t input => exact onCryptoEventAvailable_bound input (hb t) hsafe
  | appCalls t calls =>
    exact ((closingSteps_binds t).appCalls_ends hother calls w).imp fun _ _ => trivial
  | closeImpl t drainConnection noDrain =>
    exact ((closingSteps_binds t).closeImpl_ends hother drainConnection noDrain w).imp
      fun _ _ => trivial
  | drainTimeout t =>
    dsimp only [step]
    split
    · exact .ok trivial
    · exact .ok trivial
  | destroy t => exact ((closingSteps_binds t).destroy_ends hother w).imp fun _ _ => trivial
  | shutdown => exact (shutdownAllConnections_keeps w).imp fun _ _ => trivial

omit [DecidableEq α] [DecidableEq ι] in
theorem isBound_start (source : α × ι) (unfinished : Int) (u : Nat) :
    (start source unfinished).IsBound u := by
  constructor
  · exact fun hopen => absurd rfl hopen
  · nofun

/-! ### Runs -/

/-- Where every step closes safely no run stops at the failing `CHECK(routingCb_)`, and along the run a
connection that is unbound is issued no ID. -/
theorem closingCallbacks_safe (source : α × ι) (unfinished : Int)
    (events : List (WorkerEvent α ι)) (hsafe : Meets step ClosesSafely (start source unfinished) events) :
    events.foldlM step (start source unfinished) ≠ .error .routingCallback ∧
      ∀ earlier event w w', earlier ++ [event] <+: events →
        earlier.foldlM step (start source unfinished) = .ok w → w.step event = .ok w' →
        ∀ t, t < w.created → (w.transport t).routingCb = false →
          (w'.transport t).routingCb = false ∧
            (w'.transport t).nextSelfConnectionIdSequence =
              (w.transport t).nextSelfConnectionIdSequence := by
  have hstep : ∀ (w : WorkerWorld α ι) event w', (∀ u, w.IsBound u) → w.step event = .ok w' →
      ∀ u, w'.IsBound u := fun w event w' hb heq =>
    ((step_keepsUnbound event w).of_ok heq).isBound hb
  constructor
  · intro hfault
    refine @run_error_of_meets _ _ _ step ClosesSafely (fun w => ∀ u, w.IsBound u) StaysRouted
      ?_ ?_ _ _ _ (isBound_start source unfinished) hsafe hfault rfl
    · exact fun w event w' hb _ heq => hstep w event w' hb heq
    · exact fun w event fault hb hsafe heq => (step_staysRouted event hb hsafe).of_error heq
  · intro earlier event w w' _ hrun heq t ht hunbound
    have hb : ∀ u, w.IsBound u :=
      @run_invariant _ _ _ step (fun w => ∀ u, w.IsBound u) hstep _ _ _
        (isBound_start source unfinished) hrun
    exact ((step_keepsUnbound event w).of_ok heq).unbound hb t ht hunbound

/-- A connection of one client, whose application calls `calls` when the handshake is done. -/
def closingHandshake (calls : List AppCall) : List (WorkerEvent Nat Nat) :=
  [.longHeader (0, 0) true ⟨true, false, true⟩
    { encoded := [1], startsConnection := true, receivesPackets := true, handshakeDone := false
      writeCipher := false, peerActiveConnectionIdLimit := 2, retired := [], readException := none
      onFirstPeerPacketProcessed := [], laterException := none, onFullHandshakeDone := []
      onTransportReady := [], peerConnectionError := none, afterwards := [] },
    .cryptoEvent 0
    { encoded := [2], handshakeDone := true, writeCipher := true
      peerActiveConnectionIdLimit := 2, updateException := none, pendingData := []
      laterException := none, onFullHandshakeDone := calls, writeException := none
      onTransportReady := [.closeNow] }]

theorem closingCallbacks_safe_draining :
    (closingHandshake [.close false]).foldlM step (start (0, 0) 0) ≠ .error .routingCallback ∧
      ∀ earlier event w w', earlier ++ [event] <+: closingHandshake [.close false] →
        earlier.foldlM step (start (0, 0) 0) = .ok w → w.step event = .ok w' →
        ∀ t, t < w.created → (w.transport t).routingCb = false →
          (w'.transport t).routingCb = false ∧
            (w'.transport t).nextSelfConnectionIdSequence =
              (w.transport t).nextSelfConnectionIdSequence := by
  apply closingCallbacks_safe
  constructor
  · intro _ t w' hfound
    cases hfound
    intro read hread
    cases hread
    intro _ _ _ hissues
    cases hissues
  · intro w hw
    cases hw
    constructor
    · intro _ _
      constructor
      · trivial
      · intro w' hw'
        cases hw'
        intro _ _ _ _
        decide
    · intro w' _
      trivial

/-- An application that calls `closeNow` when the handshake is done. -/
theorem closingCallbacks_closeNow :
    (closingHandshake [.closeNow]).foldlM step (start (0, 0) 0) = .error .routingCallback := by
  rfl

end WorkerWorld

end MasqueQuic
