/-
The count of unfinished handshakes, over any number of workers that share it.

A transport is counted as long as it has its `handshakeFinishedCb`. Every close of a transport whose
handshake is not done takes it back, and so does `maybeNotifyHandshakeFinished`; in between, a
transport whose handshake is done and whose notification has not come keeps it for good, and
`shutdownAllConnections` takes it back without counting. `unfinishedHandshakes_exact` says that the
`CHECK` holds in every run, and that the count is exact in the runs without these steps.
-/

import Mathlib.Algebra.BigOperators.Group.List.Basic
import Mathlib.Algebra.Ring.Nat
import Mathlib.Data.Bool.Basic
import MasqueQuic.Quic.ServerTransport

namespace MasqueQuic

namespace WorkerWorld

variable {α ι : Type}

/-- A transport that is open, with a handshake that is not done. -/
def isUnfinished (w : WorkerWorld α ι) (t : Nat) : Bool :=
  (w.transport t).closeState ≠ .closed && !(w.transport t).isHandshakeDone

def unfinishedTransports (w : WorkerWorld α ι) : Nat := (List.range w.created).countP w.isUnfinished

/-- A transport that is counted. -/
def isCounted (w : WorkerWorld α ι) (t : Nat) : Bool := (w.transport t).handshakeFinishedCb

def countedTransports (w : WorkerWorld α ι) : Nat := (List.range w.created).countP w.isCounted

/-! ### What the steps of a transport do to the count -/

/-- The count goes down with the transport, which stays closed and is not counted again. -/
structure Conserves (t : Nat) (w w' : WorkerWorld α ι) : Prop where
  frame : ∀ u, u ≠ t → w'.transport u = w.transport u
  created : w'.created = w.created
  closed : (w.transport t).closeState = .closed → (w'.transport t).closeState = .closed
  mono : w'.isCounted t = true → w.isCounted t = true
  count : w'.globalUnfinishedHandshakes + (w.isCounted t).toNat =
    w.globalUnfinishedHandshakes + (w'.isCounted t).toNat

/-- The count is there for a transport that is counted. -/
def Covers (w : WorkerWorld α ι) (t : Nat) : Prop :=
  (w.isCounted t).toNat ≤ w.globalUnfinishedHandshakes

namespace Conserves

variable {t : Nat} {w w' w'' : WorkerWorld α ι}

theorem trans (h : Conserves t w w') (h' : Conserves t w' w'') : Conserves t w w'' where
  frame u hu := (h'.frame u hu).trans (h.frame u hu)
  created := h'.created.trans h.created
  closed hc := h'.closed (h.closed hc)
  mono hc := h.mono (h'.mono hc)
  count := by
    have h₁ := h.count
    have h₂ := h'.count
    omega

theorem covers (h : Conserves t w w') (hc : w.Covers t) : w'.Covers t := by
  unfold Covers at hc ⊢
  have hcount := h.count
  omega

end Conserves

/-- All that is done to the transport is to close it. One whose handshake is not done is not counted
any more when it has been closed. -/
structure Closes (t : Nat) (w w' : WorkerWorld α ι) : Prop extends Conserves t w w' where
  done : (w'.transport t).isHandshakeDone = (w.transport t).isHandshakeDone
  counted : w'.isCounted t = true ↔ w.isCounted t = true ∧
    ((w.transport t).isHandshakeDone = true ∨ (w.transport t).closeState = .closed ∨
      (w'.transport t).closeState ≠ .closed)

namespace Closes

variable {t : Nat} {w w' w'' : WorkerWorld α ι}

/-- Nothing of this is touched. -/
theorem of_same (hframe : ∀ u, u ≠ t → w'.transport u = w.transport u)
    (hcreated : w'.created = w.created)
    (hglobal : w'.globalUnfinishedHandshakes = w.globalUnfinishedHandshakes)
    (hdone : (w'.transport t).isHandshakeDone = (w.transport t).isHandshakeDone)
    (hcounted : w'.isCounted t = w.isCounted t)
    (hclosed : (w'.transport t).closeState = .closed ↔ (w.transport t).closeState = .closed) :
    Closes t w w' where
  frame := hframe
  created := hcreated
  done := hdone
  closed := hclosed.mpr
  mono hc := hcounted ▸ hc
  counted := by
    rw [hcounted, ne_eq, hclosed]
    exact ⟨fun h => ⟨h, .inr (Classical.em _)⟩, And.left⟩
  count := by rw [hglobal, hcounted]

/-- The maps of the worker do not matter. -/
theorem of_transport (htransport : w'.transport = w.transport) (hcreated : w'.created = w.created)
    (hglobal : w'.globalUnfinishedHandshakes = w.globalUnfinishedHandshakes) : Closes t w w' := by
  apply of_same
  · intro u _
    rw [htransport]
  · exact hcreated
  · exact hglobal
  · rw [htransport]
  · rw [isCounted, isCounted, htransport]
  · rw [htransport]

theorem modify {f : ServerTransport α ι → ServerTransport α ι}
    (hdone : (f (w.transport t)).isHandshakeDone = (w.transport t).isHandshakeDone)
    (hcounted : (f (w.transport t)).handshakeFinishedCb = (w.transport t).handshakeFinishedCb)
    (hclosed : (f (w.transport t)).closeState = .closed ↔ (w.transport t).closeState = .closed) :
    Closes t w (w.modify t f) := by
  apply of_same
  · intro u hu
    exact transport_modify_of_ne w t f hu
  · rfl
  · rfl
  · rw [transport_modify, hdone]
  · rw [isCounted, isCounted, transport_modify, hcounted]
  · rw [transport_modify, hclosed]

theorem refl (t : Nat) (w : WorkerWorld α ι) : Closes t w w := of_transport rfl rfl rfl

theorem trans (h : Closes t w w') (h' : Closes t w' w'') : Closes t w w'' where
  toConserves := h.toConserves.trans h'.toConserves
  done := h'.done.trans h.done
  counted := by
    rw [h'.counted, h.counted, h.done]
    have hc := h.closed
    have hc' := h'.closed
    tauto

end Closes

/-- A transport is counted exactly as long as it is unfinished. -/
def Settled (w : WorkerWorld α ι) (t : Nat) : Prop :=
  w.isCounted t = true ↔
    (w.transport t).closeState ≠ .closed ∧ (w.transport t).isHandshakeDone = false

theorem Settled.isCounted_eq {w : WorkerWorld α ι} {t : Nat} (h : w.Settled t) :
    w.isCounted t = w.isUnfinished t := by
  unfold Settled at h
  rw [Bool.eq_iff_iff, h]
  simp [isUnfinished]

/-- A transport is settled, or its handshake is done and the notification is due. -/
def Due (w : WorkerWorld α ι) (t : Nat) : Prop :=
  (w.transport t).isHandshakeDone = true ∨ w.Settled t

theorem Closes.settled {t : Nat} {w w' : WorkerWorld α ι} (h : Closes t w w') (hs : w.Settled t) :
    w'.Settled t := by
  unfold Settled at hs ⊢
  rw [h.counted, hs, h.done, ← Bool.not_eq_true]
  have hc := h.closed
  tauto

theorem Closes.due {t : Nat} {w w' : WorkerWorld α ι} (h : Closes t w w') (hd : w.Due t) :
    w'.Due t := by
  obtain hdone | hs := hd
  · exact .inl (h.done.trans hdone)
  · exact .inr (h.settled hs)

/-! ### Closing -/

/-- The faults other than that of the count. -/
def OtherFault (fault : ServerFault) : Prop := fault ≠ .unfinishedHandshakes

variable {t : Nat} {w : WorkerWorld α ι}

theorem onHandshakeUnfinished_ends (hc : 1 ≤ w.globalUnfinishedHandshakes) :
    Ends OtherFault w.onHandshakeUnfinished fun w' =>
      w'.transport = w.transport ∧ w'.created = w.created ∧
        w'.globalUnfinishedHandshakes = w.globalUnfinishedHandshakes - 1 := by
  unfold onHandshakeUnfinished
  dsimp only
  rw [if_pos (by omega)]
  exact .ok ⟨rfl, rfl, rfl⟩

theorem onHandshakeFinished_ends (hc : 1 ≤ w.globalUnfinishedHandshakes) :
    Ends OtherFault w.onHandshakeFinished fun w' =>
      w'.transport = w.transport ∧ w'.created = w.created ∧
        w'.globalUnfinishedHandshakes = w.globalUnfinishedHandshakes - 1 :=
  onHandshakeUnfinished_ends hc

theorem closeTransport_ends (hopen : (w.transport t).closeState ≠ .closed) (hc : w.Covers t) :
    Ends OtherFault ((w.modify t fun transport =>
      { transport with closeState := .closed }).closeTransport t) (Closes t w) := by
  unfold closeTransport
  split
  · next h =>
      obtain ⟨hdone, hcounted⟩ := h
      rw [transport_modify] at hdone hcounted
      dsimp only at hdone hcounted
      have hcovers : 1 ≤ w.globalUnfinishedHandshakes := by
        rwa [Covers, isCounted, hcounted] at hc
      refine Ends.bind (onHandshakeUnfinished_ends (w := w.modify t _) hcovers) fun w' hw' => ?_
      obtain ⟨htransport, hcreated, hglobal⟩ := hw'
      apply Ends.ok
      constructor
      · constructor
        · intro u hu
          rw [transport_modify_of_ne _ _ _ hu, htransport, transport_modify_of_ne _ _ _ hu]
        · exact hcreated
        · intro _
          rw [transport_modify, htransport, transport_modify]
        · intro h
          rw [isCounted, transport_modify] at h
          cases h
        · simp [isCounted, hglobal, hcounted]
      · rw [transport_modify, htransport, transport_modify]
      · simp [isCounted, htransport, hdone, hopen]
  · next h =>
      rw [transport_modify] at h
      apply Ends.ok
      constructor
      · constructor
        · intro u hu
          exact transport_modify_of_ne _ _ _ hu
        · rfl
        · intro _
          rw [transport_modify]
        · intro hcounted
          rwa [isCounted, transport_modify] at hcounted
        · rw [isCounted, isCounted, transport_modify, globalUnfinishedHandshakes_modify]
      · rw [transport_modify]
      · simp only [isCounted, transport_modify, ne_eq, not_true_eq_false, hopen, or_false]
        cases hd : (w.transport t).isHandshakeDone <;> simp_all

variable [DecidableEq ι]

theorem closes_onConnectionIdAvailable (t u : Nat) (id : ι) (w : WorkerWorld α ι) :
    Closes t w (w.onConnectionIdAvailable u id) := by
  unfold onConnectionIdAvailable
  split
  · exact .refl t w
  · exact .of_transport rfl rfl rfl

variable [DecidableEq α]

theorem closes_unbindConnection (t : Nat) (w : WorkerWorld α ι) :
    Closes t w (w.unbindConnection t) := by
  unfold unbindConnection
  split
  · have hlogged : Closes t w { w with unbindings := (t, w.transport t) :: w.unbindings } :=
      .of_transport rfl rfl rfl
    have hcb := hlogged.trans
      (.modify (f := fun transport => { transport with routingCb := false }) rfl rfl Iff.rfl)
    dsimp only
    split
    · exact hcb.trans (.of_transport rfl rfl rfl)
    · exact hcb
  · exact .refl t w

theorem closes_drainOrUnbind (t : Nat) (drainConnection noDrain : Bool) (w : WorkerWorld α ι) :
    Closes t w (w.drainOrUnbind t drainConnection noDrain) := by
  unfold drainOrUnbind
  split
  · exact .modify rfl rfl Iff.rfl
  · exact closes_unbindConnection t w

theorem closeImpl_ends (drainConnection noDrain : Bool) (hc : w.Covers t) :
    Ends OtherFault (w.closeImpl t drainConnection noDrain) (Closes t w) := by
  unfold closeImpl
  split
  · exact .ok (.refl t w)
  · next hopen =>
      refine (closeTransport_ends hopen hc).bind fun w' hw' => Ends.ok ?_
      exact (hw'.trans (.modify rfl rfl Iff.rfl)).trans (closes_drainOrUnbind ..)

theorem close_ends (noDrain : Bool) (hc : w.Covers t) :
    Ends OtherFault (w.close t noDrain) (Closes t w) := by
  have hcallback : Closes t w (w.modify t fun transport =>
      { transport with connSetupCallback := false }) := .modify rfl rfl Iff.rfl
  exact (closeImpl_ends true noDrain (hcallback.covers hc)).imp fun w' hw' => hcallback.trans hw'

theorem closeNow_ends (hc : w.Covers t) : Ends OtherFault (w.closeNow t) (Closes t w) := by
  unfold closeNow
  refine (closeImpl_ends false false hc).bind fun w' hw' => ?_
  split
  · exact .ok ((hw'.trans (.modify rfl rfl Iff.rfl)).trans (closes_unbindConnection ..))
  · exact .ok hw'

theorem closeGracefully_ends (noStreams : Bool) (hc : w.Covers t) :
    Ends OtherFault (w.closeGracefully t noStreams) (Closes t w) := by
  unfold closeGracefully
  split
  · exact .ok (.refl t w)
  · next hopen =>
      have hgraceful : Closes t w (w.modify t fun transport =>
          { transport with connSetupCallback := false, closeState := .gracefulClosing }) := by
        refine .modify rfl rfl ?_
        simp [not_not.mp hopen]
      dsimp only
      split
      · exact (closeImpl_ends true false (hgraceful.covers hc)).imp fun w' hw' =>
          hgraceful.trans hw'
      · exact .ok hgraceful

theorem appCall_ends (call : AppCall) (hc : w.Covers t) :
    Ends OtherFault (appCall t w call) (Closes t w) := by
  cases call with
  | close noDrain => exact close_ends noDrain hc
  | closeNow => exact closeNow_ends hc
  | closeGracefully noStreams => exact closeGracefully_ends noStreams hc

theorem appCalls_ends (calls : List AppCall) (hc : w.Covers t) :
    Ends OtherFault (w.appCalls t calls) (Closes t w) := by
  unfold appCalls
  induction calls generalizing w with
  | nil => exact .ok (.refl t w)
  | cons call calls ih =>
    rw [List.foldlM_cons]
    refine (appCall_ends call hc).bind fun w' hw' => ?_
    exact (ih (hw'.covers hc)).imp fun w'' hw'' => hw'.trans hw''

/-! ### Notifications -/

omit [DecidableEq α] in
theorem closes_maybeNotifyRouting (t : Nat) (w : WorkerWorld α ι) :
    Closes t w (w.maybeNotifyRouting t) := by
  unfold maybeNotifyRouting
  split
  · exact .refl t w
  · split
    · exact Closes.trans (.modify rfl rfl Iff.rfl) (closes_onConnectionIdAvailable ..)
    · exact .refl t w

theorem maybeNotifyFirstPeerPacket_ends (waitingForFirstPacket : Bool) (calls : List AppCall)
    (hc : w.Covers t) :
    Ends OtherFault (w.maybeNotifyFirstPeerPacket t waitingForFirstPacket calls) (Closes t w) := by
  unfold maybeNotifyFirstPeerPacket
  split
  · exact appCalls_ends calls hc
  · exact .ok (.refl t w)

theorem closes_maybeNotifyConnectionIdBound (t : Nat) (w : WorkerWorld α ι) :
    Closes t w (w.maybeNotifyConnectionIdBound t) := by
  unfold maybeNotifyConnectionIdBound
  split
  · have hnotified : Closes t w (w.modify t fun transport =>
        { transport with notifiedConnIdBound := true }) := .modify rfl rfl Iff.rfl
    refine hnotified.trans ?_
    unfold onConnectionIdBound
    split
    · exact .of_transport rfl rfl rfl
    · exact .refl ..
  · exact .refl t w

omit [DecidableEq ι] [DecidableEq α] in
/-- The notification that a handshake is done settles the transport. -/
theorem countHandshakeFinished_ends (hdone : (w.transport t).isHandshakeDone = true)
    (hc : w.Covers t) :
    Ends OtherFault (w.countHandshakeFinished t) fun w' => Conserves t w w' ∧ w'.Settled t := by
  unfold countHandshakeFinished
  split
  · next hcounted =>
      have hcovers : 1 ≤ w.globalUnfinishedHandshakes := by
        rwa [Covers, isCounted, hcounted] at hc
      refine (onHandshakeFinished_ends hcovers).bind fun w' hw' => ?_
      obtain ⟨htransport, hcreated, hglobal⟩ := hw'
      apply Ends.ok
      constructor
      · constructor
        · intro u hu
          rw [transport_modify_of_ne _ _ _ hu, htransport]
        · exact hcreated
        · intro hclosed
          rw [transport_modify, htransport]
          exact hclosed
        · intro _
          exact hcounted
        · simp [isCounted, hglobal, hcounted]
      · simp [Settled, isCounted, htransport, hdone]
  · next hcounted =>
      refine .ok ⟨(Closes.refl t w).toConserves, ?_⟩
      simp [Settled, isCounted, hcounted, hdone]

theorem maybeNotifyHandshakeFinished_ends (calls : List AppCall) (hc : w.Covers t) :
    Ends OtherFault (w.maybeNotifyHandshakeFinished t calls) fun w' =>
      Conserves t w w' ∧ (w.Due t → w'.Settled t) := by
  unfold maybeNotifyHandshakeFinished
  split
  · next hdone =>
      refine (countHandshakeFinished_ends hdone hc).bind fun w' hw' => ?_
      obtain ⟨hconserves, hsettled⟩ := hw'
      split
      · refine (appCalls_ends calls (hconserves.covers hc)).bind fun w'' hw'' => Ends.ok ?_
        have hcloses : Closes t w' (w''.modify t fun transport =>
            { transport with handshakeDoneNotified := true }) :=
          hw''.trans (.modify rfl rfl Iff.rfl)
        exact ⟨hconserves.trans hcloses.toConserves, fun _ => hcloses.settled hsettled⟩
      · exact .ok ⟨hconserves, fun _ => hsettled⟩
  · next hdone =>
      refine .ok ⟨(Closes.refl t w).toConserves, fun hdue => ?_⟩
      exact hdue.resolve_left hdone

omit [DecidableEq α] in
theorem closes_maybeNotifyConnectionIdRetired (t : Nat) (w : WorkerWorld α ι) :
    Closes t w (w.maybeNotifyConnectionIdRetired t) := by
  have hfold : ∀ (ids : List ι) (v : WorkerWorld α ι),
      Closes t v (ids.foldl (fun v id => v.onConnectionIdRetired id) v) := by
    intro ids
    induction ids with
    | nil => exact Closes.refl t
    | cons id ids ih =>
      intro v
      have hretired : Closes t v (v.onConnectionIdRetired id) := .of_transport rfl rfl rfl
      exact hretired.trans (ih _)
  unfold maybeNotifyConnectionIdRetired
  split
  · exact (hfold _ w).trans (.modify rfl rfl Iff.rfl)
  · exact .refl t w

omit [DecidableEq α] in
theorem closes_createAndAddNewSelfConnId {encoded encoded' : List ι} {connId : ι}
    {w' : WorkerWorld α ι}
    (h : w.createAndAddNewSelfConnId t encoded = some (connId, encoded', w')) : Closes t w w' := by
  obtain ⟨r, -, heq⟩ := Option.map_eq_some_iff.mp h
  cases heq
  exact .modify rfl rfl Iff.rfl

omit [DecidableEq α] in
theorem issueConnectionIds_ends (t n : Nat) (encoded : List ι) (w : WorkerWorld α ι) :
    Ends OtherFault (w.issueConnectionIds t n encoded) (Closes t w) := by
  induction n generalizing encoded w with
  | zero => exact .ok (.refl t w)
  | succ n ih =>
    unfold issueConnectionIds
    split
    · exact .ok (.refl t w)
    · next connId encoded' w' hcreate =>
        have hcloses := closes_createAndAddNewSelfConnId hcreate
        split
        · exact .error (by simp [OtherFault])
        · exact (ih encoded' _).imp fun w'' hw'' =>
            (hcloses.trans (closes_onConnectionIdAvailable ..)).trans hw''

omit [DecidableEq α] in
theorem maybeIssueConnectionIds_ends (t : Nat) (encoded : List ι) (w : WorkerWorld α ι) :
    Ends OtherFault (w.maybeIssueConnectionIds t encoded) (Closes t w) := by
  unfold maybeIssueConnectionIds
  split
  · exact issueConnectionIds_ends ..
  · exact .ok (.refl t w)

theorem maybeNotifyTransportReady_ends (calls : List AppCall) (hc : w.Covers t) :
    Ends OtherFault (w.maybeNotifyTransportReady t calls) (Closes t w) := by
  unfold maybeNotifyTransportReady
  split
  · have hnotified : Closes t w (w.modify t fun transport =>
        { transport with transportReadyNotified := true }) := .modify rfl rfl Iff.rfl
    exact (appCalls_ends calls (hnotified.covers hc)).imp fun w' hw' => hnotified.trans hw'
  · exact .ok (.refl t w)

/-! ### Reads -/

/-- What a datagram does to the handshake, where its frames are read. -/
def completesHandshake (w : WorkerWorld α ι) (t : Nat) (input : ReadInput ι) : Bool :=
  (w.transport t).isHandshakeDone || input.handshakeDone &&
    ((w.transport t).serverConnectionId.isSome || input.startsConnection)

/-- Nothing is thrown before the notification that the handshake is done, where it is due. -/
def ReadFinishes (w : WorkerWorld α ι) (t : Nat) (input : ReadInput ι) : Prop :=
  w.isCounted t = true → w.completesHandshake t input = true →
    input.readException = none ∧ input.laterException = none

/-- A transport that is open is settled, or its handshake is done and the notification is due. -/
def Ready (w : WorkerWorld α ι) (t : Nat) : Prop :=
  ((w.transport t).closeState = .closed → w.isCounted t = false) ∧
    ((w.transport t).closeState ≠ .closed → w.Due t)

omit [DecidableEq α] in
/-- The first Initial packet gives the connection its ID. -/
theorem startConnection_ends (input : ReadInput ι) (w : WorkerWorld α ι) :
    Ends OtherFault (w.startConnection t input) fun r =>
      Closes t w r.2 ∧ (r.2.transport t).closeState = (w.transport t).closeState ∧
        r.2.isCounted t = w.isCounted t ∧ (r.2.transport t).serverConnectionId.isSome =
          ((w.transport t).serverConnectionId.isSome || input.startsConnection) := by
  unfold startConnection
  split
  · next hstarts =>
      unfold chooseServerConnectionId
      split
      · exact .error (by simp [OtherFault])
      · next connId encoded' w' hcreate =>
          have hcloses := closes_createAndAddNewSelfConnId hcreate
          have hchosen : Closes t w' (w'.modify t fun transport =>
              { transport with serverConnectionId := some connId }) := .modify rfl rfl Iff.rfl
          obtain ⟨r, -, heq⟩ := Option.map_eq_some_iff.mp hcreate
          cases heq
          refine .ok ⟨hcloses.trans hchosen, ?_, ?_, ?_⟩
          · simp
          · simp [isCounted]
          · simp [hstarts.1]
  · next hstarts =>
      refine .ok ⟨.refl t w, rfl, rfl, ?_⟩
      cases hid : (w.transport t).serverConnectionId with
      | some id => simp
      | none => simpa [hid] using hstarts

omit [DecidableEq α] [DecidableEq ι] in
/-- Frames do not close a transport, and do not take its callback. -/
theorem readFrames_same (input : ReadInput ι) (transport : ServerTransport α ι) :
    (transport.readFrames input).closeState = transport.closeState ∧
      (transport.readFrames input).handshakeFinishedCb = transport.handshakeFinishedCb := by
  unfold ServerTransport.readFrames
  dsimp only
  induction input.retired generalizing transport with
  | nil => exact ⟨rfl, rfl⟩
  | cons number numbers ih =>
    rw [List.foldl_cons, (ih _).1, (ih _).2]
    unfold ServerTransport.retireConnectionId
    split
    · exact ⟨rfl, rfl⟩
    · exact ⟨rfl, rfl⟩

omit [DecidableEq α] in
theorem onServerReadData_ends (input : ReadInput ι) (w : WorkerWorld α ι)
    (hopen : (w.transport t).closeState ≠ .closed) :
    Ends OtherFault (w.onServerReadData t input) fun r =>
      Conserves t w r.2 ∧ (r.2.transport t).closeState = (w.transport t).closeState ∧
        r.2.isCounted t = w.isCounted t ∧
        (r.2.transport t).isHandshakeDone = w.completesHandshake t input := by
  unfold onServerReadData
  rw [if_neg hopen]
  refine (startConnection_ends input w).bind fun r hr => ?_
  obtain ⟨hcloses, hstate, hcounted, hid⟩ := hr
  split
  · next hnone =>
      rw [hnone, Option.isSome_none] at hid
      refine .ok ⟨hcloses.toConserves, hstate, hcounted, ?_⟩
      rw [hcloses.done, completesHandshake, ← hid, Bool.and_false, Bool.or_false]
  · next hsome =>
      have hid' : ((w.transport t).serverConnectionId.isSome || input.startsConnection) = true := by
        rw [← hid, Option.isSome_iff_ne_none]
        exact hsome
      obtain ⟨hstate', hcounted'⟩ := readFrames_same input (r.2.transport t)
      refine .ok ⟨?_, ?_, ?_, ?_⟩
      · refine hcloses.toConserves.trans ⟨?_, rfl, ?_, ?_, ?_⟩
        · intro u hu
          exact transport_modify_of_ne _ _ _ hu
        · intro hclosed
          rw [transport_modify, hstate', hclosed]
        · intro h
          rwa [isCounted, transport_modify, hcounted'] at h
        · rw [isCounted, isCounted, transport_modify, globalUnfinishedHandshakes_modify,
            hcounted']
      · rw [transport_modify, hstate', hstate]
      · rw [isCounted, transport_modify, hcounted', ← hcounted, isCounted]
      · rw [transport_modify, completesHandshake, hid', Bool.and_true, ← hcloses.done]
        rfl

omit [DecidableEq α] [DecidableEq ι] in
/-- Where no notification comes due the transport is settled after a read. -/
theorem settled_of_ready {w' : WorkerWorld α ι} {input : ReadInput ι} (hready : w.Ready t)
    (hopen : (w.transport t).closeState ≠ .closed)
    (hstate : (w'.transport t).closeState = (w.transport t).closeState)
    (hcounted : w'.isCounted t = w.isCounted t)
    (hdone : (w'.transport t).isHandshakeDone = w.completesHandshake t input)
    (hnot : ¬ (w.isCounted t = true ∧ w.completesHandshake t input = true)) : w'.Settled t := by
  unfold Settled
  rw [hcounted, hstate, hdone]
  cases hcompletes : w.completesHandshake t input with
  | true =>
    rw [hcompletes] at hnot
    simpa using hnot
  | false =>
    have hnotdone : (w.transport t).isHandshakeDone = false := by
      unfold completesHandshake at hcompletes
      exact (Bool.or_eq_false_iff.mp hcompletes).1
    obtain hdue | hsettled := hready.2 hopen
    · rw [hnotdone] at hdue
      cases hdue
    · have hcountedNow := hsettled.mpr ⟨hopen, hnotdone⟩
      simp [hcountedNow, hopen]

theorem notifyAfterRead_ends (input : ReadInput ι) (encoded : List ι) (hc : w.Covers t) :
    Ends OtherFault (w.notifyAfterRead t input encoded) fun w' =>
      Conserves t w w' ∧ (w.Due t → w'.Settled t) := by
  have hbound := closes_maybeNotifyConnectionIdBound t w
  unfold notifyAfterRead
  refine (maybeNotifyHandshakeFinished_ends _ (hbound.covers hc)).bind fun w₁ hw₁ => ?_
  have hretired := closes_maybeNotifyConnectionIdRetired t w₁
  have hconserves := hbound.toConserves.trans hw₁.1
  refine (maybeIssueConnectionIds_ends t encoded _).bind fun w₂ hw₂ => ?_
  have hissued := hretired.trans hw₂
  have hcovers := (hconserves.trans hissued.toConserves).covers hc
  refine (maybeNotifyTransportReady_ends _ hcovers).imp fun w' hw' => ?_
  have hcloses := hissued.trans hw'
  exact ⟨hconserves.trans hcloses.toConserves,
    fun hdue => hcloses.settled (hw₁.2 (hbound.due hdue))⟩

theorem onReadData_ends (input : ReadInput ι) (hc : w.Covers t) :
    Ends OtherFault (w.onReadData t input) fun r =>
      Conserves t w r.2 ∧ (w.Ready t → w.ReadFinishes t input → r.2.Settled t) := by
  by_cases hclosed : (w.transport t).closeState = .closed
  · unfold onReadData onServerReadData
    rw [if_pos hclosed, except_ok_bind, if_pos hclosed]
    refine .ok ⟨(Closes.refl t w).toConserves, fun hready _ => ?_⟩
    simp [Settled, hready.1 hclosed, hclosed]
  · unfold onReadData
    refine (onServerReadData_ends input w hclosed).bind fun read hread => ?_
    obtain ⟨hconserves, hstate, hcounted, hdone⟩ := hread
    -- with an exception, the transport is settled before the callbacks are reached
    have hsettled : w.Ready t →
        ¬ (w.isCounted t = true ∧ w.completesHandshake t input = true) → read.2.Settled t :=
      fun hready => settled_of_ready hready hclosed hstate hcounted hdone
    rw [if_neg (hstate ▸ hclosed)]
    split
    · next hexception =>
        refine .ok ⟨hconserves, fun hready hfinishes => hsettled hready fun h => ?_⟩
        rw [(hfinishes h.1 h.2).1] at hexception
        cases hexception
    · have hrouting := closes_maybeNotifyRouting t read.2
      refine (maybeNotifyFirstPeerPacket_ends _ _
        (hrouting.covers (hconserves.covers hc))).bind fun w₁ hw₁ => ?_
      have hcloses := hrouting.trans hw₁
      have hconserves₁ := hconserves.trans hcloses.toConserves
      split
      · next hexception =>
          refine .ok ⟨hconserves₁, fun hready hfinishes =>
            hcloses.settled (hsettled hready fun h => ?_)⟩
          rw [(hfinishes h.1 h.2).2] at hexception
          cases hexception
      · refine (notifyAfterRead_ends input read.1 (hconserves₁.covers hc)).bind fun w₂ hw₂ => ?_
        refine .ok ⟨hconserves₁.trans hw₂.1, fun hready _ => hw₂.2 (hcloses.due ?_)⟩
        by_cases h : w.completesHandshake t input = true
        · exact .inl (hdone.trans h)
        · exact .inr (hsettled hready fun hboth => h hboth.2)

theorem onNetworkData_ends (input : ReadInput ι) (hc : w.Covers t) :
    Ends OtherFault (w.onNetworkData t input) fun w' =>
      Conserves t w w' ∧ (w.Ready t → w.ReadFinishes t input → w'.Settled t) := by
  unfold onNetworkData
  refine (onReadData_ends input hc).bind fun read hread => ?_
  obtain ⟨hconserves, hsettled⟩ := hread
  have hafter : ∀ {x : Except ServerFault (WorkerWorld α ι)},
      Ends OtherFault x (Closes t read.2) → Ends OtherFault x fun w' =>
        Conserves t w w' ∧ (w.Ready t → w.ReadFinishes t input → w'.Settled t) :=
    fun hx => hx.imp fun w' hw' => ⟨hconserves.trans hw'.toConserves,
      fun hready hfinishes => hw'.settled (hsettled hready hfinishes)⟩
  have hcovers := hconserves.covers hc
  split
  · exact hafter (closeImpl_ends true _ hcovers)
  · exact hafter (closeImpl_ends true _ hcovers)
  · split
    · exact hafter (.ok (.refl t read.2))
    · exact hafter (appCalls_ends _ hcovers)

/-! ### Crypto events -/

/-- `ReadFinishes` for the datagrams that have waited, one after another. -/
def PendingFinishes (t : Nat) : List (ReadInput ι) → WorkerWorld α ι → Prop
  | [], _ => True
  | input :: pendingData, w => w.ReadFinishes t input ∧
      ∀ w', w.onNetworkData t input = .ok w' → (w'.transport t).closeState ≠ .closed →
        PendingFinishes t pendingData w'

/-- An event that completes the handshake finds the connection open, and nothing is thrown before the
notification. -/
def CryptoFinishes (w : WorkerWorld α ι) (t : Nat) (input : CryptoInput ι) : Prop :=
  (w.transport t).closeState ≠ .closed →
    (w.isCounted t = true → input.handshakeDone = true →
      (w.transport t).closeState = .open ∧ input.updateException = none ∧
        (input.pendingData = [] → input.laterException = none)) ∧
    ((w.transport t).closeState = .open → input.updateException = none →
      PendingFinishes t input.pendingData (w.updated t input))

theorem processPendingData_ends (pendingData : List (ReadInput ι)) (hc : w.Covers t) :
    Ends OtherFault (processPendingData t pendingData w) fun w' => Conserves t w w' ∧
      (w.Ready t → PendingFinishes t pendingData w → pendingData ≠ [] → w'.Settled t) := by
  induction pendingData generalizing w with
  | nil => exact .ok ⟨(Closes.refl t w).toConserves, fun _ _ h => absurd rfl h⟩
  | cons input pendingData ih =>
    unfold processPendingData
    refine (onNetworkData_ends input hc).with_eq.bind fun w₁ hw₁ => ?_
    obtain ⟨heq, hconserves, hsettled⟩ := hw₁
    split
    · exact .ok ⟨hconserves, fun hready hfinishes _ => hsettled hready hfinishes.1⟩
    · next hopen =>
        refine (ih (hconserves.covers hc)).with_eq.imp fun w' hw' => ?_
        obtain ⟨heq', hconserves', hsettled'⟩ := hw'
        refine ⟨hconserves.trans hconserves', fun hready hfinishes _ => ?_⟩
        have hw₁ := hsettled hready hfinishes.1
        cases hpending : pendingData with
        | nil =>
          rw [hpending] at heq'
          cases heq'
          exact hw₁
        | cons next rest =>
          refine hsettled' ⟨fun hclosed => absurd hclosed hopen, fun _ => .inr hw₁⟩
            (hfinishes.2 w₁ heq hopen) ?_
          rw [hpending]
          exact List.cons_ne_nil next rest

theorem notifyAfterCrypto_ends (input : CryptoInput ι) (hc : w.Covers t) :
    Ends OtherFault (w.notifyAfterCrypto t input) fun w' => Conserves t w w' ∧
      (w.Settled t → w'.Settled t) ∧ (input.laterException = none → w.Ready t → w'.Settled t) := by
  have hcloses : ∀ {x : Except ServerFault (WorkerWorld α ι)}, Ends OtherFault x (Closes t w) →
      (input.laterException ≠ none) → Ends OtherFault x fun w' => Conserves t w w' ∧
        (w.Settled t → w'.Settled t) ∧ (input.laterException = none → w.Ready t → w'.Settled t) :=
    fun hx hlater => hx.imp fun w' hw' =>
      ⟨hw'.toConserves, hw'.settled, fun hnone => absurd hnone hlater⟩
  unfold notifyAfterCrypto
  split
  · next hclosed =>
      refine .ok ⟨(Closes.refl t w).toConserves, id, fun _ hready => ?_⟩
      simp [Settled, hready.1 hclosed, hclosed]
  · next hopen =>
      split
      · next hlater => exact hcloses (closeImpl_ends true _ hc) (by simp [hlater])
      · next hlater =>
          have hbound := closes_maybeNotifyConnectionIdBound t w
          refine (maybeNotifyHandshakeFinished_ends _ (hbound.covers hc)).bind fun w₁ hw₁ => ?_
          have hconserves := hbound.toConserves.trans hw₁.1
          refine (maybeIssueConnectionIds_ends t _ w₁).bind fun w₂ hw₂ => ?_
          have hafter : ∀ {x : Except ServerFault (WorkerWorld α ι)},
              Ends OtherFault x (Closes t w₂) → Ends OtherFault x fun w' => Conserves t w w' ∧
                (w.Settled t → w'.Settled t) ∧
                (input.laterException = none → w.Ready t → w'.Settled t) := by
            refine fun hx => hx.imp fun w' hw' => ?_
            have hissued := hw₂.trans hw'
            have hdue : w.Due t → w'.Settled t :=
              fun hdue => hissued.settled (hw₁.2 (hbound.due hdue))
            exact ⟨hconserves.trans hissued.toConserves, fun hs => hdue (.inr hs),
              fun _ hready => hdue (hready.2 hopen)⟩
          have hcovers := (hconserves.trans hw₂.toConserves).covers hc
          split
          · exact hafter (closeImpl_ends true _ hcovers)
          · exact hafter (maybeNotifyTransportReady_ends _ hcovers)

omit [DecidableEq α] [DecidableEq ι] in
/-- The handshake goes on: the transport is ready, and settled if it is not counted or not done. -/
theorem settled_of_done {w' : WorkerWorld α ι} {done : Bool} (hs : w.Settled t)
    (hopen : (w.transport t).closeState ≠ .closed)
    (hstate : (w'.transport t).closeState = (w.transport t).closeState)
    (hcounted : w'.isCounted t = w.isCounted t)
    (hdone : (w'.transport t).isHandshakeDone = ((w.transport t).isHandshakeDone || done)) :
    w'.Ready t ∧ ((w.isCounted t = true → done = false) → w'.Settled t) := by
  have hs' : (w.isCounted t = true → done = false) → w'.Settled t := by
    intro hnot
    unfold Settled at hs ⊢
    rw [hcounted, hstate, hdone]
    cases hd : (w.transport t).isHandshakeDone with
    | true => simpa [hd] using hs
    | false =>
      have hcountedNow := hs.mpr ⟨hopen, hd⟩
      simp [hcountedNow, hopen, hnot hcountedNow]
  refine ⟨⟨fun hclosed => absurd (hstate ▸ hclosed) hopen, fun _ => ?_⟩, hs'⟩
  cases done with
  | true => exact .inl (by rw [hdone, Bool.or_true])
  | false => exact .inr (hs' fun _ => rfl)

theorem onCryptoEventAvailable_ends (input : CryptoInput ι) (hc : w.Covers t) :
    Ends OtherFault (w.onCryptoEventAvailable t input) fun w' =>
      Conserves t w w' ∧ (w.Settled t → w.CryptoFinishes t input → w'.Settled t) := by
  unfold onCryptoEventAvailable
  split
  · exact .ok ⟨(Closes.refl t w).toConserves, fun hs _ => hs⟩
  · next hopen =>
      have hmade : Conserves t w (w.modify t fun transport =>
          { transport with
            isHandshakeDone := transport.isHandshakeDone || input.handshakeDone }) := by
        constructor
        · intro u hu
          exact transport_modify_of_ne _ _ _ hu
        · rfl
        · intro hclosed
          exact absurd hclosed hopen
        · intro h
          rwa [isCounted, transport_modify] at h
        · simp [isCounted]
      have hupdated : Conserves t w (w.updated t input) :=
        hmade.trans (Closes.modify rfl rfl Iff.rfl).toConserves
      have hready : ∀ {v : WorkerWorld α ι}, (v.transport t).closeState = (w.transport t).closeState →
          v.isCounted t = w.isCounted t → (v.transport t).isHandshakeDone =
            ((w.transport t).isHandshakeDone || input.handshakeDone) → w.Settled t →
          v.Ready t ∧ ((w.isCounted t = true → input.handshakeDone = false) → v.Settled t) :=
        fun hstate hcounted hdone hs => settled_of_done hs hopen hstate hcounted hdone
      have hdone := @hready (w.modify t fun transport =>
        { transport with isHandshakeDone := transport.isHandshakeDone || input.handshakeDone })
        (by simp) (by simp [isCounted]) (by simp)
      have hready := @hready (w.updated t input) (by simp [updated])
        (by simp [updated, isCounted]) (by simp [updated])
      dsimp only
      rw [transport_modify]
      dsimp only
      split
      · next hgraceful =>
          refine .ok ⟨hmade, fun hs hfinishes => (hdone hs).2 fun hcounted => ?_⟩
          by_contra hdoneNow
          rw [Bool.not_eq_false] at hdoneNow
          exact hgraceful ((hfinishes hopen).1 hcounted hdoneNow).1
      · next hstate =>
          have hstate := not_not.mp hstate
          split
          · next hexception =>
              refine (closeImpl_ends true _ (hmade.covers hc)).imp fun w' hw' => ?_
              refine ⟨hmade.trans hw'.toConserves, fun hs hfinishes =>
                hw'.settled ((hdone hs).2 fun hcounted => ?_)⟩
              by_contra hdoneNow
              rw [Bool.not_eq_false] at hdoneNow
              rw [((hfinishes hopen).1 hcounted hdoneNow).2.1] at hexception
              cases hexception
          · next hexception =>
              refine (processPendingData_ends input.pendingData
                (hupdated.covers hc)).with_eq.bind fun w₁ hw₁ => ?_
              obtain ⟨heq, hconserves, hpending⟩ := hw₁
              have hconserves₁ := hupdated.trans hconserves
              refine (notifyAfterCrypto_ends input (hconserves₁.covers hc)).imp fun w' hw' => ?_
              obtain ⟨hconserves', hsettled, hlater⟩ := hw'
              refine ⟨hconserves₁.trans hconserves', fun hs hfinishes => ?_⟩
              obtain ⟨hfirst, hnext⟩ := hfinishes hopen
              by_cases hnil : input.pendingData = []
              · rw [hnil] at heq
                cases heq
                by_cases hcounted : w.isCounted t = true ∧ input.handshakeDone = true
                · exact hlater ((hfirst hcounted.1 hcounted.2).2.2 hnil) (hready hs).1
                · refine hsettled ((hready hs).2 fun h => ?_)
                  simpa [h] using hcounted
              · exact hsettled (hpending (hready hs).1 (hnext hstate hexception) hnil)

/-! ### The worker -/

/-- The count is that of the transports of this worker, over `others`. -/
structure Accounts (others : Nat) (w : WorkerWorld α ι) : Prop where
  count : w.globalUnfinishedHandshakes = others + w.countedTransports
  absent : ∀ u, w.created ≤ u →
    (w.transport u).closeState = .closed ∧ w.isCounted u = false

/-- A count over a range, where one of its values changes. -/
theorem countP_range_of_ne {p q : Nat → Bool} {n t : Nat} (ht : t < n) (h : ∀ u, u ≠ t → q u = p u) :
    (List.range n).countP q + (p t).toNat = (List.range n).countP p + (q t).toNat := by
  induction n with
  | zero => cases ht
  | succ n ih =>
    rw [List.range_succ, List.countP_append, List.countP_append, List.countP_singleton,
      List.countP_singleton]
    obtain hlt | rfl := Nat.lt_succ_iff_lt_or_eq.mp ht
    · rw [h n (Nat.ne_of_gt hlt)]
      have hn := ih hlt
      omega
    · have hsame : (List.range t).countP q = (List.range t).countP p :=
        List.countP_congr fun u hu => by rw [h u (Nat.ne_of_lt (List.mem_range.mp hu))]
      rw [hsame]
      cases p t <;> cases q t <;> simp

namespace Accounts

variable {others : Nat} {w' : WorkerWorld α ι}

omit [DecidableEq α] [DecidableEq ι] in
theorem unique {others' : Nat} (h : Accounts others w) (h' : Accounts others' w) :
    others = others' := by
  have hcount := h.count
  have hcount' := h'.count
  omega

omit [DecidableEq α] [DecidableEq ι] in
theorem covers (h : Accounts others w) (t : Nat) : w.Covers t := by
  unfold Covers
  rw [h.count]
  cases hcounted : w.isCounted t with
  | false =>
    rw [Bool.toNat_false]
    omega
  | true =>
    have hlt : t < w.created := by
      by_contra hge
      rw [(h.absent t (Nat.not_lt.mp hge)).2] at hcounted
      cases hcounted
    have hpos : 0 < w.countedTransports :=
      List.countP_pos_iff.mpr ⟨t, List.mem_range.mpr hlt, hcounted⟩
    rw [Bool.toNat_true]
    omega

omit [DecidableEq α] [DecidableEq ι] in
theorem conserves (h : Accounts others w) (hw : Conserves t w w') : Accounts others w' where
  count := by
    have hcount := hw.count
    rw [h.count] at hcount
    by_cases hlt : t < w.created
    · have hrange := countP_range_of_ne (p := w.isCounted) (q := w'.isCounted) hlt fun u hu => by
        rw [isCounted, isCounted, hw.frame u hu]
      unfold countedTransports at hcount ⊢
      rw [hw.created]
      omega
    · have hcounted := (h.absent t (Nat.not_lt.mp hlt)).2
      have hcounted' : w'.isCounted t = false :=
        Bool.eq_false_iff.mpr fun h' => Bool.eq_false_iff.mp hcounted (hw.mono h')
      have hrange : w'.countedTransports = w.countedTransports := by
        unfold countedTransports
        rw [hw.created]
        refine List.countP_congr fun u hu => ?_
        have hu' : u ≠ t := fun heq => hlt (heq ▸ List.mem_range.mp hu)
        rw [isCounted, isCounted, hw.frame u hu']
      rw [hcounted, hcounted'] at hcount
      rw [hrange]
      omega
  absent u hu := by
    rw [hw.created] at hu
    obtain ⟨hclosed, hcounted⟩ := h.absent u hu
    by_cases heq : u = t
    · subst heq
      exact ⟨hw.closed hclosed,
        Bool.eq_false_iff.mpr fun h' => Bool.eq_false_iff.mp hcounted (hw.mono h')⟩
    · rw [isCounted, hw.frame u heq]
      exact ⟨hclosed, hcounted⟩

end Accounts

omit [DecidableEq α] [DecidableEq ι] in
theorem Conserves.settled_of_ne {u : Nat} {w' : WorkerWorld α ι} (h : Conserves t w w')
    (hu : u ≠ t) : w'.Settled u ↔ w.Settled u := by
  unfold Settled isCounted
  rw [h.frame u hu]

/-- What a step leaves. Where the worker is shut down the count may be over more than before. -/
def KeepsCount (others : Nat) (w : WorkerWorld α ι) (P : Prop) (w' : WorkerWorld α ι) : Prop :=
  (∃ others', others ≤ others' ∧ Accounts others' w') ∧
    ((∀ u, w.Settled u) → P → Accounts others w' ∧ ∀ u, w'.Settled u)

omit [DecidableEq α] [DecidableEq ι] in
theorem Conserves.keepsCount {others : Nat} {w' : WorkerWorld α ι} {P : Prop}
    (h : Conserves t w w') (hw : Accounts others w) (hs : w.Settled t → P → w'.Settled t) :
    KeepsCount others w P w' := by
  refine ⟨⟨others, Nat.le_refl _, hw.conserves h⟩, fun hall hP => ⟨hw.conserves h, fun u => ?_⟩⟩
  by_cases hu : u = t
  · subst hu
    exact hs (hall u) hP
  · exact (h.settled_of_ne hu).mpr (hall u)

omit [DecidableEq α] [DecidableEq ι] in
/-- A new transport is counted, and unfinished. -/
theorem Accounts.new {others : Nat} {w' : WorkerWorld α ι} {source : α × ι} {setup : TransportSetup}
    (hw : Accounts others w)
    (htransport : w'.transport = Function.update w.transport w.created (.new source setup))
    (hcreated : w'.created = w.created + 1)
    (hglobal : w'.globalUnfinishedHandshakes = w.globalUnfinishedHandshakes + 1) :
    Accounts others w' ∧ ((∀ u, w.Settled u) → ∀ u, w'.Settled u) := by
  have hold : ∀ u, u ≠ w.created → w'.transport u = w.transport u := by
    intro u hu
    rw [htransport, Function.update_of_ne hu]
  have hnew : w'.transport w.created = .new source setup := by
    rw [htransport, Function.update_self]
  refine ⟨⟨?_, ?_⟩, fun hall u => ?_⟩
  · have hrange : (List.range w.created).countP w'.isCounted = w.countedTransports :=
      List.countP_congr fun u hu => by
        rw [isCounted, isCounted, hold u (Nat.ne_of_lt (List.mem_range.mp hu))]
    have hcounted : w'.isCounted w.created = true := by
      rw [isCounted, hnew]
      rfl
    have hcount : w'.countedTransports = w.countedTransports + 1 := by
      rw [countedTransports, hcreated, List.range_succ, List.countP_append, hrange,
        List.countP_singleton, if_pos hcounted]
    rw [hglobal, hw.count, hcount]
    omega
  · intro u hu
    rw [hcreated] at hu
    rw [isCounted, hold u (Nat.ne_of_gt hu)]
    exact hw.absent u (Nat.le_of_succ_le hu)
  · by_cases hu : u = w.created
    · rw [hu, Settled, isCounted, hnew]
      simp [ServerTransport.new]
    · rw [Settled, isCounted, hold u hu]
      exact hall u

theorem makeTransport_ends {others : Nat} (source : α × ι) (setup : TransportSetup)
    (hw : Accounts others w) :
    Ends OtherFault (w.makeTransport source setup) fun w' => Accounts others w' ∧
      ((∀ u, w.Settled u) → ∀ u, w'.Settled u) := by
  unfold makeTransport
  split
  · exact .error (by simp [OtherFault])
  · exact .ok (hw.new rfl rfl rfl)

theorem dispatchLongHeader_ends {others : Nat} (source : α × ι) (isInitial : Bool)
    (setup : TransportSetup) (hw : Accounts others w) :
    Ends OtherFault (w.dispatchLongHeader source isInitial setup) fun r => Accounts others r.2 ∧
      ((∀ u, w.Settled u) → ∀ u, r.2.Settled u) := by
  unfold dispatchLongHeader
  split
  · exact .ok ⟨hw, id⟩
  · split
    · exact .ok ⟨hw, id⟩
    · split
      · exact (makeTransport_ends source setup hw).bind fun w' hw' => .ok hw'
      · exact .ok ⟨hw, id⟩

theorem destroy_ends (hc : w.Covers t) : Ends OtherFault (w.destroy t) (Closes t w) := by
  unfold destroy
  split
  · exact .ok (.refl t w)
  · exact (closeImpl_ends false false hc).bind fun w' hw' =>
      .ok (hw'.trans (.modify rfl rfl Iff.rfl))

/-! ### Shutdown -/

omit [DecidableEq α] [DecidableEq ι] in
/-- The maps of the worker do not matter for the count. -/
theorem Accounts.of_transport {others others' : Nat} {w' : WorkerWorld α ι} (hw : Accounts others w)
    (htransport : w'.transport = w.transport) (hcreated : w'.created = w.created)
    (hglobal : w'.globalUnfinishedHandshakes + others =
      w.globalUnfinishedHandshakes + others') : Accounts others' w' where
  count := by
    have hcounted : w'.countedTransports = w.countedTransports := by
      unfold countedTransports
      rw [hcreated]
      exact List.countP_congr fun u _ => by rw [isCounted, isCounted, htransport]
    have hcount := hw.count
    rw [hcounted]
    omega
  absent u hu := by
    rw [isCounted, htransport]
    exact hw.absent u (hcreated ▸ hu)

omit [DecidableEq α] [DecidableEq ι] in
/-- A transport that loses its callback without a notification stays in the count. -/
theorem Accounts.drop {others : Nat} {w' : WorkerWorld α ι} (hw : Accounts others w)
    (hframe : ∀ u, u ≠ t → w'.transport u = w.transport u) (hcreated : w'.created = w.created)
    (hclosed : (w.transport t).closeState = .closed → (w'.transport t).closeState = .closed)
    (hcounted : w'.isCounted t = false)
    (hglobal : w'.globalUnfinishedHandshakes = w.globalUnfinishedHandshakes) :
    Accounts (others + (w.isCounted t).toNat) w' := by
  have hcounted' : (w'.transport t).handshakeFinishedCb = false := hcounted
  have hconserves : Conserves t w { w' with
      globalUnfinishedHandshakes := w.globalUnfinishedHandshakes - (w.isCounted t).toNat } := by
    refine ⟨hframe, hcreated, hclosed, fun h => ?_, ?_⟩
    · rw [isCounted, hcounted'] at h
      cases h
    · simp [isCounted, hcounted']
  refine (hw.conserves hconserves).of_transport rfl rfl ?_
  rw [hglobal]
  dsimp only
  omega

/-- A transport that is still counted is lost for the count. -/
theorem shutdownTransport_ends {others : Nat} (t : Nat) (hw : Accounts others w) :
    Ends OtherFault (w.shutdownTransport t) fun w' =>
      (∃ others', others ≤ others' ∧ Accounts others' w') ∧
      (w.isCounted t = false → Closes t w w') ∧
      w'.boundServerTransports = w.boundServerTransports := by
  have hlost : Accounts (others + (w.isCounted t).toNat) (w.modify t fun transport =>
      { transport with routingCb := false, handshakeFinishedCb := false }) := by
    apply hw.drop
    · intro u hu
      exact transport_modify_of_ne _ _ _ hu
    · rfl
    · intro hclosed
      rw [transport_modify, hclosed]
    · rw [isCounted, transport_modify]
    · rfl
  have hkept : w.isCounted t = false → Closes t w (w.modify t fun transport =>
      { transport with routingCb := false, handshakeFinishedCb := false }) :=
    fun hcounted => .modify rfl hcounted.symm Iff.rfl
  refine ((closeNow_ends (hlost.covers t)).also (shutdownTransport_sameMaps t w)).imp
    fun w' hw' => ?_
  obtain ⟨hcloses, hmaps⟩ := hw'
  exact ⟨⟨_, Nat.le_add_right _ _, hlost.conserves hcloses.toConserves⟩, fun hcounted => (hkept hcounted).trans hcloses,
    hmaps.boundServerTransports⟩

/-- Where none of the transports is counted, all stays as it is for the count. -/
theorem shutdownTransports_ends {others : Nat} (ts : List Nat) (hw : Accounts others w) :
    Ends OtherFault (ts.foldlM shutdownTransport w) fun w' =>
      (∃ others', others ≤ others' ∧ Accounts others' w') ∧
      w'.boundServerTransports = w.boundServerTransports ∧
      ((∀ t ∈ ts, w.isCounted t = false) → Accounts others w' ∧
        (∀ u, w.isCounted u = false → w'.isCounted u = false) ∧
        ((∀ u, w.Settled u) → ∀ u, w'.Settled u)) := by
  induction ts generalizing others w with
  | nil => exact .ok ⟨⟨others, Nat.le_refl _, hw⟩, rfl, fun _ => ⟨hw, fun _ h => h, id⟩⟩
  | cons t ts ih =>
    rw [List.foldlM_cons]
    refine (shutdownTransport_ends t hw).bind fun w₁ hw₁ => ?_
    obtain ⟨⟨others₁, hle₁, haccounts₁⟩, hcloses, hbound⟩ := hw₁
    by_cases hcounted : w.isCounted t = false
    · have hcloses := hcloses hcounted
      have hstays : ∀ u, w.isCounted u = false → w₁.isCounted u = false := by
        intro u hu
        by_cases heq : u = t
        · subst heq
          exact Bool.eq_false_iff.mpr fun h => Bool.eq_false_iff.mp hu (hcloses.mono h)
        · rwa [isCounted, hcloses.frame u heq]
      refine (ih (hw.conserves hcloses.toConserves)).imp fun w' hw' => ?_
      refine ⟨hw'.1, hw'.2.1.trans hbound, fun hall => ?_⟩
      obtain ⟨haccounts, hstays', hsettled⟩ := hw'.2.2 fun u hu => hstays u (hall u (.tail _ hu))
      refine ⟨haccounts, fun u hu => hstays' u (hstays u hu), fun hs => hsettled fun u => ?_⟩
      by_cases heq : u = t
      · subst heq
        exact hcloses.settled (hs u)
      · exact (hcloses.settled_of_ne heq).mpr (hs u)
    · refine (ih haccounts₁).imp fun w' hw' => ?_
      obtain ⟨⟨others', hle, haccounts'⟩, hbound', -⟩ := hw'
      exact ⟨⟨others', Nat.le_trans hle₁ hle, haccounts'⟩, hbound'.trans hbound,
        fun hall => absurd (hall t List.mem_cons_self) hcounted⟩

theorem shutdownAllConnections_ends {others : Nat} (hw : Accounts others w) :
    Ends OtherFault w.shutdownAllConnections (KeepsCount others w (w.shutdown = false →
      ∀ t ∈ w.sourceAddressMap.map (·.2) ++ w.boundServerTransports, w.isUnfinished t = false)) := by
  unfold shutdownAllConnections
  split
  · exact .ok ⟨⟨others, Nat.le_refl _, hw⟩, fun hall _ => ⟨hw, hall⟩⟩
  · next hshutdown =>
      rw [Bool.not_eq_true] at hshutdown
      have hstarted : Accounts others { w with shutdown := true } := hw.of_transport rfl rfl rfl
      have hcleared : ∀ {others' : Nat} {v : WorkerWorld α ι}, Accounts others' v →
          Accounts others' { v with
            boundServerTransports := [], sourceAddressMap := [], connectionIdMap := [] } :=
        fun h => h.of_transport rfl rfl rfl
      refine (shutdownTransports_ends (w.sourceAddressMap.map (·.2)) hstarted).bind
        fun w₁ hw₁ => ?_
      obtain ⟨⟨others₁, hle₁, haccounts₁⟩, hbound, hkept₁⟩ := hw₁
      refine (shutdownTransports_ends w₁.boundServerTransports haccounts₁).bind fun w₂ hw₂ => ?_
      obtain ⟨⟨others₂, hle₂, haccounts₂⟩, -, hkept₂⟩ := hw₂
      refine .ok ⟨⟨others₂, Nat.le_trans hle₁ hle₂, hcleared haccounts₂⟩, fun hall hnone => ?_⟩
      have hcounted : ∀ t ∈ w.sourceAddressMap.map (·.2) ++ w.boundServerTransports,
          w.isCounted t = false := by
        intro t ht
        rw [(hall t).isCounted_eq]
        exact hnone hshutdown t ht
      obtain ⟨haccounts, hstays, hsettled⟩ := hkept₁ fun t ht =>
        hcounted t (List.mem_append_left _ ht)
      rw [haccounts₁.unique haccounts] at hkept₂
      obtain ⟨haccounts', -, hsettled'⟩ := hkept₂ fun t ht =>
        hstays t (hcounted t (List.mem_append_right _ (hbound ▸ ht)))
      exact ⟨hcleared haccounts', hsettled' (hsettled hall)⟩

/-- What a step needs: no exception comes before the notification that a handshake is done, and a
shutdown finds no unfinished handshake. -/
def FinishesHandshakes (w : WorkerWorld α ι) : WorkerEvent α ι → Prop
  | .longHeader source isInitial setup input => w.shutdown = false → ∀ t w',
      w.dispatchLongHeader source isInitial setup = .ok (some t, w') → w'.ReadFinishes t input
  | .shortHeader dstConnId input => w.shutdown = false → ∀ t,
      findEntry dstConnId w.connectionIdMap = some t → w.ReadFinishes t input
  | .cryptoEvent t input => w.CryptoFinishes t input
  | .shutdown => w.shutdown = false →
      ∀ t ∈ w.sourceAddressMap.map (·.2) ++ w.boundServerTransports, w.isUnfinished t = false
  | _ => True

theorem step_ends {others : Nat} (event : WorkerEvent α ι) (hw : Accounts others w) :
    Ends OtherFault (w.step event) (KeepsCount others w (w.FinishesHandshakes event)) := by
  have hkeep : ∀ {u : Nat} {v : WorkerWorld α ι} {P : Prop}, Closes u w v →
      KeepsCount others w P v := fun h => h.toConserves.keepsCount hw fun hs _ => h.settled hs
  have hsame : ∀ {P : Prop}, KeepsCount others w P w := hkeep (.refl 0 w)
  have hready : ∀ {v : WorkerWorld α ι} {u : Nat}, v.Settled u → v.Ready u := by
    intro v u hs
    refine ⟨fun hclosed => ?_, fun _ => .inr hs⟩
    rw [hs.isCounted_eq]
    simp [isUnfinished, hclosed]
  cases event with
  | longHeader source isInitial setup input =>
    dsimp only [step]
    split
    · exact .ok hsame
    · next hshutdown =>
        rw [Bool.not_eq_true] at hshutdown
        refine (dispatchLongHeader_ends source isInitial setup hw).with_eq.bind fun r hr => ?_
        obtain ⟨heq, haccounts, hsettled⟩ := hr
        split
        · exact .ok ⟨⟨others, Nat.le_refl _, haccounts⟩, fun hall _ => ⟨haccounts, hsettled hall⟩⟩
        · next found hfound =>
            refine (onNetworkData_ends input (haccounts.covers found)).imp fun w' hw' => ?_
            refine ⟨⟨others, Nat.le_refl _, haccounts.conserves hw'.1⟩, fun hall hfinishes => ?_⟩
            have hfinishes' := hfinishes hshutdown found r.2 (by rw [heq, ← hfound])
            have hkept : KeepsCount others r.2 True w' := hw'.1.keepsCount haccounts fun hs _ => hw'.2 (hready hs) hfinishes'
            exact hkept.2 (hsettled hall) trivial
  | shortHeader dstConnId input =>
    dsimp only [step]
    split
    · exact .ok hsame
    · next hshutdown =>
        rw [Bool.not_eq_true] at hshutdown
        split
        · exact .ok hsame
        · next found hfound =>
            exact (onNetworkData_ends input (hw.covers found)).imp fun w' hw' =>
              hw'.1.keepsCount hw fun hs hfinishes =>
                hw'.2 (hready hs) (hfinishes hshutdown found hfound)
  | cryptoEvent t input =>
    exact (onCryptoEventAvailable_ends input (hw.covers t)).imp fun w' hw' =>
      hw'.1.keepsCount hw hw'.2
  | appCalls t calls =>
    exact (appCalls_ends calls (hw.covers t)).imp fun w' hw' => hkeep hw'
  | closeImpl t drainConnection noDrain =>
    exact (closeImpl_ends drainConnection noDrain (hw.covers t)).imp fun w' hw' => hkeep hw'
  | drainTimeout t =>
    dsimp only [step]
    split
    · have hcloses : Closes t w ((w.modify t fun transport =>
          { transport with drainTimeout := false }).drainTimeoutExpired t) :=
        (Closes.modify rfl rfl Iff.rfl).trans (closes_unbindConnection ..)
      exact .ok (hkeep hcloses)
    · exact .ok hsame
  | destroy t =>
    exact (destroy_ends (hw.covers t)).imp fun w' hw' => hkeep hw'
  | shutdown => exact shutdownAllConnections_ends hw

end WorkerWorld

/-! ### The workers of a server -/

/-- The workers, and the count that they share. -/
structure HandshakeCount (α ι : Type) where
  workers : List (WorkerWorld α ι)
  globalUnfinishedHandshakes : Int

namespace HandshakeCount

variable {α ι : Type} [DecidableEq α] [DecidableEq ι]

/-- A worker, which sees the count of all. -/
def worker (s : HandshakeCount α ι) (i : Nat) : Option (WorkerWorld α ι) :=
  s.workers[i]?.map fun w =>
    { w with globalUnfinishedHandshakes := s.globalUnfinishedHandshakes }

def step (s : HandshakeCount α ι) (event : Nat × WorkerEvent α ι) :
    Except ServerFault (HandshakeCount α ι) :=
  match s.worker event.1 with
  | none => .ok s
  | some w => do
      let w ← w.step event.2
      return ⟨s.workers.set event.1 w, w.globalUnfinishedHandshakes⟩

def start (source : α × ι) (workers : Nat) : HandshakeCount α ι :=
  ⟨List.replicate workers (.start source 0), 0⟩

def unfinishedTransports (s : HandshakeCount α ι) : Nat :=
  (s.workers.map (·.unfinishedTransports)).sum

/-- The condition on a step: what its worker needs. -/
def FinishesHandshakes (s : HandshakeCount α ι) (event : Nat × WorkerEvent α ι) : Prop :=
  ∀ w, s.worker event.1 = some w → w.FinishesHandshakes event.2

/-- The transports that are counted, and those that have been lost. -/
structure Inv (lost : Nat) (s : HandshakeCount α ι) : Prop where
  count : s.globalUnfinishedHandshakes = lost + (s.workers.map (·.countedTransports)).sum
  absent : ∀ w ∈ s.workers, ∀ u, w.created ≤ u →
    (w.transport u).closeState = .closed ∧ w.isCounted u = false

def Settled (s : HandshakeCount α ι) : Prop := ∀ w ∈ s.workers, ∀ u, w.Settled u

omit [DecidableEq α] [DecidableEq ι] in
theorem Settled.unfinishedTransports_eq {s : HandshakeCount α ι} (h : s.Settled) :
    s.unfinishedTransports = (s.workers.map (·.countedTransports)).sum := by
  unfold unfinishedTransports
  congr 1
  refine List.map_congr_left fun w hw => List.countP_congr fun u _ => ?_
  rw [(h w hw u).isCounted_eq]

omit [DecidableEq α] [DecidableEq ι] in
/-- A worker among the others. -/
theorem sum_set {l : List (WorkerWorld α ι)} {i : Nat} {w : WorkerWorld α ι} (h : l[i]? = some w)
    (f : WorkerWorld α ι → Nat) :
    ∃ others, (l.map f).sum = others + f w ∧ ∀ w', ((l.set i w').map f).sum = others + f w' := by
  induction l generalizing i with
  | nil => simp at h
  | cons a l ih =>
    cases i with
    | zero =>
      have ha : a = w := by simpa using h
      refine ⟨(l.map f).sum, ?_, fun w' => ?_⟩
      · rw [List.map_cons, List.sum_cons, ha, Nat.add_comm]
      · rw [List.set_cons_zero, List.map_cons, List.sum_cons, Nat.add_comm]
    | succ i =>
      obtain ⟨others, hsum, hset⟩ := ih (by simpa using h)
      refine ⟨f a + others, ?_, fun w' => ?_⟩
      · rw [List.map_cons, List.sum_cons, hsum, Nat.add_assoc]
      · rw [List.set_cons_succ, List.map_cons, List.sum_cons, hset, Nat.add_assoc]

theorem step_ends {lost : Nat} {s : HandshakeCount α ι} (event : Nat × WorkerEvent α ι)
    (hs : Inv lost s) :
    Ends WorkerWorld.OtherFault (s.step event) fun s' => (∃ lost', Inv lost' s') ∧
      (s.Settled → s.FinishesHandshakes event → Inv lost s' ∧ s'.Settled) := by
  unfold step
  split
  · exact .ok ⟨⟨lost, hs⟩, fun hsettled _ => ⟨hs, hsettled⟩⟩
  · next w hworker =>
      obtain ⟨v, hv, hw⟩ := Option.map_eq_some_iff.mp hworker
      have hmem := List.mem_of_getElem? hv
      obtain ⟨others, hsum, hset⟩ := sum_set hv (·.countedTransports)
      have haccounts : WorkerWorld.Accounts (lost + others) w := by
        subst hw
        constructor
        · have hcount := hs.count
          rw [hsum] at hcount
          have hsame : ∀ n, ({ v with globalUnfinishedHandshakes := n } :
            WorkerWorld α ι).countedTransports = v.countedTransports := fun _ => rfl
          rw [hsame]
          dsimp only
          omega
        · exact hs.absent v hmem
      refine (WorkerWorld.step_ends event.2 haccounts).bind fun w' hw' => Ends.ok ?_
      have hput : ∀ {lost' : Nat}, WorkerWorld.Accounts (lost' + others) w' →
          Inv lost' ⟨s.workers.set event.1 w', w'.globalUnfinishedHandshakes⟩ := by
        intro lost' haccounts'
        constructor
        · have hcount := haccounts'.count
          rw [hset]
          dsimp only
          omega
        · intro u hu
          obtain hold | rfl := List.mem_or_eq_of_mem_set hu
          · exact hs.absent u hold
          · exact haccounts'.absent
      obtain ⟨⟨others', hle, haccounts'⟩, hkept⟩ := hw'
      constructor
      · refine ⟨others' - others, hput ?_⟩
        rwa [Nat.sub_add_cancel (by omega)]
      · intro hsettled hfinishes
        have hw : ∀ u, w.Settled u := by
          subst hw
          exact hsettled v hmem
        obtain ⟨haccounts', hsettled'⟩ := hkept hw (hfinishes w hworker)
        refine ⟨hput haccounts', fun u hu => ?_⟩
        obtain hold | rfl := List.mem_or_eq_of_mem_set hu
        · exact hsettled u hold
        · exact hsettled'

omit [DecidableEq α] [DecidableEq ι] in
theorem inv_start (source : α × ι) (workers : Nat) :
    Inv 0 (start source workers) ∧ (start source workers).Settled := by
  have hworker : ∀ w ∈ (start source workers).workers, w = .start source 0 :=
    fun w hw => List.eq_of_mem_replicate hw
  refine ⟨⟨?_, ?_⟩, ?_⟩
  · simp [start, WorkerWorld.countedTransports, WorkerWorld.start]
  · intro w hw u _
    rw [hworker w hw]
    exact ⟨rfl, rfl⟩
  · intro w hw u
    rw [hworker w hw]
    simp [WorkerWorld.Settled, WorkerWorld.isCounted, WorkerWorld.start, ServerTransport.absent]

/-- The count never falls short, and where no step throws before the notification of a handshake that
is done and no shutdown finds an unfinished one, it is the number of unfinished handshakes. -/
theorem unfinishedHandshakes_exact (source : α × ι) (workers : Nat)
    (events : List (Nat × WorkerEvent α ι)) :
    events.foldlM step (start source workers) ≠ .error .unfinishedHandshakes ∧
    ∀ s, Meets step FinishesHandshakes (start source workers) events →
      events.foldlM step (start source workers) = .ok s →
      s.globalUnfinishedHandshakes = s.unfinishedTransports := by
  obtain ⟨hinv, hsettled⟩ := inv_start source workers
  constructor
  · intro hrun
    refine @run_error_on (HandshakeCount α ι) (Nat × WorkerEvent α ι) ServerFault step
      (fun s => ∃ lost, Inv lost s) (fun _ => True) WorkerWorld.OtherFault ?_ ?_ _ _ _ ⟨0, hinv⟩
      (fun _ _ => trivial) hrun rfl
    · rintro s event s' - ⟨lost, hs⟩ hstep
      exact ((step_ends event hs).of_ok hstep).1
    · rintro s event fault - ⟨lost, hs⟩ hstep
      exact (step_ends event hs).of_error hstep
  · intro s hmeets hrun
    have hs : Inv 0 s ∧ s.Settled := by
      refine @run_invariant_of_meets (HandshakeCount α ι) (Nat × WorkerEvent α ι) ServerFault step
        FinishesHandshakes (fun s => Inv 0 s ∧ s.Settled) ?_ _ _ _ ⟨hinv, hsettled⟩ hmeets hrun
      rintro s event s' ⟨hs, hsettled⟩ hfinishes hstep
      exact ((step_ends event hs).of_ok hstep).2 hsettled hfinishes
    rw [hs.1.count, hs.2.unfinishedTransports_eq]
    omega

/-- A client's first datagram, and the one that completes its handshake, which may hold a frame that
the server closes the connection for. -/
def firstFlight (source : Nat × Nat) (connId : Nat) : WorkerEvent Nat Nat :=
  .longHeader source true ⟨true, false, true⟩
    { encoded := [connId], startsConnection := true, receivesPackets := true, handshakeDone := false
      writeCipher := false, peerActiveConnectionIdLimit := 2, retired := [], readException := none
      onFirstPeerPacketProcessed := [], laterException := none, onFullHandshakeDone := []
      onTransportReady := [], peerConnectionError := none, afterwards := [] }

def secondFlight (source : Nat × Nat) (readException : Option Bool) : WorkerEvent Nat Nat :=
  .longHeader source false ⟨true, false, true⟩
    { encoded := [], startsConnection := false, receivesPackets := true, handshakeDone := true
      writeCipher := true, peerActiveConnectionIdLimit := 2, retired := []
      readException := readException, onFirstPeerPacketProcessed := [], laterException := none
      onFullHandshakeDone := [], onTransportReady := [], peerConnectionError := none
      afterwards := [] }

/-- Both flights are read, and the handshake is not counted any more. -/
theorem unfinishedHandshakes_twoFlights :
    ∃ s, [(0, firstFlight (1, 2) 7), (0, secondFlight (1, 7) none)].foldlM step
        (start (1, 2) 1) = .ok s ∧
      s.globalUnfinishedHandshakes = s.unfinishedTransports :=
  ⟨_, rfl, (unfinishedHandshakes_exact (1, 2) 1
    [(0, firstFlight (1, 2) 7), (0, secondFlight (1, 7) none)]).2 _
    ⟨fun _ _ _ _ _ _ _ _ => ⟨rfl, rfl⟩,
      fun _ _ => ⟨fun _ _ _ _ _ _ _ _ => ⟨rfl, rfl⟩, fun _ _ => trivial⟩⟩ rfl⟩

/-- A frame behind the end of the handshake closes the connection, which is counted for good. -/
theorem unfinishedHandshakes_leak :
    ∃ s, [(0, firstFlight (1, 2) 7), (0, secondFlight (1, 7) (some false)),
        (0, .drainTimeout 0)].foldlM step (start (1, 2) 1) = .ok s ∧
      s.globalUnfinishedHandshakes = 1 ∧ s.unfinishedTransports = 0 :=
  ⟨_, rfl, rfl, rfl⟩

end HandshakeCount

end MasqueQuic
