/-
Control frames on their way to the peer.

A frame that is handed to `sendSimpleFrame` waits among the pending events, goes out in a
packet, comes back when the packet is lost, and is done with when the ack visitor is run on
it. `handed` and `acked` record the two ends of the way and are read by nothing; a frame may
be handed over several times, so frames are counted. What the other frames do is a
parameter.
-/

import MasqueQuic.Quic.SendContract

namespace MasqueQuic

variable {ρ ε : Type}

structure ControlState (ρ : Type) where
  frames : List QuicSimpleFrame
  pathChallenge : Option Nat
  outstandingPathValidation : Option Nat
  openStreams : Finset StreamId
  closedStreams : Finset StreamId
  sentHandshakeDone : Bool
  handshakeConfirmedThisLoop : Bool
  handed : List QuicSimpleFrame
  acked : List QuicSimpleFrame
  confirmations : Nat
  other : ρ

inductive ControlFailure (ε : Type) where
  | notPending      -- `CHECK(itr != frames.end())` in `updateSimpleFrameOnPacketSent`
  | implicitLoss    -- `LOG(FATAL)` in `implicitAckCryptoStream`
  | other (e : ε)
  deriving DecidableEq

/-- What the other frames of a packet do, and what `implicitAckCryptoStream` does to the
crypto stream at its end. -/
structure OtherFrames (ρ ε : Type) where
  sent : OutstandingPacket → QuicWriteFrame → ρ → Except ε ρ
  acked : OutstandingPacket → QuicWriteFrame → ρ → Except ε ρ
  lost : OutstandingPacket → Bool → QuicWriteFrame → ρ → Except ε ρ
  spuriousLoss : WriteStreamFrame → ρ → Except ε ρ
  cryptoDone : PacketNumberSpace → ρ → Except ε ρ

namespace ControlState

def sendSimpleFrame (s : ControlState ρ) (frame : QuicSimpleFrame) : ControlState ρ :=
  { s with frames := s.frames ++ [frame], handed := frame :: s.handed }

def updateSimpleFrameOnPacketClone (s : ControlState ρ) (frame : QuicSimpleFrame) :
    Option QuicSimpleFrame :=
  match frame with
  | .stopSending streamId _ => if streamId ∈ s.openStreams then some frame else none
  | .pathChallenge pathData =>
      if s.outstandingPathValidation = some pathData then some frame else none
  | _ => some frame

def updateSimpleFrameOnPacketSent (s : ControlState ρ) (frame : QuicSimpleFrame) :
    Except (ControlFailure ε) (ControlState ρ) :=
  match frame with
  | .pathChallenge _ =>
      .ok { s with outstandingPathValidation := s.pathChallenge, pathChallenge := none }
  | _ =>
      if frame ∈ s.frames then .ok { s with frames := s.frames.erase frame }
      else .error .notPending

def updateSimpleFrameOnPacketLoss (s : ControlState ρ) (frame : QuicSimpleFrame) :
    ControlState ρ :=
  match frame with
  | .stopSending streamId _ =>
      if streamId ∈ s.openStreams then { s with frames := s.frames ++ [frame] } else s
  | .pathChallenge pathData =>
      if s.outstandingPathValidation = some pathData then { s with pathChallenge := some pathData }
      else s
  | _ => { s with frames := s.frames ++ [frame] }

/-- The ack visitor on a control frame. That of an implicit ack does nothing with it. -/
def visited (s : ControlState ρ) (implicit : Bool) (frame : QuicSimpleFrame) : ControlState ρ :=
  { s with
    acked := frame :: s.acked
    handshakeConfirmedThisLoop :=
      s.handshakeConfirmedThisLoop || (!implicit && frame == .handshakeDone) }

/-- A handler of another frame. -/
def onOther (f : ρ → Except ε ρ) (s : ControlState ρ) :
    Except (ControlFailure ε) (ControlState ρ) :=
  match f s.other with
  | .ok other => .ok { s with other }
  | .error e => .error (.other e)

end ControlState

def frameSent (o : OtherFrames ρ ε) (p : OutstandingPacket) (s : ControlState ρ) :
    QuicWriteFrame → Except (ControlFailure ε) (ControlState ρ)
  | .simple frame =>
      -- not for cloned frames
      if p.associatedEvent.isNone then s.updateSimpleFrameOnPacketSent frame else .ok s
  | frame => s.onOther (o.sent p frame)

def frameAcked (o : OtherFrames ρ ε) (implicit : Bool) (p : OutstandingPacket)
    (frame : QuicWriteFrame) (s : ControlState ρ) : Except (ControlFailure ε) (ControlState ρ) :=
  match frame with
  | .simple frame => .ok (s.visited implicit frame)
  | frame => s.onOther (o.acked p frame)

/-- `markPacketLoss` on one frame. -/
def frameLost (o : OtherFrames ρ ε) (p : OutstandingPacket) (processed : Bool)
    (s : ControlState ρ) : QuicWriteFrame → Except (ControlFailure ε) (ControlState ρ)
  | .simple frame => .ok (if processed then s else s.updateSimpleFrameOnPacketLoss frame)
  | frame => s.onOther (o.lost p processed frame)

/-- The handlers of a server connection, or of an implicit ack. -/
def controlHandlers (o : OtherFrames ρ ε) (implicit : Bool) :
    Handlers (ControlState ρ) (ControlFailure ε) where
  packetSent p s := p.frames.foldlM (frameSent o p) s
  ackVisitor := frameAcked o implicit
  lossVisitor p processed s :=
    if implicit then .error .implicitLoss else p.frames.foldlM (frameLost o p processed) s
  spuriousLoss frame s := s.onOther (o.spuriousLoss frame)
  findStream streamId s := decide (streamId ∈ s.openStreams)

/-! ### The balance -/

def QuicWriteFrame.asQuicSimpleFrame : QuicWriteFrame → Option QuicSimpleFrame
  | .simple frame => some frame
  | _ => none

def simpleFrames (frames : List QuicWriteFrame) : List QuicSimpleFrame :=
  frames.filterMap QuicWriteFrame.asQuicSimpleFrame

def RegularQuicWritePacket.simpleFrames (packet : RegularQuicWritePacket) : List QuicSimpleFrame :=
  MasqueQuic.simpleFrames packet.frames

def QuicSimpleFrame.isPathChallenge : QuicSimpleFrame → Bool
  | .pathChallenge _ => true
  | _ => false

namespace ControlState

/-- The frame is sent again until it is acknowledged. Path challenges are not, and a
`STOP_SENDING` is given up with its stream. -/
def Lasting (s : ControlState ρ) (frame : QuicSimpleFrame) : Prop :=
  frame.isPathChallenge = false ∧
    ∀ streamId errorCode, frame = .stopSending streamId errorCode → streamId ∉ s.closedStreams

/-- What handlers leave alone: the streams that are gone, and the state of the handshake. -/
structure Later (s t : ControlState ρ) : Prop where
  closedStreams : s.closedStreams ⊆ t.closedStreams
  sentHandshakeDone : t.sentHandshakeDone = s.sentHandshakeDone
  confirmations : t.confirmations = s.confirmations

theorem Later.of_eq {s t : ControlState ρ} (hclosed : t.closedStreams = s.closedStreams)
    (hsent : t.sentHandshakeDone = s.sentHandshakeDone)
    (hconfirmed : t.confirmations = s.confirmations) : s.Later t :=
  ⟨hclosed.ge, hsent, hconfirmed⟩

theorem Later.refl (s : ControlState ρ) : s.Later s := .of_eq rfl rfl rfl

theorem Later.trans {s t u : ControlState ρ} (hst : s.Later t) (htu : t.Later u) : s.Later u :=
  ⟨hst.closedStreams.trans htu.closedStreams, htu.sentHandshakeDone.trans hst.sentHandshakeDone,
    htu.confirmations.trans hst.confirmations⟩

/-- Where the frames are that have been handed over: pending, in a packet that answers for
it (`owed`), or acknowledged. -/
structure Balanced (s : ControlState ρ) (owed : List QuicSimpleFrame) : Prop where
  atMost : ∀ f, f.isPathChallenge = false →
    s.frames.count f + owed.count f + s.acked.count f ≤ s.handed.count f
  lasting : ∀ f, s.Lasting f →
    s.handed.count f ≤ s.frames.count f + owed.count f + s.acked.count f
  once : s.handed.count .handshakeDone ≤ if s.sentHandshakeDone then 1 else 0
  confirmed : s.confirmations + (if s.handshakeConfirmedThisLoop then 1 else 0) ≤
    s.acked.count .handshakeDone
  known : ∀ streamId errorCode, .stopSending streamId errorCode ∈ s.handed →
    streamId ∈ s.openStreams ∨ streamId ∈ s.closedStreams

variable {s t : ControlState ρ} {owed owed' : List QuicSimpleFrame} {f : QuicSimpleFrame}
  {o : OtherFrames ρ ε} {p : OutstandingPacket}

/-- The packet that answers may be replaced by a copy of it. -/
theorem Balanced.copy (hb : s.Balanced owed)
    (hle : ∀ f, f.isPathChallenge = false → owed'.count f ≤ owed.count f)
    (heq : ∀ f, s.Lasting f → owed.count f ≤ owed'.count f) : s.Balanced owed' where
  atMost f hf := by
    have hmost := hb.atMost f hf
    have hcount := hle f hf
    omega
  lasting f hf := by
    have hleast := hb.lasting f hf
    have hcount := heq f hf
    omega
  once := hb.once
  confirmed := hb.confirmed
  known := hb.known

theorem Balanced.perm (hb : s.Balanced owed) (hperm : owed.Perm owed') : s.Balanced owed' :=
  hb.copy (fun f _ => (hperm.count_eq f).ge) fun f _ => (hperm.count_eq f).le

/-- A frame that is owed and whose stream is not gone has an open stream. -/
theorem Balanced.open_of_owed {streamId errorCode : Nat} (hb : s.Balanced owed)
    (howed : .stopSending streamId errorCode ∈ owed) (hclosed : streamId ∉ s.closedStreams) :
    streamId ∈ s.openStreams := by
  have hmost := hb.atMost (.stopSending streamId errorCode) rfl
  have hpos := List.count_pos_iff.mpr howed
  have hhanded : .stopSending streamId errorCode ∈ s.handed :=
    List.count_pos_iff.mp (by omega)
  exact (hb.known streamId errorCode hhanded).resolve_right hclosed

/-- The ack visitor on a frame that is owed. -/
theorem Balanced.visited (hb : s.Balanced (f :: owed)) (implicit : Bool) :
    (s.visited implicit f).Balanced owed where
  atMost g hg := by
    have hmost := hb.atMost g hg
    change s.frames.count g + owed.count g + (f :: s.acked).count g ≤ s.handed.count g
    rw [List.count_cons] at hmost ⊢
    omega
  lasting g hg := by
    have hleast := hb.lasting g hg
    change s.handed.count g ≤ s.frames.count g + owed.count g + (f :: s.acked).count g
    rw [List.count_cons] at hleast ⊢
    omega
  once := hb.once
  confirmed := by
    have hconfirmed := hb.confirmed
    change s.confirmations + (if (s.handshakeConfirmedThisLoop ||
      (!implicit && f == .handshakeDone)) = true then 1 else 0) ≤
        (f :: s.acked).count .handshakeDone
    rw [List.count_cons]
    by_cases hdone : (f == .handshakeDone) = true
    · rw [if_pos hdone]
      split <;> omega
    · rw [if_neg hdone, Bool.eq_false_iff.mpr hdone, Bool.and_false, Bool.or_false]
      exact hconfirmed
  known := hb.known

theorem updateSimpleFrameOnPacketLoss_later (s : ControlState ρ) (f : QuicSimpleFrame) :
    s.Later (s.updateSimpleFrameOnPacketLoss f) := by
  cases f with
  | stopSending streamId errorCode =>
    dsimp only [updateSimpleFrameOnPacketLoss]
    split <;> exact .of_eq rfl rfl rfl
  | pathChallenge pathData =>
    dsimp only [updateSimpleFrameOnPacketLoss]
    split <;> exact .of_eq rfl rfl rfl
  | _ => exact .of_eq rfl rfl rfl

theorem Balanced.requeue (hb : s.Balanced (f :: owed)) :
    ({ s with frames := s.frames ++ [f] } : ControlState ρ).Balanced owed := by
  have hcount : ∀ g, (s.frames ++ [f]).count g + owed.count g =
      s.frames.count g + (f :: owed).count g := by
    intro g
    rw [List.count_append, List.count_singleton, List.count_cons]
    omega
  refine ⟨fun g hg => ?_, fun g hg => ?_, hb.once, hb.confirmed, hb.known⟩
  · exact (congrArg (· + s.acked.count g) (hcount g)).trans_le (hb.atMost g hg)
  · exact (hb.lasting g hg).trans_eq (congrArg (· + s.acked.count g) (hcount g).symm)

theorem Balanced.drop (hb : s.Balanced (f :: owed)) (hf : ¬ s.Lasting f) : s.Balanced owed := by
  refine hb.copy (fun g _ => List.count_le_count_cons) fun g hg => ?_
  have hne : f ≠ g := by
    rintro rfl
    exact hf hg
  rw [List.count_cons_of_ne hne]

/-- A frame that is owed comes back when its packet is lost. -/
theorem Balanced.lost (hb : s.Balanced (f :: owed)) :
    (s.updateSimpleFrameOnPacketLoss f).Balanced owed := by
  cases f with
  | stopSending streamId errorCode =>
    dsimp only [updateSimpleFrameOnPacketLoss]
    by_cases hopen : streamId ∈ s.openStreams
    · rw [if_pos hopen]
      exact hb.requeue
    · rw [if_neg hopen]
      refine hb.drop fun hlasting => hopen ?_
      exact hb.open_of_owed List.mem_cons_self (hlasting.2 streamId errorCode rfl)
  | pathChallenge pathData =>
    have hdrop : s.Balanced owed := hb.drop fun hlasting => nomatch hlasting.1
    dsimp only [updateSimpleFrameOnPacketLoss]
    by_cases hvalid : s.outstandingPathValidation = some pathData
    · rw [if_pos hvalid]
      exact ⟨hdrop.atMost, hdrop.lasting, hdrop.once, hdrop.confirmed, hdrop.known⟩
    · rw [if_neg hvalid]
      exact hdrop
  | _ => exact hb.requeue

/-- A pending frame goes out in a packet. -/
theorem Balanced.sent (hb : s.Balanced owed) (hf : f ∈ s.frames) :
    ({ s with frames := s.frames.erase f } : ControlState ρ).Balanced (f :: owed) := by
  have hcount : ∀ g, (s.frames.erase f).count g + (f :: owed).count g =
      s.frames.count g + owed.count g := by
    intro g
    have hperm := (List.perm_cons_erase hf).count_eq g
    rw [List.count_cons] at hperm ⊢
    omega
  refine ⟨fun g hg => ?_, fun g hg => ?_, hb.once, hb.confirmed, hb.known⟩
  · exact (congrArg (· + s.acked.count g) (hcount g)).trans_le (hb.atMost g hg)
  · exact (hb.lasting g hg).trans_eq (congrArg (· + s.acked.count g) (hcount g).symm)

end ControlState

/-! ### The contract of control frames -/

/-- The frames that the packets carry. -/
def owedBy (packets : List RegularQuicWritePacket) : List QuicSimpleFrame :=
  packets.flatMap (·.simpleFrames)

/-- The failure that the handlers never end in. -/
def ControlFailure.Permitted (e : ControlFailure ε) : Prop := e ≠ .notPending

section Handlers

variable {s t : ControlState ρ} {owed : List QuicSimpleFrame} {o : OtherFrames ρ ε}
  {p : OutstandingPacket} {frames : List QuicWriteFrame} {frame : QuicWriteFrame}

/-- What a handler keeps: the balance, and the record of streams and of the handshake. -/
def Keeps (s : ControlState ρ) (owed : List QuicSimpleFrame) (t : ControlState ρ) : Prop :=
  t.Balanced owed ∧ s.Later t

theorem onOther_eq (s : ControlState ρ) (f : ρ → Except ε ρ) :
    Ends ControlFailure.Permitted (s.onOther f) (fun t => ∃ other, t = { s with other }) := by
  unfold ControlState.onOther
  cases f s.other with
  | error e => exact .error nofun
  | ok other => exact .ok ⟨other, rfl⟩

theorem onOther_ends {f : ρ → Except ε ρ} (hb : s.Balanced owed) :
    Ends ControlFailure.Permitted (s.onOther f) (Keeps s owed) := by
  refine (onOther_eq s f).imp fun t ht => ?_
  obtain ⟨other, rfl⟩ := ht
  exact ⟨⟨hb.atMost, hb.lasting, hb.once, hb.confirmed, hb.known⟩, ControlState.Later.of_eq rfl rfl rfl⟩

theorem simpleFrames_cons_other (hframe : frame.asQuicSimpleFrame = none)
    (frames : List QuicWriteFrame) : simpleFrames (frame :: frames) = simpleFrames frames := by
  rw [simpleFrames, List.filterMap_cons_none hframe]
  rfl

theorem frameAcked_ends {implicit : Bool}
    (hb : s.Balanced (simpleFrames (frame :: frames) ++ owed)) :
    Ends ControlFailure.Permitted (frameAcked o implicit p frame s)
      (Keeps s (simpleFrames frames ++ owed)) := by
  cases frame with
  | simple f => exact .ok ⟨hb.visited implicit, ControlState.Later.of_eq rfl rfl rfl⟩
  | _ => exact onOther_ends hb

theorem frameLost_ends (hb : s.Balanced (simpleFrames (frame :: frames) ++ owed)) :
    Ends ControlFailure.Permitted (frameLost o p false s frame)
      (Keeps s (simpleFrames frames ++ owed)) := by
  cases frame with
  | simple f => exact .ok ⟨hb.lost, s.updateSimpleFrameOnPacketLoss_later f⟩
  | _ => exact onOther_ends hb

theorem frameLost_processed (hb : s.Balanced owed) :
    Ends ControlFailure.Permitted (frameLost o p true s frame) (Keeps s owed) := by
  cases frame with
  | simple f => exact .ok ⟨hb, ControlState.Later.of_eq rfl rfl rfl⟩
  | _ => exact onOther_ends hb

variable {a b : RegularQuicWritePacket} {cs : List RegularQuicWritePacket}

/-- The copy carries every frame that still matters, and no others. -/
def CopiesFrames (a b : RegularQuicWritePacket) (s : ControlState ρ) : Prop :=
  (∀ f, f.isPathChallenge = false → b.simpleFrames.count f ≤ a.simpleFrames.count f) ∧
    ∀ f, s.Lasting f → a.simpleFrames.count f ≤ b.simpleFrames.count f

theorem ControlState.Lasting.before {f : QuicSimpleFrame} (hf : t.Lasting f)
    (hsub : s.closedStreams ⊆ t.closedStreams) : s.Lasting f :=
  ⟨hf.1, fun streamId errorCode hframe hclosed => hf.2 streamId errorCode hframe (hsub hclosed)⟩

theorem CopiesFrames.balanced (hcopy : CopiesFrames a b s) (hb : s.Balanced (owedBy (a :: cs))) :
    s.Balanced (b.simpleFrames ++ owedBy cs) := by
  refine hb.copy (fun f hf => ?_) fun f hf => ?_
  · change _ ≤ (a.simpleFrames ++ owedBy cs).count f
    rw [List.count_append, List.count_append]
    exact Nat.add_le_add_right (hcopy.1 f hf) _
  · change (a.simpleFrames ++ owedBy cs).count f ≤ _
    rw [List.count_append, List.count_append]
    exact Nat.add_le_add_right (hcopy.2 f hf) _

theorem Keeps.trans {u : ControlState ρ} {owed' : List QuicSimpleFrame} (hst : Keeps s owed t)
    (htu : Keeps t owed' u) : Keeps s owed' u :=
  ⟨htu.1, hst.2.trans htu.2⟩

end Handlers

/-- The packets that answer for their frames carry every control frame that is neither
pending nor acknowledged. -/
def controlFrames (o : OtherFrames ρ ε) (implicit : Bool) :
    Contract (controlHandlers o implicit) ControlFailure.Permitted where
  Holds cs s := s.Balanced (owedBy cs)
  Copy := CopiesFrames
  Spurious _ _ := True
  Later := ControlState.Later
  later_refl := .refl
  later_trans := .trans
  copy_refl _ _ := ⟨fun _ _ => le_rfl, fun _ _ => le_rfl⟩
  copy_trans hab hbd :=
    ⟨fun f hf => (hbd.1 f hf).trans (hab.1 f hf), fun f hf => (hab.2 f hf).trans (hbd.2 f hf)⟩
  copy_later hab hlater := ⟨hab.1, fun f hf => hab.2 f (hf.before hlater.closedStreams)⟩
  holds_perm hperm hb := hb.perm (hperm.flatMap_right _)
  ack := by
    intro a cs s p hb hcopy
    exact Ends.foldlM (I := fun t frames => Keeps s (simpleFrames frames ++ owedBy cs) t)
      (fun t frame frames ht => (frameAcked_ends ht.1).imp fun u hu => ht.trans hu)
      ⟨hcopy.balanced hb, ControlState.Later.of_eq rfl rfl rfl⟩
  ackProcessed hb := onOther_ends hb
  loss := by
    intro a cs s p hb hcopy
    refine Ends.ite (fun _ => .error nofun) fun _ => ?_
    exact Ends.foldlM (I := fun t frames => Keeps s (simpleFrames frames ++ owedBy cs) t)
      (fun t frame frames ht => (frameLost_ends ht.1).imp fun u hu => ht.trans hu)
      ⟨hcopy.balanced hb, ControlState.Later.of_eq rfl rfl rfl⟩
  lossProcessed := by
    intro cs s p hb
    refine Ends.ite (fun _ => .error nofun) fun _ => ?_
    exact Ends.foldlM (I := fun t _ => Keeps s (owedBy cs) t)
      (fun t frame frames ht => (frameLost_processed ht.1).imp fun u hu => ht.trans hu)
      ⟨hb, ControlState.Later.of_eq rfl rfl rfl⟩
  spurious hb _ := onOther_ends hb

/-! ### Sending -/

namespace ControlState

variable {s : ControlState ρ} {owed : List QuicSimpleFrame} {packet : RegularQuicWritePacket}
  {p : OutstandingPacket} {o : OtherFrames ρ ε}

/-- The control frames that `SimpleFrameScheduler` writes: the path challenge, then the
pending frames from the front, until one does not fit. -/
def Schedules (s : ControlState ρ) (packet : RegularQuicWritePacket) : Prop :=
  packet.simpleFrames <+: s.pathChallenge.toList.map .pathChallenge ++ s.frames

instance (s : ControlState ρ) (packet : RegularQuicWritePacket) : Decidable (s.Schedules packet) :=
  inferInstanceAs (Decidable (_ <+: _))

/-- The control frames that `PacketRebuilder` writes into a clone. -/
def Rebuilds (s : ControlState ρ) (p : OutstandingPacket) (packet : RegularQuicWritePacket) :
    Prop :=
  packet.simpleFrames = (MasqueQuic.simpleFrames p.frames).filterMap s.updateSimpleFrameOnPacketClone

instance (s : ControlState ρ) (p : OutstandingPacket) (packet : RegularQuicWritePacket) :
    Decidable (s.Rebuilds p packet) :=
  inferInstanceAs (Decidable (_ = _))

theorem Schedules.count_le (hs : s.Schedules packet) {f : QuicSimpleFrame}
    (hf : f.isPathChallenge = false) : packet.simpleFrames.count f ≤ s.frames.count f := by
  have hle := hs.sublist.count_le f
  have hnone : (s.pathChallenge.toList.map QuicSimpleFrame.pathChallenge).count f = 0 := by
    rw [List.count_eq_zero]
    intro hmem
    obtain ⟨pathData, -, rfl⟩ := List.mem_map.mp hmem
    cases hf
  rwa [List.count_append, hnone, Nat.zero_add] at hle

/-- Challenges do not count. -/
theorem Balanced.challenge {f : QuicSimpleFrame} (hb : s.Balanced owed)
    (hf : f.isPathChallenge = true) : s.Balanced (f :: owed) := by
  refine hb.copy (fun g hg => ?_) fun g _ => List.count_le_count_cons
  have hne : f ≠ g := by
    rintro rfl
    rw [hf] at hg
    cases hg
  rw [List.count_cons_of_ne hne]

/-- The frames that are to be sent are pending. -/
def Covers (s : ControlState ρ) (frames : List QuicWriteFrame) : Prop :=
  ∀ f, f.isPathChallenge = false → (MasqueQuic.simpleFrames frames).count f ≤ s.frames.count f

theorem updateSimpleFrameOnPacketSent_eq {f : QuicSimpleFrame} (hf : f.isPathChallenge = false)
    (hmem : f ∈ s.frames) :
    s.updateSimpleFrameOnPacketSent f =
      (.ok { s with frames := s.frames.erase f } : Except (ControlFailure ε) _) := by
  unfold updateSimpleFrameOnPacketSent
  cases f with
  | pathChallenge pathData => cases hf
  | _ => exact if_pos hmem

/-- One frame of a new packet goes out. -/
theorem Balanced.frameSent {frame : QuicWriteFrame} {frames : List QuicWriteFrame}
    (hevent : p.associatedEvent = none) (hb : s.Balanced owed)
    (hcovers : s.Covers (frame :: frames)) :
    Ends ControlFailure.Permitted (MasqueQuic.frameSent o p s frame)
      (fun t => Keeps s (frame.asQuicSimpleFrame.toList ++ owed) t ∧ t.Covers frames) := by
  have hother : ∀ x : ρ → Except ε ρ, frame.asQuicSimpleFrame = none →
      Ends ControlFailure.Permitted (s.onOther x)
        (fun t => Keeps s (frame.asQuicSimpleFrame.toList ++ owed) t ∧ t.Covers frames) := by
    intro x hframe
    refine (onOther_eq s x).imp fun t ht => ?_
    obtain ⟨other, rfl⟩ := ht
    unfold Covers at hcovers
    rw [simpleFrames_cons_other hframe] at hcovers
    rw [hframe]
    exact ⟨⟨⟨hb.atMost, hb.lasting, hb.once, hb.confirmed, hb.known⟩, ControlState.Later.of_eq rfl rfl rfl⟩,
      hcovers⟩
  cases frame with
  | simple f =>
    rw [MasqueQuic.frameSent, hevent, if_pos Option.isNone_none]
    have hcount : ∀ g, g.isPathChallenge = false →
        (f :: MasqueQuic.simpleFrames frames).count g ≤ s.frames.count g := hcovers
    by_cases hf : f.isPathChallenge = true
    · have hb' := hb.challenge hf
      obtain ⟨pathData, rfl⟩ : ∃ pathData, f = .pathChallenge pathData := by
        cases f with
        | pathChallenge pathData => exact ⟨pathData, rfl⟩
        | _ => cases hf
      refine .ok ⟨⟨⟨hb'.atMost, hb'.lasting, hb'.once, hb'.confirmed, hb'.known⟩,
        ControlState.Later.of_eq rfl rfl rfl⟩, fun g hg => ?_⟩
      exact List.count_le_count_cons.trans (hcount g hg)
    · have hf' : f.isPathChallenge = false := Bool.eq_false_iff.mpr hf
      have hmem : f ∈ s.frames := by
        have hle := hcount f hf'
        rw [List.count_cons_self] at hle
        exact List.count_pos_iff.mp (by omega)
      rw [updateSimpleFrameOnPacketSent_eq hf' hmem]
      refine .ok ⟨⟨hb.sent hmem, ControlState.Later.of_eq rfl rfl rfl⟩, fun g hg => ?_⟩
      have hle := hcount g hg
      have hperm := (List.perm_cons_erase hmem).count_eq g
      change _ ≤ (s.frames.erase f).count g
      rw [List.count_cons] at hle hperm
      omega
  | _ => exact hother _ rfl

/-- A new packet takes its control frames from the pending ones. -/
theorem Balanced.packetSent {implicit : Bool} (hevent : p.associatedEvent = none)
    (hb : s.Balanced owed) (hs : s.Schedules p.sent) :
    Ends ControlFailure.Permitted ((controlHandlers o implicit).packetSent p s)
      (Keeps s (p.sent.simpleFrames ++ owed)) := by
  have hfold : Ends ControlFailure.Permitted (p.frames.foldlM (MasqueQuic.frameSent o p) s)
      (fun t => t.Covers [] ∧ ∃ out, Keeps s out t ∧
        (out ++ MasqueQuic.simpleFrames []).Perm (p.sent.simpleFrames ++ owed)) := by
    refine Ends.foldlM (I := fun t frames => t.Covers frames ∧ ∃ out, Keeps s out t ∧
      (out ++ MasqueQuic.simpleFrames frames).Perm (p.sent.simpleFrames ++ owed))
      (fun t frame frames ht => ?_)
      ⟨fun f hf => hs.count_le hf, owed, ⟨hb, .refl s⟩, List.perm_append_comm⟩
    obtain ⟨hcovers, out, hout, hperm⟩ := ht
    refine (hout.1.frameSent hevent hcovers).imp fun u hu => ⟨hu.2, _, hout.trans hu.1, ?_⟩
    refine List.Perm.trans ?_ hperm
    cases hframe : frame.asQuicSimpleFrame with
    | none =>
      rw [simpleFrames_cons_other hframe]
      exact List.Perm.refl _
    | some f =>
      have hcons : MasqueQuic.simpleFrames (frame :: frames) =
          f :: MasqueQuic.simpleFrames frames := List.filterMap_cons_some hframe
      rw [hcons]
      exact List.perm_middle.symm
  refine hfold.imp fun t ht => ?_
  obtain ⟨-, out, hout, hperm⟩ := ht
  exact ⟨hout.1.perm (by simpa [MasqueQuic.simpleFrames] using hperm), hout.2⟩

/-- The frames of a clone stay where they are. -/
theorem Balanced.cloneSent {implicit : Bool} (hevent : p.associatedEvent.isSome = true)
    (hb : s.Balanced owed) :
    Ends ControlFailure.Permitted ((controlHandlers o implicit).packetSent p s) (Keeps s owed) := by
  refine Ends.foldlM (I := fun t _ => Keeps s owed t) (fun t frame frames ht => ?_)
    ⟨hb, ControlState.Later.of_eq rfl rfl rfl⟩
  cases frame with
  | simple f =>
    have hsome : ¬ p.associatedEvent.isNone = true := by
      rw [Option.isNone_iff_eq_none]
      exact Option.isSome_iff_ne_none.mp hevent
    rw [MasqueQuic.frameSent, if_neg hsome]
    exact .ok ht
  | _ => exact (onOther_ends ht.1).imp fun u hu => ht.trans hu

theorem clone_eq_some {f g : QuicSimpleFrame} (hf : s.updateSimpleFrameOnPacketClone f = some g) :
    g = f := by
  unfold updateSimpleFrameOnPacketClone at hf
  split at hf
  · split at hf
    · exact (Option.some.inj hf).symm
    · cases hf
  · split at hf
    · exact (Option.some.inj hf).symm
    · cases hf
  · exact (Option.some.inj hf).symm

theorem clone_sublist (s : ControlState ρ) (frames : List QuicSimpleFrame) :
    (frames.filterMap s.updateSimpleFrameOnPacketClone).Sublist frames := by
  induction frames with
  | nil => exact .slnil
  | cons f frames ih =>
    cases hf : s.updateSimpleFrameOnPacketClone f with
    | none =>
      rw [List.filterMap_cons_none hf]
      exact ih.cons f
    | some g =>
      rw [List.filterMap_cons_some hf, clone_eq_some hf]
      exact ih.cons_cons f

theorem count_le_clone {f : QuicSimpleFrame} (hf : s.updateSimpleFrameOnPacketClone f = some f)
    (frames : List QuicSimpleFrame) :
    frames.count f ≤ (frames.filterMap s.updateSimpleFrameOnPacketClone).count f := by
  induction frames with
  | nil => exact le_rfl
  | cons g frames ih =>
    by_cases hg : g = f
    · rw [hg, List.filterMap_cons_some hf, List.count_cons_self, List.count_cons_self]
      exact Nat.succ_le_succ ih
    · rw [List.count_cons_of_ne hg]
      refine ih.trans ?_
      exact ((List.sublist_cons_self g frames).filterMap _).count_le f

/-- A clone carries every frame that still matters. -/
theorem Rebuilds.copies (hr : s.Rebuilds p packet) (hb : s.Balanced owed)
    (howed : ∀ f, f.isPathChallenge = false → f ∈ p.sent.simpleFrames → f ∈ owed) :
    CopiesFrames p.sent packet s := by
  refine ⟨fun f _ => ?_, fun f hf => ?_⟩
  · rw [hr]
    exact (clone_sublist s _).count_le f
  · by_cases hmem : f ∈ p.sent.simpleFrames
    · rw [hr]
      refine count_le_clone ?_ _
      cases f with
      | stopSending streamId errorCode =>
        have hopen := hb.open_of_owed (howed _ hf.1 hmem) (hf.2 streamId errorCode rfl)
        exact if_pos hopen
      | pathChallenge pathData => cases hf.1
      | _ => rfl
    · rw [List.count_eq_zero_of_not_mem hmem]
      exact Nat.zero_le _

end ControlState

end MasqueQuic
