/-
The congestion window and the packets it is for.

A `CongestionConn` is a connection with a congestion controller. Its packets come from the schedulers,
which may write what the controller leaves, and `updateConnection` counts them; PTO probes are sent
whatever the window is. The controller itself is its window, which an ack, a loss or anything else may
change. The histories are the packets that were sent, and those that were acked or declared lost.

`congestion_covers` is about the packets that count: all but those that hold ACK, PADDING and DATAGRAM
frames only. A packet with DATAGRAM frames only is sent within the window as well, but does not use it
up, so there is no end to them (`datagrams_not_covered`).
-/

import MasqueQuic.Quic.InflightAccounting
import MasqueQuic.Quic.WritableBytes

namespace MasqueQuic

variable {σ ε : Type}

structure SentPacket where
  event : PacketEvent
  packet : RegularQuicWritePacket
  encodedSize : Nat
  deriving DecidableEq

structure CongestionConn (σ : Type) where
  conn : InflightConn σ
  cwndBytes : Nat
  sent : List SentPacket
  settled : List PacketEvent

/-- One round of `writeConnectionDataToSocket`, with `congestionControlWritableBytes`. -/
structure PacketWrite where
  scheduler : FrameScheduler
  pending : SchedulingConn
  protectionType : ProtectionType
  /-- The limits besides the congestion controller. -/
  limits : WriteLimits
  cipherOverhead : Nat
  headerBytes : Nat
  remainingBytes : Nat
  encodedSize : Nat
  sentTime : Nat

def PacketWrite.frames (w : PacketWrite) (controllerWritableBytes : Nat) : List QuicWriteFrame :=
  let limits := { w.limits with controllerWritableBytes := some controllerWritableBytes }
  (w.scheduler.scheduleFramesForPacket w.pending w.protectionType w.remainingBytes w.headerBytes
    (limits.packetBytes w.cipherOverhead limits.congestionControlWritableBytes)).frames

/-! ### What is settled -/

/-- The packets that an ack reports as acked or lost. -/
def InflightConn.ackSettles (h : Handlers σ ε) (pnSpace : PacketNumberSpace) (frame : ReadAckFrame)
    (times : AckTimes) (c : InflightConn σ) : List PacketEvent :=
  match ackOutstandings h pnSpace frame times c.conn with
  | .error _ => []
  | .ok r =>
      (r.2.2.map fun a => ⟨pnSpace, a.packetNum⟩) ++
        match collectLost (handleAckForLoss h.recording r.2.1 r.2.2 times.ackReceiveTime pnSpace)
          r.1 with
        | .error _ => []
        | .ok lost => lost.2.map (·.ownEvent)

/-- The packets that the loss timer reports as lost. -/
def InflightConn.timerSettles (h : Handlers σ ε) (pnSpace : PacketNumberSpace) (now : Nat)
    (c : InflightConn σ) : List PacketEvent :=
  match collectLost (MasqueQuic.onLossTimer h.recording pnSpace now) c.conn with
  | .error _ => []
  | .ok lost => lost.2.map (·.ownEvent)

/-! ### Steps -/

inductive CongestionEvent (σ ε : Type) where
  | write (w : PacketWrite)
  /-- A probe with a PING, an IMMEDIATE_ACK or anything that was to be sent. -/
  | probe (packet : RegularQuicWritePacket) (sentTime encodedSize : Nat)
  | clone (index : Nat) (packet : RegularQuicWritePacket) (sent : Option (Nat × Nat))
  | ack (pnSpace : PacketNumberSpace) (frame : ReadAckFrame) (times : AckTimes) (cwndBytes : Nat)
  | lossTimer (pnSpace : PacketNumberSpace) (now cwndBytes : Nat)
  | setWindow (cwndBytes : Nat)
  /-- Anything that does not touch the outstanding packets. -/
  | other (f : σ → Except ε σ)

namespace CongestionConn

/-- `getWritableBytes` of the controllers. -/
def getWritableBytes (c : CongestionConn σ) : Nat := c.cwndBytes - c.conn.inflightBytes

def send (h : Handlers σ ε) (c : CongestionConn σ) (packetEvent : Option PacketEvent)
    (packet : RegularQuicWritePacket) (sentTime encodedSize : Nat) :
    Except (InflightFailure ε) (CongestionConn σ) := do
  let ackState ← liftQueue (getAckState c.conn.conn packet.packetNumberSpace)
  let conn ← c.conn.updateConnection h packetEvent packet sentTime false encodedSize
  return { c with
    conn
    sent := c.sent ++ [⟨⟨packet.packetNumberSpace, ackState.nextPacketNum⟩, packet, encodedSize⟩] }

/-- Without frames there is no packet. -/
def write (h : Handlers σ ε) (c : CongestionConn σ) (w : PacketWrite) :
    Except (InflightFailure ε) (CongestionConn σ) :=
  if w.frames c.getWritableBytes = [] then .ok c
  else c.send h none ⟨w.protectionType, w.frames c.getWritableBytes⟩ w.sentTime w.encodedSize

def clonePacket (h : Handlers σ ε) (c : CongestionConn σ) (index : Nat)
    (packet : RegularQuicWritePacket) (sent : Option (Nat × Nat)) :
    Except (InflightFailure ε) (CongestionConn σ) :=
  match c.conn.conn.outstandings.packets[index]? with
  | none => .ok c
  | some p =>
      if mayClone c.conn.conn.outstandings.toOutstandingsCounters packet.packetNumberSpace p then
        let (event, outstandings) := cloneOutstandingPacket c.conn.conn.outstandings index p
        let c := { c with conn.conn.outstandings := outstandings }
        match sent with
        | none => .ok c
        | some (sentTime, encodedSize) => c.send h (some event) packet sentTime encodedSize
      else .ok c

def step (h : Handlers σ ε) (c : CongestionConn σ) :
    CongestionEvent σ ε → Except (InflightFailure ε) (CongestionConn σ)
  | .write w => c.write h w
  | .probe packet sentTime encodedSize => c.send h none packet sentTime encodedSize
  | .clone index packet sent => c.clonePacket h index packet sent
  | .ack pnSpace frame times cwndBytes => do
      let conn ← c.conn.processAckFrame h pnSpace frame times
      return { c with
        conn
        cwndBytes
        settled := c.settled ++ c.conn.ackSettles h pnSpace frame times }
  | .lossTimer pnSpace now cwndBytes => do
      let conn ← c.conn.onLossTimer h pnSpace now
      return { c with
        conn
        cwndBytes
        settled := c.settled ++ c.conn.timerSettles h pnSpace now }
  | .setWindow cwndBytes => .ok { c with cwndBytes }
  | .other f => do
      let rest ← liftQueue (liftHandler (f c.conn.conn.rest))
      return { c with conn.conn.rest := rest }

/-! ### What is recorded -/

/-- The packet is among the outstanding packets, with its size, and not declared lost. -/
def Recorded (c : CongestionConn σ) (s : SentPacket) : Prop :=
  (∃ p ∈ c.conn.conn.outstandings.packets, p.ownEvent = s.event ∧ p.declaredLost = false) ∧
    c.conn.encodedSizes s.event = s.encodedSize

/-- The frame takes up the congestion window. -/
def Counted (frame : QuicWriteFrame) : Prop :=
  frame ≠ .writeAck ∧ frame ≠ .padding ∧ ∀ length, frame ≠ .datagram length

/-- Nothing has been sent. -/
structure IsNew (c : CongestionConn σ) : Prop where
  conn : c.conn.IsNew
  sent : c.sent = []
  settled : c.settled = []

structure Inv (c : CongestionConn σ) : Prop where
  conn : c.conn.Inv 0
  covered : ∀ s ∈ c.sent, s.packet.tracked = true → c.Recorded s ∨ s.event ∈ c.settled

theorem counted_iff {frame : QuicWriteFrame} :
    Counted frame ↔ (frame.retransmittable || frame == .ping) = true := by
  unfold Counted
  cases frame <;> simp [QuicWriteFrame.retransmittable]

theorem tracked_iff {packet : RegularQuicWritePacket} :
    packet.tracked = true ↔ ∃ frame ∈ packet.frames, Counted frame := by
  unfold RegularQuicWritePacket.tracked
  rw [List.any_eq_true]
  exact exists_congr fun frame => and_congr_right fun _ => counted_iff.symm

theorem not_counted_of_isAck {frame : QuicWriteFrame} (h : frame.IsAck) : ¬ Counted frame := by
  rintro ⟨hack, hpadding, -⟩
  cases h with
  | inl h => exact hack h
  | inr h => exact hpadding h

/-! ### Sending -/

variable {h : Handlers σ ε} {c c' : CongestionConn σ}

/-- What sending a packet does to the queue and the bytes in flight. -/
structure Sends (c c' : InflightConn σ) (e : PacketEvent) (tracked : Bool) (encodedSize : Nat) :
    Prop where
  inflightBytes : c'.inflightBytes = c.inflightBytes + if tracked then encodedSize else 0
  kept : ∀ p ∈ c.conn.outstandings.packets, p ∈ c'.conn.outstandings.packets
  added : tracked = true → ∃ p ∈ c'.conn.outstandings.packets, p.ownEvent = e ∧ p.declaredLost = false
  sizes : ∀ e', e' ≠ e → c'.encodedSizes e' = c.encodedSizes e'
  size : tracked = true → c'.encodedSizes e = encodedSize

theorem updateConnection_sends {c : InflightConn σ} {packet : RegularQuicWritePacket} {a : AckState}
    (ha : c.conn.ackStates.get packet.packetNumberSpace = some a) (packetEvent : Option PacketEvent)
    (sentTime encodedSize : Nat) (isDSRPacket : Bool) :
    Ends (fun _ => True) (c.updateConnection h packetEvent packet sentTime isDSRPacket encodedSize)
      (fun c' => Sends c c' ⟨packet.packetNumberSpace, a.nextPacketNum⟩ packet.tracked
        encodedSize) := by
  unfold InflightConn.updateConnection
  refine Ends.bind (P := fun a' => a' = a) ?_ fun a' ha' => ?_
  · unfold getAckState
    rw [ha]
    exact .ok rfl
  subst ha'
  refine (ends_liftQueue (updateConnection_queue ha)).forget.bind fun conn hconn => ?_
  obtain ⟨-, hpackets⟩ := hconn
  by_cases htracked : packet.tracked = true
  · rw [if_neg (not_not.mpr htracked)]
    rw [if_pos htracked] at hpackets
    unfold addToInflight
    refine Ends.bind (P := fun n => n = c.inflightBytes + encodedSize)
      (Ends.ite (fun _ => .error trivial) fun _ => .ok rfl) fun n hn => .ok ?_
    have hperm : conn.outstandings.packets.Perm (packet.outstanding a'.nextPacketNum sentTime
        isDSRPacket packetEvent :: c.conn.outstandings.packets) := by
      rw [hpackets]
      exact insertPosition_perm _ _
    refine ⟨?_, fun p hp => ?_, fun _ => ?_, fun e' he' => ?_, fun _ => ?_⟩
    · rw [htracked]
      exact hn
    · exact hperm.mem_iff.mpr (List.mem_cons_of_mem _ hp)
    · exact ⟨_, hperm.mem_iff.mpr List.mem_cons_self, rfl, rfl⟩
    · exact Function.update_of_ne he' _ _
    · exact Function.update_self _ _ _
  · rw [if_pos htracked]
    rw [if_neg htracked] at hpackets
    rw [Bool.not_eq_true] at htracked
    rw [htracked]
    refine .ok ⟨rfl, fun p hp => ?_, fun h => Bool.noConfusion h, fun _ _ => rfl,
      fun h => Bool.noConfusion h⟩
    dsimp only
    rw [hpackets]
    exact hp

/-- A packet gets a number that no recorded packet has. -/
theorem Recorded.event_ne {s : SentPacket} (hs : c.Recorded s) (hc : c.conn.Inv 0) {a : AckState}
    {space : PacketNumberSpace} (ha : c.conn.conn.ackStates.get space = some a) :
    s.event ≠ ⟨space, a.nextPacketNum⟩ := by
  obtain ⟨⟨p, hp, hown, -⟩, -⟩ := hs
  intro heq
  have hspace : p.packetNumberSpace = space := congrArg (·.packetNumberSpace) (hown.trans heq)
  have hnum : p.packetNum = a.nextPacketNum := congrArg (·.packetNumber) (hown.trans heq)
  have hlt := hc.numbered p hp a (hspace ▸ ha)
  omega

theorem Inv.send (hc : c.Inv) (packetEvent : Option PacketEvent) (packet : RegularQuicWritePacket)
    (sentTime encodedSize : Nat) :
    Ends (fun _ => True) (c.send h packetEvent packet sentTime encodedSize) (fun c' => c'.Inv ∧
      c'.cwndBytes = c.cwndBytes ∧ c'.conn.inflightBytes =
        c.conn.inflightBytes + if packet.tracked then encodedSize else 0) := by
  unfold CongestionConn.send
  refine (ends_liftQueue getAckState_of_ok).forget.bind fun a ha => ?_
  have hinv := (hc.conn.updateConnection h packetEvent packet sentTime false encodedSize).forget
  refine (hinv.also (updateConnection_sends ha packetEvent sentTime encodedSize false)).bind
    fun conn hconn => .ok ?_
  obtain ⟨hconn, hsends⟩ := hconn
  refine ⟨⟨hconn, fun s hs htracked => ?_⟩, rfl, hsends.inflightBytes⟩
  rcases List.mem_append.mp hs with hs | hs
  · refine (hc.covered s hs htracked).imp (fun hrecorded => ?_) id
    have hne := hrecorded.event_ne hc.conn ha
    obtain ⟨⟨p, hp, hown, hlost⟩, hsize⟩ := hrecorded
    exact ⟨⟨p, hsends.kept p hp, hown, hlost⟩, (hsends.sizes _ hne).trans hsize⟩
  · rw [List.mem_singleton.mp hs] at htracked ⊢
    exact .inl ⟨hsends.added htracked, hsends.size htracked⟩

/-! ### Acks and losses -/

/-- Counts a packet. -/
def one (e : PacketEvent) : PacketEvent → Nat := fun e' => if e' = e then 1 else 0

theorem live_iff {packets : List OutstandingPacket} {e : PacketEvent} :
    (∃ p ∈ packets, p.ownEvent = e ∧ p.declaredLost = false) ↔ liveBytes (one e) packets ≠ 0 := by
  rw [Ne, liveBytes_eq_zero_iff]
  unfold one
  constructor
  · rintro ⟨p, hp, hown, hlost⟩ hnone
    have := hnone p hp hlost
    rw [if_pos hown] at this
    exact Nat.one_ne_zero this
  · intro hsome
    simp only [not_forall] at hsome
    obtain ⟨p, hp, hlost, hown⟩ := hsome
    refine ⟨p, hp, ?_, hlost⟩
    by_contra hne
    exact hown (if_neg hne)

theorem sum_one_ne_zero {es : List PacketEvent} {e : PacketEvent} (h : (es.map (one e)).sum ≠ 0) :
    e ∈ es := by
  by_contra hnot
  refine h (List.sum_eq_zero_iff_forall_eq_nat.mpr fun n hn => ?_)
  obtain ⟨e', he', rfl⟩ := List.mem_map.mp hn
  have hne : e' ≠ e := by
    rintro rfl
    exact hnot he'
  exact if_neg hne

/-- The live packets that leave the queue or are lost are among those that are settled. -/
theorem Inv.settles (hc : c.Inv) {conn : InflightConn σ} (hconn : conn.Inv 0)
    (hsizes : conn.encodedSizes = c.conn.encodedSizes) {settled : List PacketEvent} (cwndBytes : Nat)
    (hdrops : ∀ w, Drops w c.conn.conn conn.conn (settled.map w).sum) :
    Inv { c with conn, cwndBytes, settled := c.settled ++ settled } where
  conn := hconn
  covered s hs htracked := by
    rcases hc.covered s hs htracked with ⟨hlive, hsize⟩ | hsettled
    · have hbytes := (hdrops (one s.event)).bytes
      rw [live_iff] at hlive
      by_cases hstays : liveBytes (one s.event) conn.conn.outstandings.packets = 0
      · right
        rw [hstays, Nat.zero_add] at hbytes
        exact List.mem_append_right _ (sum_one_ne_zero (hbytes ▸ hlive))
      · left
        exact ⟨live_iff.mpr hstays, (congrFun hsizes _).trans hsize⟩
    · exact .inr (List.mem_append_left _ hsettled)

theorem bytesOf_eq_sum (w : PacketEvent → Nat) (packets : List OutstandingPacket) :
    bytesOf w packets = ((packets.map (·.ownEvent)).map w).sum := by
  unfold bytesOf
  rw [List.map_map]
  rfl

/-- What holds for all sizes. -/
theorem ends_forall {φ α ι : Type} {x : Except φ α} {Q : ι → α → Prop}
    (hall : ∀ i, Ends (fun _ => True) x (Q i)) : Ends (fun _ => True) x (fun a => ∀ i, Q i a) := by
  cases x with
  | error e => exact .error trivial
  | ok a => exact .ok fun i => (hall i).of_ok rfl

theorem processAckFrame_settles {c : InflightConn σ}
    (hsorted : SortedPackets c.conn.outstandings.packets) (pnSpace : PacketNumberSpace)
    (frame : ReadAckFrame) (times : AckTimes) :
    Ends (fun _ => True) (c.processAckFrame h pnSpace frame times) (fun c' =>
      ∀ w, c'.encodedSizes = c.encodedSizes ∧
        Drops w c.conn c'.conn ((c.ackSettles h pnSpace frame times).map w).sum) := by
  refine ends_forall fun w => ?_
  have hacked := @ackOutstandings_drops σ ε h c.conn pnSpace frame times w hsorted
  unfold InflightConn.processAckFrame InflightConn.ackSettles
  cases hack : ackOutstandings h pnSpace frame times c.conn with
  | error e => exact .error trivial
  | ok r =>
    obtain ⟨conn₁, newly, acked⟩ := r
    have hfirst := (hacked.of_ok hack).1
    refine Ends.bind (P := fun r => r = (conn₁, newly, acked)) (.ok rfl) fun r hr => ?_
    subst hr
    dsimp only at hfirst ⊢
    have hloss := @collectLost_drops σ ε w conn₁ _ fun c' => @handleAckForLoss_drops σ ε h pnSpace w
      c' newly acked times.ackReceiveTime
    cases hcollect : collectLost (handleAckForLoss h.recording newly acked times.ackReceiveTime
      pnSpace) conn₁ with
    | error e => exact .error trivial
    | ok lost =>
        obtain ⟨conn₂, lost⟩ := lost
        have hsecond := hloss.of_ok hcollect
        refine Ends.bind (P := fun r => r = (conn₂, lost)) (.ok rfl) fun r hr => ?_
        subst hr
        refine Ends.any.bind fun lossEvent _ => Ends.any.bind fun inflightBytes _ => ?_
        refine (ends_liftQueue (clearOldOutstandingPackets_drops w _)).forget.bind
          fun conn₃ hthird => .ok ⟨rfl, ?_⟩
        have hall := (hfirst.trans hsecond).trans hthird
        rw [List.map_append, List.sum_append, List.map_map, ← bytesOf_eq_sum]
        exact hall

theorem onLossTimer_settles {c : InflightConn σ} (pnSpace : PacketNumberSpace) (now : Nat) :
    Ends (fun _ => True) (c.onLossTimer h pnSpace now) (fun c' => ∀ w,
      c'.encodedSizes = c.encodedSizes ∧
        Drops w c.conn c'.conn ((c.timerSettles h pnSpace now).map w).sum) := by
  refine ends_forall fun w => ?_
  have hloss := @collectLost_drops σ ε w c.conn _ fun c' => @onLossTimer_drops σ ε h pnSpace w c' now
  unfold InflightConn.onLossTimer InflightConn.timerSettles
  cases hcollect : collectLost (MasqueQuic.onLossTimer h.recording pnSpace now) c.conn with
  | error e => exact .error trivial
  | ok lost =>
    obtain ⟨conn, lost⟩ := lost
    refine Ends.bind (P := fun r => r = (conn, lost)) (.ok rfl) fun r hr => ?_
    subst hr
    refine Ends.any.bind fun lossEvent _ => Ends.any.bind fun inflightBytes _ => .ok ⟨rfl, ?_⟩
    dsimp only
    rw [← bytesOf_eq_sum]
    exact hloss.of_ok hcollect

/-! ### Runs -/

theorem Inv.clonePacket (hc : c.Inv) (index : Nat) (packet : RegularQuicWritePacket)
    (sent : Option (Nat × Nat)) :
    Ends (fun _ => True) (c.clonePacket h index packet sent) (fun c' => c'.Inv) := by
  unfold CongestionConn.clonePacket
  cases hindex : c.conn.conn.outstandings.packets[index]? with
  | none => exact .ok hc
  | some p =>
    refine Ends.ite (fun _ => ?_) fun _ => .ok hc
    have hclone : Inv { c with conn.conn.outstandings :=
        (cloneOutstandingPacket c.conn.conn.outstandings index p).2 } := by
      have hinv := @InflightConn.Inv.drops σ c.conn 0 _ 0 c.conn.inflightBytes hc.conn
        (cloneOutstandingPacket_drops c.conn.encodedSizes hindex) rfl
      have hdrops : ∀ w, Drops w c.conn.conn _ (([] : List PacketEvent).map w).sum := fun w =>
        cloneOutstandingPacket_drops w hindex
      have hsettles := hc.settles hinv rfl c.cwndBytes hdrops
      rw [List.append_nil] at hsettles
      exact hsettles
    cases sent with
    | none => exact .ok hclone
    | some sent => exact (hclone.send _ packet sent.1 sent.2).imp fun c' hc' => hc'.1

theorem Inv.step (hc : c.Inv) (e : CongestionEvent σ ε) :
    Ends (fun _ => True) (c.step h e) (fun c' => c'.Inv) := by
  cases e with
  | write w =>
    refine Ends.ite (fun _ => .ok hc) fun _ => ?_
    exact (hc.send none _ w.sentTime w.encodedSize).imp fun c' hc' => hc'.1
  | probe packet sentTime encodedSize =>
    exact (hc.send none packet sentTime encodedSize).imp fun c' hc' => hc'.1
  | clone index packet sent => exact hc.clonePacket index packet sent
  | ack pnSpace frame times cwndBytes =>
    have hinv := (hc.conn.processAckFrame h pnSpace frame times).forget
    refine (hinv.also (processAckFrame_settles hc.conn.sorted pnSpace frame times)).bind
      fun conn hconn => .ok ?_
    exact hc.settles hconn.1 (hconn.2 (fun _ => 0)).1 cwndBytes fun w => (hconn.2 w).2
  | lossTimer pnSpace now cwndBytes =>
    have hinv := (hc.conn.onLossTimer h pnSpace now).forget
    refine (hinv.also (onLossTimer_settles pnSpace now)).bind fun conn hconn => .ok ?_
    exact hc.settles hconn.1 (hconn.2 (fun _ => 0)).1 cwndBytes fun w => (hconn.2 w).2
  | setWindow cwndBytes => exact .ok ⟨hc.conn, hc.covered⟩
  | other f =>
    refine Ends.any.bind fun rest _ => .ok ⟨hc.conn.withRest rest, hc.covered⟩

theorem IsNew.inv (hc : c.IsNew) : c.Inv where
  conn := hc.conn.inv
  covered s hs := by
    rw [hc.sent] at hs
    cases hs

/-- A packet that counts is written within the window. -/
theorem Inv.write (hc : c.Inv) {w : PacketWrite} (hstep : c.write h w = .ok c') :
    ((∃ frame ∈ w.frames c.getWritableBytes, Counted frame) →
        c'.conn.inflightBytes < c'.cwndBytes + w.encodedSize) ∧
      ((∀ frame ∈ w.frames c.getWritableBytes, ¬ Counted frame) →
        c'.conn.inflightBytes = c.conn.inflightBytes) := by
  unfold CongestionConn.write at hstep
  split at hstep
  · next hnil =>
      cases hstep
      refine ⟨fun ⟨frame, hframe, _⟩ => ?_, fun _ => rfl⟩
      rw [hnil] at hframe
      cases hframe
  · have hsend := (hc.send (h := h) none ⟨w.protectionType, w.frames c.getWritableBytes⟩ w.sentTime
      w.encodedSize).of_ok hstep
    obtain ⟨-, hcwnd, hbytes⟩ := hsend
    constructor
    · intro hcounted
      rw [if_pos (tracked_iff.mpr hcounted)] at hbytes
      rw [hbytes, hcwnd]
      have hwindow : c.conn.inflightBytes < c.cwndBytes := by
        by_contra hfull
        obtain ⟨frame, hframe, hcount⟩ := hcounted
        refine not_counted_of_isAck ?_ hcount
        have hzero : c.getWritableBytes = 0 := by
          unfold getWritableBytes
          omega
        unfold PacketWrite.frames at hframe
        rw [hzero] at hframe
        refine FrameScheduler.scheduleFramesForPacket_acks _ _ _ _ ?_ frame hframe
        rw [WriteLimits.congestionControlWritableBytes_of_controller rfl,
          WriteLimits.packetBytes_zero]
        exact Nat.zero_le _
      omega
    · intro hnone
      have htracked : ¬ (RegularQuicWritePacket.mk w.protectionType
          (w.frames c.getWritableBytes)).tracked = true := by
        rw [tracked_iff]
        rintro ⟨frame, hframe, hcount⟩
        exact hnone frame hframe hcount
      rw [if_neg htracked] at hbytes
      exact hbytes

/-- In every run: the bytes in flight are those of the outstanding packets; a packet that counts is among
these until it is acked or declared lost; and when one is written, the bytes in flight exceed the window
by less than that packet. -/
theorem congestion_covers (h : Handlers σ ε) (c₀ : CongestionConn σ) (hc₀ : c₀.IsNew)
    (events : List (CongestionEvent σ ε)) (c : CongestionConn σ)
    (hrun : events.foldlM (CongestionConn.step h) c₀ = .ok c) :
    c.conn.inflightBytes = c.conn.outstandingBytes ∧
      (∀ s ∈ c.sent, (∃ frame ∈ s.packet.frames, Counted frame) →
        c.Recorded s ∨ s.event ∈ c.settled) ∧
      ∀ w c', c.step h (.write w) = .ok c' →
        ((∃ frame ∈ w.frames c.getWritableBytes, Counted frame) →
          c'.conn.inflightBytes < c'.cwndBytes + w.encodedSize) ∧
        ((∀ frame ∈ w.frames c.getWritableBytes, ¬ Counted frame) →
          c'.conn.inflightBytes = c.conn.inflightBytes) := by
  have hinv : c.Inv := Ends.of_ok (Ends.foldlM (E := fun _ => True)
    (I := fun (c : CongestionConn σ) _ => c.Inv) (fun _ e _ hc => hc.step e) hc₀.inv) hrun
  refine ⟨hinv.conn.accounted_iff.mpr rfl, fun s hs hcounted => ?_, fun w c' hstep => ?_⟩
  · exact hinv.covered s hs (tracked_iff.mpr hcounted)
  · exact hinv.write hstep

/-! ### Datagrams -/

/-- The parts that write 1-RTT data. -/
def dataScheduler : FrameScheduler := ⟨true, true, true, true, true, false, true, true, true, true⟩

def writePending (pending : SchedulingConn) (encodedSize : Nat) : PacketWrite where
  scheduler := dataScheduler
  pending
  protectionType := .keyPhaseZero
  limits := ⟨1232, none, none, 0, none, Nat.succ_pos 1231⟩
  cipherOverhead := 16
  headerBytes := 14
  remainingBytes := 1202
  encodedSize
  sentTime := 0

/-- A datagram of 1000 bytes. -/
def datagramWrite : PacketWrite :=
  writePending { SchedulingConn.nothingPending with
    datagrams := [.ofBuf (some (.wrapBuffer (List.replicate 1000 0)))] } 1033

/-- 1000 bytes of a stream. -/
def streamWrite (offset : Nat) : PacketWrite :=
  writePending { SchedulingConn.nothingPending with
    controlWriteQueue := [⟨0, none, [], 1000, offset, none, 100000⟩] } 1036

def smallWindow : CongestionConn Unit := ⟨idleInflight, 2000, [], []⟩

theorem congestion_covers_stream :
    ∃ c, [CongestionEvent.write (streamWrite 0)].foldlM (CongestionConn.step idle) smallWindow =
        .ok c ∧ c.conn.inflightBytes = c.conn.outstandingBytes := by
  have hrun : ∃ c, [CongestionEvent.write (streamWrite 0)].foldlM (CongestionConn.step idle)
      smallWindow = .ok c := ⟨_, rfl⟩
  obtain ⟨c, hc⟩ := hrun
  exact ⟨c, hc, (congestion_covers idle smallWindow ⟨⟨rfl, rfl⟩, rfl, rfl⟩ _ c hc).1⟩

def datagramWrites : List (CongestionEvent Unit Empty) := List.replicate 4 (.write datagramWrite)

/-- The controller makes its window smaller while two packets are in flight. -/
def shrinkingWindow : List (CongestionEvent Unit Empty) :=
  [.write (streamWrite 0), .write (streamWrite 1000), .setWindow 500]

/-- Four packets with a datagram each leave although the window is for two, and none of them is recorded.
Two packets of a stream are recorded, and a window that shrinks does not take them back. -/
theorem datagrams_not_covered :
    (datagramWrites.foldlM (CongestionConn.step idle) smallWindow).toOption.map (fun c =>
        (c.sent.map fun s => (s.packet.frames, s.encodedSize), c.conn.inflightBytes,
          c.conn.conn.outstandings.packets, c.settled)) =
      some (List.replicate 4 ([.datagram 1000], 1033), 0, [], []) ∧
    (shrinkingWindow.foldlM (CongestionConn.step idle) smallWindow).toOption.map (fun c =>
        (c.cwndBytes, c.conn.inflightBytes)) = some (500, 2 * 1036) := by
  decide +kernel

end CongestionConn

end MasqueQuic
