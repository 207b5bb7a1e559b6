/-
The bytes of the packets in the queue.

Acks, loss detection and the rejection of 0-RTT take packets out of the queue or mark them as
lost, and report them; `Drops` says that the bytes that are reported are those that are no
longer outstanding. Nothing is asked of the counters and the handlers, so it also holds after a
Retry, where the counters are off.
-/

import MasqueQuic.Quic.AlarmConsistency
import MasqueQuic.Quic.Inflight

namespace MasqueQuic

variable {σ τ ε : Type} {w : PacketEvent → Nat} {h : Handlers σ ε} {c : SendConn σ}
  {packets packets' : List OutstandingPacket} {p : OutstandingPacket}
  {pnSpace : PacketNumberSpace} {frame : ReadAckFrame} {times : AckTimes}

/-! ### Bytes of packets -/

/-- The bytes of packets whose sizes are `w`. -/
def bytesOf (w : PacketEvent → Nat) (packets : List OutstandingPacket) : Nat :=
  (packets.map fun p => w p.ownEvent).sum

/-- The bytes of the packets that are not declared lost. -/
def liveBytes (w : PacketEvent → Nat) (packets : List OutstandingPacket) : Nat :=
  bytesOf w (packets.filter fun p => !p.declaredLost)

@[simp]
theorem bytesOf_nil : bytesOf w [] = 0 := rfl

@[simp]
theorem bytesOf_cons : bytesOf w (p :: packets) = w p.ownEvent + bytesOf w packets := by
  simp [bytesOf]

@[simp]
theorem bytesOf_append :
    bytesOf w (packets ++ packets') = bytesOf w packets + bytesOf w packets' := by
  simp [bytesOf]

theorem bytesOf_perm (hperm : packets.Perm packets') : bytesOf w packets = bytesOf w packets' :=
  (hperm.map _).sum_nat

@[simp]
theorem liveBytes_nil : liveBytes w [] = 0 := rfl

theorem liveBytes_cons_of_lost (hlost : p.declaredLost = true) :
    liveBytes w (p :: packets) = liveBytes w packets := by
  simp [liveBytes, hlost]

theorem liveBytes_cons_of_live (hlost : p.declaredLost = false) :
    liveBytes w (p :: packets) = w p.ownEvent + liveBytes w packets := by
  simp [liveBytes, hlost]

/-- What a packet contributes does not depend on the others. -/
theorem liveBytes_cons :
    liveBytes w (p :: packets) = liveBytes w [p] + liveBytes w packets := by
  cases hlost : p.declaredLost with
  | true => simp [liveBytes, hlost]
  | false => simp [liveBytes, hlost]

@[simp]
theorem liveBytes_append :
    liveBytes w (packets ++ packets') = liveBytes w packets + liveBytes w packets' := by
  simp [liveBytes]

theorem liveBytes_perm (hperm : packets.Perm packets') :
    liveBytes w packets = liveBytes w packets' :=
  bytesOf_perm (hperm.filter _)

theorem liveBytes_filter (f : OutstandingPacket → Bool) :
    liveBytes w packets =
      liveBytes w (packets.filter f) + liveBytes w (packets.filter fun p => !f p) := by
  rw [← liveBytes_append]
  exact (liveBytes_perm (List.filter_append_perm f packets)).symm

theorem liveBytes_congr {w' : PacketEvent → Nat}
    (heq : ∀ p ∈ packets, w p.ownEvent = w' p.ownEvent) :
    liveBytes w packets = liveBytes w' packets := by
  unfold liveBytes bytesOf
  rw [List.map_congr_left fun p hp => heq p (List.mem_of_mem_filter hp)]

theorem liveBytes_eq_zero_iff :
    liveBytes w packets = 0 ↔ ∀ p ∈ packets, p.declaredLost = false → w p.ownEvent = 0 := by
  rw [liveBytes, bytesOf, List.sum_eq_zero_iff_forall_eq_nat, List.forall_mem_map]
  simp

/-! ### What leaves the queue -/

/-- The numbers of the packets of a space have been used. -/
def NumbersUsed (packets : List OutstandingPacket) (ackStates : AckStates) : Prop :=
  ∀ p ∈ packets, ∀ a, ackStates.get p.packetNumberSpace = some a → p.packetNum < a.nextPacketNum

/-- The live packets of `c` are those of `c'` and packets of `bytes` bytes. The queue stays
sorted and numbered. -/
structure Drops (w : PacketEvent → Nat) (c : SendConn σ) (c' : SendConn τ) (bytes : Nat) : Prop where
  sorted : SortedPackets c.outstandings.packets → SortedPackets c'.outstandings.packets
  numbered : NumbersUsed c.outstandings.packets c.ackStates →
    NumbersUsed c'.outstandings.packets c'.ackStates
  bytes : liveBytes w c.outstandings.packets = liveBytes w c'.outstandings.packets + bytes

theorem Drops.refl (c : SendConn σ) : Drops w c c 0 := ⟨id, id, rfl⟩

theorem Drops.trans {υ : Type} {c' : SendConn τ} {c'' : SendConn υ} {m n : Nat}
    (hm : Drops w c c' m) (hn : Drops w c' c'' n) : Drops w c c'' (m + n) where
  sorted hs := hn.sorted (hm.sorted hs)
  numbered hs := hn.numbered (hm.numbered hs)
  bytes := by
    rw [hm.bytes, hn.bytes]
    omega

/-- Functions that leave the ack states alone. -/
theorem Drops.of_sublist {c' : SendConn τ} {bytes : Nat}
    (hsub : c'.outstandings.packets.Sublist c.outstandings.packets)
    (hstates : c'.ackStates = c.ackStates)
    (hbytes : liveBytes w c.outstandings.packets = liveBytes w c'.outstandings.packets + bytes) :
    Drops w c c' bytes where
  sorted hs := hs.sublist hsub
  numbered hs p hp a ha := hs p (hsub.subset hp) a (hstates ▸ ha)
  bytes := hbytes

/-- Marks do not change the numbers. -/
theorem Drops.of_unmarked {c' : SendConn τ} {bytes : Nat}
    (hmap : c'.outstandings.packets.map (·.unmarked) = c.outstandings.packets.map (·.unmarked))
    (hnext : ∀ space a', c'.ackStates.get space = some a' → ∃ a, c.ackStates.get space = some a ∧
      a.nextPacketNum ≤ a'.nextPacketNum)
    (hbytes : liveBytes w c.outstandings.packets = liveBytes w c'.outstandings.packets + bytes) :
    Drops w c c' bytes where
  sorted hs := hs.unmarked hmap
  numbered hs p hp a' ha' := by
    obtain ⟨q, hq, hmark⟩ := exists_unmarked hmap hp
    have hown : q.ownEvent = p.ownEvent := congrArg (·.ownEvent) hmark
    have hspace : q.packetNumberSpace = p.packetNumberSpace :=
      congrArg (·.packetNumberSpace) hown
    have hnum : q.packetNum = p.packetNum := congrArg (·.packetNumber) hown
    obtain ⟨a, ha, hle⟩ := hnext p.packetNumberSpace a' ha'
    have hlt := hs q hq a (hspace ▸ ha)
    omega
  bytes := hbytes

/-! ### Acknowledged packets -/

/-- The packets that wait for the ack visitor, and those among `todo` that will. -/
theorem ackPacket_contexts {loop : AckLoop σ} :
    Ends (fun _ => True) (ackPacket h frame times loop p) (fun s =>
      (s.packetsWithHandlerContext.map (·.1)).Perm
        (loop.packetsWithHandlerContext.map (·.1) ++ [p].filter fun p => !p.declaredLost) ∧
      ((loop.largestNewlyAckedPacket = none → loop.packetsWithHandlerContext = []) →
        s.largestNewlyAckedPacket = none → s.packetsWithHandlerContext = [])) := by
  refine Ends.ite (fun hlost => ?_) fun hlost => ?_
  · unfold ackLostPacket
    refine Ends.any.bind fun _ _ => Ends.any.bind fun rest _ => Ends.any.bind fun k _ => .ok ?_
    exact ⟨by simp [hlost], id⟩
  · unfold ackOutstandingPacket
    refine Ends.any.bind fun k _ => ?_
    have hsample : Ends (fun _ => True)
        (sampleRtt frame times p loop : Except (SendFailure ε) (AckLoop σ))
        (fun s => s.packetsWithHandlerContext = loop.packetsWithHandlerContext) := by
      unfold sampleRtt
      refine Ends.ite (fun _ => Ends.ite (fun _ => ?_) fun _ => .ok rfl) fun _ => .ok rfl
      exact Ends.any.bind fun _ _ => .ok rfl
    refine hsample.bind fun s hs => .ok ⟨?_, ?_⟩
    · dsimp only
      rw [hs]
      have hlen : Deque.rfind (fun x : OutstandingPacket × Bool => x.1.packetNum > p.packetNum)
          loop.packetsWithHandlerContext loop.packetsWithHandlerContext.length ≤
          loop.packetsWithHandlerContext.length := Deque.rfind_le_length _ _
      have hinsert := (List.perm_insertIdx (p, !loop.counters.processed p)
        loop.packetsWithHandlerContext hlen).map (·.1)
      refine hinsert.trans ?_
      rw [List.map_cons]
      have hfilter : ([p].filter fun p => !p.declaredLost) = [p] := by simp [hlost]
      rw [hfilter]
      exact (List.perm_append_singleton p _).symm
    · intro _ hnone
      cases hnone

theorem foldlM_ackPacket_contexts {loop : AckLoop σ}
    (hnews : loop.largestNewlyAckedPacket = none → loop.packetsWithHandlerContext = []) :
    Ends (fun _ => True) (packets.foldlM (ackPacket h frame times) loop) (fun s =>
      (s.packetsWithHandlerContext.map (·.1)).Perm
        (loop.packetsWithHandlerContext.map (·.1) ++ packets.filter fun p => !p.declaredLost) ∧
      (s.largestNewlyAckedPacket = none → s.packetsWithHandlerContext = [])) := by
  induction packets generalizing loop with
  | nil => exact .ok ⟨by simp, hnews⟩
  | cons p packets ih =>
    rw [List.foldlM_cons]
    refine ackPacket_contexts.bind fun s hs => ?_
    refine (ih (hs.2 hnews)).imp fun s' hs' => ⟨?_, hs'.2⟩
    refine hs'.1.trans ?_
    have hcons := hs.1.append_right (packets.filter fun p => !p.declaredLost)
    rwa [List.append_assoc, ← List.filter_append, List.singleton_append] at hcons

theorem visitPackets_numbers {contexts : List (OutstandingPacket × Bool)} {acked : List AckPacket}
    {s : σ} :
    Ends (fun _ => True) (visitPackets h contexts acked s) (fun r =>
      r.1.map (·.packetNum) = acked.map (·.packetNum) ++ contexts.map (·.1.packetNum)) := by
  induction contexts generalizing acked s with
  | nil => exact .ok (by simp)
  | cons x contexts ih =>
    rw [visitPackets]
    refine Ends.any.bind fun r _ => ?_
    refine (ih).imp fun r' hr' => ?_
    rw [hr']
    simp

theorem ackOutstandings_drops (w : PacketEvent → Nat)
    (hsorted : SortedPackets c.outstandings.packets) :
    Ends (fun _ => True) (ackOutstandings h pnSpace frame times c) (fun r =>
      Drops w c r.1 (r.2.2.map fun a => w ⟨pnSpace, a.packetNum⟩).sum ∧
        (r.2.1 = none → r.2.2 = [])) := by
  unfold ackOutstandings
  rw [collectAcked_eq h frame times c hsorted, bind_assoc]
  refine (foldlM_ackPacket_contexts fun _ => rfl).bind fun s hs => ?_
  refine Ends.bind (P := fun r => r = (c.outstandings.packets.filter fun p =>
    !acks pnSpace frame.ackBlocks p, s)) (.ok rfl) fun r hr => ?_
  subst hr
  have hvisit : Ends (fun _ => True)
      (liftHandler (visitPackets h s.packetsWithHandlerContext.reverse [] s.rest))
      (fun r : List AckPacket × σ => r.1.map (·.packetNum) =
        s.packetsWithHandlerContext.reverse.map (·.1.packetNum)) := by
    cases hrun : visitPackets h s.packetsWithHandlerContext.reverse [] s.rest with
    | error e => exact .error trivial
    | ok r => exact .ok (visitPackets_numbers.of_ok hrun)
  refine hvisit.bind fun r hr => ?_
  refine Ends.any.bind fun _ _ => Ends.any.bind fun _ _ => Ends.any.bind fun _ _ => .ok ⟨?_, ?_⟩
  · refine Drops.of_sublist List.filter_sublist rfl ?_
    have hacked : (r.1.map fun a => w ⟨pnSpace, a.packetNum⟩).sum =
        liveBytes w (c.outstandings.packets.filter (acks pnSpace frame.ackBlocks)) := by
      have hperm : (s.packetsWithHandlerContext.reverse.map (·.1)).Perm
          ((c.outstandings.packets.filter (acks pnSpace frame.ackBlocks)).filter
            fun p => !p.declaredLost) := by
        refine ((List.reverse_perm _).map _).trans (hs.1.trans ?_)
        exact (List.reverse_perm _).filter _
      have hspace : ∀ x ∈ s.packetsWithHandlerContext.reverse,
          x.1.packetNumberSpace = pnSpace := by
        intro x hx
        have hmem := List.mem_of_mem_filter (hperm.mem_iff.mp (List.mem_map_of_mem hx))
        exact (acks_iff.mp (List.mem_filter.mp hmem).2).1
      have hnums : (r.1.map fun a => w ⟨pnSpace, a.packetNum⟩) =
          (r.1.map (·.packetNum)).map fun num => w ⟨pnSpace, num⟩ := by
        rw [List.map_map]
        rfl
      rw [hnums, hr, List.map_map, liveBytes, ← bytesOf_perm hperm, bytesOf, List.map_map]
      congr 1
      refine List.map_congr_left fun x hx => ?_
      simp [OutstandingPacket.ownEvent, hspace x hx]
    rw [hacked, liveBytes_filter (acks pnSpace frame.ackBlocks), Nat.add_comm]
  · intro hnone
    have hnil := hs.2 hnone
    rw [hnil] at hr
    simpa using hr

/-! ### Lost packets -/

/-- The loss visitor of `recording` adds the packet to the list. -/
theorem recording_lossVisitor {s : σ × List OutstandingPacket} {processed : Bool} :
    Ends (fun _ => True)
      (liftHandler (h.recording.lossVisitor p processed s) : Except (SendFailure ε) _)
      (fun t => t.2 = s.2 ++ [p]) := by
  have hvisit : h.recording.lossVisitor p processed s =
      h.lossVisitor p processed s.1 >>= fun rest => .ok (rest, s.2 ++ [p]) := rfl
  rw [hvisit]
  cases h.lossVisitor p processed s.1 with
  | error e => exact .error trivial
  | ok rest => exact .ok rfl

/-- The loop of loss detection marks the packets that it records. -/
theorem lossLoop_bytes (w : PacketEvent → Nat) {q : LossParams} (k : OutstandingsCounters)
    (s : σ × List OutstandingPacket) :
    Ends (fun _ => True) (lossLoop h.recording q packets k s) (fun r =>
      ∃ lost, r.2.2.2 = s.2 ++ lost ∧
        liveBytes w packets = liveBytes w r.1 + bytesOf w lost ∧
        r.1.map (·.unmarked) = packets.map (·.unmarked)) := by
  induction packets generalizing k s with
  | nil => exact .ok ⟨[], by simp⟩
  | cons p packets ih =>
    have hkeep : Ends (fun _ => True)
        (lossLoop h.recording q packets k s >>= fun r => .ok (p :: r.1, r.2.1, r.2.2))
        (fun r => ∃ lost, r.2.2.2 = s.2 ++ lost ∧
          liveBytes w (p :: packets) = liveBytes w r.1 + bytesOf w lost ∧
          r.1.map (·.unmarked) = (p :: packets).map (·.unmarked)) := by
      refine (ih k s).bind fun r hr => .ok ?_
      obtain ⟨lost, hlost, hbytes, hmap⟩ := hr
      refine ⟨lost, hlost, ?_, by rw [List.map_cons, List.map_cons, hmap]⟩
      rw [liveBytes_cons, hbytes, @liveBytes_cons w r.1, Nat.add_assoc]
    rw [lossLoop]
    refine Ends.ite (fun _ => .ok ⟨[], by simp⟩) fun _ => ?_
    refine Ends.ite (fun _ => hkeep) fun hown => ?_
    have hlive : p.declaredLost = false := by
      rw [not_or] at hown
      simpa using hown.2
    refine Ends.any.bind fun distance _ => ?_
    refine Ends.ite (fun _ => hkeep) fun _ => ?_
    refine recording_lossVisitor.bind fun t ht => Ends.any.bind fun k' _ => ?_
    refine (ih k' t).bind fun r hr => .ok ?_
    obtain ⟨lost, hlost, hbytes, hmap⟩ := hr
    refine ⟨p :: lost, ?_, ?_, ?_⟩
    · rw [hlost, ht, List.append_assoc, List.singleton_append]
    · have hmark : (q.markLost p distance).declaredLost = true := rfl
      rw [liveBytes_cons_of_live hlive, liveBytes_cons_of_lost hmark, bytesOf_cons, hbytes]
      omega
    · rw [List.map_cons, List.map_cons, hmap]
      rfl

variable {c' : SendConn (σ × List OutstandingPacket)} {lost : List OutstandingPacket}

theorem detectLossPackets_drops (w : PacketEvent → Nat) {c : SendConn (σ × List OutstandingPacket)}
    (largestAcked : Option Nat) (lossTime : Nat) (ackedPackets : List AckPacket) :
    Ends (fun _ => True)
      (detectLossPackets h.recording largestAcked lossTime pnSpace ackedPackets c)
      (fun c' => ∃ lost, c'.rest.2 = c.rest.2 ++ lost ∧ Drops w c c' (bytesOf w lost)) := by
  cases largestAcked with
  | none => exact .ok ⟨[], by simp, Drops.refl c⟩
  | some largestAcked =>
    refine (lossLoop_bytes w _ _).bind fun r hr => .ok ?_
    obtain ⟨lost, hlost, hbytes, hmap⟩ := hr
    have hsplit := List.takeWhile_append_dropWhile
      (p := fun p => !isOutstanding pnSpace p) (l := c.outstandings.packets)
    refine ⟨lost, hlost, Drops.of_unmarked ?_ (fun space a ha => ⟨a, ha, le_rfl⟩) ?_⟩
    · dsimp only
      rw [List.map_append, hmap, ← List.map_append, hsplit]
    · dsimp only
      rw [liveBytes_append, Nat.add_assoc, ← hbytes, ← liveBytes_append, hsplit]

theorem drops_set {c : SendConn σ} {a a' : AckState} (ha : c.ackStates.get pnSpace = some a)
    (hle : a.nextPacketNum ≤ a'.nextPacketNum) :
    Drops w c { c with ackStates := c.ackStates.set pnSpace a' } 0 := by
  refine Drops.of_unmarked rfl (fun space b hb => ?_) rfl
  dsimp only at hb
  rw [AckStates.get_set] at hb
  by_cases hspace : space = pnSpace
  · rw [if_pos hspace] at hb
    cases hb
    exact ⟨a, hspace ▸ ha, hle⟩
  · rw [if_neg hspace] at hb
    exact ⟨b, hb, le_rfl⟩

theorem getAckState_of_ok :
    Ends (fun _ => True) (getAckState c pnSpace : Except (SendFailure ε) AckState)
      (fun a => c.ackStates.get pnSpace = some a) :=
  (getAckState_ends (A := fun _ => True) (E := fun _ => True) (.inl trivial)).forget

theorem handleAckForLoss_drops (w : PacketEvent → Nat)
    {c : SendConn (σ × List OutstandingPacket)} (newly : Option Nat)
    (ackedPackets : List AckPacket) (ackTime : Nat) :
    Ends (fun _ => True) (handleAckForLoss h.recording newly ackedPackets ackTime pnSpace c)
      (fun c' => ∃ lost, c'.rest.2 = c.rest.2 ++ lost ∧ Drops w c c' (bytesOf w lost)) := by
  unfold handleAckForLoss
  refine getAckState_of_ok.bind fun a ha => ?_
  have hnext : (a.newlyAcked newly).nextPacketNum = a.nextPacketNum := by
    cases newly <;> rfl
  refine (detectLossPackets_drops w _ _ _).bind fun c' hc' => Ends.any.bind fun _ _ => .ok ?_
  obtain ⟨lost, hlost, hdrops⟩ := hc'
  refine ⟨lost, hlost, ?_⟩
  have htrans := (drops_set ha (Nat.le_of_eq hnext.symm)).trans hdrops
  rwa [Nat.zero_add] at htrans

theorem onLossTimer_drops (w : PacketEvent → Nat) {c : SendConn (σ × List OutstandingPacket)} (now : Nat) :
    Ends (fun _ => True) (onLossTimer h.recording pnSpace now c)
      (fun c' => ∃ lost, c'.rest.2 = c.rest.2 ++ lost ∧ Drops w c c' (bytesOf w lost)) := by
  unfold onLossTimer
  refine Ends.any.bind fun a _ => ?_
  exact (detectLossPackets_drops w _ _ _).bind fun c' hc' => Ends.any.bind fun _ _ => .ok hc'

theorem zeroRttLoop_bytes (w : PacketEvent → Nat) (k : OutstandingsCounters)
    (s : σ × List OutstandingPacket) :
    Ends (fun _ => True) (zeroRttLoop h.recording packets k s) (fun r =>
      ∃ lost, r.2.2.2 = s.2 ++ lost ∧
        liveBytes w packets = liveBytes w r.1 + bytesOf w lost ∧ r.1.Sublist packets) := by
  induction packets generalizing k s with
  | nil => exact .ok ⟨[], by simp, rfl, List.Sublist.refl []⟩
  | cons p packets ih =>
    rw [zeroRttLoop]
    refine Ends.ite (fun hzero => ?_) fun _ => ?_
    · refine recording_lossVisitor.bind fun t ht => Ends.any.bind fun k' _ => ?_
      refine (ih k' t).imp fun r hr => ?_
      obtain ⟨lost, hlost, hbytes, hsub⟩ := hr
      have hlive : p.declaredLost = false := by
        have houtstanding := hzero.1
        simp only [isOutstanding, Bool.and_eq_true, Bool.not_eq_true'] at houtstanding
        exact houtstanding.1
      refine ⟨p :: lost, ?_, ?_, hsub.cons p⟩
      · rw [hlost, ht, List.append_assoc, List.singleton_append]
      · rw [liveBytes_cons_of_live hlive, bytesOf_cons, hbytes]
        omega
    · refine (ih k s).bind fun r hr => .ok ?_
      obtain ⟨lost, hlost, hbytes, hsub⟩ := hr
      refine ⟨lost, hlost, ?_, hsub.cons_cons p⟩
      rw [liveBytes_cons, hbytes, @liveBytes_cons w r.1, Nat.add_assoc]

theorem markZeroRttPacketsLost_drops (w : PacketEvent → Nat)
    {c : SendConn (σ × List OutstandingPacket)} :
    Ends (fun _ => True) (markZeroRttPacketsLost h.recording c)
      (fun c' => ∃ lost, c'.rest.2 = c.rest.2 ++ lost ∧ Drops w c c' (bytesOf w lost)) := by
  unfold markZeroRttPacketsLost
  refine (zeroRttLoop_bytes w _ _).bind fun r hr => .ok ?_
  obtain ⟨lost, hlost, hbytes, hsub⟩ := hr
  exact ⟨lost, hlost, Drops.of_sublist hsub rfl hbytes⟩

theorem clearOldLoop_bytes (w : PacketEvent → Nat) {time threshold : Nat}
    {kept : List OutstandingPacket} (k : OutstandingsCounters) :
    Ends (fun _ => True)
      (clearOldLoop time threshold pnSpace kept packets k : Except (SendFailure ε) _)
      (fun o => liveBytes w (kept ++ packets) = liveBytes w o.packets ∧
        o.packets.Sublist (kept ++ packets)) := by
  induction packets generalizing kept k with
  | nil => exact .ok (by simp)
  | cons p packets ih =>
    have hsame : Ends (fun _ => True)
        (.ok ⟨k, kept ++ p :: packets⟩ : Except (SendFailure ε) OutstandingsInfo)
        (fun o => liveBytes w (kept ++ p :: packets) = liveBytes w o.packets ∧
          o.packets.Sublist (kept ++ p :: packets)) :=
      .ok ⟨rfl, List.Sublist.refl _⟩
    rw [clearOldLoop]
    refine Ends.ite (fun _ => hsame) fun _ => Ends.ite (fun _ => ?_) fun _ => ?_
    · have hih := @ih (kept ++ [p]) k
      rwa [List.append_assoc, List.singleton_append] at hih
    · refine Ends.ite (fun hold => ?_) fun _ => hsame
      refine Ends.any.bind fun k' _ => (ih k').imp fun o ho => ⟨?_, ?_⟩
      · rw [liveBytes_append, liveBytes_cons_of_lost hold.1, ← liveBytes_append, ho.1]
      · exact ho.2.trans ((List.Sublist.refl kept).append (List.sublist_cons_self p packets))

theorem clearOldOutstandingPackets_drops (w : PacketEvent → Nat) (time : Nat) :
    Ends (fun _ => True)
      (clearOldOutstandingPackets time pnSpace c : Except (SendFailure ε) (SendConn σ))
      (fun c' => Drops w c c' 0) := by
  unfold clearOldOutstandingPackets
  refine Ends.ite (fun _ => .ok (Drops.refl c)) fun _ => ?_
  refine (clearOldLoop_bytes w _).bind fun o ho => .ok ?_
  exact Drops.of_sublist ho.2 rfl ho.1

/-- The queue and the ack states after a packet was sent. -/
theorem updateConnection_queue {packetEvent : Option PacketEvent}
    {packet : RegularQuicWritePacket} {sentTime : Nat} {isDSRPacket : Bool} {a : AckState}
    (ha : c.ackStates.get packet.packetNumberSpace = some a) :
    Ends (fun _ => True) (updateConnection h c packetEvent packet sentTime isDSRPacket) (fun c' =>
      c'.ackStates = c.ackStates.set packet.packetNumberSpace
        { a with nextPacketNum := a.nextPacketNum + 1 } ∧
      c'.outstandings.packets =
        if packet.tracked = true then
          c.outstandings.packets.insertIdx (insertPosition c.outstandings.packets a.nextPacketNum)
            (packet.outstanding a.nextPacketNum sentTime isDSRPacket packetEvent)
        else c.outstandings.packets) := by
  unfold updateConnection
  refine Ends.bind (P := fun a' => a' = a) ?_ fun a' ha' => ?_
  · unfold getAckState
    rw [ha]
    exact .ok rfl
  subst ha'
  refine Ends.any.bind fun rest _ => ?_
  by_cases htracked : packet.tracked = true
  · rw [if_neg (not_not.mpr htracked), if_pos htracked]
    exact Ends.any.bind fun _ _ => .ok ⟨rfl, rfl⟩
  · rw [if_pos htracked, if_neg htracked]
    exact .ok ⟨rfl, rfl⟩

/-- One packet is replaced by one that counts the same. -/
theorem Drops.of_set {c' : SendConn σ} {i : Nat} {q : OutstandingPacket}
    (hi : c.outstandings.packets[i]? = some p) (hown : q.ownEvent = p.ownEvent)
    (hlost : q.declaredLost = p.declaredLost)
    (hpackets : c'.outstandings.packets = c.outstandings.packets.set i q)
    (hstates : c'.ackStates = c.ackStates) : Drops w c c' 0 := by
  have hspace : q.packetNumberSpace = p.packetNumberSpace := congrArg (·.packetNumberSpace) hown
  have hnum : q.packetNum = p.packetNum := congrArg (·.packetNumber) hown
  obtain ⟨others, hperm, hset, -⟩ := set_perm hi q
  rw [← hpackets] at hset
  refine ⟨fun hs => ?_, fun hs r hr a ha => ?_, ?_⟩
  · rw [sortedPackets_iff, hpackets, map_set_eq hnum hi]
    exact sortedPackets_iff.mp hs
  · rw [hstates] at ha
    rcases List.mem_cons.mp (hset.mem_iff.mp hr) with rfl | hr
    · rw [hnum]
      exact hs p (hperm.mem_iff.mpr List.mem_cons_self) a (hspace ▸ ha)
    · exact hs r (hperm.mem_iff.mpr (List.mem_cons_of_mem p hr)) a ha
  · have hone : liveBytes w [q] = liveBytes w [p] := by
      cases hp : p.declaredLost with
      | true => simp [liveBytes, hlost, hp]
      | false => simp [liveBytes, hlost, hp, hown]
    rw [liveBytes_perm hperm, liveBytes_perm hset, liveBytes_cons, @liveBytes_cons w others, hone,
      Nat.add_zero]

/-- A packet that is cloned gets an event and stays what it is. -/
theorem cloneOutstandingPacket_drops (w : PacketEvent → Nat) {i : Nat}
    (hi : c.outstandings.packets[i]? = some p) :
    Drops w c { c with outstandings := (cloneOutstandingPacket c.outstandings i p).2 } 0 := by
  unfold cloneOutstandingPacket
  cases p.associatedEvent with
  | some event => exact Drops.refl c
  | none =>
    exact @Drops.of_set σ w c p _ i
      { p with associatedEvent := some ⟨p.packetNumberSpace, p.packetNum⟩ } hi rfl rfl rfl rfl

end MasqueQuic
