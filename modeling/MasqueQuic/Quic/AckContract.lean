/-
Acknowledgements, losses and new packets keep every contract.

The invariant `Contract.Inv` of a connection is the contract together with the counters,
the numbering and the order of the queue. Each function of `AckHandlers`, and
`updateConnection`, has one lemma here: it ends in the invariant, or fails in an allowed
way.
-/

import MasqueQuic.Quic.Contract

namespace MasqueQuic

variable {σ ε : Type} {h : Handlers σ ε} {E : ε → Prop} {A : SendCheck → Prop}
  {C : Contract h E} {k : OutstandingsCounters} {p : OutstandingPacket}
  {packets packets' todo kept : List OutstandingPacket}
  {pending : List RegularQuicWritePacket} {s t : σ} {c : SendConn σ} {pnSpace : PacketNumberSpace}

/-- DSR packets are sent with 1-RTT keys. -/
def DsrKeyed (packets : List OutstandingPacket) : Prop :=
  ∀ p ∈ packets, p.isDSRPacket = true → p.protectionType ≠ .zeroRtt

/-- The invariant of a connection. -/
structure Contract.Inv (C : Contract h E) (c : SendConn σ) : Prop where
  scanned : C.Scanned c.outstandings.toOutstandingsCounters c.outstandings.packets c.rest
  numbered : Numbered c.outstandings.packets c.ackStates
  sorted : SortedPackets c.outstandings.packets
  keyed : DsrKeyed c.outstandings.packets

/-- What a step does to the spaces: their ack states are there as before, and packets are
new in some spaces only. -/
structure SendConn.Continues (c c' : SendConn σ) (New : PacketNumberSpace → Prop) : Prop where
  states : ∀ s, (c'.ackStates.get s).isSome = (c.ackStates.get s).isSome
  spaces : ∀ p ∈ c'.outstandings.packets, New p.packetNumberSpace ∨
    ∃ q ∈ c.outstandings.packets, q.packetNumberSpace = p.packetNumberSpace

theorem SendConn.Continues.trans {c c' c'' : SendConn σ} {New New' : PacketNumberSpace → Prop}
    (hcc' : c.Continues c' New) (hcc'' : c'.Continues c'' New') (hnew : ∀ s, New s → New' s) :
    c.Continues c'' New' where
  states s := (hcc''.states s).trans (hcc'.states s)
  spaces p hp := by
    rcases hcc''.spaces p hp with hnew' | ⟨q, hq, hspace⟩
    · exact .inl hnew'
    · rcases hcc'.spaces q hq with hq | ⟨r, hr, hspace'⟩
      · exact .inl (hnew _ (hspace ▸ hq))
      · exact .inr ⟨r, hr, hspace'.trans hspace⟩

/-! ### Loss detection -/

/-- Marks do not show in a function that does not read them. -/
theorem map_of_unmarked {α : Type} {f : OutstandingPacket → α} (hf : ∀ p, f p.unmarked = f p)
    (hmap : packets'.map (·.unmarked) = packets.map (·.unmarked)) :
    packets'.map f = packets.map f := by
  have hcongr := congrArg (List.map f) hmap
  rw [List.map_map, List.map_map] at hcongr
  have hcomp : f ∘ (·.unmarked) = f := funext hf
  rwa [hcomp] at hcongr

/-- A packet is marked in its place. -/
theorem exists_unmarked (hmap : packets'.map (·.unmarked) = packets.map (·.unmarked))
    (hp : p ∈ packets') : ∃ q ∈ packets, q.unmarked = p.unmarked := by
  have hmem : p.unmarked ∈ packets.map (·.unmarked) := by
    rw [← hmap]
    exact List.mem_map_of_mem hp
  exact List.mem_map.mp hmem

theorem Numbered.unmarked {ackStates : AckStates} (hn : Numbered packets ackStates)
    (hmap : packets'.map (·.unmarked) = packets.map (·.unmarked)) :
    Numbered packets' ackStates := by
  refine ⟨?_, fun p hp a ha => ?_, fun p hp event hevent a ha => ?_, fun p hp q hq hassoc => ?_⟩
  · rw [map_of_unmarked (f := (·.ownEvent)) (fun _ => rfl) hmap]
    exact hn.nodup
  · obtain ⟨p', hp', hmark⟩ := exists_unmarked hmap hp
    have hown : p'.ownEvent = p.ownEvent := congrArg (·.ownEvent) hmark
    have hspace : p'.packetNumberSpace = p.packetNumberSpace := congrArg (·.packetNumberSpace) hown
    have hnum : p'.packetNum = p.packetNum := congrArg (·.packetNumber) hown
    rw [← hnum]
    exact hn.below p' hp' a (hspace ▸ ha)
  · obtain ⟨p', hp', hmark⟩ := exists_unmarked hmap hp
    have hassoc : p'.associatedEvent = p.associatedEvent := congrArg (·.associatedEvent) hmark
    exact hn.eventBelow p' hp' event (hassoc.trans hevent) a ha
  · obtain ⟨p', hp', hpmark⟩ := exists_unmarked hmap hp
    obtain ⟨q', hq', hqmark⟩ := exists_unmarked hmap hq
    have hpassoc : p'.associatedEvent = p.associatedEvent := congrArg (·.associatedEvent) hpmark
    have hqassoc : q'.associatedEvent = q.associatedEvent := congrArg (·.associatedEvent) hqmark
    have hown : q'.ownEvent = q.ownEvent := congrArg (·.ownEvent) hqmark
    rw [← hqassoc, ← hown]
    exact hn.first p' hp' q' hq' (hpassoc.trans (hassoc.trans (congrArg some hown.symm)))

theorem sortedPackets_iff :
    SortedPackets packets ↔ (packets.map (·.packetNum)).Pairwise (· ≤ ·) :=
  List.pairwise_map.symm

theorem SortedPackets.unmarked (hsorted : SortedPackets packets)
    (hmap : packets'.map (·.unmarked) = packets.map (·.unmarked)) : SortedPackets packets' := by
  rw [sortedPackets_iff, map_of_unmarked (f := (·.packetNum)) (fun _ => rfl) hmap]
  exact sortedPackets_iff.mp hsorted

theorem Numbered.sublist {ackStates : AckStates} (hn : Numbered packets ackStates)
    (hsub : packets'.Sublist packets) : Numbered packets' ackStates :=
  ⟨hn.nodup.sublist (hsub.map _), fun p hp => hn.below p (hsub.subset hp),
    fun p hp => hn.eventBelow p (hsub.subset hp),
    fun p hp q hq => hn.first p (hsub.subset hp) q (hsub.subset hq)⟩

theorem DsrKeyed.unmarked (hk : DsrKeyed packets)
    (hmap : packets'.map (·.unmarked) = packets.map (·.unmarked)) : DsrKeyed packets' := by
  intro p hp hdsr
  obtain ⟨q, hq, hmark⟩ := exists_unmarked hmap hp
  have hkind : q.isDSRPacket = p.isDSRPacket := congrArg (·.isDSRPacket) hmark
  have hkey : q.protectionType = p.protectionType := congrArg (·.protectionType) hmark
  rw [← hkey]
  exact hk q hq (hkind.trans hdsr)

theorem DsrKeyed.sublist (hk : DsrKeyed packets) (hsub : packets'.Sublist packets) :
    DsrKeyed packets' :=
  fun p hp => hk p (hsub.subset hp)

theorem Contract.Scanned.numOutstanding (hs : C.Scanned k packets s) :
    Ends (Allowed A E) (OutstandingsInfo.mk k packets).numOutstanding
      (fun n => n = packets.length - k.declaredLostCount) := by
  refine (ends_checkThat (.inl ?_)).bind fun _ _ => .ok rfl
  rw [hs.upholds.tally.declaredLostCount]
  exact List.countP_le_length

theorem Contract.Inv.detectLossPackets (hc : C.Inv c) (largestAcked : Option Nat) (lossTime : Nat)
    (ackedPackets : List AckPacket)
    (hdsr : A .dsrPacket ∨ ∀ p ∈ c.outstandings.packets, p.DsrFrames) :
    Ends (Allowed A E) (detectLossPackets h largestAcked lossTime pnSpace ackedPackets c)
      (fun c' => C.Inv c' ∧ C.Later c.rest c'.rest ∧ c'.ackStates = c.ackStates ∧
        c'.lossState = c.lossState ∧ c'.transportSettings = c.transportSettings ∧
        c'.outstandings.packets.map (·.unmarked) = c.outstandings.packets.map (·.unmarked)) := by
  cases largestAcked with
  | none => exact .ok ⟨hc, C.later_refl _, rfl, rfl, rfl, rfl⟩
  | some largestAcked =>
    unfold MasqueQuic.detectLossPackets processOutstandingsForLoss
    have hsplit := List.takeWhile_append_dropWhile
      (p := fun p => !isOutstanding pnSpace p) (l := c.outstandings.packets)
    have hscanned := hc.scanned
    rw [← hsplit] at hscanned
    have hdrop : A .dsrPacket ∨ ∀ p ∈ c.outstandings.packets.dropWhile
        (fun p => !isOutstanding pnSpace p), p.DsrFrames :=
      hdsr.imp_right fun hall p hp => hall p ((List.dropWhile_sublist _).subset hp)
    refine (hscanned.lossLoop _ hdrop (largestAckedOf_nonDsr _ _)).bind fun r hr => .ok ?_
    have hmap : (c.outstandings.packets.takeWhile (fun p => !isOutstanding pnSpace p) ++
        r.1).map (·.unmarked) = c.outstandings.packets.map (·.unmarked) := by
      nth_rewrite 2 [← hsplit]
      rw [List.map_append, List.map_append, hr.2.2]
    exact ⟨⟨hr.1, hc.numbered.unmarked hmap, hc.sorted.unmarked hmap, hc.keyed.unmarked hmap⟩,
      hr.2.1, rfl, rfl, rfl, hmap⟩

/-- The next packet number of a space is the only thing that `Numbered` reads. -/
theorem Numbered.set {ackStates : AckStates} {a a' : AckState}
    (hn : Numbered packets ackStates) (ha : ackStates.get pnSpace = some a)
    (hle : a.nextPacketNum ≤ a'.nextPacketNum) : Numbered packets (ackStates.set pnSpace a') := by
  have hnext : ∀ space b, (ackStates.set pnSpace a').get space = some b →
      ∃ b', ackStates.get space = some b' ∧ b'.nextPacketNum ≤ b.nextPacketNum := by
    intro space b hb
    rw [AckStates.get_set] at hb
    by_cases hspace : space = pnSpace
    · rw [if_pos hspace] at hb
      cases hb
      exact ⟨a, hspace ▸ ha, hle⟩
    · rw [if_neg hspace] at hb
      exact ⟨b, hb, le_rfl⟩
  refine ⟨hn.nodup, fun p hp b hb => ?_, fun p hp event hevent b hb => ?_, hn.first⟩
  · obtain ⟨b', hb', hle'⟩ := hnext _ b hb
    exact (hn.below p hp b' hb').trans_le hle'
  · obtain ⟨b', hb', hle'⟩ := hnext _ b hb
    exact (hn.eventBelow p hp event hevent b' hb').trans_le hle'

theorem Numbered.reset {ackStates : AckStates} (hn : Numbered packets ackStates)
    (pnSpace : PacketNumberSpace) : Numbered packets (ackStates.reset pnSpace) :=
  ⟨hn.nodup, fun p hp a ha => hn.below p hp a (AckStates.get_of_reset ha),
    fun p hp event hevent a ha => hn.eventBelow p hp event hevent a (AckStates.get_of_reset ha),
    hn.first⟩

theorem getAckState_ends (hack : A .ackState ∨ (c.ackStates.get pnSpace).isSome = true) :
    Ends (Allowed A E) (getAckState c pnSpace : Except (SendFailure ε) AckState)
      (fun a => c.ackStates.get pnSpace = some a) := by
  unfold getAckState
  cases ha : c.ackStates.get pnSpace with
  | none => exact .error (hack.resolve_right (by simp [ha]))
  | some a => exact .ok rfl

/-- What `handleAckForLoss` does to the ack states. -/
def AckStates.NextKept (before after : AckStates) : Prop :=
  ∀ s, (after.get s).map (·.nextPacketNum) = (before.get s).map (·.nextPacketNum)

theorem Contract.Inv.handleAckForLoss (hc : C.Inv c) (largestNewlyAcked : Option Nat)
    (ackedPackets : List AckPacket) (ackTime : Nat)
    (hdsr : A .dsrPacket ∨ ∀ p ∈ c.outstandings.packets, p.DsrFrames)
    (hack : A .ackState ∨ (c.ackStates.get pnSpace).isSome = true) :
    Ends (Allowed A E) (handleAckForLoss h largestNewlyAcked ackedPackets ackTime pnSpace c)
      (fun c' => C.Inv c' ∧ C.Later c.rest c'.rest ∧ c.ackStates.NextKept c'.ackStates ∧
        c'.lossState = c.lossState ∧ c'.transportSettings = c.transportSettings ∧
        c'.outstandings.packets.map (·.unmarked) = c.outstandings.packets.map (·.unmarked)) := by
  unfold MasqueQuic.handleAckForLoss
  refine (getAckState_ends hack).bind fun a ha => ?_
  have hnext : (a.newlyAcked largestNewlyAcked).nextPacketNum = a.nextPacketNum := by
    cases largestNewlyAcked <;> rfl
  have hset : C.Inv { c with ackStates := c.ackStates.set pnSpace (a.newlyAcked largestNewlyAcked) } :=
    ⟨hc.scanned, hc.numbered.set ha (Nat.le_of_eq hnext.symm), hc.sorted, hc.keyed⟩
  refine (hset.detectLossPackets _ _ _ hdsr).bind fun c' hc' => ?_
  refine (hc'.1.scanned.numOutstanding).bind fun _ _ => .ok ⟨hc'.1, hc'.2.1, ?_, hc'.2.2.2⟩
  intro s
  rw [hc'.2.2.1]
  change (AckStates.get (c.ackStates.set pnSpace (a.newlyAcked largestNewlyAcked)) s).map _ = _
  rw [AckStates.get_set]
  by_cases hs : s = pnSpace
  · rw [if_pos hs, hs, ha, Option.map_some, Option.map_some, hnext]
  · rw [if_neg hs]

theorem Contract.Inv.onLossTimer (hc : C.Inv c) (now : Nat)
    (hdsr : A .dsrPacket ∨ ∀ p ∈ c.outstandings.packets, p.DsrFrames)
    (hack : A .ackState ∨ (c.ackStates.get pnSpace).isSome = true) :
    Ends (Allowed A E) (onLossTimer h pnSpace now c)
      (fun c' => C.Inv c' ∧ C.Later c.rest c'.rest ∧ c.Continues c' fun _ => False) := by
  unfold MasqueQuic.onLossTimer
  refine (getAckState_ends hack).bind fun a _ => ?_
  refine (hc.detectLossPackets _ _ _ hdsr).bind fun c' hc' => ?_
  obtain ⟨hinv, hlater, hstates, -, -, hmap⟩ := hc'
  refine hinv.scanned.numOutstanding.bind fun _ _ => .ok ⟨hinv, hlater, ?_, fun p hp => .inr ?_⟩
  · rw [hstates]
    exact fun s => rfl
  · obtain ⟨q, hq, hmark⟩ := exists_unmarked hmap hp
    exact ⟨q, hq, congrArg (·.packetNumberSpace) hmark⟩

/-! ### Packets that were declared lost -/

/-- The number of lost packets goes down. -/
def OutstandingsCounters.oneLostLess (k : OutstandingsCounters) : OutstandingsCounters :=
  { k with declaredLostCount := k.declaredLostCount - 1 }

theorem Tally.decreaseDeclaredLostCount_eq (ht : Tally k (p :: packets))
    (hlost : p.declaredLost = true) :
    k.decreaseDeclaredLostCount = (.ok k.oneLostLess : Except (SendFailure ε) _) := by
  have hpos : 0 < k.declaredLostCount := by
    rw [ht.declaredLostCount, List.countP_cons, if_pos hlost]
    omega
  unfold OutstandingsCounters.decreaseDeclaredLostCount checkThat
  rw [if_pos hpos]
  rfl

/-- A lost packet leaves the queue; nothing depends on it. -/
theorem Contract.Upholds.dropLost (hu : C.Upholds k (p :: packets) pending s)
    (hlost : p.declaredLost = true) : C.Upholds k.oneLostLess packets pending s := by
  have hnot : ¬ k.carries p = true := by simp [OutstandingsCounters.carries, hlost]
  have hholds := hu.holds
  rw [List.filter_cons_of_neg hnot] at hholds
  refine ⟨⟨fun s => ?_, fun s => ?_, ?_, fun event hevent => ?_, fun q hq => ?_⟩,
    (List.nodup_cons.mp hu.nodup).2, fun q hq r hr => ?_, hholds⟩
  · have hcount := hu.tally.packetCount s
    rw [List.countP_cons] at hcount
    simpa [OutstandingPacket.isPlain, hlost, OutstandingsCounters.oneLostLess] using hcount
  · have hcount := hu.tally.clonedPacketCount s
    rw [List.countP_cons] at hcount
    simpa [OutstandingPacket.isCloned, hlost, OutstandingsCounters.oneLostLess] using hcount
  · have hcount := hu.tally.declaredLostCount
    rw [List.countP_cons, if_pos hlost] at hcount
    exact (congrArg (· - 1) hcount).trans (Nat.add_sub_cancel _ _)
  · obtain ⟨q, hq, hqlost, hcarried⟩ := hu.tally.carried event hevent
    rcases List.mem_cons.mp hq with rfl | hq
    · rw [hlost] at hqlost
      cases hqlost
    · exact ⟨q, hq, hqlost, hcarried⟩
  · exact hu.tally.eventSpace q (List.mem_cons_of_mem p hq)
  · exact hu.copies q (List.mem_cons_of_mem p hq) r (List.mem_cons_of_mem p hr)

theorem Contract.Scanned.dropLost (hs : C.Scanned k (p :: packets) s)
    (hlost : p.declaredLost = true) : C.Scanned k.oneLostLess packets s := by
  refine ⟨hs.upholds.dropLost hlost, ?_⟩
  have hcount := hs.dsr
  rw [List.countP_cons] at hcount
  simpa [OutstandingPacket.isLiveDsr, hlost, OutstandingsCounters.oneLostLess] using hcount

/-- The packets of the space that `clearOldOutstandingPackets` takes from the front. -/
def IsOld (time threshold : Nat) (pnSpace : PacketNumberSpace) (p : OutstandingPacket) : Prop :=
  p.packetNumberSpace = pnSpace → p.declaredLost = true ∧ time - p.time > 1000 * threshold

/-- It removes old lost packets of the space up to the first packet that stays. -/
theorem Contract.Scanned.clearOldLoop (time threshold : Nat) (pnSpace : PacketNumberSpace)
    (kept : List OutstandingPacket) (hs : C.Scanned k (kept ++ todo) s) :
    Ends (Allowed A E) (clearOldLoop time threshold pnSpace kept todo k)
      (fun o => C.Scanned o.toOutstandingsCounters o.packets s ∧
        ∃ front back, todo = front ++ back ∧ (∀ p ∈ front, IsOld time threshold pnSpace p) ∧
          o.packets = kept ++ (front.filter (fun p => !own pnSpace p) ++ back)) := by
  induction todo generalizing kept k with
  | nil => exact .ok ⟨by simpa using hs, [], [], rfl, List.forall_mem_nil _, by simp⟩
  | cons p todo ih =>
    have hstop : Ends (Allowed A E)
        (.ok ⟨k, kept ++ p :: todo⟩ : Except (SendFailure ε) OutstandingsInfo)
        (fun o => C.Scanned o.toOutstandingsCounters o.packets s ∧
          ∃ front back, p :: todo = front ++ back ∧
            (∀ p ∈ front, IsOld time threshold pnSpace p) ∧
            o.packets = kept ++ (front.filter (fun p => !own pnSpace p) ++ back)) :=
      .ok ⟨hs, [], p :: todo, rfl, List.forall_mem_nil _, rfl⟩
    rw [MasqueQuic.clearOldLoop]
    refine Ends.ite (fun _ => hstop) fun _ => ?_
    refine Ends.ite (fun hspace => ?_) fun hspace => ?_
    · have hih := ih (kept ++ [p]) (by rwa [List.append_assoc])
      refine hih.imp fun o ho => ⟨ho.1, ?_⟩
      obtain ⟨front, back, rfl, hold, hpackets⟩ := ho.2
      refine ⟨p :: front, back, rfl, ?_, ?_⟩
      · exact List.forall_mem_cons.mpr ⟨fun hp => absurd hp hspace, hold⟩
      · have hforeign : own pnSpace p = false := by simp [own, hspace]
        rw [hpackets]
        simp [hforeign]
    · refine Ends.ite (fun hold => ?_) fun _ => hstop
      have hs' := hs.perm List.perm_middle
      rw [hs'.upholds.tally.decreaseDeclaredLostCount_eq hold.1]
      refine (ih kept (hs'.dropLost hold.1)).imp fun o ho => ⟨ho.1, ?_⟩
      obtain ⟨front, back, rfl, holds, hpackets⟩ := ho.2
      refine ⟨p :: front, back, rfl, List.forall_mem_cons.mpr ⟨fun _ => hold, holds⟩, ?_⟩
      have hown : own pnSpace p = true := by simpa [own] using hspace
      rw [hpackets]
      simp [hown]

theorem Contract.Inv.clearOldOutstandingPackets (hc : C.Inv c) (time : Nat) :
    Ends (Allowed A E) (clearOldOutstandingPackets time pnSpace c)
      (fun c' => C.Inv c' ∧ c'.rest = c.rest ∧ c'.ackStates = c.ackStates ∧
        calculatePTO c' = calculatePTO c ∧
        ∃ front back, c.outstandings.packets = front ++ back ∧
          (∀ p ∈ front, IsOld time (calculatePTO c) pnSpace p) ∧
          c'.outstandings.packets = front.filter (fun p => !own pnSpace p) ++ back) := by
  unfold MasqueQuic.clearOldOutstandingPackets
  refine Ends.ite (fun _ => .ok ⟨hc, rfl, rfl, rfl, [], _, rfl, List.forall_mem_nil _, rfl⟩)
    fun _ => ?_
  refine (hc.scanned.clearOldLoop time (calculatePTO c) pnSpace []).bind fun o ho => .ok ?_
  obtain ⟨front, back, hsplit, hold, hpackets⟩ := ho.2
  change c.outstandings.packets = front ++ back at hsplit
  rw [List.nil_append] at hpackets
  have hsub : o.packets.Sublist c.outstandings.packets := by
    rw [hpackets, hsplit]
    exact List.filter_sublist.append (List.Sublist.refl back)
  exact ⟨⟨ho.1, hc.numbered.sublist hsub, hc.sorted.sublist hsub, hc.keyed.sublist hsub⟩, rfl, rfl,
    rfl, front, back, hsplit, hold, hpackets⟩

/-! ### Acknowledged packets -/

/-- The loop over the acknowledged packets: `todo` are still to come, the largest number
first, and `acked` is what it has collected. For each packet that waits for all its frames
to be visited, `waiting` has one that it is a copy of. -/
structure Contract.Collecting (C : Contract h E) (frame : ReadAckFrame) (start : σ)
    (kept : List OutstandingPacket) (all : List OutstandingPacket) (s : AckLoop σ)
    (todo : List OutstandingPacket) : Prop where
  descending : todo.Pairwise fun p q => q.packetNum < p.packetNum
  above : ∀ x ∈ s.packetsWithHandlerContext, ∀ p ∈ todo, p.packetNum < x.1.packetNum
  upholds : ∃ waiting,
    List.Forall₂ (fun a x => C.Copy a x.1.sent s.rest) waiting
      (s.packetsWithHandlerContext.filter (·.2)) ∧
    C.Upholds s.counters (todo ++ kept) waiting s.rest
  dsr : s.counters.dsrCount = (todo ++ kept).countP (·.isLiveDsr) + s.dsrPacketsAcked
  spurious : s.transportSettings.removeFromLossBufferOnSpurious = true →
    Meets (spuriousStep h) C.Spurious s.rest (spuriousFrames todo)
  sample : s.rttSample = none ∨ ∀ p ∈ todo, p.packetNum ≠ frame.largestAcked
  later : C.Later start s.rest
  collected : ∃ done, all = done ++ todo ∧
    s.packetsWithHandlerContext.map (·.1) = done.filter (fun p => !p.declaredLost)

theorem spuriousFrames_cons (p : OutstandingPacket) (todo : List OutstandingPacket) :
    spuriousFrames (p :: todo) =
      (if p.declaredLost then p.streamFrames else []) ++ spuriousFrames todo := by
  unfold spuriousFrames
  cases hp : p.declaredLost with
  | true => rw [List.filter_cons_of_pos hp]; rfl
  | false => rw [List.filter_cons_of_neg (by simp [hp])]; rfl

/-- The spurious losses of one packet. -/
theorem Contract.spuriousFold (C : Contract h E) {cs : List RegularQuicWritePacket}
    {frames rest : List WriteStreamFrame} (hholds : C.Holds cs s)
    (hmeets : Meets (spuriousStep h) C.Spurious s (frames ++ rest)) :
    Ends E (frames.foldlM (spuriousStep h) s)
      (fun t => C.Holds cs t ∧ C.Later s t ∧ Meets (spuriousStep h) C.Spurious t rest) := by
  induction frames generalizing s with
  | nil => exact .ok ⟨hholds, C.later_refl s, hmeets⟩
  | cons frame frames ih =>
    rw [List.foldlM_cons]
    have hstep : Ends E (spuriousStep h s frame) (fun t =>
        (C.Holds cs t ∧ C.Later s t) ∧ spuriousStep h s frame = .ok t) := by
      have hlaw := C.spurious hholds hmeets.1
      unfold spuriousStep
      cases hx : h.spuriousLoss frame s with
      | error e =>
        rw [hx] at hlaw
        exact hlaw
      | ok t =>
        rw [hx] at hlaw
        exact ⟨hlaw, rfl⟩
    refine hstep.bind fun t ht => ?_
    refine (ih ht.1.1 (hmeets.2 t ht.2)).imp fun u hu => ?_
    exact ⟨hu.1, C.later_trans ht.1.2 hu.2.1, hu.2.2⟩

theorem forall₂_later {waiting : List RegularQuicWritePacket}
    {contexts : List (OutstandingPacket × Bool)}
    (hcopy : List.Forall₂ (fun a x => C.Copy a x.1.sent s) waiting contexts)
    (hlater : C.Later s t) : List.Forall₂ (fun a x => C.Copy a x.1.sent t) waiting contexts :=
  hcopy.imp fun _ _ hab => C.copy_later hab hlater

variable {frame : ReadAckFrame} {times : AckTimes} {start : σ} {all : List OutstandingPacket}
  {loop : AckLoop σ}

/-- A packet that had been declared lost is acknowledged. -/
theorem Contract.Collecting.ackLost (hc : C.Collecting frame start kept all loop (p :: todo))
    (hlost : p.declaredLost = true) :
    Ends (Allowed A E) (ackLostPacket h p loop)
      (fun s => C.Collecting frame start kept all s todo) := by
  obtain ⟨waiting, hcopy, hu⟩ := hc.upholds
  obtain ⟨done, hall, hcontexts⟩ := hc.collected
  have hpos : 0 < loop.counters.declaredLostCount := by
    rw [hu.tally.declaredLostCount, List.cons_append, List.countP_cons, if_pos hlost]
    omega
  unfold ackLostPacket
  refine (ends_checkThat (.inl hpos)).bind fun _ _ => ?_
  have hrest : Ends (Allowed A E)
      (if loop.transportSettings.removeFromLossBufferOnSpurious then
        liftHandler ((p.frames.filterMap QuicWriteFrame.asWriteStreamFrame).foldlM
          (fun rest frame => h.spuriousLoss frame rest) loop.rest)
      else .ok loop.rest)
      (fun t => C.Holds (waiting ++ ((p :: todo ++ kept).filter loop.counters.carries).map
          (·.sent)) t ∧ C.Later loop.rest t ∧
        (loop.transportSettings.removeFromLossBufferOnSpurious = true →
          Meets (spuriousStep h) C.Spurious t (spuriousFrames todo))) := by
    refine Ends.ite (fun hset => ?_) fun hset => ?_
    · have hmeets := hc.spurious hset
      rw [spuriousFrames_cons, if_pos hlost] at hmeets
      exact ends_liftHandler ((C.spuriousFold hu.holds hmeets).imp fun t ht =>
        ⟨ht.1, ht.2.1, fun _ => ht.2.2⟩)
    · exact .ok ⟨hu.holds, C.later_refl _, fun hset' => absurd hset' hset⟩
  refine hrest.bind fun t ht => ?_
  rw [hu.tally.decreaseDeclaredLostCount_eq hlost]
  have hu' : C.Upholds loop.counters.oneLostLess (todo ++ kept) waiting t :=
    (hu.later ht.1 ht.2.1).dropLost hlost
  refine .ok ⟨hc.descending.of_cons, fun x hx q hq => hc.above x hx q (List.mem_cons_of_mem p hq),
    ⟨waiting, forall₂_later hcopy ht.2.1, hu'⟩, ?_, ?_, ?_, C.later_trans hc.later ht.2.1, ?_⟩
  · have hdsr := hc.dsr
    rw [List.cons_append, List.countP_cons] at hdsr
    simpa [OutstandingPacket.isLiveDsr, hlost, OutstandingsCounters.oneLostLess] using hdsr
  · intro hset
    refine ht.2.2 ?_
    by_cases hadaptive : loop.transportSettings.useAdaptiveLossTimeThresholds = true
    · simpa [hadaptive] using hset
    · simpa [hadaptive] using hset
  · exact hc.sample.imp_right fun hall q hq => hall q (List.mem_cons_of_mem p hq)
  · exact ⟨done ++ [p], by rw [hall, List.append_assoc]; rfl, by
      rw [hcontexts, List.filter_append]
      simp [hlost]⟩

/-- Packets come with falling numbers, so each one goes to the end. -/
theorem insertContext_eq {contexts : List (OutstandingPacket × Bool)} {flag : Bool}
    (habove : ∀ x ∈ contexts, p.packetNum < x.1.packetNum) :
    insertContext contexts p flag = contexts ++ [(p, flag)] := by
  obtain ⟨front, skipped, hsplit, hfind, hskipped, -⟩ :=
    Deque.rfind_split (fun x : OutstandingPacket × Bool => x.1.packetNum > p.packetNum) contexts []
  have hnil : skipped = [] := by
    rw [List.eq_nil_iff_forall_not_mem]
    intro x hx
    have hlt := habove x (hsplit ▸ List.mem_append_right front hx)
    have hnot := hskipped x hx
    simp only [gt_iff_lt, decide_eq_false_iff_not] at hnot
    exact hnot hlt
  rw [List.append_nil] at hfind
  rw [hnil, List.append_nil] at hsplit
  rw [insertContext, hfind, ← hsplit, List.insertIdx_length_self]

theorem sampleRtt_ends (hsample : loop.rttSample = none ∨ p.packetNum ≠ frame.largestAcked) :
    Ends (Allowed A E) (sampleRtt frame times p loop)
      (fun s => ∃ lossState rttSample, s = { loop with lossState, rttSample } ∧
        (rttSample = loop.rttSample ∨ p.packetNum = frame.largestAcked)) := by
  have hsame : Ends (Allowed A E) (.ok loop : Except (SendFailure ε) (AckLoop σ))
      (fun s => ∃ lossState rttSample, s = { loop with lossState, rttSample } ∧
        (rttSample = loop.rttSample ∨ p.packetNum = frame.largestAcked)) :=
    .ok ⟨loop.lossState, loop.rttSample, rfl, .inl rfl⟩
  unfold sampleRtt
  refine Ends.ite (fun hlargest => ?_) fun _ => hsame
  refine Ends.ite (fun _ => ?_) fun _ => hsame
  have hnone := hsample.resolve_right (not_not.mpr hlargest.2)
  refine (ends_checkThat (.inl hnone)).bind fun _ _ => ?_
  exact .ok ⟨_, _, rfl, .inr hlargest.2⟩

theorem Contract.Collecting.ackOutstanding
    (hc : C.Collecting frame start kept all loop (p :: todo)) (hlost : p.declaredLost = false) :
    Ends (Allowed A E) (ackOutstandingPacket frame times p loop)
      (fun s => C.Collecting frame start kept all s todo) := by
  obtain ⟨waiting, hcopy, hu⟩ := hc.upholds
  obtain ⟨done, hall, hcontexts⟩ := hc.collected
  have hbelow : ∀ q ∈ todo, q.packetNum < p.packetNum :=
    fun q hq => List.rel_of_pairwise_cons hc.descending hq
  have hsample : loop.rttSample = none ∨ p.packetNum ≠ frame.largestAcked :=
    hc.sample.imp_right fun hne => hne p List.mem_cons_self
  unfold ackOutstandingPacket
  rw [hu.tally.onAck_eq hlost]
  refine (sampleRtt_ends hsample).bind fun loop' hloop' => ?_
  obtain ⟨lossState, rttSample, rfl, hrtt⟩ := hloop'
  have hinsert : insertContext loop.packetsWithHandlerContext p (!loop.counters.processed p) =
      loop.packetsWithHandlerContext ++ [(p, !loop.counters.processed p)] :=
    insertContext_eq fun x hx => hc.above x hx p List.mem_cons_self
  have hmeets : loop.transportSettings.removeFromLossBufferOnSpurious = true →
      Meets (spuriousStep h) C.Spurious loop.rest (spuriousFrames todo) := by
    intro hset
    have hmeets := hc.spurious hset
    rwa [spuriousFrames_cons, if_neg (by rw [hlost]; exact Bool.false_ne_true)] at hmeets
  refine .ok ⟨hc.descending.of_cons, ?_, ?_, ?_, hmeets, ?_, hc.later, ?_⟩
  · intro x hx q hq
    rw [hinsert] at hx
    rcases List.mem_append.mp hx with hx | hx
    · exact hc.above x hx q (List.mem_cons_of_mem p hq)
    · rw [List.mem_singleton.mp hx]
      exact hbelow q hq
  · dsimp only
    rw [hinsert, List.filter_append]
    cases hprocessed : loop.counters.processed p with
    | true =>
      refine ⟨waiting, ?_, hu.retire_processed hlost hprocessed⟩
      simpa using hcopy
    | false =>
      obtain ⟨a, ha, hu'⟩ := hu.retire_unprocessed hlost hprocessed
      refine ⟨waiting ++ [a], ?_, hu'.later ?_ (C.later_refl _)⟩
      · exact List.rel_append hcopy (.cons ha .nil)
      · exact C.holds_perm (((List.perm_append_singleton a waiting).symm).append_right _)
          hu'.holds
  · have hdsr := hc.dsr
    have hlive : p.isLiveDsr = p.isDSRPacket := by simp [OutstandingPacket.isLiveDsr, hlost]
    have hkept : (loop.counters.retired p).dsrCount = loop.counters.dsrCount := by
      unfold OutstandingsCounters.retired OutstandingsCounters.eraseEvent
      cases p.associatedEvent <;> rfl
    rw [List.cons_append, List.countP_cons, hlive] at hdsr
    dsimp only
    rw [hkept, hdsr]
    omega
  · rcases hrtt with hrtt | hlargest
    · dsimp only
      rw [hrtt]
      exact hc.sample.imp_right fun hne q hq => hne q (List.mem_cons_of_mem p hq)
    · refine .inr fun q hq => ?_
      have hlt := hbelow q hq
      omega
  · refine ⟨done ++ [p], by rw [hall, List.append_assoc]; rfl, ?_⟩
    dsimp only
    rw [hinsert, List.map_append, hcontexts, List.filter_append]
    simp [hlost]

theorem Contract.Collecting.ackPacket (hc : C.Collecting frame start kept all loop (p :: todo)) :
    Ends (Allowed A E) (ackPacket h frame times loop p)
      (fun s => C.Collecting frame start kept all s todo) :=
  Ends.ite (fun hlost => hc.ackLost hlost)
    fun hlost => hc.ackOutstanding (Bool.eq_false_iff.mpr hlost)

/-! ### The ack visitor -/

variable {frames : List QuicWriteFrame} {details : DetailsPerStream}

theorem visitFrames_all {Q : σ → Prop}
    (hfold : Ends E (frames.foldlM (fun s frame => h.ackVisitor p frame s) s) Q) :
    Ends E (visitFrames h p true frames details s) (fun r => Q r.2) := by
  induction frames generalizing details s with
  | nil => exact hfold
  | cons frame frames ih =>
    rw [List.foldlM_cons] at hfold
    rw [visitFrames, if_neg (by simp)]
    cases hx : h.ackVisitor p frame s with
    | error e =>
      rw [hx] at hfold
      exact hfold
    | ok t =>
      rw [hx] at hfold
      exact ih hfold

/-- Of the frames of a processed clone only ack frames are visited. -/
theorem visitFrames_processed {I : σ → Prop}
    (hack : ∀ s, I s → Ends E (h.ackVisitor p .writeAck s) I) (hs : I s) :
    Ends E (visitFrames h p false frames details s) (fun r => I r.2) := by
  induction frames generalizing details s with
  | nil => exact hs
  | cons frame frames ih =>
    rw [visitFrames]
    refine Ends.ite (fun _ => ih hs) fun hframe => ?_
    have hwriteAck : frame = .writeAck := by simpa using hframe
    subst hwriteAck
    exact (hack s hs).bind fun t ht => ih ht

/-- What an entry of `ackedPackets` tells about the packet. -/
def AckPacket.Reports (a : AckPacket) (p : OutstandingPacket) : Prop :=
  a.packetNum = p.packetNum ∧ a.time = p.time

theorem Contract.visitPackets (C : Contract h E) {contexts : List (OutstandingPacket × Bool)}
    {waiting cs : List RegularQuicWritePacket} {acked : List AckPacket}
    {reported : List OutstandingPacket}
    (hcopy : List.Forall₂ (fun a x => C.Copy a x.1.sent s) waiting (contexts.filter (·.2)))
    (hholds : C.Holds (waiting ++ cs) s) (hacked : List.Forall₂ AckPacket.Reports acked reported) :
    Ends E (visitPackets h contexts acked s) (fun r => C.Holds cs r.2 ∧ C.Later s r.2 ∧
      List.Forall₂ AckPacket.Reports r.1 (reported ++ contexts.map (·.1))) := by
  induction contexts generalizing waiting acked reported s with
  | nil =>
    cases hcopy
    exact .ok ⟨hholds, C.later_refl s, by simpa using hacked⟩
  | cons x contexts ih =>
    obtain ⟨p, processAllFrames⟩ := x
    rw [MasqueQuic.visitPackets]
    cases processAllFrames with
    | true =>
      rw [List.filter_cons_of_pos rfl] at hcopy
      obtain _ | ⟨ha, hcopy⟩ := hcopy
      refine (visitFrames_all (C.ack hholds ha)).bind fun r hr => ?_
      refine (ih (forall₂_later hcopy hr.2) hr.1
        (List.rel_append hacked (.cons ⟨rfl, rfl⟩ .nil))).imp fun u hu => ?_
      refine ⟨hu.1, C.later_trans hr.2 hu.2.1, ?_⟩
      rw [List.map_cons, ← List.singleton_append, ← List.append_assoc]
      exact hu.2.2
    | false =>
      rw [List.filter_cons_of_neg (by simp)] at hcopy
      have hvisit : Ends E (visitFrames h p false p.frames [] s)
          (fun r => C.Holds (waiting ++ cs) r.2 ∧ C.Later s r.2) := by
        refine visitFrames_processed (I := fun t => C.Holds (waiting ++ cs) t ∧ C.Later s t)
          (fun t ht => ?_) ⟨hholds, C.later_refl s⟩
        exact (C.ackProcessed ht.1).imp fun u hu => ⟨hu.1, C.later_trans ht.2 hu.2⟩
      refine hvisit.bind fun r hr => ?_
      refine (ih (forall₂_later hcopy hr.2) hr.1
        (List.rel_append hacked (.cons ⟨rfl, rfl⟩ .nil))).imp fun u hu => ?_
      refine ⟨hu.1, C.later_trans hr.2 hu.2.1, ?_⟩
      rw [List.map_cons, ← List.singleton_append, ← List.append_assoc]
      exact hu.2.2

/-! ### The ack frame -/

theorem countP_isCloned_le (packets : List OutstandingPacket) :
    packets.countP (·.isCloned .initial) + packets.countP (·.isCloned .handshake) +
      packets.countP (·.isCloned .appData) + packets.countP (·.declaredLost) ≤ packets.length := by
  induction packets with
  | nil => simp
  | cons p packets ih =>
    simp only [List.countP_cons, List.length_cons]
    have hone : (if p.isCloned .initial then 1 else 0) + (if p.isCloned .handshake then 1 else 0) +
        (if p.isCloned .appData then 1 else 0) + (if p.declaredLost then 1 else 0) ≤ 1 := by
      unfold OutstandingPacket.isCloned
      cases p.declaredLost <;> cases p.packetNumberSpace <;> cases p.associatedEvent.isSome <;>
        decide
    omega

theorem Tally.numClonedPackets_le (ht : Tally k packets) :
    k.numClonedPackets ≤ packets.length - k.declaredLostCount := by
  have hle := countP_isCloned_le packets
  rw [OutstandingsCounters.numClonedPackets, ht.clonedPacketCount, ht.clonedPacketCount,
    ht.clonedPacketCount, ht.declaredLostCount]
  omega

/-- The acknowledged packets come with strictly falling numbers. -/
theorem descending_acks (hsorted : SortedPackets packets)
    (hnodup : (packets.map (·.ownEvent)).Nodup) :
    (packets.filter (acks pnSpace frame.ackBlocks)).reverse.Pairwise
      fun p q => q.packetNum < p.packetNum := by
  rw [List.pairwise_reverse]
  have hdistinct : (packets.filter (acks pnSpace frame.ackBlocks)).Pairwise
      fun p q => p.packetNum ≤ q.packetNum ∧ p.ownEvent ≠ q.ownEvent :=
    ((hsorted.and (List.pairwise_map.mp hnodup)).filter _)
  refine hdistinct.imp_of_mem fun {p q} hp hq hpq => ?_
  have hspace : p.packetNumberSpace = q.packetNumberSpace :=
    (acks_iff.mp (List.mem_filter.mp hp).2).1.trans
      (acks_iff.mp (List.mem_filter.mp hq).2).1.symm
  refine lt_of_le_of_ne hpq.1 fun hnum => hpq.2 ?_
  rw [OutstandingPacket.ownEvent, OutstandingPacket.ownEvent, hspace, hnum]

/-- What `processAckFrame` has done when it returns. -/
structure Contract.AfterAck (C : Contract h E) (c : SendConn σ) (pnSpace : PacketNumberSpace)
    (frame : ReadAckFrame) (times : AckTimes) (c' : SendConn σ) (acked : List AckPacket) :
    Prop where
  inv : C.Inv c'
  later : C.Later c.rest c'.rest
  nextKept : c.ackStates.NextKept c'.ackStates
  reports : List.Forall₂ AckPacket.Reports acked
    (c.outstandings.packets.filter fun p => acks pnSpace frame.ackBlocks p && !p.declaredLost)
  queue : ∃ front back,
    (front ++ back).map (·.unmarked) =
      (c.outstandings.packets.filter fun p => !acks pnSpace frame.ackBlocks p).map (·.unmarked) ∧
    (∀ p ∈ front, IsOld times.ackReceiveTime (calculatePTO c') pnSpace p) ∧
    c'.outstandings.packets = front.filter (fun p => !own pnSpace p) ++ back

/-- Every packet that is left was there before. -/
theorem Contract.AfterAck.remains {c' : SendConn σ} {acked : List AckPacket}
    (ha : C.AfterAck c pnSpace frame times c' acked) (hp : p ∈ c'.outstandings.packets) :
    ∃ q ∈ c.outstandings.packets, acks pnSpace frame.ackBlocks q = false ∧
      q.unmarked = p.unmarked := by
  obtain ⟨front, back, hmap, -, hpackets⟩ := ha.queue
  have hmem : p ∈ front ++ back := by
    rw [hpackets] at hp
    exact (List.filter_sublist.append (List.Sublist.refl back)).subset hp
  obtain ⟨q, hq, hmark⟩ := exists_unmarked hmap hmem
  obtain ⟨hq, hnot⟩ := List.mem_filter.mp hq
  exact ⟨q, hq, by simpa using hnot, hmark⟩

theorem Contract.AfterAck.continues {c' : SendConn σ} {acked : List AckPacket}
    (ha : C.AfterAck c pnSpace frame times c' acked) : c.Continues c' fun _ => False where
  states s := by
    rw [← Option.isSome_map, ha.nextKept s, Option.isSome_map]
  spaces p hp := by
    obtain ⟨q, hq, -, hmark⟩ := ha.remains hp
    exact .inr ⟨q, hq, congrArg (·.packetNumberSpace) hmark⟩

/-- The spurious losses of an ack frame do no harm. -/
def Contract.SpuriousMet (C : Contract h E) (pnSpace : PacketNumberSpace) (frame : ReadAckFrame)
    (c : SendConn σ) : Prop :=
  c.transportSettings.removeFromLossBufferOnSpurious = true →
    Meets (spuriousStep h) C.Spurious c.rest
      (spuriousFrames (c.outstandings.packets.filter (acks pnSpace frame.ackBlocks)).reverse)

theorem Contract.Inv.collectAcked (hc : C.Inv c) (hspurious : C.SpuriousMet pnSpace frame c) :
    Ends (Allowed A E) (collectAcked h pnSpace frame times c)
      (fun r => r.1 = c.outstandings.packets.filter (fun p => !acks pnSpace frame.ackBlocks p) ∧
        C.Collecting frame c.rest r.1
          (c.outstandings.packets.filter (acks pnSpace frame.ackBlocks)).reverse r.2 []) := by
  rw [collectAcked_eq h frame times c hc.sorted]
  have hperm : ((c.outstandings.packets.filter (acks pnSpace frame.ackBlocks)).reverse ++
      c.outstandings.packets.filter (fun p => !acks pnSpace frame.ackBlocks p)).Perm
        c.outstandings.packets :=
    ((List.reverse_perm _).append_right _).trans (List.filter_append_perm _ _)
  have hstart : C.Collecting frame c.rest
      (c.outstandings.packets.filter fun p => !acks pnSpace frame.ackBlocks p)
      (c.outstandings.packets.filter (acks pnSpace frame.ackBlocks)).reverse
      (AckLoop.start c) (c.outstandings.packets.filter (acks pnSpace frame.ackBlocks)).reverse := {
    descending := descending_acks hc.sorted hc.numbered.nodup
    above := List.forall_mem_nil _
    upholds := ⟨[], .nil, hc.scanned.upholds.perm hperm.symm⟩
    dsr := by
      rw [hperm.countP_eq]
      exact hc.scanned.dsr
    spurious := hspurious
    sample := .inl rfl
    later := C.later_refl _
    collected := ⟨[], rfl, rfl⟩ }
  have hfold := Ends.foldlM (E := Allowed A E) (f := ackPacket h frame times)
    (I := C.Collecting frame c.rest
      (c.outstandings.packets.filter fun p => !acks pnSpace frame.ackBlocks p)
      (c.outstandings.packets.filter (acks pnSpace frame.ackBlocks)).reverse)
    (fun _ _ _ hl => hl.ackPacket) hstart
  exact hfold.bind fun loop hl => .ok ⟨rfl, hl⟩

/-- All packets have been collected, and the ack visitor has been run. -/
theorem Contract.Collecting.visited (hl : C.Collecting frame start kept all loop []) :
    Ends E (MasqueQuic.visitPackets h loop.packetsWithHandlerContext.reverse [] loop.rest)
      (fun r => C.Scanned
        { loop.counters with dsrCount := loop.counters.dsrCount - loop.dsrPacketsAcked } kept r.2 ∧
        C.Later start r.2 ∧
        List.Forall₂ AckPacket.Reports r.1 (all.filter fun p => !p.declaredLost).reverse) := by
  obtain ⟨waiting, hcopy, hu⟩ := hl.upholds
  obtain ⟨done, hall, hcontexts⟩ := hl.collected
  have hwaiting : List.Forall₂ (fun a x => C.Copy a x.1.sent loop.rest) waiting.reverse
      (loop.packetsWithHandlerContext.reverse.filter (·.2)) := by
    rw [List.filter_reverse]
    exact List.rel_reverse hcopy
  have hholds := C.holds_perm ((List.reverse_perm waiting).symm.append_right _) hu.holds
  refine (C.visitPackets hwaiting hholds .nil).imp fun r hr => ?_
  obtain ⟨hholds', hlater, hreports⟩ := hr
  have hu' : C.Upholds loop.counters kept [] r.2 := hu.later hholds' hlater
  refine ⟨⟨⟨hu'.tally.congr rfl rfl rfl rfl, hu'.nodup, hu'.copies, hu'.holds⟩, ?_⟩,
    C.later_trans hl.later hlater, ?_⟩
  · have hcount : loop.counters.dsrCount = kept.countP (·.isLiveDsr) + loop.dsrPacketsAcked :=
      hl.dsr
    change loop.counters.dsrCount - loop.dsrPacketsAcked = _
    omega
  · rw [List.nil_append, List.map_reverse, hcontexts] at hreports
    rw [hall, List.append_nil]
    exact hreports

/-- The acknowledged packets have left the queue. -/
theorem Contract.Inv.ackOutstandings (hc : C.Inv c) (hspurious : C.SpuriousMet pnSpace frame c) :
    Ends (Allowed A E) (ackOutstandings h pnSpace frame times c)
      (fun r => C.Inv r.1 ∧ C.Later c.rest r.1.rest ∧ r.1.ackStates = c.ackStates ∧
        r.1.outstandings.packets =
          c.outstandings.packets.filter (fun p => !acks pnSpace frame.ackBlocks p) ∧
        List.Forall₂ AckPacket.Reports r.2.2
          (c.outstandings.packets.filter
            fun p => acks pnSpace frame.ackBlocks p && !p.declaredLost)) := by
  unfold MasqueQuic.ackOutstandings
  refine (hc.collectAcked hspurious).bind fun r hr => ?_
  obtain ⟨packets, loop⟩ := r
  obtain ⟨rfl, hl⟩ := hr
  dsimp only at hl ⊢
  refine (ends_liftHandler hl.visited).bind fun r hr => ?_
  obtain ⟨ackedPackets, rest⟩ := r
  obtain ⟨hscanned, hlater, hreports⟩ := hr
  have hle : loop.dsrPacketsAcked ≤ loop.counters.dsrCount := by
    rw [hl.dsr]
    exact Nat.le_add_left _ _
  refine (ends_checkThat (.inl hle)).bind fun _ _ => ?_
  refine hscanned.numOutstanding.bind fun n hn => ?_
  have hcloned := hscanned.upholds.tally.numClonedPackets_le
  rw [← hn] at hcloned
  refine (ends_checkThat (.inl hcloned)).bind fun _ _ => .ok ⟨?_, hlater, rfl, rfl, ?_⟩
  · exact ⟨hscanned, hc.numbered.sublist List.filter_sublist, hc.sorted.filter _,
      hc.keyed.sublist List.filter_sublist⟩
  · rw [List.filter_reverse, List.reverse_reverse, List.filter_filter] at hreports
    simpa [Bool.and_comm] using hreports

theorem Contract.Inv.processAckFrame (hc : C.Inv c) (hspurious : C.SpuriousMet pnSpace frame c)
    (hdsr : A .dsrPacket ∨ ∀ p ∈ c.outstandings.packets, p.DsrFrames)
    (hack : A .ackState ∨ (c.ackStates.get pnSpace).isSome = true) :
    Ends (Allowed A E) (processAckFrame h pnSpace frame times c)
      (fun r => C.AfterAck c pnSpace frame times r.1 r.2) := by
  rw [processAckFrame_eq]
  refine (hc.ackOutstandings hspurious).bind fun r hr => ?_
  obtain ⟨c₁, newly, acked⟩ := r
  obtain ⟨hinv, hlater, hstates, hpackets, hreports⟩ := hr
  dsimp only at hinv hlater hstates hpackets hreports ⊢
  have hdsr' : A .dsrPacket ∨ ∀ p ∈ c₁.outstandings.packets, p.DsrFrames := by
    rw [hpackets]
    exact hdsr.imp_right fun hall p hp => hall p (List.mem_of_mem_filter hp)
  refine (hinv.handleAckForLoss _ _ _ hdsr' (hstates ▸ hack)).bind fun c₂ hc₂ => ?_
  obtain ⟨hinv₂, hlater₂, hnext, -, -, hmap⟩ := hc₂
  refine (hinv₂.clearOldOutstandingPackets times.ackReceiveTime).bind fun c₃ hc₃ => .ok ?_
  obtain ⟨hinv₃, hrest, hack₃, hpto, front, back, hsplit, hold, hqueue⟩ := hc₃
  refine ⟨hinv₃, ?_, ?_, hreports, front, back, ?_, hpto ▸ hold, hqueue⟩
  · rw [hrest]
    exact C.later_trans hlater hlater₂
  · rw [hack₃, ← hstates]
    exact hnext
  · rw [← hsplit, hmap, hpackets]

end MasqueQuic
