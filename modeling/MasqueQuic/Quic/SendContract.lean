/-
New packets, clones and rejected 0-RTT packets keep every contract.

A packet that is sent takes the next number of its space, so it is new to the queue and to
the events. A clone is sent for an event; the packet that is cloned first becomes part of
the event, and goes on answering for the frames.
-/

import MasqueQuic.Quic.AckContract

namespace MasqueQuic

variable {σ ε : Type} {h : Handlers σ ε} {E : ε → Prop} {A : SendCheck → Prop}
  {C : Contract h E} {k k' : OutstandingsCounters} {p : OutstandingPacket}
  {packets packets' : List OutstandingPacket} {event : PacketEvent}
  {pending : List RegularQuicWritePacket} {s t : σ} {c : SendConn σ} {pnSpace : PacketNumberSpace}

/-! ### A packet joins the queue -/

theorem Tally.addPlain (ht : Tally k packets) (hlost : p.declaredLost = false)
    (hassoc : p.associatedEvent = none) :
    Tally (k.increasePacketCount p.packetNumberSpace) (p :: packets) := by
  refine ⟨fun s => ?_, fun s => ?_, ?_, fun event hevent => ?_,
    List.forall_mem_cons.mpr ⟨?_, ht.eventSpace⟩⟩
  · have hplain : p.isPlain s = decide (p.packetNumberSpace = s) := by
      simp [OutstandingPacket.isPlain, hassoc, hlost, beq_eq_decide]
    have hcount := ht.packetCount s
    rw [List.countP_cons, hplain]
    change Function.update k.packetCount p.packetNumberSpace _ s = _ + liveEvents s k.packetEvents
    by_cases hs : s = p.packetNumberSpace
    · rw [hs, Function.update_self, ← hs, hcount]
      simp only [hs, decide_true, if_true]
      omega
    · rw [Function.update_of_ne hs, hcount]
      simp [Ne.symm hs]
  · have hcloned : p.isCloned s = false := by simp [OutstandingPacket.isCloned, hassoc]
    rw [List.countP_cons, hcloned]
    exact ht.clonedPacketCount s
  · rw [List.countP_cons, hlost]
    exact ht.declaredLostCount
  · obtain ⟨q, hq, hcarried⟩ := ht.carried event hevent
    exact ⟨q, List.mem_cons_of_mem p hq, hcarried⟩
  · intro event hevent
    rw [hassoc] at hevent
    cases hevent

theorem Tally.addClone (ht : Tally k packets) (hlost : p.declaredLost = false)
    (hassoc : p.associatedEvent = some event)
    (hspace : event.packetNumberSpace = p.packetNumberSpace) :
    Tally (k.increaseClonedPacketCount p.packetNumberSpace) (p :: packets) := by
  refine ⟨fun s => ?_, fun s => ?_, ?_, fun event hevent => ?_,
    List.forall_mem_cons.mpr ⟨?_, ht.eventSpace⟩⟩
  · have hplain : p.isPlain s = false := by simp [OutstandingPacket.isPlain, hassoc]
    rw [List.countP_cons, hplain]
    exact ht.packetCount s
  · have hcloned : p.isCloned s = decide (p.packetNumberSpace = s) := by
      simp [OutstandingPacket.isCloned, hassoc, hlost, beq_eq_decide]
    have hcount := ht.clonedPacketCount s
    rw [List.countP_cons, hcloned]
    change Function.update k.clonedPacketCount p.packetNumberSpace _ s = _
    by_cases hs : s = p.packetNumberSpace
    · rw [hs, Function.update_self, ← hs, hcount]
      simp [hs]
    · rw [Function.update_of_ne hs, hcount]
      simp [Ne.symm hs]
  · rw [List.countP_cons, hlost]
    exact ht.declaredLostCount
  · obtain ⟨q, hq, hcarried⟩ := ht.carried event hevent
    exact ⟨q, List.mem_cons_of_mem p hq, hcarried⟩
  · intro event' hevent
    rw [hassoc] at hevent
    cases hevent
    exact hspace

/-- A new packet that is no clone answers for its frames. -/
theorem Contract.Upholds.addPlain (hu : C.Upholds k packets [] s) (hlost : p.declaredLost = false)
    (hassoc : p.associatedEvent = none) (hfresh : ∀ q ∈ packets, q.ownEvent ≠ p.ownEvent)
    (hlater : C.Later s t)
    (hholds : C.Holds (p.sent :: (packets.filter k.carries).map (·.sent)) t) :
    C.Upholds (k.increasePacketCount p.packetNumberSpace) (p :: packets) [] t := by
  refine ⟨hu.tally.addPlain hlost hassoc, ?_, ?_, ?_⟩
  · rw [List.map_cons, List.nodup_cons]
    refine ⟨fun hmem => ?_, hu.nodup⟩
    obtain ⟨q, hq, hown⟩ := List.mem_map.mp hmem
    exact hfresh q hq hown
  · intro q hq r hr hqlost hrlost hsome hevent hprocessed hown
    have hold : ∀ x ∈ p :: packets, x.associatedEvent.isSome = true → x ∈ packets := by
      intro x hx hxsome
      rcases List.mem_cons.mp hx with rfl | hx
      · rw [hassoc] at hxsome
        cases hxsome
      · exact hx
    exact C.copy_later (hu.copies q (hold q hq hsome) r (hold r hr (hevent ▸ hsome)) hqlost hrlost
      hsome hevent hprocessed hown) hlater
  · have hcarries : k.carries p = true := by
      simp [OutstandingsCounters.carries, hlost, hassoc]
    change C.Holds ([] ++ ((p :: packets).filter k.carries).map (·.sent)) t
    rwa [List.filter_cons_of_pos hcarries]

/-- A clone answers for nothing while the first packet of its event is there. -/
theorem Contract.Upholds.addClone (hu : C.Upholds k packets [] s) (hlost : p.declaredLost = false)
    (hassoc : p.associatedEvent = some event)
    (hspace : event.packetNumberSpace = p.packetNumberSpace) (hnew : event ≠ p.ownEvent)
    (hfresh : ∀ q ∈ packets, q.ownEvent ≠ p.ownEvent) (hlater : C.Later s t)
    (hcopy : ∀ q ∈ packets, q.declaredLost = false → q.associatedEvent = some event →
      q.ownEvent = event → C.Copy q.sent p.sent t)
    (hholds : C.Holds ((packets.filter k.carries).map (·.sent)) t) :
    C.Upholds (k.increaseClonedPacketCount p.packetNumberSpace) (p :: packets) [] t := by
  refine ⟨hu.tally.addClone hlost hassoc hspace, ?_, ?_, ?_⟩
  · rw [List.map_cons, List.nodup_cons]
    refine ⟨fun hmem => ?_, hu.nodup⟩
    obtain ⟨q, hq, hown⟩ := List.mem_map.mp hmem
    exact hfresh q hq hown
  · intro q hq r hr hqlost hrlost hsome hevent hprocessed hown
    have hr' : r ∈ packets := by
      rcases List.mem_cons.mp hr with rfl | hr
      · rw [hassoc] at hown
        exact absurd (Option.some.inj hown) hnew
      · exact hr
    rcases List.mem_cons.mp hq with rfl | hq
    · rw [hassoc] at hevent
      rw [← hevent] at hown
      exact hcopy r hr' hrlost hevent.symm (Option.some.inj hown).symm
    · exact C.copy_later (hu.copies q hq r hr' hqlost hrlost hsome hevent hprocessed hown) hlater
  · have hcarries : ¬ k.carries p = true := by
      simp [OutstandingsCounters.carries, hassoc, hnew]
    change C.Holds ([] ++ ((p :: packets).filter k.carries).map (·.sent)) t
    rwa [List.filter_cons_of_neg hcarries]

/-! ### A packet becomes part of its own event -/

def OutstandingPacket.withOwnEvent (p : OutstandingPacket) : OutstandingPacket :=
  { p with associatedEvent := some p.ownEvent }

/-- The counters after a packet has become part of a new event. -/
def OutstandingsCounters.withEvent (k : OutstandingsCounters) (event : PacketEvent) :
    OutstandingsCounters :=
  { k with packetEvents := insert event k.packetEvents }.increaseClonedPacketCount
    event.packetNumberSpace

/-- The event of a packet that is part of no event is not live. -/
theorem Tally.ownEvent_notMem (ht : Tally k (p :: packets)) (hassoc : p.associatedEvent = none)
    (hnodup : ((p :: packets).map (·.ownEvent)).Nodup) : p.ownEvent ∉ k.packetEvents := by
  intro hlive
  obtain ⟨q, hq, -, hqassoc, hown⟩ := ht.carried _ hlive
  rcases List.mem_cons.mp hq with rfl | hq
  · rw [hassoc] at hqassoc
    cases hqassoc
  · rw [List.map_cons, List.nodup_cons] at hnodup
    exact hnodup.1 (hown ▸ List.mem_map_of_mem hq)

theorem Tally.makeEvent (ht : Tally k (p :: packets)) (hlost : p.declaredLost = false)
    (hassoc : p.associatedEvent = none) (hnodup : ((p :: packets).map (·.ownEvent)).Nodup) :
    Tally (k.withEvent p.ownEvent) (p.withOwnEvent :: packets) := by
  have hnew := ht.ownEvent_notMem hassoc hnodup
  obtain ⟨hspace, hspaces⟩ := List.forall_mem_cons.mp ht.eventSpace
  refine ⟨fun s => ?_, fun s => ?_, ?_, fun event hevent => ?_,
    List.forall_mem_cons.mpr ⟨?_, hspaces⟩⟩
  · have hcount := ht.packetCount s
    have hbefore : p.isPlain s = decide (p.packetNumberSpace = s) := by
      simp [OutstandingPacket.isPlain, hassoc, hlost, beq_eq_decide]
    have hafter : p.withOwnEvent.isPlain s = false := by
      simp [OutstandingPacket.isPlain, OutstandingPacket.withOwnEvent]
    rw [List.countP_cons, hbefore] at hcount
    rw [List.countP_cons, hafter]
    change k.packetCount s = _ + liveEvents s (insert p.ownEvent k.packetEvents)
    rw [liveEvents_insert hnew, hcount]
    change _ = _ + (_ + if p.packetNumberSpace = s then 1 else 0)
    simp only [decide_eq_true_eq, Bool.false_eq_true, if_false]
    omega
  · have hcount := ht.clonedPacketCount s
    have hbefore : p.isCloned s = false := by simp [OutstandingPacket.isCloned, hassoc]
    have hafter : p.withOwnEvent.isCloned s = decide (p.packetNumberSpace = s) := by
      change (p.packetNumberSpace == s && !p.declaredLost && true) = _
      simp [hlost, beq_eq_decide]
    rw [List.countP_cons, hbefore] at hcount
    rw [List.countP_cons, hafter]
    change Function.update k.clonedPacketCount p.packetNumberSpace _ s = _
    by_cases hs : s = p.packetNumberSpace
    · subst hs
      rw [Function.update_self]
      change k.clonedPacketCount p.packetNumberSpace + 1 = _
      rw [hcount]
      simp
    · rw [Function.update_of_ne hs, hcount]
      simp [Ne.symm hs]
  · exact ht.declaredLostCount
  · rcases Finset.mem_insert.mp hevent with rfl | hevent
    · exact ⟨p.withOwnEvent, List.mem_cons_self, hlost, rfl, rfl⟩
    · obtain ⟨q, hq, hqlost, hqassoc, hown⟩ := ht.carried event hevent
      rcases List.mem_cons.mp hq with rfl | hq
      · rw [hassoc] at hqassoc
        cases hqassoc
      · exact ⟨q, List.mem_cons_of_mem _ hq, hqlost, hqassoc, hown⟩
  · intro event hevent
    cases hevent
    rfl

theorem Contract.Upholds.makeEvent (hu : C.Upholds k (p :: packets) [] s)
    (hlost : p.declaredLost = false) (hassoc : p.associatedEvent = none)
    (hfirst : ∀ q ∈ packets, q.associatedEvent ≠ some p.ownEvent) :
    C.Upholds (k.withEvent p.ownEvent) (p.withOwnEvent :: packets) [] s := by
  have hlive : ∀ q ∈ packets, ∀ event, q.associatedEvent = some event →
      (event ∈ insert p.ownEvent k.packetEvents ↔ event ∈ k.packetEvents) := by
    intro q hq event hevent
    rw [Finset.mem_insert, or_iff_right]
    rintro rfl
    exact hfirst q hq hevent
  refine ⟨hu.tally.makeEvent hlost hassoc hu.nodup, hu.nodup, ?_, ?_⟩
  · intro q hq r hr hqlost hrlost hsome hevent hprocessed hown
    rcases List.mem_cons.mp hq with rfl | hq
    · rcases List.mem_cons.mp hr with rfl | hr
      · exact C.copy_refl _ s
      · exact absurd hevent.symm (hfirst r hr)
    · rcases List.mem_cons.mp hr with rfl | hr
      · exact absurd hevent (hfirst q hq)
      · refine hu.copies q (List.mem_cons_of_mem p hq) r (List.mem_cons_of_mem p hr) hqlost hrlost
          hsome hevent ?_ hown
        obtain ⟨event, hq'⟩ := Option.isSome_iff_exists.mp hsome
        simp only [OutstandingsCounters.processed, hq', decide_eq_false_iff_not, not_not]
          at hprocessed ⊢
        exact (hlive q hq event hq').mp hprocessed
  · have hbefore : k.carries p = true := by simp [OutstandingsCounters.carries, hlost, hassoc]
    have hafter : (k.withEvent p.ownEvent).carries p.withOwnEvent = true := by
      change (!p.declaredLost && (decide (p.ownEvent ∈ insert p.ownEvent k.packetEvents) &&
        p.ownEvent == p.ownEvent)) = true
      simp [hlost]
    have hothers : ∀ q ∈ packets, (k.withEvent p.ownEvent).carries q = k.carries q := by
      intro q hq
      unfold OutstandingsCounters.carries
      cases hq' : q.associatedEvent with
      | none => rfl
      | some event =>
        change (!q.declaredLost && (decide (event ∈ insert p.ownEvent k.packetEvents) && _)) = _
        simp only [hlive q hq event hq']
    have hholds := hu.holds
    rw [List.filter_cons_of_pos hbefore] at hholds
    rw [List.filter_cons_of_pos hafter, List.filter_congr hothers]
    exact hholds

theorem set_perm {i : Nat} (hi : packets[i]? = some p) (q : OutstandingPacket) :
    ∃ others, packets.Perm (p :: others) ∧ (packets.set i q).Perm (q :: others) ∧
      ∀ r ∈ others, r ∈ packets := by
  obtain ⟨hlt, hget⟩ := List.getElem?_eq_some_iff.mp hi
  have hsplit : packets = packets.take i ++ p :: packets.drop (i + 1) := by
    rw [← hget, List.getElem_cons_drop, List.take_append_drop]
  refine ⟨packets.take i ++ packets.drop (i + 1), ?_, ?_, ?_⟩
  · nth_rewrite 1 [hsplit]
    exact List.perm_middle
  · rw [List.set_eq_take_append_cons_drop, if_pos hlt]
    exact List.perm_middle
  · intro r hr
    rcases List.mem_append.mp hr with hr | hr
    · exact List.mem_of_mem_take hr
    · exact List.mem_of_mem_drop hr

theorem map_set_eq {α : Type} {f : OutstandingPacket → α} {i : Nat} {q : OutstandingPacket}
    (hf : f q = f p) (hi : packets[i]? = some p) : (packets.set i q).map f = packets.map f := by
  obtain ⟨hlt, hget⟩ := List.getElem?_eq_some_iff.mp hi
  have hlt' : i < (packets.map f).length := by simpa using hlt
  have hself : (packets.map f)[i] = f q := by rw [List.getElem_map, hget, hf]
  rw [List.map_set, ← hself, List.set_getElem_self]

theorem Numbered.makeEvent {ackStates : AckStates} (hn : Numbered (p :: packets) ackStates) :
    Numbered (p.withOwnEvent :: packets) ackStates := by
  obtain ⟨hbelow, hbelows⟩ := List.forall_mem_cons.mp hn.below
  obtain ⟨-, heventBelow⟩ := List.forall_mem_cons.mp hn.eventBelow
  refine ⟨hn.nodup, List.forall_mem_cons.mpr ⟨hbelow, hbelows⟩,
    List.forall_mem_cons.mpr ⟨fun event hevent a ha => ?_, heventBelow⟩,
    fun q hq r hr hassoc => ?_⟩
  · cases hevent
    exact hbelow a ha
  · rcases List.mem_cons.mp hr with rfl | hr
    · rfl
    · rcases List.mem_cons.mp hq with rfl | hq
      · -- no other packet has the number of `p`
        have hown : p.ownEvent = r.ownEvent := Option.some.inj hassoc
        have hnodup := hn.nodup
        rw [List.map_cons, List.nodup_cons] at hnodup
        exact absurd (hown ▸ List.mem_map_of_mem hr) hnodup.1
      · exact hn.first q (List.mem_cons_of_mem p hq) r (List.mem_cons_of_mem p hr) hassoc

/-- A packet of the queue is cloned. -/
structure Contract.Cloned (C : Contract h E) (c : SendConn σ) (p : OutstandingPacket)
    (r : PacketEvent × OutstandingsInfo) : Prop where
  inv : C.Inv { c with outstandings := r.2 }
  live : r.1 ∈ r.2.packetEvents
  space : r.1.packetNumberSpace = p.packetNumberSpace
  below : ∀ a, c.ackStates.get r.1.packetNumberSpace = some a → r.1.packetNumber < a.nextPacketNum
  first : ∀ q ∈ r.2.packets, q.ownEvent = r.1 → q.associatedEvent = some r.1
  copy : ∀ q ∈ r.2.packets, q.declaredLost = false → q.associatedEvent = some r.1 →
    q.ownEvent = r.1 → C.Copy q.sent p.sent c.rest

theorem Contract.Inv.cloneOutstandingPacket (hc : C.Inv c) {i : Nat}
    (hi : c.outstandings.packets[i]? = some p)
    (hmay : mayClone c.outstandings.toOutstandingsCounters pnSpace p = true) :
    C.Cloned c p (cloneOutstandingPacket c.outstandings i p) := by
  have hp : p ∈ c.outstandings.packets := List.mem_of_getElem? hi
  have hlost : p.declaredLost = false := by
    simp only [mayClone, Bool.and_eq_true, Bool.not_eq_true'] at hmay
    exact hmay.1.1.1
  have hprocessed : c.outstandings.processed p = false := by
    simp only [mayClone, Bool.and_eq_true, Bool.not_eq_true'] at hmay
    exact hmay.2
  have hu := hc.scanned.upholds
  unfold MasqueQuic.cloneOutstandingPacket
  cases hassoc : p.associatedEvent with
  | some event =>
    have hlive : event ∈ c.outstandings.packetEvents := by
      simpa [OutstandingsCounters.processed, hassoc] using hprocessed
    refine ⟨hc, hlive, hu.tally.eventSpace p hp event hassoc,
      fun a ha => hc.numbered.eventBelow p hp event hassoc a ha, ?_, ?_⟩
    · rintro q hq rfl
      exact hc.numbered.first p hp q hq hassoc
    · rintro q hq hqlost hqassoc rfl
      exact hu.copies p hp q hq hlost hqlost (by rw [hassoc]; rfl) (hassoc.trans hqassoc.symm)
        hprocessed hqassoc
  | none =>
    change C.Cloned c p (p.ownEvent, ⟨c.outstandings.withEvent p.ownEvent,
      c.outstandings.packets.set i p.withOwnEvent⟩)
    obtain ⟨others, hbefore, hafter, hothers⟩ := set_perm hi p.withOwnEvent
    have hnumbered := (hc.numbered.perm hbefore).makeEvent
    have hfirst : ∀ q ∈ others, q.associatedEvent ≠ some p.ownEvent := by
      intro q hq hqassoc
      have hown := hc.numbered.first q (hothers q hq) p hp hqassoc
      rw [hassoc] at hown
      cases hown
    have hscanned := hc.scanned.perm hbefore
    refine ⟨⟨⟨?_, ?_⟩, hnumbered.perm hafter.symm, ?_, ?_⟩, Finset.mem_insert_self _ _, rfl,
      fun a ha => hc.numbered.below p hp a ha, ?_, ?_⟩
    · exact (hscanned.upholds.makeEvent hlost hassoc hfirst).perm hafter.symm
    · rw [hafter.countP_eq]
      exact hscanned.dsr
    · change SortedPackets (c.outstandings.packets.set i p.withOwnEvent)
      have hnums : (c.outstandings.packets.set i p.withOwnEvent).map (·.packetNum) =
          c.outstandings.packets.map (·.packetNum) :=
        map_set_eq (by rfl : p.withOwnEvent.packetNum = p.packetNum) hi
      rw [sortedPackets_iff, hnums]
      exact sortedPackets_iff.mp hc.sorted
    · intro q hq
      rcases List.mem_cons.mp (hafter.mem_iff.mp hq) with rfl | hq
      · exact hc.keyed p hp
      · exact hc.keyed q (hothers q hq)
    · intro q hq hown
      have hpw : p.withOwnEvent ∈ p.withOwnEvent :: others := List.mem_cons_self
      rw [← hown]
      exact hnumbered.first _ hpw q (hafter.mem_iff.mp hq) (congrArg some hown.symm)
    · intro q hq _ hqassoc _
      rcases List.mem_cons.mp (hafter.mem_iff.mp hq) with rfl | hq
      · exact C.copy_refl _ _
      · exact absurd hqassoc (hfirst q hq)

theorem cloneOutstandingPacket_continues {i : Nat} (hp : p ∈ c.outstandings.packets) :
    c.Continues { c with outstandings := (cloneOutstandingPacket c.outstandings i p).2 }
      fun _ => False := by
  refine ⟨fun s => rfl, fun q hq => .inr ?_⟩
  unfold cloneOutstandingPacket at hq
  cases hassoc : p.associatedEvent with
  | some event =>
    rw [hassoc] at hq
    exact ⟨q, hq, rfl⟩
  | none =>
    rw [hassoc] at hq
    rcases List.mem_or_eq_of_mem_set hq with hq | rfl
    · exact ⟨q, hq, rfl⟩
    · exact ⟨p, hp, rfl⟩

/-! ### A packet is sent -/

variable {packet : RegularQuicWritePacket} {packetEvent : Option PacketEvent} {sentTime : Nat}
  {isDSRPacket : Bool}

theorem insertPosition_perm (packets : List OutstandingPacket) (p : OutstandingPacket) :
    (packets.insertIdx (insertPosition packets p.packetNum) p).Perm (p :: packets) :=
  List.perm_insertIdx p packets (Deque.rfind_le_length _ packets)

theorem insertPosition_sorted (hsorted : SortedPackets packets) (p : OutstandingPacket) :
    SortedPackets (packets.insertIdx (insertPosition packets p.packetNum) p) := by
  obtain ⟨front, skipped, hsplit, hfind, hskipped, hfront⟩ :=
    Deque.rfind_split (fun q : OutstandingPacket => q.packetNum < p.packetNum) packets []
  rw [List.append_nil] at hfind
  have hins : packets.insertIdx (insertPosition packets p.packetNum) p = front ++ p :: skipped := by
    rw [insertPosition, hfind, hsplit, Deque.insertIdx_length_append]
  rw [hins]
  rw [hsplit] at hsorted
  unfold SortedPackets at hsorted ⊢
  rw [List.pairwise_append] at hsorted ⊢
  obtain ⟨hfrontSorted, hskippedSorted, hcross⟩ := hsorted
  have hbehind : ∀ q ∈ skipped, p.packetNum ≤ q.packetNum := by
    intro q hq
    have hnot := hskipped q hq
    simpa using hnot
  have hbefore : ∀ q ∈ front, q.packetNum ≤ p.packetNum := by
    rcases hfront with rfl | ⟨init, x, rfl, hx⟩
    · exact nofun
    · have hlast : x.packetNum < p.packetNum := by simpa using hx
      intro q hq
      rcases List.mem_append.mp hq with hq | hq
      · have hle := (List.pairwise_append.mp hfrontSorted).2.2 q hq x (by simp)
        omega
      · rw [List.mem_singleton.mp hq]
        omega
  refine ⟨hfrontSorted, List.pairwise_cons.mpr ⟨hbehind, hskippedSorted⟩, ?_⟩
  intro q hq r hr
  rcases List.mem_cons.mp hr with rfl | hr
  · exact hbefore q hq
  · exact hcross q hq r hr

/-- The next number of a space is in no packet. -/
theorem Numbered.fresh {ackStates : AckStates} {a : AckState} (hn : Numbered packets ackStates)
    (ha : ackStates.get p.packetNumberSpace = some a) (hp : p.packetNum = a.nextPacketNum) :
    ∀ q ∈ packets, q.ownEvent ≠ p.ownEvent := by
  intro q hq hown
  have hspace : q.packetNumberSpace = p.packetNumberSpace := congrArg (·.packetNumberSpace) hown
  have hnum : q.packetNum = p.packetNum := congrArg (·.packetNumber) hown
  have hlt := hn.below q hq a (hspace ▸ ha)
  omega

theorem Numbered.send {ackStates : AckStates} {a : AckState} (hn : Numbered packets ackStates)
    (ha : ackStates.get p.packetNumberSpace = some a) (hp : p.packetNum = a.nextPacketNum)
    (hevent : ∀ event, p.associatedEvent = some event →
      event.packetNumberSpace = p.packetNumberSpace ∧ event.packetNumber < a.nextPacketNum ∧
        ∀ q ∈ packets, q.ownEvent = event → q.associatedEvent = some event) :
    Numbered (p :: packets)
      (ackStates.set p.packetNumberSpace { a with nextPacketNum := a.nextPacketNum + 1 }) := by
  have hfresh := hn.fresh ha hp
  have hset : Numbered packets
      (ackStates.set p.packetNumberSpace { a with nextPacketNum := a.nextPacketNum + 1 }) :=
    hn.set ha (Nat.le_succ _)
  refine ⟨?_, List.forall_mem_cons.mpr ⟨fun b hb => ?_, hset.below⟩,
    List.forall_mem_cons.mpr ⟨fun event hassoc b hb => ?_, hset.eventBelow⟩,
    fun q hq r hr hassoc => ?_⟩
  · rw [List.map_cons, List.nodup_cons]
    refine ⟨fun hmem => ?_, hn.nodup⟩
    obtain ⟨q, hq, hown⟩ := List.mem_map.mp hmem
    exact hfresh q hq hown
  · rw [AckStates.get_set, if_pos rfl] at hb
    cases hb
    change p.packetNum < a.nextPacketNum + 1
    omega
  · obtain ⟨hspace, hlt, -⟩ := hevent event hassoc
    rw [AckStates.get_set, if_pos hspace] at hb
    cases hb
    change event.packetNumber < a.nextPacketNum + 1
    omega
  · rcases List.mem_cons.mp hr with rfl | hr'
    · -- no event is named after the new packet
      have hlt : r.packetNum < a.nextPacketNum := by
        rcases List.mem_cons.mp hq with rfl | hq
        · exact (hevent _ hassoc).2.1
        · exact hn.eventBelow q hq _ hassoc a ha
      omega
    · rcases List.mem_cons.mp hq with rfl | hq
      · exact (hevent _ hassoc).2.2 r hr' rfl
      · exact hn.first q hq r hr' hassoc

theorem Contract.Upholds.congr (hu : C.Upholds k packets pending s)
    (hevents : k'.packetEvents = k.packetEvents) (hcount : k'.packetCount = k.packetCount)
    (hcloned : k'.clonedPacketCount = k.clonedPacketCount)
    (hlost : k'.declaredLostCount = k.declaredLostCount) : C.Upholds k' packets pending s := by
  have hcarries : k'.carries = k.carries := by
    funext q
    unfold OutstandingsCounters.carries
    rw [hevents]
  have hprocessed : k'.processed = k.processed := by
    funext q
    unfold OutstandingsCounters.processed
    rw [hevents]
  refine ⟨hu.tally.congr hevents hcount hcloned hlost, hu.nodup, ?_, ?_⟩
  · rw [hprocessed]
    exact hu.copies
  · rw [hcarries]
    exact hu.holds

/-- The counters after a packet has been sent, the DSR packets apart. -/
def OutstandingsCounters.counted (k : OutstandingsCounters) (packetEvent : Option PacketEvent)
    (space : PacketNumberSpace) : OutstandingsCounters :=
  if packetEvent.isSome then k.increaseClonedPacketCount space else k.increasePacketCount space

/-- `updateConnection`, for a packet whose frames are handed over as the contract asks. -/
theorem Contract.Inv.updateConnection (hc : C.Inv c)
    (hack : A .ackState ∨ (c.ackStates.get packet.packetNumberSpace).isSome = true)
    (hkey : isDSRPacket = true → packet.protectionType ≠ .zeroRtt)
    (hevent : ∀ event a, packetEvent = some event →
      c.ackStates.get packet.packetNumberSpace = some a →
      event.packetNumberSpace = packet.packetNumberSpace ∧ event.packetNumber < a.nextPacketNum ∧
        ∀ q ∈ c.outstandings.packets, q.ownEvent = event → q.associatedEvent = some event)
    (hsent : ∀ a, c.ackStates.get packet.packetNumberSpace = some a →
      Ends E (h.packetSent
        (packet.outstanding a.nextPacketNum sentTime isDSRPacket packetEvent) c.rest)
        (fun t => C.Later c.rest t ∧
          if packet.tracked then
            C.Upholds (c.outstandings.counted packetEvent packet.packetNumberSpace)
              (packet.outstanding a.nextPacketNum sentTime isDSRPacket packetEvent ::
                c.outstandings.packets) [] t
          else C.Holds ((c.outstandings.packets.filter c.outstandings.carries).map (·.sent)) t)) :
    Ends (Allowed A E) (updateConnection h c packetEvent packet sentTime isDSRPacket)
      (fun c' => C.Inv c' ∧ C.Later c.rest c'.rest ∧
        c.Continues c' (· = packet.packetNumberSpace)) := by
  unfold MasqueQuic.updateConnection
  refine (getAckState_ends hack).bind fun a ha => ?_
  refine (ends_liftHandler (hsent a ha)).bind fun t ht => ?_
  obtain ⟨hlater, hjoin⟩ := ht
  have hstates : ∀ s, ((c.ackStates.set packet.packetNumberSpace
      { a with nextPacketNum := a.nextPacketNum + 1 }).get s).isSome =
        (c.ackStates.get s).isSome := by
    intro s
    rw [AckStates.get_set]
    by_cases hs : s = packet.packetNumberSpace
    · rw [if_pos hs, hs, ha]
      rfl
    · rw [if_neg hs]
  refine Ends.ite (fun huntracked => ?_) fun htracked => ?_
  · rw [if_neg huntracked] at hjoin
    have hu : C.Upholds c.outstandings.toOutstandingsCounters c.outstandings.packets [] t :=
      hc.scanned.upholds.later hjoin hlater
    exact .ok ⟨⟨⟨hu, hc.scanned.dsr⟩, hc.numbered.set ha (Nat.le_succ _), hc.sorted, hc.keyed⟩,
      hlater, hstates, fun p hp => .inr ⟨p, hp, rfl⟩⟩
  · rw [if_pos (not_not.mp htracked)] at hjoin
    refine hc.scanned.numOutstanding.bind fun _ _ =>
      .ok ⟨⟨⟨?_, ?_⟩, ?_, ?_, ?_⟩, hlater, hstates, fun p hp => ?_⟩
    · refine Upholds.perm ?_ (insertPosition_perm _ _).symm
      cases isDSRPacket with
      | false => exact hjoin
      | true =>
        cases packetEvent with
        | none => exact hjoin.congr rfl rfl rfl rfl
        | some event => exact hjoin.congr rfl rfl rfl rfl
    · have hcount := hc.scanned.dsr
      rw [(insertPosition_perm _ _).countP_eq, List.countP_cons, ← hcount]
      cases isDSRPacket with
      | false => cases packetEvent <;> rfl
      | true => cases packetEvent <;> rfl
    · refine Numbered.perm ?_ (insertPosition_perm _ _).symm
      exact hc.numbered.send ha rfl fun event hassoc => hevent event a hassoc ha
    · exact insertPosition_sorted hc.sorted _
    · intro q hq
      rcases List.mem_cons.mp ((insertPosition_perm _ _).mem_iff.mp hq) with rfl | hq
      · exact hkey
      · exact hc.keyed q hq
    · rcases List.mem_cons.mp ((insertPosition_perm _ _).mem_iff.mp hp) with rfl | hp
      · exact .inl rfl
      · exact .inr ⟨p, hp, rfl⟩

/-- A packet that is no clone is sent. -/
theorem Contract.Inv.send (hc : C.Inv c)
    (hack : A .ackState ∨ (c.ackStates.get packet.packetNumberSpace).isSome = true)
    (hkey : isDSRPacket = true → packet.protectionType ≠ .zeroRtt)
    (hsent : ∀ a cs, c.ackStates.get packet.packetNumberSpace = some a → C.Holds cs c.rest →
      Ends E (h.packetSent (packet.outstanding a.nextPacketNum sentTime isDSRPacket none) c.rest)
        (fun t => C.Later c.rest t ∧ C.Holds (if packet.tracked then packet :: cs else cs) t)) :
    Ends (Allowed A E) (MasqueQuic.updateConnection h c none packet sentTime isDSRPacket)
      (fun c' => C.Inv c' ∧ C.Later c.rest c'.rest ∧
        c.Continues c' (· = packet.packetNumberSpace)) := by
  refine hc.updateConnection hack hkey nofun fun a ha => ?_
  refine (hsent a _ ha hc.scanned.upholds.holds).imp fun t ht => ⟨ht.1, ?_⟩
  obtain ⟨hlater, hholds⟩ := ht
  by_cases htracked : packet.tracked = true
  · rw [if_pos htracked] at hholds ⊢
    exact hc.scanned.upholds.addPlain (p := packet.outstanding _ sentTime isDSRPacket none) rfl rfl
      (hc.numbered.fresh ha rfl) hlater hholds
  · rw [if_neg htracked] at hholds ⊢
    exact hholds

/-- A clone of a packet of the queue is sent, for the event that `cloneOutstandingPacket` has
returned. -/
theorem Contract.Cloned.send {r : PacketEvent × OutstandingsInfo} (hcl : C.Cloned c p r)
    (hspace : packet.packetNumberSpace = p.packetNumberSpace)
    (hack : A .ackState ∨ (c.ackStates.get packet.packetNumberSpace).isSome = true)
    (hcopy : packet.tracked = true → C.Copy p.sent packet c.rest)
    (hsent : ∀ a, c.ackStates.get packet.packetNumberSpace = some a →
      Ends E (h.packetSent (packet.outstanding a.nextPacketNum sentTime false (some r.1)) c.rest)
        (fun t => C.Later c.rest t ∧ C.Holds ((r.2.packets.filter r.2.carries).map (·.sent)) t)) :
    Ends (Allowed A E)
      (MasqueQuic.updateConnection h { c with outstandings := r.2 } (some r.1) packet sentTime false)
      (fun c' => C.Inv c' ∧ C.Later c.rest c'.rest ∧
        SendConn.Continues { c with outstandings := r.2 } c' (· = packet.packetNumberSpace)) := by
  have hevent : r.1.packetNumberSpace = packet.packetNumberSpace := hcl.space.trans hspace.symm
  refine hcl.inv.updateConnection hack nofun ?_ fun a ha => ?_
  · rintro event a ⟨rfl⟩ ha
    exact ⟨hevent, hcl.below a (hevent ▸ ha), hcl.first⟩
  · refine (hsent a ha).imp fun t ht => ⟨ht.1, ?_⟩
    obtain ⟨hlater, hholds'⟩ := ht
    by_cases htracked : packet.tracked = true
    · rw [if_pos htracked]
      have hnew : r.1 ≠ (packet.outstanding a.nextPacketNum sentTime false (some r.1)).ownEvent := by
        intro heq
        have hlt := hcl.below a (hevent ▸ ha)
        have hnum : r.1.packetNumber = a.nextPacketNum := congrArg (·.packetNumber) heq
        omega
      refine hcl.inv.scanned.upholds.addClone rfl rfl hevent hnew (hcl.inv.numbered.fresh ha rfl)
        hlater (fun q hq hqlost hqassoc hqown => ?_) hholds'
      exact C.copy_later (C.copy_trans (hcl.copy q hq hqlost hqassoc hqown) (hcopy htracked)) hlater
    · rw [if_neg htracked]
      exact hholds'

/-- A packet of the queue is cloned. -/
theorem Contract.Inv.clonePacket (hc : C.Inv c) {index : Nat} {sentTime : Option Nat}
    (hack : A .ackState ∨ (c.ackStates.get packet.packetNumberSpace).isSome = true)
    (hcopy : ∀ p r, c.outstandings.packets[index]? = some p → C.Cloned c p r →
      packet.packetNumberSpace = p.packetNumberSpace → packet.tracked = true →
      C.Copy p.sent packet c.rest)
    (hsent : ∀ p r packetNum sentTime, c.outstandings.packets[index]? = some p → C.Cloned c p r →
      packet.packetNumberSpace = p.packetNumberSpace →
      Ends E (h.packetSent (packet.outstanding packetNum sentTime false (some r.1)) c.rest)
        (fun t => C.Later c.rest t ∧ C.Holds ((r.2.packets.filter r.2.carries).map (·.sent)) t)) :
    Ends (Allowed A E) (clonePacket h c index packet sentTime)
      (fun c' => C.Inv c' ∧ C.Later c.rest c'.rest ∧
        c.Continues c' (· = packet.packetNumberSpace)) := by
  have hsame : c.Continues c (· = packet.packetNumberSpace) :=
    ⟨fun s => rfl, fun p hp => .inr ⟨p, hp, rfl⟩⟩
  unfold MasqueQuic.clonePacket
  cases hi : c.outstandings.packets[index]? with
  | none => exact .ok ⟨hc, C.later_refl _, hsame⟩
  | some p =>
    refine Ends.ite (fun hmay => ?_) fun _ => .ok ⟨hc, C.later_refl _, hsame⟩
    have hcl := hc.cloneOutstandingPacket hi hmay
    have hcont : c.Continues
        { c with outstandings := (MasqueQuic.cloneOutstandingPacket c.outstandings index p).2 }
        fun _ => False := cloneOutstandingPacket_continues (List.mem_of_getElem? hi)
    have hspace : p.packetNumberSpace = packet.packetNumberSpace := by
      simp only [mayClone, Bool.and_eq_true, beq_iff_eq] at hmay
      exact hmay.1.2
    cases sentTime with
    | none =>
      refine .ok ⟨hcl.inv, C.later_refl _, hcont.states, fun q hq => ?_⟩
      exact (hcont.spaces q hq).imp_left False.elim
    | some sentTime =>
      refine Ends.imp (hcl.send hspace.symm hack (hcopy p _ hi hcl hspace.symm) fun a _ => ?_)
        fun c' hc' => ⟨hc'.1, hc'.2.1, hcont.trans hc'.2.2 fun _ => False.elim⟩
      exact hsent p _ _ _ hi hcl hspace.symm

/-! ### 0-RTT rejection -/

/-- The loop over the packets that were sent with 0-RTT keys. `before` has been passed. -/
theorem Contract.Scanned.zeroRttLoop (before : List OutstandingPacket)
    (hs : C.Scanned k (before ++ packets) s) (hkeyed : DsrKeyed packets) :
    Ends (Allowed A E) (zeroRttLoop h packets k s)
      (fun r => C.Scanned r.2.1 (before ++ r.1) r.2.2 ∧ C.Later s r.2.2 ∧ r.1.Sublist packets) := by
  induction packets generalizing before k s with
  | nil => exact .ok ⟨hs, C.later_refl s, .slnil⟩
  | cons p packets ih =>
    obtain ⟨hkey, hkeyed'⟩ := List.forall_mem_cons.mp hkeyed
    rw [MasqueQuic.zeroRttLoop]
    refine Ends.ite (fun hzero => ?_) fun _ => ?_
    · have hlost : p.declaredLost = false := by
        have hout := hzero.1
        simp only [isOutstanding, Bool.and_eq_true, Bool.not_eq_true'] at hout
        exact hout.1
      have hdsr : p.isDSRPacket = false := by
        by_contra hp
        exact hkey (eq_true_of_ne_false hp) hzero.2
      have hs' := hs.perm List.perm_middle
      refine (ends_liftHandler (hs'.upholds.lose hlost)).bind fun t ht => ?_
      rw [hs'.upholds.tally.onZeroRttLoss_eq hlost]
      have hscanned : C.Scanned (k.retired p) (before ++ packets) t := by
        refine ⟨ht.1, ?_⟩
        have hcount := hs'.dsr
        have hkept : (k.retired p).dsrCount = k.dsrCount := by
          unfold OutstandingsCounters.retired OutstandingsCounters.eraseEvent
          cases p.associatedEvent <;> rfl
        rw [hkept, hcount, List.countP_cons]
        simp [OutstandingPacket.isLiveDsr, hdsr]
      refine (ih before hscanned hkeyed').imp fun r hr => ?_
      exact ⟨hr.1, C.later_trans ht.2 hr.2.1, hr.2.2.cons p⟩
    · have hih := ih (before ++ [p]) (by rwa [List.append_assoc]) hkeyed'
      refine hih.bind fun r hr => .ok ⟨?_, hr.2.1, hr.2.2.cons_cons p⟩
      rw [← List.singleton_append, ← List.append_assoc]
      exact hr.1

theorem Contract.Inv.markZeroRttPacketsLost (hc : C.Inv c) :
    Ends (Allowed A E) (markZeroRttPacketsLost h c)
      (fun c' => C.Inv c' ∧ C.Later c.rest c'.rest ∧ c.Continues c' fun _ => False) := by
  unfold MasqueQuic.markZeroRttPacketsLost
  refine (hc.scanned.zeroRttLoop [] hc.keyed).bind fun r hr => .ok ⟨?_, hr.2.1, fun s => rfl, ?_⟩
  · exact ⟨hr.1, hc.numbered.sublist hr.2.2, hc.sorted.sublist hr.2.2, hc.keyed.sublist hr.2.2⟩
  · intro p hp
    exact .inr ⟨p, hr.2.2.subset hp, rfl⟩

/-! ### Steps that leave the queue alone -/

theorem Contract.Inv.withRest (hc : C.Inv c) (hcopy : ∀ a b, C.Copy a b c.rest → C.Copy a b t)
    (hholds : ∀ cs, C.Holds cs c.rest → C.Holds cs t) : C.Inv { c with rest := t } := by
  have hu := hc.scanned.upholds
  refine ⟨⟨⟨hu.tally, hu.nodup, ?_, hholds _ hu.holds⟩, hc.scanned.dsr⟩, hc.numbered, hc.sorted,
    hc.keyed⟩
  intro p hp q hq hplost hqlost hsome hassoc hprocessed hown
  exact hcopy _ _ (hu.copies p hp q hq hplost hqlost hsome hassoc hprocessed hown)

/-- A connection that has sent nothing. -/
theorem Contract.Inv.new (hnew : c.outstandings = .empty) (hholds : C.Holds [] c.rest) :
    C.Inv c := by
  have htally : Tally OutstandingsInfo.empty.toOutstandingsCounters [] :=
    ⟨fun _ => rfl, fun _ => rfl, rfl, fun _ he => absurd he (Finset.notMem_empty _),
      List.forall_mem_nil _⟩
  refine ⟨?_, ?_, ?_, ?_⟩ <;> rw [hnew]
  · exact ⟨⟨htally, List.nodup_nil, List.forall_mem_nil _, hholds⟩, rfl⟩
  · exact ⟨List.nodup_nil, List.forall_mem_nil _, List.forall_mem_nil _, List.forall_mem_nil _⟩
  · exact List.Pairwise.nil
  · exact List.forall_mem_nil _

end MasqueQuic
