/-
The counters of the outstanding packets.

`Tally` relates the counters and the set of events to the packets of the queue; it does
not depend on their order. A packet is retired when it is acknowledged, declared lost or
given up: the counters of its space go down and its event, if it was live, is gone. That
one lemma (`Tally.retired`) serves the three code paths that do it.
-/

import MasqueQuic.Lib.Ends
import MasqueQuic.Lib.Run
import MasqueQuic.Quic.AckLoop

namespace MasqueQuic

variable {σ ε α : Type}

/-! ### What is counted -/

/-- Not declared lost, and not part of an event. -/
def OutstandingPacket.isPlain (s : PacketNumberSpace) (p : OutstandingPacket) : Bool :=
  p.packetNumberSpace == s && !p.declaredLost && p.associatedEvent.isNone

/-- Not declared lost, and part of an event. -/
def OutstandingPacket.isCloned (s : PacketNumberSpace) (p : OutstandingPacket) : Bool :=
  p.packetNumberSpace == s && !p.declaredLost && p.associatedEvent.isSome

def OutstandingPacket.isLiveDsr (p : OutstandingPacket) : Bool :=
  !p.declaredLost && p.isDSRPacket

/-- The event that `cloneOutstandingPacket` makes for the packet. -/
def OutstandingPacket.ownEvent (p : OutstandingPacket) : PacketEvent :=
  ⟨p.packetNumberSpace, p.packetNum⟩

/-- The number of live events of a space. -/
def liveEvents (s : PacketNumberSpace) (events : Finset PacketEvent) : Nat :=
  (events.filter (·.packetNumberSpace = s)).card

structure Tally (k : OutstandingsCounters) (packets : List OutstandingPacket) : Prop where
  packetCount : ∀ s, k.packetCount s = packets.countP (·.isPlain s) + liveEvents s k.packetEvents
  clonedPacketCount : ∀ s, k.clonedPacketCount s = packets.countP (·.isCloned s)
  declaredLostCount : k.declaredLostCount = packets.countP (·.declaredLost)
  carried : ∀ event ∈ k.packetEvents,
    ∃ p ∈ packets, p.declaredLost = false ∧ p.associatedEvent = some event ∧ p.ownEvent = event
  eventSpace : ∀ p ∈ packets, ∀ event, p.associatedEvent = some event →
    event.packetNumberSpace = p.packetNumberSpace

/-- The counters after a packet has been retired. -/
def OutstandingsCounters.retired (k : OutstandingsCounters) (p : OutstandingPacket) :
    OutstandingsCounters :=
  { k.eraseEvent p with
    packetCount :=
      if k.processed p then k.packetCount
      else Function.update k.packetCount p.packetNumberSpace
        (k.packetCount p.packetNumberSpace - 1)
    clonedPacketCount :=
      if p.associatedEvent.isSome then
        Function.update k.clonedPacketCount p.packetNumberSpace
          (k.clonedPacketCount p.packetNumberSpace - 1)
      else k.clonedPacketCount }

variable {k : OutstandingsCounters} {p : OutstandingPacket} {s : PacketNumberSpace}
  {packets packets' : List OutstandingPacket} {event : PacketEvent}

theorem liveEvents_insert {events : Finset PacketEvent} (hevent : event ∉ events) :
    liveEvents s (insert event events) =
      liveEvents s events + if event.packetNumberSpace = s then 1 else 0 := by
  unfold liveEvents
  rw [Finset.filter_insert]
  by_cases hs : event.packetNumberSpace = s
  · rw [if_pos hs, if_pos hs, Finset.card_insert_of_notMem]
    simp [hevent]
  · rw [if_neg hs, if_neg hs, Nat.add_zero]

theorem liveEvents_erase {events : Finset PacketEvent} (hevent : event ∈ events) :
    liveEvents s events =
      liveEvents s (events.erase event) + if event.packetNumberSpace = s then 1 else 0 := by
  nth_rewrite 1 [← Finset.insert_erase hevent]
  exact liveEvents_insert (Finset.notMem_erase event events)

theorem Tally.perm (h : Tally k packets) (hperm : packets.Perm packets') : Tally k packets' where
  packetCount s := by rw [h.packetCount s, hperm.countP_eq]
  clonedPacketCount s := by rw [h.clonedPacketCount s, hperm.countP_eq]
  declaredLostCount := by rw [h.declaredLostCount, hperm.countP_eq]
  carried event hevent := by
    obtain ⟨p, hp, hcarries⟩ := h.carried event hevent
    exact ⟨p, hperm.mem_iff.mp hp, hcarries⟩
  eventSpace p hp := h.eventSpace p (hperm.mem_iff.mpr hp)

/-- Only the events and the counters of `Tally` matter. -/
theorem Tally.congr {k' : OutstandingsCounters} (h : Tally k packets)
    (hevents : k'.packetEvents = k.packetEvents) (hcount : k'.packetCount = k.packetCount)
    (hcloned : k'.clonedPacketCount = k.clonedPacketCount)
    (hlost : k'.declaredLostCount = k.declaredLostCount) : Tally k' packets where
  packetCount s := by rw [hcount, hevents, h.packetCount s]
  clonedPacketCount s := by rw [hcloned, h.clonedPacketCount s]
  declaredLostCount := by rw [hlost, h.declaredLostCount]
  carried event hevent := h.carried event (hevents ▸ hevent)
  eventSpace := h.eventSpace

/-! ### Retiring a packet -/

section Retire

variable (h : Tally k (p :: packets)) (hlost : p.declaredLost = false)

include h hlost

theorem Tally.packetCount_pos (hprocessed : k.processed p = false) :
    0 < k.packetCount p.packetNumberSpace := by
  rw [h.packetCount, List.countP_cons]
  cases hassoc : p.associatedEvent with
  | none =>
    have hplain : p.isPlain p.packetNumberSpace = true := by
      simp [OutstandingPacket.isPlain, hlost, hassoc]
    rw [if_pos hplain]
    omega
  | some event =>
    have hlive : event ∈ k.packetEvents := by
      simpa [OutstandingsCounters.processed, hassoc] using hprocessed
    have hspace := h.eventSpace p List.mem_cons_self event hassoc
    rw [liveEvents_erase hlive, if_pos hspace]
    omega

theorem Tally.clonedPacketCount_pos (hevent : p.associatedEvent.isSome = true) :
    0 < k.clonedPacketCount p.packetNumberSpace := by
  have hcloned : p.isCloned p.packetNumberSpace = true := by
    simp [OutstandingPacket.isCloned, hlost, hevent]
  rw [h.clonedPacketCount, List.countP_cons, if_pos hcloned]
  omega

theorem Tally.retired : Tally (k.retired p) packets := by
  have hlostCount : k.declaredLostCount = packets.countP (·.declaredLost) := by
    rw [h.declaredLostCount, List.countP_cons, hlost]
    rfl
  have hplain := fun s => h.packetCount s
  have hcloned := fun s => h.clonedPacketCount s
  simp only [List.countP_cons] at hplain hcloned
  have hspaces : ∀ q ∈ packets, ∀ event, q.associatedEvent = some event →
      event.packetNumberSpace = q.packetNumberSpace :=
    fun q hq => h.eventSpace q (List.mem_cons_of_mem p hq)
  cases hassoc : p.associatedEvent with
  | none =>
    have hnotCloned : ∀ s, p.isCloned s = false := by
      simp [OutstandingPacket.isCloned, hassoc]
    have hisPlain : ∀ s, p.isPlain s = decide (p.packetNumberSpace = s) := by
      simp [OutstandingPacket.isPlain, hassoc, hlost, beq_eq_decide]
    refine ⟨fun s => ?_, fun s => ?_, ?_, fun event hevent => ?_, hspaces⟩
    · have hs := hplain s
      simp only [OutstandingsCounters.retired, OutstandingsCounters.processed,
        OutstandingsCounters.eraseEvent, hassoc, hisPlain] at hs ⊢
      by_cases hspace : p.packetNumberSpace = s
      · subst hspace
        simp at hs ⊢
        omega
      · simp [hspace, Function.update_of_ne (Ne.symm hspace)] at hs ⊢
        exact hs
    · have hs := hcloned s
      simpa [OutstandingsCounters.retired, hassoc, hnotCloned] using hs
    · simpa [OutstandingsCounters.retired, OutstandingsCounters.eraseEvent, hassoc]
        using hlostCount
    · have hlive : event ∈ k.packetEvents := by
        simpa [OutstandingsCounters.retired, OutstandingsCounters.eraseEvent, hassoc] using hevent
      obtain ⟨q, hq, hqlost, hqassoc, hown⟩ := h.carried event hlive
      rcases List.mem_cons.mp hq with rfl | hq
      · rw [hassoc] at hqassoc
        cases hqassoc
      · exact ⟨q, hq, hqlost, hqassoc, hown⟩
  | some e =>
    have hspace := h.eventSpace p List.mem_cons_self e hassoc
    have hnotPlain : ∀ s, p.isPlain s = false := by
      simp [OutstandingPacket.isPlain, hassoc]
    have hisCloned : ∀ s, p.isCloned s = decide (p.packetNumberSpace = s) := by
      simp [OutstandingPacket.isCloned, hassoc, hlost, beq_eq_decide]
    refine ⟨fun s => ?_, fun s => ?_, ?_, fun event hevent => ?_, hspaces⟩
    · have hs := hplain s
      simp only [OutstandingsCounters.retired, OutstandingsCounters.processed,
        OutstandingsCounters.eraseEvent, hassoc, hnotPlain] at hs ⊢
      by_cases hlive : e ∈ k.packetEvents
      · rw [liveEvents_erase hlive, hspace] at hs
        by_cases hp : p.packetNumberSpace = s
        · subst hp
          simp [hlive] at hs ⊢
          omega
        · simp [hlive, hp, Function.update_of_ne (Ne.symm hp)] at hs ⊢
          exact hs
      · simp [hlive] at hs ⊢
        exact hs
    · have hs := hcloned s
      simp only [OutstandingsCounters.retired, hassoc, hisCloned] at hs ⊢
      by_cases hp : p.packetNumberSpace = s
      · subst hp
        simp at hs ⊢
        omega
      · simp [hp, Function.update_of_ne (Ne.symm hp)] at hs ⊢
        exact hs
    · simpa [OutstandingsCounters.retired, OutstandingsCounters.eraseEvent, hassoc]
        using hlostCount
    · have hevent' : event ≠ e ∧ event ∈ k.packetEvents := by
        simpa [OutstandingsCounters.retired, OutstandingsCounters.eraseEvent, hassoc] using hevent
      obtain ⟨q, hq, hqlost, hqassoc, hown⟩ := h.carried event hevent'.2
      rcases List.mem_cons.mp hq with rfl | hq
      · rw [hassoc] at hqassoc
        cases hqassoc
        exact absurd rfl hevent'.1
      · exact ⟨q, hq, hqlost, hqassoc, hown⟩

theorem Tally.decreaseIfCloned_eq (k' : OutstandingsCounters)
    (hcloned : k'.clonedPacketCount = k.clonedPacketCount) :
    k'.decreaseIfCloned p =
      (.ok { k' with clonedPacketCount := (k.retired p).clonedPacketCount } :
        Except (SendFailure ε) _) := by
  unfold OutstandingsCounters.decreaseIfCloned OutstandingsCounters.decreaseClonedPacketCount
    checkThat OutstandingsCounters.retired
  cases hassoc : p.associatedEvent with
  | none =>
    simp only [Option.isSome_none, Bool.false_eq_true, if_false, ← hcloned]
  | some event =>
    have hpos := h.clonedPacketCount_pos hlost (by rw [hassoc]; rfl)
    simp only [Option.isSome_some, if_true, hcloned, if_pos hpos]
    rfl

theorem Tally.decreaseUnlessProcessed_eq {k' : OutstandingsCounters}
    (hcount : k'.packetCount = k.packetCount) :
    (if k.processed p then .ok k' else k'.decreasePacketCount p.packetNumberSpace) =
      (.ok { k' with packetCount := (k.retired p).packetCount } :
        Except (SendFailure ε) _) := by
  unfold OutstandingsCounters.decreasePacketCount checkThat OutstandingsCounters.retired
  cases hprocessed : k.processed p with
  | true => simp only [if_true, ← hcount]
  | false =>
    have hpos := h.packetCount_pos hlost hprocessed
    simp only [Bool.false_eq_true, if_false, hcount, if_pos hpos]
    rfl

/-- `processAckFrame` retires the packet. -/
theorem Tally.onAck_eq : k.onAck p = (.ok (k.retired p) : Except (SendFailure ε) _) := by
  unfold OutstandingsCounters.onAck
  rw [h.decreaseUnlessProcessed_eq hlost rfl]
  change OutstandingsCounters.decreaseIfCloned _ p >>= _ = _
  rw [h.decreaseIfCloned_eq hlost _ (by rfl)]
  change Except.ok (OutstandingsCounters.eraseEvent _ p) = _
  unfold OutstandingsCounters.eraseEvent OutstandingsCounters.retired
    OutstandingsCounters.eraseEvent
  cases p.associatedEvent <;> rfl

/-- `markZeroRttPacketsLost` retires the packet. -/
theorem Tally.onZeroRttLoss_eq :
    k.onZeroRttLoss p = (.ok (k.retired p) : Except (SendFailure ε) _) := by
  unfold OutstandingsCounters.onZeroRttLoss
  have hcloned : (k.eraseEvent p).clonedPacketCount = k.clonedPacketCount := by
    unfold OutstandingsCounters.eraseEvent
    cases p.associatedEvent <;> rfl
  have hcount : (k.eraseEvent p).packetCount = k.packetCount := by
    unfold OutstandingsCounters.eraseEvent
    cases p.associatedEvent <;> rfl
  rw [h.decreaseIfCloned_eq hlost _ hcloned]
  exact h.decreaseUnlessProcessed_eq hlost hcount

/-- `processOutstandingsForLoss` retires the packet and counts it as lost. -/
theorem Tally.onLoss_eq (hdsr : p.isDSRPacket = true → 0 < k.dsrCount) :
    k.onLoss p = (.ok { k.retired p with
      dsrCount := k.dsrCount - if p.isDSRPacket then 1 else 0
      declaredLostCount := k.declaredLostCount + 1 } : Except (SendFailure ε) _) := by
  unfold OutstandingsCounters.onLoss
  have hfirst : (if p.isDSRPacket then k.decreaseDsrCount else .ok k) =
      (.ok { k with dsrCount := k.dsrCount - if p.isDSRPacket then 1 else 0 } :
        Except (SendFailure ε) _) := by
    unfold OutstandingsCounters.decreaseDsrCount checkThat
    cases hp : p.isDSRPacket with
    | true =>
      simp only [if_true, if_pos (hdsr hp)]
      rfl
    | false => rfl
  rw [hfirst]
  change OutstandingsCounters.decreaseIfCloned _ p >>= _ = _
  rw [h.decreaseIfCloned_eq hlost _ (by rfl)]
  change (if _ then _ else OutstandingsCounters.decreasePacketCount
    (OutstandingsCounters.eraseEvent _ p) p.packetNumberSpace) >>= _ = _
  rw [h.decreaseUnlessProcessed_eq hlost]
  · unfold OutstandingsCounters.eraseEvent OutstandingsCounters.retired
      OutstandingsCounters.eraseEvent
    cases p.associatedEvent <;> rfl
  · unfold OutstandingsCounters.eraseEvent
    cases p.associatedEvent <;> rfl

end Retire

/-! ### Numbers and carriers -/

/-- Packet numbers are used once in a space. Events are named after packets that were sent
before, and such a packet is part of its event. -/
structure Numbered (packets : List OutstandingPacket) (ackStates : AckStates) : Prop where
  nodup : (packets.map (·.ownEvent)).Nodup
  below : ∀ p ∈ packets, ∀ a, ackStates.get p.packetNumberSpace = some a →
    p.packetNum < a.nextPacketNum
  eventBelow : ∀ p ∈ packets, ∀ event, p.associatedEvent = some event →
    ∀ a, ackStates.get event.packetNumberSpace = some a → event.packetNumber < a.nextPacketNum
  first : ∀ p ∈ packets, ∀ q ∈ packets, p.associatedEvent = some q.ownEvent →
    q.associatedEvent = some q.ownEvent

/-- The packet answers for its frames: it is not declared lost and not part of an event, or
the packet of a live event that was sent first. Clones carry the same frames again. -/
def OutstandingsCounters.carries (k : OutstandingsCounters) (p : OutstandingPacket) : Bool :=
  !p.declaredLost &&
    match p.associatedEvent with
    | none => true
    | some event => decide (event ∈ k.packetEvents) && event == p.ownEvent

theorem Numbered.perm {ackStates : AckStates} (h : Numbered packets ackStates)
    (hperm : packets.Perm packets') : Numbered packets' ackStates where
  nodup := (hperm.map _).nodup_iff.mp h.nodup
  below p hp := h.below p (hperm.mem_iff.mpr hp)
  eventBelow p hp := h.eventBelow p (hperm.mem_iff.mpr hp)
  first p hp q hq := h.first p (hperm.mem_iff.mpr hp) q (hperm.mem_iff.mpr hq)

/-- The carrier of an event steps back when the event is over. -/
theorem filter_carries_erase {rep : OutstandingPacket} (k' : OutstandingsCounters)
    (hnodup : (packets.map (·.ownEvent)).Nodup) (hrep : rep ∈ packets)
    (hlost : rep.declaredLost = false) (hassoc : rep.associatedEvent = some event)
    (hown : rep.ownEvent = event) (hlive : event ∈ k.packetEvents)
    (herase : k'.packetEvents = k.packetEvents.erase event) :
    (packets.filter k.carries).Perm (rep :: packets.filter k'.carries) := by
  have hsplit := List.perm_cons_erase hrep
  have hcarries : k.carries rep = true := by
    simp [OutstandingsCounters.carries, hlost, hassoc, hown, hlive]
  have hcarries' : k'.carries rep = false := by
    simp [OutstandingsCounters.carries, hassoc, herase]
  have hothers : ∀ q ∈ packets.erase rep, k.carries q = k'.carries q := by
    intro q hq
    have hne : q.ownEvent ≠ event := by
      rw [← hown]
      intro heq
      have hnodup' := (hsplit.map _).nodup_iff.mp hnodup
      rw [List.map_cons, List.nodup_cons] at hnodup'
      exact hnodup'.1 (heq ▸ List.mem_map_of_mem hq)
    unfold OutstandingsCounters.carries
    rw [herase]
    cases hq : q.associatedEvent with
    | none => rfl
    | some e =>
      by_cases he : e = q.ownEvent
      · simp [he, hne]
      · have hbeq : (e == q.ownEvent) = false := beq_eq_false_iff_ne.mpr he
        simp [hbeq]
  calc (packets.filter k.carries).Perm ((rep :: packets.erase rep).filter k.carries) :=
        hsplit.filter _
    _ = rep :: (packets.erase rep).filter k'.carries := by
        rw [List.filter_cons_of_pos hcarries, List.filter_congr hothers]
    _ = rep :: (rep :: packets.erase rep).filter k'.carries := by
        rw [List.filter_cons_of_neg (by rw [hcarries']; exact Bool.false_ne_true)]
    List.Perm _ (rep :: packets.filter k'.carries) := (hsplit.symm.filter _).cons rep

section Carriers

variable (h : Tally k (p :: packets)) (hlost : p.declaredLost = false)

/-- A processed clone that is retired carried nothing. -/
theorem carriers_of_processed (hprocessed : k.processed p = true) :
    (p :: packets).filter k.carries = packets.filter (k.retired p).carries := by
  obtain ⟨event, hassoc, hdead⟩ : ∃ event, p.associatedEvent = some event ∧
      event ∉ k.packetEvents := by
    cases hassoc : p.associatedEvent with
    | none => simp [OutstandingsCounters.processed, hassoc] at hprocessed
    | some event =>
      exact ⟨event, rfl, by simpa [OutstandingsCounters.processed, hassoc] using hprocessed⟩
  have hevents : (k.retired p).packetEvents = k.packetEvents := by
    simp [OutstandingsCounters.retired, OutstandingsCounters.eraseEvent, hassoc, hdead]
  have hcarries : (k.retired p).carries = k.carries := by
    funext q
    unfold OutstandingsCounters.carries
    rw [hevents]
  have hnot : ¬ k.carries p = true := by
    simp [OutstandingsCounters.carries, hassoc, hdead]
  rw [hcarries, List.filter_cons_of_neg hnot]

include h hlost in
/-- Another packet that is retired ends the responsibility of one carrier: of itself, or of
the first packet of its event. -/
theorem carriers_of_unprocessed (hnodup : ((p :: packets).map (·.ownEvent)).Nodup)
    (hprocessed : k.processed p = false) :
    ∃ rep ∈ p :: packets, rep.declaredLost = false ∧
      (rep = p ∨ p.associatedEvent = rep.associatedEvent ∧
        rep.associatedEvent = some rep.ownEvent) ∧
      ((p :: packets).filter k.carries).Perm (rep :: packets.filter (k.retired p).carries) := by
  cases hassoc : p.associatedEvent with
  | none =>
    have hcarries : (k.retired p).carries = k.carries := by
      funext q
      simp [OutstandingsCounters.carries, OutstandingsCounters.retired,
        OutstandingsCounters.eraseEvent, hassoc]
    refine ⟨p, List.mem_cons_self, hlost, .inl rfl, ?_⟩
    rw [hcarries, List.filter_cons_of_pos (by
      simp [OutstandingsCounters.carries, hlost, hassoc])]
  | some event =>
    have hlive : event ∈ k.packetEvents := by
      simpa [OutstandingsCounters.processed, hassoc] using hprocessed
    obtain ⟨rep, hrep, hreplost, hrepassoc, hown⟩ := h.carried event hlive
    refine ⟨rep, hrep, hreplost, .inr ⟨hrepassoc.symm, by rw [hrepassoc, hown]⟩, ?_⟩
    have hperm := filter_carries_erase (k.retired p) hnodup hrep hreplost hrepassoc hown
      hlive (by simp [OutstandingsCounters.retired, OutstandingsCounters.eraseEvent, hassoc])
    have hnot : ¬ (k.retired p).carries p = true := by
      simp [OutstandingsCounters.carries, OutstandingsCounters.retired,
        OutstandingsCounters.eraseEvent, hassoc]
    rwa [List.filter_cons_of_neg hnot] at hperm

end Carriers

end MasqueQuic
