/-
Contracts between the outstanding packets and the rest of the connection.

Frames are handed from place to place: a packet carries them until it is acknowledged or
lost; clones carry them again without adding to the responsibility; an event is over when
one of its packets is dealt with. A `Contract` states a property of the rest of the
connection relative to the packets that answer for their frames, and says what each handler
must do for it. The theorems of this module show that the functions that work on
outstanding packets then keep it, together with the counters (`Tally`).
-/

import MasqueQuic.Quic.Accounting

namespace MasqueQuic

variable {σ ε : Type}

def OutstandingPacket.sent (p : OutstandingPacket) : RegularQuicWritePacket :=
  ⟨p.protectionType, p.frames⟩

/-- The loop over the frames of a packet that was declared lost and is acknowledged. -/
def spuriousStep (h : Handlers σ ε) (s : σ) (frame : WriteStreamFrame) : Except ε σ :=
  h.spuriousLoss frame s

def OutstandingPacket.streamFrames (p : OutstandingPacket) : List WriteStreamFrame :=
  p.frames.filterMap QuicWriteFrame.asWriteStreamFrame

/-- The stream frames of the lost packets in a list. -/
def spuriousFrames (packets : List OutstandingPacket) : List WriteStreamFrame :=
  (packets.filter (·.declaredLost)).flatMap (·.streamFrames)

/-- `Holds cs s`: the packets `cs` answer for what the rest `s` has given away. `Copy a b s`:
the packet `b` carries what `a` does, as far as it still matters in `s`. -/
structure Contract (h : Handlers σ ε) (E : ε → Prop) where
  Holds : List RegularQuicWritePacket → σ → Prop
  Copy : RegularQuicWritePacket → RegularQuicWritePacket → σ → Prop
  /-- Where a spurious loss does no harm. -/
  Spurious : σ → WriteStreamFrame → Prop
  Later : σ → σ → Prop
  later_refl : ∀ s, Later s s
  later_trans : ∀ {s t u}, Later s t → Later t u → Later s u
  copy_refl : ∀ a s, Copy a a s
  copy_trans : ∀ {a b d s}, Copy a b s → Copy b d s → Copy a d s
  copy_later : ∀ {a b s t}, Copy a b s → Later s t → Copy a b t
  holds_perm : ∀ {cs ds s}, cs.Perm ds → Holds cs s → Holds ds s
  ack : ∀ {a cs s} {p : OutstandingPacket}, Holds (a :: cs) s → Copy a p.sent s →
    Ends E (p.frames.foldlM (fun s frame => h.ackVisitor p frame s) s)
      (fun t => Holds cs t ∧ Later s t)
  ackProcessed : ∀ {cs s} {p : OutstandingPacket}, Holds cs s →
    Ends E (h.ackVisitor p .writeAck s) (fun t => Holds cs t ∧ Later s t)
  loss : ∀ {a cs s} {p : OutstandingPacket}, Holds (a :: cs) s → Copy a p.sent s →
    Ends E (h.lossVisitor p false s) (fun t => Holds cs t ∧ Later s t)
  lossProcessed : ∀ {cs s} {p : OutstandingPacket}, Holds cs s →
    Ends E (h.lossVisitor p true s) (fun t => Holds cs t ∧ Later s t)
  spurious : ∀ {cs s frame}, Holds cs s → Spurious s frame →
    Ends E (h.spuriousLoss frame s) (fun t => Holds cs t ∧ Later s t)

/-- The failures that are allowed: some checks, and what the handlers may throw. -/
def Allowed (A : SendCheck → Prop) (E : ε → Prop) : SendFailure ε → Prop
  | .check which => A which
  | .thrown e => E e

variable {h : Handlers σ ε} {E : ε → Prop} {A : SendCheck → Prop} {C : Contract h E}
  {k : OutstandingsCounters} {p : OutstandingPacket} {packets packets' : List OutstandingPacket}
  {pending : List RegularQuicWritePacket} {s t : σ}

theorem ends_liftHandler {α : Type} {x : Except ε α} {Q : α → Prop} (hx : Ends E x Q) :
    Ends (Allowed A E) (liftHandler x) Q := by
  cases x with
  | error e => exact hx
  | ok a => exact hx

theorem ends_checkThat {which : SendCheck} {P : Prop} [Decidable P] (hP : P ∨ A which) :
    Ends (Allowed A E) (checkThat which P : Except (SendFailure ε) Unit) (fun _ => P) := by
  unfold checkThat
  by_cases h : P
  · rw [if_pos h]
    exact .ok h
  · rw [if_neg h]
    exact .error (hP.resolve_left h)

namespace Contract

/-- The contract holds between a queue with its counters and the rest; `pending` are
packets that have left the queue and whose frames are still to be visited. -/
structure Upholds (C : Contract h E) (k : OutstandingsCounters)
    (packets : List OutstandingPacket) (pending : List RegularQuicWritePacket) (s : σ) : Prop where
  tally : Tally k packets
  nodup : (packets.map (·.ownEvent)).Nodup
  copies : ∀ p ∈ packets, ∀ q ∈ packets, p.declaredLost = false → q.declaredLost = false →
    p.associatedEvent.isSome = true → p.associatedEvent = q.associatedEvent →
    k.processed p = false → q.associatedEvent = some q.ownEvent → C.Copy q.sent p.sent s
  holds : C.Holds (pending ++ (packets.filter k.carries).map (·.sent)) s

theorem Upholds.perm (hu : C.Upholds k packets pending s) (hperm : packets.Perm packets') :
    C.Upholds k packets' pending s where
  tally := hu.tally.perm hperm
  nodup := (hperm.map _).nodup_iff.mp hu.nodup
  copies p hp q hq :=
    hu.copies p (hperm.mem_iff.mpr hp) q (hperm.mem_iff.mpr hq)
  holds := C.holds_perm (((hperm.filter _).map _).append_left pending) hu.holds

/-- The rest may change as long as the contract holds. -/
theorem Upholds.later {pending' : List RegularQuicWritePacket} (hu : C.Upholds k packets pending s)
    (hholds : C.Holds (pending' ++ (packets.filter k.carries).map (·.sent)) t)
    (hlater : C.Later s t) : C.Upholds k packets pending' t :=
  ⟨hu.tally, hu.nodup, fun p hp q hq h1 h2 h3 h4 h5 h6 =>
    C.copy_later (hu.copies p hp q hq h1 h2 h3 h4 h5 h6) hlater, hholds⟩

/-- An event that is live after a packet was retired was live before. -/
theorem processed_of_retired {q : OutstandingPacket} (hq : q.associatedEvent.isSome = true)
    (hprocessed : (k.retired p).processed q = false) : k.processed q = false := by
  obtain ⟨event, hevent⟩ := Option.isSome_iff_exists.mp hq
  simp only [OutstandingsCounters.processed, hevent, decide_eq_false_iff_not, not_not]
    at hprocessed ⊢
  unfold OutstandingsCounters.retired OutstandingsCounters.eraseEvent at hprocessed
  cases hp : p.associatedEvent with
  | none => simpa [hp] using hprocessed
  | some e =>
    have hmem : event ≠ e ∧ event ∈ k.packetEvents := by simpa [hp] using hprocessed
    exact hmem.2

theorem Upholds.retired_copies (hu : C.Upholds k (p :: packets) pending s) :
    ∀ q ∈ packets, ∀ r ∈ packets, q.declaredLost = false → r.declaredLost = false →
      q.associatedEvent.isSome = true → q.associatedEvent = r.associatedEvent →
      (k.retired p).processed q = false → r.associatedEvent = some r.ownEvent →
      C.Copy r.sent q.sent s := by
  intro q hq r hr hqlost hrlost hsome hassoc hprocessed hown
  exact hu.copies q (List.mem_cons_of_mem p hq) r (List.mem_cons_of_mem p hr) hqlost hrlost hsome
    hassoc (processed_of_retired hsome hprocessed) hown

/-- A processed clone leaves the queue and nothing else changes. -/
theorem Upholds.retire_processed (hu : C.Upholds k (p :: packets) pending s)
    (hlost : p.declaredLost = false) (hprocessed : k.processed p = true) :
    C.Upholds (k.retired p) packets pending s where
  tally := hu.tally.retired hlost
  nodup := (List.nodup_cons.mp hu.nodup).2
  copies := hu.retired_copies
  holds := by
    rw [← carriers_of_processed hprocessed]
    exact hu.holds

/-- Another packet leaves the queue, and a packet that it is a copy of is pending. -/
theorem Upholds.retire_unprocessed (hu : C.Upholds k (p :: packets) pending s)
    (hlost : p.declaredLost = false) (hprocessed : k.processed p = false) :
    ∃ a, C.Copy a p.sent s ∧ C.Upholds (k.retired p) packets (a :: pending) s := by
  obtain ⟨rep, hrep, hreplost, hcase, hperm⟩ :=
    carriers_of_unprocessed hu.tally hlost hu.nodup hprocessed
  refine ⟨rep.sent, ?_, hu.tally.retired hlost, (List.nodup_cons.mp hu.nodup).2,
    hu.retired_copies, ?_⟩
  · rcases hcase with rfl | ⟨hassoc, hown⟩
    · exact C.copy_refl _ s
    · exact hu.copies p List.mem_cons_self rep hrep hlost hreplost (by rw [hassoc, hown]; rfl)
        hassoc hprocessed hown
  · refine C.holds_perm ?_ hu.holds
    refine ((hperm.map _).append_left pending).trans ?_
    rw [List.map_cons]
    exact List.perm_middle

/-! ### Lost packets -/

/-- The loss visitor on a packet that is retired. -/
theorem Upholds.lose (hu : C.Upholds k (p :: packets) pending s) (hlost : p.declaredLost = false) :
    Ends E (h.lossVisitor p (k.processed p) s)
      (fun t => C.Upholds (k.retired p) packets pending t ∧ C.Later s t) := by
  cases hprocessed : k.processed p with
  | true =>
    have hu' := hu.retire_processed hlost hprocessed
    exact (C.lossProcessed hu'.holds).imp fun t ht => ⟨hu'.later ht.1 ht.2, ht.2⟩
  | false =>
    obtain ⟨a, hcopy, hu'⟩ := hu.retire_unprocessed hlost hprocessed
    exact (C.loss hu'.holds hcopy).imp fun t ht => ⟨hu'.later ht.1 ht.2, ht.2⟩

/-- A packet that is declared lost stays in the queue and carries nothing. -/
theorem Upholds.addLost {k' : OutstandingsCounters} (hu : C.Upholds k packets pending s)
    (hlost : p.declaredLost = true) (hnodup : ((p :: packets).map (·.ownEvent)).Nodup)
    (hspace : ∀ event, p.associatedEvent = some event →
      event.packetNumberSpace = p.packetNumberSpace)
    (hevents : k'.packetEvents = k.packetEvents) (hcount : k'.packetCount = k.packetCount)
    (hcloned : k'.clonedPacketCount = k.clonedPacketCount)
    (hlostCount : k'.declaredLostCount = k.declaredLostCount + 1) :
    C.Upholds k' (p :: packets) pending s := by
  have hcarries : k'.carries = k.carries := by
    funext q
    unfold OutstandingsCounters.carries
    rw [hevents]
  have hnot : ¬ k.carries p = true := by simp [OutstandingsCounters.carries, hlost]
  refine ⟨⟨fun s => ?_, fun s => ?_, ?_, fun event hevent => ?_, fun q hq => ?_⟩, hnodup, ?_, ?_⟩
  · rw [hcount, hevents, hu.tally.packetCount s, List.countP_cons]
    simp [OutstandingPacket.isPlain, hlost]
  · rw [hcloned, hu.tally.clonedPacketCount s, List.countP_cons]
    simp [OutstandingPacket.isCloned, hlost]
  · rw [hlostCount, hu.tally.declaredLostCount, List.countP_cons, if_pos hlost]
  · obtain ⟨q, hq, hcarried⟩ := hu.tally.carried event (hevents ▸ hevent)
    exact ⟨q, List.mem_cons_of_mem p hq, hcarried⟩
  · rcases List.mem_cons.mp hq with rfl | hq
    · exact hspace
    · exact hu.tally.eventSpace q hq
  · intro q hq r hr hqlost hrlost hsome hassoc hprocessed hown
    have hmem : ∀ x ∈ p :: packets, x.declaredLost = false → x ∈ packets := by
      intro x hx hxlost
      rcases List.mem_cons.mp hx with rfl | hx
      · rw [hlost] at hxlost
        cases hxlost
      · exact hx
    have hprocessed' : k.processed q = false := by
      unfold OutstandingsCounters.processed at hprocessed ⊢
      rwa [hevents] at hprocessed
    exact hu.copies q (hmem q hq hqlost) r (hmem r hr hrlost) hqlost hrlost hsome hassoc
      hprocessed' hown
  · rw [hcarries, List.filter_cons_of_neg hnot]
    exact hu.holds

end Contract

/-- The packet without the marks of loss detection. -/
def OutstandingPacket.unmarked (p : OutstandingPacket) : OutstandingPacket :=
  { p with declaredLost := false, lossTimeoutDividend := none, lossReorderDistance := none }

/-- DSR frames are sent in DSR packets. -/
def OutstandingPacket.DsrFrames (p : OutstandingPacket) : Prop :=
  ∀ frame, p.frames.head?.bind QuicWriteFrame.asWriteStreamFrame = some frame →
    frame.fromBufMeta = true → p.isDSRPacket = true

theorem reorderDistance_ends {q : LossParams} (hdsr : A .dsrPacket ∨ p.DsrFrames)
    (hacked : q.acked.largestDsrAcked = [] → q.acked.largestNonDsrAcked = some q.largestAcked) :
    Ends (Allowed A E) (q.reorderDistance p) (fun _ => True) := by
  have hother : Ends (Allowed A E) (q.nonDsrDistance p) (fun _ => True) := by
    unfold LossParams.nonDsrDistance
    refine Ends.ite (fun hnil => ?_) fun _ => .ok trivial
    exact (ends_checkThat (.inl (hacked hnil))).bind fun _ _ => .ok trivial
  unfold LossParams.reorderDistance
  cases hframe : p.frames.head?.bind QuicWriteFrame.asWriteStreamFrame with
  | none => exact hother
  | some frame =>
    refine Ends.ite (fun hmeta => ?_) fun _ => hother
    have hcheck : p.isDSRPacket = true ∨ A .dsrPacket :=
      hdsr.symm.imp_left fun hp => hp frame hframe hmeta
    exact (ends_checkThat hcheck).bind fun _ _ => .ok trivial

theorem largestAckedOf_nonDsr (largestAcked : Nat) (ackedPackets : List AckPacket)
    (hnil : (largestAckedOf largestAcked ackedPackets).largestDsrAcked = []) :
    (largestAckedOf largestAcked ackedPackets).largestNonDsrAcked = some largestAcked := by
  unfold largestAckedOf at hnil ⊢
  dsimp only at hnil ⊢
  by_cases h : (ackedPackets.foldl LargestAcked.addPacket ⟨[], none⟩).largestDsrAcked = []
  · rw [if_pos h]
  · rw [if_neg h] at hnil
    exact absurd hnil h

/-- What loss detection keeps. -/
structure Contract.Scanned (C : Contract h E) (k : OutstandingsCounters)
    (packets : List OutstandingPacket) (s : σ) : Prop where
  upholds : C.Upholds k packets [] s
  dsr : k.dsrCount = packets.countP (·.isLiveDsr)

theorem Contract.Scanned.perm (hs : C.Scanned k packets s) (hperm : packets.Perm packets') :
    C.Scanned k packets' s :=
  ⟨hs.upholds.perm hperm, by rw [hs.dsr, hperm.countP_eq]⟩

/-- One packet is declared lost. -/
theorem Contract.Scanned.lose {β : Type} {Q : β → Prop}
    {f : σ → OutstandingsCounters → Except (SendFailure ε) β} (q : LossParams) (distance : Nat)
    (hs : C.Scanned k (p :: packets) s) (hlost : p.declaredLost = false)
    (hf : ∀ t k', C.Scanned k' (q.markLost p distance :: packets) t → C.Later s t →
      Ends (Allowed A E) (f t k') Q) :
    Ends (Allowed A E)
      (liftHandler (h.lossVisitor p (k.processed p) s) >>= fun t => k.onLoss p >>= f t) Q := by
  have hdsr : p.isDSRPacket = true → 0 < k.dsrCount := by
    intro hp
    rw [hs.dsr, List.countP_cons, if_pos (by simp [OutstandingPacket.isLiveDsr, hlost, hp])]
    omega
  refine (ends_liftHandler (hs.upholds.lose hlost)).bind fun t ht => ?_
  rw [hs.upholds.tally.onLoss_eq hlost hdsr]
  refine hf t _ ⟨ht.1.addLost rfl ?_ ?_ rfl rfl rfl ?_, ?_⟩ ht.2
  · exact hs.upholds.nodup
  · exact hs.upholds.tally.eventSpace p List.mem_cons_self
  · unfold OutstandingsCounters.retired OutstandingsCounters.eraseEvent
    cases p.associatedEvent <;> rfl
  · have hcount := hs.dsr
    rw [List.countP_cons] at hcount ⊢
    have hmarked : (q.markLost p distance).isLiveDsr = false := rfl
    have hlive : p.isLiveDsr = p.isDSRPacket := by simp [OutstandingPacket.isLiveDsr, hlost]
    rw [hmarked]
    rw [hlive] at hcount
    rw [hcount]
    exact Nat.add_sub_cancel _ _

/-- The loop of loss detection. `before` has been passed. -/
theorem Contract.Scanned.lossLoop {q : LossParams} (before : List OutstandingPacket)
    (hs : C.Scanned k (before ++ packets) s)
    (hdsr : A .dsrPacket ∨ ∀ p ∈ packets, p.DsrFrames)
    (hacked : q.acked.largestDsrAcked = [] → q.acked.largestNonDsrAcked = some q.largestAcked) :
    Ends (Allowed A E) (lossLoop h q packets k s)
      (fun r => C.Scanned r.2.1 (before ++ r.1) r.2.2 ∧ C.Later s r.2.2 ∧
        r.1.map (·.unmarked) = packets.map (·.unmarked)) := by
  induction packets generalizing before k s with
  | nil => exact .ok ⟨hs, C.later_refl s, rfl⟩
  | cons p packets ih =>
    have hrest : A .dsrPacket ∨ ∀ p ∈ packets, p.DsrFrames :=
      hdsr.imp_right fun hall x hx => hall x (List.mem_cons_of_mem p hx)
    -- the packet stays as it is and the loop goes on
    have hkeep : Ends (Allowed A E)
        (MasqueQuic.lossLoop h q packets k s >>= fun r => .ok (p :: r.1, r.2.1, r.2.2))
        (fun r => C.Scanned r.2.1 (before ++ r.1) r.2.2 ∧ C.Later s r.2.2 ∧
          r.1.map (·.unmarked) = (p :: packets).map (·.unmarked)) := by
      have hih := ih (before ++ [p]) (by rwa [List.append_assoc]) hrest
      refine hih.bind fun r hr => .ok ⟨?_, hr.2.1, ?_⟩
      · rw [← List.singleton_append, ← List.append_assoc]
        exact hr.1
      · rw [List.map_cons, List.map_cons, hr.2.2]
    rw [MasqueQuic.lossLoop]
    refine Ends.ite (fun _ => .ok ⟨hs, C.later_refl s, rfl⟩) fun _ => ?_
    refine Ends.ite (fun _ => hkeep) fun hown => ?_
    have hlost : p.declaredLost = false := by
      rw [not_or] at hown
      simpa using hown.2
    refine (reorderDistance_ends (hdsr.imp_right fun hall => hall p List.mem_cons_self)
      hacked).bind fun distance _ => ?_
    refine Ends.ite (fun _ => hkeep) fun _ => ?_
    refine (hs.perm List.perm_middle).lose q distance hlost fun t k' hs' hlater => ?_
    have hih := ih (before ++ [q.markLost p distance])
      ((hs'.perm List.perm_middle.symm).perm (by simp)) hrest
    refine hih.bind fun r hr => .ok ⟨?_, C.later_trans hlater hr.2.1, ?_⟩
    · rw [← List.singleton_append, ← List.append_assoc]
      exact hr.1
    · rw [List.map_cons, List.map_cons, hr.2.2]
      rfl

end MasqueQuic
