/-
The outstanding packets over whole runs.

A run is any sequence of sends, clones, ack frames, loss timers and 0-RTT rejections, with
anything else the connection does in between. The handlers of the frames are arbitrary, so
the contract asks nothing of them (`anyHandlers`), and what remains of the invariant is
about the queue and its counters alone.
-/

import MasqueQuic.Quic.SendContract

namespace MasqueQuic

variable {σ ε : Type}

/-! ### Arbitrary handlers -/

/-- The contract that holds whatever the handlers do. -/
def anyHandlers (h : Handlers σ ε) : Contract h (fun _ => True) where
  Holds _ _ := True
  Copy _ _ _ := True
  Spurious _ _ := True
  Later _ _ := True
  later_refl _ := trivial
  later_trans _ _ := trivial
  copy_refl _ _ := trivial
  copy_trans _ _ := trivial
  copy_later _ _ := trivial
  holds_perm _ _ := trivial
  ack _ _ := .of_forall (fun _ => trivial) fun _ => ⟨trivial, trivial⟩
  ackProcessed _ := .of_forall (fun _ => trivial) fun _ => ⟨trivial, trivial⟩
  loss _ _ := .of_forall (fun _ => trivial) fun _ => ⟨trivial, trivial⟩
  lossProcessed _ := .of_forall (fun _ => trivial) fun _ => ⟨trivial, trivial⟩
  spurious _ _ := .of_forall (fun _ => trivial) fun _ => ⟨trivial, trivial⟩

/-! ### Runs -/

inductive SendEvent (σ ε : Type) where
  | send (packet : RegularQuicWritePacket) (sentTime : Nat)
  /-- A DSR packet. Its header is a short one of key phase zero. -/
  | sendDsr (frames : List QuicWriteFrame) (sentTime : Nat)
  /-- `CloningScheduler` rebuilds the packet at an index of the queue. There is no time when
  the clone is not sent after all. -/
  | clone (index : Nat) (packet : RegularQuicWritePacket) (sentTime : Option Nat)
  | ack (pnSpace : PacketNumberSpace) (frame : ReadAckFrame) (times : AckTimes)
  | lossTimer (pnSpace : PacketNumberSpace) (now : Nat)
  | zeroRttRejected
  /-- `handshakeConfirmed` gives up the first two spaces. -/
  | resetAckStates
  /-- Round trip times and settings are changed from elsewhere, as on migration. -/
  | tune (lossState : LossState) (transportSettings : TransportSettings)
  /-- Anything that does not touch the outstanding packets. -/
  | other (f : σ → Except ε σ)

def SendConn.step (h : Handlers σ ε) (c : SendConn σ) :
    SendEvent σ ε → Except (SendFailure ε) (SendConn σ)
  | .send packet sentTime => updateConnection h c none packet sentTime false
  | .sendDsr frames sentTime => updateConnection h c none ⟨.keyPhaseZero, frames⟩ sentTime true
  | .clone index packet sentTime => clonePacket h c index packet sentTime
  | .ack pnSpace frame times => do
      let (c, _) ← processAckFrame h pnSpace frame times c
      return c
  | .lossTimer pnSpace now => onLossTimer h pnSpace now c
  | .zeroRttRejected => markZeroRttPacketsLost h c
  | .resetAckStates =>
      .ok { c with ackStates := (c.ackStates.reset .initial).reset .handshake }
  | .tune lossState transportSettings => .ok { c with lossState, transportSettings }
  | .other f => do
      let rest ← liftHandler (f c.rest)
      return { c with rest }

variable {h : Handlers σ ε} {c : SendConn σ}

/-- One step, whatever the handlers do. -/
theorem anyHandlers_step (hc : (anyHandlers h).Inv c) (e : SendEvent σ ε) :
    Ends (Allowed (fun which => which.onCounter = false) fun _ => True) (c.step h e)
      (anyHandlers h).Inv := by
  have hack : SendCheck.onCounter .ackState = false := rfl
  have hdsr : SendCheck.onCounter .dsrPacket = false := rfl
  have hsent : ∀ (p : OutstandingPacket) (Q : σ → Prop), (∀ t, Q t) →
      Ends (fun _ => True) (h.packetSent p c.rest) Q :=
    fun p Q hQ => .of_forall (fun _ => trivial) hQ
  cases e with
  | send packet sentTime =>
    rw [SendConn.step]
    refine Ends.imp (hc.send (.inl hack) nofun fun a cs _ _ => ?_) fun c' hc' => hc'.1
    exact hsent _ _ fun t => ⟨trivial, trivial⟩
  | sendDsr frames sentTime =>
    rw [SendConn.step]
    refine Ends.imp (hc.send (.inl hack) (fun _ => nofun) fun a cs _ _ => ?_) fun c' hc' => hc'.1
    exact hsent _ _ fun t => ⟨trivial, trivial⟩
  | clone index packet sentTime =>
    rw [SendConn.step]
    refine Ends.imp (hc.clonePacket (.inl hack) (fun _ _ _ _ _ _ => trivial)
      fun p r _ _ _ _ _ => ?_)
      fun c' hc' => hc'.1
    exact hsent _ _ fun t => ⟨trivial, trivial⟩
  | ack pnSpace frame times =>
    have hspurious : (anyHandlers h).SpuriousMet pnSpace frame c :=
      fun _ => .of_forall (fun _ _ => trivial) _ _
    rw [SendConn.step]
    exact (hc.processAckFrame hspurious (.inl hdsr) (.inl hack)).bind fun r hr => .ok hr.inv
  | lossTimer pnSpace now =>
    rw [SendConn.step]
    exact (hc.onLossTimer now (.inl hdsr) (.inl hack)).imp fun c' hc' => hc'.1
  | zeroRttRejected =>
    rw [SendConn.step]
    exact hc.markZeroRttPacketsLost.imp fun c' hc' => hc'.1
  | resetAckStates =>
    rw [SendConn.step]
    exact .ok ⟨hc.scanned, (hc.numbered.reset .initial).reset .handshake, hc.sorted, hc.keyed⟩
  | tune lossState transportSettings =>
    rw [SendConn.step]
    exact .ok ⟨hc.scanned, hc.numbered, hc.sorted, hc.keyed⟩
  | other f =>
    rw [SendConn.step]
    have hf : Ends (fun _ => True) (f c.rest) (fun _ => True) :=
      .of_forall (fun _ => trivial) fun _ => trivial
    refine (ends_liftHandler hf).bind fun rest _ => .ok ?_
    exact hc.withRest (fun _ _ _ => trivial) fun _ _ => trivial

/-! ### The counters -/

/-- What the counters count. -/
structure Accounted (o : OutstandingsInfo) : Prop where
  packetCount : ∀ s, o.packetCount s =
    o.packets.countP (·.isPlain s) + liveEvents s o.packetEvents
  clonedPacketCount : ∀ s, o.clonedPacketCount s = o.packets.countP (·.isCloned s)
  liveEvent : ∀ event ∈ o.packetEvents,
    ∃ p ∈ o.packets, p.declaredLost = false ∧ p.associatedEvent = some event
  declaredLostCount : o.declaredLostCount = o.packets.countP (·.declaredLost)
  dsrCount : o.dsrCount = o.packets.countP (·.isLiveDsr)

theorem Contract.Inv.accounted {E : ε → Prop} {C : Contract h E} (hc : C.Inv c) :
    Accounted c.outstandings where
  packetCount := hc.scanned.upholds.tally.packetCount
  clonedPacketCount := hc.scanned.upholds.tally.clonedPacketCount
  liveEvent event hevent := by
    obtain ⟨p, hp, hlost, hassoc, -⟩ := hc.scanned.upholds.tally.carried event hevent
    exact ⟨p, hp, hlost, hassoc⟩
  declaredLostCount := hc.scanned.upholds.tally.declaredLostCount
  dsrCount := hc.scanned.dsr

theorem anyHandlers_run {c₀ : SendConn σ} (hnew : c₀.outstandings = .empty)
    (events : List (SendEvent σ ε)) :
    Ends (Allowed (fun which => which.onCounter = false) fun _ => True)
      (events.foldlM (SendConn.step h) c₀) (anyHandlers h).Inv :=
  Ends.foldlM (I := fun c _ => (anyHandlers h).Inv c) (fun _ e _ hc => anyHandlers_step hc e)
    (.new hnew trivial)

/-- In every run from a new connection, with any handlers, the counters count what they
stand for, and no check on a counter fails. -/
theorem outstandings_accounting (h : Handlers σ ε) (c₀ : SendConn σ)
    (hnew : c₀.outstandings = .empty) (events : List (SendEvent σ ε)) :
    (∀ c, events.foldlM (SendConn.step h) c₀ = .ok c → Accounted c.outstandings) ∧
      ∀ which, events.foldlM (SendConn.step h) c₀ = .error (.check which) →
        which.onCounter = false := by
  have hrun := anyHandlers_run (h := h) hnew events
  exact ⟨fun c hc => (hrun.of_ok hc).accounted, fun which hfail => hrun.of_error hfail⟩

/-- Handlers that do nothing. -/
def idle : Handlers Unit Empty where
  packetSent _ s := .ok s
  ackVisitor _ _ s := .ok s
  lossVisitor _ _ s := .ok s
  spuriousLoss _ s := .ok s
  findStream _ _ := false

/-- A connection that has sent nothing. -/
def idleConn : SendConn Unit where
  outstandings := .empty
  ackStates := ⟨some ⟨0, none⟩, some ⟨0, none⟩, ⟨0, none⟩⟩
  lossState := ⟨0, 0, 0, 0, 0, 3⟩
  transportSettings := ⟨100000, 9, 8, false, false, false⟩
  rest := ()

/-- The events of a probe: a packet is sent and cloned, and the clone is acknowledged. -/
def probe : List (SendEvent Unit Empty) := [
  .send ⟨.keyPhaseZero, [.maxData 10]⟩ 0,
  .clone 0 ⟨.keyPhaseZero, [.maxData 10]⟩ (some 5),
  .ack .appData ⟨1, 0, false, [⟨1, 1⟩], ⟨by decide, List.pairwise_singleton _ _⟩⟩ ⟨9, 9⟩ ]

theorem outstandings_accounting_probe :
    ∃ c, probe.foldlM (SendConn.step idle) idleConn = .ok c ∧ Accounted c.outstandings ∧
      c.outstandings.packets.length = 1 :=
  ⟨_, rfl, (outstandings_accounting idle idleConn rfl probe).1 _ rfl, rfl⟩

/-! ### What an ack frame removes and reports -/

/-- The queue and its counters are as every run leaves them. -/
structure QueueInv (c : SendConn σ) : Prop where
  tally : Tally c.outstandings.toOutstandingsCounters c.outstandings.packets
  dsr : c.outstandings.dsrCount = c.outstandings.packets.countP (·.isLiveDsr)
  numbered : Numbered c.outstandings.packets c.ackStates
  sorted : SortedPackets c.outstandings.packets
  keyed : DsrKeyed c.outstandings.packets

theorem QueueInv.anyHandlers (hc : QueueInv c) (h : Handlers σ ε) :
    (MasqueQuic.anyHandlers h).Inv c :=
  ⟨⟨⟨hc.tally, hc.numbered.nodup, fun _ _ _ _ _ _ _ _ _ _ => trivial, trivial⟩, hc.dsr⟩,
    hc.numbered, hc.sorted, hc.keyed⟩

theorem QueueInv.of_run {c₀ : SendConn σ} (hnew : c₀.outstandings = .empty)
    (events : List (SendEvent σ ε)) (hrun : events.foldlM (SendConn.step h) c₀ = .ok c) :
    QueueInv c := by
  have hc := (anyHandlers_run hnew events).of_ok hrun
  exact ⟨hc.scanned.upholds.tally, hc.scanned.dsr, hc.numbered, hc.sorted, hc.keyed⟩

/-- The packets that `processAckFrame` leaves in the queue and the ones it reports.

The packets in no block stay, in their order; loss detection may mark some of them. Of
these, `front` is what `clearOldOutstandingPackets` walks over: it drops the packets of the
space there, all of them declared lost and older than the probe timeout. -/
structure AckExact (c : SendConn σ) (pnSpace : PacketNumberSpace) (frame : ReadAckFrame)
    (times : AckTimes) (c' : SendConn σ) (acked : List AckPacket) : Prop where
  queue : ∃ front back,
    (front ++ back).map (·.unmarked) =
      (c.outstandings.packets.filter fun p => !acks pnSpace frame.ackBlocks p).map (·.unmarked) ∧
    (∀ p ∈ front, IsOld times.ackReceiveTime (calculatePTO c') pnSpace p) ∧
    c'.outstandings.packets = front.filter (fun p => !own pnSpace p) ++ back
  reports : List.Forall₂ AckPacket.Reports acked
    (c.outstandings.packets.filter fun p => acks pnSpace frame.ackBlocks p && !p.declaredLost)
  increasing : acked.Pairwise fun a b => a.packetNum < b.packetNum

/-- The two checks of `processAckFrame` that are not about its own bookkeeping. -/
def ForeignCheck (c : SendConn σ) (pnSpace : PacketNumberSpace) (which : SendCheck) : Prop :=
  which = .ackState ∧ c.ackStates.get pnSpace = none ∨
    which = .dsrPacket ∧ ¬ ∀ p ∈ c.outstandings.packets, p.DsrFrames

theorem forall₂_reports_increasing {acked : List AckPacket} {reported : List OutstandingPacket}
    (hreports : List.Forall₂ AckPacket.Reports acked reported)
    (hincreasing : reported.Pairwise fun p q => p.packetNum < q.packetNum) :
    acked.Pairwise fun a b => a.packetNum < b.packetNum := by
  have hnums : acked.map (·.packetNum) = reported.map (·.packetNum) := by
    induction hreports with
    | nil => rfl
    | cons hab _ ih =>
      rw [List.map_cons, List.map_cons, hab.1, ih hincreasing.of_cons]
  have hsorted : (acked.map (·.packetNum)).Pairwise (· < ·) := by
    rw [hnums]
    exact List.pairwise_map.mpr hincreasing
  exact List.pairwise_map.mp hsorted

/-- Whatever the handlers do, `processAckFrame` removes and reports the right packets, or a
handler throws, or the state of the space is gone, or a packet with a DSR frame is not a DSR
packet. -/
theorem processAckFrame_exact (h : Handlers σ ε) (c : SendConn σ) (hc : QueueInv c)
    (pnSpace : PacketNumberSpace) (frame : ReadAckFrame) (times : AckTimes) :
    Ends (Allowed (ForeignCheck c pnSpace) fun _ => True)
      (processAckFrame h pnSpace frame times c)
      (fun r => AckExact c pnSpace frame times r.1 r.2) := by
  have hspurious : (anyHandlers h).SpuriousMet pnSpace frame c :=
    fun _ => .of_forall (fun _ _ => trivial) _ _
  have hdsr : ForeignCheck c pnSpace .dsrPacket ∨ ∀ p ∈ c.outstandings.packets, p.DsrFrames := by
    by_cases hall : ∀ p ∈ c.outstandings.packets, p.DsrFrames
    · exact .inr hall
    · exact .inl (.inr ⟨rfl, hall⟩)
  have hack : ForeignCheck c pnSpace .ackState ∨ (c.ackStates.get pnSpace).isSome = true := by
    cases ha : c.ackStates.get pnSpace with
    | none => exact .inl (.inl ⟨rfl, ha⟩)
    | some a => exact .inr rfl
  refine ((hc.anyHandlers h).processAckFrame hspurious hdsr hack).imp fun r hr => ?_
  refine ⟨hr.queue, hr.reports, forall₂_reports_increasing hr.reports ?_⟩
  have hdescending : (c.outstandings.packets.filter
      (acks pnSpace frame.ackBlocks)).Pairwise fun p q => p.packetNum < q.packetNum :=
    List.pairwise_reverse.mp (descending_acks hc.sorted hc.numbered.nodup)
  have hsub : (c.outstandings.packets.filter fun p =>
      acks pnSpace frame.ackBlocks p && !p.declaredLost).Sublist
        (c.outstandings.packets.filter (acks pnSpace frame.ackBlocks)) := by
    refine List.monotone_filter_right _ fun p hp => ?_
    exact (Bool.and_eq_true_iff.mp hp).1
  exact hdescending.sublist hsub

/-- An ack frame for one packet number. -/
def ackOf (packetNum : Nat) : ReadAckFrame :=
  ⟨packetNum, 0, false, [⟨packetNum, packetNum⟩], ⟨by simp, List.pairwise_singleton _ _⟩⟩

/-- Five packets are sent, and the ack of the last one shows that the first one is lost. A
sixth packet is sent ten seconds later. -/
def oldLoss : List (SendEvent Unit Empty) :=
  List.replicate 5 (.send ⟨.keyPhaseZero, [.maxData 10]⟩ 0) ++
    [.ack .appData (ackOf 4) ⟨1000000, 1000000⟩,
      .send ⟨.keyPhaseZero, [.maxData 10]⟩ 10000000000]

theorem processAckFrame_exact_oldLoss :
    ∃ c r, oldLoss.foldlM (SendConn.step idle) idleConn = .ok c ∧
      processAckFrame idle .appData (ackOf 5) ⟨10001000000, 10001000000⟩ c = .ok r ∧
      AckExact c .appData (ackOf 5) ⟨10001000000, 10001000000⟩ r.1 r.2 ∧
      r.2.map (·.packetNum) = [5] := by
  have hrun : ∃ c r, oldLoss.foldlM (SendConn.step idle) idleConn = .ok c ∧
      processAckFrame idle .appData (ackOf 5) ⟨10001000000, 10001000000⟩ c = .ok r ∧
      r.2.map (·.packetNum) = [5] := ⟨_, _, rfl, rfl, rfl⟩
  obtain ⟨c, r, hc, hr, hnums⟩ := hrun
  exact ⟨c, r, hc, hr,
    (processAckFrame_exact idle c (.of_run rfl oldLoss hc) .appData (ackOf 5) _).of_ok hr, hnums⟩

/-- The ack of the sixth packet empties the queue: the four others, in no block, are lost
and older than the probe timeout by then. -/
theorem processAckFrame_reaps_old :
    ∃ c c' acked, oldLoss.foldlM (SendConn.step idle) idleConn = .ok c ∧
      processAckFrame idle .appData (ackOf 5) ⟨10001000000, 10001000000⟩ c = .ok (c', acked) ∧
      (c.outstandings.packets.filter fun p => !acks .appData (ackOf 5).ackBlocks p).map
        (·.packetNum) = [0, 1, 2, 3] ∧
      c'.outstandings.packets = [] :=
  ⟨_, _, _, rfl, rfl, rfl, rfl⟩

/-! ### Round trip times -/

/-- The smoothed round trip time lies between the least and the greatest sample, but for the rounding
of the quotients, which takes 14 microseconds off at most. -/
structure LossState.SmoothedWithin (least greatest : Nat) (l : LossState) : Prop where
  low : least ≤ l.srtt + 14
  high : l.srtt ≤ greatest
  variation : l.rttvar ≤ greatest

/-- The smoothed times count from the first sample on. -/
structure LossState.RttWithin (least greatest delay : Nat) (l : LossState) : Prop where
  mrtt : least ≤ l.mrtt
  maxAckDelay : l.maxAckDelay ≤ delay
  smoothed : l.srtt ≠ 0 → l.SmoothedWithin least greatest

theorem LossState.RttWithin.updateRtt {least greatest delay : Nat} {l : LossState}
    (h : l.RttWithin least greatest delay) {rttSample ackDelay : Nat}
    (hsample : least ≤ rttSample ∧ rttSample ≤ greatest ∧ ackDelay ≤ delay) :
    (updateRtt l rttSample ackDelay).RttWithin least greatest delay ∧
      (updateRtt l rttSample ackDelay).SmoothedWithin least greatest := by
  obtain ⟨hleast, hgreatest, hdelay⟩ := hsample
  have hmrtt : least ≤ min l.mrtt rttSample := Nat.le_min.mpr ⟨h.mrtt, hleast⟩
  -- An ack delay is only taken away where more than the least sample is left.
  have hadjusted : ∃ adjustedRtt, adjustedRtt = (if rttSample > ackDelay ∧
      rttSample > min l.mrtt rttSample + ackDelay then rttSample - ackDelay else rttSample) ∧
      least ≤ adjustedRtt ∧ adjustedRtt ≤ greatest := by
    refine ⟨_, rfl, ?_⟩
    split
    · omega
    · omega
  obtain ⟨adjustedRtt, heq, hlow, hhigh⟩ := hadjusted
  have hsmoothed : (MasqueQuic.updateRtt l rttSample ackDelay).SmoothedWithin least greatest := by
    unfold MasqueQuic.updateRtt kRttAlpha kRttBeta
    dsimp only
    rw [← heq]
    by_cases hzero : l.srtt = 0
    · rw [if_pos hzero, if_pos hzero]
      exact ⟨Nat.le_add_right_of_le hlow, hhigh, by dsimp only; omega⟩
    · obtain ⟨hlow', hhigh', hvar⟩ := h.smoothed hzero
      rw [if_neg hzero, if_neg hzero]
      refine ⟨?_, ?_, ?_⟩
      · dsimp only
        omega
      · dsimp only
        omega
      · dsimp only
        split
        · omega
        · omega
  exact ⟨⟨hmrtt, Nat.max_le.mpr ⟨h.maxAckDelay, hdelay⟩, fun _ => hsmoothed⟩, hsmoothed⟩

/-- Whatever ack delays the peer reports, the smoothed round trip time is set and stays between the
least and the greatest sample but for the rounding, and the probe timeout is bounded by the greatest
one. -/
theorem updateRtt_run_within (c : SendConn σ) (least greatest delay : Nat)
    (samples : List (Nat × Nat)) (hfirst : c.lossState.srtt = 0)
    (hstart : least ≤ c.lossState.mrtt ∧ c.lossState.maxAckDelay ≤ delay) (hleast : 15 ≤ least)
    (hsome : samples ≠ []) (hsamples : ∀ s ∈ samples, least ≤ s.1 ∧ s.1 ≤ greatest ∧ s.2 ≤ delay) :
    let lossState := samples.foldl (fun l s => updateRtt l s.1 s.2) c.lossState
    lossState.srtt ≠ 0 ∧ lossState.SmoothedWithin least greatest ∧
      calculatePTO { c with lossState } ≤ 5 * greatest + delay := by
  intro lossState
  obtain ⟨before, last, rfl⟩ := (List.eq_nil_or_concat samples).resolve_left hsome
  have hbefore : (before.foldl (fun l s => updateRtt l s.1 s.2) c.lossState).RttWithin
      least greatest delay := by
    apply List.foldlRecOn (motive := LossState.RttWithin least greatest delay)
    · exact ⟨hstart.1, hstart.2, fun hne => absurd hfirst hne⟩
    · exact fun l h s hs => (h.updateRtt (hsamples s (by simp [hs]))).1
  have heq : lossState =
      updateRtt (before.foldl (fun l s => updateRtt l s.1 s.2) c.lossState) last.1 last.2 := by
    simp [lossState]
  obtain ⟨hrun, hsmoothed⟩ := hbefore.updateRtt (hsamples last (by simp))
  rw [← heq] at hrun hsmoothed
  have hset : lossState.srtt ≠ 0 := by
    have := hsmoothed.low
    omega
  refine ⟨hset, hsmoothed, ?_⟩
  obtain ⟨-, hsrtt, hrttvar⟩ := hsmoothed
  have hdelay := hrun.maxAckDelay
  unfold calculatePTO
  rw [if_neg hset]
  dsimp only
  omega

/-- The second sample comes with an ack delay that is more than it leaves above the first one. -/
theorem updateRtt_run_within_delayed :
    let c : SendConn Unit := { idleConn with lossState := ⟨0, 1000000, 0, 0, 0, 3⟩ }
    let lossState := [(100, 30), (120, 90), (95, 0)].foldl (fun l s => updateRtt l s.1 s.2) c.lossState
    lossState.SmoothedWithin 95 120 ∧ lossState.srtt = 100 ∧
      calculatePTO { c with lossState } ≤ 690 := by
  have hrun := updateRtt_run_within { idleConn with lossState := ⟨0, 1000000, 0, 0, 0, 3⟩ } 95 120 90
    [(100, 30), (120, 90), (95, 0)] rfl (by decide) (by decide) (by decide) (by decide)
  exact ⟨hrun.2.1, rfl, hrun.2.2⟩

end MasqueQuic
