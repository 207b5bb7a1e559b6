/-
The number of packets before an ack.

Packets are received in order, from the moment an ACK frame has been sent. Each of them is
ack-eliciting and holds no crypto data, and no frame but ACK frames works on the state.
`received` counts them, and `reached` says whether their number has reached the threshold in
force. Nothing reads either.

The threshold is requested by the peer or configured, with more than 8 bits; `thresh` keeps
the low ones. `ackThreshold_exact_iff` says when the acks come where they should.
-/

import MasqueQuic.Quic.AckScheduling

namespace MasqueQuic

/-- The number of packets before an ack, as it is requested or configured. -/
def AckSendState.threshold (c : AckSettings) (a : AckSendState) : Nat :=
  a.tolerance.getD
    (if a.largestRecvdPacketNum.getD 0 > c.rxPacketsBeforeAckInitThreshold then
      c.rxPacketsBeforeAckAfterInit
    else c.rxPacketsBeforeAckBeforeInit)

structure AckCount where
  ackState : AckSendState
  received : Nat
  reached : Bool

namespace AckCount

/-- An ACK frame has just been sent. -/
def ofSent (a : AckSendState) (largestAckScheduled : Nat) : AckCount :=
  ⟨a.updateAckSendStateOnSentPacketWithAcks largestAckScheduled, 0, false⟩

/-- The state when the frames of the next packet have been processed, and its distance from
the expected packet. -/
def processed (s : AckCount) (acked : List (Finset Nat)) : AckSendState × Nat :=
  let updated := s.ackState.updateLargestReceivedPacketNum
    ((s.ackState.largestRecvdPacketNum.map (· + 1)).getD 0)
  ((acked.map .ack).foldl .onFrame updated.1, updated.2)

/-- The next packet is received, which acks the ACK frames in `acked`. -/
def step (c : AckSettings) (s : AckCount) (acked : List (Finset Nat)) :
    Except AckRefusal AckCount :=
  let processed := s.processed acked
  .ok {
    ackState := processed.1.updateAckSendStateOnRecvPacket c processed.2 true false
    received := s.received + 1
    reached := s.reached || decide (processed.1.threshold c ≤ s.received + 1) }

/-- An ack is called for if and only if the number of packets has reached the threshold. -/
def Exact (s : AckCount) : Prop := s.ackState.needsToSendAckImmediately = s.reached

/-- The condition on a packet that comes while no ack is called for. -/
def InRange (c : AckSettings) (s : AckCount) (acked : List (Finset Nat)) : Prop :=
  s.ackState.needsToSendAckImmediately = false →
    (s.processed acked).1.threshold c < 2 ^ 8 ∨
      s.received + 1 < (s.processed acked).1.threshold c % 2 ^ 8

/-- While no ack is called for, the counter counts the packets. -/
structure Inv (s : AckCount) : Prop where
  exact : s.Exact
  counts : s.ackState.needsToSendAckImmediately = false →
    s.ackState.numRxPacketsRecvd = s.received ∧ s.ackState.numNonRxPacketsRecvd = 0 ∧
      s.received < 255

variable {c : AckSettings} {s s' : AckCount} {acked : List (Finset Nat)}

theorem inv_ofSent (a : AckSendState) (largestAckScheduled : Nat) :
    Inv (ofSent a largestAckScheduled) :=
  ⟨rfl, fun _ => ⟨rfl, rfl, Nat.succ_pos _⟩⟩

/-- The acked ACK frames change the numbers to be acked only. -/
theorem onFrames_ack (a : AckSendState) (acked : List (Finset Nat)) :
    ∃ acks, (acked.map AckStateFrame.ack).foldl .onFrame a = { a with acks := acks } := by
  induction acked generalizing a with
  | nil => exact ⟨a.acks, rfl⟩
  | cons ackBlocks acked ih =>
    obtain ⟨acks, hrest⟩ := ih (a.commonAckVisitorForAckFrame ackBlocks)
    exact ⟨acks, hrest⟩

/-- What is left of the state when the frames have been processed. -/
theorem processed_spec (s : AckCount) (acked : List (Finset Nat)) :
    (s.processed acked).1.needsToSendAckImmediately = s.ackState.needsToSendAckImmediately ∧
      (s.processed acked).1.numRxPacketsRecvd = s.ackState.numRxPacketsRecvd ∧
      (s.processed acked).1.numNonRxPacketsRecvd = s.ackState.numNonRxPacketsRecvd ∧
      (s.processed acked).2 = 0 := by
  unfold processed
  dsimp only
  obtain ⟨acks, hframes⟩ := onFrames_ack (s.ackState.updateLargestReceivedPacketNum
    ((s.ackState.largestRecvdPacketNum.map (· + 1)).getD 0)).1 acked
  rw [hframes]
  refine ⟨rfl, rfl, rfl, ?_⟩
  unfold AckSendState.updateLargestReceivedPacketNum
  dsimp only
  split
  · rfl
  · simp

/-- An ack is called for as soon as the counter has reached the low bits of the threshold. -/
theorem callsForAck_iff (c : AckSettings) (acked : List (Finset Nat)) (h : s.Inv)
    (hneeds : s.ackState.needsToSendAckImmediately = false) :
    (s.processed acked).1.callsForAck c (s.processed acked).2 true false = true ↔
      (s.processed acked).1.threshold c % 2 ^ 8 ≤ s.received + 1 := by
  obtain ⟨-, hrx, hnonRx, hdistance⟩ := s.processed_spec acked
  obtain ⟨hcount, hzero, hlt⟩ := h.counts hneeds
  unfold AckSendState.callsForAck AckSendState.thresh
  rw [if_pos rfl, if_pos (.inl rfl), hdistance, hrx, hnonRx, hcount, hzero]
  have hcounter : ((s.received + 1) % 2 ^ 8 + 0) % 2 ^ 64 = s.received + 1 := by omega
  rw [hcounter]
  simp [AckSendState.threshold]

/-- Once an ack is called for, it stays so until an ACK frame is sent. -/
theorem needs_of_needs {a : AckSendState} (h : a.needsToSendAckImmediately = true)
    (distance : Nat) : (a.updateAckSendStateOnRecvPacket c distance true
      false).needsToSendAckImmediately = true := by
  unfold AckSendState.updateAckSendStateOnRecvPacket
  dsimp only
  split
  · rfl
  · simp [h]

theorem needs_update {a : AckSendState} (h : a.needsToSendAckImmediately = false)
    (distance : Nat) : (a.updateAckSendStateOnRecvPacket c distance true
      false).needsToSendAckImmediately = a.callsForAck c distance true false := by
  unfold AckSendState.updateAckSendStateOnRecvPacket
  dsimp only
  split
  · next hcalls => simp [hcalls]
  · next hcalls => simp [h, hcalls]

theorem counts_update {a : AckSendState} (h : a.needsToSendAckImmediately = false)
    {distance : Nat} (hcalls : a.callsForAck c distance true false = false) :
    (a.updateAckSendStateOnRecvPacket c distance true false).numRxPacketsRecvd =
        (a.numRxPacketsRecvd + 1) % 2 ^ 8 ∧
      (a.updateAckSendStateOnRecvPacket c distance true false).numNonRxPacketsRecvd =
        a.numNonRxPacketsRecvd := by
  unfold AckSendState.updateAckSendStateOnRecvPacket
  dsimp only
  rw [hcalls, if_neg Bool.false_ne_true, if_pos rfl]
  simp [h]

/-- A packet that meets the condition keeps the count exact. -/
theorem Inv.step (h : s.Inv) (hrange : s.InRange c acked) :
    ∃ s', AckCount.step c s acked = .ok s' ∧ s'.Inv := by
  obtain ⟨hneeds', hrx, hnonRx, -⟩ := s.processed_spec acked
  refine ⟨_, rfl, ?_⟩
  cases hneeds : s.ackState.needsToSendAckImmediately with
  | true =>
    rw [hneeds] at hneeds'
    have hreached : s.reached = true := by rw [← h.exact, hneeds]
    constructor
    · unfold Exact
      dsimp only
      rw [needs_of_needs hneeds', hreached, Bool.true_or]
    · intro hno
      dsimp only at hno
      rw [needs_of_needs hneeds'] at hno
      cases hno
  | false =>
    rw [hneeds] at hneeds'
    have hreached : s.reached = false := by rw [← h.exact, hneeds]
    have hcalls := callsForAck_iff c acked h hneeds
    obtain ⟨hcount, hzero, hlt⟩ := h.counts hneeds
    have hin := hrange hneeds
    constructor
    · unfold Exact
      dsimp only
      rw [needs_update hneeds', hreached, Bool.false_or, Bool.eq_iff_iff, hcalls,
        decide_eq_true_eq]
      omega
    · intro hno
      dsimp only at hno ⊢
      rw [needs_update hneeds'] at hno
      obtain ⟨hrx', hnonRx'⟩ := counts_update hneeds' hno
      rw [hrx', hnonRx', hrx, hnonRx, hcount, hzero]
      have hbelow : ¬ (s.processed acked).1.threshold c % 2 ^ 8 ≤ s.received + 1 := by
        rw [← hcalls, hno]
        exact Bool.false_ne_true
      omega

/-- A packet that does not meet it is acked too early. -/
theorem Inv.not_exact (h : s.Inv) (hrange : ¬ s.InRange c acked)
    (hstep : AckCount.step c s acked = .ok s') : ¬ s'.Exact := by
  unfold InRange at hrange
  rw [Classical.not_imp, not_or] at hrange
  obtain ⟨hneeds, hlarge, hlow⟩ := hrange
  obtain ⟨hneeds', -, -, -⟩ := s.processed_spec acked
  rw [hneeds] at hneeds'
  have hreached : s.reached = false := by rw [← h.exact, hneeds]
  have hcalls := callsForAck_iff c acked h hneeds
  obtain ⟨-, -, hlt⟩ := h.counts hneeds
  cases hstep
  unfold Exact
  dsimp only
  rw [needs_update hneeds', hreached, Bool.false_or, Bool.eq_iff_iff, hcalls, decide_eq_true_eq]
  omega

end AckCount

/-- From an ACK frame on, an ack is called for exactly when the number of packets received
reaches the threshold, after every packet, if and only if each packet that comes before that
finds a threshold of 8 bits, or one whose low 8 bits are larger than the number of packets. -/
theorem ackThreshold_exact_iff (c : AckSettings) (a : AckSendState) (largestAckScheduled : Nat)
    (packets : List (List (Finset Nat))) :
    (∀ fs, fs <+: packets → ∃ s,
        fs.foldlM (AckCount.step c) (.ofSent a largestAckScheduled) = .ok s ∧ s.Exact) ↔
      Meets (AckCount.step c) (AckCount.InRange c) (.ofSent a largestAckScheduled) packets := by
  apply always_iff_meets
  · exact fun s acked (h : s.Inv) hrange => h.step hrange
  · exact fun s acked s' (h : s.Inv) hrange hstep => h.not_exact hrange hstep
  · exact fun s (h : s.Inv) => h.exact
  · exact AckCount.inv_ofSent a largestAckScheduled

/-- The default settings. -/
def AckSettings.sample : AckSettings := ⟨true, false, 100, 10, 10⟩

/-- The peer has asked for an ack every 256 packets: the first packet is acked at once. -/
theorem ackThreshold_early :
    ∃ s, [[]].foldlM (AckCount.step .sample)
        (.ofSent (AckSendState.start.onFrame (.ackFrequency 1 256 0)) 0) = .ok s ∧
      s.ackState.needsToSendAckImmediately = true ∧ s.received = 1 ∧
      s.ackState.tolerance = some 256 ∧ ¬ s.Exact := by
  refine ⟨_, rfl, by decide, rfl, rfl, ?_⟩
  unfold AckCount.Exact
  decide

end MasqueQuic
