/-
Acks that are called for.

In one packet number space, `updateAckSendStateOnRecvPacket` decides that a received packet is
to be acked at once, and `hasAcksToSchedule` decides whether there is anything to ack. The first
looks at the distance of the packet number from the expected one, the second only compares the
largest number with the largest one acked before.

`acks` is the set of numbers that the interval set of the source holds. An ACK frame takes its
blocks from the largest one down, as far as the packet has room, so a frame is given by the
lowest number it holds. `sent` lists the ACK frames written and `demanded` the packet numbers
for which an immediate ack has been called for; nothing reads the latter.
-/

import Mathlib.Data.Finset.Max
import MasqueQuic.Lib.Run

namespace MasqueQuic

/-- What the decision to ack depends on besides the state. -/
structure AckSettings where
  isServer : Bool
  initPktNumSpace : Bool
  rxPacketsBeforeAckInitThreshold : Nat
  rxPacketsBeforeAckBeforeInit : Nat
  rxPacketsBeforeAckAfterInit : Nat

/-- The part of `AckState` that acks to be sent depend on. -/
structure AckSendState where
  acks : Finset Nat
  largestRecvdPacketNum : Option Nat
  largestAckScheduled : Option Nat
  needsToSendAckImmediately : Bool
  scheduleAckTimeout : Bool
  numRxPacketsRecvd : Nat
  numNonRxPacketsRecvd : Nat
  reorderThreshold : Nat
  tolerance : Option Nat
  ackFrequencySequenceNumber : Option Nat
  deriving DecidableEq

/-- The frames of a received packet that work on the state: an ACK frame that acks one of the
ACK frames sent, and those of the ack frequency extension. -/
inductive AckStateFrame where
  | ack (ackBlocks : Finset Nat)
  | immediateAck
  | ackFrequency (sequenceNumber packetTolerance reorderThreshold : Nat)
  deriving DecidableEq

/-- The ACK frames that a received packet acks. -/
def ackedFrames (frames : List AckStateFrame) : List (Finset Nat) :=
  frames.filterMap fun
    | .ack ackBlocks => some ackBlocks
    | _ => none

def kNonRtxRxPacketsPendingBeforeAck : Nat := 20

def kAckPurgingThresh : Nat := 10

namespace AckSendState

def start : AckSendState where
  acks := ∅
  largestRecvdPacketNum := none
  largestAckScheduled := none
  needsToSendAckImmediately := false
  scheduleAckTimeout := false
  numRxPacketsRecvd := 0
  numNonRxPacketsRecvd := 0
  reorderThreshold := 0
  tolerance := none
  ackFrequencySequenceNumber := none

def largestAckToSend (a : AckSendState) : Option Nat :=
  if h : a.acks.Nonempty then some (a.acks.max' h) else none

def hasAcksToSchedule (a : AckSendState) : Bool :=
  match a.largestAckToSend with
  | none => false
  | some largestAckSend =>
      match a.largestAckScheduled with
      | none => true
      | some largestAckScheduled => decide (largestAckScheduled < largestAckSend)

/-- The number is inserted; the result is its distance from the expected number. -/
def updateLargestReceivedPacketNum (a : AckSendState) (packetNum : Nat) : AckSendState × Nat :=
  let expectedNextPacket := (a.largestRecvdPacketNum.map (· + 1)).getD 0
  ({ a with
      acks := insert packetNum a.acks
      largestRecvdPacketNum := some (max (a.largestRecvdPacketNum.getD packetNum) packetNum) },
    if expectedNextPacket = 0 then 0
    else if packetNum > expectedNextPacket then packetNum - expectedNextPacket
    else expectedNextPacket - packetNum)

/-- The numbers far below the largest one of an acked ACK frame. -/
def purged (ackBlocks : Finset Nat) (n : Nat) : Bool :=
  if h : ackBlocks.Nonempty then
    decide (kAckPurgingThresh < ackBlocks.max' h ∧ n ≤ ackBlocks.max' h - kAckPurgingThresh)
  else false

def commonAckVisitorForAckFrame (a : AckSendState) (ackBlocks : Finset Nat) : AckSendState :=
  { a with acks := (a.acks \ ackBlocks).filter fun n => purged ackBlocks n = false }

def onFrame (a : AckSendState) : AckStateFrame → AckSendState
  | .ack ackBlocks => a.commonAckVisitorForAckFrame ackBlocks
  | .immediateAck => { a with needsToSendAckImmediately := true }
  | .ackFrequency sequenceNumber packetTolerance reorderThreshold =>
      if a.ackFrequencySequenceNumber.all (· < sequenceNumber) then
        { a with
          ackFrequencySequenceNumber := some sequenceNumber
          tolerance := some packetTolerance
          reorderThreshold := reorderThreshold }
      else a

/-- The threshold is kept in a `uint8_t`. -/
def thresh (c : AckSettings) (a : AckSendState) (pktHasRetransmittableData : Bool) : Nat :=
  if pktHasRetransmittableData ∨ a.numRxPacketsRecvd ≠ 0 then
    (a.tolerance.getD
      (if a.largestRecvdPacketNum.getD 0 > c.rxPacketsBeforeAckInitThreshold then
        c.rxPacketsBeforeAckAfterInit
      else c.rxPacketsBeforeAckBeforeInit)) % 2 ^ 8
  else kNonRtxRxPacketsPendingBeforeAck

/-- Whether `updateAckSendStateOnRecvPacket` sets `needsToSendAckImmediately`. -/
def callsForAck (c : AckSettings) (a : AckSendState) (distanceFromExpectedPacketNum : Nat)
    (pktHasRetransmittableData pktHasCryptoData : Bool) : Bool :=
  if pktHasRetransmittableData then
    let skipCryptoAck := c.isServer && c.initPktNumSpace
    (pktHasCryptoData && !skipCryptoAck) ||
      decide (distanceFromExpectedPacketNum > a.reorderThreshold) ||
      decide (((a.numRxPacketsRecvd + 1) % 2 ^ 8 + a.numNonRxPacketsRecvd) % 2 ^ 64 ≥
        a.thresh c pktHasRetransmittableData)
  else
    decide (((a.numNonRxPacketsRecvd + 1) % 2 ^ 64 + a.numRxPacketsRecvd) % 2 ^ 64 ≥
      a.thresh c pktHasRetransmittableData)

def updateAckSendStateOnRecvPacket (c : AckSettings) (a : AckSendState)
    (distanceFromExpectedPacketNum : Nat) (pktHasRetransmittableData pktHasCryptoData : Bool) :
    AckSendState :=
  let a' :=
    if a.callsForAck c distanceFromExpectedPacketNum pktHasRetransmittableData
        pktHasCryptoData then
      { a with scheduleAckTimeout := false, needsToSendAckImmediately := true }
    else if pktHasRetransmittableData then
      { a with
        numRxPacketsRecvd := (a.numRxPacketsRecvd + 1) % 2 ^ 8
        scheduleAckTimeout := !a.needsToSendAckImmediately || a.scheduleAckTimeout }
    else { a with numNonRxPacketsRecvd := (a.numNonRxPacketsRecvd + 1) % 2 ^ 64 }
  if a'.needsToSendAckImmediately then
    { a' with numRxPacketsRecvd := 0, numNonRxPacketsRecvd := 0 }
  else a'

def updateAckStateOnAckTimeout (a : AckSendState) : AckSendState :=
  { a with
    needsToSendAckImmediately := true
    numRxPacketsRecvd := 0
    numNonRxPacketsRecvd := 0
    scheduleAckTimeout := false }

def updateAckSendStateOnSentPacketWithAcks (a : AckSendState) (largestAckScheduled : Nat) :
    AckSendState :=
  { a with
    scheduleAckTimeout := false
    needsToSendAckImmediately := false
    numRxPacketsRecvd := 0
    numNonRxPacketsRecvd := 0
    largestAckScheduled := some largestAckScheduled }

/-- A block of the interval set starts at `n`. -/
def startsBlock (a : AckSendState) (n : Nat) : Bool :=
  decide (n ∈ a.acks ∧ (n = 0 ∨ n - 1 ∉ a.acks))

/-- The blocks of an ACK frame that has room down to `lowest`. -/
def ackBlocks (a : AckSendState) (lowest : Nat) : Finset Nat :=
  a.acks.filter (lowest ≤ ·)

end AckSendState

inductive AckEvent where
  | receive (packetNum : Nat) (frames : List AckStateFrame)
      (pktHasRetransmittableData pktHasCryptoData : Bool)
  | immediateAckInOtherSpace
  | ackTimeout
  | writeNextAcks (lowest : Nat)
  | rebuildAcks (lowest : Nat)

/-- Why an event cannot happen. -/
inductive AckRefusal where
  | notSent
  | nothingToAck

structure AckSending where
  ackState : AckSendState
  sent : List (Finset Nat)
  demanded : Finset Nat

namespace AckSending

def start : AckSending := ⟨.start, [], ∅⟩

/-- The packet carries an ACK frame with `lowest` as its lowest number. -/
def sendAcks (s : AckSending) (lowest : Nat) : AckSending :=
  { s with
    ackState := match s.ackState.largestAckToSend with
      | none => s.ackState
      | some largestAcked => s.ackState.updateAckSendStateOnSentPacketWithAcks largestAcked
    sent := s.ackState.ackBlocks lowest :: s.sent }

/-- The state when all frames of a received packet have been processed. -/
def processed (s : AckSending) (packetNum : Nat) (frames : List AckStateFrame) : AckSendState :=
  frames.foldl .onFrame (s.ackState.updateLargestReceivedPacketNum packetNum).1

/-- Whether a received packet calls for an immediate ack. -/
def calls (c : AckSettings) (s : AckSending) (packetNum : Nat) (frames : List AckStateFrame)
    (pktHasRetransmittableData pktHasCryptoData : Bool) : Bool :=
  (s.processed packetNum frames).callsForAck c
    (s.ackState.updateLargestReceivedPacketNum packetNum).2 pktHasRetransmittableData
    pktHasCryptoData

def step (c : AckSettings) (s : AckSending) : AckEvent → Except AckRefusal AckSending
  | .receive packetNum frames pktHasRetransmittableData pktHasCryptoData =>
      if ackedFrames frames ⊆ s.sent then
        .ok { s with
          ackState := (s.processed packetNum frames).updateAckSendStateOnRecvPacket c
            (s.ackState.updateLargestReceivedPacketNum packetNum).2 pktHasRetransmittableData
            pktHasCryptoData
          demanded :=
            if s.calls c packetNum frames pktHasRetransmittableData pktHasCryptoData then
              insert packetNum s.demanded
            else s.demanded }
      else .error .notSent
  | .immediateAckInOtherSpace => .ok { s with ackState := s.ackState.onFrame .immediateAck }
  | .ackTimeout => .ok { s with ackState := s.ackState.updateAckStateOnAckTimeout }
  | .writeNextAcks lowest =>
      if s.ackState.hasAcksToSchedule ∧ s.ackState.startsBlock lowest then .ok (s.sendAcks lowest)
      else .error .nothingToAck
  -- A rebuilt packet carries a fresh ACK frame whether or not there is one to schedule.
  | .rebuildAcks lowest =>
      if s.ackState.startsBlock lowest then .ok (s.sendAcks lowest) else .error .nothingToAck

/-- No ACK frame sent so far holds the number. -/
def Uncovered (s : AckSending) (n : Nat) : Prop := ∀ ackBlocks ∈ s.sent, n ∉ ackBlocks

/-- A number for which an immediate ack has been called for is covered, or is going to be. -/
def Complete (s : AckSending) : Prop :=
  ∀ n ∈ s.demanded, s.Uncovered n →
    s.ackState.hasAcksToSchedule = true ∧ n ∈ s.ackState.acks

end AckSending

/-! ### What there is to ack -/

namespace AckSendState

variable {a : AckSendState} {n : Nat}

/-- The number is larger than the largest one acked by the last ACK frame. -/
def AboveScheduled (a : AckSendState) (n : Nat) : Prop := ∀ k ∈ a.largestAckScheduled, k < n

/-- None of the acked ACK frames makes the state forget the number. -/
def Stays (frames : List AckStateFrame) (n : Nat) : Prop :=
  ∀ ackBlocks ∈ ackedFrames frames, n ∉ ackBlocks ∧ purged ackBlocks n = false

theorem hasAcksToSchedule_iff : a.hasAcksToSchedule = true ↔ ∃ n ∈ a.acks, a.AboveScheduled n := by
  unfold hasAcksToSchedule largestAckToSend
  by_cases hne : a.acks.Nonempty
  · rw [dif_pos hne]
    cases hscheduled : a.largestAckScheduled with
    | none =>
      obtain ⟨n, hn⟩ := hne
      refine ⟨fun _ => ⟨n, hn, ?_⟩, fun _ => rfl⟩
      intro k hk
      rw [hscheduled] at hk
      cases hk
    | some k =>
      simp only [decide_eq_true_eq, AboveScheduled, hscheduled, Option.mem_def,
        Option.some.injEq, forall_eq']
      constructor
      · intro hlt
        exact ⟨_, a.acks.max'_mem hne, hlt⟩
      · rintro ⟨n, hn, hlt⟩
        exact lt_of_lt_of_le hlt (a.acks.le_max' n hn)
  · rw [dif_neg hne]
    constructor
    · intro h
      cases h
    · rintro ⟨n, hn, -⟩
      exact absurd ⟨n, hn⟩ hne

theorem ackedFrames_cons_ack (ackBlocks : Finset Nat) (frames : List AckStateFrame) :
    ackedFrames (.ack ackBlocks :: frames) = ackBlocks :: ackedFrames frames := rfl

theorem onFrame_largestAckScheduled (frame : AckStateFrame) :
    (a.onFrame frame).largestAckScheduled = a.largestAckScheduled := by
  cases frame with
  | ack ackBlocks => rfl
  | immediateAck => rfl
  | ackFrequency sequenceNumber packetTolerance reorderThreshold =>
    unfold onFrame
    dsimp only
    split <;> rfl

theorem onFrame_acks {frame : AckStateFrame} (hframe : ackedFrames [frame] = []) :
    (a.onFrame frame).acks = a.acks := by
  cases frame with
  | ack ackBlocks => cases hframe
  | immediateAck => rfl
  | ackFrequency sequenceNumber packetTolerance reorderThreshold =>
    unfold onFrame
    dsimp only
    split <;> rfl

theorem onFrames_largestAckScheduled (frames : List AckStateFrame) :
    (frames.foldl onFrame a).largestAckScheduled = a.largestAckScheduled := by
  induction frames generalizing a with
  | nil => rfl
  | cons frame frames ih => rw [List.foldl_cons, ih, onFrame_largestAckScheduled]

theorem mem_onFrames_acks (frames : List AckStateFrame) :
    n ∈ (frames.foldl onFrame a).acks ↔ n ∈ a.acks ∧ Stays frames n := by
  induction frames generalizing a with
  | nil => exact ⟨fun h => ⟨h, fun _ hb => by cases hb⟩, fun h => h.1⟩
  | cons frame frames ih =>
    rw [List.foldl_cons, ih]
    cases frame with
    | ack ackBlocks =>
      simp only [Stays, ackedFrames_cons_ack, List.forall_mem_cons, onFrame,
        commonAckVisitorForAckFrame, Finset.mem_filter, Finset.mem_sdiff, and_assoc]
    | immediateAck => rw [onFrame_acks rfl]; exact Iff.rfl
    | ackFrequency sequenceNumber packetTolerance reorderThreshold =>
      rw [onFrame_acks rfl]
      exact Iff.rfl

theorem updateAckSendStateOnRecvPacket_keeps (c : AckSettings) (distance : Nat)
    (rx crypto : Bool) :
    (a.updateAckSendStateOnRecvPacket c distance rx crypto).acks = a.acks ∧
      (a.updateAckSendStateOnRecvPacket c distance rx crypto).largestAckScheduled =
        a.largestAckScheduled := by
  unfold updateAckSendStateOnRecvPacket
  dsimp only
  split <;> split <;> (try split) <;> exact ⟨rfl, rfl⟩

end AckSendState

/-! ### Runs -/

namespace AckSending

open AckSendState

variable {c : AckSettings} {s s' : AckSending} {e : AckEvent}

/-- A number that an immediate ack is called for is not forgotten before it is acked, and some
number above the largest one acked before stays; and an ACK frame has room for every such
number. -/
def Answerable (c : AckSettings) (s : AckSending) : AckEvent → Prop
  | .receive packetNum frames rx crypto => ackedFrames frames ⊆ s.sent →
      ∀ n, n ∈ s.demanded ∨ n = packetNum ∧ s.calls c packetNum frames rx crypto = true →
        s.Uncovered n → Stays frames n ∧
          ∃ m ∈ insert packetNum s.ackState.acks, s.ackState.AboveScheduled m ∧ Stays frames m
  | .writeNextAcks lowest => s.ackState.hasAcksToSchedule = true →
      s.ackState.startsBlock lowest = true → ∀ n ∈ s.demanded, s.Uncovered n → lowest ≤ n
  | .rebuildAcks lowest => s.ackState.startsBlock lowest = true →
      ∀ n ∈ s.demanded, s.Uncovered n → lowest ≤ n
  | _ => True

/-- The state after a received packet. -/
structure Received (c : AckSettings) (s s' : AckSending) (packetNum : Nat)
    (frames : List AckStateFrame) (rx crypto : Bool) : Prop where
  acks : ∀ n, n ∈ s'.ackState.acks ↔ n ∈ insert packetNum s.ackState.acks ∧ Stays frames n
  scheduled : s'.ackState.largestAckScheduled = s.ackState.largestAckScheduled
  sent : s'.sent = s.sent
  demanded : ∀ n, n ∈ s'.demanded ↔
    n ∈ s.demanded ∨ n = packetNum ∧ s.calls c packetNum frames rx crypto = true

theorem step_receive (c : AckSettings) (packetNum : Nat) {frames : List AckStateFrame}
    (rx crypto : Bool) (hacked : ackedFrames frames ⊆ s.sent) :
    ∃ s', s.step c (.receive packetNum frames rx crypto) = .ok s' ∧
      Received c s s' packetNum frames rx crypto := by
  refine ⟨_, if_pos hacked, ?_, ?_, rfl, ?_⟩
  · intro n
    dsimp only
    rw [(updateAckSendStateOnRecvPacket_keeps c _ rx crypto).1]
    exact mem_onFrames_acks frames
  · dsimp only
    rw [(updateAckSendStateOnRecvPacket_keeps c _ rx crypto).2]
    exact onFrames_largestAckScheduled frames
  · intro n
    dsimp only
    by_cases hcalls : s.calls c packetNum frames rx crypto = true
    · rw [if_pos hcalls, Finset.mem_insert]
      tauto
    · rw [if_neg hcalls]
      tauto

theorem Received.complete_iff {packetNum : Nat} {frames : List AckStateFrame} {rx crypto : Bool}
    (hs : s.Complete) (hr : Received c s s' packetNum frames rx crypto)
    (hacked : ackedFrames frames ⊆ s.sent) :
    s'.Complete ↔ s.Answerable c (.receive packetNum frames rx crypto) := by
  have hscheduled : s'.ackState.hasAcksToSchedule = true ↔
      ∃ m ∈ insert packetNum s.ackState.acks, s.ackState.AboveScheduled m ∧ Stays frames m := by
    rw [hasAcksToSchedule_iff]
    simp only [hr.acks, AboveScheduled, hr.scheduled]
    constructor
    · rintro ⟨m, ⟨hm, hstays⟩, habove⟩
      exact ⟨m, hm, habove, hstays⟩
    · rintro ⟨m, hm, habove, hstays⟩
      exact ⟨m, ⟨hm, hstays⟩, habove⟩
  constructor
  · intro hcomplete _ n hn hun
    obtain ⟨hhas, hmem⟩ := hcomplete n ((hr.demanded n).mpr hn) (by rwa [Uncovered, hr.sent])
    exact ⟨((hr.acks n).mp hmem).2, hscheduled.mp hhas⟩
  · intro hanswer n hn hun
    rw [Uncovered, hr.sent] at hun
    have hdemanded := (hr.demanded n).mp hn
    obtain ⟨hstays, habove⟩ := hanswer hacked n hdemanded hun
    refine ⟨hscheduled.mpr habove, (hr.acks n).mpr ⟨?_, hstays⟩⟩
    rcases hdemanded with hold | ⟨rfl, -⟩
    · exact Finset.mem_insert_of_mem (hs n hold hun).2
    · exact Finset.mem_insert_self n _

/-- Whatever room an ACK frame has, nothing is left to schedule after it. -/
theorem hasAcksToSchedule_sendAcks (s : AckSending) (lowest : Nat) :
    (s.sendAcks lowest).ackState.hasAcksToSchedule = false := by
  by_contra h
  rw [Bool.not_eq_false, hasAcksToSchedule_iff] at h
  obtain ⟨n, hn, habove⟩ := h
  unfold sendAcks largestAckToSend at hn habove
  by_cases hne : s.ackState.acks.Nonempty
  · rw [dif_pos hne] at hn habove
    exact absurd (Finset.le_max' _ n hn) (Nat.not_le.mpr (habove _ rfl))
  · rw [dif_neg hne] at hn
    exact hne ⟨n, hn⟩

theorem sendAcks_complete_iff {lowest : Nat} (hs : s.Complete) :
    (s.sendAcks lowest).Complete ↔ ∀ n ∈ s.demanded, s.Uncovered n → lowest ≤ n := by
  have hnone := hasAcksToSchedule_sendAcks s lowest
  constructor
  · intro hcomplete n hn hun
    by_contra hlow
    have hun' : (s.sendAcks lowest).Uncovered n := by
      intro ackBlocks hb
      rcases List.mem_cons.mp hb with rfl | hb
      · intro hmem
        exact hlow (Finset.mem_filter.mp hmem).2
      · exact hun ackBlocks hb
    rw [(hcomplete n hn hun').1] at hnone
    cases hnone
  · intro hroom n hn hun
    have hold : s.Uncovered n := fun ackBlocks hb => hun ackBlocks (List.mem_cons_of_mem _ hb)
    refine absurd ?_ (hun _ List.mem_cons_self)
    exact Finset.mem_filter.mpr ⟨(hs n hn hold).2, hroom n hn hold⟩

theorem complete_of_frame {a : AckSendState} (hs : s.Complete) (hacks : a.acks = s.ackState.acks)
    (hscheduled : a.largestAckScheduled = s.ackState.largestAckScheduled) :
    { s with ackState := a }.Complete := by
  intro n hn hun
  obtain ⟨hhas, hmem⟩ := hs n hn hun
  refine ⟨?_, hacks ▸ hmem⟩
  obtain ⟨m, hm, habove⟩ := hasAcksToSchedule_iff.mp hhas
  refine hasAcksToSchedule_iff.mpr ⟨m, hacks ▸ hm, ?_⟩
  intro k hk
  exact habove k (hscheduled ▸ hk)

theorem step_complete (hs : s.Complete) (hC : s.Answerable c e) (hstep : s.step c e = .ok s') :
    s'.Complete := by
  cases e with
  | receive packetNum frames rx crypto =>
    by_cases hacked : ackedFrames frames ⊆ s.sent
    · obtain ⟨t, ht, hr⟩ := step_receive c packetNum rx crypto hacked
      rw [hstep] at ht
      cases ht
      exact (hr.complete_iff hs hacked).mpr hC
    · rw [step, if_neg hacked] at hstep
      cases hstep
  | immediateAckInOtherSpace =>
    cases hstep
    exact complete_of_frame hs rfl rfl
  | ackTimeout =>
    cases hstep
    exact complete_of_frame hs rfl rfl
  | writeNextAcks lowest =>
    by_cases hguard : s.ackState.hasAcksToSchedule ∧ s.ackState.startsBlock lowest
    · rw [step, if_pos hguard] at hstep
      cases hstep
      exact (sendAcks_complete_iff hs).mpr (hC hguard.1 hguard.2)
    · rw [step, if_neg hguard] at hstep
      cases hstep
  | rebuildAcks lowest =>
    by_cases hguard : s.ackState.startsBlock lowest
    · rw [step, if_pos hguard] at hstep
      cases hstep
      exact (sendAcks_complete_iff hs).mpr (hC hguard)
    · rw [step, if_neg hguard] at hstep
      cases hstep

theorem step_not_complete (hs : s.Complete) (hC : ¬ s.Answerable c e) :
    ∃ s', s.step c e = .ok s' ∧ ¬ s'.Complete := by
  cases e with
  | receive packetNum frames rx crypto =>
    have hacked : ackedFrames frames ⊆ s.sent := by
      by_contra hacked
      exact hC fun h => absurd h hacked
    obtain ⟨t, ht, hr⟩ := step_receive c packetNum rx crypto hacked
    exact ⟨t, ht, fun h => hC ((hr.complete_iff hs hacked).mp h)⟩
  | immediateAckInOtherSpace => exact absurd trivial hC
  | ackTimeout => exact absurd trivial hC
  | writeNextAcks lowest =>
    have hguard : s.ackState.hasAcksToSchedule ∧ s.ackState.startsBlock lowest := by
      by_contra hguard
      exact hC fun hhas hstarts => absurd ⟨hhas, hstarts⟩ hguard
    refine ⟨_, if_pos hguard, fun h => hC ?_⟩
    intro _ _
    exact (sendAcks_complete_iff hs).mp h
  | rebuildAcks lowest =>
    have hguard : s.ackState.startsBlock lowest := by
      by_contra hguard
      exact hC fun hstarts => absurd hstarts hguard
    refine ⟨_, if_pos hguard, fun h => hC ?_⟩
    intro _
    exact (sendAcks_complete_iff hs).mp h

end AckSending

/-- Every ack that is called for is scheduled in every state of a run exactly when each packet
that calls for one leaves a number above the largest one acked before, and each ACK frame has
room for the numbers called for. -/
theorem ackScheduling_complete_iff (c : AckSettings) (es : List AckEvent) :
    (∀ before s, before <+: es → before.foldlM (AckSending.step c) .start = .ok s → s.Complete) ↔
      Meets (AckSending.step c) (AckSending.Answerable c) .start es := by
  have hstart : AckSending.start.Complete := fun n hn => absurd hn (Finset.notMem_empty n)
  refine @never_bad_iff_meets _ _ _ _ _ (fun _ => True) _ (fun _ _ _ _ _ => trivial) ?_ ?_ _ _
    trivial hstart
  · intro s e s' _ hs hC hstep
    exact AckSending.step_complete hs hC hstep
  · intro s e _ hs hC
    exact AckSending.step_not_complete hs hC

/-- A packet that arrives after the ACK of a later one calls for an ack that nothing schedules. -/
theorem ackScheduling_incomplete :
    let c : AckSettings := ⟨true, false, 100, 10, 10⟩
    ∃ s, [.receive 1 [] true false, .ackTimeout, .writeNextAcks 1, .receive 0 [] true false].foldlM
        (AckSending.step c) .start = .ok s ∧
      s.ackState.needsToSendAckImmediately = true ∧ 0 ∈ s.demanded ∧ s.Uncovered 0 ∧
      s.ackState.hasAcksToSchedule = false := by
  refine ⟨_, rfl, rfl, ?_, ?_, ?_⟩
  · decide
  · unfold AckSending.Uncovered
    decide
  · decide

end MasqueQuic
