/-
Acknowledgements and losses.

`processAckFrame` walks the queue of outstanding packets from its end, block by block,
with reverse iterators and bulk erases; the positions here are the bases of these
iterators. It then runs the ack visitor, looks for lost packets and removes old ones. The
observers, the congestion controller, the timers and the statistics take no part in what
is modelled and are left out.
-/

import MasqueQuic.Quic.Outstandings

namespace MasqueQuic

structure AckBlock where
  startPacket : Nat
  endPacket : Nat
  deriving DecidableEq

/-- The blocks are intervals, and each one ends before the one in front of it starts. -/
structure Descending (blocks : List AckBlock) : Prop where
  interval : ∀ block ∈ blocks, block.startPacket ≤ block.endPacket
  below : blocks.Pairwise fun a b => b.endPacket < a.startPacket

/-- An ack frame. The decoder reads the blocks from the largest number down, each behind a
gap. -/
structure ReadAckFrame where
  largestAcked : Nat
  ackDelay : Nat
  implicit : Bool
  ackBlocks : List AckBlock
  descending : Descending ackBlocks
  deriving DecidableEq

/-- The streams of an acknowledged packet, with the `streamPacketIdx` of DSR frames. -/
abbrev DetailsPerStream := List (StreamId × Option Nat)

/-- An entry of `ackedPackets`. -/
structure AckPacket where
  packetNum : Nat
  time : Nat
  detailsPerStream : DetailsPerStream
  deriving DecidableEq

/-- The clock when an ack frame is processed. -/
structure AckTimes where
  ackReceiveTime : Nat
  nowTime : Nat
  deriving DecidableEq

variable {σ ε : Type}

/-! ### Round trip times -/

def kRttAlpha : Nat := 8

def kRttBeta : Nat := 4

def ceilMicroseconds (nanoseconds : Nat) : Nat := (nanoseconds + 999) / 1000

def updateRtt (l : LossState) (rttSample ackDelay : Nat) : LossState :=
  let mrtt := min l.mrtt rttSample
  let adjustedRtt :=
    if rttSample > ackDelay ∧ rttSample > mrtt + ackDelay then rttSample - ackDelay
    else rttSample
  { l with
    mrtt
    lrtt := rttSample
    maxAckDelay := max l.maxAckDelay ackDelay
    srtt :=
      if l.srtt = 0 then adjustedRtt
      else l.srtt * (kRttAlpha - 1) / kRttAlpha + adjustedRtt / kRttAlpha
    rttvar :=
      if l.srtt = 0 then adjustedRtt / 2
      else
        l.rttvar * (kRttBeta - 1) / kRttBeta +
          (if l.srtt > adjustedRtt then l.srtt - adjustedRtt else adjustedRtt - l.srtt) /
            kRttBeta }

def calculatePTO (c : SendConn σ) : Nat :=
  if c.lossState.srtt = 0 then 2 * c.transportSettings.initialRtt
  else c.lossState.srtt + 4 * c.lossState.rttvar + c.lossState.maxAckDelay

/-! ### Acknowledged packets -/

/-- What the loop over the ack blocks changes, apart from the queue. -/
structure AckLoop (σ : Type) where
  counters : OutstandingsCounters
  lossState : LossState
  transportSettings : TransportSettings
  rest : σ
  rttSample : Option Nat
  largestNewlyAckedPacket : Option Nat
  dsrPacketsAcked : Nat
  packetsWithHandlerContext : List (OutstandingPacket × Bool)

def QuicWriteFrame.asWriteStreamFrame : QuicWriteFrame → Option WriteStreamFrame
  | .writeStream frame => some frame
  | _ => none

/-- The packet had been declared lost. -/
def ackLostPacket (h : Handlers σ ε) (p : OutstandingPacket) (s : AckLoop σ) :
    Except (SendFailure ε) (AckLoop σ) := do
  checkThat .declaredLostCount (0 < s.counters.declaredLostCount)
  let lossState :=
    if s.transportSettings.useAdaptiveLossReorderingThresholds then
      { s.lossState with
        reorderingThreshold :=
          max s.lossState.reorderingThreshold (p.lossReorderDistance.getD 0) }
    else s.lossState
  let transportSettings :=
    if s.transportSettings.useAdaptiveLossTimeThresholds then
      { s.transportSettings with
        timeReorderingThreshDividend :=
          max s.transportSettings.timeReorderingThreshDividend (p.lossTimeoutDividend.getD 0) }
    else s.transportSettings
  let rest ←
    (if s.transportSettings.removeFromLossBufferOnSpurious then
      liftHandler ((p.frames.filterMap QuicWriteFrame.asWriteStreamFrame).foldlM
        (fun rest frame => h.spuriousLoss frame rest) s.rest)
    else .ok s.rest)
  let counters ← s.counters.decreaseDeclaredLostCount
  return { s with counters, lossState, transportSettings, rest }

/-- Where a packet goes among those that wait for the ack visitor: behind the last one
with a larger number. -/
def insertContext (contexts : List (OutstandingPacket × Bool)) (p : OutstandingPacket)
    (processAllFrames : Bool) : List (OutstandingPacket × Bool) :=
  contexts.insertIdx (Deque.rfind (·.1.packetNum > p.packetNum) contexts contexts.length)
    (p, processAllFrames)

def OutstandingsCounters.decreaseIfCloned (k : OutstandingsCounters) (p : OutstandingPacket) :
    Except (SendFailure ε) OutstandingsCounters :=
  if p.associatedEvent.isSome then k.decreaseClonedPacketCount p.packetNumberSpace else .ok k

/-- The counters when an outstanding packet is acknowledged. -/
def OutstandingsCounters.onAck (k : OutstandingsCounters) (p : OutstandingPacket) :
    Except (SendFailure ε) OutstandingsCounters := do
  let k' ← (if k.processed p then .ok k else k.decreasePacketCount p.packetNumberSpace)
  let k' ← k'.decreaseIfCloned p
  return k'.eraseEvent p

/-- The round trip time is measured with the packet that is the largest acknowledged. -/
def sampleRtt (frame : ReadAckFrame) (times : AckTimes) (p : OutstandingPacket)
    (s : AckLoop σ) : Except (SendFailure ε) (AckLoop σ) :=
  if ¬ frame.implicit ∧ p.packetNum = frame.largestAcked then
    let ackReceiveTimeOrNow :=
      if times.ackReceiveTime > p.time then times.ackReceiveTime else times.nowTime
    let rttSample := ceilMicroseconds (ackReceiveTimeOrNow - p.time)
    if rttSample ≠ 0 then do
      checkThat .rttSample (s.rttSample = none)
      return { s with
        rttSample := some rttSample
        lossState := updateRtt s.lossState rttSample frame.ackDelay }
    else .ok s
  else .ok s

def ackOutstandingPacket (frame : ReadAckFrame) (times : AckTimes) (p : OutstandingPacket)
    (s : AckLoop σ) : Except (SendFailure ε) (AckLoop σ) := do
  let needsProcess := !s.counters.processed p
  let counters ← s.counters.onAck p
  let s ← sampleRtt frame times p s
  return { s with
    counters
    largestNewlyAckedPacket := some (max (s.largestNewlyAckedPacket.getD 0) p.packetNum)
    dsrPacketsAcked := s.dsrPacketsAcked + if p.isDSRPacket then 1 else 0
    packetsWithHandlerContext := insertContext s.packetsWithHandlerContext p needsProcess }

def ackPacket (h : Handlers σ ε) (frame : ReadAckFrame) (times : AckTimes)
    (s : AckLoop σ) (p : OutstandingPacket) : Except (SendFailure ε) (AckLoop σ) :=
  if p.declaredLost then ackLostPacket h p s else ackOutstandingPacket frame times p s

/-- Walk from base `b` over the packets of one ack block. `eraseEnd` is the base at which
the batch begins that is to be erased. -/
def ackBlockLoop (step : AckLoop σ → OutstandingPacket → Except (SendFailure ε) (AckLoop σ))
    (pnSpace : PacketNumberSpace) (block : AckBlock) :
    Nat → Nat → List OutstandingPacket → AckLoop σ →
      Except (SendFailure ε) (Nat × Nat × List OutstandingPacket × AckLoop σ)
  | 0, eraseEnd, packets, s => .ok (0, eraseEnd, packets, s)
  | b + 1, eraseEnd, packets, s =>
      match packets[b]? with
      | none => .ok (b + 1, eraseEnd, packets, s)
      | some p =>
          if pnSpace ≠ p.packetNumberSpace then
            -- the batch ends before a packet of another space
            if b + 1 ≠ eraseEnd then
              ackBlockLoop step pnSpace block b b (Deque.eraseRange packets (b + 1) eraseEnd) s
            else ackBlockLoop step pnSpace block b b packets s
          else if p.packetNum < block.startPacket then .ok (b + 1, eraseEnd, packets, s)
          else do
            let s ← step s p
            ackBlockLoop step pnSpace block b eraseEnd packets s

/-- The loop over the ack blocks, from base `currentPacketIt`. -/
def ackBlocksLoop (step : AckLoop σ → OutstandingPacket → Except (SendFailure ε) (AckLoop σ))
    (pnSpace : PacketNumberSpace) :
    List AckBlock → Nat → List OutstandingPacket → AckLoop σ →
      Except (SendFailure ε) (List OutstandingPacket × AckLoop σ)
  | [], _, packets, s => .ok (packets, s)
  | block :: blocks, currentPacketIt, packets, s =>
      if currentPacketIt = 0 then .ok (packets, s)
      else
        let rPacketIt := Deque.rfind (·.packetNum ≤ block.endPacket) packets currentPacketIt
        if rPacketIt = 0 then .ok (packets, s)
        else do
          let (b, eraseEnd, packets, s) ←
            ackBlockLoop step pnSpace block rPacketIt rPacketIt packets s
          let packets := if b ≠ eraseEnd then Deque.eraseRange packets b eraseEnd else packets
          ackBlocksLoop step pnSpace blocks b packets s

/-- `recordFrameDelivered` and `recordFrameAlreadyDelivered`. -/
def recordFrame (details : DetailsPerStream) (frame : WriteStreamFrame) : DetailsPerStream :=
  if frame.len = 0 then details
  else
    let idx := if frame.fromBufMeta then some frame.streamPacketIdx else none
    match details.lookup frame.streamId with
    | none => details ++ [(frame.streamId, idx)]
    | some old =>
        details.map fun entry =>
          if entry.1 = frame.streamId then (entry.1, idx.or old) else entry

/-- The ack visitor on the frames of one packet. -/
def visitFrames (h : Handlers σ ε) (p : OutstandingPacket) (processAllFrames : Bool) :
    List QuicWriteFrame → DetailsPerStream → σ → Except ε (DetailsPerStream × σ)
  | [], details, rest => .ok (details, rest)
  | packetFrame :: frames, details, rest =>
      if ¬ processAllFrames ∧ packetFrame ≠ .writeAck then
        visitFrames h p processAllFrames frames details rest
      else do
        let alive := packetFrame.asWriteStreamFrame.filter (h.findStream ·.streamId rest)
        let rest ← h.ackVisitor p packetFrame rest
        let details := alive.elim details (recordFrame details)
        visitFrames h p processAllFrames frames details rest

def visitPackets (h : Handlers σ ε) :
    List (OutstandingPacket × Bool) → List AckPacket → σ → Except ε (List AckPacket × σ)
  | [], acked, rest => .ok (acked, rest)
  | (p, processAllFrames) :: contexts, acked, rest => do
      let (details, rest) ← visitFrames h p processAllFrames p.frames [] rest
      visitPackets h contexts (acked ++ [⟨p.packetNum, p.time, details⟩]) rest

/-! ### Lost packets -/

/-- The largest acknowledged `streamPacketIdx` of the DSR streams, and the largest
acknowledged number of a packet without such frames. -/
structure LargestAcked where
  largestDsrAcked : List (StreamId × Nat)
  largestNonDsrAcked : Option Nat

def LargestAcked.addDetail (packetNum : Nat) (l : LargestAcked) :
    StreamId × Option Nat → LargestAcked
  | (stream, some idx) =>
      let largest := max ((l.largestDsrAcked.lookup stream).getD idx) idx
      { l with
        largestDsrAcked :=
          (stream, largest) :: l.largestDsrAcked.filter (fun entry => entry.1 ≠ stream) }
  | (_, none) =>
      { l with largestNonDsrAcked := some (max (l.largestNonDsrAcked.getD 0) packetNum) }

def LargestAcked.addPacket (l : LargestAcked) (p : AckPacket) : LargestAcked :=
  let l := p.detailsPerStream.foldl (LargestAcked.addDetail p.packetNum) l
  if p.detailsPerStream = [] then
    { l with largestNonDsrAcked := some (max (l.largestNonDsrAcked.getD 0) p.packetNum) }
  else l

def largestAckedOf (largestAcked : Nat) (ackedPackets : List AckPacket) : LargestAcked :=
  let l := ackedPackets.foldl LargestAcked.addPacket ⟨[], none⟩
  if l.largestDsrAcked = [] then { l with largestNonDsrAcked := some largestAcked } else l

/-- What loss detection compares a packet with. -/
structure LossParams where
  largestAcked : Nat
  pnSpace : PacketNumberSpace
  acked : LargestAcked
  lossTime : Nat
  rttSample : Nat
  delayUntilLost : Nat
  reorderingThreshold : Nat
  timeReorderingThreshDivisor : Nat

/-- `lostByTimeout`. -/
def LossParams.lostByTimeout (q : LossParams) (p : OutstandingPacket) : Bool :=
  (q.lossTime : Int) - p.time > 1000 * q.delayUntilLost

/-- The distance of a packet that is not a DSR packet. -/
def LossParams.nonDsrDistance (q : LossParams) (p : OutstandingPacket) :
    Except (SendFailure ε) Nat :=
  if q.acked.largestDsrAcked = [] then do
    checkThat .largestNonDsrAcked (q.acked.largestNonDsrAcked = some q.largestAcked)
    return q.largestAcked - p.packetNum
  else .ok (q.acked.largestNonDsrAcked.getD p.packetNum - p.packetNum)

/-- `reorderDistance`. DSR packets are numbered within their stream. -/
def LossParams.reorderDistance (q : LossParams) (p : OutstandingPacket) :
    Except (SendFailure ε) Nat :=
  match p.frames.head?.bind QuicWriteFrame.asWriteStreamFrame with
  | some frame =>
      if frame.fromBufMeta then do
        checkThat .dsrPacket (p.isDSRPacket = true)
        return (q.acked.largestDsrAcked.lookup frame.streamId).getD frame.streamPacketIdx -
          frame.streamPacketIdx
      else q.nonDsrDistance p
  | none => q.nonDsrDistance p

/-- The counters when a packet is declared lost. -/
def OutstandingsCounters.onLoss (k : OutstandingsCounters) (p : OutstandingPacket) :
    Except (SendFailure ε) OutstandingsCounters := do
  let k' ← (if p.isDSRPacket then k.decreaseDsrCount else .ok k)
  let k' ← k'.decreaseIfCloned p
  let k' := k'.eraseEvent p
  let k' ← (if k.processed p then .ok k' else k'.decreasePacketCount p.packetNumberSpace)
  return { k' with declaredLostCount := k'.declaredLostCount + 1 }

/-- The packet with the marks of loss detection. -/
def LossParams.markLost (q : LossParams) (p : OutstandingPacket) (reorderDistance : Nat) :
    OutstandingPacket :=
  { p with
    declaredLost := true
    lossTimeoutDividend :=
      if q.lostByTimeout p ∧ q.rttSample > 0 then
        some ((q.lossTime - p.time) * q.timeReorderingThreshDivisor / (1000 * q.rttSample))
      else p.lossTimeoutDividend
    lossReorderDistance :=
      if reorderDistance > q.reorderingThreshold then some reorderDistance
      else p.lossReorderDistance }

/-- The loop of `processOutstandingsForLoss`. -/
def lossLoop (h : Handlers σ ε) (q : LossParams) :
    List OutstandingPacket → OutstandingsCounters → σ →
      Except (SendFailure ε) (List OutstandingPacket × OutstandingsCounters × σ)
  | [], k, rest => .ok ([], k, rest)
  | p :: packets, k, rest =>
      if p.packetNum ≥ q.largestAcked then .ok (p :: packets, k, rest)
      else if p.packetNumberSpace ≠ q.pnSpace ∨ p.declaredLost then do
        let (packets, k, rest) ← lossLoop h q packets k rest
        return (p :: packets, k, rest)
      else do
        let reorderDistance ← q.reorderDistance p
        if ¬ (q.lostByTimeout p ∨ reorderDistance > q.reorderingThreshold) then
          let (packets, k, rest) ← lossLoop h q packets k rest
          return (p :: packets, k, rest)
        else
          let rest ← liftHandler (h.lossVisitor p (k.processed p) rest)
          let k ← k.onLoss p
          let (packets, k, rest) ← lossLoop h q packets k rest
          return (q.markLost p reorderDistance :: packets, k, rest)

/-- A packet that `getNextOutstandingPacket` stops at. -/
def isOutstanding (pnSpace : PacketNumberSpace) (p : OutstandingPacket) : Bool :=
  !p.declaredLost && p.packetNumberSpace == pnSpace

def processOutstandingsForLoss (h : Handlers σ ε) (q : LossParams) (c : SendConn σ) :
    Except (SendFailure ε) (SendConn σ) := do
  let before := c.outstandings.packets.takeWhile (fun p => !isOutstanding q.pnSpace p)
  let (packets, counters, rest) ← lossLoop h q
    (c.outstandings.packets.dropWhile fun p => !isOutstanding q.pnSpace p)
    c.outstandings.toOutstandingsCounters c.rest
  return { c with outstandings := ⟨counters, before ++ packets⟩, rest }

def detectLossPackets (h : Handlers σ ε) (largestAcked : Option Nat) (lossTime : Nat)
    (pnSpace : PacketNumberSpace) (ackedPackets : List AckPacket) (c : SendConn σ) :
    Except (SendFailure ε) (SendConn σ) :=
  match largestAcked with
  | none => .ok c
  | some largestAcked =>
      let rttSample := max c.lossState.srtt c.lossState.lrtt
      processOutstandingsForLoss h {
        largestAcked
        pnSpace
        acked := largestAckedOf largestAcked ackedPackets
        lossTime
        rttSample
        delayUntilLost := rttSample * c.transportSettings.timeReorderingThreshDividend /
          c.transportSettings.timeReorderingThreshDivisor
        reorderingThreshold := c.lossState.reorderingThreshold
        timeReorderingThreshDivisor := c.transportSettings.timeReorderingThreshDivisor } c

/-- `largestAckedByPeer` after an ack frame. -/
def AckState.newlyAcked (ackState : AckState) (largestNewlyAckedPacket : Option Nat) : AckState :=
  match largestNewlyAckedPacket with
  | none => ackState
  | some newly =>
      { ackState with
        largestAckedByPeer := some (max (ackState.largestAckedByPeer.getD newly) newly) }

def handleAckForLoss (h : Handlers σ ε) (largestNewlyAckedPacket : Option Nat)
    (ackedPackets : List AckPacket) (ackTime : Nat) (pnSpace : PacketNumberSpace)
    (c : SendConn σ) : Except (SendFailure ε) (SendConn σ) := do
  let ackState ← getAckState c pnSpace
  let ackState := ackState.newlyAcked largestNewlyAckedPacket
  let c := { c with ackStates := c.ackStates.set pnSpace ackState }
  let c ← detectLossPackets h ackState.largestAckedByPeer ackTime pnSpace ackedPackets c
  let _ ← c.outstandings.numOutstanding
  return c

/-- The part of `onLossDetectionAlarm` for the timer of a space. -/
def onLossTimer (h : Handlers σ ε) (pnSpace : PacketNumberSpace) (now : Nat) (c : SendConn σ) :
    Except (SendFailure ε) (SendConn σ) := do
  let ackState ← getAckState c pnSpace
  let c ← detectLossPackets h ackState.largestAckedByPeer now pnSpace [] c
  let _ ← c.outstandings.numOutstanding
  return c

/-- The loop of `clearOldOutstandingPackets`: `kept` lies before `eraseBegin`, the packets
between `eraseBegin` and `opItr` are dropped, and the list is what follows `opItr`. -/
def clearOldLoop (time threshold : Nat) (pnSpace : PacketNumberSpace) :
    List OutstandingPacket → List OutstandingPacket → OutstandingsCounters →
      Except (SendFailure ε) OutstandingsInfo
  | kept, [], k => .ok ⟨k, kept⟩
  | kept, p :: packets, k =>
      if time < p.time then .ok ⟨k, kept ++ p :: packets⟩
      else if p.packetNumberSpace ≠ pnSpace then
        clearOldLoop time threshold pnSpace (kept ++ [p]) packets k
      else if p.declaredLost ∧ time - p.time > 1000 * threshold then do
        let k ← k.decreaseDeclaredLostCount
        clearOldLoop time threshold pnSpace kept packets k
      else .ok ⟨k, kept ++ p :: packets⟩

def clearOldOutstandingPackets (time : Nat) (pnSpace : PacketNumberSpace) (c : SendConn σ) :
    Except (SendFailure ε) (SendConn σ) :=
  if c.outstandings.declaredLostCount = 0 then .ok c
  else do
    let outstandings ← clearOldLoop time (calculatePTO c) pnSpace [] c.outstandings.packets
      c.outstandings.toOutstandingsCounters
    return { c with outstandings }

/-! ### The ack frame -/

/-- The loop over the ack blocks begins with the connection and nothing collected. -/
def AckLoop.start (c : SendConn σ) : AckLoop σ where
  counters := c.outstandings.toOutstandingsCounters
  lossState := c.lossState
  transportSettings := c.transportSettings
  rest := c.rest
  rttSample := none
  largestNewlyAckedPacket := none
  dsrPacketsAcked := 0
  packetsWithHandlerContext := []

/-- The part of `processAckFrame` that collects the acknowledged packets. -/
def collectAcked (h : Handlers σ ε) (pnSpace : PacketNumberSpace) (frame : ReadAckFrame)
    (times : AckTimes) (c : SendConn σ) :
    Except (SendFailure ε) (List OutstandingPacket × AckLoop σ) :=
  let packets := c.outstandings.packets
  ackBlocksLoop (ackPacket h frame times) pnSpace frame.ackBlocks
    (Deque.rfind (·.packetNumberSpace == pnSpace) packets packets.length) packets
    (AckLoop.start c)

/-- The part of `processAckFrame` before loss detection. Beside the connection it returns the
largest packet that is newly acknowledged and the acknowledged packets. -/
def ackOutstandings (h : Handlers σ ε) (pnSpace : PacketNumberSpace) (frame : ReadAckFrame)
    (times : AckTimes) (c : SendConn σ) :
    Except (SendFailure ε) (SendConn σ × Option Nat × List AckPacket) := do
  let (packets, s) ← collectAcked h pnSpace frame times c
  let (ackedPackets, rest) ←
    liftHandler (visitPackets h s.packetsWithHandlerContext.reverse [] s.rest)
  checkThat .dsrCount (s.dsrPacketsAcked ≤ s.counters.dsrCount)
  let outstandings : OutstandingsInfo :=
    ⟨{ s.counters with dsrCount := s.counters.dsrCount - s.dsrPacketsAcked }, packets⟩
  let numOutstanding ← outstandings.numOutstanding
  checkThat .numClonedPackets (outstandings.numClonedPackets ≤ numOutstanding)
  return ({ c with
    outstandings
    lossState := s.lossState
    transportSettings := s.transportSettings
    rest }, s.largestNewlyAckedPacket, ackedPackets)

def processAckFrame (h : Handlers σ ε) (pnSpace : PacketNumberSpace) (frame : ReadAckFrame)
    (times : AckTimes) (c : SendConn σ) :
    Except (SendFailure ε) (SendConn σ × List AckPacket) := do
  let (packets, s) ← collectAcked h pnSpace frame times c
  let (ackedPackets, rest) ←
    liftHandler (visitPackets h s.packetsWithHandlerContext.reverse [] s.rest)
  checkThat .dsrCount (s.dsrPacketsAcked ≤ s.counters.dsrCount)
  let outstandings : OutstandingsInfo :=
    ⟨{ s.counters with dsrCount := s.counters.dsrCount - s.dsrPacketsAcked }, packets⟩
  let numOutstanding ← outstandings.numOutstanding
  checkThat .numClonedPackets (outstandings.numClonedPackets ≤ numOutstanding)
  let c := { c with
    outstandings
    lossState := s.lossState
    transportSettings := s.transportSettings
    rest }
  let c ← handleAckForLoss h s.largestNewlyAckedPacket ackedPackets times.ackReceiveTime pnSpace c
  let c ← clearOldOutstandingPackets times.ackReceiveTime pnSpace c
  return (c, ackedPackets)

theorem processAckFrame_eq (h : Handlers σ ε) (pnSpace : PacketNumberSpace) (frame : ReadAckFrame)
    (times : AckTimes) (c : SendConn σ) :
    processAckFrame h pnSpace frame times c = (do
      let (c, newly, acked) ← ackOutstandings h pnSpace frame times c
      let c ← handleAckForLoss h newly acked times.ackReceiveTime pnSpace c
      let c ← clearOldOutstandingPackets times.ackReceiveTime pnSpace c
      return (c, acked)) := by
  simp only [processAckFrame, ackOutstandings, bind_assoc, pure_bind]

/-! ### 0-RTT rejection -/

/-- The counters when a 0-RTT packet is given up. -/
def OutstandingsCounters.onZeroRttLoss (k : OutstandingsCounters) (p : OutstandingPacket) :
    Except (SendFailure ε) OutstandingsCounters := do
  let k' ← (k.eraseEvent p).decreaseIfCloned p
  if k.processed p then .ok k' else k'.decreasePacketCount p.packetNumberSpace

def zeroRttLoop (h : Handlers σ ε) :
    List OutstandingPacket → OutstandingsCounters → σ →
      Except (SendFailure ε) (List OutstandingPacket × OutstandingsCounters × σ)
  | [], k, rest => .ok ([], k, rest)
  | p :: packets, k, rest =>
      if isOutstanding .appData p ∧ p.protectionType = .zeroRtt then do
        let rest ← liftHandler (h.lossVisitor p (k.processed p) rest)
        let k ← k.onZeroRttLoss p
        zeroRttLoop h packets k rest
      else do
        let (packets, k, rest) ← zeroRttLoop h packets k rest
        return (p :: packets, k, rest)

def markZeroRttPacketsLost (h : Handlers σ ε) (c : SendConn σ) :
    Except (SendFailure ε) (SendConn σ) := do
  let (packets, counters, rest) ←
    zeroRttLoop h c.outstandings.packets c.outstandings.toOutstandingsCounters c.rest
  return { c with outstandings := ⟨counters, packets⟩, rest }

end MasqueQuic
