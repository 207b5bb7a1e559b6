/-
The loss alarm.

Loss detection leaves a loss time in a packet number space while a packet of the space may
still be declared lost by time. One timer serves the three loss times and the probe timeout,
and `currentAlarmMethod` says what it was armed for.

Packets are read and written in turns of the event loop that end in `setLossDetectionAlarm`;
the timer fires between turns. How long it runs is left out: while it is scheduled it may
fire at any time. The handlers of the frames are arbitrary, as in `OutstandingsRun`.
-/

import MasqueQuic.Quic.OutstandingsRun

namespace MasqueQuic

variable {σ ε α : Type}

inductive AlarmMethod where
  | earlyRetransmitOrReordering
  | pto
  deriving DecidableEq

/-- The ciphers that are installed, and how far the handshake has got. -/
structure ConnKeys where
  /-- Those for reading and writing Initial packets are dropped together. -/
  initialCiphers : Bool
  handshakeCiphers : Bool
  oneRttWriteCipher : Bool
  /-- The handshake layer has handed out the handshake ciphers; it does so once. -/
  handshakeKeys : Bool
  confirmed : Bool
  zeroRttRejected : Bool
  deriving DecidableEq

structure AlarmConn (σ : Type) where
  conn : SendConn σ
  lossTimes : PacketNumberSpace → Option Nat
  currentAlarmMethod : AlarmMethod
  ptoCount : Nat
  attemptedEarlyRetransmit0Rtt : Bool
  /-- `pendingEvents.setLossDetectionAlarm`. -/
  alarmPending : Bool
  lossTimeoutScheduled : Bool
  keys : ConnKeys

/-- What the alarm uses of the rest of the connection. -/
structure AlarmEnv (σ ε : Type) where
  handlers : Handlers σ ε
  /-- The visitors of `implicitAckCryptoStream`. -/
  implicitHandlers : Handlers σ ε
  /-- What `implicitAckCryptoStream` does to the crypto stream in the end. -/
  cryptoDone : PacketNumberSpace → σ → Except ε σ
  maxNumPTOs : Nat
  earlyRetransmit0Rtt : Bool

inductive AlarmFailure (ε : Type) where
  | send (f : SendFailure ε)
  | lossTimer       -- `CHECK(lossTimeAndSpace.first)`
  | exceededMaxPTO
  deriving DecidableEq

def liftSend : Except (SendFailure ε) α → Except (AlarmFailure ε) α
  | .ok a => .ok a
  | .error f => .error (.send f)

/-! ### Loss times -/

/-- One space in the loop of `earliestTimeAndSpace`. -/
def earlierTimeAndSpace (times : PacketNumberSpace → Option Nat) (considerAppData : Bool)
    (res : Option Nat × PacketNumberSpace) (pns : PacketNumberSpace) :
    Option Nat × PacketNumberSpace :=
  match times pns with
  | none => res
  | some time =>
      if pns = .appData ∧ ¬ considerAppData then res
      else if res.1.all (time < ·) then (some time, pns)
      else res

def earliestTimeAndSpace (times : PacketNumberSpace → Option Nat) (considerAppData : Bool) :
    Option Nat × PacketNumberSpace :=
  [PacketNumberSpace.initial, .handshake, .appData].foldl
    (earlierTimeAndSpace times considerAppData) (none, .initial)

def AlarmConn.earliestLossTimer (c : AlarmConn σ) : Option Nat × PacketNumberSpace :=
  earliestTimeAndSpace c.lossTimes c.keys.oneRttWriteCipher

/-- What `detectLossPackets` passes to `processOutstandingsForLoss`. -/
def lossParams (c : SendConn σ) (largestAcked lossTime : Nat) (pnSpace : PacketNumberSpace)
    (ackedPackets : List AckPacket) : LossParams where
  largestAcked
  pnSpace
  acked := largestAckedOf largestAcked ackedPackets
  lossTime
  rttSample := max c.lossState.srtt c.lossState.lrtt
  delayUntilLost :=
    max c.lossState.srtt c.lossState.lrtt * c.transportSettings.timeReorderingThreshDividend /
      c.transportSettings.timeReorderingThreshDivisor
  reorderingThreshold := c.lossState.reorderingThreshold
  timeReorderingThreshDivisor := c.transportSettings.timeReorderingThreshDivisor

/-- Loss detection passes the packet and does not declare it lost. -/
def LossParams.stays (q : LossParams) (p : OutstandingPacket) : Bool :=
  match (q.reorderDistance p : Except (SendFailure Empty) Nat) with
  | .ok reorderDistance =>
      !(q.lostByTimeout p || decide (reorderDistance > q.reorderingThreshold))
  | .error _ => false

/-- `shouldSetTimer`, which the loop of `processOutstandingsForLoss` returns. -/
def LossParams.shouldSetTimer (q : LossParams) : List OutstandingPacket → Bool
  | [] => false
  | p :: packets =>
      if p.packetNum ≥ q.largestAcked then false
      else if p.packetNumberSpace ≠ q.pnSpace ∨ p.declaredLost then q.shouldSetTimer packets
      else q.stays p || q.shouldSetTimer packets

theorem detectLossPackets_some (h : Handlers σ ε) (largestAcked lossTime : Nat)
    (pnSpace : PacketNumberSpace) (ackedPackets : List AckPacket) (c : SendConn σ) :
    detectLossPackets h (some largestAcked) lossTime pnSpace ackedPackets c =
      processOutstandingsForLoss h (lossParams c largestAcked lossTime pnSpace ackedPackets) c :=
  rfl

namespace AlarmConn

/-- The packet that the loss time of a space is set for. -/
def earliestOutstanding (o : OutstandingsInfo) (pnSpace : PacketNumberSpace) :
    Option OutstandingPacket :=
  o.packets.find? fun p => isOutstanding pnSpace p && !o.processed p

def detectLossPackets (h : Handlers σ ε) (largestAcked : Option Nat) (lossTime : Nat)
    (pnSpace : PacketNumberSpace) (ackedPackets : List AckPacket) (c : AlarmConn σ) :
    Except (AlarmFailure ε) (AlarmConn σ) := do
  let conn ←
    liftSend (MasqueQuic.detectLossPackets h largestAcked lossTime pnSpace ackedPackets c.conn)
  let shouldSetTimer := largestAcked.any fun largestAcked =>
    (lossParams c.conn largestAcked lossTime pnSpace ackedPackets).shouldSetTimer
      (c.conn.outstandings.packets.dropWhile fun p => !isOutstanding pnSpace p)
  let delayUntilLost := (lossParams c.conn 0 lossTime pnSpace ackedPackets).delayUntilLost
  let lossTimer :=
    if shouldSetTimer then
      (earliestOutstanding conn.outstandings pnSpace).map (1000 * delayUntilLost + ·.time)
    else none
  return { c with conn, lossTimes := Function.update c.lossTimes pnSpace lossTimer }

/-- `pendingEvents.setLossDetectionAlarm` after loss detection. -/
def alarmIfOutstanding (c : AlarmConn σ) : Except (AlarmFailure ε) (AlarmConn σ) := do
  let numOutstanding ← liftSend c.conn.outstandings.numOutstanding
  return { c with alarmPending := decide (0 < numOutstanding) }

def handleAckForLoss (h : Handlers σ ε) (largestNewlyAckedPacket : Option Nat)
    (ackedPackets : List AckPacket) (ackTime : Nat) (pnSpace : PacketNumberSpace)
    (c : AlarmConn σ) : Except (AlarmFailure ε) (AlarmConn σ) := do
  let ackState ← liftSend (getAckState c.conn pnSpace)
  let ackState := ackState.newlyAcked largestNewlyAckedPacket
  let c ← detectLossPackets h ackState.largestAckedByPeer ackTime pnSpace ackedPackets { c with
    conn.ackStates := c.conn.ackStates.set pnSpace ackState
    ptoCount := if largestNewlyAckedPacket.isSome then 0 else c.ptoCount }
  c.alarmIfOutstanding

def processAckFrame (h : Handlers σ ε) (pnSpace : PacketNumberSpace) (frame : ReadAckFrame)
    (times : AckTimes) (c : AlarmConn σ) : Except (AlarmFailure ε) (AlarmConn σ) := do
  let (conn, newly, acked) ← liftSend (ackOutstandings h pnSpace frame times c.conn)
  let c ← handleAckForLoss h newly acked times.ackReceiveTime pnSpace { c with conn }
  let conn ← liftSend (clearOldOutstandingPackets times.ackReceiveTime pnSpace c.conn)
  return { c with conn }

/-! ### The timer -/

/-- At the end of a turn. `hasDataToWrite` is found out from the rest of the connection. -/
def setLossDetectionAlarm (hasDataToWrite : Bool) (c : AlarmConn σ) :
    Except (AlarmFailure ε) (AlarmConn σ) := do
  let totalPacketsOutstanding ← liftSend c.conn.outstandings.numOutstanding
  if ¬ hasDataToWrite ∧ c.conn.outstandings.packetEvents = ∅ ∧
      totalPacketsOutstanding = c.conn.outstandings.numClonedPackets then
    return { c with alarmPending := false, lossTimeoutScheduled := false }
  let c :=
    if c.currentAlarmMethod = .earlyRetransmitOrReordering ∧ c.earliestLossTimer.1 = none then
      { c with lossTimeoutScheduled := false }
    else c
  if ¬ c.alarmPending then
    return c
  -- `calculateAlarmDuration`
  let currentAlarmMethod :=
    if c.earliestLossTimer.1.isSome then AlarmMethod.earlyRetransmitOrReordering else .pto
  return { c with
    currentAlarmMethod
    lossTimeoutScheduled := true
    alarmPending := false }

def onPTOAlarm (env : AlarmEnv σ ε) (c : AlarmConn σ) :
    Except (AlarmFailure ε) (AlarmConn σ) := do
  let c := { c with ptoCount := c.ptoCount + 1 }
  if c.ptoCount = env.maxNumPTOs then
    .error .exceededMaxPTO
  else if env.earlyRetransmit0Rtt ∧ ¬ c.attemptedEarlyRetransmit0Rtt ∧ c.keys.oneRttWriteCipher then
    let conn ← liftSend (markZeroRttPacketsLost env.handlers c.conn)
    return { c with conn, attemptedEarlyRetransmit0Rtt := true }
  else .ok c

/-- The part of `onLossDetectionAlarm` for a timer that was armed for a loss time. -/
def onLossTimeAlarm (env : AlarmEnv σ ε) (now : Nat) (c : AlarmConn σ) :
    Except (AlarmFailure ε) (AlarmConn σ) :=
  let lossTimeAndSpace := c.earliestLossTimer
  if lossTimeAndSpace.1 = none then .error .lossTimer
  else do
    let ackState ← liftSend (getAckState c.conn lossTimeAndSpace.2)
    detectLossPackets env.handlers ackState.largestAckedByPeer now lossTimeAndSpace.2 [] c

def onLossDetectionAlarm (env : AlarmEnv σ ε) (now : Nat) (c : AlarmConn σ) :
    Except (AlarmFailure ε) (AlarmConn σ) :=
  if c.conn.outstandings.packets = [] then .ok c
  else do
    let c ← (if c.currentAlarmMethod = .earlyRetransmitOrReordering then onLossTimeAlarm env now c
      else onPTOAlarm env c)
    c.alarmIfOutstanding

/-! ### The end of the handshake -/

def implicitAckCryptoStream (env : AlarmEnv σ ε) (space : PacketNumberSpace) (times : AckTimes)
    (c : AlarmConn σ) : Except (AlarmFailure ε) (AlarmConn σ) := do
  let _ ← liftSend (getAckState c.conn space : Except (SendFailure ε) AckState)
  match (c.conn.outstandings.packets.filter (own space)).map (·.packetNum) with
  | [] => .ok c
  | first :: others => do
      let c ← processAckFrame env.implicitHandlers space (implicitAck first others) times c
      let rest ← liftSend (liftHandler (env.cryptoDone space c.conn.rest))
      return { c with conn.rest := rest }

/-- A space and its ack state are given up. -/
def discardSpace (env : AlarmEnv σ ε) (space : PacketNumberSpace) (times : AckTimes)
    (c : AlarmConn σ) : Except (AlarmFailure ε) (AlarmConn σ) := do
  let c ← implicitAckCryptoStream env space times c
  return { c with conn.ackStates := c.conn.ackStates.reset space }

def handshakeConfirmed (env : AlarmEnv σ ε) (times : AckTimes) (c : AlarmConn σ) :
    Except (AlarmFailure ε) (AlarmConn σ) := do
  let c ← discardSpace env .initial times { c with keys.initialCiphers := false }
  discardSpace env .handshake times
    { c with keys.handshakeCiphers := false, keys.confirmed := true }

/-! ### Turns -/

end AlarmConn

/-- What happens while packets are read or written. -/
inductive AlarmOp (σ ε : Type) where
  | send (packet : RegularQuicWritePacket) (sentTime : Nat)
  | sendDsr (frames : List QuicWriteFrame) (sentTime : Nat)
  | clone (index : Nat) (packet : RegularQuicWritePacket) (sentTime : Option Nat)
  | ack (pnSpace : PacketNumberSpace) (frame : ReadAckFrame) (times : AckTimes)
  | installHandshakeKeys
  /-- Crypto data is handed to the handshake layer. `keys`: it hands out the 1-RTT ciphers;
  `rejected`: the peer has rejected 0-RTT. -/
  | doHandshake (keys rejected : Bool)
  /-- The first Handshake packet is read. -/
  | discardInitial (times : AckTimes)
  | handshakeConfirmed (times : AckTimes)
  | tune (lossState : LossState) (transportSettings : TransportSettings)
  | other (f : σ → Except ε σ)

inductive AlarmEvent (σ ε : Type) where
  /-- Packets are read (`onNetworkData`) or written (`writeSocketData`). -/
  | turn (ops : List (AlarmOp σ ε)) (hasDataToWrite : Bool)
  | lossTimeoutExpired (now : Nat)
  /-- The second socket is tried as nothing has been received on the first one. -/
  | happyEyeballs

namespace AlarmConn

/-- Packets are sent and acks are read while there are ciphers for them. Acks of 0-RTT and
1-RTT packets are read with ciphers that come with the one for 1-RTT packets, or later. -/
def canUse (c : AlarmConn σ) : PacketNumberSpace → Bool
  | .initial => c.keys.initialCiphers
  | .handshake => c.keys.handshakeCiphers
  | .appData => true

/-- A packet is sent as 0-RTT packet as long as there is no cipher for 1-RTT packets. -/
def canSend (c : AlarmConn σ) (packet : RegularQuicWritePacket) : Bool :=
  c.canUse packet.packetNumberSpace && !(packet.protectionType == .zeroRtt && c.keys.oneRttWriteCipher)

def canAck (c : AlarmConn σ) (pnSpace : PacketNumberSpace) : Bool :=
  c.canUse pnSpace && !(pnSpace == .appData && !c.keys.oneRttWriteCipher)

/-- `updateConnection` has been run for a packet. -/
def sent (c : AlarmConn σ) (frames : List QuicWriteFrame)
    (x : Except (SendFailure ε) (SendConn σ)) : Except (AlarmFailure ε) (AlarmConn σ) := do
  let conn ← liftSend x
  return { c with
    conn
    alarmPending := c.alarmPending || frames.any QuicWriteFrame.retransmittable }

def runOp (env : AlarmEnv σ ε) (c : AlarmConn σ) :
    AlarmOp σ ε → Except (AlarmFailure ε) (AlarmConn σ)
  | .send packet sentTime =>
      if c.canSend packet then
        c.sent packet.frames (updateConnection env.handlers c.conn none packet sentTime false)
      else .ok c
  | .sendDsr frames sentTime =>
      c.sent frames
        (updateConnection env.handlers c.conn none ⟨.keyPhaseZero, frames⟩ sentTime true)
  | .clone index packet sentTime =>
      if c.canSend packet then
        c.sent packet.frames (clonePacket env.handlers c.conn index packet sentTime)
      else .ok c
  | .ack pnSpace frame times =>
      if c.canAck pnSpace then processAckFrame env.handlers pnSpace frame times c else .ok c
  | .installHandshakeKeys =>
      .ok (if c.keys.handshakeKeys then c
        else { c with keys.handshakeCiphers := true, keys.handshakeKeys := true })
  | .doHandshake keys rejected => do
      let c :=
        if keys ∧ ¬ c.keys.oneRttWriteCipher then
          { c with keys.oneRttWriteCipher := true, keys.zeroRttRejected := rejected }
        else c
      if c.keys.zeroRttRejected then
        let conn ← liftSend (markZeroRttPacketsLost env.handlers c.conn)
        return { c with conn }
      else return c
  | .discardInitial times =>
      if c.keys.initialCiphers then
        implicitAckCryptoStream env .initial times { c with keys.initialCiphers := false }
      else .ok c
  | .handshakeConfirmed times =>
      if c.keys.handshakeKeys ∧ c.keys.oneRttWriteCipher ∧ ¬ c.keys.confirmed then
        c.handshakeConfirmed env times
      else .ok c
  | .tune lossState transportSettings =>
      .ok { c with conn.lossState := lossState, conn.transportSettings := transportSettings }
  | .other f => do
      let rest ← liftSend (liftHandler (f c.conn.rest))
      return { c with conn.rest := rest }

def step (env : AlarmEnv σ ε) (c : AlarmConn σ) :
    AlarmEvent σ ε → Except (AlarmFailure ε) (AlarmConn σ)
  | .turn ops hasDataToWrite => do
      let c ← ops.foldlM (runOp env) c
      c.setLossDetectionAlarm hasDataToWrite
  | .lossTimeoutExpired now =>
      if c.lossTimeoutScheduled then
        onLossDetectionAlarm env now { c with lossTimeoutScheduled := false }
      else .ok c
  | .happyEyeballs =>
      if c.keys.oneRttWriteCipher then .ok c
      else do
        let conn ← liftSend (markZeroRttPacketsLost env.handlers c.conn)
        return { c with conn }

/-- A new connection. -/
def start (initial handshake appData : AckState) (lossState : LossState)
    (transportSettings : TransportSettings) (rest : σ) : AlarmConn σ where
  conn := {
    outstandings := .empty
    ackStates := ⟨some initial, some handshake, appData⟩
    lossState
    transportSettings
    rest }
  lossTimes _ := none
  currentAlarmMethod := .earlyRetransmitOrReordering
  ptoCount := 0
  attemptedEarlyRetransmit0Rtt := false
  alarmPending := false
  lossTimeoutScheduled := false
  keys := {
    initialCiphers := true
    handshakeCiphers := false
    oneRttWriteCipher := false
    handshakeKeys := false
    confirmed := false
    zeroRttRejected := false }

end AlarmConn

end MasqueQuic
