/-
Bytes in flight.

`lossState.inflightBytes` is kept by the congestion controller: a packet that is sent adds its
size, and acks, losses and rejected 0-RTT packets are reported with the bytes to take away.
The packets themselves are those of `Outstandings`; their sizes are kept beside the queue,
under the numbers of the packets. A loss event collects the packets for which the loss visitor
is called, so the visitor records them here.

Only controllers that count in `lossState` are modelled, the ones a factory makes.
-/

import MasqueQuic.Quic.LossAlarm

namespace MasqueQuic

variable {σ ε : Type}

inductive CongestionControlType where
  | cubic
  | newReno
  | copa
  | copa2
  | bbr
  | bbr2
  deriving DecidableEq

structure InflightConn (σ : Type) where
  conn : SendConn σ
  /-- `metadata.encodedSize` of the packet with a number. -/
  encodedSizes : PacketEvent → Nat
  inflightBytes : Nat
  congestionController : CongestionControlType
  /-- Whether there is a `congestionControllerFactory`. -/
  hasFactory : Bool

inductive InflightFailure (ε : Type) where
  | queue (f : SendFailure ε)
  | inflightBytesOverflow   -- `INFLIGHT_BYTES_OVERFLOW`, or `CWND_OVERFLOW` on an addition
  | lostBytesOverflow       -- `LOST_BYTES_OVERFLOW`
  | underflow               -- a `DCHECK_LE` of `Cubic`, or `CWND_OVERFLOW` on a subtraction
  deriving DecidableEq

def liftQueue {α : Type} : Except (SendFailure ε) α → Except (InflightFailure ε) α
  | .ok a => .ok a
  | .error f => .error (.queue f)

/-! ### The congestion controller -/

def uint64Max : Nat := 2 ^ 64 - 1

/-- `onPacketSent`. -/
def addToInflight (inflightBytes encodedSize : Nat) : Except (InflightFailure ε) Nat :=
  if uint64Max - inflightBytes < encodedSize then .error .inflightBytesOverflow
  else .ok (inflightBytes + encodedSize)

def onRemoveBytesFromInflight (inflightBytes bytes : Nat) : Except (InflightFailure ε) Nat :=
  if inflightBytes < bytes then .error .underflow else .ok (inflightBytes - bytes)

/-- What the controllers read of an `AckEvent`. -/
structure AckedBytes where
  largestNewlyAckedPacket : Option Nat
  ackedBytes : Nat
  deriving DecidableEq

/-- The lost bytes of a loss event are taken away. -/
def onPacketLoss (lostBytes : Option Nat) (inflightBytes : Nat) :
    Except (InflightFailure ε) Nat :=
  match lostBytes with
  | none => .ok inflightBytes
  | some lostBytes => onRemoveBytesFromInflight inflightBytes lostBytes

def onPacketAcked (ack : Option AckedBytes) (inflightBytes : Nat) :
    Except (InflightFailure ε) Nat :=
  match ack with
  | none => .ok inflightBytes
  | some ack => onRemoveBytesFromInflight inflightBytes ack.ackedBytes

/-- Some controllers deal with the loss first, and with the ack if it is news; the others
take away both right at the beginning. -/
def CongestionControlType.onPacketAckOrLoss (type : CongestionControlType)
    (ackEvent : Option AckedBytes) (lostBytes : Option Nat) (inflightBytes : Nat) :
    Except (InflightFailure ε) Nat :=
  match type with
  | .cubic | .newReno | .copa | .copa2 => do
      let inflightBytes ← onPacketLoss lostBytes inflightBytes
      onPacketAcked (ackEvent.filter (·.largestNewlyAckedPacket.isSome)) inflightBytes
  | .bbr | .bbr2 => do
      let inflightBytes ← onPacketAcked ackEvent inflightBytes
      onPacketLoss lostBytes inflightBytes

/-! ### Loss events -/

/-- The handlers with a loss visitor that records the packets it is called for. -/
def Handlers.recording (h : Handlers σ ε) : Handlers (σ × List OutstandingPacket) ε where
  packetSent p s := do
    let rest ← h.packetSent p s.1
    return (rest, s.2)
  ackVisitor p frame s := do
    let rest ← h.ackVisitor p frame s.1
    return (rest, s.2)
  lossVisitor p processed s := do
    let rest ← h.lossVisitor p processed s.1
    return (rest, s.2 ++ [p])
  spuriousLoss frame s := do
    let rest ← h.spuriousLoss frame s.1
    return (rest, s.2)
  findStream id s := h.findStream id s.1

/-- Run a function that looks for lost packets, and return these beside the connection. -/
def collectLost
    (f : SendConn (σ × List OutstandingPacket) →
      Except (SendFailure ε) (SendConn (σ × List OutstandingPacket)))
    (c : SendConn σ) : Except (InflightFailure ε) (SendConn σ × List OutstandingPacket) := do
  let c' ← liftQueue (f ⟨c.outstandings, c.ackStates, c.lossState, c.transportSettings,
    (c.rest, [])⟩)
  return (⟨c'.outstandings, c'.ackStates, c'.lossState, c'.transportSettings, c'.rest.1⟩,
    c'.rest.2)

/-- `LossEvent::addLostPacket`, as far as the bytes go. -/
def addLostPacket (encodedSizes : PacketEvent → Nat) (lostBytes : Nat) (p : OutstandingPacket) :
    Except (InflightFailure ε) Nat :=
  if uint64Max - lostBytes < encodedSizes p.ownEvent then .error .lostBytesOverflow
  else .ok (lostBytes + encodedSizes p.ownEvent)

/-- The `lostBytes` of the loss event, which is none when no packet is lost. -/
def lossEventBytes (encodedSizes : PacketEvent → Nat) (lost : List OutstandingPacket) :
    Except (InflightFailure ε) (Option Nat) :=
  if lost = [] then .ok none else do
    let lostBytes ← lost.foldlM (addLostPacket encodedSizes) 0
    return some lostBytes

/-- `ack.ackedBytes`. -/
def ackedBytesOf (encodedSizes : PacketEvent → Nat) (pnSpace : PacketNumberSpace)
    (ackedPackets : List AckPacket) : Nat :=
  (ackedPackets.map fun a => encodedSizes ⟨pnSpace, a.packetNum⟩).sum % 2 ^ 64

/-! ### The connection -/

namespace InflightConn

def updateConnection (h : Handlers σ ε) (c : InflightConn σ) (packetEvent : Option PacketEvent)
    (packet : RegularQuicWritePacket) (sentTime : Nat) (isDSRPacket : Bool) (encodedSize : Nat) :
    Except (InflightFailure ε) (InflightConn σ) := do
  let ackState ← liftQueue (getAckState c.conn packet.packetNumberSpace)
  let conn ← liftQueue
    (MasqueQuic.updateConnection h c.conn packetEvent packet sentTime isDSRPacket)
  if ¬ packet.tracked then
    return { c with conn }
  let inflightBytes ← addToInflight c.inflightBytes encodedSize
  let pkt : PacketEvent := ⟨packet.packetNumberSpace, ackState.nextPacketNum⟩
  return { c with
    conn
    encodedSizes := Function.update c.encodedSizes pkt encodedSize
    inflightBytes }

/-- `CloningScheduler` rebuilds the packet at an index. `sent` has the time and the size of the
clone, if it is sent after all. -/
def clonePacket (h : Handlers σ ε) (c : InflightConn σ) (index : Nat)
    (packet : RegularQuicWritePacket) (sent : Option (Nat × Nat)) :
    Except (InflightFailure ε) (InflightConn σ) :=
  match c.conn.outstandings.packets[index]? with
  | none => .ok c
  | some p =>
      if mayClone c.conn.outstandings.toOutstandingsCounters packet.packetNumberSpace p then
        let (event, outstandings) := cloneOutstandingPacket c.conn.outstandings index p
        let c := { c with conn.outstandings := outstandings }
        match sent with
        | none => .ok c
        | some (sentTime, encodedSize) =>
            c.updateConnection h (some event) packet sentTime false encodedSize
      else .ok c

def processAckFrame (h : Handlers σ ε) (pnSpace : PacketNumberSpace) (frame : ReadAckFrame)
    (times : AckTimes) (c : InflightConn σ) : Except (InflightFailure ε) (InflightConn σ) := do
  let (conn, newly, ackedPackets) ← liftQueue (ackOutstandings h pnSpace frame times c.conn)
  let (conn, lost) ← collectLost
    (handleAckForLoss h.recording newly ackedPackets times.ackReceiveTime pnSpace) conn
  let lossEvent ← lossEventBytes c.encodedSizes lost
  let inflightBytes ←
    (if newly.isSome ∨ lossEvent.isSome then
      c.congestionController.onPacketAckOrLoss
        (some ⟨newly, ackedBytesOf c.encodedSizes pnSpace ackedPackets⟩) lossEvent c.inflightBytes
    else .ok c.inflightBytes)
  let conn ← liftQueue (clearOldOutstandingPackets times.ackReceiveTime pnSpace conn)
  return { c with conn, inflightBytes }

def implicitAckCryptoStream (env : AlarmEnv σ ε) (space : PacketNumberSpace) (times : AckTimes)
    (c : InflightConn σ) : Except (InflightFailure ε) (InflightConn σ) := do
  let _ ← liftQueue (getAckState c.conn space : Except (SendFailure ε) AckState)
  match (c.conn.outstandings.packets.filter (own space)).map (·.packetNum) with
  | [] => .ok c
  | first :: others => do
      let c ← c.processAckFrame env.implicitHandlers space (implicitAck first others) times
      let rest ← liftQueue (liftHandler (env.cryptoDone space c.conn.rest))
      return { c with conn.rest := rest }

/-- The part of `onLossDetectionAlarm` for the timer of a space. -/
def onLossTimer (h : Handlers σ ε) (pnSpace : PacketNumberSpace) (now : Nat)
    (c : InflightConn σ) : Except (InflightFailure ε) (InflightConn σ) := do
  let (conn, lost) ← collectLost (MasqueQuic.onLossTimer h.recording pnSpace now) c.conn
  let lossEvent ← lossEventBytes c.encodedSizes lost
  let inflightBytes ←
    (if lossEvent.isSome then
      c.congestionController.onPacketAckOrLoss none lossEvent c.inflightBytes
    else .ok c.inflightBytes)
  return { c with conn, inflightBytes }

def markZeroRttPacketsLost (h : Handlers σ ε) (c : InflightConn σ) :
    Except (InflightFailure ε) (InflightConn σ) := do
  let (conn, lost) ← collectLost (MasqueQuic.markZeroRttPacketsLost h.recording) c.conn
  let lossEvent ← lossEventBytes c.encodedSizes lost
  let inflightBytes ← onPacketLoss lossEvent c.inflightBytes
  return { c with conn, inflightBytes }

end InflightConn

/-! ### Retry -/

/-- One packet in the loop of `undoAllClientStateForRetry`. -/
def OutstandingsInfo.copyZeroRtt (new : OutstandingsInfo) (p : OutstandingPacket) :
    OutstandingsInfo :=
  if p.packetNumberSpace = .appData ∧ p.protectionType = .zeroRtt then
    ⟨new.toOutstandingsCounters.increasePacketCount .appData, new.packets ++ [p]⟩
  else new

/-- The ack states of the new connection. Those of the first two spaces are dereferenced. -/
def retryAckStates (c : SendConn σ) : Except (SendFailure ε) AckStates := do
  let initialAckState ← getAckState c .initial
  let handshakeAckState ← getAckState c .handshake
  return {
    initialAckState := some ⟨initialAckState.nextPacketNum, none⟩
    handshakeAckState := some ⟨handshakeAckState.nextPacketNum, none⟩
    appDataAckState := ⟨c.ackStates.appDataAckState.nextPacketNum, none⟩ }

/-- Only 0-RTT packets are copied over, to be declared lost, and `lossState` as it is. `undo`
stands for what is made of the rest of the connection. -/
def InflightConn.undoAllClientStateForRetry (h : Handlers σ ε) (undo : σ → σ)
    (c : InflightConn σ) : Except (InflightFailure ε) (InflightConn σ) := do
  let ackStates ← liftQueue (retryAckStates c.conn)
  let newConn : SendConn σ :=
    { c.conn with
      outstandings := c.conn.outstandings.packets.foldl OutstandingsInfo.copyZeroRtt .empty
      ackStates
      rest := undo c.conn.rest }
  InflightConn.markZeroRttPacketsLost h { c with
    conn := newConn
    congestionController := if c.hasFactory then c.congestionController else .cubic }

/-! ### Runs -/

inductive InflightEvent (σ ε : Type) where
  | send (packet : RegularQuicWritePacket) (sentTime encodedSize : Nat)
  | sendDsr (frames : List QuicWriteFrame) (sentTime encodedSize : Nat)
  | clone (index : Nat) (packet : RegularQuicWritePacket) (sent : Option (Nat × Nat))
  | ack (pnSpace : PacketNumberSpace) (frame : ReadAckFrame) (times : AckTimes)
  | implicitAck (space : PacketNumberSpace) (times : AckTimes)
  | lossTimer (pnSpace : PacketNumberSpace) (now : Nat)
  | zeroRttRejected
  | retry (undo : σ → σ)
  | setCongestionControl (type : CongestionControlType)
  /-- `handshakeConfirmed` gives up a space. -/
  | resetAckState (space : PacketNumberSpace)
  | tune (lossState : LossState) (transportSettings : TransportSettings)
  /-- Anything that does not touch the outstanding packets. -/
  | other (f : σ → Except ε σ)

def InflightConn.step (env : AlarmEnv σ ε) (c : InflightConn σ) :
    InflightEvent σ ε → Except (InflightFailure ε) (InflightConn σ)
  | .send packet sentTime encodedSize =>
      c.updateConnection env.handlers none packet sentTime false encodedSize
  | .sendDsr frames sentTime encodedSize =>
      c.updateConnection env.handlers none ⟨.keyPhaseZero, frames⟩ sentTime true encodedSize
  | .clone index packet sent => c.clonePacket env.handlers index packet sent
  | .ack pnSpace frame times => c.processAckFrame env.handlers pnSpace frame times
  | .implicitAck space times => c.implicitAckCryptoStream env space times
  | .lossTimer pnSpace now => c.onLossTimer env.handlers pnSpace now
  | .zeroRttRejected => c.markZeroRttPacketsLost env.handlers
  | .retry undo => c.undoAllClientStateForRetry env.handlers undo
  | .setCongestionControl type => .ok { c with congestionController := type }
  | .resetAckState space => .ok { c with conn.ackStates := c.conn.ackStates.reset space }
  | .tune lossState transportSettings =>
      .ok { c with conn.lossState := lossState, conn.transportSettings := transportSettings }
  | .other f => do
      let rest ← liftQueue (liftHandler (f c.conn.rest))
      return { c with conn.rest := rest }

end MasqueQuic
