/-
Packets that have been sent and not been acknowledged.

`OutstandingsInfo` holds them in one queue over all packet number spaces, with counters
beside it. What a packet does to the rest of the connection when it is sent, acknowledged
or lost is up to the handlers of its frames; they are a parameter (`Handlers`) and work on
the state `σ` that is not modelled here. None of them sees the queue or the counters.

Points in time are nanoseconds and durations microseconds.
-/

import Mathlib.Data.Finset.Card
import MasqueQuic.Lib.Deque
import MasqueQuic.Quic.FlowControl
import MasqueQuic.Quic.Frames

namespace MasqueQuic

inductive PacketNumberSpace where
  | initial
  | handshake
  | appData
  deriving DecidableEq

inductive ProtectionType where
  | initial
  | handshake
  | zeroRtt
  | keyPhaseZero
  | keyPhaseOne
  deriving DecidableEq

def protectionTypeToPacketNumberSpace : ProtectionType → PacketNumberSpace
  | .initial => .initial
  | .handshake => .handshake
  | .zeroRtt | .keyPhaseZero | .keyPhaseOne => .appData

structure WriteStreamFrame where
  streamId : StreamId
  offset : Nat
  len : Nat
  fin : Bool
  fromBufMeta : Bool
  streamPacketIdx : Nat
  deriving DecidableEq

inductive QuicWriteFrame where
  | padding
  | rstStream (frame : RstStreamFrame)
  | connectionClose
  | maxData (maximumData : Nat)
  | maxStreamData (streamId : StreamId) (maximumData : Nat)
  | dataBlocked (dataLimit : Nat)
  | streamDataBlocked (streamId : StreamId) (dataLimit : Nat)
  | streamsBlocked (streamLimit : Nat) (isForBidirectional : Bool)
  | writeAck
  | writeStream (frame : WriteStreamFrame)
  | writeCrypto (offset len : Nat)
  | simple (frame : QuicSimpleFrame)
  | ping
  | noop
  | datagram (length : Nat)
  | immediateAck
  deriving DecidableEq

/-- Whether `updateConnection` treats a packet with the frame as retransmittable. -/
def QuicWriteFrame.retransmittable : QuicWriteFrame → Bool
  | .padding | .writeAck | .ping | .datagram _ => false
  | _ => true

structure PacketEvent where
  packetNumberSpace : PacketNumberSpace
  packetNumber : Nat
  deriving DecidableEq

structure OutstandingPacket where
  packetNum : Nat
  protectionType : ProtectionType
  frames : List QuicWriteFrame
  time : Nat
  isDSRPacket : Bool
  associatedEvent : Option PacketEvent
  declaredLost : Bool
  lossTimeoutDividend : Option Nat
  lossReorderDistance : Option Nat
  deriving DecidableEq

def OutstandingPacket.packetNumberSpace (p : OutstandingPacket) : PacketNumberSpace :=
  protectionTypeToPacketNumberSpace p.protectionType

/-- The counters of `OutstandingsInfo`, and its set of events. -/
structure OutstandingsCounters where
  packetEvents : Finset PacketEvent
  packetCount : PacketNumberSpace → Nat
  clonedPacketCount : PacketNumberSpace → Nat
  declaredLostCount : Nat
  dsrCount : Nat

structure OutstandingsInfo extends OutstandingsCounters where
  packets : List OutstandingPacket

structure AckState where
  nextPacketNum : Nat
  largestAckedByPeer : Option Nat
  deriving DecidableEq

structure AckStates where
  initialAckState : Option AckState
  handshakeAckState : Option AckState
  appDataAckState : AckState
  deriving DecidableEq

structure LossState where
  maxAckDelay : Nat
  mrtt : Nat
  srtt : Nat
  lrtt : Nat
  rttvar : Nat
  reorderingThreshold : Nat
  deriving DecidableEq

structure TransportSettings where
  initialRtt : Nat
  timeReorderingThreshDividend : Nat
  timeReorderingThreshDivisor : Nat
  useAdaptiveLossReorderingThresholds : Bool
  useAdaptiveLossTimeThresholds : Bool
  removeFromLossBufferOnSpurious : Bool
  deriving DecidableEq

structure SendConn (σ : Type) where
  outstandings : OutstandingsInfo
  ackStates : AckStates
  lossState : LossState
  transportSettings : TransportSettings
  rest : σ

/-- The `CHECK`s of the functions that work on outstanding packets. -/
inductive SendCheck where
  | declaredLostCount   -- `CHECK_GT(declaredLostCount, 0)`
  | packetCount         -- `CHECK(packetCount[..])`
  | clonedPacketCount   -- `CHECK(clonedPacketCount[..])`
  | dsrCount            -- `CHECK_GE(dsrCount, dsrPacketsAcked)`, `CHECK_GT(dsrCount, 0)`
  | numOutstanding      -- `CHECK_GE(packets.size(), declaredLostCount)`
  | numClonedPackets    -- `CHECK_GE(updatedOustandingPacketsCount, numClonedPackets())`
  | ackState            -- `CHECK_NOTNULL` in `getAckState`
  | rttSample           -- `CHECK(!ack.rttSample.has_value())`
  | dsrPacket           -- `CHECK(pkt.isDSRPacket)`
  | largestNonDsrAcked  -- `CHECK(*largestNonDsrAcked == largestAcked)`
  deriving DecidableEq

/-- The check is about one of the counters. -/
def SendCheck.onCounter : SendCheck → Bool
  | .declaredLostCount | .packetCount | .clonedPacketCount | .dsrCount | .numOutstanding
  | .numClonedPackets => true
  | _ => false

inductive SendFailure (ε : Type) where
  | check (which : SendCheck)
  | thrown (e : ε)
  deriving DecidableEq

/-- What the frames of a packet do to the rest of the connection: when the packet is sent
(the loop over the frames in `updateConnection`), acknowledged, lost, or acknowledged
after it was declared lost. -/
structure Handlers (σ ε : Type) where
  packetSent : OutstandingPacket → σ → Except ε σ
  ackVisitor : OutstandingPacket → QuicWriteFrame → σ → Except ε σ
  lossVisitor : OutstandingPacket → Bool → σ → Except ε σ
  spuriousLoss : WriteStreamFrame → σ → Except ε σ
  findStream : StreamId → σ → Bool

variable {σ ε α : Type}

/-- A `CHECK`. -/
def checkThat (which : SendCheck) (p : Prop) [Decidable p] : Except (SendFailure ε) Unit :=
  if p then .ok () else .error (.check which)

/-- Run a handler. -/
def liftHandler : Except ε α → Except (SendFailure ε) α
  | .ok a => .ok a
  | .error e => .error (.thrown e)

namespace AckStates

def get : AckStates → PacketNumberSpace → Option AckState
  | s, .initial => s.initialAckState
  | s, .handshake => s.handshakeAckState
  | s, .appData => some s.appDataAckState

def set : AckStates → PacketNumberSpace → AckState → AckStates
  | s, .initial, a => { s with initialAckState := some a }
  | s, .handshake, a => { s with handshakeAckState := some a }
  | s, .appData, a => { s with appDataAckState := a }

/-- `initialAckState.reset()` and `handshakeAckState.reset()`. -/
def reset : AckStates → PacketNumberSpace → AckStates
  | s, .initial => { s with initialAckState := none }
  | s, .handshake => { s with handshakeAckState := none }
  | s, .appData => s

@[simp]
theorem get_set (s : AckStates) (space space' : PacketNumberSpace) (a : AckState) :
    (s.set space a).get space' = if space' = space then some a else s.get space' := by
  cases space <;> cases space' <;> rfl

theorem get_of_reset {s : AckStates} {space space' : PacketNumberSpace} {a : AckState}
    (h : (s.reset space).get space' = some a) : s.get space' = some a := by
  cases space <;> cases space' <;> first | exact h | cases h

theorem get_reset_of_ne {s : AckStates} {space space' : PacketNumberSpace} (h : space' ≠ space) :
    (s.reset space).get space' = s.get space' := by
  cases space <;> cases space' <;> first | rfl | exact absurd rfl h

end AckStates

def getAckState (c : SendConn σ) (space : PacketNumberSpace) :
    Except (SendFailure ε) AckState :=
  match c.ackStates.get space with
  | some ackState => .ok ackState
  | none => .error (.check .ackState)

namespace OutstandingsCounters

def increasePacketCount (k : OutstandingsCounters) (space : PacketNumberSpace) :
    OutstandingsCounters :=
  { k with packetCount := Function.update k.packetCount space (k.packetCount space + 1) }

def increaseClonedPacketCount (k : OutstandingsCounters) (space : PacketNumberSpace) :
    OutstandingsCounters :=
  { k with
    clonedPacketCount :=
      Function.update k.clonedPacketCount space (k.clonedPacketCount space + 1) }

def decreasePacketCount (k : OutstandingsCounters) (space : PacketNumberSpace) :
    Except (SendFailure ε) OutstandingsCounters := do
  checkThat .packetCount (0 < k.packetCount space)
  return { k with packetCount := Function.update k.packetCount space (k.packetCount space - 1) }

def decreaseClonedPacketCount (k : OutstandingsCounters) (space : PacketNumberSpace) :
    Except (SendFailure ε) OutstandingsCounters := do
  checkThat .clonedPacketCount (0 < k.clonedPacketCount space)
  return { k with
    clonedPacketCount :=
      Function.update k.clonedPacketCount space (k.clonedPacketCount space - 1) }

def decreaseDeclaredLostCount (k : OutstandingsCounters) :
    Except (SendFailure ε) OutstandingsCounters := do
  checkThat .declaredLostCount (0 < k.declaredLostCount)
  return { k with declaredLostCount := k.declaredLostCount - 1 }

def decreaseDsrCount (k : OutstandingsCounters) : Except (SendFailure ε) OutstandingsCounters := do
  checkThat .dsrCount (0 < k.dsrCount)
  return { k with dsrCount := k.dsrCount - 1 }

def numClonedPackets (k : OutstandingsCounters) : Nat :=
  k.clonedPacketCount .initial + k.clonedPacketCount .handshake + k.clonedPacketCount .appData

end OutstandingsCounters

def OutstandingsInfo.numOutstanding (o : OutstandingsInfo) : Except (SendFailure ε) Nat := do
  checkThat .numOutstanding (o.declaredLostCount ≤ o.packets.length)
  return o.packets.length - o.declaredLostCount

/-- Nothing has been sent. -/
def OutstandingsInfo.empty : OutstandingsInfo where
  packetEvents := ∅
  packetCount _ := 0
  clonedPacketCount _ := 0
  declaredLostCount := 0
  dsrCount := 0
  packets := []

/-- The frames of the packet have been dealt with through another packet of its event. -/
def OutstandingsCounters.processed (k : OutstandingsCounters) (p : OutstandingPacket) : Bool :=
  match p.associatedEvent with
  | none => false
  | some event => event ∉ k.packetEvents

def OutstandingsCounters.eraseEvent (k : OutstandingsCounters) (p : OutstandingPacket) :
    OutstandingsCounters :=
  match p.associatedEvent with
  | none => k
  | some event => { k with packetEvents := k.packetEvents.erase event }

/-- The position at which `updateConnection` puts a packet. -/
def insertPosition (packets : List OutstandingPacket) (packetNum : Nat) : Nat :=
  Deque.rfind (·.packetNum < packetNum) packets packets.length

/-- A packet that has been built. It gets the next number of its space. -/
structure RegularQuicWritePacket where
  protectionType : ProtectionType
  frames : List QuicWriteFrame
  deriving DecidableEq

def RegularQuicWritePacket.packetNumberSpace (packet : RegularQuicWritePacket) :
    PacketNumberSpace :=
  protectionTypeToPacketNumberSpace packet.protectionType

/-- `retransmittable || isPing`: the packet joins the outstanding packets. -/
def RegularQuicWritePacket.tracked (packet : RegularQuicWritePacket) : Bool :=
  packet.frames.any fun frame => frame.retransmittable || frame == .ping

/-- The packet as it joins the outstanding packets. -/
def RegularQuicWritePacket.outstanding (packet : RegularQuicWritePacket) (packetNum sentTime : Nat)
    (isDSRPacket : Bool) (packetEvent : Option PacketEvent) : OutstandingPacket where
  packetNum
  protectionType := packet.protectionType
  frames := packet.frames
  time := sentTime
  isDSRPacket
  associatedEvent := packetEvent
  declaredLost := false
  lossTimeoutDividend := none
  lossReorderDistance := none

def updateConnection (h : Handlers σ ε) (c : SendConn σ) (packetEvent : Option PacketEvent)
    (packet : RegularQuicWritePacket) (sentTime : Nat) (isDSRPacket : Bool) :
    Except (SendFailure ε) (SendConn σ) := do
  let space := packet.packetNumberSpace
  let ackState ← getAckState c space
  let pkt := packet.outstanding ackState.nextPacketNum sentTime isDSRPacket packetEvent
  let rest ← liftHandler (h.packetSent pkt c.rest)
  let ackStates :=
    c.ackStates.set space { ackState with nextPacketNum := ackState.nextPacketNum + 1 }
  if ¬ packet.tracked then
    return { c with ackStates, rest }
  let _ ← c.outstandings.numOutstanding
  let packets := c.outstandings.packets.insertIdx
    (insertPosition c.outstandings.packets pkt.packetNum) pkt
  let counters := c.outstandings.toOutstandingsCounters
  let counters :=
    if isDSRPacket then { counters with dsrCount := counters.dsrCount + 1 } else counters
  let counters :=
    if packetEvent.isSome then counters.increaseClonedPacketCount space
    else counters.increasePacketCount space
  return { c with outstandings := ⟨counters, packets⟩, ackStates, rest }

/-- The packets that `CloningScheduler` may clone into a packet of the space. -/
def mayClone (k : OutstandingsCounters) (space : PacketNumberSpace) (p : OutstandingPacket) :
    Bool :=
  !p.declaredLost && !p.isDSRPacket && p.packetNumberSpace == space && !k.processed p

/-- `PacketRebuilder::cloneOutstandingPacket` for the packet at index `i`. -/
def cloneOutstandingPacket (o : OutstandingsInfo) (i : Nat) (p : OutstandingPacket) :
    PacketEvent × OutstandingsInfo :=
  match p.associatedEvent with
  | some event => (event, o)
  | none =>
      let event : PacketEvent := ⟨p.packetNumberSpace, p.packetNum⟩
      let counters := o.toOutstandingsCounters
      (event, {
        toOutstandingsCounters :=
          { counters with packetEvents := insert event counters.packetEvents
            }.increaseClonedPacketCount p.packetNumberSpace
        packets := o.packets.set i { p with associatedEvent := some event } })

/-- `CloningScheduler` rebuilds the packet at an index; without a time the clone is not sent
after all. -/
def clonePacket (h : Handlers σ ε) (c : SendConn σ) (index : Nat)
    (packet : RegularQuicWritePacket) (sentTime : Option Nat) :
    Except (SendFailure ε) (SendConn σ) :=
  match c.outstandings.packets[index]? with
  | none => .ok c
  | some p =>
      if mayClone c.outstandings.toOutstandingsCounters packet.packetNumberSpace p then
        let (event, outstandings) := cloneOutstandingPacket c.outstandings index p
        match sentTime with
        | none => .ok { c with outstandings }
        | some sentTime =>
            updateConnection h { c with outstandings } (some event) packet sentTime false
      else .ok c

end MasqueQuic
