/-
The packet limit of `QuicServerTransport::writeData` (`quic/server/QuicServerTransport.cpp`,
`quic/api/QuicTransportFunctions.cpp`, `quic/dsr/frontend/WriteFunctions.cpp`).

The schedulers, the packet builders and the socket are a parameter, the `DataPlane`: what there is to
write, and what becomes of a packet that is built. What is modelled is the control flow around them, with
the limit that the crypto packets, the probes and the data share. It is reduced by packets for the crypto
spaces and by full packets for 1-RTT data, as an unsigned number.

The histories are the packets that were built, the spaces in which probes were attempted, and whether the
limit has wrapped.
-/

import MasqueQuic.Quic.Outstandings

namespace MasqueQuic

inductive WriteScheduler where
  | cryptoAndAcks (space : PacketNumberSpace)
  | cloning (space : PacketNumberSpace)
  /-- Acks with a PING or an IMMEDIATE_ACK. -/
  | probe (space : PacketNumberSpace)
  | frames
  deriving DecidableEq

/-- What becomes of a packet. -/
inductive BuildOutcome (σ : Type) where
  | buildFailure (conn : σ)
  | built (conn : σ) (encodedSize : Nat) (writeSuccess : Bool)

/-- The connection as far as writing asks it. The builders are made for `udpSendPacketLen` bytes. -/
structure DataPlane (σ : Type) where
  udpSendPacketLen : Nat
  batchSize : Nat
  maxBatchSize : Nat
  enableWritableBytesLimit : Bool
  writeCipher : PacketNumberSpace → Bool
  cipherOverhead : PacketNumberSpace → Nat
  retransmissionBuffer : PacketNumberSpace → σ → Nat
  packetCount : PacketNumberSpace → σ → Nat
  cryptoHasData : PacketNumberSpace → σ → Bool
  toWriteAcks : PacketNumberSpace → σ → Bool
  canSendAckControlFrames : σ → Bool
  writeLoopTimeLimit : σ → Bool
  congestionControlWritableBytes : σ → Nat
  probePacketWritableBytes : σ → Nat
  unlimitedWritableBytes : σ → Nat
  increaseNextPacketNum : PacketNumberSpace → σ → σ
  /-- A PING becomes pending, or an IMMEDIATE_ACK. -/
  requestProbe : PacketNumberSpace → σ → σ
  hasData : WriteScheduler → σ → Bool
  /-- `scheduleFramesForPacket`, the encryption, the write and `updateConnection`. -/
  build : WriteScheduler → Nat → σ → BuildOutcome σ
  hasPendingData : σ → Bool
  /-- The same for DSR, where `writeSuccess` says that all instructions were added. -/
  buildDsr : Nat → σ → BuildOutcome σ
  udpSendPacketLen_pos : 0 < udpSendPacketLen
  build_le : ∀ scheduler writableBytes conn conn' encodedSize writeSuccess,
    build scheduler writableBytes conn = .built conn' encodedSize writeSuccess →
      encodedSize ≤ udpSendPacketLen
  buildDsr_le : ∀ writableBytes conn conn' encodedSize writeSuccess,
    buildDsr writableBytes conn = .built conn' encodedSize writeSuccess →
      encodedSize ≤ udpSendPacketLen

structure WrittenPacket where
  space : PacketNumberSpace
  probe : Bool
  encodedSize : Nat
  deriving DecidableEq

structure WriteState (σ : Type) where
  conn : σ
  numProbePackets : PacketNumberSpace → Nat
  totalBytesSent : Nat
  packets : List WrittenPacket
  attempted : List PacketNumberSpace
  wrapped : Bool

structure WriteQuicDataResult where
  packetsWritten : Nat
  probesWritten : Nat
  bytesWritten : Nat
  deriving DecidableEq

namespace WriteState

variable {σ : Type}

def start (conn : σ) (numProbePackets : PacketNumberSpace → Nat) (totalBytesSent : Nat) :
    WriteState σ where
  conn
  numProbePackets
  totalBytesSent
  packets := []
  attempted := []
  wrapped := false

def anyProbePackets (s : WriteState σ) : Bool :=
  s.numProbePackets .initial + s.numProbePackets .handshake + s.numProbePackets .appData != 0

def onBuilt (s : WriteState σ) (packet : WrittenPacket) (conn : σ) : WriteState σ :=
  { s with
    conn
    totalBytesSent := s.totalBytesSent + packet.encodedSize
    packets := s.packets ++ [packet] }

def clearProbes (s : WriteState σ) (space : PacketNumberSpace) : WriteState σ :=
  { s with numProbePackets := fun other => if other = space then 0 else s.numProbePackets other }

/-- `packetLimit -= n`. -/
def subLimit (s : WriteState σ) (packetLimit n : Nat) : Nat × WriteState σ :=
  (sub64 packetLimit n, { s with wrapped := s.wrapped || decide (packetLimit < n) })

end WriteState

namespace DataPlane

variable {σ : Type}

def kPacketToSendForPTO : Nat := 2

/-- What a packet may hold. -/
def writableBytes (env : DataPlane σ) (space : PacketNumberSpace) (limit : Nat) : Nat :=
  min env.udpSendPacketLen limit - env.cipherOverhead space

/-- The loop of `writeConnectionDataToSocket`, with the packets that are left in the limit. -/
def writeLoop (env : DataPlane σ) (space : PacketNumberSpace) (scheduler : WriteScheduler)
    (writableBytesFunc : σ → Nat) (probe : Bool) :
    Nat → WriteQuicDataResult → WriteState σ → WriteState σ × WriteQuicDataResult
  | 0, result, s => (s, result)
  | left + 1, result, s =>
      if env.hasData scheduler s.conn &&
          (decide (result.packetsWritten < env.batchSize) || env.writeLoopTimeLimit s.conn) then
        match env.build scheduler (env.writableBytes space (writableBytesFunc s.conn)) s.conn with
        | .buildFailure conn => ({ s with conn }, result)
        | .built conn encodedSize writeSuccess =>
            let s := s.onBuilt ⟨space, probe, encodedSize⟩ conn
            let result := { result with
              packetsWritten := result.packetsWritten + 1
              bytesWritten := result.bytesWritten + encodedSize }
            if writeSuccess then
              writeLoop env space scheduler writableBytesFunc probe left result s
            else (s, result)
      else (s, result)

def writeConnectionDataToSocket (env : DataPlane σ) (space : PacketNumberSpace)
    (scheduler : WriteScheduler) (writableBytesFunc : σ → Nat) (probe : Bool) (packetLimit : Nat)
    (s : WriteState σ) : WriteState σ × WriteQuicDataResult :=
  env.writeLoop space scheduler writableBytesFunc probe packetLimit ⟨0, 0, 0⟩ s

/-- How many probes there are to be, and how many of them with data. -/
def probesToSend (env : DataPlane σ) (space : PacketNumberSpace) (probes : Nat) (conn : σ) :
    Nat × Nat :=
  if probes ≠ 0 ∧ env.canSendAckControlFrames conn ∧ space = .appData then
    (max probes kPacketToSendForPTO, max probes kPacketToSendForPTO - 1)
  else (probes, probes)

def writeProbingDataToSocket (env : DataPlane σ) (space : PacketNumberSpace) (s : WriteState σ) :
    WriteState σ × WriteQuicDataResult :=
  let s := { s with
    conn := env.increaseNextPacketNum space s.conn
    attempted := s.attempted ++ [space] }
  let (probesToSend, dataProbesToSend) := env.probesToSend space (s.numProbePackets space) s.conn
  let writableBytesFunc :=
    if env.enableWritableBytesLimit then env.probePacketWritableBytes else env.unlimitedWritableBytes
  let (s, cloning) :=
    env.writeConnectionDataToSocket space (.cloning space) writableBytesFunc true dataProbesToSend s
  if cloning.packetsWritten < probesToSend then
    let s := { s with conn := env.requestProbe space s.conn }
    let (s, probing) := env.writeConnectionDataToSocket space (.probe space) writableBytesFunc true
      (probesToSend - cloning.packetsWritten) s
    (s, ⟨0, cloning.packetsWritten + probing.packetsWritten,
      cloning.bytesWritten + probing.bytesWritten⟩)
  else (s, ⟨0, cloning.packetsWritten, cloning.bytesWritten⟩)

/-- The probes, if there are to be any, and then the rest of the limit. -/
def writeSpace (env : DataPlane σ) (space : PacketNumberSpace) (scheduler : WriteScheduler)
    (probes : Bool) (packetLimit : Nat) (s : WriteState σ) : WriteState σ × WriteQuicDataResult :=
  let (s, probeResult) := if probes then env.writeProbingDataToSocket space s else (s, ⟨0, 0, 0⟩)
  let packetLimit :=
    if probeResult.probesWritten > packetLimit then 0 else packetLimit - probeResult.probesWritten
  let (s, result) := env.writeConnectionDataToSocket space scheduler
    env.congestionControlWritableBytes false packetLimit (s.clearProbes space)
  (s, ⟨result.packetsWritten, probeResult.probesWritten,
    probeResult.bytesWritten + result.bytesWritten⟩)

def writeCryptoAndAckDataToSocket (env : DataPlane σ) (space : PacketNumberSpace) (packetLimit : Nat)
    (s : WriteState σ) : WriteState σ × WriteQuicDataResult :=
  env.writeSpace space (.cryptoAndAcks space)
    (s.numProbePackets space != 0 &&
      (env.retransmissionBuffer space s.conn != 0 || env.hasData (.cryptoAndAcks space) s.conn))
    packetLimit s

def writeQuicDataToSocket (env : DataPlane σ) (packetLimit : Nat) (s : WriteState σ) :
    WriteState σ × WriteQuicDataResult :=
  env.writeSpace .appData .frames (s.numProbePackets .appData != 0) packetLimit s

/-- The loop of `writePacketizationRequest`. A packet whose instructions could not be added has been
sent as far as the connection knows. -/
def dsrLoop (env : DataPlane σ) : Nat → Nat → WriteState σ → WriteState σ
  | 0, _, s => s
  | left + 1, packetCounter, s =>
      if env.hasPendingData s.conn &&
          (decide (packetCounter < env.maxBatchSize) || env.writeLoopTimeLimit s.conn) then
        match env.buildDsr
          (env.writableBytes .appData (env.congestionControlWritableBytes s.conn)) s.conn with
        | .buildFailure conn => { s with conn }
        | .built conn encodedSize writeSuccess =>
            let s := s.onBuilt ⟨.appData, false, encodedSize⟩ conn
            if writeSuccess then env.dsrLoop left (packetCounter + 1) s else s
      else s

def writePacketizationRequest (env : DataPlane σ) (packetLimit : Nat) (s : WriteState σ) :
    WriteState σ :=
  if env.writeLoopTimeLimit s.conn then env.dsrLoop packetLimit 0 s else s

/-! ### `writeData` -/

/-- The Initial or the Handshake packets. -/
def writeCryptoSpace (env : DataPlane σ) (space : PacketNumberSpace) (packetLimit : Nat)
    (s : WriteState σ) : Nat × WriteState σ :=
  if (s.numProbePackets space != 0 && env.retransmissionBuffer space s.conn != 0 &&
        env.packetCount space s.conn != 0) || env.cryptoHasData space s.conn ||
      env.toWriteAcks space s.conn then
    let (s, result) := env.writeCryptoAndAckDataToSocket space packetLimit s
    s.subLimit packetLimit result.packetsWritten
  else (packetLimit, s)

/-- One time around the loop for 1-RTT data. -/
def writeOnce (env : DataPlane σ) (packetLimit : Nat) (s : WriteState σ) : Nat × WriteState σ :=
  let (s, written) := env.writeQuicDataToSocket packetLimit s
  let (packetLimit, s) := s.subLimit packetLimit (written.bytesWritten / env.udpSendPacketLen)
  if packetLimit ≠ 0 ∧ env.congestionControlWritableBytes s.conn ≠ 0 then
    let bytesBefore := s.totalBytesSent
    let s := env.writePacketizationRequest packetLimit s
    s.subLimit packetLimit ((s.totalBytesSent - bytesBefore) / env.udpSendPacketLen)
  else (packetLimit, s)

/-- The loop for 1-RTT data, at most `fuel` times around. -/
def writeAppData (env : DataPlane σ) : Nat → Nat → WriteState σ → WriteState σ
  | 0, _, s => s
  | fuel + 1, packetLimit, s =>
      if packetLimit = 0 then s
      else
        let written := env.writeOnce packetLimit s
        if s.totalBytesSent = written.2.totalBytesSent then written.2
        else env.writeAppData fuel written.1 written.2

/-- Nothing is left to do. -/
def returns (packetLimit : Nat) (s : WriteState σ) : Bool :=
  packetLimit == 0 && !s.anyProbePackets

def writeOneRtt (env : DataPlane σ) (fuel packetLimit : Nat) (s : WriteState σ) : WriteState σ :=
  if env.writeCipher .appData then env.writeAppData fuel packetLimit s else s

def writeHandshake (env : DataPlane σ) (fuel packetLimit : Nat) (s : WriteState σ) : WriteState σ :=
  if env.writeCipher .handshake then
    let (packetLimit, s) := env.writeCryptoSpace .handshake packetLimit s
    if returns packetLimit s then s else env.writeOneRtt fuel packetLimit s
  else env.writeOneRtt fuel packetLimit s

/-- `writeData` with the limit of the pacer. The probes that are left are forgotten behind it. -/
def writeData (env : DataPlane σ) (fuel packetLimit : Nat) (s : WriteState σ) : WriteState σ :=
  if env.writeCipher .initial then
    let (packetLimit, s) := env.writeCryptoSpace .initial packetLimit s
    if returns packetLimit s then s else env.writeHandshake fuel packetLimit s
  else env.writeHandshake fuel packetLimit s

end DataPlane

end MasqueQuic
