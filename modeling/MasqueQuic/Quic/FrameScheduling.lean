/-
What goes into a packet (`FrameScheduler::scheduleFramesForPacket` and the schedulers behind it, in
`quic/api/QuicPacketScheduler.cpp`).

A packet is the space that is left and the frames so far. The schedulers write through a wrapper that
keeps back what the writable bytes do not allow; only acks that come first, and the padding, go past it.
The numbers in the frames are those that have an encoding, so that the sizes are defined.

DSR data is not modelled, and the writes of the streams are not booked here: that is what
`updateConnection` does with the frames of the packet.
-/

import MasqueQuic.Quic.AckFrameCodec
import MasqueQuic.Quic.Datagrams

namespace MasqueQuic

open WireField (int)

/-! ### Packets -/

structure FrameSpace extends PacketSpace where
  protectionType : ProtectionType
  frames : List QuicWriteFrame

namespace FrameSpace

def append (p : FrameSpace) (frame : QuicWriteFrame) (size : Nat) : FrameSpace :=
  { p with remainingBytes := p.remainingBytes - size, frames := p.frames ++ [frame] }

/-- A scheduler that is there and has something to write. -/
def when (p : FrameSpace) (b : Bool) (f : FrameSpace → FrameSpace) : FrameSpace := if b then f p else p

/-- Padding frames are merged into one. -/
def appendPadding (p : FrameSpace) (n : Nat) : FrameSpace :=
  if n = 0 then p else p.append .padding n

end FrameSpace

def WireField.length : WireField → Nat
  | .int value => intSize value
  | .bytes declared _ => declared

def fieldsLength (fields : List WireField) : Nat := (fields.map (·.length)).sum

/-- `writeFrame`: a frame is written if there is space for it. -/
def FrameSpace.writeFrame (p : FrameSpace) (frame : QuicWriteFrame) (fields : List WireField) :
    Bool × FrameSpace :=
  if fieldsLength fields ≤ p.remainingSpaceInPkt then (true, p.append frame (fieldsLength fields))
  else (false, p)

/-- Write frames up to the first one that does not fit. The result says whether there was any. -/
def FrameSpace.writeFrames (p : FrameSpace) :
    List (QuicWriteFrame × List WireField) → Bool × FrameSpace
  | [] => (false, p)
  | (frame, fields) :: rest =>
      if fieldsLength fields ≤ p.remainingSpaceInPkt then
        (true, ((p.append frame (fieldsLength fields)).writeFrames rest).2)
      else (false, p)

/-! ### What is pending -/

/-- The frames of the crypto stream that are lost, and what has not been sent. -/
structure CryptoBuffers where
  lossBuffer : List (Nat × Nat)  -- offset and length
  currentWriteOffset : Nat
  writeBuffer : Nat
  deriving DecidableEq

def CryptoBuffers.hasData (s : CryptoBuffers) : Bool := s.writeBuffer != 0 || !s.lossBuffer.isEmpty

structure LostBuffer where
  offset : Nat
  length : Nat
  eof : Bool
  deriving DecidableEq

/-- A stream as far as the stream scheduler looks at it. -/
structure WritingStream where
  id : StreamId
  groupId : Option Nat
  lossBuffer : List LostBuffer
  writeBuffer : Nat
  currentWriteOffset : Nat
  finalWriteOffset : Option Nat
  peerAdvertisedMaxOffset : Nat
  deriving DecidableEq

namespace WritingStream

/-- What the peer lets the stream send. -/
def flowControlBytes (s : WritingStream) : Nat := s.peerAdvertisedMaxOffset - s.currentWriteOffset

def hasWritableData (s : WritingStream) : Bool :=
  if s.writeBuffer ≠ 0 then decide (0 < s.flowControlBytes)
  else match s.finalWriteOffset with
    | some finalWriteOffset => decide (s.currentWriteOffset ≤ finalWriteOffset)
    | none => false

def hasSchedulableData (s : WritingStream) : Bool := s.hasWritableData || !s.lossBuffer.isEmpty

end WritingStream

/-- What the schedulers of a packet read. The streams are those of `controlWriteQueue` and of the
levels of `writeQueue`, each level in the order in which its iterator goes through it. -/
structure SchedulingConn where
  cryptoStream : CryptoBuffers
  resets : List RstStreamFrame
  /-- `hasAcksToSchedule`, and the size of the ACK frame that is written into some space. -/
  hasAcksToSchedule : Bool
  ackFrameSize : Nat → Option Nat
  requestImmediateAck : Bool
  connWindowUpdate : Bool
  /-- The limit that a MAX_DATA frame would announce. -/
  maximumData : Nat
  windowUpdates : List StreamId
  /-- For a stream that is found, the limit that a MAX_STREAM_DATA frame would announce. -/
  findStream : StreamId → Option Nat
  sendDataBlocked : Bool
  /-- The limit of the peer for the connection, and what has been sent. -/
  peerAdvertisedMaxOffset : Nat
  sumCurWriteOffset : Nat
  blockedStreams : List (StreamId × Nat)
  pathChallenge : Option Nat
  pendingFrames : List QuicSimpleFrame
  sendPing : Bool
  controlWriteQueue : List WritingStream
  writeQueue : List (List WritingStream)
  datagrams : List BufQueue
  framePerPacket : Bool
  streamFramePerPacket : Bool
  paddingModulo : Nat
  ackFrameSize_le : ∀ space size, ackFrameSize space = some size → 0 < size ∧ size ≤ space

/-- The parts of a `FrameScheduler` that its builder has made. -/
structure FrameScheduler where
  streamFrames : Bool
  ackFrames : Bool
  resetFrames : Bool
  windowUpdateFrames : Bool
  blockedFrames : Bool
  cryptoFrames : Bool
  simpleFrames : Bool
  pingFrames : Bool
  datagramFrames : Bool
  immediateAckFrames : Bool
  deriving DecidableEq

namespace SchedulingConn

/-- `getSendConnFlowControlBytesWire`. -/
def connFlowControlBytes (c : SchedulingConn) : Nat := c.peerAdvertisedMaxOffset - c.sumCurWriteOffset

def nothingPending : SchedulingConn where
  cryptoStream := ⟨[], 0, 0⟩
  resets := []
  hasAcksToSchedule := false
  ackFrameSize _ := none
  requestImmediateAck := false
  connWindowUpdate := false
  maximumData := 0
  windowUpdates := []
  findStream _ := none
  sendDataBlocked := false
  peerAdvertisedMaxOffset := 100000
  sumCurWriteOffset := 0
  blockedStreams := []
  pathChallenge := none
  pendingFrames := []
  sendPing := false
  controlWriteQueue := []
  writeQueue := []
  datagrams := []
  framePerPacket := true
  streamFramePerPacket := false
  paddingModulo := 0
  ackFrameSize_le _ _ h := by cases h

/-! ### The schedulers -/

/-- `writeCryptoFrame`. The length takes two bytes at most. -/
def writeCryptoFrame (offset dataLength : Nat) (p : FrameSpace) : Bool × FrameSpace :=
  let header := fieldsLength [int 0x06, int offset] + 2
  if p.remainingSpaceInPkt ≤ header then (false, p)
  else
    let len := min dataLength (p.remainingSpaceInPkt - header)
    if 2 < intSize len then (false, p)
    else (true, p.append (.writeCrypto offset len) (fieldsLength [int 0x06, int offset, int len] + len))

/-- The lost frames, and whether all of them were written. -/
def writeCryptoLoss : List (Nat × Nat) → FrameSpace → Bool × Bool × FrameSpace
  | [], p => (true, false, p)
  | (offset, length) :: rest, p =>
      let (written, p) := writeCryptoFrame offset length p
      if written then
        let (all, _, p) := writeCryptoLoss rest p
        (all, true, p)
      else (false, false, p)

def writeCryptoData (s : CryptoBuffers) (p : FrameSpace) : Bool × FrameSpace :=
  let (all, written, p) := writeCryptoLoss s.lossBuffer p
  if all && s.writeBuffer != 0 then
    let (dataWritten, p) := writeCryptoFrame s.currentWriteOffset s.writeBuffer p
    (written || dataWritten, p)
  else (written, p)

def writeRsts (c : SchedulingConn) (p : FrameSpace) : Bool × FrameSpace :=
  p.writeFrames (c.resets.map fun rst =>
    (.rstStream rst, [int 0x04, int rst.streamId, int rst.errorCode, int rst.offset]))

/-- `writeNextAcks`, into the packet or through the wrapper. -/
def writeNextAcks (c : SchedulingConn) (space : Nat) (p : FrameSpace) : FrameSpace :=
  match c.ackFrameSize space with
  | some size => p.append .writeAck size
  | none => p

/-- The window of a stream that is gone is passed over. -/
def writeWindowUpdates (c : SchedulingConn) (p : FrameSpace) : FrameSpace :=
  let p :=
    if c.connWindowUpdate then
      (p.writeFrame (.maxData c.maximumData) [int 0x10, int c.maximumData]).2
    else p
  (p.writeFrames (c.windowUpdates.filterMap fun id =>
    (c.findStream id).map fun maximumData =>
      (.maxStreamData id maximumData, [int 0x11, int id, int maximumData]))).2

def writeBlockedFrames (c : SchedulingConn) (p : FrameSpace) : FrameSpace :=
  let (written, p) :=
    if c.sendDataBlocked then
      p.writeFrame (.dataBlocked c.peerAdvertisedMaxOffset) [int 0x14, int c.peerAdvertisedMaxOffset]
    else (true, p)
  if written then
    (p.writeFrames (c.blockedStreams.map fun (id, dataLimit) =>
      (.streamDataBlocked id dataLimit, [int 0x15, int id, int dataLimit]))).2
  else p

def writeSimpleFrames (c : SchedulingConn) (p : FrameSpace) : FrameSpace :=
  let (written, p) :=
    match c.pathChallenge with
    | some pathData =>
        p.writeFrame (.simple (.pathChallenge pathData)) (simpleFrameFields (.pathChallenge pathData))
    | none => (true, p)
  if written then
    (p.writeFrames (c.pendingFrames.map fun frame => (.simple frame, simpleFrameFields frame))).2
  else p

/-! ### Streams -/

/-- A STREAM frame with at most `flowControlLen` of the `bufferLen` bytes; the result is the number of
bytes in it. -/
def writeStreamFrame (s : WritingStream) (offset bufferLen flowControlLen : Nat) (fin : Bool)
    (p : FrameSpace) : Option Nat × FrameSpace :=
  let remaining := p.remainingSpaceInPkt
  let groupIdSize := (s.groupId.map intSize).getD 0
  if remaining = 0 ∨ remaining < 1 + intSize s.id + groupIdSize then (none, p)
  else
    let offsetSize := if offset ≠ 0 then intSize offset else 0
    let header := 1 + intSize s.id + groupIdSize + offsetSize
    match streamFrameLayout remaining header bufferLen flowControlLen fin none with
    | .ok (some layout) =>
        let lenSize := if layout.dataLenLen > 0 then intSize layout.dataLen else 0
        (some layout.dataLen, p.append
          (.writeStream ⟨s.id, offset, layout.dataLen, layout.shouldSetFin, false, 0⟩)
          (header + lenSize + layout.dataLen))
    | _ => (none, p)

/-- Lost data, up to the first buffer that does not fit. -/
def writeStreamLossBuffers (s : WritingStream) : List LostBuffer → FrameSpace → Bool × FrameSpace
  | [], p => (false, p)
  | buffer :: rest, p =>
      let (dataLen, p) := writeStreamFrame s buffer.offset buffer.length buffer.length buffer.eof p
      if dataLen.isSome then (true, (writeStreamLossBuffers s rest p).2) else (false, p)

/-- New data. -/
def writeStreamData (s : WritingStream) (connWritableBytes : Nat) (p : FrameSpace) :
    Option Nat × FrameSpace :=
  let flowControlLen := min s.flowControlBytes connWritableBytes
  writeStreamFrame s s.currentWriteOffset s.writeBuffer flowControlLen
    (s.finalWriteOffset.isSome && decide (s.writeBuffer ≤ flowControlLen)) p

/-- Whether the next stream may be tried, what the connection may still send, and the packet. -/
def writeSingleStream (s : WritingStream) (connWritableBytes : Nat) (p : FrameSpace) :
    Bool × Nat × FrameSpace :=
  let (lossWritten, p) := writeStreamLossBuffers s s.lossBuffer p
  if !s.lossBuffer.isEmpty && !lossWritten then (false, connWritableBytes, p)
  else if s.hasWritableData && decide (0 < connWritableBytes) then
    match writeStreamData s connWritableBytes p with
    | (none, p) => (false, connWritableBytes, p)
    | (some dataLen, p) => (true, connWritableBytes - dataLen, p)
  else (true, connWritableBytes, p)

/-- One level, or the control streams. The first result says that a stream has been passed and only one
is to be in a packet. -/
def writeLevel (streamPerPacket : Bool) :
    List WritingStream → Nat → FrameSpace → Bool × Nat × FrameSpace
  | [], connWritableBytes, p => (false, connWritableBytes, p)
  | s :: rest, connWritableBytes, p =>
      let (next, connWritableBytes, p) := writeSingleStream s connWritableBytes p
      if !next then (false, connWritableBytes, p)
      else if streamPerPacket then (true, connWritableBytes, p)
      else writeLevel streamPerPacket rest connWritableBytes p

def writeLevels (streamPerPacket : Bool) : List (List WritingStream) → Nat → FrameSpace → FrameSpace
  | [], _, p => p
  | level :: rest, connWritableBytes, p =>
      if p.remainingSpaceInPkt = 0 then p
      else
        let (passed, connWritableBytes, p) := writeLevel streamPerPacket level connWritableBytes p
        if passed then p else writeLevels streamPerPacket rest connWritableBytes p

def writeStreams (c : SchedulingConn) (p : FrameSpace) : FrameSpace :=
  let (_, connWritableBytes, p) :=
    writeLevel c.streamFramePerPacket c.controlWriteQueue c.connFlowControlBytes p
  writeLevels c.streamFramePerPacket c.writeQueue connWritableBytes p

/-- All streams that can be scheduled. -/
def streams (c : SchedulingConn) : List WritingStream := c.controlWriteQueue ++ c.writeQueue.flatten

/-- `hasNonDSRLoss`. -/
def hasLoss (c : SchedulingConn) : Bool := c.streams.any fun s => !s.lossBuffer.isEmpty

/-- `hasNonDSRWritable`. -/
def hasNonDSRWritable (c : SchedulingConn) : Bool :=
  c.streams.any (·.hasWritableData) || !c.controlWriteQueue.isEmpty

def hasPendingData (c : SchedulingConn) : Bool :=
  c.hasLoss || (c.hasNonDSRWritable && decide (0 < c.connFlowControlBytes))

/-! ### Datagrams -/

/-- The datagrams that fit, and the write buffer behind them. -/
def writeDatagrams (c : SchedulingConn) (p : FrameSpace) : FrameSpace × List BufQueue :=
  match writeDatagramFrames c.framePerPacket p.toPacketSpace c.datagrams with
  | .ok w => ({ p with
      toPacketSpace := w.space
      frames := p.frames ++ w.frames.map fun payload => .datagram payload.chainLength }, w.writeBuffer)
  | .error _ => (p, c.datagrams)

/-! ### The packet -/

def hasPendingWindowUpdates (c : SchedulingConn) : Bool := !c.windowUpdates.isEmpty || c.connWindowUpdate

def hasPendingBlockedFrames (c : SchedulingConn) : Bool := !c.blockedStreams.isEmpty || c.sendDataBlocked

def hasPendingSimpleFrames (c : SchedulingConn) : Bool :=
  c.pathChallenge.isSome || !c.pendingFrames.isEmpty

end SchedulingConn

namespace FrameScheduler

open SchedulingConn (writeCryptoData)

def hasPendingAcks (f : FrameScheduler) (c : SchedulingConn) : Bool :=
  f.ackFrames && c.hasAcksToSchedule

/-- Crypto data, resets and acks. What comes before the acks makes the packet subject to the writable
bytes; acks that come first may take the full packet. -/
def scheduleFirst (f : FrameScheduler) (c : SchedulingConn) (p : FrameSpace) : FrameSpace :=
  let (cryptoDataWritten, p) :=
    if f.cryptoFrames && c.cryptoStream.hasData then writeCryptoData c.cryptoStream p else (false, p)
  let (rstWritten, p) :=
    if f.resetFrames && !c.resets.isEmpty then c.writeRsts p else (false, p)
  if f.hasPendingAcks c then
    if cryptoDataWritten || rstWritten then c.writeNextAcks p.remainingSpaceInPkt p
    else c.writeNextAcks p.remainingBytes p
  else p

/-- The frames behind the acks. -/
def scheduleRest (f : FrameScheduler) (c : SchedulingConn) (p : FrameSpace) : FrameSpace :=
  p.when (f.immediateAckFrames && c.requestImmediateAck)
      (fun p => (p.writeFrame .immediateAck [int 0xac]).2)
    |>.when (f.windowUpdateFrames && c.hasPendingWindowUpdates) c.writeWindowUpdates
    |>.when (f.blockedFrames && c.hasPendingBlockedFrames) c.writeBlockedFrames
    |>.when (f.simpleFrames && c.hasPendingSimpleFrames) c.writeSimpleFrames
    |>.when (f.pingFrames && c.sendPing) (fun p => (p.writeFrame .ping [int 0x01]).2)
    |>.when (f.streamFrames && c.hasPendingData) c.writeStreams
    |>.when (f.datagramFrames && !c.datagrams.isEmpty) (fun p => (c.writeDatagrams p).1)

/-- An Initial packet is filled up, and a packet with a short header padded. -/
def pad (c : SchedulingConn) (p : FrameSpace) : FrameSpace :=
  if p.frames.isEmpty then p
  else match p.protectionType with
    | .initial => p.appendPadding p.remainingBytes
    | .keyPhaseZero | .keyPhaseOne =>
        if c.paddingModulo > 0 then p.appendPadding (p.remainingSpaceInPkt % c.paddingModulo) else p
    | .handshake | .zeroRtt => p

/-- The packet that is built into `remainingBytes` bytes behind the header. -/
def scheduleFramesForPacket (f : FrameScheduler) (c : SchedulingConn) (protectionType : ProtectionType)
    (remainingBytes headerBytes writableBytes : Nat) : FrameSpace :=
  let writableBytes := writableBytes - headerBytes
  let p : FrameSpace := ⟨.wrap remainingBytes writableBytes, protectionType, []⟩
  pad c (f.scheduleRest c (f.scheduleFirst c p))

end FrameScheduler

end MasqueQuic
