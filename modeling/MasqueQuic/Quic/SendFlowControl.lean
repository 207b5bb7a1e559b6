/-
The send side of a connection: its streams, and the flow control that is shared by them.

The peer limits every stream and the connection. Both limits are looked at when a packet is made,
where the streams of the packet share what the connection's limit leaves; the connection is
charged afterwards, frame by frame, in `updateConnection`. Which streams a scheduler comes to and
how much of them fits into the packet is up to the events.

Subtractions are unsigned. `wrapped` remembers that one went below zero, and the streams remember
how much new data they have sent (`bytesSent`) and how far they have got (`sentOffset`). None of
the three is read by anything. The BLOCKED frames that some of the functions queue are left out,
and what is left of them is the subtraction they make.
-/

import Mathlib.Algebra.BigOperators.Group.Finset.Basic
import MasqueQuic.Lib.Run
import MasqueQuic.Quic.StreamSend

namespace MasqueQuic

/-- What `ConnectionFlowControlState` keeps for sending. -/
structure SendFlowControl where
  peerAdvertisedMaxOffset : Nat
  sumCurWriteOffset : Nat
  sumCurStreamBufferLen : Nat
  wrapped : Bool

/-- An assertion or an exception of a stream, or an exception of the connection. -/
inductive SendFault where
  | stream (fault : StreamFault)
  | exception (e : QuicException)

def liftStream {α : Type} (x : Except StreamFault α) : Except SendFault α := x.mapError .stream

def liftException {α : Type} (x : Except QuicException α) : Except SendFault α := x.mapError .exception

def decrementWithOverFlowCheck (num diff : Nat) : Except QuicException Nat :=
  if num < diff then .error (.internal "flow control state overflow") else .ok (num - diff)

/-! ### Flow control -/

namespace SendFlowControl

def subtract (minuend subtrahend : Nat) (f : SendFlowControl) : Nat × SendFlowControl :=
  (sub64 minuend subtrahend, { f with wrapped := f.wrapped || decide (minuend < subtrahend) })

def getSendConnFlowControlBytesWire (f : SendFlowControl) : Nat × SendFlowControl :=
  f.subtract f.peerAdvertisedMaxOffset f.sumCurWriteOffset

def getSendConnFlowControlBytesAPI (f : SendFlowControl) : Nat × SendFlowControl :=
  let (connFlowControlBytes, f) := f.getSendConnFlowControlBytesWire
  if f.sumCurStreamBufferLen > connFlowControlBytes then (0, f)
  else f.subtract connFlowControlBytes f.sumCurStreamBufferLen

def updateFlowControlOnWriteToSocket (f : SendFlowControl) (length : Nat) :
    Except QuicException SendFlowControl := do
  let sumCurWriteOffset ← incrementWithOverFlowCheck f.sumCurWriteOffset length
  let (sumCurStreamBufferLen, f) := f.subtract f.sumCurStreamBufferLen length
  return { f with sumCurWriteOffset, sumCurStreamBufferLen }

def updateFlowControlOnWriteToStream (f : SendFlowControl) (length : Nat) :
    Except QuicException SendFlowControl := do
  let sumCurStreamBufferLen ← incrementWithOverFlowCheck f.sumCurStreamBufferLen length
  return { f with sumCurStreamBufferLen }

def maybeWriteDataBlockedAfterSocketWrite (f : SendFlowControl) : SendFlowControl :=
  f.getSendConnFlowControlBytesWire.2

def handleConnWindowUpdate (f : SendFlowControl) (maximumData : Nat) : SendFlowControl :=
  if f.peerAdvertisedMaxOffset ≤ maximumData then
    { f with peerAdvertisedMaxOffset := maximumData } else f

end SendFlowControl

namespace SendStream

/-- What is buffered and has not been sent. -/
def dataInBuffer (s : SendStream) : Nat := s.writeBuffer.chainLength + s.writeBufMeta.length

def getSendStreamFlowControlBytesWire (s : SendStream) (f : SendFlowControl) :
    Nat × SendFlowControl :=
  f.subtract s.peerAdvertisedMaxOffset s.nextOffsetToWrite

def getSendStreamFlowControlBytesAPI (s : SendStream) (f : SendFlowControl) :
    Nat × SendFlowControl :=
  let (sendFlowControlBytes, f) := s.getSendStreamFlowControlBytesWire f
  if s.dataInBuffer > sendFlowControlBytes then (0, f)
  else f.subtract sendFlowControlBytes s.dataInBuffer

def updateFlowControlOnResetStream (s : SendStream) (f : SendFlowControl) :
    Except QuicException SendFlowControl := do
  let sumCurStreamBufferLen ← decrementWithOverFlowCheck f.sumCurStreamBufferLen s.dataInBuffer
  return { f with sumCurStreamBufferLen }

def maybeWriteBlockAfterAPIWrite (s : SendStream) (f : SendFlowControl) : SendFlowControl :=
  (s.getSendStreamFlowControlBytesWire f).2

def maybeWriteBlockAfterSocketWrite (s : SendStream) (f : SendFlowControl) : SendFlowControl :=
  if s.streamWriteError.isSome then f
  else if s.finalWriteOffset.isSome && s.hasSentFIN then f
  else (s.getSendStreamFlowControlBytesWire f).2

/-! ### A stream and the connection -/

/-- `writeChain`, from where the stream is known to exist. -/
def writeChainTo (s : SendStream) (data : Buf) (eof : Bool) (f : SendFlowControl) :
    Except SendFault (SendStream × SendFlowControl) :=
  if s.writable then do
    let len := data.bytes.length
    let f := if len > 0 then s.maybeWriteBlockAfterAPIWrite f else f
    let s ← liftStream (s.writeDataToQuicStream data eof)
    let f ← liftException (f.updateFlowControlOnWriteToStream len)
    return (s, f)
  else .ok (s, f)

/-- `writeBufMeta`, from where the stream is known to exist. -/
def writeBufMetaTo (s : SendStream) (length : Nat) (eof : Bool) (f : SendFlowControl) :
    Except SendFault (SendStream × SendFlowControl) :=
  if !s.writable || !s.dsrSender || (s.currentWriteOffset == 0 && s.writeBuffer.empty) then
    .ok (s, f)
  else do
    let f := if length > 0 then s.maybeWriteBlockAfterAPIWrite f else f
    let s ← liftStream (s.writeBufMetaToQuicStream length eof)
    let f ← liftException (f.updateFlowControlOnWriteToStream length)
    return (s, f)

/-- `sendRstSMHandler`; the data that is dropped is not buffered any longer. -/
def reset (s : SendStream) (errorCode : Nat) (f : SendFlowControl) :
    Except SendFault (SendStream × SendFlowControl) := do
  let f ← (if s.sendState = .open then liftException (s.updateFlowControlOnResetStream f) else .ok f)
  let (s, _) ← liftStream (s.sendRstSMHandler errorCode)
  return (s, f)

def sendStopSendingSMHandler (s : SendStream) (nodeType : QuicNodeType) (f : SendFlowControl) :
    Except StreamFault SendFlowControl :=
  match s.sendState with
  | .open =>
      .ok (if nodeType = .server then (s.getSendStreamFlowControlBytesWire f).2 else f)
  | .closed => .ok f
  | .resetSent => .ok f
  | .invalid => .error .invalidState

/-- What `updateConnection` does with the buffers; the result says whether the data is new. -/
def frameWritten (s : SendStream) (frame : WriteStreamFrame) : Except StreamFault (SendStream × Bool) :=
  if frame.fromBufMeta then s.handleStreamBufMetaWritten frame.offset frame.len frame.fin
  else do
    let (like, new) ← s.toSendLike.handleStreamWritten frame.offset frame.len frame.fin
    return ({ s with toSendLike := like }, new)

end SendStream

/-- A stream of a connection. Of its receive half only the state matters here. -/
structure ConnStream extends SendStream where
  recvState : StreamRecvState
  bytesSent : Nat
  sentOffset : Nat

namespace ConnStream

def new (nodeType : QuicNodeType) (id : StreamId) (peerAdvertisedMaxOffset : Nat) : ConnStream where
  toSendStream := .new id peerAdvertisedMaxOffset
    (if isReceivingStream nodeType id then .invalid else .open)
  recvState := if isSendingStream nodeType id then .invalid else .open
  bytesSent := 0
  sentOffset := 0

def inTerminalStates (s : ConnStream) : Bool :=
  (s.sendState == .closed || s.sendState == .invalid) &&
    (s.recvState == .closed || s.recvState == .invalid)

/-- Work on the send half. -/
def onSendHalf (s : ConnStream) (f : SendFlowControl)
    (act : SendStream → SendFlowControl → Except SendFault (SendStream × SendFlowControl)) :
    Except SendFault (ConnStream × SendFlowControl) := do
  let (t, f) ← act s.toSendStream f
  return ({ s with toSendStream := t }, f)

/-- `updateConnection` on a stream frame. -/
def updateConnection (s : ConnStream) (frame : WriteStreamFrame) (f : SendFlowControl) :
    Except SendFault (ConnStream × SendFlowControl) := do
  let (t, newStreamDataWritten) ← liftStream (s.toSendStream.frameWritten frame)
  let f ← (if newStreamDataWritten then do
      let f ← liftException (f.updateFlowControlOnWriteToSocket frame.len)
      let f := t.maybeWriteBlockAfterSocketWrite f
      return f.maybeWriteDataBlockedAfterSocketWrite
    else .ok f)
  let t ← liftStream t.updateWritableStreams
  return ({ s with
    toSendStream := t
    bytesSent := s.bytesSent + (if newStreamDataWritten then frame.len else 0)
    sentOffset := max s.sentOffset (frame.offset + frame.len) }, f)

end ConnStream

/-! ### The schedulers -/

/-- A stream that the scheduler comes to: how much of its lost data fits into the packet, entry by
entry, and how much new data, if there is any room left for it. -/
structure StreamRoom where
  streamId : StreamId
  losses : List Nat
  new : Option Nat

namespace SendStream

/-- The frames of `writeStreamLossBuffers`. -/
def writeStreamLossBuffers (id : StreamId) :
    List StreamBuffer → List Nat → Except SendFault (List WriteStreamFrame)
  | [], _ => .ok []
  | _, [] => .ok []
  | b :: rest, len :: lens =>
      let fin := b.eof && len == b.data.chainLength
      if b.data.chainLength = 0 ∧ !b.eof then
        .error (.exception (.internal "No data or fin supplied when writing stream."))
      else if b.data.chainLength < len ∨ (len = 0 ∧ !fin) then .ok []
      else (⟨id, b.offset, len, fin, false, 0⟩ :: ·) <$> writeStreamLossBuffers id rest lens

/-- The frames that the scheduler makes, what is left of the connection's limit, and the
connection. -/
def writeSingleStream (s : SendStream) (room : StreamRoom) (connWritableBytes : Nat)
    (f : SendFlowControl) : Except SendFault (List WriteStreamFrame × Nat × SendFlowControl) := do
  let losses ← writeStreamLossBuffers s.id s.lossBuffer room.losses
  if s.lossBuffer ≠ [] ∧ losses = [] then return ([], connWritableBytes, f)
  let writable ← liftStream s.hasWritableData
  match room.new with
  | none => return (losses, connWritableBytes, f)
  | some len =>
      if writable && decide (connWritableBytes > 0) then
        let (streamFlowControlBytes, f) := s.getSendStreamFlowControlBytesWire f
        let flowControlLen := min streamFlowControlBytes connWritableBytes
        match (if len ≤ flowControlLen then s.newFrame len else none) with
        | none => return (losses, connWritableBytes, f)
        | some frame => return (losses ++ [frame], connWritableBytes - len, f)
      else return (losses, connWritableBytes, f)

/-- The frame that the DSR scheduler makes of the first lost entry. -/
def lossBufMetaFrame (s : SendStream) (len : Nat) : Option WriteStreamFrame :=
  match s.lossBufMetas with
  | [] => none
  | m :: _ =>
      if !s.dsrSender ∨ len = 0 ∨ m.length < len then none
      else some ⟨s.id, m.offset, len, m.eof && len == m.length, true, 0⟩

end SendStream

/-! ### The connection -/

/-- The ids that were opened and those that still exist. A removed stream stays as it was, and its
id is not opened again. -/
structure SendingConn where
  nodeType : QuicNodeType
  totalBufferSpaceAvailable : Nat
  flowControlState : SendFlowControl
  opened : Finset StreamId
  streams : Finset StreamId
  stream : StreamId → ConnStream
  closedStreams : Finset StreamId
  flowControlUpdated : Finset StreamId

/-- A chain; its length is a `size_t`. -/
abbrev SizedBuf := { data : Buf // data.bytes.length < 2 ^ 64 }

/-- The calls of the application, the frames of the peer, the fate of our frames, and the packets
that are sent. The peer's limits are variable-length integers. `receiveEnded`: the receive half
has all its data, was reset, or was told to stop. -/
inductive SendingEvent where
  | openStream (id : StreamId) (peerAdvertisedMaxOffset : Fin (2 ^ 62))
  | writeChain (id : StreamId) (data : SizedBuf) (eof : Bool)
  | writeBufMeta (id : StreamId) (length : Fin (2 ^ 64)) (eof : Bool)
  | setDSRSender (id : StreamId) (sender : Bool)
  | resetStream (id : StreamId) (errorCode : Nat)
  | getStreamFlowControl (id : StreamId)
  | getMaxWritableOnStream (id : StreamId)
  | getConnectionFlowControl
  | maxData (maximumData : Fin (2 ^ 62))
  | maxStreamData (id : StreamId) (maximumData : Fin (2 ^ 62))
  | stopSending (id : StreamId)
  | frameAcked (frame : WriteStreamFrame)
  | frameAckedLate (frame : WriteStreamFrame)
  | rstAcked (id : StreamId)
  | frameLost (frame : WriteStreamFrame) (streamRetransmissionDisabled : Bool)
  | receiveEnded (id : StreamId)
  | packet (rooms : List StreamRoom)
  | dsrPacket (id : StreamId) (len : Nat)
  | dsrLossPacket (id : StreamId) (len : Nat)
  | removeClosedStream (id : StreamId)

namespace SendingConn

def new (nodeType : QuicNodeType) (totalBufferSpaceAvailable peerAdvertisedMaxOffset : Nat) :
    SendingConn where
  nodeType := nodeType
  totalBufferSpaceAvailable := totalBufferSpaceAvailable
  flowControlState := ⟨peerAdvertisedMaxOffset, 0, 0, false⟩
  opened := ∅
  streams := ∅
  stream := fun id => .new nodeType id 0
  closedStreams := ∅
  flowControlUpdated := ∅

/-- Frames and calls for a stream that does not exist are ignored. -/
def onStream (c : SendingConn) (id : StreamId)
    (act : ConnStream → SendFlowControl → Except SendFault (ConnStream × SendFlowControl)) :
    Except SendFault SendingConn :=
  if id ∈ c.streams then do
    let (s, f) ← act (c.stream id) c.flowControlState
    return { c with stream := Function.update c.stream id s, flowControlState := f }
  else .ok c

def onSendHalf (c : SendingConn) (id : StreamId)
    (act : SendStream → SendFlowControl → Except SendFault (SendStream × SendFlowControl)) :
    Except SendFault SendingConn :=
  c.onStream id fun s f => s.onSendHalf f act

/-- A transition of one of the state machines, which ends in `addClosed` when it was the last. -/
def onTransition (c : SendingConn) (id : StreamId) (act : ConnStream → Except StreamFault ConnStream) :
    Except SendFault SendingConn := do
  let c' ← c.onStream id fun s f => do
    let s ← liftStream (act s)
    return (s, f)
  let before := c.stream id
  let after := c'.stream id
  return if (before.sendState ≠ after.sendState ∨ before.recvState ≠ after.recvState) ∧
      after.inTerminalStates then { c' with closedStreams := insert id c'.closedStreams } else c'

/-- A subtraction whose result is only looked at. -/
def readFlowControl (c : SendingConn) (f : SendFlowControl) : SendingConn := { c with flowControlState := f }

def openStream (c : SendingConn) (id : StreamId) (peerAdvertisedMaxOffset : Nat) : SendingConn :=
  if id ∈ c.opened then c
  else
    { c with
      opened := insert id c.opened
      streams := insert id c.streams
      stream := Function.update c.stream id (.new c.nodeType id peerAdvertisedMaxOffset) }

def resetStream (c : SendingConn) (id : StreamId) (errorCode : Nat) : Except SendFault SendingConn :=
  if isReceivingStream c.nodeType id then .ok c
  else c.onSendHalf id fun s f => s.reset errorCode f

def getStreamFlowControl (c : SendingConn) (id : StreamId) : SendingConn :=
  if id ∈ c.streams then
    c.readFlowControl ((c.stream id).getSendStreamFlowControlBytesAPI c.flowControlState).2
  else c

def bufferSpaceAvailable (c : SendingConn) : Nat :=
  let bytesBuffered := c.flowControlState.sumCurStreamBufferLen
  if bytesBuffered > c.totalBufferSpaceAvailable then 0
  else c.totalBufferSpaceAvailable - bytesBuffered

def maxWritableOnConn (c : SendingConn) : Nat × SendFlowControl :=
  let connWritableBytes := c.flowControlState.getSendConnFlowControlBytesAPI
  (min connWritableBytes.1 c.bufferSpaceAvailable, connWritableBytes.2)

def maxWritableOnStream (c : SendingConn) (id : StreamId) : Nat × SendFlowControl :=
  let connWritableBytes := c.maxWritableOnConn
  let streamFlowControlBytes := (c.stream id).getSendStreamFlowControlBytesAPI connWritableBytes.2
  (min streamFlowControlBytes.1 connWritableBytes.1, streamFlowControlBytes.2)

def getMaxWritableOnStream (c : SendingConn) (id : StreamId) : SendingConn :=
  if id ∈ c.streams ∧ !isReceivingStream c.nodeType id then
    c.readFlowControl (c.maxWritableOnStream id).2
  else c

def handleStreamWindowUpdate (c : SendingConn) (id : StreamId) (maximumData : Nat) :
    Except SendFault SendingConn := do
  let s := (c.stream id).toSendStream
  let c' ← c.onSendHalf id fun s f => do
    let s ← liftStream (s.handleStreamWindowUpdate maximumData)
    return (s, f)
  return if id ∈ c.streams ∧ s.peerAdvertisedMaxOffset ≤ maximumData ∧
      s.currentWriteOffset + s.dataInBuffer < maximumData then
    { c' with flowControlUpdated := insert id c'.flowControlUpdated } else c'

/-- The scheduler comes to a stream. A stream is in one of the queues, and there once; one that was
reset is in none. -/
def writeNextStream (c : SendingConn) (sofar : List WriteStreamFrame × Nat × SendFlowControl)
    (room : StreamRoom) : Except SendFault (List WriteStreamFrame × Nat × SendFlowControl) :=
  let s := (c.stream room.streamId).toSendStream
  if room.streamId ∈ c.streams ∧ s.streamWriteError = none ∧
      ∀ frame ∈ sofar.1, frame.streamId ≠ room.streamId then do
    let (frames, connWritableBytes, f) ← s.writeSingleStream room sofar.2.1 sofar.2.2
    return (sofar.1 ++ frames, connWritableBytes, f)
  else .ok sofar

/-- The frames of a packet, what the connection's limit leaves, and the connection. -/
def writeStreams (c : SendingConn) (rooms : List StreamRoom) :
    Except SendFault (List WriteStreamFrame × Nat × SendFlowControl) :=
  rooms.foldlM c.writeNextStream ([], c.flowControlState.getSendConnFlowControlBytesWire)

def updateConnection (c : SendingConn) (frame : WriteStreamFrame) : Except SendFault SendingConn :=
  if frame.streamId ∈ c.streams then
    c.onStream frame.streamId fun s f => s.updateConnection frame f
  else .error (.stream .noStream)

/-- A packet is made and sent. -/
def sendPacket (c : SendingConn) (rooms : List StreamRoom) : Except SendFault SendingConn := do
  let (frames, _, f) ← c.writeStreams rooms
  frames.foldlM updateConnection (c.readFlowControl f)

/-- A packet of the DSR scheduler with new data. -/
def sendDSRPacket (c : SendingConn) (id : StreamId) (len : Nat) : Except SendFault SendingConn :=
  let s := (c.stream id).toSendStream
  let (connWritableBytes, f) := c.flowControlState.getSendConnFlowControlBytesWire
  if id ∉ c.streams ∨ s.streamWriteError.isSome ∨ !s.dsrSender ∨ s.writeBufMeta.length = 0 then .ok c
  else if connWritableBytes = 0 then .ok (c.readFlowControl f)
  else
    let (_, f) := s.getSendStreamFlowControlBytesWire f
    match (if len ≤ connWritableBytes then s.newBufMetaFrame len else none) with
    | none => .ok (c.readFlowControl f)
    | some frame => (c.readFlowControl f).updateConnection frame

/-- A packet of the DSR scheduler with lost data. -/
def sendDSRLossPacket (c : SendingConn) (id : StreamId) (len : Nat) : Except SendFault SendingConn :=
  let s := (c.stream id).toSendStream
  if id ∉ c.streams ∨ s.streamWriteError.isSome then .ok c
  else
    match s.lossBufMetaFrame len with
    | none => .ok c
    | some frame => c.updateConnection frame

/-- Only closed streams are removed. -/
def removeClosedStream (c : SendingConn) (id : StreamId) : SendingConn :=
  if id ∈ c.closedStreams then
    { c with
      streams := c.streams.erase id
      closedStreams := c.closedStreams.erase id
      flowControlUpdated := c.flowControlUpdated.erase id }
  else c

def step (c : SendingConn) : SendingEvent → Except SendFault SendingConn
  | .openStream id peerAdvertisedMaxOffset => .ok (c.openStream id peerAdvertisedMaxOffset)
  | .writeChain id data eof =>
      if isReceivingStream c.nodeType id then .ok c
      else c.onSendHalf id fun s f => s.writeChainTo data eof f
  | .writeBufMeta id length eof =>
      if isReceivingStream c.nodeType id then .ok c
      else c.onSendHalf id fun s f => s.writeBufMetaTo length eof f
  | .setDSRSender id sender =>
      if isReceivingStream c.nodeType id then .ok c
      else c.onSendHalf id fun s f => do
        let s ← liftStream (s.setDSRPacketizationRequestSender sender)
        return (s, f)
  | .resetStream id errorCode => c.resetStream id errorCode
  | .getStreamFlowControl id => .ok (c.getStreamFlowControl id)
  | .getMaxWritableOnStream id => .ok (c.getMaxWritableOnStream id)
  | .getConnectionFlowControl =>
      .ok (c.readFlowControl c.flowControlState.getSendConnFlowControlBytesAPI.2)
  | .maxData maximumData =>
      .ok { c with flowControlState := c.flowControlState.handleConnWindowUpdate maximumData }
  | .maxStreamData id maximumData =>
      if isReceivingStream c.nodeType id then
        .error (.exception (.transport "Received MaxStreamDataFrame for receiving stream."
          .streamStateError))
      else c.handleStreamWindowUpdate id maximumData
  | .stopSending id =>
      c.onSendHalf id fun s f => do
        let f ← liftStream (s.sendStopSendingSMHandler c.nodeType f)
        return (s, f)
  | .frameAcked frame =>
      c.onTransition frame.streamId fun s => do
        let t ← s.toSendStream.sendAckSMHandler frame
        return { s with toSendStream := t }
  | .frameAckedLate frame =>
      c.onSendHalf frame.streamId fun s f => do
        let s ← liftStream (s.frameAckedLate frame)
        return (s, f)
  | .rstAcked id =>
      c.onTransition id fun s => do
        let t ← s.toSendStream.sendRstAckSMHandler
        return { s with toSendStream := t }
  | .frameLost frame streamRetransmissionDisabled =>
      c.onSendHalf frame.streamId fun s f => do
        let s ← liftStream (s.frameLost frame streamRetransmissionDisabled)
        return (s, f)
  | .receiveEnded id =>
      c.onTransition id fun s =>
        .ok (if s.recvState = .open then { s with recvState := .closed } else s)
  | .packet rooms => c.sendPacket rooms
  | .dsrPacket id len => c.sendDSRPacket id len
  | .dsrLossPacket id len => c.sendDSRLossPacket id len
  | .removeClosedStream id => .ok (c.removeClosedStream id)

end SendingConn

end MasqueQuic
