/-
The send half of a stream.

A stream carries real data first. Behind it an application may append data that another host
sends (`BufMeta`), of which only the lengths are known here. The application writes, resets
and installs a DSR sender; the schedulers offer frames, and what they may offer depends on the
peer's limit. How much fits into a packet and what the connection's limit allows is up to the
events.
-/

import MasqueQuic.Quic.Outstandings
import MasqueQuic.Quic.SendBuffers

namespace MasqueQuic

inductive StreamSendState where
  | open
  | resetSent
  | closed
  | invalid
  deriving DecidableEq

structure WriteBufferMeta where
  length : Nat
  offset : Nat
  eof : Bool
  deriving DecidableEq

structure SendStream extends SendLike where
  id : StreamId
  finalWriteOffset : Option Nat
  peerAdvertisedMaxOffset : Nat
  streamWriteError : Option Nat
  sendState : StreamSendState
  dsrSender : Bool
  writeBufMeta : WriteBufferMeta
  retransmissionBufMetas : List WriteBufferMeta
  lossBufMetas : List WriteBufferMeta
  deriving DecidableEq

namespace SendStream

def new (id : StreamId) (peerAdvertisedMaxOffset : Nat) (sendState : StreamSendState) : SendStream where
  toSendLike := .new
  id := id
  finalWriteOffset := none
  peerAdvertisedMaxOffset := peerAdvertisedMaxOffset
  streamWriteError := none
  sendState := sendState
  dsrSender := false
  writeBufMeta := ⟨0, 0, false⟩
  retransmissionBufMetas := []
  lossBufMetas := []

/-! ### What there is to send -/

def writable (s : SendStream) : Bool := s.sendState == .open && s.finalWriteOffset.isNone

def hasWritableData (s : SendStream) : Except StreamFault Bool :=
  if !s.writeBuffer.empty then
    if s.peerAdvertisedMaxOffset < s.currentWriteOffset then .error .peerLimit
    else .ok (decide (s.currentWriteOffset < s.peerAdvertisedMaxOffset))
  else
    .ok (match s.finalWriteOffset with
      | none => false
      | some final => s.writeBufMeta.offset == 0 && decide (s.currentWriteOffset ≤ final))

def hasWritableBufMeta (s : SendStream) : Except StreamFault Bool :=
  if s.writeBufMeta.offset = 0 then .ok false
  else if s.writeBufMeta.length > 0 then
    if s.peerAdvertisedMaxOffset < s.writeBufMeta.offset then .error .peerLimit
    else .ok (decide (s.writeBufMeta.offset < s.peerAdvertisedMaxOffset))
  else
    .ok (match s.finalWriteOffset with
      | none => false
      | some final => decide (s.writeBufMeta.offset ≤ final))

def hasSentFIN (s : SendStream) : Bool :=
  match s.finalWriteOffset with
  | none => false
  | some final => decide (final < s.currentWriteOffset) || decide (final < s.writeBufMeta.offset)

def nextOffsetToWrite (s : SendStream) : Nat :=
  if s.writeBufMeta.offset = 0 then s.currentWriteOffset
  else if !s.writeBuffer.empty then s.currentWriteOffset
  else s.writeBufMeta.offset

/-- The assertions that `updateWritableStreams` comes across. The sets it maintains are derived
from the stream. -/
def updateWritableStreams (s : SendStream) : Except StreamFault SendStream := do
  if s.streamWriteError.isSome then return s
  let _ ← s.hasWritableData
  let _ ← s.hasWritableBufMeta
  return s

/-! ### Writing -/

def writeDataToQuicStream (s : SendStream) (data : Buf) (eof : Bool) : Except StreamFault SendStream :=
  if s.writeBufMeta.offset ≠ 0 then .error .bufMetaWritten
  else if eof && s.dsrSender then .error .eofOnRealData
  else
    let s := { s with writeBuffer := s.writeBuffer.append data }
    updateWritableStreams (if eof then
      { s with finalWriteOffset := some (s.currentWriteOffset + s.writeBuffer.chainLength) } else s)

def writeBufMetaToQuicStream (s : SendStream) (length : Nat) (eof : Bool) :
    Except StreamFault SendStream := do
  let realDataLength := s.currentWriteOffset + s.writeBuffer.chainLength
  if realDataLength = 0 then .error .noRealData
  else if s.writeBufMeta.offset = 0 ∧ s.finalWriteOffset.isSome then .error .metaAfterEof
  else
    let offset := if s.writeBufMeta.offset = 0 then realDataLength else s.writeBufMeta.offset
    let length := s.writeBufMeta.length + length
    updateWritableStreams { s with
      writeBufMeta := ⟨length, offset, s.writeBufMeta.eof || eof⟩
      finalWriteOffset := if eof then some (offset + length) else s.finalWriteOffset }

/-- The calls of the application. Those that return an error code change nothing. -/
def writeChain (s : SendStream) (data : Buf) (eof : Bool) : Except StreamFault SendStream :=
  if s.writable then s.writeDataToQuicStream data eof else .ok s

def writeBufMetaAPI (s : SendStream) (length : Nat) (eof : Bool) : Except StreamFault SendStream :=
  if !s.writable || !s.dsrSender || (s.currentWriteOffset == 0 && s.writeBuffer.empty) then .ok s
  else s.writeBufMetaToQuicStream length eof

def setDSRPacketizationRequestSender (s : SendStream) (sender : Bool) : Except StreamFault SendStream :=
  if s.dsrSender then
    if sender then .ok s
    else if s.writeBufMeta.length ≠ 0 ∨ s.lossBufMetas ≠ [] ∨ s.retransmissionBufMetas ≠ [] then
      .error .abandonedMeta
    else .ok { s with dsrSender := false }
  else if !s.writable then .ok s
  else .ok { s with dsrSender := sender }

def handleStreamWindowUpdate (s : SendStream) (maximumData : Nat) : Except StreamFault SendStream :=
  if s.peerAdvertisedMaxOffset ≤ maximumData then
    updateWritableStreams { s with peerAdvertisedMaxOffset := maximumData }
  else .ok s

/-! ### Frames -/

/-- The frame that `writeStreamFrame` makes when `len` bytes fit, if it makes one. -/
def newFrame (s : SendStream) (len : Nat) : Option WriteStreamFrame :=
  let bufferLen := s.writeBuffer.chainLength
  let fin := s.finalWriteOffset.isSome && s.writeBufMeta.offset == 0 && len == bufferLen
  if s.hasWritableData ≠ .ok true ∨ bufferLen < len ∨
      s.peerAdvertisedMaxOffset - s.nextOffsetToWrite < len ∨ (len = 0 ∧ !fin) then none
  else some ⟨s.id, s.currentWriteOffset, len, fin, false, 0⟩

/-- The frame that the DSR scheduler makes of new data. -/
def newBufMetaFrame (s : SendStream) (len : Nat) : Option WriteStreamFrame :=
  let flowControlLen := min (s.peerAdvertisedMaxOffset - s.nextOffsetToWrite)
    (s.peerAdvertisedMaxOffset - s.writeBufMeta.offset)
  if !s.dsrSender ∨ s.hasWritableBufMeta ≠ .ok true ∨ len = 0 ∨ s.writeBufMeta.length < len ∨
      flowControlLen < len then none
  else
    some ⟨s.id, s.writeBufMeta.offset, len,
      s.finalWriteOffset.isSome && len == s.writeBufMeta.length, true, 0⟩

def emplaceBufMeta (s : SendStream) (bufMeta : WriteBufferMeta) : Except StreamFault SendStream :=
  if s.retransmissionBufMetas.any (·.offset == bufMeta.offset) then .error .emplaced
  else .ok { s with retransmissionBufMetas := s.retransmissionBufMetas ++ [bufMeta] }

def handleNewStreamBufMetaWritten (s : SendStream) (frameLen : Nat) (frameFin : Bool) :
    Except StreamFault SendStream :=
  let m := s.writeBufMeta
  if m.length < frameLen ∨ (frameFin ∧ m.length ≠ frameLen) ∨
      (frameFin ∧ ¬ s.finalWriteOffset.any (· < m.offset + frameLen + 1)) then .error .metaFrame
  else
    { s with writeBufMeta := ⟨m.length - frameLen,
        m.offset + frameLen + (if frameFin then 1 else 0), m.eof⟩ }.emplaceBufMeta
      ⟨frameLen, m.offset, frameLen == m.length && m.eof⟩

def handleRetransmissionBufMetaWritten (s : SendStream) (frameOffset frameLen : Nat) (frameFin : Bool)
    (before : List WriteBufferMeta) (m : WriteBufferMeta) (after : List WriteBufferMeta) :
    Except StreamFault SendStream :=
  if frameLen = m.length ∧ frameFin = m.eof then
    { s with lossBufMetas := before ++ after }.emplaceBufMeta ⟨frameLen, frameOffset, frameFin⟩
  else if m.length ≤ frameLen then .error .metaFrame
  else
    let rest : WriteBufferMeta := ⟨m.length - frameLen, m.offset + frameLen, m.eof⟩
    { s with lossBufMetas := before ++ rest :: after }.emplaceBufMeta ⟨frameLen, frameOffset, frameFin⟩

def handleStreamBufMetaWritten (s : SendStream) (frameOffset frameLen : Nat) (frameFin : Bool) :
    Except StreamFault (SendStream × Bool) := do
  if s.writeBufMeta.offset > 0 ∧ frameOffset = s.writeBufMeta.offset then
    let s ← s.handleNewStreamBufMetaWritten frameLen frameFin
    return (s, true)
  else
    match s.lossBufMetas.span (·.offset < frameOffset) with
    | (before, m :: after) =>
        if m.offset = frameOffset then
          let s ← s.handleRetransmissionBufMetaWritten frameOffset frameLen frameFin before m after
          return (s, false)
        else .error .metaFrame
    | (_, []) => .error .metaFrame

/-- `updateConnection` on a stream frame. -/
def frameSent (s : SendStream) (frame : WriteStreamFrame) : Except StreamFault SendStream := do
  let (s, _) ← (if frame.fromBufMeta then
      s.handleStreamBufMetaWritten frame.offset frame.len frame.fin
    else do
      let (like, new) ← s.toSendLike.handleStreamWritten frame.offset frame.len frame.fin
      return ({ s with toSendLike := like }, new))
  s.updateWritableStreams

/-! ### Resets -/

/-- The send half of `resetQuicStream`. -/
def resetQuicStream (s : SendStream) (error : Nat) : SendStream :=
  { s with
    retransmissionBuffer := []
    writeBuffer := .cleared
    lossBuffer := []
    streamWriteError := some error
    writeBufMeta := { s.writeBufMeta with length := 0 }
    retransmissionBufMetas := []
    lossBufMetas := []
    dsrSender := false }

/-- The final size in the frame that `appendPendingStreamReset` queues. -/
def pendingResetOffset (s : SendStream) : Nat :=
  let writeBufWritten := s.writeBufMeta.offset ≠ 0 ∧
    s.currentWriteOffset + s.writeBuffer.chainLength ≠ s.writeBufMeta.offset
  min (if writeBufWritten then s.writeBufMeta.offset else s.currentWriteOffset)
    (s.finalWriteOffset.getD (2 ^ 64 - 1))

/-- The stream, and the reset that is queued, if any. -/
def sendRstSMHandler (s : SendStream) (errorCode : Nat) :
    Except StreamFault (SendStream × Option RstStreamFrame) :=
  match s.sendState with
  | .open =>
      let s := s.resetQuicStream errorCode
      .ok ({ s with sendState := .resetSent }, some ⟨s.id, errorCode, s.pendingResetOffset⟩)
  | .closed => .ok (s, none)
  | .resetSent => .ok (s, none)
  | .invalid => .error .invalidState

/-! ### Acks and losses -/

def insertIntoLossBufMeta (s : SendStream) (bufMeta : WriteBufferMeta) : SendStream :=
  let (before, after) := s.lossBufMetas.span (·.offset ≤ bufMeta.offset)
  match before.getLast? with
  | none => { s with lossBufMetas := bufMeta :: after }
  | some last =>
      if last.offset + last.length = bufMeta.offset then
        { s with lossBufMetas := before.dropLast ++
            { last with length := last.length + bufMeta.length, eof := bufMeta.eof } :: after }
      else { s with lossBufMetas := before ++ bufMeta :: after }

/-- `markPacketLoss` on a stream frame. What is lost is given up if the stream's
retransmissions are disabled. -/
def frameLost (s : SendStream) (frame : WriteStreamFrame) (streamRetransmissionDisabled : Bool) :
    Except StreamFault SendStream :=
  if !frame.fromBufMeta then
    match s.toSendLike.findSent frame.offset with
    | none => .ok s
    | some buf =>
        let like := s.toSendLike.eraseSent frame.offset
        updateWritableStreams { s with toSendLike :=
          if streamRetransmissionDisabled then like
          else { like with lossBuffer := insertIntoLossBuffer like.lossBuffer buf } }
  else
    match s.retransmissionBufMetas.find? (·.offset == frame.offset) with
    | none => .ok s
    | some bufMeta =>
        if bufMeta.length ≠ frame.len ∨ bufMeta.eof ≠ frame.fin then .error .metaFrame
        else
          let s := { s with
            retransmissionBufMetas := s.retransmissionBufMetas.filter (·.offset != frame.offset) }
          updateWritableStreams (if streamRetransmissionDisabled then s
            else s.insertIntoLossBufMeta bufMeta)

def allBytesTillFinAcked (s : SendStream) : Except StreamFault Bool :=
  if s.hasSentFIN && s.retransmissionBuffer.isEmpty && s.retransmissionBufMetas.isEmpty &&
      s.writeBuffer.empty then do
    let writable ← s.hasWritableBufMeta
    return !writable && s.lossBuffer.isEmpty && s.lossBufMetas.isEmpty
  else .ok false

/-- The sent data that an ack of the frame frees. -/
def removeAcked (s : SendStream) (ackedFrame : WriteStreamFrame) : Except StreamFault SendStream :=
  if !ackedFrame.fromBufMeta then
    match s.toSendLike.findSent ackedFrame.offset with
    | none => .ok s
    | some buf =>
        if ackedFrame.len ≠ buf.data.chainLength ∨ ackedFrame.fin ≠ buf.eof then .error .ackedFrame
        else do
          let like ← s.toSendLike.updateAckedIntervals buf.offset buf.data.chainLength buf.eof
          return { s with toSendLike := like.eraseSent ackedFrame.offset }
  else
    match s.retransmissionBufMetas.find? (·.offset == ackedFrame.offset) with
    | none => .ok s
    | some bufMeta =>
        if ackedFrame.len ≠ bufMeta.length ∨ ackedFrame.fin ≠ bufMeta.eof then .error .ackedFrame
        else do
          let like ← s.toSendLike.updateAckedIntervals bufMeta.offset bufMeta.length bufMeta.eof
          return { s with
            toSendLike := like
            retransmissionBufMetas :=
              s.retransmissionBufMetas.filter (·.offset != ackedFrame.offset) }

def sendAckSMHandler (s : SendStream) (ackedFrame : WriteStreamFrame) :
    Except StreamFault SendStream :=
  match s.sendState with
  | .open => do
      let s ← s.removeAcked ackedFrame
      let done ← s.allBytesTillFinAcked
      return if done then { s with sendState := .closed } else s
  | .closed => .ok s
  | .resetSent => .ok s
  | .invalid => .error .invalidState

def sendRstAckSMHandler (s : SendStream) : Except StreamFault SendStream :=
  match s.sendState with
  | .resetSent => .ok { s with sendState := .closed }
  | .closed => .ok s
  | .open => .error .invalidState
  | .invalid => .error .invalidState

/-- What happens on a stream when a packet is acked that was declared lost. -/
def frameAckedLate (s : SendStream) (frame : WriteStreamFrame) : Except StreamFault SendStream := do
  let like ← { s.toSendLike with
    lossBuffer := removeFromLossBuffer s.lossBuffer frame.offset frame.len frame.fin
    }.updateAckedIntervals frame.offset frame.len frame.fin
  { s with toSendLike := like }.updateWritableStreams

end SendStream

end MasqueQuic
