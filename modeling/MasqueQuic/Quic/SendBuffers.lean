/-
The send buffers of a stream: data that waits to be sent, data on its way, and data that
was lost.

Streams and crypto streams share them. A map from offsets is a list with one entry for each
offset, a deque that the source keeps sorted is a list, and a binary search on it finds the
first entry it is looking for. The acked intervals are the set of their members.
-/

import Mathlib.Data.Finset.Interval
import Mathlib.Order.Interval.Finset.Nat
import MasqueQuic.Lib.Ends
import MasqueQuic.Quic.StreamReceive

namespace MasqueQuic

/-- The assertions and exceptions on the send side of streams. -/
inductive StreamFault where
  | emplaced              -- `CHECK(….emplace(…).second)`
  | offsetTooLarge        -- the exception in `handleStreamWritten`
  | ackedFrame            -- the `CHECK_EQ`s in `sendAckSMHandler`
  | emptyAck              -- `LOG(FATAL)` in `updateAckedIntervals`
  | invalidState          -- "Invalid transition from state=…"
  | noStream              -- `CHECK_NOTNULL` in `updateConnection`
  | peerLimit             -- the `CHECK_GE`s in `hasWritableData` and `hasWritableBufMeta`
  | bufMetaWritten        -- `CHECK(neverWrittenBufMeta)` in `writeDataToQuicStream`
  | eofOnRealData         -- `LOG_IF(FATAL, eof && stream.dsrSender)` there
  | noRealData            -- `CHECK_GT(realDataLength, 0)` in `writeBufMetaToQuicStream`
  | metaAfterEof          -- `CHECK(!stream.finalWriteOffset.has_value())` there
  | metaFrame             -- the assertions on a DSR frame
  | abandonedMeta         -- the assertions in `setDSRPacketizationRequestSender`
  | cryptoAck             -- the assertions at the end of `implicitAckCryptoStream`
  deriving DecidableEq

/-- The send side of `QuicStreamLike`. -/
structure SendLike where
  writeBuffer : BufQueue
  retransmissionBuffer : List StreamBuffer
  lossBuffer : List StreamBuffer
  ackedIntervals : Finset Nat
  currentWriteOffset : Nat
  deriving DecidableEq

/-! ### Lost data -/

/-- The new entry goes behind those that do not start after it; it is merged with the last of
them if it continues it. -/
def insertIntoLossBuffer (lossBuffer : List StreamBuffer) (buf : StreamBuffer) : List StreamBuffer :=
  let (before, after) := lossBuffer.span (·.offset ≤ buf.offset)
  match before.getLast? with
  | none => buf :: after
  | some last =>
      if last.endOffset = buf.offset then
        before.dropLast ++ { last with data := last.data.append buf.data.chain_, eof := buf.eof } :: after
      else before ++ buf :: after

/-- The part of an entry from `offset` on for `len` bytes is cut out. The rest behind it, and
what was split off in front of it. -/
def cutOut (b : StreamBuffer) (offset len : Nat) : StreamBuffer × Option StreamBuffer :=
  let amountToSplit := offset - b.offset
  let front :=
    if amountToSplit > 0 then some (.new (b.data.splitAtMost amountToSplit).1 b.offset false) else none
  let data := if amountToSplit > 0 then (b.data.splitAtMost amountToSplit).2 else b.data
  let (trimmed, data) := data.trimStartAtMost len
  ({ b with data, offset := b.offset + amountToSplit + trimmed }, front)

/-- The loop of `removeFromLossBuffer`; `before` has been passed. -/
def removeLoop (offset len : Nat) (eof : Bool) :
    List StreamBuffer → List StreamBuffer → List StreamBuffer
  | before, [] => before
  | before, b :: rest =>
      if b.offset > offset + len then before ++ b :: rest
      else if (offset ≥ b.offset ∧ offset + len ≤ b.endOffset) ∨
          (b.offset ≥ offset ∧ b.endOffset ≤ offset + len) then
        let (back, front) := cutOut b offset len
        let lossBuffer :=
          if back.data.empty ∧ back.eof = eof then before ++ rest else before ++ back :: rest
        front.elim lossBuffer (insertIntoLossBuffer lossBuffer)
      else removeLoop offset len eof (before ++ [b]) rest

def removeFromLossBuffer (lossBuffer : List StreamBuffer) (offset len : Nat) (eof : Bool) :
    List StreamBuffer :=
  if len = 0 then lossBuffer else removeLoop offset len eof [] lossBuffer

namespace SendLike

def new : SendLike := ⟨.cleared, [], [], ∅, 0⟩

/-! ### Sent data -/

/-- `retransmissionBuffer.emplace`, and the assertion that the offset is not there yet. -/
def emplace (s : SendLike) (buf : StreamBuffer) : Except StreamFault SendLike :=
  if s.retransmissionBuffer.any (·.offset == buf.offset) then .error .emplaced
  else .ok { s with retransmissionBuffer := s.retransmissionBuffer ++ [buf] }

def handleNewStreamDataWritten (s : SendLike) (frameLen : Nat) (frameFin : Bool) :
    Except StreamFault SendLike :=
  let originalOffset := s.currentWriteOffset
  let (bufWritten, writeBuffer) := s.writeBuffer.splitAtMost frameLen
  { s with
    writeBuffer
    currentWriteOffset := s.currentWriteOffset + frameLen + (if frameFin then 1 else 0) }.emplace
      (.new bufWritten originalOffset frameFin)

/-- `before`, `b` and `after` are the loss buffer, and the frame starts where `b` does. -/
def handleRetransmissionWritten (s : SendLike) (frameOffset frameLen : Nat) (frameFin : Bool)
    (before : List StreamBuffer) (b : StreamBuffer) (after : List StreamBuffer) :
    Except StreamFault SendLike :=
  if frameLen = b.data.chainLength ∧ frameFin = b.eof then
    { s with lossBuffer := before ++ after }.emplace (.new b.data.move.1 frameOffset frameFin)
  else
    let (bufWritten, data) := b.data.splitAtMost frameLen
    { s with lossBuffer := before ++ { b with offset := b.offset + frameLen, data } :: after }.emplace
      (.new bufWritten frameOffset frameFin)

/-- The result says whether the data is new. A frame that is neither new nor lost is a clone. -/
def handleStreamWritten (s : SendLike) (frameOffset frameLen : Nat) (frameFin : Bool) :
    Except StreamFault (SendLike × Bool) := do
  if frameOffset = s.currentWriteOffset then
    let s ← s.handleNewStreamDataWritten frameLen frameFin
    return (s, true)
  else if frameOffset > s.currentWriteOffset then .error .offsetTooLarge
  else
    match s.lossBuffer.span (·.offset < frameOffset) with
    | (before, b :: after) =>
        if b.offset = frameOffset then
          let s ← s.handleRetransmissionWritten frameOffset frameLen frameFin before b after
          return (s, false)
        else return (s, false)
    | (_, []) => return (s, false)

/-- `retransmissionBuffer.find`. -/
def findSent (s : SendLike) (offset : Nat) : Option StreamBuffer :=
  s.retransmissionBuffer.find? (·.offset == offset)

/-- `retransmissionBuffer.erase`. -/
def eraseSent (s : SendLike) (offset : Nat) : SendLike :=
  { s with retransmissionBuffer := s.retransmissionBuffer.filter (·.offset != offset) }

/-- With the FIN the position behind the data counts as acked. -/
def updateAckedIntervals (s : SendLike) (offset len : Nat) (eof : Bool) : Except StreamFault SendLike :=
  if !eof ∧ len = 0 then .error .emptyAck
  else
    .ok { s with ackedIntervals :=
      s.ackedIntervals ∪ Finset.Ico offset (offset + len + (if eof then 1 else 0)) }

end SendLike

end MasqueQuic
