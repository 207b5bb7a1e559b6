/-
Parsing the frames of a decrypted packet (`quic/codec/Decode.cpp`).

The payload is one buffer, so a cursor sees all that is left as one range. Most frames are read
through a cursor over the queue, which is trimmed afterwards; STREAM and DATAGRAM frames are cut
out of the queue itself. Trimming a queue to nothing frees its last buffer: `parseFrame` then
puts its own cursor on an empty buffer, while the decoders that take the queue build theirs on
a null one. `nullCursor` is the read of such a cursor. Building one is not an error of its own,
and `overEmpty` records that it happened.

`parseFrame` turns every exception of a decoder into one that names the frame type, so of the
exceptions inside only the text is kept.
-/

import MasqueQuic.Lib.Ends
import MasqueQuic.Quic.AckHandlers
import MasqueQuic.Quic.QuicInteger

namespace MasqueQuic

/-! ### Frames -/

inductive FrameType where
  | padding | ping | ack | ackEcn | rstStream | stopSending | cryptoFrame | newToken
  | stream (field : Nat)
  | maxData | maxStreamData | maxStreamsBidi | maxStreamsUni
  | dataBlocked | streamDataBlocked | streamsBlockedBidi | streamsBlockedUni
  | newConnectionId | retireConnectionId | pathChallenge | pathResponse
  | connectionClose | connectionCloseAppErr | handshakeDone
  | datagram | datagramLen | knob | immediateAck | ackFrequency
  | groupStream (field : Nat)
  | ackReceiveTimestamps
  deriving DecidableEq

/-- The alternatives of the switch in `parseFrame`. -/
def FrameType.ofCode : Nat → Option FrameType
  | 0x00 => some .padding
  | 0x01 => some .ping
  | 0x02 => some .ack
  | 0x03 => some .ackEcn
  | 0x04 => some .rstStream
  | 0x05 => some .stopSending
  | 0x06 => some .cryptoFrame
  | 0x07 => some .newToken
  | 0x08 => some (.stream 0x08)
  | 0x09 => some (.stream 0x09)
  | 0x0a => some (.stream 0x0a)
  | 0x0b => some (.stream 0x0b)
  | 0x0c => some (.stream 0x0c)
  | 0x0d => some (.stream 0x0d)
  | 0x0e => some (.stream 0x0e)
  | 0x0f => some (.stream 0x0f)
  | 0x10 => some .maxData
  | 0x11 => some .maxStreamData
  | 0x12 => some .maxStreamsBidi
  | 0x13 => some .maxStreamsUni
  | 0x14 => some .dataBlocked
  | 0x15 => some .streamDataBlocked
  | 0x16 => some .streamsBlockedBidi
  | 0x17 => some .streamsBlockedUni
  | 0x18 => some .newConnectionId
  | 0x19 => some .retireConnectionId
  | 0x1a => some .pathChallenge
  | 0x1b => some .pathResponse
  | 0x1c => some .connectionClose
  | 0x1d => some .connectionCloseAppErr
  | 0x1e => some .handshakeDone
  | 0x30 => some .datagram
  | 0x31 => some .datagramLen
  | 0x32 => some (.groupStream 0x32)
  | 0x33 => some (.groupStream 0x33)
  | 0x34 => some (.groupStream 0x34)
  | 0x35 => some (.groupStream 0x35)
  | 0x36 => some (.groupStream 0x36)
  | 0x37 => some (.groupStream 0x37)
  | 0x38 => some (.groupStream 0x38)
  | 0x39 => some (.groupStream 0x39)
  | 0xac => some .immediateAck
  | 0xaf => some .ackFrequency
  | 0xb0 => some .ackReceiveTimestamps
  | 0x1550 => some .knob
  | _ => none

structure RecvdPacketsTimestampsRange where
  gap : Nat
  timestampDeltaCount : Nat
  deltas : List Nat

/-- What an ACK frame with receive timestamps says besides the acks. -/
structure ReceiveTimestamps where
  latestRecvdPacketNum : Nat
  latestRecvdPacketTime : Nat
  recvdPacketsTimestampRanges : List RecvdPacketsTimestampsRange

inductive QuicErrorCode where
  | transport (code : Nat)
  | application (code : Nat)

inductive QuicFrame where
  | padding (numFrames : Nat)
  | ping
  | ack (frame : ReadAckFrame) (timestamps : Option ReceiveTimestamps)
  | rstStream (frame : RstStreamFrame)
  | crypto (offset : Nat) (data : Bytes)
  | stream (frame : ReadStreamFrame) (streamGroupId : Option Nat)
  | maxData (maximumData : Nat)
  | maxStreamData (streamId maximumData : Nat)
  | dataBlocked (dataLimit : Nat)
  | streamDataBlocked (streamId dataLimit : Nat)
  | streamsBlocked (streamLimit : Nat) (isForBidirectionalStream : Bool)
  | connectionClose (errorCode : QuicErrorCode) (reasonPhrase : Bytes)
      (closingFrameType : Option Nat)
  | datagram (length : Nat) (data : BufQueue)
  | immediateAck
  | simple (frame : QuicSimpleFrame)

/-! ### Cursors -/

/-- How a decoder is left without a frame. -/
inductive DecodeFault where
  | exception (what : String)
  | nullCursor
  | terminate  -- an exception leaves a `SCOPE_EXIT` block
  | check      -- `CHECK_EQ(length, data.chainLength())`
  deriving DecidableEq

abbrev FrameReader := Reader DecodeFault UInt8

namespace FrameReader

def throwIf (what : String) (p : Bool) : FrameReader Unit := Reader.guard (.exception what) (!p)

/-- `decodeQuicInteger(cursor)`, with an exception if there is none. -/
def sizedInteger (what : String) : FrameReader (Nat × Nat) := fun s =>
  match decodeQuicInteger s sizeofUint64 with
  | none => .error (.exception what)
  | some (value, width) => .ok ((value, width), s.drop width)

def integer (what : String) : FrameReader Nat := Prod.fst <$> sizedInteger what

/-- `pull`, `clone`, `readBE` and `readFixedString` throw when bytes are missing. -/
def pull (n : Nat) : FrameReader Bytes := Subtype.val <$> Reader.take (.exception "underflow") n

def totalLength : FrameReader Nat := fun s => .ok (s.length, s)

def cloneAtMost (n : Nat) : FrameReader Bytes := fun s => .ok (s.take n, s.drop n)

end FrameReader

open FrameReader

/-! ### Decoders -/

/-- The packet header and the parameters of the codec. `wideShift` is the result of a shift by
the width of the type or more, which the language leaves open. -/
structure CodecParameters where
  longHeader : Bool
  peerAckDelayExponent : Nat
  receiveTimestampsExponent : Option Nat
  wideShift : Nat → Nat → Nat

def kDefaultAckDelayExponent : Nat := 3
def kDefaultReceiveTimestampsExponent : Nat := 3
def kMaxMaxStreams : Nat := 2 ^ 60
def kMaxReasonPhraseLength : Nat := 1024
def kMaxConnectionIdSize : Nat := 20
def kStatelessResetTokenLength : Nat := 16

/-- All the padding that follows is taken as well, if nothing else follows. -/
def decodePaddingFrame : FrameReader QuicFrame := fun s =>
  match s with
  | [] => .ok (.padding 1, s)
  | firstByte :: rest =>
      if firstByte ≠ 0 then .ok (.padding 1, s)
      else if rest.all (· == firstByte) then .ok (.padding 1, [])
      else .ok (.padding 1, s)

def decodeKnobFrame : FrameReader QuicFrame := do
  let knobSpace ← integer "Bad knob space"
  let knobId ← integer "Bad knob id"
  let knobLen ← integer "Bad knob len"
  let knobBlob ← cloneAtMost knobLen
  return .simple (.knob ⟨knobSpace, knobId, knobBlob⟩)

def decodeAckFrequencyFrame : FrameReader QuicFrame := do
  let sequenceNumber ← integer "Bad sequence number"
  let packetTolerance ← integer "Bad packet tolerance"
  let updateMaxAckDelay ← integer "Bad update max ack delay"
  let reorderThreshold ← integer "Bad reorder threshold"
  return .simple (.ackFrequency sequenceNumber packetTolerance updateMaxAckDelay reorderThreshold)

namespace CodecParameters

variable (p : CodecParameters)

def shiftLeft (value amount : Nat) : Nat :=
  if amount < 64 then (value <<< amount) % 2 ^ 64 else p.wideShift value amount

def convertEncodedDurationToMicroseconds (exponentToUse delay : Nat) : FrameReader Nat := do
  let leftShift := (64 + 2 ^ 8 - exponentToUse % 2 ^ 8) % 2 ^ 8
  let delayOverflowMask := p.shiftLeft 0xFFFFFFFFFFFFFFFF leftShift
  throwIf "Decoded delay overflows" (delay &&& delayOverflowMask != 0)
  let adjustedDelay := p.shiftLeft delay exponentToUse
  throwIf "Bad delay" (decide (adjustedDelay > 2 ^ 63 - 1))
  return adjustedDelay

end CodecParameters

/-- The end of the next block; one number at least lies between the blocks. -/
def nextAckedPacketGap (packetNum gap : Nat) : FrameReader { n : Nat // n < packetNum } := fun s =>
  if h : packetNum < gap + 2 then .error (.exception "Bad gap")
  else .ok (⟨packetNum - (gap + 2), by omega⟩, s)

def nextAckedPacketLen (packetNum ackBlockLen : Nat) : FrameReader { n : Nat // n ≤ packetNum } :=
  fun s =>
    if packetNum < ackBlockLen then .error (.exception "Bad block len")
    else .ok (⟨packetNum - ackBlockLen, Nat.sub_le _ _⟩, s)

theorem Descending.cons {block : AckBlock} {blocks : List AckBlock}
    (hinterval : block.startPacket ≤ block.endPacket) (hblocks : Descending blocks)
    (hbelow : ∀ b ∈ blocks, b.endPacket < block.startPacket) : Descending (block :: blocks) where
  interval := List.forall_mem_cons.mpr ⟨hinterval, hblocks.interval⟩
  below := List.pairwise_cons.mpr ⟨hbelow, hblocks.below⟩

/-- The blocks after the first one, all below `currentPacketNum`. -/
def decodeAckBlocks : Nat → (currentPacketNum : Nat) →
    FrameReader { blocks : List AckBlock //
      Descending blocks ∧ ∀ b ∈ blocks, b.endPacket < currentPacketNum }
  | 0, _ => return ⟨[], ⟨nofun, .nil⟩, nofun⟩
  | numBlocks + 1, currentPacketNum => do
      let currentGap ← integer "Bad gap"
      let blockLen ← integer "Bad block len"
      let nextEndPacket ← nextAckedPacketGap currentPacketNum currentGap
      let start ← nextAckedPacketLen nextEndPacket blockLen
      let blocks ← decodeAckBlocks numBlocks start
      return ⟨⟨start, nextEndPacket⟩ :: blocks.val,
        .cons start.property blocks.property.1 blocks.property.2,
        List.forall_mem_cons.mpr ⟨nextEndPacket.property, fun b hb =>
          (blocks.property.2 b hb).trans_le
            (start.property.trans (Nat.le_of_lt nextEndPacket.property))⟩⟩

def decodeAckFrame (p : CodecParameters) : FrameReader ReadAckFrame := do
  let largestAcked ← integer "Bad largest acked"
  let ackDelay ← integer "Bad ack delay"
  let additionalAckBlocks ← integer "Bad ack block count"
  let firstAckBlockLen ← integer "Bad first block"
  let ackDelayExponentToUse :=
    if p.longHeader then kDefaultAckDelayExponent else p.peerAckDelayExponent
  let currentPacketNum ← nextAckedPacketLen largestAcked firstAckBlockLen
  let adjustedDelay ← p.convertEncodedDurationToMicroseconds ackDelayExponentToUse ackDelay
  let ackBlocks ← decodeAckBlocks additionalAckBlocks currentPacketNum
  return {
    largestAcked := largestAcked
    ackDelay := if adjustedDelay > 1000 * 1000 * 1000 then 0 else adjustedDelay
    implicit := false
    ackBlocks := ⟨currentPacketNum, largestAcked⟩ :: ackBlocks.val
    descending := .cons currentPacketNum.property ackBlocks.property.1 ackBlocks.property.2 }

def decodeDeltas (p : CodecParameters) : Nat → FrameReader (List Nat)
  | 0 => return []
  | i + 1 => do
      let delta ← integer "Bad receive timestamps delta"
      let adjustedDelta ← p.convertEncodedDurationToMicroseconds
        (p.receiveTimestampsExponent.getD kDefaultReceiveTimestampsExponent) delta
      let deltas ← decodeDeltas p i
      return adjustedDelta :: deltas

def decodeTimestampRanges (p : CodecParameters) :
    Nat → FrameReader (List RecvdPacketsTimestampsRange)
  | 0 => return []
  | numRanges + 1 => do
      let receiveTimeStampsGap ← integer "Bad receive timestamps gap"
      let receiveTimeStampsLen ← integer "Bad receive timestamps block length"
      let deltas ← decodeDeltas p receiveTimeStampsLen
      let ranges ← decodeTimestampRanges p numRanges
      return ⟨receiveTimeStampsGap, receiveTimeStampsLen, deltas⟩ :: ranges

def decodeAckFrameWithReceivedTimestamps (p : CodecParameters) : FrameReader QuicFrame := do
  let frame ← decodeAckFrame p
  let latestRecvdPacketNum ← integer "Bad latest received packet number"
  let latestRecvdPacketTimeDelta ← integer "Bad receive packet timestamp delta"
  let timeStampRangeCount ← integer "Bad receive timestamps range count"
  let ranges ← decodeTimestampRanges p timeStampRangeCount
  return .ack frame (some ⟨latestRecvdPacketNum, latestRecvdPacketTimeDelta, ranges⟩)

def decodeAckFrameWithECN (p : CodecParameters) : FrameReader QuicFrame := do
  let readAckFrame ← decodeAckFrame p
  let _ ← integer "Bad ECT(0) value"
  let _ ← integer "Bad ECT(1) value"
  let _ ← integer "Bad ECT-CE value"
  return .ack readAckFrame none

/-- `static_cast<ApplicationErrorCode>`, and the same for a `TransportErrorCode`. -/
def toErrorCode (varCode : Nat) : Nat := varCode % 2 ^ 16

def decodeRstStreamFrame : FrameReader QuicFrame := do
  let streamId ← integer "Bad streamId"
  let varCode ← integer "Cannot decode error code"
  let offset ← integer "Bad offset"
  return .rstStream ⟨streamId, toErrorCode varCode, offset⟩

def decodeStopSendingFrame : FrameReader QuicFrame := do
  let streamId ← integer "Bad streamId"
  let varCode ← integer "Cannot decode error code"
  return .simple (.stopSending streamId (toErrorCode varCode))

/-- A length and as many bytes. -/
def lengthAndData : FrameReader Bytes := do
  let dataLength ← integer "Invalid length"
  let available ← totalLength
  throwIf "Length mismatch" (decide (available < dataLength))
  pull dataLength

def decodeCryptoFrame : FrameReader QuicFrame := do
  let offset ← integer "Invalid offset"
  let data ← lengthAndData
  return .crypto offset data

def decodeNewTokenFrame : FrameReader QuicFrame := do
  let token ← lengthAndData
  return .simple (.newToken token)

def decodeMaxDataFrame : FrameReader QuicFrame := do
  let maximumData ← integer "Bad Max Data"
  return .maxData maximumData

def decodeMaxStreamDataFrame : FrameReader QuicFrame := do
  let streamId ← integer "Invalid streamId"
  let offset ← integer "Invalid offset"
  return .maxStreamData streamId offset

def decodeMaxStreamsFrame (what : String) (isBidirectional : Bool) : FrameReader QuicFrame := do
  let streamCount ← integer what
  throwIf what (decide (streamCount > kMaxMaxStreams))
  return .simple (.maxStreams streamCount isBidirectional)

def decodeBiDiMaxStreamsFrame : FrameReader QuicFrame :=
  decodeMaxStreamsFrame "Invalid Bi-directional streamId" true

def decodeUniMaxStreamsFrame : FrameReader QuicFrame :=
  decodeMaxStreamsFrame "Invalid Uni-directional streamId" false

def decodeDataBlockedFrame : FrameReader QuicFrame := do
  let dataLimit ← integer "Bad offset"
  return .dataBlocked dataLimit

def decodeStreamDataBlockedFrame : FrameReader QuicFrame := do
  let streamId ← integer "Bad streamId"
  let dataLimit ← integer "Bad offset"
  return .streamDataBlocked streamId dataLimit

def decodeStreamsBlockedFrame (what : String) (isBidirectional : Bool) :
    FrameReader QuicFrame := do
  let streamId ← integer what
  return .streamsBlocked streamId isBidirectional

def decodeBiDiStreamsBlockedFrame : FrameReader QuicFrame :=
  decodeStreamsBlockedFrame "Bad Bi-Directional streamId" true

def decodeUniStreamsBlockedFrame : FrameReader QuicFrame :=
  decodeStreamsBlockedFrame "Bad Uni-direcitonal streamId" false

def decodeNewConnectionIdFrame : FrameReader QuicFrame := do
  let sequenceNumber ← integer "Bad sequence"
  let retirePriorTo ← integer "Bad retire prior to"
  let available ← totalLength
  throwIf "Not enough input bytes to read Dest. ConnectionId" (decide (available < 1))
  let connIdLen ← beNat <$> pull 1
  let available ← totalLength
  throwIf "Bad connid" (decide (available < connIdLen))
  throwIf "ConnectionId invalid length" (decide (connIdLen > kMaxConnectionIdSize))
  let connId ← pull connIdLen
  let statelessResetToken ← pull kStatelessResetTokenLength
  return .simple (.newConnectionId ⟨sequenceNumber, retirePriorTo, connId, statelessResetToken⟩)

def decodeRetireConnectionIdFrame : FrameReader QuicFrame := do
  let sequenceNum ← integer "Bad sequence num"
  return .simple (.retireConnectionId sequenceNum)

def decodePathData (what : String) : FrameReader Nat := do
  let available ← totalLength
  throwIf what (decide (available < sizeofUint64))
  beNat <$> pull sizeofUint64

def decodePathChallengeFrame : FrameReader QuicFrame := do
  let pathData ← decodePathData "Not enough input bytes to read path challenge frame."
  return .simple (.pathChallenge pathData)

def decodePathResponseFrame : FrameReader QuicFrame := do
  let pathData ← decodePathData "Not enough input bytes to read path response frame."
  return .simple (.pathResponse pathData)

def decodeReasonPhrase : FrameReader Bytes := do
  let reasonPhraseLength ← integer "Bad reason phrase length"
  throwIf "Bad reason phrase length" (decide (reasonPhraseLength > kMaxReasonPhraseLength))
  pull reasonPhraseLength

/-- The type of the frame that is to blame has to take one byte. -/
def decodeConnectionCloseFrame : FrameReader QuicFrame := do
  let varCode ← integer "Failed to parse error code."
  let frameTypeField ← sizedInteger "Bad connection close triggering frame type value"
  throwIf "Bad connection close triggering frame type value" (frameTypeField.2 != 1)
  let reasonPhrase ← decodeReasonPhrase
  return .connectionClose (.transport (toErrorCode varCode)) reasonPhrase (some frameTypeField.1)

def decodeApplicationClose : FrameReader QuicFrame := do
  let varCode ← integer "Failed to parse error code."
  let reasonPhrase ← decodeReasonPhrase
  return .connectionClose (.application (toErrorCode varCode)) reasonPhrase none

/-! ### Frames that are cut out of the queue -/

/-- `StreamTypeField`: the bits of a stream frame type. -/
structure StreamTypeField where
  field : Nat

namespace StreamTypeField

def hasFin (t : StreamTypeField) : Bool := t.field &&& 0x01 != 0

def hasDataLength (t : StreamTypeField) : Bool := t.field &&& 0x02 != 0

def hasOffset (t : StreamTypeField) : Bool := t.field &&& 0x04 != 0

end StreamTypeField

structure StreamFrameHeader where
  streamId : Nat
  groupId : Option Nat
  offset : Nat
  dataLength : Option Nat

def decodeStreamFrameHeader (frameTypeField : StreamTypeField) (isGroupFrame : Bool) :
    FrameReader StreamFrameHeader := do
  let streamId ← integer "Invalid stream id"
  let groupId ← (if isGroupFrame then some <$> integer "Invalid group stream id" else pure none)
  let offset ← (if frameTypeField.hasOffset then integer "Invalid offset" else pure 0)
  let dataLength ←
    (if frameTypeField.hasDataLength then some <$> integer "Invalid length" else pure none)
  return ⟨streamId, groupId, offset, dataLength⟩

/-- `queue.trimStart(amount)` inside the `try` block. -/
def trimQueue (queue : BufQueue) (amount : Nat) : Except DecodeFault BufQueue :=
  match queue.trimStart amount with
  | none => .error (.exception "Attempt to trim more bytes than are present in BufQueue")
  | some queue => .ok queue

/-- Run a reader with a cursor over `queue.front()`. -/
def overQueue {α : Type} (queue : BufQueue) (r : FrameReader α) :
    Except DecodeFault (α × Bytes) :=
  match queue.chain_ with
  | none => .error .nullCursor
  | some chain => r.run chain.bytes

def decodeStreamFrame (queue : BufQueue) (frameTypeField : StreamTypeField)
    (isGroupFrame : Bool) : Except DecodeFault (QuicFrame × BufQueue) := do
  let (header, rest) ← overQueue queue (decodeStreamFrameHeader frameTypeField isGroupFrame)
  let frame (data : Buf) : QuicFrame :=
    .stream ⟨header.streamId, header.offset, data, frameTypeField.hasFin⟩ header.groupId
  let consumed := queue.chainLength - rest.length
  match header.dataLength with
  | some dataLength =>
      if rest.length < dataLength then .error (.exception "Length mismatch")
      else
        let queue ← trimQueue queue consumed
        let (data, queue) := queue.splitAtMost dataLength
        return (frame data, queue)
  -- Without a length the rest of the packet is data.
  | none =>
      let queue ← trimQueue queue consumed
      let (data, queue) := queue.move
      return (frame data, queue)

/-- `DatagramFrame(length, queue.splitAtMost(length))`. -/
def makeDatagramFrame (queue : BufQueue) (length : Nat) :
    Except DecodeFault (QuicFrame × BufQueue) :=
  let (data, queue) := queue.splitAtMost length
  if length = (BufQueue.ofBuf data).chainLength then .ok (.datagram length (.ofBuf data), queue)
  else .error .check

def decodeDatagramFrame (queue : BufQueue) (hasLen : Bool) :
    Except DecodeFault (QuicFrame × BufQueue) :=
  if hasLen then do
    let ((length, width), rest) ← overQueue queue (sizedInteger "Invalid datagram len")
    if rest.length < length then .error (.exception "Invalid datagram frame")
    else
      let queue ← trimQueue queue width
      makeDatagramFrame queue length
  else makeDatagramFrame queue queue.chainLength

/-! ### Packets -/

/-- Run a decoder with the cursor of `parseFrame`, and trim the queue behind it. -/
def overCursor (queue : BufQueue) (r : FrameReader QuicFrame) :
    Except DecodeFault (QuicFrame × BufQueue) := do
  let (frame, rest) ← r.run queue.bytes
  if queue.empty then return (frame, queue)
  else match queue.trimStart (queue.chainLength - rest.length) with
    | none => .error .terminate
    | some queue => return (frame, queue)

def decodeFrame (p : CodecParameters) (queue : BufQueue) :
    FrameType → Except DecodeFault (QuicFrame × BufQueue)
  | .padding => overCursor queue decodePaddingFrame
  | .ping => overCursor queue (pure .ping)
  | .ack => overCursor queue ((QuicFrame.ack · none) <$> decodeAckFrame p)
  | .ackEcn => overCursor queue (decodeAckFrameWithECN p)
  | .rstStream => overCursor queue decodeRstStreamFrame
  | .stopSending => overCursor queue decodeStopSendingFrame
  | .cryptoFrame => overCursor queue decodeCryptoFrame
  | .newToken => overCursor queue decodeNewTokenFrame
  | .stream field => decodeStreamFrame queue ⟨field⟩ false
  | .maxData => overCursor queue decodeMaxDataFrame
  | .maxStreamData => overCursor queue decodeMaxStreamDataFrame
  | .maxStreamsBidi => overCursor queue decodeBiDiMaxStreamsFrame
  | .maxStreamsUni => overCursor queue decodeUniMaxStreamsFrame
  | .dataBlocked => overCursor queue decodeDataBlockedFrame
  | .streamDataBlocked => overCursor queue decodeStreamDataBlockedFrame
  | .streamsBlockedBidi => overCursor queue decodeBiDiStreamsBlockedFrame
  | .streamsBlockedUni => overCursor queue decodeUniStreamsBlockedFrame
  | .newConnectionId => overCursor queue decodeNewConnectionIdFrame
  | .retireConnectionId => overCursor queue decodeRetireConnectionIdFrame
  | .pathChallenge => overCursor queue decodePathChallengeFrame
  | .pathResponse => overCursor queue decodePathResponseFrame
  | .connectionClose => overCursor queue decodeConnectionCloseFrame
  | .connectionCloseAppErr => overCursor queue decodeApplicationClose
  | .handshakeDone => overCursor queue (pure (.simple .handshakeDone))
  | .datagram => decodeDatagramFrame queue false
  | .datagramLen => decodeDatagramFrame queue true
  | .knob => overCursor queue decodeKnobFrame
  | .immediateAck => overCursor queue (pure .immediateAck)
  | .ackFrequency => overCursor queue decodeAckFrequencyFrame
  | .groupStream field => decodeStreamFrame queue ⟨field⟩ true
  | .ackReceiveTimestamps => overCursor queue (decodeAckFrameWithReceivedTimestamps p)

/-- The decoders that build a cursor over the queue themselves. -/
def FrameType.takesQueue : FrameType → Bool
  | .stream _ | .groupStream _ | .datagram | .datagramLen => true
  | _ => false

/-- How `decodeRegularPacket` is left without frames. -/
inductive ParseStop where
  | transport (message : String) (code : TransportErrorCode) (frameType : Option Nat)
  | underflow
  | nullCursor
  | terminate
  | check
  | outOfFuel
  deriving DecidableEq

structure ParsedFrame where
  frame : QuicFrame
  queue : BufQueue
  overEmpty : Bool

/-- The switch over the frame type, when the type has been trimmed off the queue. -/
def parseTypedFrame (p : CodecParameters) (queue : BufQueue) (frameTypeInt : Nat) :
    Except ParseStop ParsedFrame :=
  match FrameType.ofCode frameTypeInt with
  | none =>
      .error (.transport ("Unknown frame, type=" ++ toString frameTypeInt) .frameEncodingError
        (some frameTypeInt))
  | some frameType =>
      match decodeFrame p queue frameType with
      | .ok (frame, rest) => .ok ⟨frame, rest, frameType.takesQueue && queue.chain_.isNone⟩
      | .error (.exception what) =>
          .error (.transport ("Frame format invalid, type=" ++ toString frameTypeInt ++ ", error=" ++
            what) .frameEncodingError (some frameTypeInt))
      | .error .nullCursor => .error .nullCursor
      | .error .terminate => .error .terminate
      | .error .check => .error .check

def parseFrame (p : CodecParameters) (queue : BufQueue) : Except ParseStop ParsedFrame :=
  match queue.chain_ with
  | none => .error .nullCursor
  | some chain =>
      match decodeQuicInteger chain.bytes sizeofUint64 with
      | none => .error (.transport "Invalid frame-type field" .frameEncodingError none)
      | some (frameTypeInt, width) =>
          match queue.trimStart width with
          | none => .error .underflow
          | some queue => parseTypedFrame p queue frameTypeInt

/-- Padding frames one after the other are counted in one. -/
def pushFrame (frames : List QuicFrame) (f : QuicFrame) : List QuicFrame :=
  match frames.getLast?, f with
  | some (.padding numFrames), .padding _ => frames.dropLast ++ [.padding (numFrames + 1)]
  | _, _ => frames ++ [f]

/-- The loop of `decodeRegularPacket`, for at most `fuel` rounds. -/
def parseFrames (p : CodecParameters) :
    Nat → BufQueue → List QuicFrame × Bool → Except ParseStop (List QuicFrame × Bool)
  | fuel, queue, (frames, overEmpty) =>
      if queue.chainLength = 0 then .ok (frames, overEmpty)
      else match fuel with
        | 0 => .error .outOfFuel
        | fuel + 1 => do
            let f ← parseFrame p queue
            parseFrames p fuel f.queue (pushFrame frames f.frame, overEmpty || f.overEmpty)

/-- The frames, and whether a decoder built a cursor over an empty queue. -/
def decodeRegularPacket (p : CodecParameters) (packetData : Buf) :
    Except ParseStop (List QuicFrame × Bool) :=
  let queue := BufQueue.cleared.append packetData
  if queue.chainLength = 0 then .ok ([], false)
  else do
    let f ← parseFrame p queue
    parseFrames p f.queue.chainLength f.queue ([f.frame], f.overEmpty)

end MasqueQuic
