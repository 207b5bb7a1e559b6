/-
Writing ACK frames (`fillFrameWithAckBlocks`, `writeAckFrameToPacketBuilder` and `writeAckFrame` of
`quic/codec/QuicWriteCodec.cpp`).

The fields that every ACK frame has come first; if they fit, the intervals are added from the highest
one down for as long as the space lasts. The size of the block count is part of what an interval
costs, so that the reserved byte for the count grows with the number of intervals.
-/

import MasqueQuic.Quic.FrameWriting

namespace MasqueQuic

/-! ### What is acknowledged -/

/-- `IntervalSet<PacketNum>`: ascending intervals with at least one number between them. -/
structure AckBlocks where
  intervals : List AckBlock
  interval : ∀ block ∈ intervals, block.startPacket ≤ block.endPacket
  apart : intervals.Pairwise fun a b => a.endPacket + 2 ≤ b.startPacket

structure RecvdPacketInfo where
  pktNum : Nat
  timeStamp : Nat  -- in nanoseconds
  deriving DecidableEq

structure WriteAckFrameState where
  acks : AckBlocks
  lastRecvdPacketInfo : Option RecvdPacketInfo
  recvdPacketInfos : List RecvdPacketInfo

/-- The delay is in microseconds, `connTime` in nanoseconds. -/
structure WriteAckFrameMetaData where
  ackState : WriteAckFrameState
  ackDelay : Int
  ackDelayExponent : Nat
  connTime : Nat

inductive AckFrameType where
  | ack
  | ackReceiveTimestamps
  deriving DecidableEq

def AckFrameType.code : AckFrameType → Nat
  | .ack => 0x02
  | .ackReceiveTimestamps => 0xb0

/-- The intervals are stored from the highest one down. -/
structure WriteAckFrame where
  ackBlocks : List AckBlock
  ackDelay : Int
  frameType : AckFrameType
  maybeLatestRecvdPacketTime : Option Nat
  maybeLatestRecvdPacketNum : Option Nat
  recvdPacketsTimestampRanges : List RecvdPacketsTimestampsRange

structure WriteAckFrameResult where
  bytesWritten : Nat
  writeAckFrame : WriteAckFrame
  ackBlocksWritten : Nat
  timestampRangesWritten : Nat
  timestampsWritten : Nat

/-- A builder together with the ACK frames it holds. -/
structure AckBuilder extends PacketBuilder where
  ackFrames : List WriteAckFrame

def AckBuilder.appendFrame (b : AckBuilder) (frame : WriteAckFrame) : AckBuilder :=
  { b with isEmpty := false, ackFrames := b.ackFrames ++ [frame] }

open WireField (int)

/-! ### Intervals -/

/-- The intervals that are added to the frame, and their number. The loop goes from the highest
interval down; the first one is in the frame already. -/
def fillFrameWithAckBlocks (currentSeqNum numAdditionalAckBlocks previousNumAckBlocks
    bytesLimit : Nat) : List AckBlock → Except WriteFault (List AckBlock × Nat)
  | [] => return ([], numAdditionalAckBlocks)
  | currBlock :: blocks =>
      if currentSeqNum < currBlock.endPacket + 2 then .error .check
      else do
        let gap := currentSeqNum - currBlock.endPacket - 2
        let currBlockLen := currBlock.endPacket - currBlock.startPacket
        let gapSize ← (int gap).getSize
        let currBlockLenSize ← (int currBlockLen).getSize
        let numAdditionalAckBlocksSize ← (int (numAdditionalAckBlocks + 1)).getSize
        let previousNumAckBlocksSize ← (int previousNumAckBlocks).getSize
        let additionalSize := gapSize + currBlockLenSize +
          (numAdditionalAckBlocksSize - previousNumAckBlocksSize)
        if bytesLimit < additionalSize then return ([], numAdditionalAckBlocks)
        else
          let (added, count) ← fillFrameWithAckBlocks currBlock.startPacket
            (numAdditionalAckBlocks + 1) (numAdditionalAckBlocks + 1) (bytesLimit - additionalSize)
            blocks
          return (currBlock :: added, count)

def writeAckBlocks (b : PacketBuilder) (currentSeqNum : Nat) :
    List AckBlock → Except WriteFault PacketBuilder
  | [] => .ok b
  | block :: blocks =>
      if currentSeqNum < block.endPacket + 2 then .error .check
      else do
        let written ← writeFields b [int (currentSeqNum - block.endPacket - 2),
          int (block.endPacket - block.startPacket)]
        writeAckBlocks written block.startPacket blocks

/-! ### Frames -/

namespace WriteAckFrameMetaData

/-- The delay is taken as unsigned before it is shifted. -/
def encodedAckDelay (ackFrameMetaData : WriteAckFrameMetaData) : Nat :=
  (ackFrameMetaData.ackDelay % 2 ^ 64).toNat >>> ackFrameMetaData.ackDelayExponent

/-- The time since the start of the connection, in microseconds. -/
def sinceConnTime (ackFrameMetaData : WriteAckFrameMetaData) (info : RecvdPacketInfo) : Nat :=
  if info.timeStamp > ackFrameMetaData.connTime then
    (info.timeStamp - ackFrameMetaData.connTime) / 1000
  else 0

/-- The least size of the three fields that only an ACK_RECEIVE_TIMESTAMPS frame has. -/
def minAdditionalAckReceiveTimestampsFieldsSize (ackFrameMetaData : WriteAckFrameMetaData) :
    AckFrameType → Except WriteFault Nat
  | .ack => .ok 0
  | .ackReceiveTimestamps =>
      match ackFrameMetaData.ackState.lastRecvdPacketInfo with
      | none => .error .emptyOptional
      | some info => .ok ((getQuicIntegerSize 0).getD 0 + (getQuicIntegerSize info.pktNum).getD 0 +
          (getQuicIntegerSize (ackFrameMetaData.sinceConnTime info)).getD 0)

end WriteAckFrameMetaData

def writeAckFrameToPacketBuilder (ackFrameMetaData : WriteAckFrameMetaData) (b : PacketBuilder)
    (frameType : AckFrameType) : Except WriteFault (Option WriteAckFrame × PacketBuilder) :=
  match ackFrameMetaData.ackState.acks.intervals.reverse with
  | [] => return (none, b)
  | largest :: blocks => do
      let largestAckedPacket := largest.endPacket
      let firstAckBlockLength := largestAckedPacket - largest.startPacket
      let spaceLeft := b.remainingBytes.toNat
      let encodedAckDelay := ackFrameMetaData.encodedAckDelay
      let headerSize ← fieldsSize [int frameType.code, int largestAckedPacket, int encodedAckDelay,
        int 0, int firstAckBlockLength]
      let minAdditional ←
        ackFrameMetaData.minAdditionalAckReceiveTimestampsFieldsSize frameType
      if spaceLeft < headerSize + minAdditional then return (none, b)
      else
        let (added, numAdditionalAckBlocks) ← fillFrameWithAckBlocks largest.startPacket 0 0
          (spaceLeft - (headerSize + minAdditional)) blocks
        let written ← writeFields b [int frameType.code, int largestAckedPacket,
          int encodedAckDelay, int numAdditionalAckBlocks, int firstAckBlockLength]
        let written ← writeAckBlocks written largest.startPacket added
        return (some {
          ackBlocks := largest :: added
          ackDelay := ackFrameMetaData.ackDelay
          frameType := frameType
          maybeLatestRecvdPacketTime := none
          maybeLatestRecvdPacketNum := none
          recvdPacketsTimestampRanges := [] }, written)

/-- What is left of a frame after it has been moved into the builder. -/
def WriteAckFrame.moved (frame : WriteAckFrame) : WriteAckFrame :=
  { frame with ackBlocks := [], recvdPacketsTimestampRanges := [] }

/-- The result is made from the frame that has been moved. -/
def writeAckFrame (ackFrameMetaData : WriteAckFrameMetaData) (b : AckBuilder)
    (frameType : AckFrameType) : Except WriteFault (Option WriteAckFrameResult × AckBuilder) := do
  let beginningSpace := b.remainingBytes.toNat
  let (maybeWriteAckFrame, written) ←
    writeAckFrameToPacketBuilder ackFrameMetaData b.toPacketBuilder frameType
  match maybeWriteAckFrame with
  | none => return (none, { b with toPacketBuilder := written })
  | some frame => return (some {
      bytesWritten := beginningSpace - written.remainingBytes.toNat
      writeAckFrame := frame.moved
      ackBlocksWritten := frame.moved.ackBlocks.length
      timestampRangesWritten := 0
      timestampsWritten := 0 }, { b with toPacketBuilder := written }.appendFrame frame)

end MasqueQuic
