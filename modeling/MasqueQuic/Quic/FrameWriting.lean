/-
Writing control frames (`writeSimpleFrame`, `writeFrame` and `writeCryptoFrame` of
`quic/codec/QuicWriteCodec.cpp`).

A control frame is a list of fields behind its type. The size is added up first, and the fields are
written only if all of them fit. A field is declared with a size and holds bytes: the two differ for
the blob of a KNOB frame, for which `KnobFrame::len` is the length of the first buffer of the blob
while the whole chain is inserted.
-/

import MasqueQuic.Quic.StreamFrameCodec

namespace MasqueQuic

/-! ### Frames -/

/-- The frames that `writeFrame` takes. The blob of a `QuicSimpleFrame.knob` is one buffer; `knob` is
a KNOB frame with any chain. -/
inductive ControlFrame where
  | padding
  | rstStream (frame : RstStreamFrame)
  | maxData (maximumData : Nat)
  | maxStreamData (streamId maximumData : Nat)
  | dataBlocked (dataLimit : Nat)
  | streamDataBlocked (streamId dataLimit : Nat)
  | streamsBlocked (streamLimit : Nat) (isForBidirectionalStream : Bool)
  | connectionClose (errorCode : QuicErrorCode) (reasonPhrase : Bytes)
      (closingFrameType : Nat)
  | ping
  | simple (frame : QuicSimpleFrame)
  | knob (knobSpace id : Nat) (blob : IOBuf)
  | datagram (length : Nat) (data : BufQueue)
  | immediateAck

/-- How a write is left. -/
inductive WriteFault where
  | exception (e : QuicException)
  | check       -- `CHECK(builder.getPacketHeader().asShort())`
  | nullCursor  -- bytes are cloned from a queue without a buffer
  | emptyOptional  -- `folly::Optional::value` on `none`
  deriving DecidableEq

/-- A builder together with the form of its header, and the frames it holds besides the STREAM
frames. -/
structure ControlBuilder extends PacketBuilder where
  shortHeader : Bool
  controlFrames : List ControlFrame
  cryptoFrames : List (Nat × Nat)

/-! ### Fields -/

inductive WireField where
  | int (value : Nat)
  | bytes (declared : Nat) (data : Bytes)

namespace WireField

def getSize : WireField → Except WriteFault Nat
  | .int value =>
      match integerSize value with
      | .ok size => .ok size
      | .error e => .error (.exception e)
  | .bytes declared _ => .ok declared

def write (b : PacketBuilder) : WireField → Except WriteFault PacketBuilder
  | .int value =>
      match b.write value with
      | .ok b => .ok b
      | .error e => .error (.exception e)
  | .bytes _ data => .ok (b.push data)

/-- A big-endian number of a fixed width. -/
def fixed (width value : Nat) : WireField := .bytes width (beBytes width value)

end WireField

def fieldsSize : List WireField → Except WriteFault Nat
  | [] => .ok 0
  | field :: fields => do
      let size ← field.getSize
      let rest ← fieldsSize fields
      return size + rest

def writeFields (b : PacketBuilder) (fields : List WireField) : Except WriteFault PacketBuilder :=
  fields.foldlM WireField.write b

namespace ControlBuilder

def appendFrame (b : ControlBuilder) (frame : ControlFrame) : ControlBuilder :=
  { b with isEmpty := false, controlFrames := b.controlFrames ++ [frame] }

/-- Padding frames are not counted here: their number is not used. -/
def appendPaddingFrame (b : ControlBuilder) : ControlBuilder := b.appendFrame .padding

def packetSpaceCheck (limit require : Nat) : Bool := decide (require ≤ limit)

/-- A frame is written if all its fields fit. -/
def writeFrameFields (b : ControlBuilder) (frame : ControlFrame) (fields : List WireField) :
    Except WriteFault (Nat × ControlBuilder) := do
  let size ← fieldsSize fields
  if packetSpaceCheck b.remainingBytes.toNat size then
    let written ← writeFields b.toPacketBuilder fields
    return (size, { b with toPacketBuilder := written }.appendFrame frame)
  else return (0, b)

end ControlBuilder

open WireField (int bytes fixed)

/-! ### Layouts -/

def knobFields (knobSpace id : Nat) (blob : IOBuf) : List WireField :=
  [int 0x1550, int knobSpace, int id, int blob.length, bytes blob.length blob.bytes]

def simpleFrameFields : QuicSimpleFrame → List WireField
  | .stopSending streamId errorCode => [int 0x05, int streamId, int errorCode]
  | .pathChallenge pathData => [int 0x1a, fixed sizeofUint64 pathData]
  | .pathResponse pathData => [int 0x1b, fixed sizeofUint64 pathData]
  | .newConnectionId frame =>
      [int 0x18, int frame.sequenceNumber, int frame.retirePriorTo,
        fixed 1 frame.connectionId.length, bytes frame.connectionId.length frame.connectionId,
        bytes frame.token.length frame.token]
  | .maxStreams maxStreams isForBidirectionalStream =>
      [int (if isForBidirectionalStream then 0x12 else 0x13), int maxStreams]
  | .retireConnectionId sequenceNumber => [int 0x19, int sequenceNumber]
  | .handshakeDone => [int 0x1e]
  | .knob frame => knobFields frame.knobSpace frame.id (.wrapBuffer frame.blob)
  | .ackFrequency sequenceNumber packetTolerance updateMaxAckDelay reorderThreshold =>
      [int 0xaf, int sequenceNumber, int packetTolerance, int updateMaxAckDelay,
        int reorderThreshold]
  | .newToken token => [int 0x07, int token.length, bytes token.length token]

def writeSimpleFrame (frame : QuicSimpleFrame) (b : ControlBuilder) :
    Except WriteFault (Nat × ControlBuilder) :=
  match frame with
  | .handshakeDone =>
      if b.shortHeader then b.writeFrameFields (.simple frame) (simpleFrameFields frame)
      else .error .check
  | _ => b.writeFrameFields (.simple frame) (simpleFrameFields frame)

def connectionCloseFields (errorCode : QuicErrorCode) (reasonPhrase : Bytes)
    (closingFrameType : Nat) : List WireField :=
  match errorCode with
  | .transport code =>
      [int 0x1c, int code, int closingFrameType, int reasonPhrase.length,
        bytes reasonPhrase.length reasonPhrase]
  | .application code =>
      [int 0x1d, int code, int reasonPhrase.length, bytes reasonPhrase.length reasonPhrase]

def writeFrame (frame : ControlFrame) (b : ControlBuilder) :
    Except WriteFault (Nat × ControlBuilder) :=
  match frame with
  | .padding =>
      if ControlBuilder.packetSpaceCheck b.remainingBytes.toNat 1 then do
        let written ← writeFields b.toPacketBuilder [int 0x00]
        return (1, { b with toPacketBuilder := written }.appendPaddingFrame)
      else return (0, b)
  | .rstStream rst =>
      b.writeFrameFields frame [int 0x04, int rst.streamId, int rst.errorCode, int rst.offset]
  | .maxData maximumData => b.writeFrameFields frame [int 0x10, int maximumData]
  | .maxStreamData streamId maximumData =>
      b.writeFrameFields frame [int 0x11, int streamId, int maximumData]
  | .dataBlocked dataLimit => b.writeFrameFields frame [int 0x14, int dataLimit]
  | .streamDataBlocked streamId dataLimit =>
      b.writeFrameFields frame [int 0x15, int streamId, int dataLimit]
  | .streamsBlocked streamLimit isForBidirectionalStream =>
      b.writeFrameFields frame [int (if isForBidirectionalStream then 0x16 else 0x17),
        int streamLimit]
  | .connectionClose errorCode reasonPhrase closingFrameType =>
      b.writeFrameFields frame (connectionCloseFields errorCode reasonPhrase closingFrameType)
  | .ping => b.writeFrameFields frame [int 0x01]
  | .simple simpleFrame => writeSimpleFrame simpleFrame b
  | .knob knobSpace id blob => b.writeFrameFields frame (knobFields knobSpace id blob)
  | .datagram length data => do
      let size ← fieldsSize [int 0x31, int length, bytes length []]
      if ControlBuilder.packetSpaceCheck b.remainingBytes.toNat size ∧ data.chain_.isNone then
        .error .nullCursor
      else b.writeFrameFields frame [int 0x31, int length, bytes length (data.bytes.take length)]
  | .immediateAck => b.writeFrameFields frame [int 0xac]

/-- The length takes two bytes at most; the result is the offset and the length. -/
def writeCryptoFrame (offsetIn : Nat) (data : BufQueue) (b : ControlBuilder) :
    Except WriteFault (Option (Nat × Nat) × ControlBuilder) := do
  let lengthBytes := 2
  let headerSize ← fieldsSize [int 0x06, int offsetIn]
  let cryptoFrameHeaderSize := headerSize + lengthBytes
  if b.remainingBytes.toNat ≤ cryptoFrameHeaderSize then return (none, b)
  else
    let spaceRemaining := b.remainingBytes.toNat - cryptoFrameHeaderSize
    let writableData := min data.chainLength spaceRemaining
    let lengthSize ← (int writableData).getSize
    if lengthSize > lengthBytes then
      .error (.exception (.internal "Length bytes representation"))
    else if data.chain_.isNone then .error .nullCursor
    else
      let written ← writeFields b.toPacketBuilder [int 0x06, int offsetIn, int writableData,
        bytes writableData (data.bytes.take writableData)]
      return (some (offsetIn, writableData), { b with
        toPacketBuilder := { written with isEmpty := false }
        cryptoFrames := b.cryptoFrames ++ [(offsetIn, writableData)] })

end MasqueQuic
