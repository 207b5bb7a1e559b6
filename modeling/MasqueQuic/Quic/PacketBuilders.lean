/-
Packet builders (`quic/codec/QuicPacketBuilder.cpp`, and `BufWriter` of `quic/common/BufUtil.cpp`).

`RegularQuicPacketBuilder` keeps the header and the body apart and appends the length and the packet
number to the header at the end. `InplaceQuicPacketBuilder` writes into one buffer that may hold
earlier packets; it leaves room for the length and the packet number and fills it in at the end. Both
count down the space that is left in 32 bits.
-/

import MasqueQuic.Quic.FrameWriting
import MasqueQuic.Quic.PacketHeaders

namespace MasqueQuic

def kMaxPacketLenSize : Nat := 2
def kDefaultUDPSendPacketLen : Nat := 1232

/-- The size of a header protection sample. -/
def sizeofSample : Nat := 16

/-! ### Headers -/

def liftEncoding {α : Type} : Except QuicException α → Except WriteFault α
  | .ok a => .ok a
  | .error e => .error (.exception e)

/-- The last bits of a Retry packet can be anything. -/
def longHeaderInitialByte (type : LongHeaderType) (packetNumberLength : Nat) : UInt8 :=
  let initialByte := kHeaderFormMask ||| kFixedBitMask ||| (type.code <<< LongHeader.kTypeShift)
  if type = .retry then initialByte
  else (initialByte &&& ~~~LongHeader.kReservedBitsMask) ||| UInt8.ofNat (packetNumberLength - 1)

/-- A connection ID behind its length. -/
def BoundedConnectionId.encoded (id : BoundedConnectionId) : Bytes :=
  UInt8.ofNat id.size :: id.bytes

/-- The bytes that the token takes: behind its length in an Initial packet, alone in a Retry
packet. -/
def encodeToken (longHeader : LongHeader) : Except WriteFault Bytes :=
  match longHeader.longHeaderType with
  | .initial =>
      match encodeQuicInteger longHeader.token.length with
      | none => .error (.exception (.transport ("Value too large " ++
          toString longHeader.token.length) .internalError))
      | some lenBytes => .ok (lenBytes ++ longHeader.token)
  | .retry => if longHeader.token.isEmpty then .error .check else .ok longHeader.token
  | _ => .ok []

def tokenHeaderLength (longHeader : LongHeader) : Except WriteFault Nat :=
  match longHeader.longHeaderType with
  | .initial => do
      let size ← (WireField.int longHeader.token.length).getSize
      return size + longHeader.token.length
  | .retry => .ok longHeader.token.length
  | _ => .ok 0

/-- The bytes of a long header up to the length, with the packet number that is to follow and the
space that is left. The space is zero when the header is too long for it. -/
def encodeLongHeaderHelper (longHeader : LongHeader) (spaceCounter : UInt32)
    (largestAckedPacketNum : UInt64) : Except WriteFault (PacketNumEncodingResult × Bytes × UInt32) := do
  let type := longHeader.longHeaderType
  let invariant := longHeader.invariant
  let encodedPacketNum ←
    liftEncoding (encodePacketNumber longHeader.packetSequenceNum largestAckedPacketNum)
  let tokenLength ← tokenHeaderLength longHeader
  let longHeaderSize := 1 + sizeofQuicVersionType + 1 + invariant.srcConnId.size + 1 +
    invariant.dstConnId.size + tokenLength +
      (if type = .retry then 0 else kMaxPacketLenSize + encodedPacketNum.length)
  let tokenBytes ← encodeToken longHeader
  return (encodedPacketNum,
    longHeaderInitialByte type encodedPacketNum.length ::
      (beBytes sizeofQuicVersionType invariant.version.code.toNat ++ (invariant.dstConnId.encoded ++
        (invariant.srcConnId.encoded ++ tokenBytes))),
    if spaceCounter.toNat < longHeaderSize then 0 else spaceCounter - UInt32.ofNat longHeaderSize)

def shortHeaderInitialByte (protectionType : KeyPhase) (packetNumberLength : Nat) : UInt8 :=
  let initialByte :=
    (kFixedBitMask ||| UInt8.ofNat (packetNumberLength - 1)) &&& ~~~ShortHeader.kReservedBitsMask
  match protectionType with
  | .zero => initialByte
  | .one => initialByte ||| ShortHeader.kKeyPhaseMask

/-- The bytes of a short header up to the packet number. There is none when the header is too long. -/
def encodeShortHeaderHelper (shortHeader : ShortHeader) (spaceCounter : UInt32)
    (largestAckedPacketNum : UInt64) :
    Except WriteFault (Option PacketNumEncodingResult × Bytes × UInt32) := do
  let encodedPacketNum ←
    liftEncoding (encodePacketNumber shortHeader.packetSequenceNum largestAckedPacketNum)
  let id := shortHeader.connectionId
  if spaceCounter.toNat < 1 + encodedPacketNum.length + id.size then return (none, [], 0)
  else return (some encodedPacketNum,
    shortHeaderInitialByte shortHeader.protectionType encodedPacketNum.length :: id.bytes,
    spaceCounter - 1 - UInt32.ofNat id.size)

/-! ### Writes -/

/-- A call of the write codec. `bytes` stands for `writeBE`, `write`, `push` and `insert` of a whole
buffer; `appendFrame` also for `appendPaddingFrame` and `markNonEmpty`. -/
inductive BuilderWrite where
  | bytes (data : Bytes)
  | insert (buf : BufQueue) (limit : Nat)
  | appendFrame

/-- What the write codec makes sure of before it writes. -/
def BuilderWrite.Accepted (remaining : Nat) : BuilderWrite → Prop
  | .bytes data => data.length ≤ remaining
  | .insert buf limit => limit ≤ remaining ∧ limit ≤ buf.chainLength ∧ buf.chain_.isSome = true
  | .appendFrame => True

/-- A packet that has been built. -/
structure BuiltPacket where
  header : Bytes
  body : Bytes
  isEmpty : Bool
  deriving DecidableEq

/-! ### The regular builder -/

structure RegularQuicPacketBuilder extends PacketBuilder where
  cipherOverhead : UInt8
  largestAckedPacketNum : UInt64
  packetHeader : PacketHeader
  header : Bytes
  packetNumberEncoding : Option PacketNumEncodingResult

/-- The loop that adds padding until the body is long enough for the sample, for `n` bytes at most.
The space that the length takes is kept, although it is accounted for. -/
def PacketBuilder.padBody : Nat → PacketBuilder → PacketBuilder
  | 0, b => b
  | n + 1, b =>
      if !b.isEmpty && decide (b.remainingBytes.toNat > kMaxPacketLenSize) then padBody n (b.push [0])
      else b

/-- The body has this many bytes at least, the overhead included. -/
def minBodySize (encoding : PacketNumEncodingResult) : Nat :=
  kMaxPacketNumEncodingSize - encoding.length + sizeofSample

namespace RegularQuicPacketBuilder

def new (remainingBytes : UInt32) (packetHeader : PacketHeader) (largestAckedPacketNum : UInt64) :
    RegularQuicPacketBuilder where
  remainingBytes := remainingBytes
  body := []
  frames := []
  isEmpty := true
  cipherOverhead := 0
  largestAckedPacketNum := largestAckedPacketNum
  packetHeader := packetHeader
  header := []
  packetNumberEncoding := none

def remainingSpaceInPkt (b : RegularQuicPacketBuilder) : UInt32 := b.remainingBytes

def accountForCipherOverhead (b : RegularQuicPacketBuilder) (overhead : UInt8) :
    RegularQuicPacketBuilder :=
  { b with
    cipherOverhead := overhead
    remainingBytes := b.remainingBytes - UInt32.ofNat overhead.toNat }

def encodePacketHeader (b : RegularQuicPacketBuilder) : Except WriteFault RegularQuicPacketBuilder :=
  if b.packetNumberEncoding.isSome then .error .check
  else
    match b.packetHeader with
    | .long header => do
        let (encoding, bytes, space) ←
          encodeLongHeaderHelper header b.remainingBytes b.largestAckedPacketNum
        return { b with
          packetNumberEncoding := some encoding
          header := b.header ++ bytes
          remainingBytes := space }
    | .short header => do
        let (encoding, bytes, space) ←
          encodeShortHeaderHelper header b.remainingBytes b.largestAckedPacketNum
        match encoding with
        | none => return { b with remainingBytes := space }
        | some encoding => return { b with
            packetNumberEncoding := some encoding
            header := b.header ++ bytes ++ beBytes encoding.length encoding.result
            remainingBytes := space - UInt32.ofNat encoding.length }

def write (b : RegularQuicPacketBuilder) : BuilderWrite → Except WriteFault RegularQuicPacketBuilder
  | .bytes data => .ok { b with toPacketBuilder := b.push data }
  | .insert buf limit =>
      if buf.chain_.isNone then .error .nullCursor
      else if buf.chainLength < limit then .error (.exception .underflow)
      else .ok { b with toPacketBuilder := b.push (buf.bytes.take limit) }
  | .appendFrame => .ok { b with isEmpty := false }

def buildPacket (b : RegularQuicPacketBuilder) : Except WriteFault BuiltPacket :=
  match b.packetNumberEncoding with
  | none => .error .check
  | some encoding =>
      let padded := b.toPacketBuilder.padBody
        (minBodySize encoding - (b.body.length + b.cipherOverhead.toNat))
      match b.packetHeader with
      | .short _ => .ok ⟨b.header, padded.body, b.isEmpty⟩
      | .long header =>
          if header.longHeaderType = .retry then .ok ⟨b.header, padded.body, b.isEmpty⟩
          else
            let pktLen := encoding.length + padded.body.length + b.cipherOverhead.toNat
            match encodeQuicInteger pktLen with
            | none => .error (.exception (.transport ("Value too large " ++ toString pktLen)
                .internalError))
            | some lenBytes => .ok ⟨b.header ++ lenBytes ++
                beBytes encoding.length encoding.result, padded.body, b.isEmpty⟩

/-- A builder that is ready for frames. -/
def start (limit : UInt32) (packetHeader : PacketHeader) (largestAckedPacketNum : UInt64)
    (overhead : UInt8) : Except WriteFault RegularQuicPacketBuilder :=
  ((new limit packetHeader largestAckedPacketNum).accountForCipherOverhead overhead).encodePacketHeader

def build (limit : UInt32) (packetHeader : PacketHeader) (largestAckedPacketNum : UInt64)
    (overhead : UInt8) (writes : List BuilderWrite) : Except WriteFault BuiltPacket := do
  let started ← start limit packetHeader largestAckedPacketNum overhead
  let written ← writes.foldlM write started
  written.buildPacket

end RegularQuicPacketBuilder

/-! ### The builder that writes in place -/

/-- `BufWriter`: no more than `most` bytes are to be written, which debug builds check; `appendCount`
bytes can be filled in later. -/
structure BufWriter where
  iobuf : Bytes
  most : Nat
  written : Nat
  appendCount : Nat

namespace BufWriter

/-- The size is checked before the bytes are pushed. -/
def push (w : BufWriter) (data : Bytes) : Except WriteFault BufWriter :=
  if w.written + data.length ≤ w.most then
    .ok { w with iobuf := w.iobuf ++ data, written := w.written + data.length }
  else .error .check

def append (w : BufWriter) (placeholder : Bytes) : BufWriter :=
  { w with
    iobuf := w.iobuf ++ placeholder
    written := w.written + placeholder.length
    appendCount := w.appendCount + placeholder.length }

def backFill (w : BufWriter) (data : Bytes) (destOffset : Nat) : Except WriteFault BufWriter :=
  if w.appendCount < data.length ∨ w.iobuf.length < destOffset + data.length then .error .check
  else .ok { w with
    appendCount := w.appendCount - data.length
    iobuf := w.iobuf.take destOffset ++ data ++ w.iobuf.drop (destOffset + data.length) }

end BufWriter

/-- `remainingBytes` is counted apart from what the writer counts. -/
structure InplaceQuicPacketBuilder where
  bufWriter : BufWriter
  remainingBytes : UInt32
  isEmpty : Bool
  cipherOverhead : UInt8
  largestAckedPacketNum : UInt64
  packetHeader : PacketHeader
  packetNumberEncoding : Option PacketNumEncodingResult
  headerStart : Nat
  bodyStart : Option Nat
  packetLenOffset : Nat
  packetNumOffset : Nat

namespace InplaceQuicPacketBuilder

/-- `before` is what the buffer holds already. -/
def new (before : Bytes) (remainingBytes : UInt32) (packetHeader : PacketHeader)
    (largestAckedPacketNum : UInt64) : InplaceQuicPacketBuilder where
  bufWriter := ⟨before, remainingBytes.toNat, 0, 0⟩
  remainingBytes := remainingBytes
  isEmpty := true
  cipherOverhead := 0
  largestAckedPacketNum := largestAckedPacketNum
  packetHeader := packetHeader
  packetNumberEncoding := none
  headerStart := before.length
  bodyStart := none
  packetLenOffset := 0
  packetNumOffset := 0

def remainingSpaceInPkt (b : InplaceQuicPacketBuilder) : UInt32 := b.remainingBytes

def accountForCipherOverhead (b : InplaceQuicPacketBuilder) (overhead : UInt8) :
    InplaceQuicPacketBuilder :=
  { b with
    cipherOverhead := overhead
    remainingBytes := b.remainingBytes - UInt32.ofNat overhead.toNat }

/-- What the room is filled with until the length and the packet number are known. -/
def placeholder (encoding : PacketNumEncodingResult) : Bytes :=
  List.replicate (encoding.length + kMaxPacketLenSize) 0

def encodePacketHeader (b : InplaceQuicPacketBuilder) : Except WriteFault InplaceQuicPacketBuilder :=
  if b.packetNumberEncoding.isSome then .error .check
  else
    match b.packetHeader with
    | .long header => do
        let (encoding, bytes, space) ←
          encodeLongHeaderHelper header b.remainingBytes b.largestAckedPacketNum
        let writer ← b.bufWriter.push bytes
        let filled :=
          if header.longHeaderType = .retry then writer else writer.append (placeholder encoding)
        return { b with
          bufWriter := filled
          packetNumberEncoding := some encoding
          packetLenOffset := writer.iobuf.length
          packetNumOffset := writer.iobuf.length + kMaxPacketLenSize
          bodyStart := some filled.iobuf.length
          remainingBytes := space }
    | .short header => do
        let (encoding, bytes, space) ←
          encodeShortHeaderHelper header b.remainingBytes b.largestAckedPacketNum
        let writer ← b.bufWriter.push bytes
        match encoding with
        | none => return { b with
            bufWriter := writer, bodyStart := some writer.iobuf.length, remainingBytes := space }
        | some encoding => do
            let writer ← writer.push (beBytes encoding.length encoding.result)
            return { b with
              bufWriter := writer
              packetNumberEncoding := some encoding
              bodyStart := some writer.iobuf.length
              remainingBytes := space - UInt32.ofNat encoding.length }

/-- The bytes are copied and then counted. -/
def push (b : InplaceQuicPacketBuilder) (data : Bytes) (counted : Nat) :
    Except WriteFault InplaceQuicPacketBuilder := do
  let writer ← b.bufWriter.push data
  return { b with
    bufWriter := writer
    remainingBytes := b.remainingBytes - UInt32.ofNat counted }

def write (b : InplaceQuicPacketBuilder) : BuilderWrite → Except WriteFault InplaceQuicPacketBuilder
  | .bytes data => b.push data data.length
  | .insert buf limit =>
      if buf.chain_.isNone then .error .nullCursor
      else if b.bufWriter.written + limit > b.bufWriter.most then .error .check
      else b.push (buf.bytes.take limit) limit
  | .appendFrame => .ok { b with isEmpty := false }

/-- The same loop as that of the regular builder. -/
def padBody : Nat → InplaceQuicPacketBuilder → Except WriteFault InplaceQuicPacketBuilder
  | 0, b => .ok b
  | n + 1, b =>
      if !b.isEmpty && decide (b.remainingBytes.toNat > kMaxPacketLenSize) then do
        let b ← b.push [0] 1
        padBody n b
      else .ok b

/-- The length is written in two bytes, and has to fit in them. -/
def encodePacketLength (pktLen : Nat) : Except WriteFault Bytes :=
  if pktLen ≤ kTwoByteLimit then .ok (beBytes 2 (pktLen ||| 0x4000)) else .error .check

def buildPacket (b : InplaceQuicPacketBuilder) : Except WriteFault BuiltPacket :=
  match b.packetNumberEncoding, b.bodyStart with
  | some encoding, some bodyStart => do
      let bodyLength := b.bufWriter.iobuf.length - bodyStart
      let b ← b.padBody (minBodySize encoding - (bodyLength + b.cipherOverhead.toNat))
      let fillsIn : Bool := match b.packetHeader with
        | .short _ => false
        | .long header => decide (header.longHeaderType ≠ .retry)
      let writer ← (if fillsIn then do
          let pktLen := encoding.length + (b.bufWriter.iobuf.length - bodyStart) +
            b.cipherOverhead.toNat
          let lenBytes ← encodePacketLength pktLen
          let writer ← b.bufWriter.backFill lenBytes b.packetLenOffset
          writer.backFill (beBytes encoding.length encoding.result) b.packetNumOffset
        else pure b.bufWriter)
      return ⟨(writer.iobuf.take bodyStart).drop b.headerStart, writer.iobuf.drop bodyStart,
        b.isEmpty⟩
  | _, _ => .error .check

/-- A builder that is ready for frames. -/
def start (before : Bytes) (limit : UInt32) (packetHeader : PacketHeader)
    (largestAckedPacketNum : UInt64) (overhead : UInt8) : Except WriteFault InplaceQuicPacketBuilder :=
  ((new before limit packetHeader largestAckedPacketNum).accountForCipherOverhead
    overhead).encodePacketHeader

def build (before : Bytes) (limit : UInt32) (packetHeader : PacketHeader)
    (largestAckedPacketNum : UInt64) (overhead : UInt8) (writes : List BuilderWrite) :
    Except WriteFault BuiltPacket := do
  let started ← start before limit packetHeader largestAckedPacketNum overhead
  let written ← writes.foldlM write started
  written.buildPacket

end InplaceQuicPacketBuilder

/-! ### Version Negotiation and Retry packets -/

/-- The versions that are written while there is space for them. -/
def writtenVersions : Nat → List QuicVersion → List QuicVersion
  | _, [] => []
  | remaining, version :: versions =>
      if remaining < sizeofQuicVersionType then []
      else version :: writtenVersions (remaining - sizeofQuicVersionType) versions

def encodeVersions (versions : List QuicVersion) : Bytes :=
  versions.flatMap fun version => beBytes sizeofQuicVersionType version.code.toNat

/-- `VersionNegotiationPacketBuilder`: the packet type is not random for now. -/
def buildVersionNegotiationPacket (sourceConnectionId destinationConnectionId : BoundedConnectionId)
    (versions : List QuicVersion) : VersionNegotiationPacket × Bytes :=
  let headerSize := 1 + sizeofQuicVersionType + 1 + destinationConnectionId.size + 1 +
    sourceConnectionId.size
  let written := writtenVersions (kDefaultUDPSendPacketLen - headerSize) versions
  (⟨kHeaderFormMask, sourceConnectionId, destinationConnectionId, written⟩,
    kHeaderFormMask :: (beBytes sizeofQuicVersionType QuicVersion.versionNegotiation.code.toNat ++
      (destinationConnectionId.encoded ++ (sourceConnectionId.encoded ++ encodeVersions written))))

/-- `RetryPacketBuilder`: the packet and the space that is left; the tag is left out if it does not
fit. -/
def writeRetryPacket (sourceConnectionId destinationConnectionId : BoundedConnectionId)
    (quicVersion : QuicVersion) (retryToken integrityTag : Bytes) :
    Except WriteFault (Bytes × UInt32) := do
  let (_, bytes, space) ← encodeLongHeaderHelper
    ⟨0, .retry, ⟨quicVersion, sourceConnectionId, destinationConnectionId⟩, retryToken⟩
    (UInt32.ofNat kDefaultUDPSendPacketLen) 0
  if space.toNat ≤ kRetryIntegrityTagLen then return (bytes, 0)
  else return (bytes ++ integrityTag, space - UInt32.ofNat kRetryIntegrityTagLen)

/-- A packet is sent if `canBuildPacket` says so. -/
def buildRetryPacket (sourceConnectionId destinationConnectionId : BoundedConnectionId)
    (quicVersion : QuicVersion) (retryToken integrityTag : Bytes) : Except WriteFault (Option Bytes) := do
  let (bytes, space) ← writeRetryPacket sourceConnectionId destinationConnectionId quicVersion
    retryToken integrityTag
  return if space = 0 then none else some bytes

end MasqueQuic
