/-
Packet headers (`quic/codec/Types.h`, the packet number codec of `quic/codec/PacketNumber.cpp`, and the
header parsers of `quic/codec/Decode.cpp`).

A long header starts with fields that do not depend on the version, the invariant; the rest depends on
the type of the packet. The parsers leave the cursor at the packet number, which is protected and is
read later.
-/

import MasqueQuic.Quic.Decode

namespace MasqueQuic

/-! ### Headers -/

/-- A version number; the enumeration only names some of them. -/
structure QuicVersion where
  code : UInt32
  deriving DecidableEq

namespace QuicVersion

def versionNegotiation : QuicVersion := ⟨0x00000000⟩
def mvfst : QuicVersion := ⟨0xfaceb002⟩
def quicDraft : QuicVersion := ⟨0xff00001d⟩
def quicV1 : QuicVersion := ⟨0x00000001⟩
def quicV1Alias : QuicVersion := ⟨0xfaceb003⟩

end QuicVersion

/-- A connection ID in a packet header. -/
structure BoundedConnectionId where
  bytes : ConnectionId
  size_le : bytes.length ≤ kMaxConnectionIdSize
  deriving DecidableEq

def BoundedConnectionId.size (id : BoundedConnectionId) : Nat := id.bytes.length

inductive LongHeaderType where
  | initial
  | zeroRtt
  | handshake
  | retry
  deriving DecidableEq

def LongHeaderType.code : LongHeaderType → UInt8
  | .initial => 0x0
  | .zeroRtt => 0x1
  | .handshake => 0x2
  | .retry => 0x3

structure LongHeaderInvariant where
  version : QuicVersion
  srcConnId : BoundedConnectionId
  dstConnId : BoundedConnectionId
  deriving DecidableEq

structure LongHeader where
  packetSequenceNum : UInt64
  longHeaderType : LongHeaderType
  invariant : LongHeaderInvariant
  token : Bytes
  deriving DecidableEq

/-- The protection types that a short header can have. -/
inductive KeyPhase where
  | zero
  | one
  deriving DecidableEq

structure ShortHeader where
  packetSequenceNum : UInt64
  protectionType : KeyPhase
  connectionId : BoundedConnectionId
  deriving DecidableEq

inductive PacketHeader where
  | long (header : LongHeader)
  | short (header : ShortHeader)
  deriving DecidableEq

inductive HeaderForm where
  | long
  | short
  deriving DecidableEq

def kHeaderFormMask : UInt8 := 0x80
def kFixedBitMask : UInt8 := 0x40
def kPacketNumLenMask : UInt8 := 0x03
def kMaxPacketNumEncodingSize : Nat := 4
def kMinInitialDestinationConnIdLength : Nat := 8
def kRetryIntegrityTagLen : Nat := 16

namespace LongHeader

def kPacketTypeMask : UInt8 := 0x30
def kReservedBitsMask : UInt8 := 0x0c
def kTypeShift : UInt8 := 4

end LongHeader

namespace ShortHeader

def kReservedBitsMask : UInt8 := 0x18
def kKeyPhaseMask : UInt8 := 0x04

end ShortHeader

def getHeaderForm (initialByte : UInt8) : HeaderForm :=
  if initialByte &&& kHeaderFormMask ≠ 0 then .long else .short

/-! ### Packet numbers -/

structure PacketNumEncodingResult where
  result : Nat
  length : Nat
  deriving DecidableEq

/-- The number of the highest bit that is set, counted from one. -/
def findLastSet (x : UInt64) : Nat := if x = 0 then 0 else Nat.log2 x.toNat + 1

def encodePacketNumber (packetNum largestAckedPacketNum : UInt64) :
    Except QuicException PacketNumEncodingResult :=
  let twiceDistance := (packetNum - largestAckedPacketNum) * 2
  let lengthInBits := findLastSet twiceDistance
  let lengthInBytes := if lengthInBits = 0 then 1 else (lengthInBits + 7) >>> 3
  if lengthInBytes > 4 then
    .error (.internal ("Impossible to encode PacketNum=" ++ toString packetNum ++
      ", largestAcked=" ++ toString largestAckedPacketNum))
  else .ok ⟨packetNum.toNat &&& (2 ^ (8 * lengthInBytes) - 1), lengthInBytes⟩

/-! ### Parsing -/

/-- A parser of headers ends with the code of `folly::makeUnexpected`. -/
abbrev HeaderReader := Reader TransportErrorCode UInt8

namespace HeaderReader

/-- The test before bytes are read. -/
def canAdvance (n : Nat) : HeaderReader Unit := fun s =>
  if n ≤ s.length then .ok ((), s) else .error .frameEncodingError

/-- The bytes are there, since they have been tested for. -/
def pull (n : Nat) : HeaderReader { xs : Bytes // xs.length = n } :=
  Reader.take .frameEncodingError n

def readBE (n : Nat) : HeaderReader Nat := do
  let bytes ← pull n
  return beNat bytes.val

def readConnectionId (connIdLen : Nat) : HeaderReader BoundedConnectionId :=
  if h : connIdLen > kMaxConnectionIdSize then fun _ => .error .protocolViolation
  else do
    canAdvance connIdLen
    let bytes ← pull connIdLen
    return ⟨bytes.val, bytes.property.le.trans (Nat.le_of_not_lt h)⟩

/-- `decodeQuicInteger(cursor)`: the value and the number of bytes it takes. -/
def integer : HeaderReader (Nat × Nat) := fun s =>
  match decodeQuicInteger s sizeofUint64 with
  | none => .error .frameEncodingError
  | some (value, width) => .ok ((value, width), s.drop width)

def totalLength : HeaderReader Nat := fun s => .ok (s.length, s)

end HeaderReader

open HeaderReader

def sizeofQuicVersionType : Nat := 4

structure ParsedLongHeaderInvariant where
  initialByte : UInt8
  invariant : LongHeaderInvariant

/-- `PacketLength`: the length, and the number of bytes of its field. -/
structure PacketLength where
  packetLength : Nat
  lengthLength : Nat
  deriving DecidableEq

structure ParsedLongHeader where
  header : LongHeader
  packetLength : PacketLength
  deriving DecidableEq

inductive ParsedLongHeaderResult where
  | versionNegotiation
  | parsed (parsedLongHeader : ParsedLongHeader)
  deriving DecidableEq

structure VersionNegotiationPacket where
  packetType : UInt8
  sourceConnectionId : BoundedConnectionId
  destinationConnectionId : BoundedConnectionId
  versions : List QuicVersion
  deriving DecidableEq

def parseLongHeaderInvariant (initialByte : UInt8) : HeaderReader ParsedLongHeaderInvariant := do
  canAdvance sizeofQuicVersionType
  let version ← readBE sizeofQuicVersionType
  canAdvance 1
  let destConnIdLen ← readBE 1
  let destConnId ← readConnectionId destConnIdLen
  canAdvance 1
  let srcConnIdLen ← readBE 1
  let srcConnId ← readConnectionId srcConnIdLen
  return ⟨initialByte, ⟨⟨UInt32.ofNat version⟩, srcConnId, destConnId⟩⟩

/-- Every value of the two bits is a type. -/
def parseLongHeaderType (initialByte : UInt8) : LongHeaderType :=
  let type := (initialByte &&& LongHeader.kPacketTypeMask) >>> LongHeader.kTypeShift
  if type = LongHeaderType.initial.code then .initial
  else if type = LongHeaderType.zeroRtt.code then .zeroRtt
  else if type = LongHeaderType.handshake.code then .handshake
  else .retry

def parsePacketNumberLength (initialByte : UInt8) : Nat :=
  (initialByte &&& kPacketNumLenMask).toNat + 1

/-- The token of an Initial packet. -/
def parseInitialToken : HeaderReader Bytes := do
  let tokenLen ← integer
  canAdvance tokenLen.1
  let token ← pull tokenLen.1
  return token.val

/-- The rest of the packet has to be there, and bytes for the packet number as the first byte says,
which may still be protected. -/
def parsePacketLength (initialByte : UInt8) : HeaderReader PacketLength := do
  let pktLen ← integer
  canAdvance pktLen.1
  canAdvance (parsePacketNumberLength initialByte)
  if parsePacketNumberLength initialByte > kMaxPacketNumEncodingSize then
    fun _ => .error .frameEncodingError
  else return ⟨pktLen.1, pktLen.2⟩

def parseLongHeaderVariants (type : LongHeaderType) (parsed : ParsedLongHeaderInvariant)
    (nodeType : QuicNodeType) : HeaderReader ParsedLongHeader :=
  match type with
  | .retry => do
      let length ← totalLength
      if length ≤ kRetryIntegrityTagLen then fun _ => .error .frameEncodingError
      else do
        let token ← pull (length - kRetryIntegrityTagLen)
        return ⟨⟨0, type, parsed.invariant, token.val⟩, ⟨0, 0⟩⟩
  | _ =>
      if type = .initial ∧ nodeType = .server ∧
          parsed.invariant.dstConnId.size < kMinInitialDestinationConnIdLength then
        fun _ => .error .frameEncodingError
      else do
        let token ← (if type = .initial then parseInitialToken else pure [])
        let packetLength ← parsePacketLength parsed.initialByte
        return ⟨⟨0, type, parsed.invariant, token⟩, packetLength⟩

/-- The error of the invariant fields is replaced. The default for `nodeType` is the server. -/
def parseLongHeader (initialByte : UInt8) : HeaderReader ParsedLongHeaderResult := fun s =>
  if getHeaderForm initialByte ≠ .long then .error .frameEncodingError
  else
    match (parseLongHeaderInvariant initialByte).run s with
    | .error _ => .error .frameEncodingError
    | .ok (parsed, rest) =>
        if parsed.invariant.version = .versionNegotiation then .ok (.versionNegotiation, rest)
        else
          match (parseLongHeaderVariants (parseLongHeaderType initialByte) parsed .server).run rest with
          | .error e => .error e
          | .ok (header, rest) => .ok (.parsed header, rest)

/-- The versions to the end of the packet; there is at least one. -/
def decodeVersions : Bytes → List QuicVersion
  | b₁ :: b₂ :: b₃ :: b₄ :: rest =>
      ⟨UInt32.ofNat (beNat [b₁, b₂, b₃, b₄])⟩ :: decodeVersions rest
  | _ => []

def decodeVersionNegotiation (parsed : ParsedLongHeaderInvariant) (cursor : Bytes) :
    Option VersionNegotiationPacket :=
  if cursor.length < sizeofQuicVersionType ∨ cursor.length % sizeofQuicVersionType ≠ 0 then none
  else some ⟨parsed.initialByte, parsed.invariant.srcConnId, parsed.invariant.dstConnId,
    decodeVersions cursor⟩

/-- `QuicReadCodec::tryParsingVersionNegotiation`. -/
def tryParsingVersionNegotiation : Bytes → Option VersionNegotiationPacket
  | [] => none
  | initialByte :: rest =>
      if getHeaderForm initialByte ≠ .long then none
      else
        match (parseLongHeaderInvariant initialByte).run rest with
        | .error _ => none
        | .ok (parsed, cursor) =>
            if parsed.invariant.version ≠ .versionNegotiation then none
            else decodeVersionNegotiation parsed cursor

def parseShortHeaderInvariants (initialByte : UInt8) (dstConnIdSize : Nat) :
    HeaderReader BoundedConnectionId :=
  if getHeaderForm initialByte ≠ .short then fun _ => .error .frameEncodingError
  else readConnectionId dstConnIdSize

def parseShortHeader (initialByte : UInt8) (dstConnIdSize : Nat) : HeaderReader ShortHeader := fun s =>
  if getHeaderForm initialByte ≠ .short then .error .frameEncodingError
  else if initialByte &&& kFixedBitMask = 0 then .error .frameEncodingError
  else if initialByte &&& ShortHeader.kReservedBitsMask ≠ 0 then .error .protocolViolation
  else
    match (parseShortHeaderInvariants initialByte dstConnIdSize).run s with
    | .error _ => .error .frameEncodingError
    | .ok (connectionId, rest) =>
        .ok (⟨0, if initialByte &&& ShortHeader.kKeyPhaseMask ≠ 0 then .one else .zero,
          connectionId⟩, rest)

end MasqueQuic
