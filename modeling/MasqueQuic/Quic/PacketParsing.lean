/-
Packets of a datagram (`quic/codec/QuicReadCodec.cpp`; packet numbers in `quic/codec/PacketNumber.cpp`
and `Decode.cpp`, header protection in `quic/codec/PacketNumberCipher.cpp`).

A datagram holds one packet or several. `parsePacket` takes one packet off the queue. The length in a
long header says where the next packet starts; everything else takes the whole queue. Ciphers are
functions: the mask of a header cipher is arbitrary, and so is what a key opens.
-/

import MasqueQuic.Quic.PacketBuilders

namespace MasqueQuic

/-! ### Packet numbers -/

def decodePacketNumber (encodedPacketNum : UInt64) (packetNumBytes : Nat)
    (expectedNextPacketNum : UInt64) : UInt64 :=
  let packetNumWin : UInt64 := 1 <<< UInt64.ofNat (8 * packetNumBytes)
  let packetNumHalfWin := packetNumWin >>> 1
  let mask := packetNumWin - 1
  let candidate := (expectedNextPacketNum &&& ~~~mask) ||| encodedPacketNum
  if expectedNextPacketNum > packetNumHalfWin ∧
      candidate ≤ expectedNextPacketNum - packetNumHalfWin ∧
      candidate < ((1 : UInt64) <<< 62) - packetNumWin then
    candidate + packetNumWin
  else if candidate > expectedNextPacketNum + packetNumHalfWin ∧ candidate ≥ packetNumWin then
    candidate - packetNumWin
  else candidate

/-- The packet number, and the number of its bytes. -/
def parsePacketNumber (initialByte : UInt8) (packetNumberRange : Bytes)
    (expectedNextPacketNum : UInt64) : UInt64 × Nat :=
  let packetNumLen := parsePacketNumberLength initialByte
  (decodePacketNumber (UInt64.ofNat (beNat (packetNumberRange.take packetNumLen))) packetNumLen
    expectedNextPacketNum, packetNumLen)

/-! ### Ciphers -/

/-- The mask that a header cipher makes of a sample. -/
structure PacketNumberCipher where
  mask : Bytes → Nat → UInt8

/-- The first byte and the four bytes at the packet number, without their protection. -/
def PacketNumberCipher.decipherHeader (cipher : PacketNumberCipher) (sample : Bytes)
    (initialByte : UInt8) (packetNumberBytes : Bytes) (initialByteMask : UInt8) : UInt8 × Bytes :=
  let headerMask := cipher.mask sample
  let initialByte := initialByte ^^^ (headerMask 0 &&& initialByteMask)
  let packetNumLength := parsePacketNumberLength initialByte
  (initialByte, (packetNumberBytes.take packetNumLength).mapIdx (fun i byte =>
    byte ^^^ headerMask (i + 1)) ++ packetNumberBytes.drop packetNumLength)

def LongHeader.kTypeBitsMask : UInt8 := 0x0f
def ShortHeader.kTypeBitsMask : UInt8 := 0x1f

/-- The payload that a key opens, for the sealed bytes, the associated data and the packet number. The
inner option is a null buffer. -/
structure Aead where
  tryDecrypt : Bytes → Bytes → UInt64 → Option Buf

def longHeaderTypeToProtectionType : LongHeaderType → ProtectionType
  | .initial | .retry => .initial
  | .handshake => .handshake
  | .zeroRtt => .zeroRtt

/-- The largest packet number that has been received, for each state that still exists. -/
structure ReceivedStates where
  initialAckState : Option (Option UInt64)
  handshakeAckState : Option (Option UInt64)
  appDataAckState : Option UInt64

/-- `zeroRttExpired`: the handshake is done, for longer than 0-RTT keys are kept. -/
structure QuicReadCodec where
  nodeType : QuicNodeType
  initialReadCipher : Option Aead
  initialHeaderCipher : Option PacketNumberCipher
  handshakeReadCipher : Option Aead
  handshakeHeaderCipher : Option PacketNumberCipher
  zeroRttReadCipher : Option Aead
  zeroRttHeaderCipher : Option PacketNumberCipher
  zeroRttExpired : Bool
  oneRttReadCipher : Option Aead
  oneRttHeaderCipher : Option PacketNumberCipher
  statelessResetToken : Option Bytes
  params : CodecParameters

/-! ### Results -/

inductive CodecResult where
  | nothing
  | retry (header : LongHeader) (integrityTag : Bytes) (initialByte : UInt8)
  | cipherUnavailable (packet : Bytes) (protectionType : ProtectionType)
  | statelessReset (token : Bytes)
  | regular (header : PacketHeader) (frames : List QuicFrame)

/-- What the checks of the parser are to rule out. -/
inductive ReadFault where
  | outOfBounds
  | lengthUnderflow
  | nullAckState
  deriving DecidableEq

/-- A packet, or the exception for its frames. -/
abbrev Received := Except ParseStop CodecResult

/-- What a pointer into a chain sees: the first element. -/
def Buf.front : Buf → Bytes
  | none => []
  | some buf => buf.head.data

/-- `n` bytes at `offset`, by pointer. -/
def readAt (data : Bytes) (offset n : Nat) : Except ReadFault Bytes :=
  if offset + n ≤ data.length then .ok ((data.drop offset).take n) else .error .outOfBounds

/-- The header is unprotected in place. -/
def unprotect (data : Bytes) (initialByte : UInt8) (packetNumberOffset : Nat)
    (packetNumberBytes : Bytes) : Bytes :=
  (initialByte :: data.tail).take packetNumberOffset ++
    (packetNumberBytes ++ data.drop (packetNumberOffset + packetNumberBytes.length))

def decodeFrames (c : QuicReadCodec) (header : PacketHeader) (decrypted : Buf) : Received :=
  let longHeader : Bool := match header with
    | .long _ => true
    | .short _ => false
  let packetData : Buf := if decrypted.isNone then some (.create 0) else decrypted
  match decodeRegularPacket { c.params with longHeader := longHeader } packetData with
  | .error e => .error e
  | .ok (frames, _) => .ok (.regular header frames)

/-! ### Long headers -/

def tryParseLongHeader (nodeType : QuicNodeType) : HeaderReader ParsedLongHeader := fun s =>
  match s with
  | [] => .error .protocolViolation
  | initialByte :: cursor =>
      match (parseLongHeaderInvariant initialByte).run cursor with
      | .error e => .error e
      | .ok (parsed, cursor) =>
          if parsed.invariant.version = .versionNegotiation then .error .protocolViolation
          else (parseLongHeaderVariants (parseLongHeaderType initialByte) parsed nodeType).run cursor

/-- A packet that has been split off, with its sample. -/
structure SplitPacket where
  parsedLongHeader : ParsedLongHeader
  packetNumberOffset : Nat
  currentPacketData : Buf
  sample : Bytes

inductive LongSplit where
  | done (result : CodecResult)
  | packet (split : SplitPacket)

/-- The first half of `parseLongHeaderPacket`: where a header cannot be parsed or a packet is too short,
the rest of the datagram goes with it. -/
def splitLongHeaderPacket (nodeType : QuicNodeType) (queue : BufQueue) :
    Except ReadFault (LongSplit × BufQueue) :=
  match queue.bytes with
  | [] => .error .outOfBounds
  | initialByte :: _ =>
      match (tryParseLongHeader nodeType).run queue.bytes with
      | .error _ => .ok (.done .nothing, queue.move.2)
      | .ok (parsed, cursor) =>
          if parsed.header.longHeaderType = .retry then
            if cursor.length < kRetryIntegrityTagLen then .error .outOfBounds
            else .ok (.done (.retry parsed.header (cursor.take kRetryIntegrityTagLen) initialByte),
              queue.move.2)
          else
            let packetNumberOffset := queue.bytes.length - cursor.length
            let currentPacketLen := packetNumberOffset + parsed.packetLength.packetLength
            if queue.chainLength < currentPacketLen then .ok (.done .nothing, queue.move.2)
            else
              let (data, rest) := queue.splitAtMost currentPacketLen
              if data.bytes.length < packetNumberOffset then .error .outOfBounds
              else if data.bytes.length < packetNumberOffset + kMaxPacketNumEncodingSize then
                .ok (.done .nothing, rest.move.2)
              else if data.bytes.length <
                  packetNumberOffset + kMaxPacketNumEncodingSize + sizeofSample then
                .ok (.done .nothing, rest.move.2)
              else .ok (.packet ⟨parsed, packetNumberOffset, data,
                (data.bytes.drop (packetNumberOffset + kMaxPacketNumEncodingSize)).take sizeofSample⟩,
                rest)

/-- The keys for a packet; `none` for a packet that is dropped on purpose. A long header has none of the
other types. -/
def QuicReadCodec.ciphers (c : QuicReadCodec) :
    ProtectionType → Option (Option PacketNumberCipher × Option Aead)
  | .initial =>
      if c.initialHeaderCipher.isNone then none
      else some (c.initialHeaderCipher, c.initialReadCipher)
  | .handshake => some (c.handshakeHeaderCipher, c.handshakeReadCipher)
  | .zeroRtt =>
      if c.zeroRttExpired then none else some (c.zeroRttHeaderCipher, c.zeroRttReadCipher)
  | .keyPhaseZero | .keyPhaseOne => none

def nextExpected : Option UInt64 → UInt64
  | none => 0
  | some largestRecvdPacketNum => 1 + largestRecvdPacketNum

def ReceivedStates.expectedNextPacketNum (ackStates : ReceivedStates) :
    ProtectionType → Except ReadFault UInt64
  | .initial => match ackStates.initialAckState with
      | none => .error .nullAckState
      | some largest => .ok (nextExpected largest)
  | .handshake => match ackStates.handshakeAckState with
      | none => .error .nullAckState
      | some largest => .ok (nextExpected largest)
  | .zeroRtt | .keyPhaseZero | .keyPhaseOne => .ok (nextExpected ackStates.appDataAckState)

/-- The packet number, the associated data and the sealed bytes. -/
structure Opened where
  packetNum : UInt64
  headerData : Bytes
  encryptedData : Bytes

/-- The number of sealed bytes is what the length says without the packet number. -/
def openLongHeader (headerCipher : PacketNumberCipher) (split : SplitPacket) (expected : UInt64) :
    Except ReadFault Opened := do
  let data := split.currentPacketData.front
  let first ← readAt data 0 1
  let packetNumberBytes ← readAt data split.packetNumberOffset kMaxPacketNumEncodingSize
  let (initialByte, packetNumberBytes) := headerCipher.decipherHeader split.sample (first.headD 0)
    packetNumberBytes LongHeader.kTypeBitsMask
  let (packetNum, packetNumLen) := parsePacketNumber initialByte packetNumberBytes expected
  let data := unprotect data initialByte split.packetNumberOffset packetNumberBytes
  let packetLength := split.parsedLongHeader.packetLength.packetLength
  if packetLength < packetNumLen then .error .lengthUnderflow
  else return ⟨packetNum, data.take (split.packetNumberOffset + packetNumLen),
    (data.drop (split.packetNumberOffset + packetNumLen)).take (packetLength - packetNumLen)⟩

/-- The second half of `parseLongHeaderPacket`. -/
def readLongHeaderPacket (c : QuicReadCodec) (ackStates : ReceivedStates) (split : SplitPacket) :
    Except ReadFault Received :=
  let header := split.parsedLongHeader.header
  let protectionType := longHeaderTypeToProtectionType header.longHeaderType
  match c.ciphers protectionType with
  | none => .ok (.ok .nothing)
  | some (some headerCipher, some cipher) => do
      let expected ← ackStates.expectedNextPacketNum protectionType
      let packet ← openLongHeader headerCipher split expected
      match cipher.tryDecrypt packet.encryptedData packet.headerData packet.packetNum with
      | none => return .ok .nothing
      | some decrypted =>
          return decodeFrames c (.long { header with packetSequenceNum := packet.packetNum }) decrypted
  | some _ => .ok (.ok (.cipherUnavailable split.currentPacketData.bytes protectionType))

def parseLongHeaderPacket (c : QuicReadCodec) (ackStates : ReceivedStates) (queue : BufQueue) :
    Except ReadFault (Received × BufQueue) := do
  let (split, rest) ← splitLongHeaderPacket c.nodeType queue
  match split with
  | .done result => return (.ok result, rest)
  | .packet split => do
      let received ← readLongHeaderPacket c ackStates split
      return (received, rest)

/-! ### Short headers -/

/-- The packet is all that is left of the datagram; `cursor` stands behind the first byte. -/
def tryParseShortHeaderPacket (c : QuicReadCodec) (headerCipher : PacketNumberCipher) (cipher : Aead)
    (ackStates : ReceivedStates) (data : Buf) (dstConnIdSize : Nat) (cursor : Bytes) :
    Except ReadFault Received :=
  let packetNumberOffset := 1 + dstConnIdSize
  let sampleOffset := packetNumberOffset + kMaxPacketNumEncodingSize
  if data.bytes.length < sampleOffset + sizeofSample then .ok (.ok .nothing)
  else do
    let first ← readAt data.front 0 1
    let packetNumberBytes ← readAt data.front packetNumberOffset kMaxPacketNumEncodingSize
    let sample ← readAt data.front sampleOffset sizeofSample
    let (initialByte, packetNumberBytes) := headerCipher.decipherHeader sample (first.headD 0)
      packetNumberBytes ShortHeader.kTypeBitsMask
    let (packetNum, packetNumLen) := parsePacketNumber initialByte packetNumberBytes
      (nextExpected ackStates.appDataAckState)
    match (parseShortHeader initialByte dstConnIdSize).run cursor with
    | .error _ => return .ok .nothing
    | .ok (shortHeader, _) =>
        if shortHeader.protectionType = .one then return .ok .nothing
        else do
          let data := unprotect data.front initialByte packetNumberOffset packetNumberBytes
          let headerData ← readAt data 0 (packetNumberOffset + packetNumLen)
          match cipher.tryDecrypt (data.drop (packetNumberOffset + packetNumLen)) headerData
            packetNum with
          | none => return .ok .nothing
          | some decrypted =>
              return decodeFrames c (.short { shortHeader with packetSequenceNum := packetNum })
                decrypted

/-- A client looks for its token at the end of the packet. -/
def resetToken (c : QuicReadCodec) (initialByte : UInt8) (data : Buf) :
    Except ReadFault (Option Bytes) :=
  if c.nodeType = .client ∧ initialByte &&& kFixedBitMask ≠ 0 then
    match c.statelessResetToken with
    | none => .ok none
    | some token =>
        if data.front.length > kStatelessResetTokenLength then do
          let tokenSource ← readAt data.front (data.front.length - kStatelessResetTokenLength)
            kStatelessResetTokenLength
          return if tokenSource = token then some tokenSource else none
        else .ok none
  else .ok none

/-- What `parsePacket` does with the rest of the datagram behind a short header. -/
def readShortHeaderPacket (c : QuicReadCodec) (ackStates : ReceivedStates) (initialByte : UInt8)
    (data : Buf) (dstConnIdSize : Nat) (cursor : Bytes) : Except ReadFault Received :=
  match c.oneRttHeaderCipher, c.oneRttReadCipher with
  | some headerCipher, some cipher => do
      let token ← resetToken c initialByte data
      let packet ← tryParseShortHeaderPacket c headerCipher cipher ackStates data dstConnIdSize cursor
      match token, packet with
      | some token, .ok .nothing => return .ok (.statelessReset token)
      | _, _ => return packet
  | _, _ => .ok (.ok (.cipherUnavailable data.bytes .keyPhaseZero))

def parsePacket (c : QuicReadCodec) (ackStates : ReceivedStates) (dstConnIdSize : Nat)
    (queue : BufQueue) : Except ReadFault (Received × BufQueue) :=
  if queue.empty then .ok (.ok .nothing, queue)
  else
    match queue.bytes with
    | [] => .ok (.ok .nothing, queue)
    | initialByte :: cursor =>
        match getHeaderForm initialByte with
        | .long => parseLongHeaderPacket c ackStates queue
        | .short => do
            let received ← readShortHeaderPacket c ackStates initialByte queue.move.1 dstConnIdSize
              cursor
            return (received, queue.move.2)

end MasqueQuic
